import CodeHealth.Go.Functions
import Mathlib.Data.Set.Card

/-!
# Where the decisions of a Go function are

The complexity of a function is computed by a walk over its body that turns back at function
literals. Here it is told from the nodes themselves, each given by its address: the indices of the
children on the way down to it. A decision counts when no node on this way is a function literal.
What stands in a function literal is therefore of no account to the function around it.

* `Tree.at?` — the node at an address;
* `Tree.decisionPlaces` — the addresses of the decisions that count;
* `Tree.encard_decisionPlaces` — there are as many as the walk counts;
* `Tree.replaceAt` — the tree with another one at an address;
* `Tree.complexity_replaceAt` — other function literals leave the complexity as it is;
* `functionMeasures_count_decisionPlaces` — what is reported for a source.
-/

namespace CodeHealth.Go

namespace Tree

/-! ### Addresses -/

/-- The node of a tree at an `address`, if there is one: the way down is given by the index of a
child for each level. -/
def at? : Tree → List Nat → Option Tree
  | t, [] => some t
  | t, i :: path => t.children[i]?.bind fun child => child.at? path

/-- A node at `i :: path` is one at `path` in the child of index `i`. So facts about `at?` go by
induction on the address. -/
theorem at?_cons_eq_some_iff {t found : Tree} {i : Nat} {path : List Nat} :
    t.at? (i :: path) = some found ↔
      ∃ child, t.children[i]? = some child ∧ child.at? path = some found := by
  rw [at?, Option.bind_eq_some_iff]

/-- The kinds of nodes that are decisions by `isDecision`, as a list that statements can refer
to. -/
def decisionKinds : List Kind :=
  [.ifStatement, .forStatement, .expressionCase, .typeCase, .communicationCase, .typeSwitch,
    .selectStatement, .binary .andAlso, .binary .orElse]

/-- The walk asks `isDecision` of a node; this is the same as to have one of the `decisionKinds`. -/
theorem isDecision_iff {t : Tree} : t.isDecision = true ↔ t.kind ∈ decisionKinds := by
  unfold isDecision decisionKinds
  split <;> simp_all

/-- The addresses of the decisions of a tree that are not inside of a function literal: no node on
the way down to the decision is one, that is at no `front` of its `path`. -/
def decisionPlaces (t : Tree) : Set (List Nat) :=
  {path | (∃ node, t.at? path = some node ∧ node.kind ∈ decisionKinds) ∧
    ∀ front, front <+: path → ∀ node, t.at? front = some node → node.kind ≠ .functionLiteral}

section Places

variable {kind : Kind} {line : Nat} {children : List Tree}

theorem decisionPlaces_literal :
    (node .functionLiteral line children).decisionPlaces = ∅ := by
  refine Set.eq_empty_of_forall_notMem fun path hpath => ?_
  exact hpath.2 [] (List.nil_prefix) _ rfl rfl

/-- A node that is no function literal counts itself iff it has one of the `decisionKinds`. -/
theorem nil_mem_decisionPlaces (hkind : kind ≠ .functionLiteral) :
    [] ∈ (node kind line children).decisionPlaces ↔ kind ∈ decisionKinds := by
  constructor
  · rintro ⟨⟨found, hfound, hdecision⟩, -⟩
    obtain rfl := Option.some.inj hfound
    exact hdecision
  · intro hdecision
    refine ⟨⟨_, rfl, hdecision⟩, fun front hfront found hfound => ?_⟩
    rw [List.prefix_nil.mp hfront] at hfound
    obtain rfl := Option.some.inj hfound
    exact hkind

/-- Below a node that is no function literal (`hkind`), the `decisionPlaces` are those of its
children, each behind the index of the child. -/
theorem cons_mem_decisionPlaces (hkind : kind ≠ .functionLiteral) {i : Nat} {path : List Nat} :
    i :: path ∈ (node kind line children).decisionPlaces ↔
      ∃ child, children[i]? = some child ∧ path ∈ child.decisionPlaces := by
  constructor
  · rintro ⟨⟨found, hfound, hdecision⟩, hway⟩
    obtain ⟨child, hchild, hfound⟩ := at?_cons_eq_some_iff.mp hfound
    refine ⟨child, hchild, ⟨found, hfound, hdecision⟩, fun front hfront above habove => ?_⟩
    exact hway (i :: front) (List.cons_prefix_cons.mpr ⟨rfl, hfront⟩) above
      (at?_cons_eq_some_iff.mpr ⟨child, hchild, habove⟩)
  · rintro ⟨child, hchild, ⟨found, hfound, hdecision⟩, hway⟩
    refine ⟨⟨found, at?_cons_eq_some_iff.mpr ⟨child, hchild, hfound⟩, hdecision⟩, ?_⟩
    intro front hfront above habove
    -- On the way there is the node itself, or else a node on the way below the child.
    cases front with
    | nil =>
      obtain rfl := Option.some.inj habove
      exact hkind
    | cons j front =>
      obtain ⟨rfl, hbelow⟩ := List.cons_prefix_cons.mp hfront
      obtain ⟨child', hchild', habove⟩ := at?_cons_eq_some_iff.mp habove
      obtain rfl : child = child' := Option.some.inj (hchild.symm.trans hchild')
      exact hway front hbelow above habove

end Places

/-! ### Counting -/

/-- The addresses of decisions that count in some trees, the index of the tree first. For the
children of a node these are its `decisionPlaces`. -/
def placesAmong (trees : List Tree) : Set (List Nat) :=
  {place | ∃ i path t, place = i :: path ∧ trees[i]? = some t ∧ path ∈ t.decisionPlaces}

/-- The `address` of the same place with one more tree in front: its first index is one higher. -/
def behindOne : List Nat → List Nat := List.modifyHead (· + 1)

theorem behindOne_injective : Function.Injective behindOne := by
  rintro (_ | ⟨i, path⟩) (_ | ⟨j, path'⟩) h <;> simp_all [behindOne]

/-- The places in several trees are those in the first one, with the index 0, and those in the
others, moved by `behindOne`. -/
theorem placesAmong_cons (t : Tree) (rest : List Tree) :
    placesAmong (t :: rest)
      = List.cons 0 '' t.decisionPlaces ∪ behindOne '' placesAmong rest := by
  ext place
  constructor
  · rintro ⟨i, path, found, rfl, hfound, hpath⟩
    cases i with
    | zero =>
      obtain rfl : t = found := Option.some.inj hfound
      exact .inl ⟨path, hpath, rfl⟩
    | succ i => exact .inr ⟨i :: path, ⟨i, path, found, rfl, hfound, hpath⟩, rfl⟩
  · rintro (⟨path, hpath, rfl⟩ | ⟨_, ⟨i, path, found, rfl, hfound, hpath⟩, rfl⟩)
    · exact ⟨0, path, t, rfl, rfl, hpath⟩
    · exact ⟨i + 1, path, found, rfl, hfound, hpath⟩

/-- A place in the first tree has the index 0, and one that is moved by `behindOne` has not, so the
two parts of `placesAmong_cons` have nothing in common. -/
theorem not_mem_behindOne {t : Tree} {rest : List Tree} {place : List Nat}
    (h : place ∈ List.cons 0 '' t.decisionPlaces) : place ∉ behindOne '' placesAmong rest := by
  obtain ⟨path, -, rfl⟩ := h
  rintro ⟨_, ⟨i, path', found, rfl, -, -⟩, hplace⟩
  simp [behindOne] at hplace

/-- The decisions that count in a node other than a function literal are the node itself, if it is
one, and those of its children (`placesAmong`). -/
theorem decisionPlaces_node {kind : Kind} (hkind : kind ≠ .functionLiteral) (line : Nat)
    (children : List Tree) :
    (node kind line children).decisionPlaces
      = {place | place = [] ∧ kind ∈ decisionKinds} ∪ placesAmong children := by
  ext place
  cases place with
  | nil =>
    rw [nil_mem_decisionPlaces hkind]
    simp [placesAmong]
  | cons i path =>
    rw [cons_mem_decisionPlaces hkind]
    simp [placesAmong]

mutual

/-- **As many decisions count as the walk finds**: `decisionPlaces` has `t.decisions` members, by
recursion over the tree as in the definition of `decisions`. -/
theorem encard_decisionPlaces : ∀ t : Tree, t.decisionPlaces.encard = t.decisions
  | node kind line children => by
    by_cases hkind : kind = .functionLiteral
    · subst hkind
      rw [decisionPlaces_literal, decisions, if_pos rfl]
      exact Set.encard_empty
    · have hdisjoint : Disjoint {place | place = [] ∧ kind ∈ decisionKinds}
          (placesAmong children) := by
        rw [Set.disjoint_left]
        rintro _ ⟨rfl, -⟩ ⟨i, path, t, h, -, -⟩
        cases h
      rw [decisionPlaces_node hkind, Set.encard_union_eq hdisjoint, encard_placesAmong children,
        decisions, if_neg hkind, Nat.cast_add]
      congr 1
      -- The node itself counts one if it is a decision.
      have hself : (node kind line children).isDecision = true ↔ kind ∈ decisionKinds :=
        isDecision_iff
      by_cases hdecision : kind ∈ decisionKinds
      · rw [if_pos (hself.mpr hdecision)]
        simp [hdecision]
      · rw [if_neg (mt hself.mp hdecision)]
        simp [hdecision]

/-- The same for several trees, by `placesAmong_cons`. -/
theorem encard_placesAmong : ∀ trees : List Tree, (placesAmong trees).encard = decisionsAll trees
  | [] => by simp [placesAmong, decisionsAll]
  | t :: rest => by
    rw [placesAmong_cons, Set.encard_union_eq (Set.disjoint_left.mpr fun _ => not_mem_behindOne),
      List.cons_injective.encard_image, behindOne_injective.encard_image, encard_decisionPlaces t,
      encard_placesAmong rest, decisionsAll, Nat.cast_add]

end

/-- So a tree has finitely many decisions that count, and they can be counted by `ncard`. -/
theorem finite_decisionPlaces (t : Tree) : t.decisionPlaces.Finite :=
  Set.finite_of_encard_eq_coe t.encard_decisionPlaces

/-- The addresses, in the body of a declaration, of the decisions that count (`decisionPlaces`).
There are none when there is no body. -/
def bodyDecisions (t : Tree) : Set (List Nat) :=
  {path | ∃ body, t.body? = some body ∧ path ∈ body.decisionPlaces}

/-- The complexity of a declaration is one more than the number of its `bodyDecisions`. -/
theorem complexity_eq_ncard (t : Tree) :
    t.bodyDecisions.Finite ∧ t.complexity = 1 + t.bodyDecisions.ncard := by
  unfold complexity bodyDecisions
  cases t.body? with
  | none => simp
  | some body =>
    have hsame : {path | ∃ found, some body = some found ∧ path ∈ found.decisionPlaces}
        = body.decisionPlaces := by
      ext path
      simp
    rw [hsame, Set.ncard, body.encard_decisionPlaces]
    exact ⟨body.finite_decisionPlaces, rfl⟩

/-! ### Other function literals -/

/-- The tree with the tree `new` at an address. Nothing changes if there is no such address. -/
def replaceAt : Tree → List Nat → Tree → Tree
  | _, [], new => new
  | node kind line children, i :: path, new =>
    node kind line (children.modify i fun child => child.replaceAt path new)

section Replace

variable {t literal new : Tree} {path : List Nat}

theorem children_replaceAt_cons (t : Tree) (i : Nat) (path : List Nat) (new : Tree) :
    (t.replaceAt (i :: path) new).children
      = t.children.modify i fun child => child.replaceAt path new := by
  cases t with
  | node kind line children => rfl

/-- Replacing a node by one of its kind leaves the kind of the whole tree as it is, also at the
address `[]` of the tree itself. -/
theorem kind_replaceAt (hat : t.at? path = some literal) (hkind : new.kind = literal.kind) :
    (t.replaceAt path new).kind = t.kind := by
  cases t with
  | node kind line children =>
    cases path with
    | nil =>
      obtain rfl := Option.some.inj hat
      exact hkind
    | cons i path => rfl

/-- What `g` reads off the children one by one stays, when a child is replaced by another from which
the same is read (`h`). -/
theorem map_modify_eq {β : Type} {g : Tree → β} {f : Tree → Tree} {i : Nat}
    {children : List Tree} {child : Tree} (hchild : children[i]? = some child)
    (h : g (f child) = g child) : (children.modify i f).map g = children.map g := by
  refine List.ext_getElem? fun j => ?_
  rw [List.getElem?_map, List.getElem?_map, List.getElem?_modify]
  by_cases hij : i = j
  · subst hij
    simp [hchild, h]
  · simp [hij]

/-- The walk turns back at a function literal: it has no `decisions`. -/
theorem decisions_of_literal (h : t.kind = .functionLiteral) : t.decisions = 0 := by
  cases t with
  | node kind line children =>
    rw [decisions]
    exact if_pos h

/-- `decisionsAll` is the sum of `decisions` over the trees. -/
theorem decisionsAll_eq_sum (trees : List Tree) :
    decisionsAll trees = (trees.map decisions).sum := by
  induction trees with
  | nil => rfl
  | cons t rest ih => rw [decisionsAll, ih, List.map_cons, List.sum_cons]

/-- One function literal in place of another leaves the number of decisions as it is, at any address
`path`: what lies inside of a literal is not counted from outside, whatever it is. -/
theorem decisions_replaceAt (hat : t.at? path = some literal)
    (hliteral : literal.kind = .functionLiteral) (hnew : new.kind = .functionLiteral) :
    (t.replaceAt path new).decisions = t.decisions := by
  -- By induction on the way down; on each level one child is replaced.
  induction path generalizing t with
  | nil =>
    obtain rfl := Option.some.inj hat
    rw [replaceAt, decisions_of_literal hnew, decisions_of_literal hliteral]
  | cons i path ih =>
    cases t with
    | node kind line children =>
      obtain ⟨child, hchild, hat⟩ := at?_cons_eq_some_iff.mp hat
      have hsame : (children.modify i fun child => child.replaceAt path new).map decisions
          = children.map decisions := map_modify_eq hchild (ih hat)
      rw [replaceAt, decisions, decisions, decisionsAll_eq_sum, decisionsAll_eq_sum, hsame]
      rfl

/-- The complexity is read off the first block among the children, so that it can be compared child
by child (`map_modify_eq`). -/
theorem complexity_eq_findSome? (t : Tree) :
    t.complexity = 1 + (((t.children.map fun child =>
      if child.kind = .block then some child.decisions else none).findSome? id).getD 0) := by
  have hbody : t.body?.map decisions = (t.children.map fun child =>
      if child.kind = .block then some child.decisions else none).findSome? id := by
    unfold body? child?
    induction t.children with
    | nil => rfl
    | cons child rest ih => by_cases h : child.kind = .block <;> simp [h, ih]
  rw [← hbody, complexity]
  cases t.body? <;> rfl

/-- **Function literals are of no account.** The `complexity` of a declaration stays when a function
literal anywhere below it is replaced by another one (`replaceAt`). -/
theorem complexity_replaceAt {i : Nat} (hat : t.at? (i :: path) = some literal)
    (hliteral : literal.kind = .functionLiteral) (hnew : new.kind = .functionLiteral) :
    (t.replaceAt (i :: path) new).complexity = t.complexity := by
  obtain ⟨child, hchild, hat⟩ := at?_cons_eq_some_iff.mp hat
  rw [complexity_eq_findSome?, complexity_eq_findSome?, children_replaceAt_cons,
    map_modify_eq hchild]
  rw [kind_replaceAt hat (hnew.trans hliteral.symm), decisions_replaceAt hat hliteral hnew]

theorem declaresFunction_iff {t : Tree} : t.declaresFunction = true ↔
    t.kind = .functionDeclaration ∨ t.kind = .methodDeclaration := by
  unfold declaresFunction
  split <;> simp_all

/-- The complexities of the functions of a file, read off its children one by one, again for
`map_modify_eq`. -/
theorem map_complexity_declarations (t : Tree) :
    t.declarations.map complexity = (t.children.map fun child =>
      if child.declaresFunction then some child.complexity else none).filterMap id := by
  unfold declarations
  induction t.children with
  | nil => rfl
  | cons child rest ih => by_cases h : child.declaresFunction <;> simp [h, ih]

/-- The same as `complexity_replaceAt` for all functions of a file at once, wherever in the file the
literal stands. -/
theorem complexities_replaceAt {i : Nat} (hat : t.at? (i :: path) = some literal)
    (hliteral : literal.kind = .functionLiteral) (hnew : new.kind = .functionLiteral) :
    (t.replaceAt (i :: path) new).declarations.map complexity
      = t.declarations.map complexity := by
  obtain ⟨child, hchild, hat⟩ := at?_cons_eq_some_iff.mp hat
  have hkind := kind_replaceAt hat (hnew.trans hliteral.symm)
  have hdeclares : (child.replaceAt path new).declaresFunction = child.declaresFunction := by
    rw [declaresFunction, declaresFunction, hkind]
  rw [map_complexity_declarations, map_complexity_declarations, children_replaceAt_cons,
    map_modify_eq hchild]
  rw [hdeclares]
  cases path with
  | nil =>
    -- The literal stands at the top of the file, where it is no declaration.
    obtain rfl := Option.some.inj hat
    have hnone : child.declaresFunction = false := by rw [declaresFunction, hliteral]
    rw [hnone]
    rfl
  | cons j path => rw [complexity_replaceAt hat hliteral hnew]

end Replace

end Tree

/-- **Exact complexity of Go functions.** For every source that can be read, with the tree `t`:
there is one record for each function or method declaration at the top of the file, in their order,
and its complexity is one more than the number of nodes in the body of the declaration that are
decisions and have no function literal on the way down to them, themselves included
(`bodyDecisions`). Hence it stays when any function literal below is replaced by another one
(`replaceAt`), in this tree or any other. -/
theorem functionMeasures_count_decisionPlaces :
    (∀ (file : String) (source : List Char) (t : Tree), parse? source = some t →
      functionMeasures file source
        = (t.children.filter fun d =>
            d.kind = .functionDeclaration ∨ d.kind = .methodDeclaration).map
          fun d => ⟨file, d.qualifiedName, d.line, 1 + d.bodyDecisions.ncard⟩) ∧
    (∀ d : Tree, d.bodyDecisions.Finite) ∧
    ∀ (t literal new : Tree) (i : Nat) (path : List Nat), t.at? (i :: path) = some literal →
      literal.kind = .functionLiteral → new.kind = .functionLiteral →
      (t.replaceAt (i :: path) new).complexity = t.complexity ∧
        (t.replaceAt (i :: path) new).declarations.map Tree.complexity
          = t.declarations.map Tree.complexity := by
  refine ⟨?_, fun d => d.complexity_eq_ncard.1, ?_⟩
  · intro file source t hparse
    have hkinds : t.declarations = t.children.filter fun d =>
        d.kind = .functionDeclaration ∨ d.kind = .methodDeclaration :=
      List.filter_congr fun d _ => by
        rw [Bool.eq_iff_iff, Tree.declaresFunction_iff, decide_eq_true_eq]
    rw [functionMeasures, hparse, ← hkinds]
    refine List.map_congr_left fun d _ => ?_
    rw [Tree.functionMeasure, d.complexity_eq_ncard.2]
  · intro t literal new i path hat hliteral hnew
    exact ⟨Tree.complexity_replaceAt hat hliteral hnew,
      Tree.complexities_replaceAt hat hliteral hnew⟩

end CodeHealth.Go

namespace CodeHealth.Sample

open Go

/-- A function with a decision, in which a function literal with another decision is started. -/
def closureSource : List Char := "func f(){if a{go func(){for{}}()}}".toList

/-- The function literal of `closureSource`. -/
def closure : Tree :=
  .node .functionLiteral 1
    [.node .parameterList 1 [], .node .block 1 [.node .forStatement 1 [.node .block 1 []]]]

/-- A function literal with two decisions in it, to be put in the place of `closure`. -/
def otherClosure : Tree :=
  .node .functionLiteral 1 [.node .block 1
    [.node .selectStatement 1 [.node .communicationCase 1 []]]]

/-- The function around `closure`. -/
def closureFunction : Tree :=
  .node .functionDeclaration 1 [.node (.identifier "f") 1 [], .node .parameterList 1 [],
    .node .block 1 [.node .ifStatement 1 [.node (.identifier "a") 1 [],
      .node .block 1 [.node .goStatement 1 [.node .call 1 [closure, .node .arguments 1 []]]]]]]

set_option maxRecDepth 4000 in
/-- The text `closureSource` is read as a file with the function `closureFunction` in it. -/
theorem parse?_closureSource : parse? closureSource = some (.node .file 1 [closureFunction]) := by
  cbv

/-- The decision of `closure` does not count for the function around it, and nor do those of
`otherClosure` in its place. -/
theorem closures_of_no_account :
    parse? closureSource = some (.node .file 1 [closureFunction]) ∧
      functionMeasures "a.go" closureSource
        = [⟨"a.go", "f", 1, 1 + closureFunction.bodyDecisions.ncard⟩] ∧
      closureFunction.at? [2, 0, 1, 0, 0, 0] = some closure ∧
      (closureFunction.replaceAt [2, 0, 1, 0, 0, 0] otherClosure).complexity = 2 := by
  obtain ⟨hmeasures, -, hreplace⟩ := functionMeasures_count_decisionPlaces
  have hat : closureFunction.at? [2, 0, 1, 0, 0, 0] = some closure := rfl
  refine ⟨parse?_closureSource, ?_, hat, ?_⟩
  · exact hmeasures "a.go" closureSource _ parse?_closureSource
  · exact (hreplace closureFunction closure otherClosure 2 _ hat rfl rfl).1

end CodeHealth.Sample
