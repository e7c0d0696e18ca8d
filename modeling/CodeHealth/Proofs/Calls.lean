import CodeHealth.Proofs.Preorder
import CodeHealth.Proofs.References

/-!
# Functions of Go that nothing calls

An index of Go files holds the last declaration of each exported function and the names of all
calls. A call by a selector is taken up under two names, its field and the field behind the operand.
As names have no dots, the first of them is the last part of the second: a key that is called is
also called by its last part, and looking up the last part alone would do.

* `Tree.Calls` — a node is a call by some name;
* `CallIndex.lastSegment_mem_called` — what is called, is called by its last part;
* `CallIndex.mem_called_iff` — the names called are those of identifiers and of fields;
* `CallIndex.unused_exact_and_ordered` — the exact meaning of the report.
-/

namespace CodeHealth

open CodeHealth.Text

namespace Go

/-! ### Nodes of a tree -/

namespace Tree

variable {t node child : Tree} {name : String}

/-- A tree is the first node of its `preorder`. -/
theorem mem_preorder_self (t : Tree) : t ∈ t.preorder := by
  cases t with
  | node kind line children => exact List.mem_cons_self

/-- The nodes of `preorderAll trees` are those in the `preorder` of one of the `trees`. -/
theorem mem_preorderAll {trees : List Tree} :
    node ∈ preorderAll trees ↔ ∃ t ∈ trees, node ∈ t.preorder := by
  induction trees with
  | nil => simp [preorderAll]
  | cons t rest ih => simp [preorderAll, ih]

mutual

/-- What is directly below a node of `t` is a node of `t` too, by recursion over `t` together with
`child_mem_preorderAll` for its children. -/
theorem child_mem_preorder : ∀ t : Tree, node ∈ t.preorder → child ∈ node.children →
    child ∈ t.preorder
  | .node kind line children, hnode, hchild => by
    rw [preorder, List.mem_cons] at hnode ⊢
    rcases hnode with rfl | hnode
    · exact .inr (mem_preorderAll.mpr ⟨child, hchild, mem_preorder_self child⟩)
    · exact .inr (child_mem_preorderAll children hnode hchild)

theorem child_mem_preorderAll : ∀ trees : List Tree, node ∈ preorderAll trees →
    child ∈ node.children → child ∈ preorderAll trees
  | [], hnode, _ => absurd hnode List.not_mem_nil
  | t :: rest, hnode, hchild => by
    rw [preorderAll, List.mem_append] at hnode ⊢
    exact hnode.imp (fun h => child_mem_preorder t h hchild)
      (fun h => child_mem_preorderAll rest h hchild)

end

/-! ### Calls -/

/-- A node is a call by `name`: of the identifier with this name, or of a selector whose field has
it, whatever the operand is. -/
inductive Calls (name : String) : Tree → Prop where
  | identifier (line line' : Nat) (below rest : List Tree) :
    Calls name (.node .call line (.node (.identifier name) line' below :: rest))
  | field (line line' line'' : Nat) (operand : Tree) (below rest : List Tree) :
    Calls name (.node .call line
      (.node .selector line' [operand, .node (.identifier name) line'' below] :: rest))

/-- No identifier of `t` has a dot in it, as is so of every tree that is read from a source. This is
what makes the last part of a key its declared name. -/
def HasPlainNames (t : Tree) : Prop :=
  ∀ node ∈ t.preorder, ∀ name ∈ node.identifierName?, '.' ∉ name.toList

instance (t : Tree) : Decidable t.HasPlainNames :=
  inferInstanceAs (Decidable (∀ node ∈ t.preorder, ∀ name ∈ node.identifierName?, _))

/-- A call by `name` is taken up under it by `calledNames`, in both cases of `Calls`. -/
theorem Calls.mem_calledNames (h : Calls name t) : name ∈ t.calledNames := by
  cases h with
  | identifier line line' below rest => exact List.mem_cons_self
  | field line line' line'' operand below rest =>
    simp only [calledNames]
    split <;> exact List.mem_cons_self

end Tree

namespace CallIndex

variable {files : List (String × Tree)} {name key : String} {t node : Tree} {r : UnusedFunction}

/-- A name without a dot is its own `lastSegment`. -/
theorem lastSegment_plain (h : '.' ∉ name.toList) : lastSegment name = name := by
  rw [lastSegment, afterLast_eq_self h, String.ofList_toList]

/-- The `lastSegment` of a method's key, the name of its owner and a dot before its own, is that
name. -/
theorem lastSegment_qualified (owner : String) (h : '.' ∉ name.toList) :
    lastSegment (owner ++ "." ++ name) = name := by
  rw [lastSegment, String.append_assoc, String.toList_append, String.toList_append]
  exact (congrArg String.ofList (afterLast_append _ h)).trans String.ofList_toList

/-- Whatever `key` a call is taken up under, its field or the field behind the operand, the
`lastSegment` of it is the name of the call. -/
theorem calls_lastSegment (hplain : t.HasPlainNames) (hnode : node ∈ t.preorder)
    (h : key ∈ node.calledNames) : node.Calls (lastSegment key) := by
  unfold Tree.calledNames at h
  -- The two forms of a call in turn: by an identifier, and by a selector, which is taken up twice
  -- if its operand has a name.
  split at h
  · rename_i line name line' below rest
    obtain rfl := List.mem_singleton.mp h
    have hfunction := Tree.child_mem_preorder t hnode List.mem_cons_self
    rw [lastSegment_plain (hplain _ hfunction key rfl)]
    exact .identifier line line' below rest
  · rename_i line line' operand name line'' below rest
    have hfunction := Tree.child_mem_preorder t hnode List.mem_cons_self
    have hfield := Tree.child_mem_preorder t hfunction (List.mem_cons_of_mem _ List.mem_cons_self)
    have hname : '.' ∉ name.toList := hplain _ hfield name rfl
    have hlast : lastSegment key = name := by
      split at h
      · rcases List.mem_pair.mp h with rfl | rfl
        · exact lastSegment_plain hname
        · exact lastSegment_qualified _ hname
      · rw [List.mem_singleton.mp h]
        exact lastSegment_plain hname
    rw [hlast]
    exact .field line line' line'' operand below rest
  · cases h

/-! ### What is called in some files -/

/-- Some node of some file is a call by `name`, in the sense of `Calls`. Function literals are
searched like everything else. -/
def CalledIn (files : List (String × Tree)) (name : String) : Prop :=
  ∃ f ∈ files, ∃ node ∈ f.2.preorder, node.Calls name

/-- The name of a call in some file is `called` in the index of `files`. -/
theorem mem_called_of_calledIn (h : CalledIn files name) : name ∈ (ofFiles files).called := by
  obtain ⟨f, hf, node, hnode, hcalls⟩ := h
  exact mem_called_ofFiles.mpr
    ⟨f, hf, Tree.mem_allCalledNames.mpr ⟨node, hnode, hcalls.mem_calledNames⟩⟩

/-- The `lastSegment` of every key that is `called` in the index is the name of a call. -/
theorem calledIn_lastSegment (hplain : ∀ f ∈ files, f.2.HasPlainNames)
    (h : key ∈ (ofFiles files).called) : CalledIn files (lastSegment key) := by
  obtain ⟨f, hf, hname⟩ := mem_called_ofFiles.mp h
  obtain ⟨node, hnode, hcalled⟩ := Tree.mem_allCalledNames.mp hname
  exact ⟨f, hf, node, hnode, calls_lastSegment (hplain f hf) hnode hcalled⟩

/-- **What is called, is called by its last part**: in files with plain names, a key that is
`called` in the index is so by its `lastSegment` too. -/
theorem lastSegment_mem_called (hplain : ∀ f ∈ files, f.2.HasPlainNames)
    (h : key ∈ (ofFiles files).called) : lastSegment key ∈ (ofFiles files).called :=
  mem_called_of_calledIn (calledIn_lastSegment hplain h)

/-- The names without dots that are `called` in the index are the names of calls (`CalledIn`). -/
theorem mem_called_iff (hplain : ∀ f ∈ files, f.2.HasPlainNames) (hname : '.' ∉ name.toList) :
    name ∈ (ofFiles files).called ↔ CalledIn files name := by
  constructor
  · intro h
    have hcalled := calledIn_lastSegment hplain h
    rwa [lastSegment_plain hname] at hcalled
  · exact mem_called_of_calledIn

/-! ### What is declared in some files -/

/-- The functions and methods that `files` declare, in order, each with the name of its file. -/
def declarationsIn (files : List (String × Tree)) : List (String × Tree) :=
  files.flatMap fun f => f.2.declarations.map fun d => (f.1, d)

/-- The record of a declaration: its file, its key, which is the `qualifiedName`, and its line. -/
def record (declared : String × Tree) : UnusedFunction :=
  ⟨declared.1, declared.2.qualifiedName, declared.2.line⟩

/-- A record `r` of the last declaration of its key, where this is a function that is exported and
no entry point. Of declarations with one key only the last counts, whichever file it stands in. -/
def IsLatest (files : List (String × Tree)) (r : UnusedFunction) : Prop :=
  ∃ before declared after, declarationsIn files = before ++ declared :: after ∧
    r = record declared ∧ isExported declared.2.declaredName = true ∧
    isEntryPoint declared.2.declaredName = false ∧
    ∀ later ∈ after, later.2.qualifiedName ≠ declared.2.qualifiedName

/-- Whether a declaration is taken up into the `CallIndex`: it is exported and no entry point. -/
def isTakenUp (declared : String × Tree) : Bool :=
  !isEntryPoint declared.2.declaredName && isExported declared.2.declaredName

/-- `isTakenUp` as the two conditions of `IsLatest`. -/
theorem isTakenUp_iff (declared : String × Tree) : isTakenUp declared = true ↔
    isEntryPoint declared.2.declaredName = false ∧ isExported declared.2.declaredName = true := by
  rw [isTakenUp, Bool.and_eq_true, Bool.not_eq_true']

/-- What `files` declare, as the index takes it up, are the records of `declarationsIn` for which
`isTakenUp` holds. -/
theorem declaredIn_eq_map (files : List (String × Tree)) :
    declaredIn files = ((declarationsIn files).filter isTakenUp).map record := by
  unfold declaredIn declarationsIn
  rw [List.filter_flatMap, List.map_flatMap]
  congr 1
  funext f
  rw [exportedBy, List.filter_map, List.map_map]
  rfl

/-- In a tree with plain names no `declaredName` has a dot: it is the name of an identifier, or
empty. -/
theorem declaredName_plain (hplain : t.HasPlainNames) {d : Tree} (hd : d ∈ t.declarations) :
    '.' ∉ d.declaredName.toList := by
  have hchild : d ∈ t.preorder :=
    Tree.child_mem_preorder t t.mem_preorder_self (List.mem_filter.mp hd).1
  unfold Tree.declaredName
  cases hname : d.children.findSome? Tree.identifierName? with
  | none => decide
  | some name =>
    obtain ⟨child, hmem, hidentifier⟩ := List.exists_of_findSome?_eq_some hname
    exact hplain child (Tree.child_mem_preorder t hchild hmem) name hidentifier

/-- The `lastSegment` of the key of a declaration is its `declaredName`, which has no dot. This is
where `HasPlainNames` counts: a dot in a name would move the last segment into it. -/
theorem lastSegment_of_mem_declarationsIn (hplain : ∀ f ∈ files, f.2.HasPlainNames)
    {declared : String × Tree} (h : declared ∈ declarationsIn files) :
    '.' ∉ declared.2.declaredName.toList ∧
      lastSegment declared.2.qualifiedName = declared.2.declaredName := by
  obtain ⟨f, hf, hdeclared⟩ := List.mem_flatMap.mp h
  obtain ⟨d, hd, rfl⟩ := List.mem_map.mp hdeclared
  have hname := declaredName_plain (hplain f hf) hd
  exact ⟨hname, lastSegment_qualifiedName hname⟩

/-- **What is in the index**: the records of the last declaration of each key, where it is taken up
(`IsLatest`). -/
theorem mem_exported_iff (hplain : ∀ f ∈ files, f.2.HasPlainNames) :
    r ∈ (ofFiles files).exported ↔ IsLatest files r := by
  rw [exported_ofFiles, mem_latestOf_iff, declaredIn_eq_map]
  constructor
  · rintro ⟨before, after, heq, hafter⟩
    obtain ⟨front, back, hall, -, hback⟩ := List.map_eq_append_iff.mp heq
    obtain ⟨declared, back, rfl, rfl, rfl⟩ := List.map_eq_cons_iff.mp hback
    obtain ⟨first, rest, hdeclared, -, hrest⟩ := List.filter_eq_append_iff.mp hall
    obtain ⟨passed, later, rfl, -, htaken, rfl⟩ := List.filter_eq_cons_iff.mp hrest
    have hmem : ∀ d ∈ declared :: later, d ∈ declarationsIn files := by
      intro d hd
      rw [hdeclared]
      exact List.mem_append_right _ (List.mem_append_right _ hd)
    obtain ⟨hentry, hexported⟩ := (isTakenUp_iff declared).mp htaken
    refine ⟨first ++ passed, declared, later, by rw [hdeclared, List.append_assoc], rfl, hexported,
      hentry, fun d hd hkey => ?_⟩
    -- A later declaration of the same key has the same name, so it would be taken up too.
    have hname : d.2.declaredName = declared.2.declaredName := by
      rw [← (lastSegment_of_mem_declarationsIn hplain (hmem d (.tail _ hd))).2, hkey,
        (lastSegment_of_mem_declarationsIn hplain (hmem declared (.head _))).2]
    have htaken' : isTakenUp d = true := by
      rw [isTakenUp_iff, hname]
      exact ⟨hentry, hexported⟩
    exact hafter _ (List.mem_map_of_mem (List.mem_filter.mpr ⟨hd, htaken'⟩)) hkey
  · rintro ⟨before, declared, after, heq, rfl, hexported, hentry, hafter⟩
    have htaken := (isTakenUp_iff declared).mpr ⟨hentry, hexported⟩
    refine ⟨(before.filter isTakenUp).map record, (after.filter isTakenUp).map record, ?_, ?_⟩
    · rw [heq, List.filter_append, List.filter_cons, if_pos htaken, List.map_append, List.map_cons]
    · intro b hb
      obtain ⟨later, hlater, rfl⟩ := List.mem_map.mp hb
      exact hafter later (List.mem_filter.mp hlater).1

/-! ### The report -/

/-- No key is in the index twice, as `latestOf` keeps one record for each. -/
theorem pairwise_exported (files : List (String × Tree)) :
    (ofFiles files).exported.Pairwise fun a b => a.name ≠ b.name := by
  rw [exported_ofFiles]
  exact pairwise_latestOf _ _

/-- Looking up the `lastSegment` of a key is enough, because of `lastSegment_mem_called`: a call by
the whole key is also a call by its last segment. -/
theorem unused_eq_sorted (hplain : ∀ f ∈ files, f.2.HasPlainNames) :
    (ofFiles files).unused = UnusedFunction.sorted ((ofFiles files).exported.filter fun f =>
      !(ofFiles files).called.contains (lastSegment f.name)) := by
  rw [unused]
  congr 1
  refine List.filter_congr fun f _ => ?_
  by_cases hkey : f.name ∈ (ofFiles files).called
  · simp [hkey, lastSegment_mem_called hplain hkey]
  · simp [hkey]

/-- **The exact report.** For Go files without dots in their names (`HasPlainNames`), taken up in
any order, the report `(ofFiles files).unused`

* is in strict order of file, line and name (`Precedes`), and no name is in it twice;
* holds the last declaration of each key of an exported function that is no entry point
  (`IsLatest`), where no node of any file, inside function literals or not, is a call of an
  identifier or of a field with the last part of the key for its name (`CalledIn`);
* would be the same if keys were looked up by their last part alone. -/
theorem unused_exact_and_ordered (files : List (String × Tree))
    (hplain : ∀ f ∈ files, f.2.HasPlainNames) :
    let index := ofFiles files
    index.unused.Pairwise UnusedFunction.Precedes ∧
      index.unused.Pairwise (fun a b => a.name ≠ b.name) ∧
      (∀ r, r ∈ index.unused ↔ IsLatest files r ∧ ¬ CalledIn files (lastSegment r.name)) ∧
      index.unused = UnusedFunction.sorted
        (index.exported.filter fun f => !index.called.contains (lastSegment f.name)) := by
  intro index
  have hnames := (pairwise_exported files).filter fun f =>
    !index.called.contains f.name && !index.called.contains (lastSegment f.name)
  refine ⟨UnusedFunction.sorted_precedes hnames, UnusedFunction.sorted_names hnames, ?_,
    unused_eq_sorted hplain⟩
  intro r
  rw [unused_eq_sorted hplain, (UnusedFunction.sorted_perm _).mem_iff, List.mem_filter,
    mem_exported_iff hplain]
  -- On what is in the index, the two ways to look up a call agree.
  refine and_congr_right fun hlatest => ?_
  obtain ⟨before, declared, after, heq, rfl, -, -, -⟩ := hlatest
  have hdeclared : declared ∈ declarationsIn files := by
    rw [heq]
    exact List.mem_append_right _ List.mem_cons_self
  obtain ⟨hname, hlast⟩ := lastSegment_of_mem_declarationsIn hplain hdeclared
  have hlast' : lastSegment (record declared).name = declared.2.declaredName := hlast
  rw [hlast', ← mem_called_iff hplain hname]
  simp

end CallIndex

end Go

namespace Sample

open Go Go.CallIndex

/-- A Go file that declares a method and a function. -/
def server : Tree :=
  .node .file 1 [
    .node .methodDeclaration 3 [
      .node .parameterList 3 [.node .parameter 3 [.node (.typeName "Server") 3 []]],
      .node (.identifier "Run") 3 []],
    .node .functionDeclaration 5 [.node (.identifier "Idle") 5 []]]

/-- A Go file that declares the function of `server` again and calls the method inside a function
literal. -/
def client : Tree :=
  .node .file 1 [
    .node .functionDeclaration 2 [.node (.identifier "Idle") 2 [],
      .node .functionLiteral 2 [.node .call 4 [.node .selector 4 [
        .node (.identifier "s") 4 [], .node (.identifier "Run") 4 []]]]]]

/-- The files `server` and `client`, in the order they are taken up. -/
def served : List (String × Tree) := [("a.go", server), ("b.go", client)]

/-- Of the files `served`, the function is reported where it is declared last. The method is not: it
is called by its field, although not behind the name of its receiver's type. -/
theorem idle_reported_run_called :
    (∀ f ∈ served, f.2.HasPlainNames) ∧
      ⟨"b.go", "Idle", 2⟩ ∈ (ofFiles served).unused ∧
      ⟨"a.go", "Idle", 5⟩ ∉ (ofFiles served).unused ∧
      "Server.Run" ∉ (ofFiles served).unused.map UnusedFunction.name := by
  have hplain : ∀ f ∈ served, f.2.HasPlainNames := by decide
  obtain ⟨-, hnames, hmem, -⟩ := unused_exact_and_ordered served hplain
  have hidle : ⟨"b.go", "Idle", 2⟩ ∈ (ofFiles served).unused := by
    refine (hmem _).mpr ⟨⟨_, _, [], rfl, rfl, by decide, by decide, ?_⟩, ?_⟩
    · exact fun later hlater => absurd hlater List.not_mem_nil
    · intro hcalled
      exact absurd (mem_called_of_calledIn hcalled) (by decide +kernel)
  refine ⟨hplain, hidle, ?_, ?_⟩
  · intro hearlier
    have hnodup : ((ofFiles served).unused.map UnusedFunction.name).Nodup :=
      List.pairwise_map.mpr hnames
    exact absurd (List.inj_on_of_nodup_map hnodup hidle hearlier rfl) (by decide)
  · intro hrun
    obtain ⟨r, hr, hname⟩ := List.mem_map.mp hrun
    refine ((hmem r).mp hr).2 ?_
    rw [hname]
    exact (mem_called_iff hplain (by decide)).mp (by decide +kernel)

end Sample

end CodeHealth
