import CodeHealth.Go.References

/-!
# What a walk over a syntax tree visits

A walk moves a cursor through the tree and visits the node in focus. A node is told from others by
its address, the indices of the children on the way down to it. What is still to come at a cursor is
told by the cursor alone: the node in focus with all below it, and then, level by level on the way
up, the siblings to the right. Every move takes one node off the front of this list, so a walk from
the root visits the nodes of the tree in order, parents first.

* `Tree.located` — the nodes of a tree with their addresses, in order;
* `Cursor.ahead` — the nodes still to come at a cursor, with their addresses;
* `Cursor.Walk` — the cursors of a walk, one after the other;
* `Cursor.exists_walk`, `Cursor.Walk.map_eq_ahead` — a walk ends, and its cursors stand at what is
  to come;
* `Tree.fold_eq_foldl`, `Tree.collect_eq_filterMap` — the walks from the root;
* `Tree.mem_allCalledNames` — the names that calls anywhere in a tree refer to.
-/

namespace CodeHealth.Go

/-! ### Nodes and their addresses -/

namespace Tree

/-- A node of a tree that is itself found at an `address`. -/
def under (address : List Nat) (e : List Nat × Tree) : List Nat × Tree := (address ++ e.1, e.2)

theorem under_comp_under (address inner : List Nat) :
    under address ∘ under inner = under (address ++ inner) := by
  funext e
  simp [under]

/-- `under` changes addresses only. -/
theorem map_snd_map_under (address : List Nat) (nodes : List (List Nat × Tree)) :
    (nodes.map (under address)).map Prod.snd = nodes.map Prod.snd := by
  rw [List.map_map]
  rfl

mutual

/-- The nodes of a tree with their addresses, in `preorder`: each node before its children, the
children from left to right. -/
def located : Tree → List (List Nat × Tree)
  | node kind line children => ([], node kind line children) :: locatedFrom 0 children

/-- The nodes of several trees, whose addresses start with the index of the tree, the first tree
having the index `i`. -/
def locatedFrom (i : Nat) : List Tree → List (List Nat × Tree)
  | [] => []
  | t :: rest => t.located.map (under [i]) ++ locatedFrom (i + 1) rest

end

mutual

/-- Without the addresses, `located` is the `preorder` of the tree. -/
theorem map_snd_located : ∀ t : Tree, t.located.map Prod.snd = t.preorder
  | node kind line children => by
    rw [located, preorder, List.map_cons, map_snd_locatedFrom 0 children]

/-- Without the addresses, `locatedFrom i` is the `preorderAll` of the trees, whatever `i` is: the
index only counts for the addresses. -/
theorem map_snd_locatedFrom (i : Nat) :
    ∀ trees : List Tree, (locatedFrom i trees).map Prod.snd = preorderAll trees
  | [] => rfl
  | t :: rest => by
    rw [locatedFrom, preorderAll, List.map_append, map_snd_map_under, map_snd_located t,
      map_snd_locatedFrom (i + 1) rest]

end

end Tree

namespace Cursor

open CodeHealth.Go.Tree

/-- The address of what lies below these levels: for every level, how many children were passed. -/
def addressOf : List Level → List Nat
  | [] => []
  | level :: above => addressOf above ++ [level.before.length]

/-- The address of the node in focus of the cursor `c`. -/
def address (c : Cursor) : List Nat := addressOf c.above

/-- The nodes still to come on the levels above, with their addresses: those below the siblings to
the right, from the innermost level to the outermost. -/
def aheadAbove : List Level → List (List Nat × Tree)
  | [] => []
  | level :: above =>
    (locatedFrom (level.before.length + 1) level.after).map (under (addressOf above))
      ++ aheadAbove above

/-- The nodes still to come at a cursor with their addresses, the one in focus first, then those
that are `aheadAbove`. -/
def ahead (c : Cursor) : List (List Nat × Tree) :=
  c.focus.located.map (under c.address) ++ aheadAbove c.above

variable {c d p : Cursor}

/-! ### Moves -/

/-- Going down by `firstChild?` takes the node in focus off what is `ahead`. -/
theorem ahead_of_firstChild? (h : c.firstChild? = some d) :
    c.ahead = (c.address, c.focus) :: d.ahead := by
  obtain ⟨⟨kind, line, children⟩, above⟩ := c
  cases children with
  | nil => cases h
  | cons t rest =>
    obtain rfl := Option.some.inj h
    simp [ahead, aheadAbove, address, addressOf, located, locatedFrom, under_comp_under, under]

theorem located_of_firstChild?_eq_none (h : c.firstChild? = none) :
    c.focus.located = [([], c.focus)] := by
  obtain ⟨⟨kind, line, children⟩, above⟩ := c
  cases children with
  | nil => simp [located, locatedFrom]
  | cons t rest => cases h

/-- Going to the right by `nextSibling?` takes the node in focus and all below it off what is
`ahead`. -/
theorem aheadAbove_of_nextSibling? (h : c.nextSibling? = some d) :
    aheadAbove c.above = d.ahead := by
  obtain ⟨focus, above⟩ := c
  match above, h with
  | ⟨kind, line, before, t :: after⟩ :: above, h =>
    obtain rfl := Option.some.inj h
    simp [ahead, aheadAbove, address, addressOf, locatedFrom, under_comp_under]

/-- Going up by `parent?` after the last child changes nothing about what is to come above. -/
theorem aheadAbove_of_parent? (hs : c.nextSibling? = none) (hp : c.parent? = some p) :
    aheadAbove c.above = aheadAbove p.above := by
  obtain ⟨focus, above⟩ := c
  match above, hs, hp with
  | ⟨kind, line, before, []⟩ :: above, hs, hp =>
    obtain rfl := Option.some.inj hp
    simp [aheadAbove, locatedFrom]

theorem aheadAbove_of_root (hp : c.parent? = none) : aheadAbove c.above = [] := by
  obtain ⟨focus, above⟩ := c
  cases above with
  | nil => rfl
  | cons level above => cases hp

/-- Going on by `advance?` leads to the next node that is to come above, if there is one. The
induction follows the levels that `advance?` goes up. -/
theorem aheadAbove_eq (c : Cursor) : aheadAbove c.above = (c.advance?.map ahead).getD [] := by
  fun_induction advance? c with
  | case1 c next hn => exact aheadAbove_of_nextSibling? hn
  | case2 c hn parent hp ih => rw [aheadAbove_of_parent? hn hp, ih]
  | case3 c hn hp => exact aheadAbove_of_root hp

/-- At a node without children, the node itself is `ahead` and then what is to come above. -/
theorem ahead_of_leaf (h : c.firstChild? = none) :
    c.ahead = (c.address, c.focus) :: (c.advance?.map ahead).getD [] := by
  rw [ahead, located_of_firstChild?_eq_none h, aheadAbove_eq]
  simp [under]

/-! ### Walks -/

/-- The cursors of a walk, one after the other. After each visit the walk goes down, or else on to
the next node that does not lie below (`advance?`), and ends when there is none. -/
inductive Walk : Cursor → List Cursor → Prop where
  | down {c d : Cursor} {stops : List Cursor} (hchild : c.firstChild? = some d)
      (hrest : Walk d stops) : Walk c (c :: stops)
  | on {c d : Cursor} {stops : List Cursor} (hleaf : c.firstChild? = none)
      (hnext : c.advance? = some d) (hrest : Walk d stops) : Walk c (c :: stops)
  | last {c : Cursor} (hleaf : c.firstChild? = none) (hend : c.advance? = none) : Walk c [c]

/-- **A walk visits what is `ahead`, in order**, by induction on the `Walk`. -/
theorem Walk.map_eq_ahead {stops : List Cursor} (h : Walk c stops) :
    stops.map (fun d => (d.address, d.focus)) = c.ahead := by
  induction h with
  | down hchild _ ih => rw [List.map_cons, ih, ahead_of_firstChild? hchild]
  | on hleaf hnext _ ih => rw [List.map_cons, ih, ahead_of_leaf hleaf, hnext]; rfl
  | last hleaf hend => rw [ahead_of_leaf hleaf, hend]; rfl

/-- Every walk ends, and what `fold` gives is what the visits give one after the other. -/
theorem exists_walk {β : Type} (visit : β → Tree → β) (init : β) (c : Cursor) :
    ∃ stops, Walk c stops ∧ c.fold visit init = (stops.map focus).foldl visit init := by
  fun_induction fold visit init c with
  | case1 init c visited child hf ih =>
    obtain ⟨stops, hwalk, hfold⟩ := ih
    exact ⟨c :: stops, .down hf hwalk, hfold⟩
  | case2 init c visited hf next ha ih =>
    obtain ⟨stops, hwalk, hfold⟩ := ih
    exact ⟨c :: stops, .on hf ha hwalk, hfold⟩
  | case3 init c visited hf ha => exact ⟨[c], .last hf ha, rfl⟩

theorem map_focus_eq (stops : List Cursor) :
    stops.map focus = (stops.map fun d => (d.address, d.focus)).map Prod.snd := by
  rw [List.map_map]
  rfl

/-- At the root all nodes of the tree (`located`) are `ahead`. -/
theorem ahead_root (t : Tree) : (root t).ahead = t.located := by
  have hunder : under [] = id := by
    funext e
    simp [under]
  simp [ahead, aheadAbove, root, address, addressOf, hunder]

end Cursor

namespace Tree

/-- **A fold over a tree by a cursor is one over its `preorder`.** -/
theorem fold_eq_foldl {β : Type} (visit : β → Tree → β) (init : β) (t : Tree) :
    t.fold visit init = t.preorder.foldl visit init := by
  obtain ⟨stops, hwalk, hfold⟩ := Cursor.exists_walk visit init (Cursor.root t)
  rw [fold, hfold, Cursor.map_focus_eq, hwalk.map_eq_ahead, Cursor.ahead_root, map_snd_located]

/-- A fold that puts what the nodes give (`select`) in front, one after the other, gives it in
reverse, in front of what was `found` before. -/
theorem foldl_toList_append {α : Type} (select : Tree → Option α) {visit : List α → Tree → List α}
    (hvisit : ∀ found node, visit found node = (select node).toList ++ found) (nodes : List Tree)
    (found : List α) : nodes.foldl visit found = (nodes.filterMap select).reverse ++ found := by
  induction nodes generalizing found with
  | nil => rfl
  | cons node nodes ih =>
    rw [List.foldl_cons, ih, hvisit]
    cases hselect : select node with
    | none => simp [hselect]
    | some a => simp [hselect]

/-- What `collect` takes from a tree is what the nodes of its `preorder` give, in order. -/
theorem collect_eq_filterMap {α : Type} (select : Tree → Option α) (t : Tree) :
    t.collect select = t.preorder.filterMap select := by
  rw [collect, fold_eq_foldl, foldl_toList_append select, List.append_nil, List.reverse_reverse]
  intro found node
  cases select node <;> rfl

/-- A name is referred to (`allCalledNames`) iff a call somewhere in the tree refers to it. -/
theorem mem_allCalledNames {t : Tree} {name : String} :
    name ∈ t.allCalledNames ↔ ∃ node ∈ t.preorder, name ∈ node.calledNames := by
  have hfound : ∀ (nodes : List Tree) (found : List String),
      name ∈ nodes.foldl (fun found node => node.calledNames ++ found) found ↔
        (∃ node ∈ nodes, name ∈ node.calledNames) ∨ name ∈ found := by
    intro nodes
    induction nodes with
    | nil => intro found; simp
    | cons node nodes ih =>
      intro found
      rw [List.foldl_cons, ih, List.mem_append]
      simp only [List.mem_cons, exists_eq_or_imp]
      exact or_left_comm.trans or_assoc.symm
  rw [allCalledNames, fold_eq_foldl, hfound]
  exact or_iff_left List.not_mem_nil

end Tree

end CodeHealth.Go
