import CodeHealth.Proofs.DecisionPlaces
import CodeHealth.Proofs.Preorder

/-!
# A walk visits every node once

Parents first and children from left to right: this is the order of addresses as words, where a word
comes before the longer ones that start with it. A walk from the root of a tree ends, and the
addresses of its stops are all addresses of the tree in this order, so that it comes to every node
exactly once.

* `Tree.mem_located_iff` — the nodes of a tree are those found at its addresses;
* `Tree.pairwise_located` — they are listed in the order of their addresses;
* `Cursor.Walk.eq_of_walk` — from a cursor there is one walk only;
* `Tree.walk_visits_each_node_once` — the walk from the root.
-/

namespace CodeHealth.Go

namespace Tree

/-! ### All addresses -/

/-- What lies `under [i]` has an address that starts with `i`, and below it the address that it had
before. -/
theorem mem_map_under {i : Nat} {nodes : List (List Nat × Tree)} {address : List Nat}
    {found : Tree} : (address, found) ∈ nodes.map (under [i]) ↔
      ∃ path, address = i :: path ∧ (path, found) ∈ nodes := by
  rw [List.mem_map]
  constructor
  · rintro ⟨⟨path, t⟩, hmem, heq⟩
    obtain ⟨rfl, rfl⟩ := Prod.mk.inj heq
    exact ⟨path, rfl, hmem⟩
  · rintro ⟨path, rfl, hmem⟩
    exact ⟨(path, found), hmem, rfl⟩

mutual

/-- **The nodes of a tree are what is found at its addresses**: `located` lists exactly what `at?`
finds. -/
theorem mem_located_iff : ∀ (t : Tree) (address : List Nat) (found : Tree),
    (address, found) ∈ t.located ↔ t.at? address = some found
  | node kind line children, address, found => by
    rw [located, List.mem_cons, mem_locatedFrom_iff 0 children]
    cases address with
    | nil =>
      -- Below the children no address is empty.
      simp [at?, eq_comm]
    | cons j path =>
      rw [at?_cons_eq_some_iff]
      simp [Tree.children]

/-- The same for several trees, of which the tree `j` has addresses that start with `i + j`. -/
theorem mem_locatedFrom_iff (i : Nat) : ∀ (trees : List Tree) (address : List Nat) (found : Tree),
    (address, found) ∈ locatedFrom i trees ↔
      ∃ j path t, address = (i + j) :: path ∧ trees[j]? = some t ∧ t.at? path = some found
  | [], address, found => by simp [locatedFrom]
  | t :: rest, address, found => by
    rw [locatedFrom, List.mem_append, mem_map_under, mem_locatedFrom_iff (i + 1) rest]
    simp only [mem_located_iff t]
    constructor
    · -- The first tree has the index `i`, and those of the rest are one higher.
      rintro (⟨path, haddress, hat⟩ | ⟨j, path, t', haddress, htree, hat⟩)
      · exact ⟨0, path, t, haddress, rfl, hat⟩
      · refine ⟨j + 1, path, t', ?_, htree, hat⟩
        rw [haddress, Nat.add_right_comm, Nat.add_assoc]
    · rintro ⟨j, path, t', haddress, htree, hat⟩
      cases j with
      | zero =>
        obtain rfl := Option.some.inj htree
        exact .inl ⟨path, haddress, hat⟩
      | succ j =>
        refine .inr ⟨j, path, t', ?_, htree, hat⟩
        rw [haddress, Nat.add_right_comm, Nat.add_assoc]

end

/-! ### The order of addresses -/

mutual

/-- **Nodes are listed by `located` in the order of their addresses**, strictly. -/
theorem pairwise_located : ∀ t : Tree, t.located.Pairwise fun a b => a.1 < b.1
  | node kind line children => by
    rw [located, List.pairwise_cons]
    refine ⟨?_, pairwise_locatedFrom 0 children⟩
    rintro ⟨address, found⟩ hmem
    obtain ⟨j, path, t, rfl, -⟩ := (mem_locatedFrom_iff 0 children address found).mp hmem
    exact List.nil_lt_cons _ _

/-- The same for `locatedFrom`, where later trees have greater addresses, since their first index is
greater. -/
theorem pairwise_locatedFrom (i : Nat) :
    ∀ trees : List Tree, (locatedFrom i trees).Pairwise fun a b => a.1 < b.1
  | [] => List.Pairwise.nil
  | t :: rest => by
    rw [locatedFrom, List.pairwise_append]
    refine ⟨?_, pairwise_locatedFrom (i + 1) rest, ?_⟩
    · rw [List.pairwise_map]
      apply (pairwise_located t).imp
      intro a b hab
      exact List.cons_lt_cons_iff.mpr (.inr ⟨rfl, hab⟩)
    · -- The addresses of a later tree start with a greater index.
      rintro ⟨first, node⟩ hfirst ⟨second, later⟩ hsecond
      obtain ⟨path, rfl, -⟩ := mem_map_under.mp hfirst
      obtain ⟨j, path', t', rfl, -⟩ := (mem_locatedFrom_iff (i + 1) rest second later).mp hsecond
      apply List.cons_lt_cons_iff.mpr
      left
      omega

end

end Tree

/-! ### The walk from the root -/

/-- From a cursor `c` there is one `Walk` only. -/
theorem Cursor.Walk.eq_of_walk {c : Cursor} {stops other : List Cursor} (h : Walk c stops)
    (hother : Walk c other) : other = stops := by
  -- What a cursor has below and after it decides which constructor `hother` ends in.
  induction h generalizing other with
  | down hchild _ ih =>
    cases hother with
    | down hchild' hrest =>
      obtain rfl := Option.some.inj (hchild.symm.trans hchild')
      rw [ih hrest]
    | on hleaf | last hleaf => simp [hchild] at hleaf
  | on hleaf hnext _ ih =>
    cases hother with
    | on hleaf' hnext' hrest =>
      obtain rfl := Option.some.inj (hnext.symm.trans hnext')
      rw [ih hrest]
    | down hchild => simp [hleaf] at hchild
    | last hleaf' hend => simp [hnext] at hend
  | last hleaf hend =>
    cases hother with
    | last => rfl
    | down hchild => simp [hleaf] at hchild
    | on hleaf' hnext => simp [hend] at hnext

/-- **A walk over a tree visits every node exactly once, in order.** There is one `Walk` from the
root. Its `stops` are at all addresses of the tree and at no other, each time with the node found
there by `at?`, and an address always comes before those below it and those further to the right. So
the visits of `fold` go through the nodes of the tree in `preorder`, parents first and children from
left to right, and then end. -/
theorem Tree.walk_visits_each_node_once (t : Tree) :
    ∃ stops : List Cursor,
      (∀ other, Cursor.Walk (Cursor.root t) other ↔ other = stops) ∧
      (stops.map Cursor.address).Pairwise (· < ·) ∧
      (∀ address node, t.at? address = some node ↔
        ∃ c ∈ stops, c.address = address ∧ c.focus = node) ∧
      stops.map Cursor.focus = t.preorder ∧
      ∀ (β : Type) (visit : β → Tree → β) (init : β),
        t.fold visit init = (stops.map Cursor.focus).foldl visit init := by
  obtain ⟨stops, hwalk, -⟩ := Cursor.exists_walk (fun _ _ => ()) () (Cursor.root t)
  have hlocated : stops.map (fun c => (c.address, c.focus)) = t.located := by
    rw [hwalk.map_eq_ahead, Cursor.ahead_root]
  have hfocus : stops.map Cursor.focus = t.preorder := by
    rw [Cursor.map_focus_eq, hlocated, map_snd_located]
  refine ⟨stops, fun other => ⟨hwalk.eq_of_walk, fun hsame => hsame ▸ hwalk⟩, ?_, ?_, hfocus, ?_⟩
  · have hordered := t.pairwise_located
    rw [← hlocated, List.pairwise_map] at hordered
    exact List.pairwise_map.mpr hordered
  · intro address node
    rw [← mem_located_iff, ← hlocated, List.mem_map]
    simp only [Prod.mk.injEq]
  · intro β visit init
    rw [hfocus, fold_eq_foldl]

end CodeHealth.Go
