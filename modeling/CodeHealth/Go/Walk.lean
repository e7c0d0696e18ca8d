import CodeHealth.Go.Tree

/-!
# Walking a syntax tree

A cursor stands at a node and remembers the way back: for every node above, the children already
passed and the children still to come. It moves to the first child, to the next sibling and to the
parent.

`Tree.fold` visits every node of a tree through a cursor, parents first. The number of nodes still
to come falls with every step, so the walk ends.
-/

namespace CodeHealth.Go

/-- One level of the way back to the root: the parent without the child in focus, with the children
`before` it in reverse and the children `after` it. -/
structure Cursor.Level where
  /-- What the parent is. -/
  kind : Kind
  /-- The line the parent starts on. -/
  line : Nat
  /-- The children already passed, the last one first. -/
  before : List Tree
  /-- The children still to come. -/
  after : List Tree

/-- A place in a tree: the node in `focus`, and the way back to the root. -/
structure Cursor where
  /-- The node in focus, with all below it. -/
  focus : Tree
  /-- The levels above, the nearest first. -/
  above : List Cursor.Level

mutual

/-- The number of nodes of a tree, by which `Cursor.fold` ends. -/
def Tree.size : Tree → Nat
  | .node _ _ children => Tree.sizeAll children + 1

/-- The number of nodes of several trees, added up (`Tree.size`). -/
def Tree.sizeAll : List Tree → Nat
  | [] => 0
  | t :: rest => t.size + Tree.sizeAll rest

end

/-- A tree `t` has a node at least. -/
theorem Tree.size_pos (t : Tree) : 0 < t.size := by
  cases t with
  | node kind line children => simp [Tree.size]

namespace Cursor

/-- The nodes below the levels above that are still to come, counted by `Tree.size`. -/
def pendingAbove : List Level → Nat
  | [] => 0
  | level :: rest => Tree.sizeAll level.after + pendingAbove rest

/-- The nodes still to come at the cursor `c`, the one in focus included. -/
def pending (c : Cursor) : Nat := c.focus.size + pendingAbove c.above

/-- The cursor at the root of a tree `t`. -/
def root (t : Tree) : Cursor := ⟨t, []⟩

/-- The cursor at the first child of the node in focus of `c`. -/
def firstChild? (c : Cursor) : Option Cursor :=
  match c.focus with
  | .node _ _ [] => none
  | .node kind line (t :: rest) => some ⟨t, ⟨kind, line, [], rest⟩ :: c.above⟩

/-- The cursor at the sibling after the node in focus of `c`. -/
def nextSibling? (c : Cursor) : Option Cursor :=
  match c.above with
  | ⟨kind, line, before, t :: after⟩ :: above =>
    some ⟨t, ⟨kind, line, c.focus :: before, after⟩ :: above⟩
  | _ => none

/-- The cursor at the parent of the node in focus of `c`. -/
def parent? (c : Cursor) : Option Cursor :=
  match c.above with
  | ⟨kind, line, before, after⟩ :: above =>
    some ⟨.node kind line (before.reverse ++ c.focus :: after), above⟩
  | [] => none

/-- The parent lies one level higher, so `advance?` ends. -/
theorem above_parent? {c p : Cursor} (h : c.parent? = some p) :
    p.above.length < c.above.length := by
  obtain ⟨focus, above⟩ := c
  cases above with
  | nil => simp [parent?] at h
  | cons level above =>
    simp only [parent?, Option.some.injEq] at h
    subst h
    simp

/-- The next node that does not lie below the one in focus of `c`: the nearest sibling to the right
of it or of a node above it. -/
def advance? (c : Cursor) : Option Cursor :=
  match c.nextSibling? with
  | some next => some next
  | none =>
    match _h : c.parent? with
    | some parent => advance? parent
    | none => none
termination_by c.above.length
decreasing_by exact above_parent? _h

/-- At the first child, the parent is no longer `pending`. -/
theorem pending_firstChild? {c d : Cursor} (h : c.firstChild? = some d) :
    d.pending < c.pending := by
  obtain ⟨⟨kind, line, children⟩, above⟩ := c
  cases children with
  | nil => simp [firstChild?] at h
  | cons t rest =>
    simp only [firstChild?, Option.some.injEq] at h
    subst h
    simp [pending, pendingAbove, Tree.size, Tree.sizeAll]
    omega

/-- At the next sibling, what lies below the node before it is no longer `pending`. -/
theorem pending_nextSibling? {c d : Cursor} (h : c.nextSibling? = some d) :
    d.pending + c.focus.size = c.pending := by
  obtain ⟨focus, above⟩ := c
  match above, h with
  | ⟨kind, line, before, t :: after⟩ :: above, h =>
    simp only [nextSibling?, Option.some.injEq] at h
    subst h
    simp [pending, pendingAbove, Tree.sizeAll]
    omega

/-- After the last child (`hs`), as much is to come above the parent as above the child. -/
theorem pendingAbove_parent? {c p : Cursor} (hs : c.nextSibling? = none)
    (hp : c.parent? = some p) : pendingAbove p.above = pendingAbove c.above := by
  obtain ⟨focus, above⟩ := c
  match above, hs, hp with
  | ⟨kind, line, before, []⟩ :: above, hs, hp =>
    simp only [parent?, Option.some.injEq] at hp
    subst hp
    simp [pendingAbove, Tree.sizeAll]

/-- Going on by `advance?` leaves at most what is to come above the node in focus. -/
theorem pending_advance? (c : Cursor) :
    ∀ d, c.advance? = some d → d.pending ≤ pendingAbove c.above := by
  fun_induction advance? c with
  | case1 c next hn =>
    intro d h
    simp only [Option.some.injEq] at h
    subst h
    have hsize := pending_nextSibling? hn
    have hpending : c.pending = c.focus.size + pendingAbove c.above := rfl
    omega
  | case2 c hn parent hp ih =>
    intro d h
    have hle := ih d h
    rw [pendingAbove_parent? hn hp] at hle
    exact hle
  | case3 c hn hp =>
    intro d h
    cases h

/-- Visits the node in focus of `c` and every node still to come by `visit`, in the order of the
source. -/
def fold {β : Type} (visit : β → Tree → β) (init : β) (c : Cursor) : β :=
  let visited := visit init c.focus
  match _hf : c.firstChild? with
  | some child => fold visit visited child
  | none =>
    -- Below a leaf there is nothing, so the walk goes on behind it.
    match _ha : c.advance? with
    | some next => fold visit visited next
    | none => visited
termination_by c.pending
decreasing_by
  · exact pending_firstChild? _hf
  · have hle := pending_advance? c next _ha
    have hpos := Tree.size_pos c.focus
    simp only [pending] at hle ⊢
    omega

end Cursor

/-- Visits every node of a tree `t` by `visit`, parents first and children from left to right. -/
def Tree.fold {β : Type} (visit : β → Tree → β) (init : β) (t : Tree) : β :=
  (Cursor.root t).fold visit init

/-- The nodes of a tree `t` for which `select` gives something, and what it gives, in source
order. -/
def Tree.collect {α : Type} (select : Tree → Option α) (t : Tree) : List α :=
  (t.fold (fun found node =>
    match select node with
    | some a => a :: found
    | none => found) []).reverse

end CodeHealth.Go
