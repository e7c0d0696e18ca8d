import CodeHealth.Text.Class
import Std.Data.HashSet

/-!
# Patterns in a line of text

A pattern describes stretches of a line. The places where such a stretch can end are listed in order
of preference: the first alternative before the second, and as many repetitions as possible. A
search takes the leftmost start, and the preferred end for it.

What follows a place depends on its position only. So of several ways to one position the preferred
one is kept, and many starts are followed at once.

* `Pattern` and its combinators build patterns;
* `Pattern.ends` lists the places where a match from given places can end;
* `Pattern.find?` and `Pattern.findAll` search a line.
-/

namespace CodeHealth

open CodeHealth.Text

/-- A pattern for a stretch of a line. Where it fits in several ways, one of them is preferred:
`ends` gives the preferred one first. -/
inductive Pattern where
  /-- The empty stretch. -/
  | empty
  /-- One character of a class. -/
  | one (accepts : Char → Bool)
  /-- One pattern after the other. -/
  | seq (first second : Pattern)
  /-- The first pattern, or else the second. -/
  | alt (first second : Pattern)
  /-- Any number of repetitions, as many as possible. -/
  | star (body : Pattern)
  /-- The pattern, whose stretch is remembered under a number. -/
  | group (index : Nat) (body : Pattern)
  /-- The empty stretch at the start of the line. -/
  | start
  /-- The empty stretch between a word character and something else. -/
  | boundary

namespace Pattern

instance : Append Pattern := ⟨seq⟩

instance : OrOp Pattern := ⟨alt⟩

/-- Exactly the text `s`. -/
def text (s : String) : Pattern := s.toList.foldr (fun c rest => one (· == c) ++ rest) empty

/-- The first of these texts that fits, in the order given, by `alt`. -/
def texts : List String → Pattern
  | [] => one fun _ => false
  | [s] => text s
  | s :: rest => text s ||| texts rest

/-- One repetition of `p` or more, as many as possible. -/
def plus (p : Pattern) : Pattern := p ++ star p

/-- The pattern `p`, or else nothing. -/
def opt (p : Pattern) : Pattern := p ||| empty

/-- Any character but a line feed, which no line has: `one` with hardly a condition. -/
def any : Pattern := one fun c => c != '\n'

/-- A white-space character (`isSpace`). -/
def space : Pattern := one isSpace

/-- A character that is not white space (`isSpace`). -/
def nonSpace : Pattern := one fun c => !isSpace c

/-- White space that may be missing: any number of `space`. -/
def spaces : Pattern := star space

/-- White space, at least one `space`. -/
def gap : Pattern := plus space

/-- A word character (`isWord`). -/
def wordChar : Pattern := one isWord

/-- A word: one `wordChar` or more. -/
def word : Pattern := plus wordChar

/-- One of the characters `chars`. -/
def oneOf (chars : String) : Pattern := one fun c => chars.toList.contains c

/-- A character other than `chars`. -/
def noneOf (chars : String) : Pattern := one fun c => !chars.toList.contains c

/-- Exactly the text `s`, as a whole word: with a `boundary` on either side. -/
def whole (s : String) : Pattern := boundary ++ text s ++ boundary

/-! ### Places -/

/-- What a group remembers: where its stretch starts, the line from there on, and the length of the
stretch. `content` is the stretch itself. -/
structure Group where
  /-- The number of the group in its pattern. -/
  index : Nat
  /-- How many characters of the line are before the stretch. -/
  position : Nat
  /-- The line from there on. -/
  rest : List Char
  /-- The length of the stretch. -/
  length : Nat

/-- The stretch that the group `g` remembers. -/
def Group.content (g : Group) : List Char := g.rest.take g.length

/-- A place in a line: how many characters are before it, the last of them, and those after it. It
also carries what the groups passed so far remember (`Group`). -/
structure Place where
  /-- How many characters of the line are before it. -/
  position : Nat
  /-- The last of these characters, if there is one. -/
  previous : Option Char
  /-- The line from there on. -/
  rest : List Char
  /-- The starts of the groups that are still open, the innermost first. -/
  opened : List (Nat × List Char)
  /-- What the groups remember that are closed, the latest first. -/
  groups : List Group
  /-- How many starts are preferred to the one of this place, for each choice that is still open. -/
  ranks : List Nat

namespace Place

/-- The place at the start of a `line`. -/
def start (line : List Char) : Place := ⟨0, none, line, [], [], []⟩

/-- Whether the place `s` is between a word character (`isWord`) and something else. -/
def atBoundary (s : Place) : Bool :=
  (s.previous.any isWord) != (s.rest.head?.any isWord)

/-- The place after one more character, when there is one and it is accepted by `accepts`. -/
def next? (accepts : Char → Bool) (s : Place) : Option Place :=
  match s.rest with
  | [] => none
  | c :: rest =>
    if accepts c then some { s with position := s.position + 1, previous := some c, rest := rest }
    else none

/-- Opens a group at the place `s`. -/
def enter (s : Place) : Place := { s with opened := (s.position, s.rest) :: s.opened }

/-- Closes the innermost group and remembers its stretch under the number `index`. -/
def leave (index : Nat) (s : Place) : Place :=
  match s.opened with
  | [] => s
  | (position, text) :: outer =>
    { s with
      opened := outer
      groups := ⟨index, position, text, s.position - position⟩ :: s.groups }

/-- Notes the order of some `places`, on top of the orders noted before. -/
def ranked (places : List Place) : List Place :=
  places.mapIdx fun i s => { s with ranks := i :: s.ranks }

/-- Whether the place `s` comes from a start no later than that of `t`, in the order last noted. -/
def noLater (s t : Place) : Bool := s.ranks.headD 0 ≤ t.ranks.headD 0

/-- The place `s` without the order last noted. -/
def unranked (s : Place) : Place := { s with ranks := s.ranks.drop 1 }

/-- This place and those after it, so many at most, by `next?`. -/
def run : Nat → Place → List Place
  | 0, _ => []
  | count + 1, s =>
    match s.next? fun _ => true with
    | none => [s]
    | some e => s :: run count e

end Place

/-- The first of the `places` at each position, which is the preferred one. -/
def distinct (places : List Place) : List Place :=
  let take := fun (seen, found) (s : Place) =>
    if seen.contains s.position then (seen, found)
    else (seen.insert s.position, s :: found)
  let (_, found) := places.foldl take ((∅ : Std.HashSet Nat), [])
  found.reverse

/-! ### Repetition -/

/-- What is left to do at a place: to `repeat` from it, or to `stop` there. -/
inductive Task where
  | repeat (s : Place)
  | stop (s : Place)

/-- The next place to repeat from at a position that was not `seen` before, with the tasks after it,
and the places found before it, the latest first. -/
def nextRepeat (seen : Std.HashSet Nat) :
    List Task → List Place → Option (Place × List Task) × List Place
  | [], found => (none, found)
  | .stop s :: tasks, found => nextRepeat seen tasks (s :: found)
  | .repeat s :: tasks, found =>
    if seen.contains s.position then nextRepeat seen tasks found else (some (s, tasks), found)

/-- The places found by doing all tasks, the latest first. From each position the `step` is repeated
once, so as many rounds as there are positions are enough. -/
def repeatAll (step : Place → List Place) :
    Nat → Std.HashSet Nat → List Task → List Place → List Place
  | 0, _, _, found => found
  | fuel + 1, seen, tasks, found =>
    match nextRepeat seen tasks found with
    | (none, found) => found
    | (some (s, tasks), found) =>
      repeatAll step fuel (seen.insert s.position)
        ((step s).map Task.repeat ++ .stop s :: tasks) found

/-- The ends of repetitions of a `step` from some `places`, most repetitions first. -/
def repeated (fuel : Nat) (step : Place → List Place) (places : List Place) : List Place :=
  (repeatAll step fuel ∅ (places.map Task.repeat) []).reverse

/-! ### Matching -/

/-- The places where a match from one of some places can end, in order of preference: by its start
first, and each position once. The `fuel` is more than the number of positions. -/
def ends (fuel : Nat) : Pattern → List Place → List Place
  | _, [] => []
  | empty, places => places
  | one p, places => places.filterMap (Place.next? p)
  | seq first second, places => second.ends fuel (first.ends fuel places)
  | alt first second, places =>
    -- The ends from one place stay together, those of `first` before those of `second`.
    let places := Place.ranked places
    distinct ((List.merge (first.ends fuel places) (second.ends fuel places) Place.noLater).map
      Place.unranked)
  | star body, places => repeated fuel (fun s => body.ends fuel [s]) places
  | group index body, places => (body.ends fuel (places.map Place.enter)).map (Place.leave index)
  | start, places => places.filter fun s => s.position == 0
  | boundary, places => places.filter Place.atBoundary

/-- A match: its stretch, and what the groups in it remember (`Group`). -/
structure Match extends whole : Group where
  /-- The groups of the pattern, the latest to be closed first. -/
  groups : List Group

/-- What the group `index` remembers of the match `m`. -/
def Match.group? (m : Match) (index : Nat) : Option Group :=
  m.groups.find? fun g => g.index == index

/-- The text that the group `index` remembers of the match `m`. -/
def Match.text? (m : Match) (index : Nat) : Option (List Char) :=
  (m.group? index).map Group.content

/-- The preferred match of `p` from one of some `places`, and where it ends. It is what the group
`0` around the whole pattern remembers. -/
def matchFrom? (p : Pattern) (fuel : Nat) (places : List Place) : Option (Match × Place) := do
  let e ← ((group 0 p).ends fuel places).head?
  match e.groups with
  | [] => none
  | whole :: inner => some (⟨whole, inner⟩, { e with groups := [] })

/-- The leftmost match of `p` from a place on, in a number of rounds. The starts are tried in runs,
the first of which has `count` places and each of the others twice as many as the one before. -/
def findFrom? (p : Pattern) (fuel : Nat) : Nat → Nat → Place → Option (Match × Place)
  | 0, _, _ => none
  | rounds + 1, count, s =>
    let places := s.run count
    match p.matchFrom? fuel places with
    | some found => some found
    | none =>
      match places.getLast?.bind (Place.next? fun _ => true) with
      | some s => p.findFrom? fuel rounds (2 * count) s
      | none => none

/-- More than the number of positions in a `line`, which is fuel enough for it. -/
def bound (line : List Char) : Nat := line.length + 2

/-- The leftmost match of `p` in a `line`. -/
def find? (p : Pattern) (line : List Char) : Option Match :=
  (p.findFrom? (bound line) (bound line) 1 (Place.start line)).map Prod.fst

/-- Whether a `line` has a match of `p`. -/
def occurs (p : Pattern) (line : List Char) : Bool := (p.find? line).isSome

/-- The matches of `p` from a place on without overlap, in order. After an empty match the search
goes on one character further. -/
def findAllFrom (p : Pattern) (fuel : Nat) : Nat → Place → List Match
  | 0, _ => []
  | count + 1, s =>
    match p.findFrom? fuel fuel 1 s with
    | none => []
    | some (found, e) =>
      if found.content.isEmpty then
        match e.next? fun _ => true with
        | some e => found :: p.findAllFrom fuel count e
        | none => [found]
      else found :: p.findAllFrom fuel count e

/-- All matches of `p` in a `line` without overlap, from left to right. -/
def findAll (p : Pattern) (line : List Char) : List Match :=
  p.findAllFrom (bound line) (bound line) (Place.start line)

end Pattern

end CodeHealth
