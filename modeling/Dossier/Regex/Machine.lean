import Dossier.Regex.Tree
import Std.Data.HashSet

/-!
# Matching

A tree is unrolled into a `Node`, in which every copy of a repeated part stands by itself and
every choice has a number. A match is looked for by trying the alternatives of each choice in
order of preference. Whether the rest of the search succeeds from a choice depends on the choice
and the place in the text alone, so no choice is tried twice at one place: a repeated try could
only fail again, or go around in a loop without taking a character.

* `Node.ofTree` : unrolling;
* `Node.run` : the search from one place, with what has to follow as an argument;
* `search` : the leftmost match.
-/

namespace Dossier.Regex

/-- A place in the text: the character before it, its offset, and the text after it. -/
structure Cursor where
  before : Option Char
  offset : Nat
  rest : List Char
deriving Repr, DecidableEq

/-- The place in front of a text. -/
def Cursor.start (text : List Char) : Cursor := ⟨none, 0, text⟩

/-- The characters that groups have captured, newest first: group number, start and end. -/
abbrev Captures := List (Nat × Nat × Nat)

/-- An unrolled expression. The numbers of the choices differ from each other. -/
inductive Node where
  | empty
  | set (members : CharSet)
  | look (condition : Look)
  | seq (first second : Node)
  | alt (choice : Nat) (first second : Node)
  /-- The body or nothing. -/
  | opt (choice : Nat) (greedy : Bool) (body : Node)
  /-- The body once or more. -/
  | plus (choice : Nat) (greedy : Bool) (body : Node)
  /-- The body any number of times. -/
  | star (choice : Nat) (greedy : Bool) (body : Node)
  | group (index : Nat) (body : Node)
deriving Repr, Inhabited

namespace Node

/-- Numbered copies of a part, one after the other, in front of what follows. -/
def copies (copy : Nat → Node × Nat) : Nat → (Nat → Node × Nat) → Nat → Node × Nat
  | 0, last, next => last next
  | n + 1, last, next =>
    let (first, next) := copy next
    let (others, next) := copies copy n last next
    (.seq first others, next)

/-- Up to so many numbered copies of a part, each of which stands only after the one before. -/
def optionalCopies (copy : Nat → Node × Nat) (greedy : Bool) : Nat → Nat → Node × Nat
  | 0, next => (.empty, next)
  | n + 1, next =>
    let (first, inner) := copy (next + 1)
    let (others, after) := optionalCopies copy greedy n inner
    (.opt next greedy (.seq first others), after)

/-- The unrolled form of a tree, with the choices numbered from a number on, and the next free
number. A body that can match nothing is repeated in the form "once or more, or not at all". -/
def ofTree : Tree → Nat → Node × Nat
  | .empty, next => (.empty, next)
  | .set s, next => (.set s, next)
  | .look l, next => (.look l, next)
  | .seq a b, next =>
    let (first, next) := ofTree a next
    let (second, next) := ofTree b next
    (.seq first second, next)
  | .alt a b, next =>
    let (first, inner) := ofTree a (next + 1)
    let (second, after) := ofTree b inner
    (.alt next first second, after)
  | .group index _ body, next =>
    let (inner, next) := ofTree body next
    (.group index inner, next)
  | .rep 0 none greedy body, next =>
    if body.alwaysTakes then
      let (inner, after) := ofTree body (next + 1)
      (.star next greedy inner, after)
    else
      let (inner, after) := ofTree body (next + 2)
      (.opt next greedy (.plus (next + 1) greedy inner), after)
  | .rep (n + 1) none greedy body, next =>
    copies (ofTree body) n (fun next =>
      let (inner, after) := ofTree body (next + 1)
      (.plus next greedy inner, after)) next
  | .rep n (some m) greedy body, next =>
    copies (ofTree body) n (optionalCopies (ofTree body) greedy (m - n)) next

end Node

/-- The choices that have been tried, with the offsets at which they were. -/
abbrev Tried := Std.HashSet (Nat × Nat)

/-- The end of a match with its captures, if there is one, and the choices tried so far. -/
abbrev Outcome := Option (Cursor × Captures) × Tried

/-- What has to follow: a search that goes on from a place. -/
abbrev Continuation := Cursor → Captures → Tried → Outcome

/-- The second search if the first one fails. -/
def Outcome.orElse (o : Outcome) (second : Tried → Outcome) : Outcome :=
  match o with
  | (some found, tried) => (some found, tried)
  | (none, tried) => second tried

/-- Two searches in order of preference: the first one first if greedy, last if not. -/
def prefer (greedy : Bool) (more less : Tried → Outcome) (tried : Tried) : Outcome :=
  if greedy then (more tried).orElse less else (less tried).orElse more

/-- A search that is made at most once for a choice and a place. -/
def once (choice offset : Nat) (go : Tried → Outcome) (tried : Tried) : Outcome :=
  if tried.contains (choice, offset) then (none, tried) else go (tried.insert (choice, offset))

/-- Any number of further copies of a body, then what has to follow. The bound is on the number of
places at which a copy can end. -/
def again (body : Continuation → Continuation) (choice : Nat) (greedy : Bool)
    (next : Continuation) : Nat → Continuation
  | 0, _, _, tried => (none, tried)
  | bound + 1, place, captured, tried =>
    once choice place.offset
      (prefer greedy (body (again body choice greedy next bound) place captured)
        (next place captured)) tried

/-- The search for a match of a node at a place, followed by what has to follow. -/
def Node.run : Node → Continuation → Continuation
  | .empty, next => next
  | .set s, next => fun place captured tried =>
    match place.rest with
    | [] => (none, tried)
    | c :: rest =>
      if s.contains c then next ⟨some c, place.offset + 1, rest⟩ captured tried else (none, tried)
  | .look l, next => fun place captured tried =>
    if l.holds place.before place.rest.head? then next place captured tried else (none, tried)
  | .seq a b, next => a.run (b.run next)
  | .alt choice a b, next => fun place captured =>
    once choice place.offset (prefer true (a.run next place captured) (b.run next place captured))
  | .opt choice greedy body, next => fun place captured =>
    once choice place.offset
      (prefer greedy (body.run next place captured) (next place captured))
  | .plus choice greedy body, next => fun place captured tried =>
    body.run (again body.run choice greedy next (place.rest.length + 1)) place captured tried
  | .star choice greedy body, next => fun place captured tried =>
    again body.run choice greedy next (place.rest.length + 1) place captured tried
  | .group index body, next => fun place captured tried =>
    body.run (fun stop inner tried => next stop ((index, place.offset, stop.offset) :: inner) tried)
      place captured tried

/-- A match: where it starts and ends, and what its groups captured. -/
structure Match where
  start : Nat
  stop : Nat
  captures : Captures
deriving Repr, DecidableEq

/-- The end of the whole search. -/
def accept : Continuation := fun place captured tried => (some (place, captured), tried)

/-- The leftmost match at or after a place. -/
def searchFrom (node : Node) (before : Option Char) (offset : Nat) (rest : List Char)
    (tried : Tried) : Option Match :=
  match node.run accept ⟨before, offset, rest⟩ [] tried with
  | (some (stop, captured), _) => some ⟨offset, stop.offset, captured⟩
  | (none, tried) =>
    match rest with
    | [] => none
    | c :: rest => searchFrom node (some c) (offset + 1) rest tried

/-- The leftmost match in a text. -/
def search (t : Tree) (text : List Char) : Option Match :=
  searchFrom (Node.ofTree t 0).1 none 0 text ∅

end Dossier.Regex
