import Dossier.Regex.Escape

/-!
# Character classes in brackets

A class lists characters, ranges, named classes and nested classes, and combines such lists by
intersection, difference and symmetric difference, all of one rank and from left to right.

* `SetOp` : the operations;
* `Nesting` : what is nested in a part of an expression;
* `readClass` : the class at an opening bracket.
-/

namespace Dossier.Regex

/-- An operation between two lists of a class. -/
inductive SetOp where
  | inter
  | diff
  | symmDiff
deriving Repr, DecidableEq

def SetOp.apply : SetOp → CharSet → CharSet → CharSet
  | .inter, s, t => s.inter t
  | .diff, s, t => s.diff t
  | .symmDiff, s, t => s.symmDiff t

/-- What is nested in a part of an expression: for each depth, from one on, the first part that is
nested so deep. -/
abbrev Nesting := List Span

/-- The deepest nesting that is allowed. -/
def maxDepth : Nat := 250

/-- What is nested in two parts, one after the other. -/
def Nesting.join (a b : Nesting) : Nesting := a ++ b.drop a.length

/-- What is nested in a part around others. What is nested too deep counts once. -/
def Nesting.wrap (place : Span) (inside : Nesting) : Nesting := place :: inside.take maxDepth

/-- An entry of a class, or several that were combined. -/
structure ClassPart where
  members : CharSet
  nesting : Nesting
  place : Span

/-- One list of a class: its entries so far. -/
structure ClassList where
  members : CharSet := .empty
  entries : Nat := 0
  nesting : Nesting := []
  place : Span

def ClassList.add (l : ClassList) (p : ClassPart) : ClassList where
  members := l.members.union p.members
  entries := l.entries + 1
  nesting := Nesting.join l.nesting p.nesting
  place := ⟨if l.entries = 0 then p.place.start else l.place.start, p.place.stop⟩

/-- A list without entries at the start of a text. -/
def ClassList.startingAt (s : List Char) : ClassList := { place := ⟨s, s⟩ }

/-- A list as one part. Several entries are nested in it. -/
def ClassList.toPart (l : ClassList) : ClassPart where
  members := l.members
  nesting := if l.entries ≤ 1 then l.nesting else Nesting.wrap l.place l.nesting
  place := l.place

/-- What waits for a list to end: a class that was opened, inside the list around it, or an
operation with its left side. -/
inductive ClassFrame where
  | opened (negated : Bool) (opening : Span) (around : ClassList)
  | pending (op : SetOp) (left : ClassPart)

/-- Ends a list: applies the operation that waits for it, if any. -/
def endList (f : Flags) (l : ClassList) : List ClassFrame → ClassPart × List ClassFrame
  | .pending op left :: frames =>
    let right := l.toPart
    let place : Span := ⟨left.place.start, right.place.stop⟩
    ({ members := op.apply (f.fold left.members) (f.fold right.members)
       nesting := Nesting.wrap place (Nesting.join left.nesting right.nesting)
       place }, frames)
  | frames => (l.toPart, frames)

/-- The characters of a class whose name stands between a bracket with a colon and a colon with
a bracket. -/
def namedClass? (name : List Char) : Option CharSet :=
  match String.ofList name with
  | "alnum" => some ⟨[(0x30, 0x39), (0x41, 0x5A), (0x61, 0x7A)]⟩
  | "alpha" => some ⟨[(0x41, 0x5A), (0x61, 0x7A)]⟩
  | "ascii" => some ⟨[(0x00, 0x7F)]⟩
  | "blank" => some ⟨[(0x09, 0x09), (0x20, 0x20)]⟩
  | "cntrl" => some ⟨[(0x00, 0x1F), (0x7F, 0x7F)]⟩
  | "digit" => some ⟨[(0x30, 0x39)]⟩
  | "graph" => some ⟨[(0x21, 0x7E)]⟩
  | "lower" => some ⟨[(0x61, 0x7A)]⟩
  | "print" => some ⟨[(0x20, 0x7E)]⟩
  | "punct" => some ⟨[(0x21, 0x2F), (0x3A, 0x40), (0x5B, 0x60), (0x7B, 0x7E)]⟩
  | "space" => some ⟨[(0x09, 0x0D), (0x20, 0x20)]⟩
  | "upper" => some ⟨[(0x41, 0x5A)]⟩
  | "word" => some ⟨[(0x30, 0x39), (0x41, 0x5A), (0x5F, 0x5F), (0x61, 0x7A)]⟩
  | "xdigit" => some ⟨[(0x30, 0x39), (0x41, 0x46), (0x61, 0x66)]⟩
  | _ => none

/-- Reads a named class at its opening bracket. What has not this form is a nested class. -/
def readNamedClass (f : Flags) (s : List Char) : Option (Reading (ClassPart × List Char)) :=
  match s with
  | '[' :: ':' :: inside =>
    let (negated, inside) :=
      match inside with
      | '^' :: inside => (true, inside)
      | _ => (false, inside)
    let name := inside.takeWhile (· != ':')
    match inside.drop name.length with
    | ':' :: ']' :: rest =>
      (namedClass? name).map fun members => do
        let members := f.fold members
        let members ← if negated then f.complement members ⟨s, rest⟩ else pure members
        return (⟨members, [], ⟨s, rest⟩⟩, rest)
    | _ => none
  | _ => none

/-- Reads one character or escape of a class. -/
def readClassAtom (f : Flags) : List Char → Reading (Atom × List Char)
  | [] => .fault .unclosedClass [] []
  | '\\' :: rest => readEscape f rest
  | c :: rest => .ok (.char c, rest)

/-- The end of a range, which has to be a character. -/
def rangeEnd (a : Atom) (place : Span) : Reading Char :=
  match a with
  | .char c => .ok c
  | _ => .fault .rangeWithoutLiteral place.start place.stop

/-- A character of a class: bytes cannot spell those beyond ASCII. -/
def Flags.classChar (f : Flags) (c : Char) (place : Span) : Reading Char :=
  if f.unicode || c.toNat ≤ 0x7F then .ok c else .fault .beyondAscii place.start place.stop

/-- Whether a hyphen makes a range of the characters around it: unless the class ends after it or
another hyphen follows. -/
def startsRange (f : Flags) (s : List Char) : Bool :=
  match s with
  | '-' :: after =>
    match f.skip after with
    | ']' :: _ => false
    | '-' :: _ => false
    | _ => true
  | _ => false

/-- Reads an entry of a class that is not a class itself: a character, a range or an escape. The
fault of a class that ends nowhere is given. -/
def readEntry (f : Flags) (unclosed : Fault) (s : List Char) : Reading (ClassPart × List Char) := do
  let (first, stop) ← readClassAtom f s
  let rest := f.skip stop
  if rest.isEmpty then .error unclosed
  else if startsRange f rest then
    let start := f.skip rest.tail
    if start.isEmpty then .error unclosed
    else
      let (last, rest) ← readClassAtom f start
      let a ← rangeEnd first ⟨s, stop⟩
      let b ← rangeEnd last ⟨start, rest⟩
      if b < a then .fault .reversedRange s rest
      else
        let a ← f.classChar a ⟨s, stop⟩
        let b ← f.classChar b ⟨start, rest⟩
        return (⟨.range a.toNat b.toNat, [], ⟨s, rest⟩⟩, rest)
  else
    match first with
    | .char c => do
      let c ← f.classChar c ⟨s, stop⟩
      return (⟨.single c, [], ⟨s, stop⟩⟩, rest)
    | .members members => return (⟨members, [], ⟨s, stop⟩⟩, rest)
    | _ => .fault .escapeInClass s stop

/-- Reads hyphens at the start of a class, which stand for themselves. -/
def readHyphens (f : Flags) : Nat → ClassList → List Char → ClassList × List Char
  | bound + 1, l, '-' :: rest =>
    readHyphens f bound (l.add ⟨.single '-', [], ⟨'-' :: rest, rest⟩⟩) (f.skip rest)
  | _, l, s => (l, s)

/-- The start of a class: whether it is negated, the bracket and what follows it at once, and the
entries that stand there for themselves. -/
structure ClassStart where
  negated : Bool
  opening : Span
  entries : ClassList

/-- Reads the start of a class at its opening bracket: its negation, hyphens, and a closing bracket
that stands for itself because nothing is in the class yet. -/
def readClassStart (f : Flags) (start : List Char) : Reading (ClassStart × List Char) :=
  let s := f.skip start.tail
  let (negated, s) :=
    match s with
    | '^' :: rest => (true, f.skip rest)
    | _ => (false, s)
  let (l, rest) := readHyphens f s.length (.startingAt s) s
  let (l, rest) :=
    match rest with
    | ']' :: after =>
      if l.entries = 0 then (l.add ⟨.single ']', [], ⟨rest, after⟩⟩, f.skip after) else (l, rest)
    | _ => (l, rest)
  if rest.isEmpty then
    .fault .unclosedClass start (if s.head? = some '-' then start else rest)
  else .ok (⟨negated, ⟨start, rest⟩, l⟩, rest)

/-- The fault of the innermost open class that ends nowhere. -/
def unclosedClass : List ClassFrame → Fault
  | [] => .malformed .unclosedClass ⟨[], []⟩ none
  | .opened _ opening _ :: _ => .malformed .unclosedClass opening none
  | .pending .. :: frames => unclosedClass frames

/-- Reads a class up to its closing bracket. Each step takes a character. -/
def readClassLoop (f : Flags) :
    Nat → List ClassFrame → ClassList → List Char → Reading (ClassPart × List Char)
  | 0, frames, _, _ => .error (unclosedClass frames)
  | bound + 1, frames, l, s =>
    match f.skip s with
    | [] => .error (unclosedClass frames)
    | '[' :: rest =>
      match readNamedClass f ('[' :: rest) with
      | some named => do
        let (part, rest) ← named
        readClassLoop f bound frames (l.add part) rest
      | none => do
        let (start, rest) ← readClassStart f ('[' :: rest)
        readClassLoop f bound (.opened start.negated start.opening l :: frames) start.entries rest
    | ']' :: rest => do
      let (content, frames) := endList f l frames
      match frames with
      | .opened negated opening around :: frames =>
        let place : Span := ⟨opening.start, rest⟩
        let members := f.fold content.members
        let members ← if negated then f.complement members place else pure members
        let part : ClassPart := ⟨members, Nesting.wrap place content.nesting, place⟩
        match frames with
        | [] => .ok (part, rest)
        | _ => readClassLoop f bound frames (around.add part) rest
      | _ => .error (unclosedClass frames)
    | '&' :: '&' :: rest => operation bound frames l .inter rest
    | '-' :: '-' :: rest => operation bound frames l .diff rest
    | '~' :: '~' :: rest => operation bound frames l .symmDiff rest
    | s => do
      let (part, rest) ← readEntry f (unclosedClass frames) s
      readClassLoop f bound frames (l.add part) rest
where
  operation (bound : Nat) (frames : List ClassFrame) (l : ClassList) (op : SetOp)
      (rest : List Char) : Reading (ClassPart × List Char) :=
    let (left, frames) := endList f l frames
    readClassLoop f bound (.pending op left :: frames) (.startingAt rest) rest

/-- Reads a class at its opening bracket, and the text after it. -/
def readClass (f : Flags) (s : List Char) : Reading (ClassPart × List Char) := do
  let (start, rest) ← readClassStart f s
  readClassLoop f s.length [.opened start.negated start.opening (.startingAt s)] start.entries rest

end Dossier.Regex
