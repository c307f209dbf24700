import Dossier.Regex.Brackets
import Dossier.Regex.Size

/-!
# Reading expressions

An expression is read from left to right. The groups that are open form a stack of levels; each
level holds the alternatives that are complete and the parts of the one that is being read.

* `Level` : an open group, or the expression as a whole at the bottom;
* `Tree.read` : the tree of an expression text, or its first fault;
* `compile` : the same within a size limit, with the cause when it fails.
-/

namespace Dossier.Regex

/-- A part of a level. Flags that are set inside a group are parts that cannot be repeated. -/
structure Part where
  tree : Tree
  nesting : Nesting
  /-- The text from the part on. -/
  start : List Char
  repeatable : Bool := true

/-- What an open group will become when it closes. -/
inductive Opening where
  | whole
  | capture (index : Nat) (name : Option String)
  | plain

/-- An open group: its parts and complete alternatives, both in reverse, and the flags that hold
again after it. -/
structure Level where
  opening : Opening
  /-- The text from the opening bracket on. -/
  start : List Char
  after : Flags
  alternatives : List Part := []
  /-- The text from the first alternative on. -/
  inside : List Char
  parts : List Part := []
  /-- The text from the current alternative on. -/
  current : List Char

/-- What is nested in several parts. -/
def nestingOf (parts : List Part) : Nesting := parts.foldl (fun n p => Nesting.join n p.nesting) []

/-- The current alternative of a level, which ends where the given text starts. -/
def Level.alternative (l : Level) (stop : List Char) : Part :=
  let parts := l.parts.reverse
  { tree := .seqAll (parts.filterMap fun p => if p.repeatable then some p.tree else none)
    nesting :=
      if parts.length ≤ 1 then nestingOf parts
      else Nesting.wrap ⟨l.current, stop⟩ (nestingOf parts)
    start := l.current }

/-- The content of a level as one part. It ends where the given text starts. -/
def Level.content (l : Level) (stop : List Char) : Part :=
  let alternatives := (l.alternative stop :: l.alternatives).reverse
  { tree := .altAll (alternatives.map Part.tree)
    nesting :=
      if alternatives.length ≤ 1 then nestingOf alternatives
      else Nesting.wrap ⟨l.inside, stop⟩ (nestingOf alternatives)
    start := l.inside }

/-- A level with one more part. -/
def Level.push (l : Level) (p : Part) : Level := { l with parts := p :: l.parts }

/-- What has been read so far, and where. -/
structure ReadState where
  level : Level
  outer : List Level
  flags : Flags
  captures : Nat
  names : List (String × Span)
  rest : List Char

def ReadState.push (st : ReadState) (p : Part) (rest : List Char) : ReadState :=
  { st with level := st.level.push p, rest }

/-- The tree of an atom under the flags. Without the Unicode flag an atom has no characters beyond
ASCII, except one that is written out. -/
def Atom.tree (f : Flags) (place : Span) : Atom → Reading Tree
  | .char c =>
    if f.ignoreCase && !f.unicode && c.toNat > 0x7F then .fault .beyondAscii place.start place.stop
    else .ok (.set (f.fold (.single c)))
  | .members s => .ok (.set s)
  | .look l => .ok (.look l)
  | .dot =>
    if !f.unicode then .fault .beyondBytes place.start place.stop
    else if f.dotMatchesNewline then .ok (.set .everything)
    else if f.returnLines then .ok (.set (CharSet.complement ⟨[(0xA, 0xA), (0xD, 0xD)]⟩))
    else .ok (.set (CharSet.complement ⟨[(0xA, 0xA)]⟩))

/-- The condition that a caret stands for. -/
def Flags.lineStart (f : Flags) : Look :=
  if f.multiLine then (if f.returnLines then .returnLineStart else .lineStart) else .textStart

/-- The condition that a dollar sign stands for. -/
def Flags.lineEnd (f : Flags) : Look :=
  if f.multiLine then (if f.returnLines then .returnLineEnd else .lineEnd) else .textEnd

/-- The last part of the level, which an operator at the given place repeats, and the parts before
it. -/
def ReadState.lastPart (st : ReadState) (operator : List Char) : Reading (Part × List Part) :=
  match st.level.parts with
  | p :: parts =>
    if p.repeatable then .ok (p, parts) else .fault .nothingToRepeat operator operator
  | [] => .fault .nothingToRepeat operator operator

/-- Passes over a question mark right after a repetition operator. -/
def readLazy : List Char → Bool × List Char
  | '?' :: rest => (true, rest)
  | rest => (false, rest)

/-- Puts a repetition in the place of the part that it repeats. A question mark right after the
operator swaps its preference. -/
def ReadState.pushRepeated (st : ReadState) (p : Part) (parts : List Part) (min : Nat)
    (max : Option Nat) (lazy : Bool) (rest : List Char) : ReadState :=
  let repeated : Part := {
    tree := .repeated min max (lazy == st.flags.swapGreed) p.tree
    nesting := Nesting.wrap ⟨p.start, rest⟩ p.nesting
    start := p.start }
  { st with level := { st.level with parts := repeated :: parts }, rest }

/-- Repeats the last part of the level by an operator of one character at the given place. -/
def ReadState.repeatLast (st : ReadState) (operator : List Char) (min : Nat) (max : Option Nat) :
    Reading ReadState := do
  let (p, parts) ← st.lastPart operator
  let (lazy, rest) := readLazy operator.tail
  return st.pushRepeated p parts min max lazy rest

/-- Reads a decimal number with blanks around it. A number beyond 32 bits is none. -/
def readCount (f : Flags) (s : List Char) : Reading Nat × List Char :=
  let start := s.dropWhile Text.isBlank
  let (digits, stop) := takeDigits f start.length start
  let value := valueOf digits
  (if digits.isEmpty then .fault .emptyCount start stop
    else if value ≥ twoTo 32 then .fault .invalidCount start stop
    else .ok value,
    stop.dropWhile Text.isBlank)
where
  takeDigits (f : Flags) : Nat → List Char → List Char × List Char
    | bound + 1, c :: rest =>
      if c.isDigit then
        let (digits, rest) := takeDigits f bound (f.skip rest)
        (c :: digits, rest)
      else ([], c :: rest)
    | _, s => ([], s)

/-- Reads the numbers of a repetition count up to its closing brace, which is left. -/
def readCounts (f : Flags) (brace s : List Char) : Reading (Nat × Option Nat × List Char) := do
  let unclosed : Reading (Nat × Option Nat × List Char) := .fault .unclosedCount brace []
  let s := f.skip s
  if s.isEmpty then unclosed
  else
    let (lo, rest) := readCount f s
    match rest with
    | [] => unclosed
    | ',' :: rest =>
      match f.skip rest with
      | [] => unclosed
      | '}' :: rest => return (← lo, none, '}' :: rest)
      | s =>
        let lo ← lo
        let (hi, rest) := readCount f s
        return (lo, some (← hi), rest)
    | rest =>
      let n ← lo
      return (n, some n, rest)

/-- Reads a repetition count at its opening brace. -/
def ReadState.repeatCounted (st : ReadState) (brace : List Char) : Reading ReadState := do
  let (p, parts) ← st.lastPart brace
  let (lo, hi, close) ← readCounts st.flags brace brace.tail
  match close with
  | '}' :: rest =>
    let (lazy, rest) := readLazy (st.flags.skip rest)
    if hi.any (· < lo) then .fault .reversedCount brace rest
    else return st.pushRepeated p parts lo hi lazy rest
  | _ => .fault .unclosedCount brace close

/-- Whether a character may stand in a group name, at its start or later. -/
def isNameChar (atStart : Bool) (c : Char) : Bool :=
  if atStart then c == '_' || CharSet.alphabetic.contains c
  else c == '_' || c == '.' || c == '[' || c == ']' || CharSet.alphabetic.contains c ||
    CharSet.numeral.contains c

/-- Reads the characters of a group name up to its closing angle bracket, which is left. -/
def readName (atStart : Bool) : List Char → Reading (List Char × List Char)
  | [] => .fault .unclosedGroupName [] []
  | c :: rest =>
    if c = '>' then .ok ([], c :: rest)
    else if isNameChar atStart c then do
      let (name, close) ← readName false rest
      return (c :: name, close)
    else .faultAtHead .invalidGroupName (c :: rest)

/-- Opens a group whose bracket is at the given place. -/
def ReadState.openGroup (st : ReadState) (start : List Char) (opening : Opening) (flags : Flags)
    (rest : List Char) : ReadState :=
  { st with
    level := { opening, start, after := st.flags, inside := rest, current := rest }
    outer := st.level :: st.outer
    flags, rest }

/-- Opens a capture group with the next number. -/
def ReadState.openCapture (st : ReadState) (start : List Char) (name : Option String)
    (rest : List Char) : ReadState :=
  { st with captures := st.captures + 1 }.openGroup start (.capture (st.captures + 1) name) st.flags
    rest

/-- Opens a named group whose opening angle bracket has been passed. No name is used twice. -/
def ReadState.openNamed (st : ReadState) (start s : List Char) : Reading ReadState := do
  let (name, close) ← readName true s
  if name.isEmpty then .fault .emptyGroupName s s
  else
    let name := String.ofList name
    match st.names.lookup name with
    | some earlier => .error (.malformed .repeatedGroupName ⟨s, close⟩ (some earlier))
    | none =>
      return { st with names := (name, ⟨s, close⟩) :: st.names }.openCapture start (some name)
        close.tail

/-- Opens a plain group with or without flags, or sets flags for the rest of the group around it.
The question mark after the bracket has been passed. -/
def ReadState.flagGroup (st : ReadState) (start mark s : List Char) : Reading ReadState :=
  if s.isEmpty then .fault .unclosedGroup start start.tail
  else do
    let (g, rest) ← readFlags st.flags true [] s
    if g.closing = ':' then return st.openGroup start .plain g.flags rest
    else if g.seen.isEmpty then .fault .nothingToRepeat mark mark
    else
      let part : Part := { tree := .empty, nesting := [], start, repeatable := false }
      return { st with level := st.level.push part, flags := g.flags, rest }

/-- Reads the start of a group at its opening bracket. Conditions on the text before or after a
place are not supported. -/
def ReadState.group (st : ReadState) (start : List Char) : Reading ReadState :=
  match st.flags.skip start.tail with
  | '?' :: 'P' :: '<' :: rest => st.openNamed start rest
  | '?' :: '=' :: rest => .fault .lookAround start rest
  | '?' :: '!' :: rest => .fault .lookAround start rest
  | '?' :: '<' :: '=' :: rest => .fault .lookAround start rest
  | '?' :: '<' :: '!' :: rest => .fault .lookAround start rest
  | '?' :: '<' :: rest => st.openNamed start rest
  | '?' :: rest => st.flagGroup start ('?' :: rest) rest
  | rest => .ok (st.openCapture start none rest)

/-- Closes the innermost group by the bracket at the given place. -/
def ReadState.closeGroup (st : ReadState) (bracket : List Char) : Reading ReadState :=
  match st.outer with
  | [] => .faultAtHead .unopenedGroup bracket
  | level :: outer =>
    let content := st.level.content bracket
    let rest := bracket.tail
    let tree :=
      match st.level.opening with
      | .capture index name => .group index name content.tree
      | _ => content.tree
    let part : Part := {
      tree
      nesting := Nesting.wrap ⟨st.level.start, rest⟩ content.nesting
      start := st.level.start }
    .ok { st with level := level.push part, outer, flags := st.level.after, rest }

/-- Ends the current alternative of the level by the bar at the given place. -/
def ReadState.nextAlternative (st : ReadState) (bar : List Char) : ReadState :=
  { st with
    level := { st.level with
      alternatives := st.level.alternative bar :: st.level.alternatives
      parts := []
      current := bar.tail }
    rest := bar.tail }

/-- Adds an atom at the given place to the level. -/
def ReadState.atom (st : ReadState) (start : List Char) (a : Atom) (rest : List Char) :
    Reading ReadState := do
  let tree ← a.tree st.flags ⟨start, rest⟩
  return st.push { tree, nesting := [], start } rest

/-- Adds a character class at the given place to the level. -/
def ReadState.charClass (st : ReadState) (start : List Char) : Reading ReadState := do
  let (part, rest) ← readClass st.flags start
  return st.push { tree := .set part.members, nesting := part.nesting, start } rest

/-- Reads one part, operator or bracket at the given place. -/
def ReadState.step (st : ReadState) (c : Char) (rest : List Char) : Reading ReadState :=
  let start := c :: rest
  match c with
  | '(' => st.group start
  | ')' => st.closeGroup start
  | '|' => .ok (st.nextAlternative start)
  | '[' => st.charClass start
  | '?' => st.repeatLast start 0 (some 1)
  | '*' => st.repeatLast start 0 none
  | '+' => st.repeatLast start 1 none
  | '{' => st.repeatCounted start
  | '\\' => do
    let (a, rest) ← readEscape st.flags rest
    st.atom start a rest
  | '.' => st.atom start .dot rest
  | '^' => st.atom start (.look st.flags.lineStart) rest
  | '$' => st.atom start (.look st.flags.lineEnd) rest
  | c => st.atom start (.char c) rest

/-- Reads to the end of the text. Each step takes a character. -/
def ReadState.run : Nat → ReadState → Reading ReadState
  | 0, st => .ok st
  | bound + 1, st =>
    match st.flags.skip st.rest with
    | [] => .ok { st with rest := [] }
    | c :: rest => (st.step c rest).bind (run bound)

/-- The state in front of a text. -/
def ReadState.start (text : List Char) : ReadState :=
  { level := { opening := .whole, start := text, after := {}, inside := text, current := text }
    outer := [], flags := {}, captures := 0, names := [], rest := text }

/-- The tree of what has been read to the end of the text. All groups have to be closed. -/
def ReadState.tree (st : ReadState) : Reading Tree :=
  if st.outer.isEmpty then
    let content := st.level.content []
    match content.nesting[maxDepth]? with
    | some place => .fault (.tooDeep maxDepth) place.start place.stop
    | none => .ok content.tree
  else .faultAtHead .unclosedGroup st.level.start

/-- The tree of an expression text. -/
def Tree.read (text : List Char) : Reading Tree :=
  ((ReadState.start text).run (text.length + 1)).bind ReadState.tree

/-- The tree of an expression text, if the text is an expression and within the size limit. -/
def compile (text : List Char) (sizeLimit : Nat) : Except Fault Tree :=
  (Tree.read text).bind fun t => if t.fits sizeLimit then .ok t else .error (.tooLarge sizeLimit)

end Dossier.Regex
