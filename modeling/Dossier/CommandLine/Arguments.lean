import Dossier.Number.Digits

/-!
# Arguments

Arguments are options, which start with a hyphen, and words. Two hyphens open the long name of an
option and one hyphen short names, which may stand together. The value of an option follows it, or
is joined to it: after an equals sign, or right after a short name. After an argument of two hyphens
alone all others are words.

* `OptionForm` : an option that is known;
* `ArgumentForm` : the options and the number of words that are known;
* `ArgumentForm.read` : the arguments of a command, or why they are none.
-/

namespace Dossier.CommandLine

/-- What an option may have as its value. -/
inductive ValueForm where
  /-- The option is given or not. -/
  | absent
  /-- The option counts how often it is given. -/
  | counted
  | text
  /-- A text that is not empty. -/
  | path
  | number
  | choice (names : List String)

/-- An option that is known. -/
structure OptionForm where
  short : Option Char
  long : String
  value : ValueForm

/-- What the arguments of a command may be. -/
structure ArgumentForm where
  options : List OptionForm := []
  /-- The number of words, which all have to be there. -/
  words : Nat := 0
  /-- The first word names a command, and what follows are the arguments of that command. -/
  hasCommands : Bool := false
  hasVersion : Bool := false

/-- Why arguments do not make a command. -/
inductive Stop where
  | misused
  | help
  | version
deriving DecidableEq, Repr

/-- Arguments as they are read. -/
structure Arguments where
  /-- The options with their values, by long names. Options without a value have the empty one. -/
  values : List (String × String) := []
  words : List String := []
  /-- The arguments after the name of a command. -/
  rest : List String := []

/-- The number that a text spells, with or without a plus sign. -/
def readNumber? (s : String) : Option Nat :=
  let digits :=
    match s.toList with
    | '+' :: digits => digits
    | digits => digits
  if digits.isEmpty || !digits.all Char.isDigit then none
  else
    let n := valueOf digits
    if n < twoTo 64 then some n else none

/-- Whether an option may have a value. -/
def ValueForm.accepts (value : String) : ValueForm → Bool
  | absent => false
  | counted => false
  | text => true
  | path => !value.isEmpty
  | number => (readNumber? value).isSome
  | choice names => names.contains value

/-- Whether an option needs a value. -/
def ValueForm.takesValue : ValueForm → Bool
  | absent => false
  | counted => false
  | _ => true

/-- The arguments with one more option. Only options that are counted may stand twice. -/
def Arguments.add (a : Arguments) (o : OptionForm) (value : String) : Except Stop Arguments :=
  let isCounted := match o.value with
    | .counted => true
    | _ => false
  if !isCounted && (a.values.any fun v => v.1 == o.long) then .error .misused
  else .ok { a with values := a.values ++ [(o.long, value)] }

/-- The arguments with an option that has a value. -/
def Arguments.addValue (a : Arguments) (o : OptionForm) (value : String) : Except Stop Arguments :=
  if o.value.accepts value then a.add o value else .error .misused

/-- The arguments with one more word. -/
def Arguments.addWord (f : ArgumentForm) (a : Arguments) (word : String) : Except Stop Arguments :=
  if a.words.length < f.words then .ok { a with words := a.words ++ [word] } else .error .misused

/-- Whether an argument looks like an option. A hyphen alone is a word. -/
def looksLikeOption (s : String) : Bool :=
  match s.toList with
  | '-' :: _ :: _ => true
  | _ => false

/-- The value of an option: the one joined to it, or else the next argument. -/
def takeValue (joined : Option String) (rest : List String) : Except Stop (String × List String) :=
  match joined, rest with
  | some value, _ => .ok (value, rest)
  | none, [] => .error .misused
  | none, value :: rest => if looksLikeOption value then .error .misused else .ok (value, rest)

/-- Reads a long option whose hyphens have been passed. -/
def readLong (f : ArgumentForm) (a : Arguments) (s : List Char) (rest : List String) :
    Except Stop (Arguments × List String) := do
  let name := String.ofList (s.takeWhile (· != '='))
  let joined :=
    match s.dropWhile (· != '=') with
    | _ :: value => some (String.ofList value)
    | [] => none
  match f.options.find? fun o => o.long == name with
  | some o =>
    if o.value.takesValue then
      let (value, rest) ← takeValue joined rest
      return (← a.addValue o value, rest)
    else if joined.isSome then .error .misused
    else return (← a.add o "", rest)
  | none =>
    if joined.isNone && name = "help" then .error .help
    else if joined.isNone && name = "version" && f.hasVersion then .error .version
    else .error .misused

/-- Reads short options whose hyphen has been passed. -/
def readShort (f : ArgumentForm) (a : Arguments) (rest : List String) :
    List Char → Except Stop (Arguments × List String)
  | [] => .ok (a, rest)
  | c :: more =>
    match f.options.find? fun o => o.short == some c with
    | some o =>
      if o.value.takesValue then do
        let joined :=
          match more with
          | [] => none
          | '=' :: value => some (String.ofList value)
          | value => some (String.ofList value)
        let (value, rest) ← takeValue joined rest
        return (← a.addValue o value, rest)
      else do readShort f (← a.add o "") rest more
    | none =>
      if c = 'h' then .error .help
      else if c = 'V' && f.hasVersion then .error .version
      else .error .misused

/-- Reads arguments from the left. Each step takes at least one. -/
def readFrom (f : ArgumentForm) : Nat → Arguments → List String → Except Stop Arguments
  | 0, a, _ => .ok a
  | _ + 1, a, [] => .ok a
  | bound + 1, a, arg :: rest =>
    if arg = "--" then rest.foldlM (Arguments.addWord f) a
    else
      match arg.toList with
      | '-' :: '-' :: name => do
        let (a, rest) ← readLong f a name rest
        readFrom f bound a rest
      | '-' :: c :: more => do
        let (a, rest) ← readShort f a rest (c :: more)
        readFrom f bound a rest
      | _ =>
        if f.hasCommands then .ok { a with words := [arg], rest }
        else do readFrom f bound (← a.addWord f arg) rest

/-- The arguments of a command. All words have to be there. -/
def ArgumentForm.read (f : ArgumentForm) (args : List String) : Except Stop Arguments := do
  let a ← readFrom f (args.length + 1) {} args
  let needed := if f.hasCommands then 1 else f.words
  if a.words.length = needed then return a else .error .misused

/-- The value of an option. -/
def Arguments.value? (a : Arguments) (name : String) : Option String := a.values.lookup name

/-- Whether an option is given. -/
def Arguments.has (a : Arguments) (name : String) : Bool := (a.value? name).isSome

/-- The value of an option that has to be given. -/
def Arguments.value (a : Arguments) (name : String) : Except Stop String :=
  match a.value? name with
  | some value => .ok value
  | none => .error .misused

end Dossier.CommandLine
