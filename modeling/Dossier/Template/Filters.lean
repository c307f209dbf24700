import Dossier.Template.Operators
import Dossier.Text.Property

/-!
# Filters, tests and functions of templates

An argument with a name is refused where a filter has none. Apart from `default` and `length`,
filters want a value that exists. The filters are those for texts and numbers and the plain ones for
items; the others of the template engine, such as sums and groups of items, are unknown here.

* `applyFilter` : the value of a filter;
* `applyTest` : the truth of a test;
* `callFunction` : the value of a function.
-/

namespace Dossier.Template

/-- The arguments of a filter, a test or a function. -/
structure Arguments where
  positional : List Value
  named : List (String × Value)

namespace Arguments

/-- At most so many arguments, none of them with a name. -/
def atMost (args : Arguments) (n : Nat) : Except FieldError (List Value) :=
  if args.named.isEmpty && args.positional.length ≤ n then .ok args.positional else refused

end Arguments

namespace Value

/-- A value that exists. -/
def present (v : Value) : Except FieldError Value := if v.isUndefined then missing else .ok v

/-- The text of a value that exists. -/
def presentText (v : Value) : Except FieldError (List Char) := do return (← v.present).text.toList

/-- The string that a value is. -/
def string (v : Value) : Except FieldError (List Char) := do
  match ← v.present with
  | str s => .ok s.toList
  | _ => refused

/-- An argument that may be missing. -/
def optional {α : Type} (args : List Value) (place : Nat) (read : Value → Except FieldError α) :
    Except FieldError (Option α) :=
  match args[place]? with
  | Option.none => .ok Option.none
  | some none => .ok Option.none
  | some v => do return some (← read (← v.present))

/-- An argument that has to be there. -/
def required {α : Type} (args : List Value) (place : Nat) (read : Value → Except FieldError α) :
    Except FieldError α :=
  match args[place]? with
  | Option.none => refused
  | some v => read v

/-- An integer that a value is. -/
def whole (v : Value) : Except FieldError Int :=
  match v.integer? with
  | some n => .ok n
  | Option.none => refused

/-- The truth value that a value is. -/
def boolean (v : Value) : Except FieldError Bool :=
  match v with
  | bool b => .ok b
  | _ => refused

/-- A string of characters. -/
def ofChars (s : List Char) : Value := str (String.ofList s)

/-! ## Filters -/

/-- The items of a value that can be gone through. -/
def iterated (v : Value) : Except FieldError (List Value) := do
  match (← v.present).items? with
  | some items => .ok items
  | Option.none => refused

def firstItem (v : Value) : Except FieldError Value := do return (← v.iterated).head?.getD undefined

def lastItem (v : Value) : Except FieldError Value :=
  match v with
  | none => refused
  | map _ => refused
  | v => do return (← v.iterated).getLast?.getD undefined

/-- The items in the opposite order. -/
def reversed (v : Value) : Except FieldError Value :=
  match v with
  | none => .ok none
  | str s => .ok (ofChars s.toList.reverse)
  | v => do return list (← v.iterated).reverse

def lengthOf (v : Value) : Except FieldError Value :=
  match v.length? with
  | some n => .ok (int n)
  | Option.none => refused

/-- The pieces of a text between separators, or its words. -/
def pieces (v : Value) (args : List Value) : Except FieldError Value := do
  let s ← v.string
  let separator ← optional args 0 string
  let limit ← optional args 1 whole
  let limit := (limit.filter (0 ≤ ·)).map fun n => n.toNat + 1
  let parts := match separator, limit with
    | Option.none, Option.none => Text.words s
    | some t, Option.none => Text.split t s
    | Option.none, some n => (Text.splitBlanks n s).filter fun w => !w.isEmpty
    | some t, some n => Text.splitLimited t n s
  return stream (parts.map ofChars)

/-- The texts of items with a separator, which is left out as long as there is no text. -/
def joined (v : Value) (separator : String) : Except FieldError Value := do
  return str ((← v.iterated).foldl (fun s item =>
    (if s.isEmpty then s else s ++ separator) ++ item.text) "")

/-- An integer within 128 bits that is nearest to a given one. -/
def clamped (n : Int) : Value := int (max (-(twoTo 127 : Int)) (min ((twoTo 127 : Int) - 1) n))

/-- The whole part of a floating-point number. -/
def ofWholePart (x : Float) : Value := if x.isNaN then int 0 else clamped (wholePart x)

/-- The integer of a text: its digits with a sign or none. -/
def readInteger? (s : List Char) : Option Int :=
  let (negative, digits) := splitSign s
  let n : Int := if negative then -(valueOf digits : Int) else valueOf digits
  let fits := decide (-(twoTo 127 : Int) ≤ n ∧ n < twoTo 127)
  if !digits.isEmpty && digits.all Char.isDigit && fits then some n else Option.none

/-- A value as an integer. -/
def toInteger (v : Value) : Except FieldError Value := do
  match ← v.present with
  | none => .ok (int 0)
  | bool b => .ok (int (if b then 1 else 0))
  | int n => .ok (int n)
  | float x => .ok (ofWholePart x)
  | str s =>
    match readInteger? s.toList with
    | some n => .ok (int n)
    | Option.none =>
      match readFloat? s.toList with
      | some x => .ok (ofWholePart x)
      | Option.none => refused
  | _ => refused

/-- A value as a floating-point number. -/
def toFloat (v : Value) : Except FieldError Value := do
  match ← v.present with
  | none => .ok (float 0)
  | str s =>
    match readFloat? s.toList with
    | some x => .ok (float x)
    | Option.none => refused
  | v =>
    match v.float? with
    | some x => .ok (float x)
    | Option.none => refused

/-- A number rounded to so many decimals; halves go away from zero. -/
def rounded (v : Value) (decimals : Int) : Except FieldError Value := do
  match ← v.present with
  | int n => .ok (int n)
  | float x =>
    let unit :=
      if 0 ≤ decimals then Float.ofScientific 1 false decimals.toNat
      else 1 / Float.ofScientific 1 false decimals.natAbs
    .ok (float ((unit * x).round / unit))
  | _ => refused

/-- A number without its sign. -/
def magnitude (v : Value) : Except FieldError Value := do
  match ← v.present with
  | int n => ofInt n.natAbs
  | float x => .ok (float x.abs)
  | _ => refused

/-- The key by which a value is sorted; letters of ASCII are alike in both cases unless case
counts. -/
def sortKey (caseCounts : Bool) (v : Value) : Value :=
  match v with
  | str s => if caseCounts then v else ofChars (s.toList.map Char.toLower)
  | v => v

/-- The value at the end of a path of members and places, with points between them. -/
def follow (v : Value) (path : List Char) : Value :=
  (Text.split ['.'] path).foldl (fun v part =>
    if !part.isEmpty && part.all Char.isDigit then v.item (int (valueOf part))
    else v.member (String.ofList part)) v

/-- An argument with a name that may be missing. -/
def option {α : Type} (named : List (String × Value)) (name : String)
    (read : Value → Except FieldError α) : Except FieldError (Option α) :=
  optional (named.lookup name).toList 0 read

/-- The items in order, or in the order of a member of each. -/
def sorted (v : Value) (args : Arguments) : Except FieldError Value := do
  let items ← v.iterated
  let known := ["attribute", "reverse", "case_sensitive"]
  if !args.positional.isEmpty || args.named.any fun a => !known.contains a.1 then refused
  else
    let caseCounts := (← option args.named "case_sensitive" boolean).getD false
    let path ← option args.named "attribute" string
    let backwards := (← option args.named "reverse" boolean).getD false
    let key (v : Value) := sortKey caseCounts ((path.map v.follow).getD v)
    let items := items.mergeSort fun a b => (key a).compare (key b) != .gt
    return list (if backwards then items.reverse else items)

/-- The text of a character in HTML. -/
def htmlChar (c : Char) : List Char :=
  if c = '<' then "&lt;".toList
  else if c = '>' then "&gt;".toList
  else if c = '&' then "&amp;".toList
  else if c = '"' then "&quot;".toList
  else if c = '\'' then "&#x27;".toList
  else if c = '/' then "&#x2f;".toList
  else [c]

/-- A value, or another one if it does not exist, or, if this is asked for, is not true. -/
def orElse (v : Value) (args : List Value) : Except FieldError Value := do
  let other ← optional args 0 .ok
  let alsoFalse ← optional args 1 boolean
  if v.isUndefined || (alsoFalse.getD false && !v.isTrue) then return other.getD (str "")
  else return v

/-- A filter of fields, applied to the text of a value. -/
def ofField (f : Filter) (v : Value) : Except FieldError Value := do
  return str (← f.apply (← v.present).text)

end Value

open Value

/-- The value of a filter. -/
def applyFilter (name : String) (v : Value) (args : Arguments) : Except FieldError Value :=
  match name with
  | "parse_monetary" => do
    let _ ← args.atMost 0
    ofField .parseMonetary v
  | "parse_date" => do
    let format ← optional (← args.atMost 1) 0 fun v => .ok v.text
    ofField (.parseDate format) v
  | "trim" => do
    let _ ← args.atMost 0
    ofField .trim v
  | "upper" => do
    let s ← v.presentText
    let _ ← args.atMost 0
    return ofChars (Text.uppercase s)
  | "lower" => do
    let s ← v.presentText
    let _ ← args.atMost 0
    return ofChars (Text.lowercase s)
  | "title" => do
    let s ← v.presentText
    let _ ← args.atMost 0
    return ofChars (Text.titleCase s)
  | "capitalize" => do
    let s ← v.presentText
    let _ ← args.atMost 0
    return ofChars (Text.capitalize s)
  | "replace" => do
    let s ← v.presentText
    let rest ← args.atMost 2
    let old ← required rest 0 presentText
    let new ← required rest 1 presentText
    return ofChars (Text.replace old new s)
  | "default" => do orElse v (← args.atMost 2)
  | "d" => do orElse v (← args.atMost 2)
  | "first" => do
    let _ ← args.atMost 0
    firstItem v
  | "last" => do
    let _ ← args.atMost 0
    lastItem v
  | "reverse" => do
    let _ ← args.atMost 0
    reversed v
  | "length" => do
    let _ ← args.atMost 0
    lengthOf v
  | "count" => do
    let _ ← args.atMost 0
    lengthOf v
  | "split" => do
    let v ← v.present
    pieces v (← args.atMost 2)
  | "join" => do
    let v ← v.present
    let separator ← optional (← args.atMost 1) 0 presentText
    joined v (String.ofList (separator.getD []))
  | "int" => do
    let _ ← args.atMost 0
    toInteger v
  | "float" => do
    let _ ← args.atMost 0
    toFloat v
  | "round" => do
    let v ← v.present
    let decimals ← optional (← args.atMost 1) 0 whole
    rounded v (decimals.getD 0)
  | "abs" => do
    let _ ← args.atMost 0
    Value.magnitude v
  | "sort" => sorted v args
  | "e" => do
    let _ ← args.atMost 0
    return ofChars ((← v.presentText).flatMap htmlChar)
  | "escape" => do
    let _ ← args.atMost 0
    return ofChars ((← v.presentText).flatMap htmlChar)
  | "list" => do
    let _ ← args.atMost 0
    return list (← v.iterated)
  | name => .error (.unknownFilter name)

/-! ## Tests -/

/-- Whether a number can be divided without rest. -/
def isDivisible (v divisor : Value) : Bool :=
  match exactNumbers? v divisor with
  | some (.ints m n) => n != 0 && m % n == 0
  | some (.floats x y) => remainder x y == 0
  | Option.none => false

/-- Whether a container holds a value. Nothing is in a value that is no container. -/
def isIn (v container : Value) : Except FieldError Bool :=
  match container with
  | undefined => missing
  | container => .ok (match container.contains v with | .ok b => b | .error _ => false)

/-- Whether two values are one: equal and of one kind, where whole numbers are a kind of their
own. -/
def isSame (v w : Value) : Bool :=
  match v, w with
  | int _, float _ => false
  | float _, int _ => false
  | _, _ => v.kind == w.kind && v.equal w

/-- The comparison that a test stands for. -/
def comparison? (name : String) : Option BinaryOp :=
  match name with
  | "eq" => some .eq
  | "equalto" => some .eq
  | "ne" => some .ne
  | "lt" => some .lt
  | "lessthan" => some .lt
  | "le" => some .le
  | "gt" => some .gt
  | "greaterthan" => some .gt
  | "ge" => some .ge
  | _ => Option.none

/-- The truth of a test without arguments. -/
def plainTest? (name : String) : Option (Value → Bool) :=
  match name with
  | "defined" => some fun v => !v.isUndefined
  | "undefined" => some isUndefined
  | "none" => some (·.kind == .none)
  | "boolean" => some (·.kind == .boolean)
  | "number" => some (·.kind == .number)
  | "string" => some (·.kind == .string)
  | "sequence" => some (·.kind == .sequence)
  | "mapping" => some (·.kind == .mapping)
  | "iterable" => some fun v => v.items?.isSome
  | "integer" => some fun v => match v with | .int _ => true | _ => false
  | "float" => some fun v => match v with | .float _ => true | _ => false
  | "true" => some fun v => match v with | .bool b => b | _ => false
  | "false" => some fun v => match v with | .bool b => !b | _ => false
  | "odd" => some fun v => (v.integer?.map fun n => n % 2 != 0).getD false
  | "even" => some fun v => (v.integer?.map fun n => n % 2 == 0).getD false
  | _ => Option.none

/-- The value of a test. -/
def applyTest (name : String) (v : Value) (args : Arguments) : Except FieldError Value :=
  match plainTest? name with
  | some test => do
    let _ ← args.atMost 0
    return .bool (test v)
  | Option.none =>
    match comparison? name with
    | some op => do op.apply v (← required (← args.atMost 1) 0 .ok)
    | Option.none =>
      match name with
      | "in" => do return .bool (← isIn v (← required (← args.atMost 1) 0 .ok))
      | "sameas" => do return .bool (isSame v (← required (← args.atMost 1) 0 .ok))
      | "lower" => do
        let _ ← args.atMost 0
        return .bool ((← v.string).all CharSet.lowercase.contains)
      | "upper" => do
        let _ ← args.atMost 0
        return .bool ((← v.string).all CharSet.uppercase.contains)
      | "divisibleby" => do return .bool (isDivisible v (← required (← args.atMost 1) 0 .ok))
      | "startingwith" => do
        let s ← v.presentText
        return .bool ((← required (← args.atMost 1) 0 presentText).isPrefixOf s)
      | "endingwith" => do
        let s ← v.presentText
        return .bool ((← required (← args.atMost 1) 0 presentText).isSuffixOf s)
      | _ => refused

/-! ## Functions -/

/-- A natural number of 32 bits. -/
def bounded (v : Value) : Except FieldError Nat := do
  let n ← (← v.present).whole
  if 0 ≤ n ∧ n < twoTo 32 then .ok n.toNat else refused

/-- The numbers from one on and below another one, with a step; at most a hundred thousand. -/
def numberRange (low high step : Nat) : Except FieldError Value :=
  if step = 0 then refused
  else
    let count := (high - low + step - 1) / step
    if 100000 < count then refused
    else .ok (.list ((List.range count).map fun i => .int (Int.ofNat (low + i * step))))

/-- The value of a function with a name. -/
def callFunction (name : String) (args : Arguments) : Except FieldError Value :=
  match name with
  | "range" => do
    let args ← args.atMost 3
    let first ← required args 0 bounded
    let second ← optional args 1 bounded
    let step ← optional args 2 bounded
    match second with
    | Option.none => numberRange 0 first (step.getD 1)
    | some high => numberRange first high (step.getD 1)
  | _ => refused

end Dossier.Template
