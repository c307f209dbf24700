import Dossier.Entries
import Dossier.Number.FloatOrder
import Dossier.Number.FloatText
import Dossier.Text.Quoted

/-!
# Values of templates

* `Value`, `Kind` : what an expression of a template can stand for;
* `Value.text` : how a value is printed;
* `Value.isTrue`, `Value.equal`, `Value.compare` : truth, equality and order of values;
* `Value.items?`, `Value.member`, `Value.item` : what a value is made of.
-/

namespace Dossier.Template

/-- A value of a template. -/
inductive Value where
  /-- The value of a variable, attribute or element that does not exist. -/
  | undefined
  /-- The value of a choice without an alternative; it may be printed, as nothing. -/
  | silent
  | none
  | bool (b : Bool)
  | int (n : Int)
  | float (x : Float)
  | str (s : String)
  | list (items : List Value)
  /-- A sequence whose length is not known before its end. -/
  | stream (items : List Value)
  /-- Values by key, in the order of the keys. -/
  | map (entries : List (Value × Value))
deriving Inhabited

/-- The kinds of values, in the order of their values. -/
inductive Kind where
  | undefined
  | none
  | boolean
  | number
  | string
  | sequence
  | mapping
  | stream
deriving DecidableEq, Ord

namespace Value

/-! ## Printing -/

/-- How numbers are set inside lists and maps: with powers of ten from 10^16 on and below 10^-4. -/
def innerFloat : FloatLayout := ⟨some 16, some 3, true⟩

/-- Items between brackets, with commas. -/
def enclosed (opening closing : String) (items : List String) : String :=
  opening ++ String.intercalate ", " items ++ closing

mutual

/-- How a value is printed inside a list or map. -/
def innerText : Value → String
  | undefined => "undefined"
  | silent => "undefined"
  | none => "None"
  | bool b => if b then "True" else "False"
  | int n => String.ofList (intText n)
  | float x => String.ofList (innerFloat.text x)
  | str s => quoted s
  | list items => enclosed "[" "]" (itemTexts items)
  | stream items => enclosed "[" "]" (itemTexts items)
  | map entries => enclosed "\x7b" "\x7d" (entryTexts entries)

def itemTexts : List Value → List String
  | [] => []
  | v :: rest => innerText v :: itemTexts rest

def entryTexts : List (Value × Value) → List String
  | [] => []
  | (key, v) :: rest => (innerText key ++ ": " ++ innerText v) :: entryTexts rest

end

/-- How a value is printed by itself: a string as it is, and nothing if there is no value. -/
def text : Value → String
  | undefined => ""
  | silent => ""
  | str s => s
  | float x => String.ofList (FloatLayout.pointed.text x)
  | v => innerText v

/-! ## Truth, equality and order -/

/-- Whether there is no value. -/
def isUndefined : Value → Bool
  | undefined => true
  | silent => true
  | _ => false

/-- Whether a value counts as true: neither nothing, nor zero, nor empty. -/
def isTrue : Value → Bool
  | undefined => false
  | silent => false
  | none => false
  | bool b => b
  | int n => n != 0
  | float x => x != 0
  | str s => !s.isEmpty
  | list items => !items.isEmpty
  | stream _ => true
  | map entries => !entries.isEmpty

/-- The integer of a number or truth value, if it is whole. -/
def integer? : Value → Option Int
  | bool b => some (if b then 1 else 0)
  | int n => some n
  | float x => integral? x
  | _ => Option.none

/-- The number of a number or truth value. -/
def float? : Value → Option Float
  | bool b => some (if b then 1 else 0)
  | int n => some (Float.ofInt n)
  | float x => some x
  | _ => Option.none

/-- Two numbers of one kind. -/
inductive NumberPair where
  | ints (a b : Int)
  | floats (a b : Float)

/-- Two values as numbers of one kind: floating-point numbers if one of them is, else integers. -/
def numbers? : Value → Value → Option NumberPair
  | float a, b => b.float?.map (NumberPair.floats a)
  | a, float b => a.float?.map (NumberPair.floats · b)
  | a, b => do return NumberPair.ints (← a.integer?) (← b.integer?)

/-- Whether a number is itself after rounding to a floating-point number. -/
def isExact : Value → Bool
  | int n => integral? (Float.ofInt n) == some n
  | _ => true

/-- Two values as numbers of one kind, if none of them is rounded. -/
def exactNumbers? (a b : Value) : Option NumberPair :=
  match numbers? a b with
  | some (.floats x y) => if a.isExact && b.isExact then some (.floats x y) else Option.none
  | pair => pair

/-- The kind of a value. -/
def kind : Value → Kind
  | undefined => .undefined
  | silent => .undefined
  | none => .none
  | bool _ => .boolean
  | int _ => .number
  | float _ => .number
  | str _ => .string
  | list _ => .sequence
  | map _ => .mapping
  | stream _ => .stream

/-- The order of two values that are no sequences and no maps. -/
def compareBasic (a b : Value) : Ordering :=
  match a, b with
  | str s, str t => Ord.compare s t
  | _, _ =>
    if a.kind != b.kind then Ord.compare a.kind b.kind
    else match exactNumbers? a b with
      | some (.ints m n) => Ord.compare m n
      | some (.floats x y) => Ord.compare (totalKey x) (totalKey y)
      | Option.none => .eq

mutual

/-- The order of two values: by kind, and within a kind by size or item by item. -/
def compare : Value → Value → Ordering
  | list as, list bs => compareItems as bs
  | stream as, stream bs => compareItems as bs
  | map as, map bs => compareEntries as bs
  | a, b => compareBasic a b

def compareItems : List Value → List Value → Ordering
  | [], [] => .eq
  | [], _ :: _ => .lt
  | _ :: _, [] => .gt
  | a :: as, b :: bs => (compare a b).then (compareItems as bs)

def compareEntries : List (Value × Value) → List (Value × Value) → Ordering
  | [], [] => .eq
  | [], _ :: _ => .lt
  | _ :: _, [] => .gt
  | (k, a) :: as, (l, b) :: bs =>
    ((compare k l).then (compare a b)).then (compareEntries as bs)

end

/-- Whether two values that are no sequences and no maps are equal. -/
def equalBasic (a b : Value) : Bool :=
  match a, b with
  | none, none => true
  | str s, str t => s == t
  | _, _ =>
    if a.isUndefined || b.isUndefined then a.isUndefined && b.isUndefined
    else match exactNumbers? a b with
      | some (.ints m n) => m == n
      | some (.floats x y) => x == y
      | Option.none => false

mutual

/-- Whether two values are equal. A truth value equals zero or one, and a sequence each sequence
with equal items. -/
def equal : Value → Value → Bool
  | list as, list bs => equalItems as bs
  | list as, stream bs => equalItems as bs
  | stream as, list bs => equalItems as bs
  | stream as, stream bs => equalItems as bs
  | map as, map bs => equalEntries as bs
  | a, b => equalBasic a b

def equalItems : List Value → List Value → Bool
  | [], [] => true
  | a :: as, b :: bs => equal a b && equalItems as bs
  | _, _ => false

def equalEntries : List (Value × Value) → List (Value × Value) → Bool
  | [], [] => true
  | (k, a) :: as, (l, b) :: bs => equal k l && equal a b && equalEntries as bs
  | _, _ => false

end

/-! ## Parts -/

/-- Puts a value at a key of a map. -/
def put (key value : Value) : List (Value × Value) → List (Value × Value)
  | [] => [(key, value)]
  | (k, v) :: rest =>
    match compare key k with
    | .lt => (key, value) :: (k, v) :: rest
    | .eq => (key, value) :: rest
    | .gt => (k, v) :: put key value rest

/-- The map of entries in any order; of a repeated key the last value counts. -/
def ofEntries (pairs : List (Value × Value)) : Value :=
  map (pairs.foldl (fun entries p => put p.1 p.2 entries) [])

/-- The map of values with names. -/
def ofNamed (pairs : List (String × Value)) : Value :=
  ofEntries (pairs.map fun p => (str p.1, p.2))

/-- The value at a key of a map. -/
def find? (key : Value) (entries : List (Value × Value)) : Option Value :=
  (entries.find? fun e => equal e.1 key).map Prod.snd

/-- The string of one character. -/
def ofChar (c : Char) : Value := str (String.ofList [c])

/-- What a value is made of: items, keys or characters. Where there is nothing, it is made of
nothing. -/
def items? : Value → Option (List Value)
  | undefined => some []
  | silent => some []
  | none => some []
  | list items => some items
  | stream items => some items
  | map entries => some (entries.map Prod.fst)
  | str s => some (s.toList.map ofChar)
  | _ => Option.none

/-- How many items, keys or characters a value has, if this is known. -/
def length? : Value → Option Nat
  | str s => some s.length
  | list items => some items.length
  | map entries => some entries.length
  | _ => Option.none

/-- The attribute of a value with a name. -/
def member (v : Value) (name : String) : Value :=
  match v with
  | map entries => (find? (str name) entries).getD undefined
  | _ => undefined

/-- The item at a place; places below zero count from the end. -/
def itemAt (items : List Value) (length : Option Nat) (place : Int) : Value :=
  if 0 ≤ place then items.getD place.toNat undefined
  else match length with
    | some n => if place.natAbs ≤ n then items.getD (n - place.natAbs) undefined else undefined
    | Option.none => undefined

/-- The item of a value with an index or key. -/
def item (v index : Value) : Value :=
  match v with
  | map entries => (find? index entries).getD undefined
  | _ =>
    match v.items?, index.integer? with
    | some items, some place => itemAt items v.length? place
    | _, _ => undefined

end Value

end Dossier.Template
