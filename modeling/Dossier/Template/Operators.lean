import Dossier.Fields.Filter
import Dossier.Template.Expr
import Dossier.Text.Pieces

/-!
# Operators of templates

What is undefined can be compared and tested, but not printed, nor can it decide a condition.

* `truth` : the truth of a condition;
* `UnaryOp.apply`, `BinaryOp.apply` : the operators that evaluate all their operands;
* `sliced` : a part of a sequence.
-/

namespace Dossier.Template

/-- The error of a value that does not exist. Its name is found later. -/
def missing {α : Type} : Except FieldError α := .error (.undefinedVariable none)

/-- The error of an operation that a value does not allow. -/
def refused {α : Type} : Except FieldError α := .error .templateFailure

namespace Value

/-- The truth of a condition. -/
def truth (v : Value) : Except FieldError Bool :=
  match v with
  | undefined => missing
  | v => .ok v.isTrue

/-- An integer of 128 bits. -/
def ofInt (n : Int) : Except FieldError Value :=
  if -(twoTo 127 : Int) ≤ n ∧ n < twoTo 127 then .ok (int n) else refused

/-- The sum of two numbers, or two texts or sequences one after the other. -/
def add (a b : Value) : Except FieldError Value :=
  match a, b with
  | str s, str t => .ok (str (s ++ t))
  | list as, list bs => .ok (list (as ++ bs))
  | _, _ =>
    match numbers? a b with
    | some (.ints m n) => ofInt (m + n)
    | some (.floats x y) => .ok (float (x + y))
    | Option.none => refused

def sub (a b : Value) : Except FieldError Value :=
  match numbers? a b with
  | some (.ints m n) => ofInt (m - n)
  | some (.floats x y) => .ok (float (x - y))
  | Option.none => refused

/-- How often a text or sequence is repeated. -/
def count? (v : Value) : Option Nat :=
  v.integer?.bind fun n => if 0 ≤ n then some n.toNat else Option.none

/-- A text or sequence so many times. -/
def repeated (v count : Value) : Except FieldError Value :=
  match v, count.count? with
  | str s, some n => .ok (str (String.join (List.replicate n s)))
  | list items, some n => .ok (list (List.replicate n items).flatten)
  | _, _ => refused

/-- The product of two numbers, or a text or sequence repeated. -/
def mul (a b : Value) : Except FieldError Value :=
  match a, b with
  | str _, _ => repeated a b
  | list _, _ => repeated a b
  | _, str _ => repeated b a
  | _, list _ => repeated b a
  | _, _ =>
    match numbers? a b with
    | some (.ints m n) => ofInt (m * n)
    | some (.floats x y) => .ok (float (x * y))
    | Option.none => refused

/-- The quotient of two numbers as a floating-point number. -/
def div (a b : Value) : Except FieldError Value :=
  match a.float?, b.float? with
  | some x, some y => .ok (float (x / y))
  | _, _ => refused

/-- The quotient rounded towards zero. -/
def truncatedQuotient (x y : Float) : Float :=
  let q := x / y
  if q.isFinite && q.abs < 9007199254740992 then
    if q.abs < 1 then q * 0 else Float.ofInt (wholePart q)
  else q

/-- The remainder with the sign of the dividend, without rounding. -/
def remainder (x y : Float) : Float :=
  if !x.isFinite || y == 0 || y.isNaN then 0 / 0
  else if !y.isFinite then x
  else
    let a := Binary.ofBits (x.toBits.toNat % twoTo 63)
    let b := Binary.ofBits (y.toBits.toNat % twoTo 63)
    let power := min a.power b.power
    let scaled (c : Binary) : Nat := c.significand * twoTo (c.power - power).toNat
    let r := (Float.ofNat (scaled a % scaled b)).scaleB power
    if x < 0 then -r else r

/-- The quotient without rest, such that the rest is not negative. -/
def floorDiv (a b : Value) : Except FieldError Value :=
  match numbers? a b with
  | some (.ints m n) => if n = 0 then refused else ofInt (m / n)
  | some (.floats x y) =>
    let q := truncatedQuotient x y
    if remainder x y < 0 then .ok (float (if 0 < y then q - 1 else q + 1)) else .ok (float q)
  | Option.none => refused

/-- The rest of a division, which is not negative. -/
def mod (a b : Value) : Except FieldError Value :=
  match numbers? a b with
  | some (.ints m n) => if n = 0 then refused else ofInt (m % n)
  | some (.floats x y) =>
    let r := remainder x y
    .ok (float (if r < 0 then r + y.abs else r))
  | Option.none => refused

/-- A power. Powers of integers have exponents of 32 bits that are not negative. -/
def pow (a b : Value) : Except FieldError Value :=
  match numbers? a b with
  | some (.ints m n) =>
    if n < 0 ∨ (twoTo 32 : Int) ≤ n then refused
    else if m.natAbs ≤ 1 then ofInt (m.pow (if n = 0 then 0 else 2 - n.toNat % 2))
    else if 128 < n then refused
    else ofInt (m.pow n.toNat)
  | some (.floats x y) => .ok (float (x.pow y))
  | Option.none => refused

/-- Whether a value occurs in a container: a text in a text, a key in a map, an item in a
sequence. -/
def contains (container v : Value) : Except FieldError Bool :=
  match container with
  | undefined => missing
  | silent => .ok false
  | str s => .ok (Text.occursIn v.text.toList s.toList)
  | map entries => .ok (find? v entries).isSome
  | list items => .ok (items.any (equal · v))
  | stream items => .ok (items.any (equal · v))
  | _ => refused

/-- The texts of two values, one after the other. -/
def join (a b : Value) : Except FieldError Value :=
  match a, b with
  | undefined, _ => missing
  | _, undefined => missing
  | _, _ => .ok (str (a.text ++ b.text))

/-- The value with the opposite sign. -/
def negate (v : Value) : Except FieldError Value :=
  match v with
  | int n => ofInt (-n)
  | float x => .ok (float (-x))
  | _ => refused

/-! ## Slices -/

/-- A bound of a slice, if it is given. -/
def bound (v : Value) : Except FieldError (Option Int) :=
  match v with
  | none => .ok Option.none
  | v =>
    match v.integer? with
    | some n => .ok (some n)
    | Option.none => refused

/-- A place that may count from the end of a sequence of given length. -/
def placeFrom (length : Nat) (place : Int) : Int := if place < 0 then length + place else place

/-- The first item and every further one at a distance. -/
def everyNth {α : Type} (n : Nat) (items : List α) : List α :=
  items.zipIdx.filterMap fun (a, i) => if i % n = 0 then some a else Option.none

/-- The items from one place up to another one, with a step. A step below zero goes backwards. -/
def slicedItems {α : Type} (items : List α) (length : Nat) (start stop : Option Int) (step : Int) :
    List α :=
  if 0 < step then
    let low := (placeFrom length (start.getD 0)).toNat
    let high := (placeFrom length (stop.getD length)).toNat
    everyNth step.toNat ((items.drop low).take (high - low))
  else
    let first := min (placeFrom length (start.getD (length - 1))) (length - 1)
    let last := (stop.map fun n => max (placeFrom length n) (-1)).getD (-1)
    let low := (last + 1).toNat
    everyNth step.natAbs ((items.drop low).take ((first + 1).toNat - low)).reverse

/-- A part of a sequence or text. -/
def sliced (v start stop step : Value) : Except FieldError Value := do
  if let undefined := v then missing
  let start ← bound start
  let stop ← bound stop
  let step := (← bound step).getD 1
  if step = 0 then refused
  else match v with
    | silent => .ok (list [])
    | none => .ok (list [])
    | str s =>
      .ok (str (String.ofList (slicedItems s.toList s.length start stop step)))
    | list items => .ok (list (slicedItems items items.length start stop step))
    | stream items => .ok (stream (slicedItems items 0 start stop step))
    | _ => refused

end Value

open Value

/-- The value of an operator in front of a value. -/
def UnaryOp.apply (op : UnaryOp) (v : Value) : Except FieldError Value :=
  match op with
  | not => do return .bool !(← v.truth)
  | negate => v.negate

/-- The value of an operator between two values. For `and` and `or` the left value has not decided,
and the right one is the result. -/
def BinaryOp.apply (op : BinaryOp) (a b : Value) : Except FieldError Value :=
  match op with
  | or => .ok b
  | and => .ok b
  | eq => .ok (.bool (a.equal b))
  | ne => .ok (.bool !(a.equal b))
  | lt => .ok (.bool (a.compare b == .lt))
  | le => .ok (.bool (a.compare b != .gt))
  | gt => .ok (.bool (a.compare b == .gt))
  | ge => .ok (.bool (a.compare b != .lt))
  | within => do return .bool (← b.contains a)
  | add => a.add b
  | sub => a.sub b
  | join => a.join b
  | mul => a.mul b
  | div => a.div b
  | floorDiv => a.floorDiv b
  | mod => a.mod b
  | pow => a.pow b

end Dossier.Template
