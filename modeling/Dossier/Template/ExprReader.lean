import Dossier.Template.Expr
import Dossier.Template.Token

/-!
# Reading expressions of templates

From the loosest to the tightest: the inline `if`, `or`, `and`, `not`, comparisons, sums, the
joining of texts, products, powers, the sign, and what follows a value: members, items, calls,
filters and tests.

* `readExpr` : the expression at the start of the tokens of a tag.
-/

namespace Dossier.Template

/-- The fault of tokens that do not go on as they should. -/
def unexpected {α : Type} (ts : List Token) : Except Fault α :=
  match ts with
  | .fault f :: _ => .error f
  | _ => .error .malformed

/-- Passes over a symbol. -/
def expectSymbol (s : String) (ts : List Token) : Except Fault (List Token) :=
  match ts with
  | .symbol t :: rest => if t = s then .ok rest else .error .malformed
  | _ => unexpected ts

/-- Passes over a word. -/
def expectWord (s : String) (ts : List Token) : Except Fault (List Token) :=
  match ts with
  | .name t :: rest => if t = s then .ok rest else .error .malformed
  | _ => unexpected ts

/-- Reads a name. -/
def expectName (ts : List Token) : Except Fault (String × List Token) :=
  match ts with
  | .name s :: rest => .ok (s, rest)
  | _ => unexpected ts

/-- Whether tokens start with a symbol. -/
def atSymbol (s : String) (ts : List Token) : Bool :=
  match ts with
  | .symbol t :: _ => t == s
  | _ => false

/-- Whether tokens start with a word. -/
def atWord (s : String) (ts : List Token) : Bool :=
  match ts with
  | .name t :: _ => t == s
  | _ => false

/-- The operator of a level at the start of tokens, and whether it is denied. -/
def operatorAt? (level : Nat) (ts : List Token) : Option (BinaryOp × Bool × List Token) :=
  match ts with
  | .symbol s :: rest => atLevel (BinaryOp.ofSymbol? s) false rest
  | .name "not" :: .name "in" :: rest => atLevel (some .within) true rest
  | .name s :: rest => atLevel (BinaryOp.ofName? s) false rest
  | _ => none
where
  atLevel (op : Option BinaryOp) (denied : Bool) (rest : List Token) :
      Option (BinaryOp × Bool × List Token) :=
    match op with
    | some op => if op.level = level then some (op, denied, rest) else none
    | none => none

/-- The level of signs, which bind tighter than all operators between values. -/
def signLevel : Nat := 8

/-- Whether a token can be the argument of a test without parentheses. -/
def startsTestArgument (ts : List Token) : Bool :=
  match ts with
  | .name s :: _ => !(["and", "or", "else", "is"].contains s)
  | .str _ :: _ => true
  | .int _ :: _ => true
  | .float _ :: _ => true
  | .symbol s :: _ => ["+", "-", "[", "\x7b"].contains s
  | _ => false

mutual

/-- Reads an expression. The fuel bounds the nesting of calls; a token needs at most a dozen. -/
def readFull : Nat → List Token → Except Fault (Expr × List Token)
  | 0, _ => .error .malformed
  | fuel + 1, ts => do
    let (e, ts) ← readLevel fuel 0 ts
    readChoices fuel e ts

/-- Reads the inline conditions after an expression. -/
def readChoices : Nat → Expr → List Token → Except Fault (Expr × List Token)
  | 0, _, _ => .error .malformed
  | fuel + 1, e, ts =>
    if atWord "if" ts then do
      let (test, ts) ← readLevel fuel 0 ts.tail
      if atWord "else" ts then do
        let (other, ts) ← readFull fuel ts.tail
        readChoices fuel (.choice test e other) ts
      else readChoices fuel (.choice test e (.const .silent)) ts
    else .ok (e, ts)

/-- Reads an expression whose operators bind at least as tightly as a level. -/
def readLevel : Nat → Nat → List Token → Except Fault (Expr × List Token)
  | 0, _, _ => .error .malformed
  | fuel + 1, level, ts =>
    if level = signLevel then readSigned fuel ts
    else if level = 2 then
      if atWord "not" ts then do
        let (e, ts) ← readLevel fuel 2 ts.tail
        return (.unary .not e, ts)
      else readLevel fuel 3 ts
    else do
      let (e, ts) ← readLevel fuel (level + 1) ts
      readOperands fuel level e ts

/-- Reads the operators of one level and their right operands; they associate to the left. -/
def readOperands : Nat → Nat → Expr → List Token → Except Fault (Expr × List Token)
  | 0, _, _, _ => .error .malformed
  | fuel + 1, level, left, ts =>
    match operatorAt? level ts with
    | none => .ok (left, ts)
    | some (op, denied, ts) => do
      let (right, ts) ← readLevel fuel (level + 1) ts
      let e := Expr.binary op left right
      readOperands fuel level (if denied then .unary .not e else e) ts

/-- Reads a value with the signs before it and all that follows it. -/
def readSigned : Nat → List Token → Except Fault (Expr × List Token)
  | 0, _ => .error .malformed
  | fuel + 1, ts => do
    let (e, ts) ← readSign fuel ts
    let (e, ts) ← readParts fuel e ts
    readFilters fuel e ts

/-- Reads a value with the signs before it. -/
def readSign : Nat → List Token → Except Fault (Expr × List Token)
  | 0, _ => .error .malformed
  | fuel + 1, ts =>
    if atSymbol "-" ts then do
      let (e, ts) ← readSign fuel ts.tail
      return (.unary .negate e, ts)
    else readPrimary fuel ts

/-- Reads a name, a constant, or an expression in brackets. -/
def readPrimary : Nat → List Token → Except Fault (Expr × List Token)
  | 0, _ => .error .malformed
  | fuel + 1, ts =>
    match ts with
    | .name "true" :: ts => .ok (.const (.bool true), ts)
    | .name "True" :: ts => .ok (.const (.bool true), ts)
    | .name "false" :: ts => .ok (.const (.bool false), ts)
    | .name "False" :: ts => .ok (.const (.bool false), ts)
    | .name "none" :: ts => .ok (.const .none, ts)
    | .name "None" :: ts => .ok (.const .none, ts)
    | .name s :: ts => .ok (.var s, ts)
    | .str s :: ts => .ok (.const (.str s), ts)
    | .int n :: ts => .ok (.const (.int n), ts)
    | .float x :: ts => .ok (.const (.float x), ts)
    | .symbol "(" :: ts =>
      if atSymbol ")" ts then .ok (.list [], ts.tail)
      else do
        let (e, ts) ← readFull fuel ts
        if atSymbol "," ts then do
          let (items, ts) ← readItems fuel ")" ts
          return (.list (e :: items), ts)
        else do
          let ts ← expectSymbol ")" ts
          return (e, ts)
    | .symbol "[" :: ts =>
      if atSymbol "]" ts then .ok (.list [], ts.tail)
      else do
        let (e, ts) ← readFull fuel ts
        let (items, ts) ← readItems fuel "]" ts
        return (.list (e :: items), ts)
    | .symbol "\x7b" :: ts =>
      if atSymbol "\x7d" ts then .ok (.map [], ts.tail)
      else do
        let (entry, ts) ← readEntry fuel ts
        let (entries, ts) ← readEntries fuel ts
        return (.map (entry :: entries), ts)
    | ts => unexpected ts

/-- Reads further items, each after a comma, up to a closing bracket. -/
def readItems : Nat → String → List Token → Except Fault (List Expr × List Token)
  | 0, _, _ => .error .malformed
  | fuel + 1, closing, ts =>
    if atSymbol closing ts then .ok ([], ts.tail)
    else do
      let ts ← expectSymbol "," ts
      if atSymbol closing ts then return ([], ts.tail)
      let (e, ts) ← readFull fuel ts
      let (items, ts) ← readItems fuel closing ts
      return (e :: items, ts)

/-- Reads a key and its value. -/
def readEntry : Nat → List Token → Except Fault ((Expr × Expr) × List Token)
  | 0, _ => .error .malformed
  | fuel + 1, ts => do
    let (key, ts) ← readFull fuel ts
    let ts ← expectSymbol ":" ts
    let (value, ts) ← readFull fuel ts
    return ((key, value), ts)

/-- Reads further entries of a map, each after a comma, up to its end. -/
def readEntries : Nat → List Token → Except Fault (List (Expr × Expr) × List Token)
  | 0, _ => .error .malformed
  | fuel + 1, ts =>
    if atSymbol "\x7d" ts then .ok ([], ts.tail)
    else do
      let ts ← expectSymbol "," ts
      if atSymbol "\x7d" ts then return ([], ts.tail)
      let (entry, ts) ← readEntry fuel ts
      let (entries, ts) ← readEntries fuel ts
      return (entry :: entries, ts)

/-- Reads the members, items, slices and calls after a value. -/
def readParts : Nat → Expr → List Token → Except Fault (Expr × List Token)
  | 0, _, _ => .error .malformed
  | fuel + 1, e, ts =>
    match ts with
    | .symbol "." :: ts => do
      let (name, ts) ← expectName ts
      readParts fuel (.member e name) ts
    | .symbol "[" :: ts => do
      let (e, ts) ← readSubscript fuel e ts
      readParts fuel e ts
    | .symbol "(" :: ts => do
      let (args, ts) ← readArguments fuel ts
      readParts fuel (.call e args) ts
    | ts => .ok (e, ts)

/-- Reads an index or a slice whose opening bracket has been passed. -/
def readSubscript : Nat → Expr → List Token → Except Fault (Expr × List Token)
  | 0, _, _ => .error .malformed
  | fuel + 1, e, ts => do
    let (start, ts) ← readBound fuel ts
    if atSymbol ":" ts then
      let (stop, ts) ← readBound fuel ts.tail
      let (step, ts) ← if atSymbol ":" ts then readBound fuel ts.tail else .ok (none, ts)
      let ts ← expectSymbol "]" ts
      let bound (b : Option Expr) : Expr := b.getD (.const .none)
      return (.slice e (bound start) (bound stop) (bound step), ts)
    else
      let ts ← expectSymbol "]" ts
      match start with
      | some index => return (.item e index, ts)
      | none => .error .malformed

/-- Reads a part of a slice, which may be missing. -/
def readBound : Nat → List Token → Except Fault (Option Expr × List Token)
  | 0, _ => .error .malformed
  | fuel + 1, ts =>
    if atSymbol ":" ts || atSymbol "]" ts then .ok (none, ts)
    else do
      let (e, ts) ← readFull fuel ts
      return (some e, ts)

/-- Reads arguments whose opening parenthesis has been passed. -/
def readArguments : Nat → List Token → Except Fault (List Argument × List Token)
  | 0, _ => .error .malformed
  | fuel + 1, ts =>
    if atSymbol ")" ts then .ok ([], ts.tail)
    else do
      let (arg, ts) ← readArgument fuel false ts
      let (args, ts) ← readMoreArguments fuel arg.1.isSome ts
      return (arg :: args, ts)

/-- Reads further arguments, each after a comma, up to the closing parenthesis. -/
def readMoreArguments : Nat → Bool → List Token → Except Fault (List Argument × List Token)
  | 0, _, _ => .error .malformed
  | fuel + 1, named, ts =>
    if atSymbol ")" ts then .ok ([], ts.tail)
    else do
      let ts ← expectSymbol "," ts
      if atSymbol ")" ts then return ([], ts.tail)
      let (arg, ts) ← readArgument fuel named ts
      let (args, ts) ← readMoreArguments fuel arg.1.isSome ts
      return (arg :: args, ts)

/-- Reads one argument. After an argument with a name there is none without. -/
def readArgument : Nat → Bool → List Token → Except Fault (Argument × List Token)
  | 0, _, _ => .error .malformed
  | fuel + 1, named, ts => do
    let (e, ts) ← readFull fuel ts
    match e with
    | .var name =>
      if atSymbol "=" ts then
        let (value, ts) ← readLevel fuel 0 ts.tail
        return ((some name, value), ts)
      else if named then .error .malformed
      else return ((none, e), ts)
    | _ => if named then .error .malformed else return ((none, e), ts)

/-- Reads the filters and tests after a value. -/
def readFilters : Nat → Expr → List Token → Except Fault (Expr × List Token)
  | 0, _, _ => .error .malformed
  | fuel + 1, e, ts =>
    if atSymbol "|" ts then do
      let (name, ts) ← expectName ts.tail
      let (args, ts) ←
        if atSymbol "(" ts then readArguments fuel ts.tail else .ok ([], ts)
      readFilters fuel (.filter name e args) ts
    else if atWord "is" ts then do
      let denied := atWord "not" ts.tail
      let (name, ts) ← expectName (if denied then ts.tail.tail else ts.tail)
      let (args, ts) ← readTestArguments fuel ts
      let test := Expr.test name e args
      readFilters fuel (if denied then .unary .not test else test) ts
    else .ok (e, ts)

/-- Reads the arguments of a test. A single one needs no parentheses. -/
def readTestArguments : Nat → List Token → Except Fault (List Argument × List Token)
  | 0, _ => .error .malformed
  | fuel + 1, ts =>
    if atSymbol "(" ts then readArguments fuel ts.tail
    else if startsTestArgument ts then do
      let (e, ts) ← readSign fuel ts
      let (e, ts) ← readParts fuel e ts
      return ([(none, e)], ts)
    else .ok ([], ts)

end

/-- Enough fuel to read an expression from tokens. -/
def readingFuel (ts : List Token) : Nat := 16 * (ts.length + 1)

/-- Reads an expression. -/
def readExpr (ts : List Token) : Except Fault (Expr × List Token) := readFull (readingFuel ts) ts

/-- Reads an expression without inline conditions. -/
def readUnconditional (ts : List Token) : Except Fault (Expr × List Token) :=
  readLevel (readingFuel ts) 0 ts

end Dossier.Template
