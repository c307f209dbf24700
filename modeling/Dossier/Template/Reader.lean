import Dossier.Template.ExprReader
import Dossier.Template.Node

/-!
# Reading templates

* `readNodes` : the parts up to one of some words that end a block;
* `Template.read` : the template of a text.
-/

namespace Dossier.Template

/-- Names that cannot be assigned to. -/
def isReserved (s : String) : Bool := ["true", "false", "none", "loop", "self"].contains s

/-- Reads a name that can be assigned to. -/
def readTargetName (ts : List Token) : Except Fault (String × List Token) := do
  let (s, ts) ← expectName ts
  if isReserved s then .error .malformed else return (s, ts)

/-- Passes over the end of a block tag. -/
def expectBlockEnd (ts : List Token) : Except Fault (List Token) :=
  match ts with
  | .blockEnd :: rest => .ok rest
  | _ => unexpected ts

/-- Whether tokens are at a place where a list of targets can end. -/
def endsTargets (ts : List Token) : Bool :=
  match ts with
  | .symbol s :: _ => s == ")"
  | .name s :: _ => s == "in"
  | .outputEnd :: _ => true
  | .blockEnd :: _ => true
  | _ => false

mutual

/-- Reads a target: a name, or several targets with commas between them. -/
def readTarget : Nat → List Token → Except Fault (Target × List Token)
  | 0, _ => .error .malformed
  | fuel + 1, ts =>
    if endsTargets ts then .ok (.tuple [], ts)
    else do
      let (first, ts) ← readSingleTarget fuel ts
      if atSymbol "," ts then do
        let (more, ts) ← readMoreTargets fuel ts
        return (.tuple (first :: more), ts)
      else return (first, ts)

/-- Reads a name or targets in parentheses. -/
def readSingleTarget : Nat → List Token → Except Fault (Target × List Token)
  | 0, _ => .error .malformed
  | fuel + 1, ts =>
    if atSymbol "(" ts then do
      let (target, ts) ← readTarget fuel ts.tail
      let ts ← expectSymbol ")" ts
      return (target, ts)
    else do
      let (s, ts) ← readTargetName ts
      return (.name s, ts)

/-- Reads further targets, each after a comma. -/
def readMoreTargets : Nat → List Token → Except Fault (List Target × List Token)
  | 0, _ => .error .malformed
  | fuel + 1, ts =>
    if atSymbol "," ts then
      if endsTargets ts.tail then .ok ([], ts.tail)
      else do
        let (first, ts) ← readSingleTarget fuel ts.tail
        let (more, ts) ← readMoreTargets fuel ts
        return (first :: more, ts)
    else .ok ([], ts)

end

/-- Reads the members after a name that is assigned to. -/
def readTargetMembers : Nat → Expr → String → List Token → Except Fault (Target × List Token)
  | 0, _, _, _ => .error .malformed
  | fuel + 1, subject, name, ts =>
    if atSymbol "." ts then do
      let (next, ts) ← expectName ts.tail
      readTargetMembers fuel (.member subject name) next ts
    else .ok (.member subject name, ts)

/-- Reads what a `set` statement assigns to. -/
def readSetTarget (ts : List Token) : Except Fault (Target × List Token) := do
  let fuel := 2 * ts.length + 2
  let (target, ts) ← readTarget fuel ts
  match target with
  | .name s =>
    if atSymbol "." ts then do
      let (next, ts) ← expectName ts.tail
      readTargetMembers fuel (.var s) next ts
    else return (target, ts)
  | _ => return (target, ts)

/-- Whether a target is a single one, which can hold the text of a block. -/
def Target.isSingle : Target → Bool
  | tuple _ => false
  | name _ => true
  | member _ _ => true

/-- Reads the assignments of a `with` statement up to the end of its tag. -/
def readAssignments : Nat → Bool → List Token → Except Fault (List (Target × Expr) × List Token)
  | 0, _, _ => .error .malformed
  | fuel + 1, isFirst, ts =>
    match ts with
    | .blockEnd :: rest => .ok ([], rest)
    | ts => do
      let ts ← if isFirst then .ok ts else expectSymbol "," ts
      let (target, ts) ← readSingleTarget (2 * ts.length + 2) ts
      let ts ← expectSymbol "=" ts
      let (e, ts) ← readExpr ts
      let (more, ts) ← readAssignments fuel false ts
      return ((target, e) :: more, ts)

/-- Reads the names that are taken from another template. -/
def readImports : Nat → List Token → Except Fault (List Target × List Token)
  | 0, _ => .error .malformed
  | fuel + 1, ts => do
    let (s, ts) ← readTargetName ts
    let (s, ts) ← if atWord "as" ts then readTargetName ts.tail else .ok (s, ts)
    if atSymbol "," ts then do
      match ts.tail with
      | .blockEnd :: _ => return ([.name s], ts.tail)
      | _ =>
        let (more, ts) ← readImports fuel ts.tail
        return (.name s :: more, ts)
    else return ([.name s], ts)

/-- Reads a statement about another template. -/
def readLoad (word : String) (ts : List Token) : Except Fault (Node × List Token) := do
  let (source, ts) ← readExpr ts
  match word with
  | "include" =>
    if atWord "ignore" ts then do
      let ts ← expectWord "missing" ts.tail
      return (.load source true [], ts)
    else return (.load source false [], ts)
  | "import" =>
    let ts ← expectWord "as" ts
    let (s, ts) ← readTargetName ts
    return (.load source false [.name s], ts)
  | "from" =>
    let ts ← expectWord "import" ts
    let (targets, ts) ← readImports (ts.length + 1) ts
    return (.load source false targets, ts)
  | _ => return (.load source false [], ts)

mutual

/-- Reads parts up to a block tag that starts with one of the words, or up to the end. The tokens
that are left start with that word. The fuel bounds the number of steps. -/
def readNodes : Nat → List String → List Token → Except Fault (List Node × List Token)
  | 0, _, _ => .error .malformed
  | fuel + 1, stops, ts =>
    match ts with
    | [] => .ok ([], [])
    | .text s :: ts => do
      let (nodes, ts) ← readNodes fuel stops ts
      return (.text s :: nodes, ts)
    | .outputStart :: ts => do
      let (e, ts) ← readExpr ts
      match ts with
      | .outputEnd :: ts =>
        let (nodes, ts) ← readNodes fuel stops ts
        return (.output e :: nodes, ts)
      | _ => unexpected ts
    | .blockStart :: ts =>
      if stops.any fun s => atWord s ts then .ok ([], ts)
      else do
        let (node, ts) ← readStatement fuel ts
        let ts ← expectBlockEnd ts
        let (nodes, ts) ← readNodes fuel stops ts
        return (node :: nodes, ts)
    | ts => unexpected ts

/-- Reads a statement up to the end of its last tag. -/
def readStatement : Nat → List Token → Except Fault (Node × List Token)
  | 0, _ => .error .malformed
  | fuel + 1, ts =>
    match ts with
    | .name "if" :: ts => readBranch fuel ts
    | .name "for" :: ts => do
      let (target, ts) ← readTarget (2 * ts.length + 2) ts
      let ts ← expectWord "in" ts
      let (source, ts) ← readUnconditional ts
      let (condition, ts) ←
        if atWord "if" ts then do
          let (e, ts) ← readExpr ts.tail
          pure (some e, ts)
        else .ok (none, ts)
      let ts ← expectBlockEnd ts
      let (body, ts) ← readNodes fuel ["endfor", "else"] ts
      if atWord "else" ts then do
        let ts ← expectBlockEnd ts.tail
        let (other, ts) ← readNodes fuel ["endfor"] ts
        return (.loop target source condition body other, ts.tail)
      else return (.loop target source condition body [], ts.tail)
    | .name "set" :: ts => do
      let isEnclosed := atSymbol "(" ts
      let (target, ts) ← readSetTarget ts
      if atSymbol "=" ts then do
        let (e, ts) ← readExpr ts.tail
        return (.assign target e, ts)
      else if isEnclosed || !target.isSingle then unexpected ts
      else do
        let ts ← expectBlockEnd ts
        let (body, ts) ← readNodes fuel ["endset"] ts
        return (.capture target body, ts.tail)
    | .name "with" :: ts => do
      let (assignments, ts) ← readAssignments (ts.length + 1) true ts
      let (body, ts) ← readNodes fuel ["endwith"] ts
      return (.scope assignments body, ts.tail)
    | .name "do" :: ts => do
      let (e, ts) ← readExpr ts
      match e with
      -- A call has a value, and its value has a truth: nothing else comes of the test.
      | .call _ _ => return (.branch e [] [], ts)
      | _ => unexpected ts
    | .name word :: ts =>
      if ["include", "extends", "import", "from"].contains word then readLoad word ts
      else .error .malformed
    | ts => unexpected ts

/-- Reads a condition and its two bodies. -/
def readBranch : Nat → List Token → Except Fault (Node × List Token)
  | 0, _ => .error .malformed
  | fuel + 1, ts => do
    let (test, ts) ← readExpr ts
    let ts ← expectBlockEnd ts
    let (chosen, ts) ← readNodes fuel ["endif", "else", "elif"] ts
    if atWord "else" ts then do
      let ts ← expectBlockEnd ts.tail
      let (other, ts) ← readNodes fuel ["endif"] ts
      return (.branch test chosen other, ts.tail)
    else if atWord "elif" ts then do
      let (node, ts) ← readBranch fuel ts.tail
      return (.branch test chosen [node], ts)
    else return (.branch test chosen [], ts.tail)

end

end Template

open Template in
/-- A template. -/
structure Template where
  nodes : List Node

/-- Reads a template. -/
def Template.read (text : String) : Except Template.Fault Template := do
  let tokens := Token.scan text.toList
  let (nodes, _) ← readNodes (2 * tokens.length + 2) [] tokens
  return ⟨nodes⟩

end Dossier
