import Dossier.Calendar.Date
import Dossier.Expression.Compiled
import Dossier.Layout.Rectangle

/-!
# Patterns

A pattern says which documents it matches, by a tree of checks, which parts of them it reads, by
regions, and which values it makes of these, by fields.

* `Region` : an area of the pages with an expression and the choice of a page;
* `Check` : a condition on documents, and `Check.nodes`, the conditions in it;
* `Field` : a value to be made;
* `Pattern` : all of it under a name.
-/

namespace Dossier

/-- Which of the results of a region, one for each page, is kept. -/
inductive PageSelector where
  /-- The page with a number, counted from 0. -/
  | exactPage (index : Nat)
  | firstPage
  | lastPage
  /-- The first page on which the expression matches. -/
  | firstMatch
  | lastMatch
deriving DecidableEq, Repr

/-- The two notations of expressions. -/
inductive Notation where
  | simple
  | regex
deriving DecidableEq, Repr

/-- The expression of a region: a text for each notation, and which of them counts. The other one
is kept for editing. -/
structure RegionExpression where
  kind : Notation := .simple
  simpleText : Option String := none
  regexText : Option String := none
deriving DecidableEq, Repr

/-- The expression that counts. A missing text is the empty expression. -/
def RegionExpression.active (e : RegionExpression) : Expression :=
  match e.kind with
  | .simple => .simple (e.simpleText.getD "")
  | .regex => .regex (e.regexText.getD "")

/-- The region expression of an expression. -/
def Expression.toRegionExpression : Expression → RegionExpression
  | .simple text => { kind := .simple, simpleText := some text }
  | .regex text => { kind := .regex, regexText := some text }

/-- An area of the pages with an expression and the choice of a page. -/
structure Region where
  rect : Rectangle
  page : PageSelector := .lastMatch
  expression : RegionExpression := {}

/-- Whether two regions have equal edges, as numbers, and are equal in all else. -/
def Region.same (a b : Region) : Bool :=
  a.rect.same b.rect && a.page == b.page && a.expression == b.expression

/-- A condition on documents. -/
inductive Check where
  | pageCount (count : Nat)
  /-- The kept page of a region has a value. -/
  | region (region : Region)
  /-- The title has a match of a regular expression. -/
  | title (pattern : String)
  | correspondent (name : String)
  | documentType (name : String)
  | storagePath (name : String)
  /-- The document has all of some tags and none of some others. -/
  | tags (includes excludes : List String)
  /-- The date lies between bounds, as far as they are set. -/
  | dateCreated (before after : Option Date) (year : Option Int)
  | allOf (checks : List Check)
  | anyOf (checks : List Check)
  /-- The condition does not hold. Without a condition this never passes. -/
  | negation (check : Option Check)

namespace Check

mutual

/-- The conditions in a condition, itself first, then those in its parts in order. -/
def nodes : Check → List Check
  | allOf checks => allOf checks :: nodesOfAll checks
  | anyOf checks => anyOf checks :: nodesOfAll checks
  | negation none => [negation none]
  | negation (some check) => negation (some check) :: check.nodes
  | check => [check]

/-- The conditions in several conditions. -/
def nodesOfAll : List Check → List Check
  | [] => []
  | check :: rest => check.nodes ++ nodesOfAll rest

end

/-- The name of the sort of condition. -/
def typeName : Check → String
  | pageCount _ => "num_pages"
  | region _ => "region"
  | title _ => "title"
  | correspondent _ => "correspondent"
  | documentType _ => "document_type"
  | storagePath _ => "storage_path"
  | tags .. => "tags"
  | dateCreated .. => "date_created"
  | allOf _ => "and"
  | anyOf _ => "or"
  | negation _ => "not"

/-- The region of a condition on a region. -/
def region? : Check → Option Region
  | region r => some r
  | _ => none

end Check

/-- Whether a field is an attribute that every document has, or one that users add. -/
inductive FieldKind where
  | builtIn
  | custom
deriving DecidableEq, Repr

/-- A value to be made for matching documents. -/
structure Field where
  kind : FieldKind := .custom
  name : String
  template : String
deriving DecidableEq, Repr

/-- What the source of documents should do to them first. -/
inductive Preprocess where
  | forceOcr
deriving DecidableEq, Repr

/-- A rule for documents under a name. -/
structure Pattern where
  name : String
  /-- The page that an editor shows first. It has no influence on anything else. -/
  pageDefault : Nat := 0
  preprocess : Option Preprocess := none
  checks : List Check := []
  regions : List Region := []
  fields : List Field := []

/-- The regions of the conditions, at any depth. -/
def Pattern.checkRegions (p : Pattern) : List Region :=
  (Check.nodesOfAll p.checks).filterMap Check.region?

end Dossier
