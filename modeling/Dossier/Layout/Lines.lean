import Dossier.Layout.Document

/-!
# The text of an area

The runs in an area are put into lines by a sweep from top to bottom: a line goes on as long as
some run is open. In a line the runs stand in the order of their left edges.

* `events` : where runs start and end, in the order of the sweep;
* `sweep` : the lines that the sweep finds, as lists of run numbers;
* `splitIntoLines` : the same with each line in order;
* `Page.regionText` : the text in an area, one line of text for each line of runs.
-/

namespace Dossier.Layout

/-- Whether a run starts or ends. At one height, ends come before starts. -/
inductive Edge where
  | stop
  | start
deriving DecidableEq, Repr

/-- A run that starts or ends at a height. -/
structure Event where
  height : Int
  edge : Edge
  run : Nat
deriving DecidableEq, Repr

/-- The place of an event in the sweep: by height, ends before starts, then by run. -/
def Event.before (a b : Event) : Bool :=
  decide (a.height < b.height) || (a.height == b.height &&
    (match a.edge, b.edge with
      | .stop, .start => true
      | .start, .stop => false
      | _, _ => decide (a.run ≤ b.run)))

/-- The heights between which a run counts: a part of its height is left out at the top. -/
def TextRun.extent (inset : Float) (run : TextRun) : Int × Int :=
  let r := run.rect.normalized
  (totalKey (r.y + r.height * inset), totalKey r.y2)

/-- The events of runs with given extents, in the order of the sweep. -/
def events (extents : List (Int × Int)) : List Event :=
  (extents.zipIdx.flatMap fun (extent, run) =>
    [⟨extent.1, .start, run⟩, ⟨extent.2, .stop, run⟩]).mergeSort Event.before

/-- What has happened to a run. -/
inductive RunState where
  | pending
  | opened
  | closed
deriving DecidableEq, Repr

/-- A sweep on its way: the state of each run, the number of open runs, the line that is being
gathered, and the lines that are complete, both in reverse. -/
structure Sweep where
  states : List RunState
  depth : Nat := 0
  line : List Nat := []
  lines : List (List Nat) := []

/-- Ends the line if no run is open. -/
def Sweep.endLine (s : Sweep) : Sweep :=
  if s.depth = 0 then { s with line := [], lines := s.line.reverse :: s.lines } else s

/-- Takes an event into account. A run that ends before it starts is a line of its own, unless some
other run is open. -/
def Sweep.step (s : Sweep) (e : Event) : Sweep :=
  match e.edge, s.states[e.run]? with
  | .start, some .pending =>
    { s with states := s.states.set e.run .opened, depth := s.depth + 1, line := e.run :: s.line }
  | .stop, some .opened =>
    Sweep.endLine { s with states := s.states.set e.run .closed, depth := s.depth - 1 }
  | .stop, some .pending =>
    Sweep.endLine { s with states := s.states.set e.run .closed, line := e.run :: s.line }
  | _, _ => s

/-- The lines that the sweep finds, from top to bottom, as lists of run numbers. -/
def sweep (extents : List (Int × Int)) : List (List Nat) :=
  let s := (events extents).foldl Sweep.step
    { states := List.replicate extents.length .pending }
  (if s.line.isEmpty then s.lines else s.line.reverse :: s.lines).reverse

/-- Whether a run stands before another in a line: by its left edge, then by its number. -/
def leftOf (runs : List TextRun) (a b : Nat) : Bool :=
  let key (i : Nat) : Int := (runs[i]?.map fun run => totalKey run.rect.x).getD 0
  decide (key a < key b) || (key a == key b && decide (a ≤ b))

/-- The lines of runs, each in order from left to right. -/
def splitIntoLines (runs : List TextRun) (inset : Float) : List (List Nat) :=
  (sweep (runs.map (TextRun.extent inset))).map fun line => line.mergeSort (leftOf runs)

/-- The text of a line of runs. -/
def lineText (runs : List TextRun) (line : List Nat) : String :=
  " ".intercalate (line.map fun i => (runs[i]?.map TextRun.text).getD "")

end Dossier.Layout

namespace Dossier

/-- The runs of a page that lie in an area. -/
def Page.runsIn (page : Page) (rect : Rectangle) : List TextRun :=
  page.runs.filter fun run => rect.normalized.contains run.rect.normalized

/-- The text in an area of a page. -/
def Page.regionText (page : Page) (rect : Rectangle) (inset : Float) : String :=
  if rect.normalized.isEmpty then ""
  else
    let runs := page.runsIn rect
    "\n".intercalate ((Layout.splitIntoLines runs inset).map (Layout.lineText runs))

end Dossier
