import Dossier.Number.FloatText

/-!
# Configuration

* `Config` : the settings of the library, with their defaults;
* `Config.check` : what is wrong with a configuration, if anything.
-/

namespace Dossier

/-- Settings for the compilation of expressions. -/
structure ExpressionConfig where
  /-- The largest size of a compiled expression in bytes. -/
  sizeLimit : Nat := 1048576
deriving DecidableEq

/-- Settings for the text of areas. -/
structure LayoutConfig where
  /-- The part of a run's height that is left out at its top when lines are formed. Slightly skew
  lines then stay apart. -/
  lineTopInset : Float := 0.25

/-- Settings for the processing of many documents. -/
structure ProcessingConfig where
  /-- Only documents that carry all of these tags are classified. -/
  requiredTags : List String := []
  /-- The number of documents that are evaluated at the same time. -/
  jobs : Nat := 4
deriving DecidableEq

/-- The settings of the library. -/
structure Config where
  expression : ExpressionConfig := {}
  layout : LayoutConfig := {}
  processing : ProcessingConfig := {}

instance : Inhabited Config := ⟨{}⟩

/-- Why a configuration cannot be used. -/
inductive ConfigFault where
  | insetOutOfRange (inset : Float)
  | noJobs

/-- The text that is shown for a fault. -/
def ConfigFault.message : ConfigFault → String
  | insetOutOfRange inset =>
    "configuration error: layout.line_top_inset must be in [0, 1), got " ++
      String.ofList (FloatLayout.positional.text inset)
  | noJobs => "configuration error: processing.jobs must be at least 1"

/-- Checks that the library can work with a configuration. -/
def Config.check (c : Config) : Except ConfigFault Unit :=
  let inset := c.layout.lineTopInset
  if !(decide (0 ≤ inset) && decide (inset < 1)) then .error (.insetOutOfRange inset)
  else if c.processing.jobs = 0 then .error .noJobs
  else .ok ()

end Dossier
