/-!
# Sections of reports

* `reportSection` : lines under a heading.
-/

namespace Dossier

/-- Lines under a heading, after an empty line; nothing if there are no lines. -/
def reportSection (heading : String) (lines : List String) : List String :=
  if lines.isEmpty then [] else "" :: heading :: lines

end Dossier
