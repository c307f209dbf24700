import Dossier.Json.Printer
import Dossier.Main
import Dossier.Session
import Dossier.Storage.Disk
import Dossier.Proofs.Regex.Matches
import Dossier.Proofs.Regex.Memory
import Dossier.Proofs.Expression.Reading
import Dossier.Proofs.Expression.Matching
import Dossier.Proofs.Check.Faults
import Dossier.Proofs.Check.Repair
import Dossier.Proofs.Layout.Grouping
import Dossier.Proofs.Layout.Corners
import Dossier.Proofs.Layout.Placement
import Dossier.Proofs.Layout.Reordering
import Dossier.Proofs.Check.Known
import Dossier.Proofs.Expression.Names
import Dossier.Proofs.Entries
import Dossier.Proofs.Batch.Classification
import Dossier.Proofs.Batch.Merging
import Dossier.Proofs.Fields.Metadata
import Dossier.Proofs.Template.Variable
import Dossier.Proofs.Fields.Placeholders
import Dossier.Proofs.Batch.Accounting
import Dossier.Proofs.Influence
import Dossier.Proofs.Expression.Mirror
import Dossier.Proofs.Expression.Signs
import Dossier.Proofs.Expression.MirrorText
import Dossier.Proofs.Fields.Conventions
import Dossier.Proofs.Json.Tokens
import Dossier.Proofs.Calendar.Iso
import Dossier.Proofs.Json.Compact
import Dossier.Proofs.Wire.Record
import Dossier.Proofs.Wire.Pattern
import Dossier.Proofs.Wire.Results
import Dossier.Proofs.Number.Finite
import Dossier.Proofs.Json.Values
import Dossier.Proofs.Session
import Dossier.Proofs.CommandLine.Editing
import Dossier.Proofs.Batch.Files
import Dossier.Proofs.CommandLine.Batches
import Dossier.Proofs.Expression.Blanks
import Dossier.Proofs.Expression.Placeholder
import Dossier.Proofs.Expression.Grammar
import Dossier.Proofs.Expression.Quoted
import Dossier.Proofs.Expression.Values
import Dossier.Proofs.Expression.Reflow
import Dossier.Proofs.Expression.Numbers
import Dossier.Proofs.Expression.Places
import Dossier.Proofs.Region.Results
import Dossier.Proofs.Check.Regions
import Dossier.Proofs.Region.Simple
import Dossier.Proofs.Catalog.Suggestions
import Dossier.Proofs.Catalog.Unknown
import Dossier.Proofs.Fields.Amounts
import Dossier.Proofs.Template.Filtered
import Dossier.Proofs.Template.Members
import Dossier.Proofs.Fields.Conversions
import Dossier.Proofs.Check.Places
import Dossier.Proofs.Report.Verdicts
import Dossier.Proofs.Check.Served
import Dossier.Proofs.Template.Defined
import Dossier.Proofs.Template.Missing
import Dossier.Proofs.Template.Stops
import Dossier.Proofs.Template.StopsParts
import Dossier.Proofs.Template.Blame
import Dossier.Proofs.Region.Marks
import Dossier.Proofs.Layout.Completion
import Dossier.Proofs.Wire.Selector
import Dossier.Proofs.Calendar.Spellings
import Dossier.Proofs.Fields.Dates
