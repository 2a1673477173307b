import Spreadsheet.Config.Document
import Spreadsheet.Interchange.Cell
import Spreadsheet.Proofs.Address.Label
import Spreadsheet.Proofs.Dependency.Search
import Spreadsheet.Proofs.Expression.Reading
import Spreadsheet.Proofs.Formula.Appearance
import Spreadsheet.Proofs.Formula.ArgumentList
import Spreadsheet.Proofs.Formula.CallCoverage
import Spreadsheet.Proofs.Formula.Enclosure
import Spreadsheet.Proofs.Formula.Expansion
import Spreadsheet.Proofs.Formula.Scanners
import Spreadsheet.Proofs.Formula.Substitution
import Spreadsheet.Proofs.Formula.TextValues
import Spreadsheet.Proofs.Range.Enumeration
import Spreadsheet.Proofs.Recalculation.Schedule
import Spreadsheet.Proofs.Sheet.Addressable
import Spreadsheet.Proofs.Sheet.Circular
import Spreadsheet.Proofs.Sheet.CutPaste
import Spreadsheet.Proofs.Sheet.Duplicates
import Spreadsheet.Proofs.Sheet.FullRecalculation
import Spreadsheet.Proofs.Sheet.Landing
import Spreadsheet.Proofs.Sheet.Lines
import Spreadsheet.Proofs.Sheet.Literal
import Spreadsheet.Proofs.Sheet.Paste
import Spreadsheet.Proofs.Sheet.Replacement
import Spreadsheet.Proofs.Sheet.Style
import Spreadsheet.Sheet.Edit
import Spreadsheet.Text.Blank
