import Tabula.Main
import Tabula.Proofs.Box.Drawing
import Tabula.Proofs.Csv.CellLines
import Tabula.Proofs.Csv.Described
import Tabula.Proofs.Csv.Loading
import Tabula.Proofs.Csv.Verdict
import Tabula.Proofs.Database.Contents
import Tabula.Proofs.Database.DeadlineSafety
import Tabula.Proofs.Input.Progress
import Tabula.Proofs.Query.Accounting
import Tabula.Proofs.Query.EarlyOperators
import Tabula.Proofs.Query.Ending
import Tabula.Proofs.Query.Faults
import Tabula.Proofs.Query.Layers
import Tabula.Proofs.Query.LetterCase
import Tabula.Proofs.Query.Meaning
import Tabula.Proofs.Query.PostfixCode
import Tabula.Proofs.Query.SetLaws
import Tabula.Proofs.Query.Slots
import Tabula.Proofs.Query.Staging
import Tabula.Proofs.Query.Unclosed
import Tabula.Proofs.Shell.Dropping
import Tabula.Proofs.Table.KeptColumns
