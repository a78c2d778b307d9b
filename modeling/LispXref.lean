import LispXref.Form.Printer
import LispXref.Indexer
import LispXref.Main
import LispXref.Proofs.Aggregation
import LispXref.Proofs.Alone
import LispXref.Proofs.Codes
import LispXref.Proofs.Concatenation
import LispXref.Proofs.Context
import LispXref.Proofs.Extensions
import LispXref.Proofs.History
import LispXref.Proofs.Inside
import LispXref.Proofs.Lookahead
import LispXref.Proofs.Nesting
import LispXref.Proofs.Numbers
import LispXref.Proofs.Padding
import LispXref.Proofs.Parameters
import LispXref.Proofs.Printing
import LispXref.Proofs.Progress
import LispXref.Proofs.Refusals
import LispXref.Proofs.Report
import LispXref.Proofs.Scanning
import LispXref.Proofs.Selection
import LispXref.Proofs.Snags
import LispXref.Proofs.StandIns
import LispXref.Proofs.Truncation
import LispXref.Reading.Session
