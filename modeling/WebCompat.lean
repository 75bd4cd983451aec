import WebCompat.Main
import WebCompat.Proofs.DocumentKind
import WebCompat.Proofs.Feature.Edit
import WebCompat.Proofs.Feature.Mention
import WebCompat.Proofs.Feature.Refusal
import WebCompat.Proofs.Feature.Roundtrip
import WebCompat.Proofs.Lookup.Asking
import WebCompat.Proofs.Lookup.Backoff
import WebCompat.Proofs.Lookup.Retry
import WebCompat.Proofs.Lookup.Variables
import WebCompat.Proofs.Report.Agreement
import WebCompat.Proofs.Report.Baseline
import WebCompat.Proofs.Report.Browsers
import WebCompat.Proofs.Report.Confinement
import WebCompat.Proofs.Report.Cursor
import WebCompat.Proofs.Report.Dates
import WebCompat.Proofs.Report.Occurrence
import WebCompat.Proofs.Report.WordCount
import WebCompat.Proofs.Scan.Binding
import WebCompat.Proofs.Scan.Markup
import WebCompat.Proofs.Scan.Script
import WebCompat.Proofs.Scan.Style
import WebCompat.Proofs.Shell.Run
import WebCompat.Proofs.Text.CaseFold
import WebCompat.Proofs.Text.Runs
