import IgniterLint.Diagnostic.Draft
import IgniterLint.Main
import IgniterLint.Session
import IgniterLint.Proofs.Analysis.Faithful
import IgniterLint.Proofs.Analysis.LineEndings
import IgniterLint.Proofs.Ledger.Mirror
import IgniterLint.Proofs.Session.Activation
import IgniterLint.Proofs.Session.Lifecycle
import IgniterLint.Proofs.Session.LiveSubscriptions
import IgniterLint.Proofs.Session.Mirror
import IgniterLint.Proofs.Session.Teardown
import IgniterLint.Proofs.Text.LineOfOffset
import IgniterLint.Proofs.Session.LastReceived
import IgniterLint.Proofs.CommandLine.Check
import IgniterLint.Proofs.CommandLine.OutputLines
import IgniterLint.Proofs.File.Path
import IgniterLint.Proofs.File.Tree
import IgniterLint.Proofs.CommandLine.IllegibleFiles
import IgniterLint.Proofs.Text.PositionOrder
import IgniterLint.Proofs.Rule.CallReports
import IgniterLint.Proofs.Rule.Inheritance
import IgniterLint.Proofs.Rule.BothRoles
import IgniterLint.Proofs.Engine
import IgniterLint.Proofs.Ledger.History
import IgniterLint.Proofs.Session.Deactivation
import IgniterLint.Proofs.Registry
import IgniterLint.Proofs.Analysis.KnownModels
import IgniterLint.Proofs.Rule.LoadMessages
import IgniterLint.Proofs.File.Encoding
import IgniterLint.Proofs.Text.Concatenation
import IgniterLint.Proofs.File.SourceName
import IgniterLint.Proofs.File.Expansion
import IgniterLint.Proofs.Rule.Refusal
