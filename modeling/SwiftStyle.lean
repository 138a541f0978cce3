import SwiftStyle.Decimal.Shortest
import SwiftStyle.Main
import SwiftStyle.Proofs.ParseTree.Containment
import SwiftStyle.Proofs.Rule.VisibilityOrder.Correction
import SwiftStyle.Proofs.Rule.VisibilityOrder.Delivery
import SwiftStyle.Rule.Occurrence
import SwiftStyle.Proofs.Declaration.Paths
import SwiftStyle.Proofs.Rule.MissingDocs.Reports
import SwiftStyle.Proofs.Analyzer.Companions
import SwiftStyle.Proofs.ParseTree.Members
import SwiftStyle.Proofs.ParseTree.Modifiers
import SwiftStyle.Proofs.ParseTree.ImpliedAccess
import SwiftStyle.Proofs.Analyzer.Failures
import SwiftStyle.Proofs.ParseTree.TokenStream
import SwiftStyle.Proofs.ParseTree.Functions
import SwiftStyle.Proofs.Discovery.Directories
import SwiftStyle.Proofs.Analyzer.Alone
import SwiftStyle.Proofs.Batch.Distinct
import SwiftStyle.Proofs.Config.Grouping
import SwiftStyle.Proofs.Command.Autocorrect
import SwiftStyle.Proofs.Command.Lint
import SwiftStyle.Proofs.Analyzer.Positions
import SwiftStyle.Proofs.Text.Segments
import SwiftStyle.Proofs.Text.Partition
import SwiftStyle.Proofs.Text.Locating
import SwiftStyle.Proofs.Config.Reached
import SwiftStyle.Proofs.Rule.Escalation
import SwiftStyle.Proofs.Rule.LineLength.Ladder
import SwiftStyle.Proofs.Rule.LineLength.Reports
import SwiftStyle.Proofs.Rule.LineLength.Reasons
import SwiftStyle.Proofs.Rule.MissingDocs.Severities
import SwiftStyle.Proofs.Rule.Severities
import SwiftStyle.Proofs.Command.CorrectionOrder
import SwiftStyle.Proofs.Edit.Reordering
import SwiftStyle.Proofs.ParseTree.ParameterLists
import SwiftStyle.Proofs.ParseTree.Documentation
import SwiftStyle.Proofs.Declaration.Visits
import SwiftStyle.Proofs.Token.Search
import SwiftStyle.Proofs.ParseTree.CaseNames
