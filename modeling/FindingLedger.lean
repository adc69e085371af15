import FindingLedger.Bundle.Decode
import FindingLedger.CheckerTable.Builtin
import FindingLedger.CheckerTable.Read
import FindingLedger.Digest
import FindingLedger.Ingestor.Session
import FindingLedger.Outcome.Json
import FindingLedger.Proofs.Identity.Keys
import FindingLedger.Proofs.Identity.ShiftedLines
import FindingLedger.Proofs.Outcome.CheckerIndependence
import FindingLedger.Proofs.Outcome.DistinctFindings
import FindingLedger.Proofs.Outcome.RegisteredFiles
import FindingLedger.Proofs.Plist.Truncation
import FindingLedger.Text.Real
import FindingLedger.Text.Script
import FindingLedger.Text.Word
import FindingLedger.Proofs.Identity.BlankLines
import FindingLedger.Proofs.Report.FirstFindings
import FindingLedger.Proofs.Bundle.Writing
import FindingLedger.Proofs.Bundle.RoundTrip
import FindingLedger.Proofs.Markup.Writing
import FindingLedger.Proofs.Plist.Layout
import FindingLedger.Proofs.Plist.RoundTrip
import FindingLedger.Proofs.Source.LineEnds
import FindingLedger.Proofs.Source.LineStarts
import FindingLedger.Proofs.Identity.Reformatting
import FindingLedger.Proofs.Outcome.DegradedReports
import FindingLedger.Proofs.Ingestor.Histories
import FindingLedger.Proofs.Ingestor.Refinement
import FindingLedger.Proofs.Source.FrozenViews
import FindingLedger.Proofs.Outcome.AddedDiagnostics
import FindingLedger.Proofs.CheckerTable.Checkers
import FindingLedger.Proofs.CheckerTable.Rows
import FindingLedger.Proofs.Json.RoundTrip
import FindingLedger.Proofs.CheckerTable.Documents
import FindingLedger.Proofs.CheckerTable.ListedDescriptions
import FindingLedger.Proofs.Outcome.UnresolvedSentinel
import FindingLedger.Proofs.Plist.OpenElements
import FindingLedger.Proofs.Plist.ItemRuns
import FindingLedger.Proofs.Plist.StrayData
import FindingLedger.Proofs.Plist.EmptyElements
import FindingLedger.Proofs.Identity.ContextSearch
import FindingLedger.Proofs.Identity.NeighbourSearch
import FindingLedger.Proofs.Identity.QualifiedNames
import FindingLedger.Proofs.Bundle.UnknownEntries
import FindingLedger.Proofs.Bundle.Joints
import FindingLedger.Proofs.Outcome.Generations
import FindingLedger.Proofs.Json.IndentedRoundTrip
import FindingLedger.Proofs.Outcome.UniqueText
import FindingLedger.Proofs.Volume.Paths
import FindingLedger.Proofs.Volume.Trees
import FindingLedger.Proofs.Volume.Discovery
import FindingLedger.Proofs.Ingestor.Folders
