import AudioGraph.Json.Write
import AudioGraph.Specification.Edit
import AudioGraph.Script.Read
import AudioGraph.Script.Replay
import AudioGraph.Report
import AudioGraph.Host
import AudioGraph.Proofs.Agreement
import AudioGraph.Proofs.Catalogue.Extension
import AudioGraph.Proofs.Diagnosis.PinTypes
import AudioGraph.Proofs.Diagnosis.Rearrangement
import AudioGraph.Proofs.Diagnosis.Skeleton
import AudioGraph.Proofs.Renaming
import AudioGraph.Proofs.Script.Content
import AudioGraph.Proofs.Script.EndpointNames
import AudioGraph.Proofs.Script.References
import AudioGraph.Proofs.Specification.NormalForm
import AudioGraph.Proofs.Script.Declarations
import AudioGraph.Proofs.Diagnosis.AddedConnection
import AudioGraph.Proofs.Diagnosis.Redeclaration
import AudioGraph.Proofs.Diagnosis.Verdicts
import AudioGraph.Proofs.Diagnosis.LiteralValue
import AudioGraph.Proofs.Diagnosis.Codes
import AudioGraph.Proofs.Diagnosis.RemovedNode
import AudioGraph.Proofs.Diagnosis.Scan
import AudioGraph.Proofs.Script.Delivery
import AudioGraph.Proofs.Script.Segments
import AudioGraph.Proofs.Specification.Triage
import AudioGraph.Proofs.Catalogue.Loading
import AudioGraph.Proofs.Catalogue.Layout
import AudioGraph.Proofs.Diagnosis.Repeats
