import QueryGrading.Main
import QueryGrading.Grade.Recording
import QueryGrading.Tree.Drawing
import QueryGrading.Proofs.Grade.Mending
import QueryGrading.Proofs.Grade.Noninterference
import QueryGrading.Proofs.Grade.Rivals
import QueryGrading.Proofs.Grade.Schedule
import QueryGrading.Proofs.Output.Changes
import QueryGrading.Proofs.Output.Conservation
import QueryGrading.Proofs.Output.Containment
import QueryGrading.Proofs.Output.Overlap
import QueryGrading.Proofs.Query.Alias
import QueryGrading.Proofs.Query.Connective
import QueryGrading.Proofs.Query.Equivalence
import QueryGrading.Proofs.Query.ForeignKey
import QueryGrading.Proofs.Query.Hint
import QueryGrading.Proofs.Query.Insertion
import QueryGrading.Proofs.Query.Literal
import QueryGrading.Proofs.Query.Presence
import QueryGrading.Proofs.Query.Signature
import QueryGrading.Proofs.Query.Statement
import QueryGrading.Proofs.Repair.Correction
import QueryGrading.Proofs.Repair.Reserved
import QueryGrading.Proofs.Repair.Shortest
import QueryGrading.Proofs.Repair.Spans
import QueryGrading.Proofs.Tree.Distance
import QueryGrading.Proofs.Tree.WriteOnce
import QueryGrading.Proofs.Query.Assignment
import QueryGrading.Proofs.Query.ColumnOrder
import QueryGrading.Proofs.Json.Value
import QueryGrading.Proofs.Query.Matching
import QueryGrading.Proofs.Tree.Pruning
import QueryGrading.Proofs.Query.FirstStatement
import QueryGrading.Proofs.Query.Naming
