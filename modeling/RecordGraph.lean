import RecordGraph.Main
import RecordGraph.Proofs.Acceptance
import RecordGraph.Proofs.Engine.Erasure
import RecordGraph.Proofs.Engine.FieldOrder
import RecordGraph.Proofs.Engine.Misnamed
import RecordGraph.Proofs.Engine.Paging
import RecordGraph.Proofs.Engine.Relabel
import RecordGraph.Proofs.Engine.Retention
import RecordGraph.Proofs.Engine.Undo
import RecordGraph.Proofs.Engine.WriteBack
import RecordGraph.Proofs.History
import RecordGraph.Proofs.Query.Account
import RecordGraph.Proofs.Query.FieldName
import RecordGraph.Proofs.Query.Misread
import RecordGraph.Proofs.Shell.Completion
import RecordGraph.Proofs.Shell.Reassembly
import RecordGraph.Schema.Agreement
import RecordGraph.Settings.LogFilter.Cuts
