import LoggingOperator.Convergence.Difference
import LoggingOperator.Lease.Candidate
import LoggingOperator.Main
import LoggingOperator.Management.Remote
import LoggingOperator.Manifest.Password
import LoggingOperator.Pass.Kibana
import LoggingOperator.Proofs.Convergence.Created
import LoggingOperator.Proofs.Convergence.Difference
import LoggingOperator.Proofs.Convergence.Normalisation
import LoggingOperator.Proofs.Convergence.Others
import LoggingOperator.Proofs.Convergence.Races
import LoggingOperator.Proofs.Convergence.Removal
import LoggingOperator.Proofs.Declaration.RoundTrip
import LoggingOperator.Proofs.Declaration.Status
import LoggingOperator.Proofs.Json.Record
import LoggingOperator.Proofs.Kube.Object
import LoggingOperator.Proofs.Lease.Bookkeeping
import LoggingOperator.Proofs.Lease.SingleLeader
import LoggingOperator.Proofs.Management.Flattening
import LoggingOperator.Proofs.Management.Refinement
import LoggingOperator.Proofs.Manifest.Elasticsearch
import LoggingOperator.Proofs.Manifest.Owner
import LoggingOperator.Proofs.Pass.Advance
import LoggingOperator.Proofs.Pass.Apart
import LoggingOperator.Proofs.Pass.Credentials
import LoggingOperator.Proofs.Pass.Declared
import LoggingOperator.Proofs.Pass.Elasticsearch
import LoggingOperator.Proofs.Pass.Fluentd
import LoggingOperator.Proofs.Pass.Gate
import LoggingOperator.Proofs.Pass.Index
import LoggingOperator.Proofs.Pass.Interrupted
import LoggingOperator.Proofs.Pass.Isolation
import LoggingOperator.Proofs.Pass.Kibana
import LoggingOperator.Proofs.Pass.Leads
import LoggingOperator.Proofs.Pass.Password
import LoggingOperator.Proofs.Pass.Rights
import LoggingOperator.Proofs.Pass.Status
import LoggingOperator.Proofs.Pass.StatusWrites
import LoggingOperator.Proofs.Pass.Template
import LoggingOperator.Proofs.Pass.TokenRaces
import LoggingOperator.Proofs.Pass.Workload
import LoggingOperator.Proofs.Quantity
import LoggingOperator.Proofs.Quantity.Canonical
import LoggingOperator.Proofs.Store.Frames
import LoggingOperator.Proofs.Text.Base64
import LoggingOperator.Store.Remote
