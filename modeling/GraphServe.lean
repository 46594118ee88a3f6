import GraphServe.Client
import GraphServe.Configuration.Reader
import GraphServe.Configuration.Schema
import GraphServe.Script.Middleware
import GraphServe.Script.Resolver
import GraphServe.Script.Transport
import GraphServe.Server
import GraphServe.Proofs.Cache.History
import GraphServe.Proofs.Chain
import GraphServe.Proofs.Client.Placing
import GraphServe.Proofs.Complexity.Nesting
import GraphServe.Proofs.Context
import GraphServe.Proofs.Execution.Accounting
import GraphServe.Proofs.Execution.Coercion
import GraphServe.Proofs.Execution.Conformity
import GraphServe.Proofs.Execution.Counting
import GraphServe.Proofs.Execution.Defaults
import GraphServe.Proofs.Execution.Defining
import GraphServe.Proofs.Execution.Expansion
import GraphServe.Proofs.Execution.Naming
import GraphServe.Proofs.Execution.Ordering
import GraphServe.Proofs.Execution.Propagation
import GraphServe.Proofs.Execution.Providing
import GraphServe.Proofs.Execution.Requiring
import GraphServe.Proofs.Execution.Stored
import GraphServe.Proofs.Execution.Watching
import GraphServe.Proofs.Executor.Recall
import GraphServe.Proofs.Executor.Recovery
import GraphServe.Proofs.Executor.Registering
import GraphServe.Proofs.Executor.Tracing
import GraphServe.Proofs.Executor.Transparency
import GraphServe.Proofs.Executor.Verification
import GraphServe.Proofs.Json.Reading
import GraphServe.Proofs.Response
import GraphServe.Proofs.Server.Admission
import GraphServe.Proofs.Transport.Agreement
import GraphServe.Proofs.Transport.Listing
import GraphServe.Proofs.Transport.Mapping
import GraphServe.Proofs.Transport.Safety
import GraphServe.Proofs.Transport.Spilling
import GraphServe.Proofs.Transport.Upload
