import EndpointManager.Model.Json
import EndpointManager.Model.Dict
import EndpointManager.Model.State
import EndpointManager.Model.Launch
import EndpointManager.Model.Command
import EndpointManager.Model.Reap
import EndpointManager.Model.System
import EndpointManager.Model.Child
import EndpointManager.Model.Init
import EndpointManager.Proofs.Registry
import EndpointManager.Proofs.Wake
import EndpointManager.Proofs.Shutdown
import EndpointManager.Proofs.Dispatch
import EndpointManager.Proofs.Start
import EndpointManager.Proofs.Revival
import EndpointManager.Proofs.Startup
import EndpointManager.Model.Ids
import EndpointManager.Model.Sweep
import EndpointManager.Proofs.Privileges
import EndpointManager.Model.Dumps
import EndpointManager.Model.Stdio
import EndpointManager.Proofs.Stdio
import EndpointManager.Model.Environ
import EndpointManager.Proofs.Environ
