import AuthnScope.Agent.Answers
import AuthnScope.Agent.Cgroup
import AuthnScope.Agent.ClientPort
import AuthnScope.Agent.Dial
import AuthnScope.Agent.Drain
import AuthnScope.Agent.Integrity
import AuthnScope.Agent.Linear
import AuthnScope.Agent.Order
import AuthnScope.Agent.Priority
import AuthnScope.Agent.Rotation
import AuthnScope.Agent.Serial
import AuthnScope.Agent.SilentClient
import AuthnScope.Agent.Sockets
import AuthnScope.Attestation
import AuthnScope.Authentication
import AuthnScope.Ca.KeyFile
import AuthnScope.Ca.Reinit
import AuthnScope.Ca.Requester
import AuthnScope.ConfigFile
import AuthnScope.EndToEnd
import AuthnScope.Evaluator.Go
import AuthnScope.Evaluator.Issued
import AuthnScope.Evaluator.Principal
import AuthnScope.Expiry
import AuthnScope.Freshness
import AuthnScope.Handshake
import AuthnScope.Lib.ByteCodec
import AuthnScope.Lib.Descriptors
import AuthnScope.Lib.FileSystem
import AuthnScope.Lib.Framing
import AuthnScope.Lib.IpAddr
import AuthnScope.Lib.Locks
import AuthnScope.Lib.Outcome
import AuthnScope.Lib.Potential
import AuthnScope.Lib.Ranking
import AuthnScope.Lib.Refinement
import AuthnScope.Lib.Run
import AuthnScope.Lib.Text
import AuthnScope.Lifetime
import AuthnScope.Proto.Decode
import AuthnScope.Proto.Frames
import AuthnScope.Proto.Json
import AuthnScope.Server.Decision
import AuthnScope.Server.Isolation
import AuthnScope.Server.Listener
import AuthnScope.Server.SelectorGrammar
import AuthnScope.Server.SelectorText
import AuthnScope.Server.Service
import AuthnScope.Server.Startup
import AuthnScope.Workload.Delivery
import AuthnScope.Workload.Go
import AuthnScope.Workload.Renewal
import AuthnScope.Workload.RoundTrip
