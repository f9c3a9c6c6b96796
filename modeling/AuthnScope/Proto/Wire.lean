import Mathlib.Data.List.AList

/-!
# Wire-protocol request and response types

The messages the agent and the host exchange over vsock (`authn-scope-proto/src/wire.rs`). The
enums are Lean inductives, `u32` is `UInt32` and keeps its wrapping arithmetic.

A `HashMap<String, V>` is `HashMap V`, an association list without duplicate keys. The order of
its entries is the order in which one particular Rust map iterates, so the orders a map can be
iterated in are the permutations of its entries.
-/

namespace AuthnScope

/-- `HashMap<String, V>`, with its entries in iteration order. -/
abbrev HashMap (V : Type) := AList fun _ : String => V

/-- `PROTOCOL_VERSION`. -/
def protocolVersion : UInt32 := 1

/-- Request sent by the agent to the host. -/
inductive AgentRequest where
  | handshake (version : UInt32) (vmName : String)
  | certRequest (version : UInt32) (vmName identity csrPem : String)
  deriving DecidableEq, Repr

/-- Unix peer identifiers. -/
structure UnixSelector where
  user : Option String
  group : Option String
  binPath : Option String
  deriving DecidableEq, Repr

/-- Systemd process identifiers. -/
structure SystemdSelector where
  unitpath : Option String
  unitname : Option String
  deriving DecidableEq, Repr

/-- Selector configuration containing unix and/or systemd identifiers. -/
structure SelectorConfig where
  unix : Option UnixSelector
  systemd : Option SystemdSelector
  deriving DecidableEq, Repr

/-- The five kinds of constraint a selector can hold. -/
inductive Kind where
  | user
  | group
  | bin
  | unitname
  | unitpath
  deriving DecidableEq, Repr

/-- The value a selector holds for a kind. -/
def SelectorConfig.value (sel : SelectorConfig) : Kind → Option String
  | .user => sel.unix.bind (·.user)
  | .group => sel.unix.bind (·.group)
  | .bin => sel.unix.bind (·.binPath)
  | .unitname => sel.systemd.bind (·.unitname)
  | .unitpath => sel.systemd.bind (·.unitpath)

/-- Workload configuration containing its selector and capabilities. -/
structure WorkloadConfig where
  selector : SelectorConfig
  validitySeconds : UInt32
  deriving DecidableEq, Repr

/-- Response sent by the host to the agent. -/
inductive AgentResponse where
  | handshakeOk (workloads : HashMap WorkloadConfig)
  | certOk (certPem caCertPem : String)
  | error (message : String)
  deriving DecidableEq

/-- `UnixSelector::default()`. -/
def UnixSelector.default : UnixSelector := ⟨none, none, none⟩

/-- `SystemdSelector::default()`. -/
def SystemdSelector.default : SystemdSelector := ⟨none, none⟩

namespace HashMap

variable {V : Type}

/-- A key is bound to a value exactly when the pair is among the entries. -/
theorem lookup_eq_some_iff (m : HashMap V) (k : String) (v : V) :
    m.lookup k = some v ↔ ⟨k, v⟩ ∈ m.entries :=
  AList.mem_lookup_iff

/-- The only binding of a map with one entry. -/
theorem lookup_singleton_eq_some_iff (k k' : String) (v v' : V) :
    (AList.singleton k v : HashMap V).lookup k' = some v' ↔ k' = k ∧ v' = v := by
  rw [lookup_eq_some_iff]
  simp [Sigma.mk.injEq]

/-- A map with the given entries in another order. -/
def reorder (m : HashMap V) (entries : List (Sigma fun _ : String => V))
    (h : entries.Perm m.entries) : HashMap V :=
  ⟨entries, (List.perm_nodupKeys h).mpr m.nodupKeys⟩

end HashMap

end AuthnScope
