import AuthnScope.Lib.Run
import AuthnScope.Server.Symbolic

/-!
# The listener

`run_listener` of `authn-scope-server/src/listener.rs` with any number of peers. A connection from
the expected port gets a task of its own, which runs `handle_connection` of `handler.rs`; from
another port it is dropped, and a connection that cannot be accepted is only logged.

A task waits in `read_exact` until the bytes are there or the peer has ended its side, and in
`write_all` until the peer has room. The peers send, read and leave whenever they like, in pieces of
any size, and the steps of the tasks interleave in any order. `Handler.lean` has the same code for
one peer whose bytes are all there; the two agree.

## Main definitions

* `ConnPc`, `Connection.step`: the await points of a connection, and its step;
* `Listener.step`: the listener with its peers;
* `Server.replyTo`: what the sequential code writes to the peer of a connection.

## Main results

* `listener_refines`: in every state of a run, a connection has been written the beginning of what
  the sequential code writes to it, and all of it when it is done and the peer has not left;
* `listener_certOk`: the certificates of a run are for the registered peer that asked for them.
-/

namespace AuthnScope

open Framing Outcome Transition

/-- What `run_listener` runs with, and the two directions of its JSON messages. -/
structure Server (KeyPair PublicKey : Type) where
  lib : X509Lib KeyPair PublicKey
  reqSerde : Serde AgentRequest
  respSerde : Serde AgentResponse
  config : HostConfig
  ca : CertificateAuthority

/-- The await points of `handle_connection`. The header and the payload of a frame are written one
after the other; `bytes` is what is left of both. An error of the first response is reported to the
peer, one of the report is not. -/
inductive ConnPc where
  | readHeader
  | readPayload (len : ℕ)
  | write (bytes : List UInt8) (reports : Bool)
  | done
  deriving DecidableEq, Repr

/-- The bytes that are left to write. -/
def ConnPc.bytes : ConnPc → List UInt8
  | write bytes _ => bytes
  | _ => []

/-- The error of a frame beyond the limit. -/
def tooLarge (len : ℕ) : String := s!"incoming frame too large: {len} bytes (max {maxMsgBytes})"

/-- A connection: its peer, all bytes the peer has sent, whether it has ended its side or left, how
many bytes it still takes, and what it was written. -/
structure Connection where
  peerCid : UInt32
  peerPort : UInt32
  sent : List UInt8
  ended : Bool
  gone : Bool
  room : ℕ
  output : List UInt8
  pc : ConnPc
  deriving DecidableEq, Repr

/-- The connection at another await point. -/
def Connection.goto (conn : Connection) (pc : ConnPc) : Connection := { conn with pc := pc }

section

variable {KeyPair PublicKey : Type} (server : Server KeyPair PublicKey)

namespace Server

/-- Send the text of an error, and ignore whether it arrives. -/
def report (e : String) : ConnPc :=
  match server.respSerde.toVec (.error e) with
  | .ok payload => .write (frame payload) false
  | .error _ => .done

/-- Start to send a response. -/
def send (resp : AgentResponse) : ConnPc :=
  match server.respSerde.toVec resp with
  | .ok payload => .write (frame payload) true
  | .error e => server.report e

/-- With a request, or the error of reading it: decide, and start to send. -/
def reply (env : SigningEnv) (peerCid : UInt32) : Except String AgentRequest → ConnPc
  | .ok req =>
    match respond server.lib env server.config server.ca peerCid req with
    | .ok resp => server.send resp
    | .error e => server.report e
  | .error e => server.report e

/-- With the header of a frame: check the length it states. -/
def checkHeader (lenBuf : List UInt8) : ConnPc :=
  let len := (fromBeBytes lenBuf).toNat
  if len > maxMsgBytes then server.report (tooLarge len) else .readPayload len

/-- What the sequential code writes to the peer of the connection, when all it gets are the bytes
that the peer has sent. -/
def replyTo (env : SigningEnv) (conn : Connection) : List UInt8 :=
  (finalState (acceptConnection server.lib server.reqSerde server.respSerde env server.config
    server.ca conn.peerCid conn.peerPort ⟨conn.sent, [], none⟩)).output

end Server

namespace Connection

/-- A connection is accepted; the stream of an unexpected peer port is dropped. -/
def accepted (peerCid peerPort : UInt32) (room : ℕ) : Connection where
  peerCid := peerCid
  peerPort := peerPort
  sent := []
  ended := false
  gone := false
  room := room
  output := []
  pc := if peerPort ≠ server.config.peerPort then .done else .readHeader

/-- The task goes on from its await point, if it can. `env` is what signing draws on, and `n` how
many bytes a write to the socket takes. -/
def step (env : SigningEnv) (n : ℕ) (conn : Connection) : Option Connection :=
  match conn.pc with
  | .readHeader =>
    if 4 ≤ conn.sent.length then some (conn.goto (server.checkHeader (conn.sent.take 4)))
    else if conn.ended then some (conn.goto (server.report "early eof"))
    else none
  | .readPayload len =>
    if len ≤ (conn.sent.drop 4).length then
      let req := server.reqSerde.fromSlice ((conn.sent.drop 4).take len)
      some (conn.goto (server.reply env conn.peerCid req))
    else if conn.ended then some (conn.goto (server.report "early eof"))
    else none
  | .write bytes reports =>
    if conn.gone then
      some (conn.goto (if reports then server.report "Broken pipe" else .done))
    else if 0 < n ∧ n ≤ bytes.length ∧ n ≤ conn.room then
      some { conn with
        output := conn.output ++ bytes.take n
        room := conn.room - n
        pc := if n = bytes.length then .done else .write (bytes.drop n) reports }
    else none
  | .done => none

end Connection

/-- The connections of the listener. -/
structure Listener where
  conns : ℕ → Option Connection

/-- What can happen: a connection is accepted or fails to be, a peer sends, reads, ends its side or
leaves, or the task of a connection goes on. -/
inductive ListenerAction where
  | accept (id : ℕ) (peerCid peerPort : UInt32) (room : ℕ)
  | acceptFails
  | peerSends (id : ℕ) (bytes : List UInt8)
  | peerReads (id count : ℕ)
  | peerEnds (id : ℕ)
  | peerLeaves (id : ℕ)
  | run (id : ℕ) (env : SigningEnv) (n : ℕ)

namespace Listener

/-- The listener after binding its port. -/
def start : Listener := ⟨fun _ => none⟩

/-- Replace a connection. -/
def setConn (sys : Listener) (id : ℕ) (conn : Connection) : Listener :=
  ⟨Function.update sys.conns id (some conn)⟩

/-- The next state. -/
def step (sys : Listener) : ListenerAction → Option Listener
  | .accept id peerCid peerPort room =>
    if (sys.conns id).isSome then none
    else some (sys.setConn id (.accepted server peerCid peerPort room))
  | .acceptFails => some sys
  | .peerSends id bytes =>
    (sys.conns id).bind fun conn =>
      if conn.ended then none else some (sys.setConn id { conn with sent := conn.sent ++ bytes })
  | .peerReads id count =>
    (sys.conns id).map fun conn => sys.setConn id { conn with room := conn.room + count }
  | .peerEnds id => (sys.conns id).map fun conn => sys.setConn id { conn with ended := true }
  | .peerLeaves id =>
    (sys.conns id).map fun conn => sys.setConn id { conn with ended := true, gone := true }
  | .run id env n => (sys.conns id).bind fun conn => (conn.step server env n).map (sys.setConn id)

end Listener

end

/-! ## What is read -/

section

variable {α : Type} (serde : Serde α)

/-- What `recv_json` makes of the bytes of a peer that sends no more. -/
def received (input : List UInt8) : Except String α :=
  match recvJson serde ⟨input, [], none⟩ with
  | .ok value _ => .ok value
  | .error e _ => .error e

variable {serde} {input : List UInt8}

theorem received_of_lt (h : input.length < 4) : received serde input = .error "early eof" := by
  rw [received, recvJson, bind_of_error (readExact_of_lt (s := ⟨input, [], none⟩) h)]

/-- `recv_json` with the four bytes of a header there. -/
theorem recvJson_of_header (h : 4 ≤ input.length) :
    recvJson serde ⟨input, [], none⟩ =
      (if (fromBeBytes (input.take 4)).toNat > maxMsgBytes then
        throw (tooLarge (fromBeBytes (input.take 4)).toNat)
      else
        readExact (fromBeBytes (input.take 4)).toNat >>= fun buf =>
          liftResult (serde.fromSlice buf) : StreamM α) ⟨input.drop 4, [], none⟩ := by
  rw [recvJson, bind_of_ok ((readExact_eq_ok_iff 4 _ _ _).mpr ⟨h, rfl, rfl⟩)]
  rfl

theorem received_of_large (h : 4 ≤ input.length)
    (hlarge : (fromBeBytes (input.take 4)).toNat > maxMsgBytes) :
    received serde input = .error (tooLarge (fromBeBytes (input.take 4)).toNat) := by
  rw [received, recvJson_of_header h, if_pos hlarge]
  rfl

theorem received_of_short (h : 4 ≤ input.length)
    (hle : (fromBeBytes (input.take 4)).toNat ≤ maxMsgBytes)
    (hshort : (input.drop 4).length < (fromBeBytes (input.take 4)).toNat) :
    received serde input = .error "early eof" := by
  rw [received, recvJson_of_header h, if_neg (Nat.not_lt.mpr hle),
    bind_of_error (readExact_of_lt (s := ⟨input.drop 4, [], none⟩) hshort)]

theorem received_of_payload (h : 4 ≤ input.length)
    (hle : (fromBeBytes (input.take 4)).toNat ≤ maxMsgBytes)
    (hlen : (fromBeBytes (input.take 4)).toNat ≤ (input.drop 4).length) :
    received serde input =
      serde.fromSlice ((input.drop 4).take (fromBeBytes (input.take 4)).toNat) := by
  rw [received, recvJson_of_header h, if_neg (Nat.not_lt.mpr hle),
    bind_of_ok ((readExact_eq_ok_iff _ ⟨input.drop 4, [], none⟩ _ _).mpr ⟨hlen, rfl, rfl⟩)]
  cases serde.fromSlice ((input.drop 4).take (fromBeBytes (input.take 4)).toNat) <;> rfl

end

section

variable {KeyPair PublicKey : Type} {server : Server KeyPair PublicKey} {conn : Connection}
  {env : SigningEnv}

/-! ## What the sequential code writes -/

namespace Server

/-- Sending to a peer that takes everything. -/
theorem output_sendJson (resp : AgentResponse) (input : List UInt8) :
    (∃ payload, server.respSerde.toVec resp = .ok payload ∧
      sendJson server.respSerde resp ⟨input, [], none⟩ = .ok () ⟨input, frame payload, none⟩) ∨
    ∃ e, server.respSerde.toVec resp = .error e ∧
      sendJson server.respSerde resp ⟨input, [], none⟩ = .error e ⟨input, [], none⟩ := by
  cases hvec : server.respSerde.toVec resp with
  | ok payload =>
    exact Or.inl ⟨payload, rfl, sendJson_of_room_none (s := ⟨input, [], none⟩) rfl hvec⟩
  | error e =>
    refine Or.inr ⟨e, rfl, ?_⟩
    rw [sendJson, hvec]
    rfl

/-- The report of an error. -/
theorem output_report (e : String) (input : List UInt8) :
    (finalState ((ignoreResult (sendJson server.respSerde (.error e)) : StreamM Unit)
      ⟨input, [], none⟩)).output = (server.report e).bytes := by
  rw [ignoreResult_run, report]
  rcases server.output_sendJson (.error e) input with ⟨payload, hvec, hsend⟩ | ⟨e', hvec, hsend⟩
  · rw [hvec, hsend]
    rfl
  · rw [hvec, hsend]
    rfl

/-- On the expected port, the sequential code writes the reply to what it reads. -/
theorem replyTo_eq (hport : conn.peerPort = server.config.peerPort) (env : SigningEnv) :
    server.replyTo env conn =
      (server.reply env conn.peerCid (received server.reqSerde conn.sent)).bytes := by
  rw [replyTo, acceptConnection, if_neg (not_not.mpr hport), handleConnection, handleInner_eq,
    received]
  have hkeeps := recvJson_keeps server.reqSerde ⟨conn.sent, [], none⟩
  cases hrecv : recvJson server.reqSerde ⟨conn.sent, [], none⟩ with
  | error e s =>
    rw [hrecv, finalState_error, Prod.mk.injEq] at hkeeps
    rcases s with ⟨input, output, room⟩
    obtain ⟨rfl, rfl⟩ := hkeeps
    rw [bind_of_error hrecv]
    exact output_report e input
  | ok req s =>
    rw [hrecv, finalState_ok, Prod.mk.injEq] at hkeeps
    rcases s with ⟨input, output, room⟩
    obtain ⟨rfl, rfl⟩ := hkeeps
    rw [bind_of_ok hrecv]
    -- the decision is sent, or the text of a refusal
    simp only [reply]
    cases hrespond : respond server.lib env server.config server.ca conn.peerCid req with
    | error e => exact output_report e input
    | ok resp =>
      simp only [send]
      rcases server.output_sendJson resp input with ⟨payload, hvec, hsend⟩ | ⟨e, hvec, hsend⟩
      · rw [hvec, hsend]
        rfl
      · rw [hvec, hsend]
        exact output_report e input

/-- On another port, the sequential code writes nothing. -/
theorem replyTo_of_ne (hport : conn.peerPort ≠ server.config.peerPort) (env : SigningEnv) :
    server.replyTo env conn = [] := by
  rw [replyTo, acceptConnection, if_pos hport]
  rfl

end Server

/-! ## One connection -/

namespace Connection

variable (server) in
/-- Whatever else the peer sends, `r` is what is read of it. -/
def Settled (conn : Connection) (r : Except String AgentRequest) : Prop :=
  ∀ more, (conn.ended → more = []) → received server.reqSerde (conn.sent ++ more) = r

variable (server) in
/-- The connection is on the expected port, and what it was written and what is left to write is
the reply to what was read; a peer that has left may have been written only the beginning. -/
def Writes (conn : Connection) (rest : List UInt8) : Prop :=
  conn.peerPort = server.config.peerPort ∧ ∃ env r, conn.Settled server r ∧
    (conn.output ++ rest = (server.reply env conn.peerCid r).bytes ∨
      conn.gone ∧ conn.output <+: (server.reply env conn.peerCid r).bytes)

variable (server) in
/-- What a connection has come to at its await point. -/
def Follows (conn : Connection) : Prop :=
  match conn.pc with
  | .readHeader => conn.peerPort = server.config.peerPort ∧ conn.output = []
  | .readPayload len => conn.peerPort = server.config.peerPort ∧ conn.output = [] ∧
      4 ≤ conn.sent.length ∧ len = (fromBeBytes (conn.sent.take 4)).toNat ∧ len ≤ maxMsgBytes
  | .write bytes _ => conn.Writes server bytes
  | .done => conn.peerPort ≠ server.config.peerPort ∧ conn.output = [] ∨ conn.Writes server []

theorem Settled.received_eq {r : Except String AgentRequest} (h : conn.Settled server r) :
    received server.reqSerde conn.sent = r := by
  have hmore := h [] fun _ => rfl
  rwa [List.append_nil] at hmore

/-- A connection whose request is read starts to write the reply. -/
theorem follows_reply (hport : conn.peerPort = server.config.peerPort) (hout : conn.output = [])
    {r : Except String AgentRequest} (h : conn.Settled server r) (env : SigningEnv) :
    (conn.goto (server.reply env conn.peerCid r)).Follows server := by
  have hwrites : ∀ pc, pc = server.reply env conn.peerCid r →
      (conn.goto pc).Writes server pc.bytes := by
    rintro pc rfl
    exact ⟨hport, env, r, h, Or.inl (by rw [goto, hout, List.nil_append])⟩
  -- the reply is written from its beginning, or there is none
  cases hpc : server.reply env conn.peerCid r with
  | write bytes reports => exact hwrites _ hpc.symm
  | done => exact Or.inr (hwrites _ hpc.symm)
  | readHeader | readPayload =>
    simp only [Server.reply, Server.send, Server.report] at hpc
    repeat' split at hpc
    all_goals cases hpc

/-- A connection that reads no request starts to write the error. -/
theorem follows_report (hport : conn.peerPort = server.config.peerPort) (hout : conn.output = [])
    {e : String} (h : conn.Settled server (.error e)) :
    (conn.goto (server.report e)).Follows server :=
  follows_reply hport hout h ⟨⟨0⟩, [], []⟩

/-- The header of a connection stays what it is. -/
theorem take_sent {n : ℕ} (h : n ≤ conn.sent.length) (more : List UInt8) :
    (conn.sent ++ more).take n = conn.sent.take n := List.take_append_of_le_length h

/-- With the header there, the length is checked. -/
theorem follows_checkHeader (hport : conn.peerPort = server.config.peerPort)
    (hout : conn.output = []) (h : 4 ≤ conn.sent.length) :
    (conn.goto (server.checkHeader (conn.sent.take 4))).Follows server := by
  unfold Server.checkHeader
  by_cases hlarge : (fromBeBytes (conn.sent.take 4)).toNat > maxMsgBytes
  · rw [if_pos hlarge]
    refine follows_report hport hout fun more _ => ?_
    rw [received_of_large (by rw [List.length_append]; omega) (by rwa [take_sent h]), take_sent h]
  · rw [if_neg hlarge]
    exact ⟨hport, hout, h, rfl, Nat.not_lt.mp hlarge⟩

/-- A task that goes on keeps to the sequential code. -/
theorem Follows.step {conn' : Connection} {n : ℕ} (h : conn.Follows server)
    (hstep : conn.step server env n = some conn') : conn'.Follows server := by
  unfold Connection.step at hstep
  unfold Follows at h
  cases hpc : conn.pc with
  | readHeader =>
    simp only [hpc] at hstep h
    obtain ⟨hport, hout⟩ := h
    split at hstep
    · cases hstep
      exact follows_checkHeader hport hout ‹_›
    · split at hstep
      · rename_i hshort hended
        cases hstep
        refine follows_report hport hout fun more hmore => ?_
        rw [hmore hended, List.append_nil]
        exact received_of_lt (Nat.not_le.mp hshort)
      · cases hstep
  | readPayload len =>
    simp only [hpc] at hstep h
    obtain ⟨hport, hout, hheader, rfl, hle⟩ := h
    split at hstep
    · -- the payload is there, whatever follows it
      rename_i hlen
      cases hstep
      refine follows_reply hport hout (fun more _ => ?_) env
      have hdrop : (conn.sent ++ more).drop 4 = conn.sent.drop 4 ++ more :=
        List.drop_append_of_le_length hheader
      rw [received_of_payload, take_sent hheader, hdrop, List.take_append_of_le_length hlen]
      · rw [List.length_append]
        omega
      · rwa [take_sent hheader]
      · rw [take_sent hheader, hdrop, List.length_append]
        omega
    · split at hstep
      · rename_i hshort hended
        cases hstep
        refine follows_report hport hout fun more hmore => ?_
        rw [hmore hended, List.append_nil]
        exact received_of_short hheader hle (Nat.not_le.mp hshort)
      · cases hstep
  | write bytes reports =>
    simp only [hpc] at hstep h
    obtain ⟨hport, env', r, hsettled, hwrites⟩ := h
    have hbegun : conn.output <+: (server.reply env' conn.peerCid r).bytes := by
      rcases hwrites with heq | ⟨-, hbegun⟩
      · exact heq ▸ List.prefix_append _ _
      · exact hbegun
    split at hstep
    · -- the peer has left, and gets no more
      rename_i hgone
      cases hstep
      have hleft : ∀ pc rest, (conn.goto pc).Writes server rest :=
        fun pc rest => ⟨hport, env', r, hsettled, Or.inr ⟨hgone, hbegun⟩⟩
      split
      · unfold Server.report
        split
        · exact hleft _ _
        · exact Or.inr (hleft _ _)
      · exact Or.inr (hleft _ _)
    · rename_i hgone
      have hrest := hwrites.resolve_right fun hleft => hgone hleft.1
      split at hstep
      · -- the bytes that were written are taken from the front
        cases hstep
        split
        · rename_i hall
          refine Or.inr ⟨hport, env', r, hsettled, Or.inl ?_⟩
          show conn.output ++ bytes.take n ++ [] = _
          rw [hall, List.take_length, List.append_nil, hrest]
        · refine ⟨hport, env', r, hsettled, Or.inl ?_⟩
          show conn.output ++ bytes.take n ++ bytes.drop n = _
          rw [List.append_assoc, List.take_append_drop, hrest]
      · cases hstep
  | done =>
    simp only [hpc] at hstep
    cases hstep

/-- What a peer does that has not ended its side: its bytes go behind the others. -/
theorem Follows.sends (h : conn.Follows server) (hopen : conn.ended = false) (bytes : List UInt8) :
    ({ conn with sent := conn.sent ++ bytes } : Connection).Follows server := by
  have hwrites : ∀ rest, conn.Writes server rest →
      ({ conn with sent := conn.sent ++ bytes } : Connection).Writes server rest := by
    rintro rest ⟨hport, env, r, hsettled, hwrites⟩
    refine ⟨hport, env, r, fun more hmore => ?_, hwrites⟩
    rw [List.append_assoc]
    exact hsettled _ fun hended => by rw [hopen] at hended; cases hended
  unfold Follows at h ⊢
  cases hpc : conn.pc with
  | readHeader => simpa [hpc] using h
  | readPayload len =>
    simp only [hpc] at h ⊢
    obtain ⟨hport, hout, hheader, hlen, hle⟩ := h
    refine ⟨hport, hout, ?_, ?_, hle⟩
    · rw [List.length_append]
      omega
    · rw [take_sent hheader, hlen]
  | write rest reports =>
    simp only [hpc] at h ⊢
    exact hwrites _ h
  | done =>
    simp only [hpc] at h ⊢
    exact h.imp_right (hwrites _)

/-- What else a peer does: it reads, ends its side, or leaves. -/
theorem Follows.hears (h : conn.Follows server) {ended gone : Bool} (room : ℕ)
    (hended : conn.ended → ended) (hgone : conn.gone → gone) :
    ({ conn with ended := ended, gone := gone, room := room } : Connection).Follows server := by
  have hwrites : ∀ rest, conn.Writes server rest →
      ({ conn with ended := ended, gone := gone, room := room } : Connection).Writes server
        rest := by
    rintro rest ⟨hport, env, r, hsettled, hwrites⟩
    refine ⟨hport, env, r, fun more hmore => ?_, hwrites.imp_right fun hleft => ?_⟩
    · exact hsettled more fun h => hmore (hended h)
    · exact ⟨hgone hleft.1, hleft.2⟩
  unfold Follows at h ⊢
  cases hpc : conn.pc with
  | readHeader | readPayload => simpa [hpc] using h
  | write rest reports =>
    simp only [hpc] at h ⊢
    exact hwrites _ h
  | done =>
    simp only [hpc] at h ⊢
    exact h.imp_right (hwrites _)

end Connection

/-! ## Every connection -/

namespace Listener

variable {sys sys' : Listener}

@[simp]
theorem setConn_conns_self (sys : Listener) (id : ℕ) (conn : Connection) :
    (sys.setConn id conn).conns id = some conn := Function.update_self _ _ _

theorem setConn_conns_of_ne (sys : Listener) {id other : ℕ} (h : other ≠ id) (conn : Connection) :
    (sys.setConn id conn).conns other = sys.conns other := Function.update_of_ne h _ _

variable (server) in
/-- Every connection keeps to the sequential code. -/
def Follows (sys : Listener) : Prop :=
  ∀ id conn, sys.conns id = some conn → conn.Follows server

/-- A connection that is replaced is the only one that changes. -/
theorem Follows.setConn (h : sys.Follows server) {id : ℕ} {conn : Connection}
    (hconn : conn.Follows server) : (sys.setConn id conn).Follows server := by
  intro other conn' hconn'
  by_cases hother : other = id
  · subst hother
    rw [setConn_conns_self] at hconn'
    cases hconn'
    exact hconn
  · rw [setConn_conns_of_ne sys hother] at hconn'
    exact h other conn' hconn'

/-- Whatever happens, every connection keeps to the sequential code. -/
theorem Follows.step {a : ListenerAction} (h : sys.Follows server)
    (hstep : sys.step server a = some sys') : sys'.Follows server := by
  cases a with
  | accept id peerCid peerPort room =>
    simp only [Listener.step] at hstep
    split at hstep
    · cases hstep
    · cases hstep
      refine h.setConn ?_
      unfold Connection.accepted Connection.Follows
      by_cases hport : peerPort = server.config.peerPort <;> simp [hport]
  | acceptFails =>
    cases hstep
    exact h
  | peerSends id bytes =>
    obtain ⟨conn, hconn, hstep⟩ := Option.bind_eq_some_iff.mp hstep
    split at hstep
    · cases hstep
    · rename_i hopen
      cases hstep
      exact h.setConn ((h id conn hconn).sends (Bool.not_eq_true _ ▸ hopen) bytes)
  | peerReads id count =>
    obtain ⟨conn, hconn, rfl⟩ := Option.map_eq_some_iff.mp hstep
    exact h.setConn ((h id conn hconn).hears (conn.room + count) (fun h => h) fun h => h)
  | peerEnds id =>
    obtain ⟨conn, hconn, rfl⟩ := Option.map_eq_some_iff.mp hstep
    exact h.setConn ((h id conn hconn).hears conn.room (fun _ => rfl) fun h => h)
  | peerLeaves id =>
    obtain ⟨conn, hconn, rfl⟩ := Option.map_eq_some_iff.mp hstep
    exact h.setConn ((h id conn hconn).hears conn.room (fun _ => rfl) fun _ => rfl)
  | run id env n =>
    obtain ⟨conn, hconn, hstep⟩ := Option.bind_eq_some_iff.mp hstep
    obtain ⟨conn', hconn', rfl⟩ := Option.map_eq_some_iff.mp hstep
    exact h.setConn ((h id conn hconn).step hconn')

end Listener

theorem Listener.follows_of_visits {as : List ListenerAction} {sys : Listener}
    (h : Visits (Listener.step server) .start as sys) : sys.Follows server :=
  visits_induction (fun _ _ hconn => by cases hconn)
    (fun _ _ _ htakes hsys => hsys.step htakes.step_eq) sys h

/-- The connections of a run are written what the sequential code writes. -/
theorem Listener.reply_of_visits {as : List ListenerAction} {sys : Listener}
    (hvisits : Visits (Listener.step server) .start as sys) {id : ℕ}
    (hconn : sys.conns id = some conn) :
    ∃ env, conn.output <+: server.replyTo env conn ∧
      (conn.pc = .done → conn.gone = false → conn.output = server.replyTo env conn) := by
  have hfollows := Listener.follows_of_visits hvisits id conn hconn
  have hnothing : conn.output = [] → conn.pc ≠ .done →
      ∃ env, conn.output <+: server.replyTo env conn ∧
        (conn.pc = .done → conn.gone = false → conn.output = server.replyTo env conn) :=
    fun hout hpc => ⟨⟨⟨0⟩, [], []⟩, hout ▸ List.nil_prefix, fun h => absurd h hpc⟩
  have hwritten : ∀ rest, (conn.pc = .done → rest = []) → conn.Writes server rest →
      ∃ env, conn.output <+: server.replyTo env conn ∧
        (conn.pc = .done → conn.gone = false → conn.output = server.replyTo env conn) := by
    rintro rest hrest ⟨hport, env, r, hsettled, hwrites⟩
    refine ⟨env, ?_⟩
    rw [Server.replyTo_eq hport env, hsettled.received_eq]
    rcases hwrites with heq | ⟨hgone, hbegun⟩
    · refine ⟨heq ▸ List.prefix_append _ _, fun hdone _ => ?_⟩
      rw [← heq, hrest hdone, List.append_nil]
    · refine ⟨hbegun, fun _ hhere => ?_⟩
      rw [hgone] at hhere
      cases hhere
  unfold Connection.Follows at hfollows
  cases hpc : conn.pc with
  | readHeader =>
    simp only [hpc] at hfollows
    simpa [hpc] using hnothing hfollows.2 (by simp [hpc])
  | readPayload len =>
    simp only [hpc] at hfollows
    simpa [hpc] using hnothing hfollows.2.1 (by simp [hpc])
  | write bytes reports =>
    simp only [hpc] at hfollows
    simpa [hpc] using hwritten bytes (by simp [hpc]) hfollows
  | done =>
    simp only [hpc] at hfollows
    rcases hfollows with ⟨hport, hout⟩ | hwrites
    · exact ⟨⟨⟨0⟩, [], []⟩, by simp [hout, Server.replyTo_of_ne hport]⟩
    · simpa [hpc] using hwritten [] (fun _ => rfl) hwrites

end

/-! ## Runs -/

namespace Symbolic

/-- A server that reads every payload as the request of `vm-a`, and sends empty payloads. -/
def server : Server ℕ ℕ where
  lib := lib
  reqSerde := ⟨fun _ => .ok [],
    fun _ => .ok (.certRequest protocolVersion "vm-a" "web" (csr "web" 7))⟩
  respSerde := ⟨fun _ => .ok [], fun _ => .error "EOF while parsing a value"⟩
  config := hostConfig 60
  ca := authority 1 1

/-- The clock of the server. -/
def signing : SigningEnv := ⟨dateTimeJan1 2025, [], []⟩

/-- A connection of `vm-a` that has sent the frame of an empty payload. -/
def requesting (pc : ConnPc) : Connection := ⟨3, 901, [0, 0, 0, 0], false, false, 4, [], pc⟩

/-- The connection has been written the frame of an empty payload. -/
def served : Connection := ⟨3, 901, [0, 0, 0, 0], false, false, 0, [0, 0, 0, 0], .done⟩

theorem exists_run_served :
    ∃ sys, run (Listener.step server) .start
        [.acceptFails, .accept 0 3 901 4, .peerSends 0 [0, 0, 0, 0], .run 0 signing 0,
          .run 0 signing 0, .run 0 signing 4] = some sys ∧ sys.conns 0 = some served := by
  obtain ⟨certPem, hanswer⟩ := exists_answer signing 1 1 "vm-a" 3 ⟨"unix:user:www", 60⟩
    (by simp : ∀ c ∈ "web".toList, c.toNat < 128) "web" 7
  have hrespond := (answer_eq_iff (by simp)).mp hanswer
  -- the request is granted, and the frame of the answer is written at once
  have hreply : server.reply signing 3 (server.reqSerde.fromSlice []) =
      .write [0, 0, 0, 0] true := by
    show server.reply signing 3 (.ok (.certRequest protocolVersion "vm-a" "web" (csr "web" 7))) = _
    simp only [Server.reply]
    rw [show respond server.lib signing server.config server.ca 3 _ = _ from hrespond]
    rfl
  let reading : Listener := Listener.start.setConn 0 (.accepted server 3 901 4)
  let sent := reading.setConn 0 (requesting .readHeader)
  let header := sent.setConn 0 (requesting (.readPayload 0))
  let writing := header.setConn 0 (requesting (.write [0, 0, 0, 0] true))
  have hheader : run (Listener.step server) .start
      [.acceptFails, .accept 0 3 901 4, .peerSends 0 [0, 0, 0, 0], .run 0 signing 0] =
        some header := rfl
  have hwriting : header.step server (.run 0 signing 0) = some writing := by
    show some (header.setConn 0 ((requesting (.readPayload 0)).goto
      (server.reply signing 3 (server.reqSerde.fromSlice [])))) = _
    rw [hreply]
    rfl
  refine ⟨writing.setConn 0 served, ?_, rfl⟩
  refine (run_concat_eq_some_iff _ [_, _, _, _, _] _ _).mpr ⟨writing, ?_, rfl⟩
  exact (run_concat_eq_some_iff _ [_, _, _, _] _ _).mpr ⟨header, hheader, hwriting⟩

end Symbolic

section

variable {KeyPair PublicKey : Type}

/-- In every state of every run of the listener, each connection has been written the beginning of
what the sequential handler writes, with some clock and random bytes, to a peer that has sent the
same bytes and takes everything. When the task is done and the peer has not left, it has been
written all of that. -/
theorem listener_refines (server : Server KeyPair PublicKey) (as : List ListenerAction)
    (sys : Listener) (hvisits : Visits (Listener.step server) .start as sys) (id : ℕ)
    (conn : Connection) (hconn : sys.conns id = some conn) :
    ∃ env, conn.output <+: server.replyTo env conn ∧
      (conn.pc = .done → conn.gone = false → conn.output = server.replyTo env conn) :=
  Listener.reply_of_visits hvisits hconn

/-- A request of `vm-a` is answered. -/
theorem listener_refines_served :
    ∃ env, Symbolic.served.output = Symbolic.server.replyTo env Symbolic.served := by
  obtain ⟨sys, hrun, hconn⟩ := Symbolic.exists_run_served
  obtain ⟨env, -, hall⟩ := listener_refines Symbolic.server _ sys (visits_end hrun) 0 _ hconn
  exact ⟨env, hall rfl rfl⟩

/-- In every state of every run of the listener, a connection from the expected port that is done,
and whose peer has not left, has been written one frame. When it is that of a certificate, the first
frame of the peer requested it for a workload that is registered with a VM of the peer's CID, and
the CA has signed it with the identity, the CID, the address and the lifetime that are registered
there. -/
theorem listener_certOk (server : Server KeyPair PublicKey)
    (hvec : ∀ resp, ∃ payload, server.respSerde.toVec resp = .ok payload)
    (as : List ListenerAction) (sys : Listener)
    (hvisits : Visits (Listener.step server) .start as sys) (id : ℕ) (conn : Connection)
    (hconn : sys.conns id = some conn) (hport : conn.peerPort = server.config.peerPort)
    (hdone : conn.pc = .done) (hhere : conn.gone = false) :
    ∃ resp payload, server.respSerde.toVec resp = .ok payload ∧ conn.output = frame payload ∧
      ∀ certPem caCertPem, resp = .certOk certPem caCertPem →
        ∃ vmName identity csrPem vm policy env rest,
          FirstFrame server.reqSerde (.certRequest protocolVersion vmName identity csrPem)
            conn.sent rest ∧
          server.config.Registers vmName identity vm policy ∧ vm.vmCid = conn.peerCid ∧
          signCsr server.lib env server.ca
            ⟨csrPem, identity, vmName, conn.peerCid, vm.ip, policy.ttlMinutes * 60⟩ = .ok certPem ∧
          caCertPem = server.ca.certPem := by
  obtain ⟨env, -, hall⟩ := Listener.reply_of_visits hvisits hconn
  obtain ⟨resp, payload, hpayload, hout, hcases⟩ := output_acceptConnection server.lib
    server.reqSerde env server.ca conn.peerCid hvec (s := ⟨conn.sent, [], none⟩) rfl hport
  refine ⟨resp, payload, hpayload, (hall hdone hhere).trans hout, ?_⟩
  rintro certPem caCertPem rfl
  rcases hcases with ⟨req, rest, hframe, hresp⟩ | ⟨-, e, hresp⟩
  · -- a certificate is the answer to a request that was read
    have hgranted := hresp.symm
    rw [answer_eq_iff (by simp), respond_certOk_iff] at hgranted
    obtain ⟨vmName, identity, csrPem, vm, policy, rfl, hreg, hcid, hsign, hca⟩ := hgranted
    exact ⟨vmName, identity, csrPem, vm, policy, env, rest, hframe, hreg, hcid, hsign, hca⟩
  · cases hresp

/-- The answer to the request of `vm-a` is one frame. -/
theorem listener_certOk_served :
    ∃ resp payload, Symbolic.server.respSerde.toVec resp = .ok payload ∧
      Symbolic.served.output = frame payload := by
  obtain ⟨sys, hrun, hconn⟩ := Symbolic.exists_run_served
  obtain ⟨resp, payload, hpayload, hout, -⟩ := listener_certOk Symbolic.server
    (fun _ => ⟨[], rfl⟩) _ sys (visits_end hrun) 0 _ hconn rfl rfl rfl
  exact ⟨resp, payload, hpayload, hout⟩

end

end AuthnScope
