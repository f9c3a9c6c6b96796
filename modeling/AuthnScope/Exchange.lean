import AuthnScope.Proto.JsonReader
import AuthnScope.Server.Listener

/-!
# An exchange between the agent and the host

The agent sends a request as one frame and reads one frame back. What the host does in between is
that of `handle_connection`, and both sides check the limit on frames when they receive one only.
So a request that is too long is answered, with an error, and an answer that is too long is lost.

## Main definitions

* `Server.exchange`: the bytes both ways;
* `Server.Serves`: an exchange with the listener, beside any number of other connections.

## Main results

* `exchange_eq_ok_iff`: what the agent gets of an exchange;
* `serves_iff`: it can get the same from the listener, and nothing else.
-/

namespace AuthnScope

open Framing Outcome Transition

/-! ## Frames that arrive in full -/

section

variable {α : Type} {serde : Serde α} {payload : List UInt8}

theorem take_frame (payload : List UInt8) :
    (frame payload).take 4 = toBeBytes (UInt32.ofNat payload.length) := by
  rw [frame, List.take_append_of_le_length (by rw [length_toBeBytes])]
  rfl

/-- A frame within the limit is decoded. -/
theorem received_frame (hle : payload.length ≤ maxMsgBytes) :
    received serde (frame payload) = serde.fromSlice payload := by
  rw [received, recvJson_frame hle (List.append_nil _).symm]
  cases serde.fromSlice payload <;> rfl

/-- A frame beyond the limit is refused. -/
theorem received_frame_of_lt (hlarge : maxMsgBytes < payload.length)
    (hu32 : payload.length < 2 ^ 32) :
    received serde (frame payload) = .error (tooLarge payload.length) := by
  have hlen : (fromBeBytes ((frame payload).take 4)).toNat = payload.length := by
    rw [take_frame, fromBeBytes_toBeBytes, toNat_ofNat_eq_iff]
    exact hu32
  rw [received_of_large (by rw [length_frame]; omega) (by rwa [hlen]), hlen]

end

section

variable {KeyPair PublicKey : Type}

namespace Server

variable (server : Server KeyPair PublicKey) (env : SigningEnv) (peerCid : UInt32)

/-- The messages of the server are JSON, for some reader of JSON text. -/
def SpeaksJson : Prop :=
  ∃ read, Json.ReadsMessages read ∧ server.reqSerde = AgentRequest.serde read ∧
    server.respSerde = AgentResponse.serde read

/-- The agent sends a request, the host handles the connection, and the agent reads what it was
sent. -/
def exchange (req : AgentRequest) : Except String AgentResponse :=
  let sent := (finalState (sendJson server.reqSerde req ⟨[], [], none⟩)).output
  received server.respSerde (finalState (acceptConnection server.lib server.reqSerde
    server.respSerde env server.config server.ca peerCid server.config.peerPort
    ⟨sent, [], none⟩)).output

/-- What the host answers: the decision on a request whose text is within the limit, and an error
to a longer one. -/
def answerTo (req : AgentRequest) : AgentResponse :=
  if req.toJson.toVec.length ≤ maxMsgBytes then
    answer server.lib env server.config server.ca peerCid req
  else .error (tooLarge req.toJson.toVec.length)

/-- The bytes of the answer. -/
def answerText (req : AgentRequest) : List UInt8 := (server.answerTo env peerCid req).toJson.toVec

/-- The agent sends a request over a connection of the listener, whatever the listener's other peers
do, and reads the response out of what it is written until the task of the connection is done. The
frames are shorter than 4 GiB. -/
def Serves (req : AgentRequest) (resp : AgentResponse) : Prop :=
  ∃ as sys id conn, Visits (Listener.step server) .start as sys ∧ sys.conns id = some conn ∧
    conn.peerCid = peerCid ∧ conn.sent = frame req.toJson.toVec ∧ conn.pc = .done ∧
    conn.gone = false ∧ req.toJson.toVec.length < 2 ^ 32 ∧ conn.output.length < 2 ^ 32 ∧
    received server.respSerde conn.output = .ok resp

variable {server} {env} {peerCid}

namespace SpeaksJson

variable (hjson : server.SpeaksJson)
include hjson

theorem reqSerde_toVec (req : AgentRequest) :
    server.reqSerde.toVec req = .ok req.toJson.toVec := by
  obtain ⟨read, -, hreq, -⟩ := hjson
  rw [hreq]
  rfl

theorem respSerde_toVec (resp : AgentResponse) :
    server.respSerde.toVec resp = .ok resp.toJson.toVec := by
  obtain ⟨read, -, -, hresp⟩ := hjson
  rw [hresp]
  rfl

/-- The host reads a request back. -/
theorem reqSerde_fromSlice (req : AgentRequest) :
    server.reqSerde.fromSlice req.toJson.toVec = .ok req := by
  obtain ⟨read, hread, hreq, -⟩ := hjson
  rw [hreq]
  exact req.readsBack hread _ rfl

/-- The agent reads a response back, up to the order of its map. -/
theorem exists_fromSlice (resp : AgentResponse) :
    ∃ resp', server.respSerde.fromSlice resp.toJson.toVec = .ok resp' ∧ resp'.Same resp := by
  obtain ⟨read, hread, -, hresp⟩ := hjson
  rw [hresp]
  exact resp.exists_fromSlice hread

end SpeaksJson

/-- The frame of the response that a request is answered with. -/
theorem output_of_request (hjson : server.SpeaksJson) {req : AgentRequest}
    (hu32 : req.toJson.toVec.length < 2 ^ 32) :
    (finalState (acceptConnection server.lib server.reqSerde server.respSerde env server.config
        server.ca peerCid server.config.peerPort ⟨frame req.toJson.toVec, [], none⟩)).output =
      frame (server.answerText env peerCid req) := by
  have hvec : ∀ resp, ∃ payload, server.respSerde.toVec resp = .ok payload :=
    fun resp => ⟨_, hjson.respSerde_toVec resp⟩
  obtain ⟨payload, hpayload, hout⟩ := output_handleConnection server.lib server.reqSerde env
    server.config server.ca peerCid hvec (s := ⟨frame req.toJson.toVec, [], none⟩) rfl
  rw [acceptConnection, if_neg (not_not.mpr rfl), hout, List.nil_append]
  -- what the handler reads is the request, or its frame is refused
  have hread : received server.reqSerde (frame req.toJson.toVec) =
      if req.toJson.toVec.length ≤ maxMsgBytes then .ok req
      else .error (tooLarge req.toJson.toVec.length) := by
    split
    · rw [received_frame ‹_›, hjson.reqSerde_fromSlice]
    · exact received_frame_of_lt (Nat.not_le.mp ‹_›) hu32
  have hresponse : responseTo server.lib server.reqSerde env server.config server.ca peerCid
      ⟨frame req.toJson.toVec, [], none⟩ =
        server.answerTo env peerCid req := by
    rw [received] at hread
    rw [responseTo, answerTo]
    split at hread <;> rename_i hrecv <;> rw [hrecv] <;> split at hread <;> cases hread
    · rename_i hle
      rw [if_pos hle]
    · rename_i hle
      rw [if_neg hle]
  rw [hresponse, hjson.respSerde_toVec] at hpayload
  cases hpayload
  rfl

/-- The frame of an answer, read by the agent: the answer, if it is within the limit. -/
theorem received_answerText (hjson : server.SpeaksJson) {req : AgentRequest}
    (hu32 : (server.answerText env peerCid req).length < 2 ^ 32) :
    ((server.answerText env peerCid req).length ≤ maxMsgBytes →
      ∃ resp, received server.respSerde (frame (server.answerText env peerCid req)) = .ok resp ∧
        resp.Same (server.answerTo env peerCid req)) ∧
    (maxMsgBytes < (server.answerText env peerCid req).length →
      received server.respSerde (frame (server.answerText env peerCid req)) =
        .error (tooLarge (server.answerText env peerCid req).length)) := by
  refine ⟨fun hle => ?_, fun hlarge => received_frame_of_lt hlarge hu32⟩
  obtain ⟨resp, hread, hsame⟩ := hjson.exists_fromSlice (server.answerTo env peerCid req)
  exact ⟨resp, (received_frame hle).trans hread, hsame⟩

/-- The bytes both ways, for a request that is sent as JSON. -/
theorem exchange_eq (hjson : server.SpeaksJson) {req : AgentRequest}
    (hu32 : req.toJson.toVec.length < 2 ^ 32) :
    server.exchange env peerCid req =
      received server.respSerde (frame (server.answerText env peerCid req)) := by
  have hsend : (finalState (sendJson server.reqSerde req ⟨[], [], none⟩)).output =
      frame req.toJson.toVec := by
    rw [sendJson_of_room_none (s := ⟨[], [], none⟩) rfl (hjson.reqSerde_toVec req)]
    rfl
  rw [exchange, hsend, output_of_request hjson hu32]

theorem Serves.length_lt {req : AgentRequest} {resp : AgentResponse}
    (h : server.Serves peerCid req resp) : req.toJson.toVec.length < 2 ^ 32 := by
  obtain ⟨as, sys, id, conn, -, -, -, -, -, -, hu32, -⟩ := h
  exact hu32

/-- The listener gives the agent what an exchange gives it. -/
theorem Serves.exchange_eq (hjson : server.SpeaksJson) {req : AgentRequest} {resp : AgentResponse}
    (h : server.Serves peerCid req resp) :
    ∃ env, (server.answerText env peerCid req).length + 4 < 2 ^ 32 ∧
      server.exchange env peerCid req = .ok resp := by
  obtain ⟨as, sys, id, conn, hvisits, hconn, rfl, hsent, hdone, hhere, hu32, hout, hread⟩ := h
  obtain ⟨env, -, hall⟩ := Listener.reply_of_visits hvisits hconn
  rw [hall hdone hhere] at hout hread
  -- on another port the agent would read nothing
  by_cases hport : conn.peerPort = server.config.peerPort
  · rw [replyTo, hsent, hport, output_of_request hjson hu32] at hout hread
    rw [length_frame] at hout
    exact ⟨env, by omega, (Server.exchange_eq hjson hu32).trans hread⟩
  · rw [replyTo_of_ne hport, received_of_lt (by decide)] at hread
    cases hread

/-- What is sent to a connection that has its request: a frame of the answer. -/
theorem reply_of_request (env : SigningEnv) (peerCid : UInt32)
    (hjson : server.SpeaksJson) (req : AgentRequest) :
    ∃ reports, (if req.toJson.toVec.length ≤ maxMsgBytes then
        server.reply env peerCid (server.reqSerde.fromSlice req.toJson.toVec)
      else server.report (tooLarge req.toJson.toVec.length)) =
        .write (frame (server.answerText env peerCid req)) reports := by
  have hreport : ∀ e, server.report e =
      .write (frame (AgentResponse.error e).toJson.toVec) false := by
    intro e
    rw [report, hjson.respSerde_toVec]
  unfold answerText answerTo
  split
  · rw [hjson.reqSerde_fromSlice]
    simp only [reply, answer]
    cases respond server.lib env server.config server.ca peerCid req with
    | error e => exact ⟨false, hreport e⟩
    | ok resp =>
      refine ⟨true, ?_⟩
      show server.send resp = _
      rw [send, hjson.respSerde_toVec]
  · exact ⟨false, hreport _⟩

variable (server) in
/-- Some run of the listener comes to a connection like this. -/
def Reaches (conn : Connection) : Prop :=
  ∃ as sys, run (Listener.step server) .start as = some sys ∧ sys.conns 0 = some conn

theorem Reaches.step {conn conn' : Connection} (h : server.Reaches conn) (env : SigningEnv) (n : ℕ)
    (hstep : conn.step server env n = some conn') : server.Reaches conn' := by
  obtain ⟨as, sys, hrun, hconn⟩ := h
  refine ⟨as ++ [.run 0 env n], sys.setConn 0 conn',
    (run_concat_eq_some_iff _ _ _ _).mpr ⟨sys, hrun, ?_⟩, Listener.setConn_conns_self _ _ _⟩
  rw [Listener.step, hconn, Option.bind_some, hstep]
  rfl

/-- A peer can connect from the expected port and send its bytes at once. -/
theorem reaches_sent (peerCid : UInt32) (bytes : List UInt8) (room : ℕ) :
    server.Reaches
      ⟨peerCid, server.config.peerPort, bytes, false, false, room, [], .readHeader⟩ := by
  have haccepted : Connection.accepted server peerCid server.config.peerPort room =
      ⟨peerCid, server.config.peerPort, [], false, false, room, [], .readHeader⟩ := by
    simp [Connection.accepted]
  let accepted := Listener.start.setConn 0 (.accepted server peerCid server.config.peerPort room)
  refine ⟨[.accept 0 peerCid server.config.peerPort room, .peerSends 0 bytes],
    accepted.setConn 0 _, (run_concat_eq_some_iff _ [_] _ _).mpr ⟨accepted, rfl, ?_⟩,
    Listener.setConn_conns_self _ _ _⟩
  rw [Listener.step, Listener.setConn_conns_self, haccepted]
  rfl

/-- With the frame of a request there, the listener writes the answer when the peer has room. -/
theorem reaches_done {bytes : List UInt8} {reports : Bool} {conn : Connection}
    (h : server.Reaches conn) (hpc : conn.pc = .write bytes reports) (hout : conn.output = [])
    (hhere : conn.gone = false) (hne : 0 < bytes.length) (hroom : bytes.length ≤ conn.room) :
    server.Reaches
      { conn with output := bytes, room := conn.room - bytes.length, pc := .done } := by
  refine h.step ⟨⟨0⟩, [], []⟩ bytes.length ?_
  simp [Connection.step, hpc, hhere, hne, hroom, hout]

/-- A connection whose peer sends its request at once, and has room for the answer, is answered. -/
theorem reaches_answer (env : SigningEnv) (peerCid : UInt32)
    (hjson : server.SpeaksJson) {req : AgentRequest}
    (hu32 : req.toJson.toVec.length < 2 ^ 32) :
    server.Reaches ⟨peerCid, server.config.peerPort, frame req.toJson.toVec, false, false, 0,
      frame (server.answerText env peerCid req), .done⟩ := by
  obtain ⟨reports, hreply⟩ := reply_of_request env peerCid hjson req
  have hsent := server.reaches_sent peerCid (frame req.toJson.toVec)
    (frame (server.answerText env peerCid req)).length
  have hlen : (fromBeBytes ((frame req.toJson.toVec).take 4)).toNat = req.toJson.toVec.length := by
    rw [take_frame, fromBeBytes_toBeBytes, toNat_ofNat_eq_iff]
    exact hu32
  have hfour : 4 ≤ (frame req.toJson.toVec).length := by
    rw [length_frame]
    omega
  have hchecked := hsent.step env 0 (by rw [Connection.step, if_pos hfour])
  rw [checkHeader, hlen] at hchecked
  suffices h : server.Reaches ⟨peerCid, server.config.peerPort, frame req.toJson.toVec, false,
      false, (frame (server.answerText env peerCid req)).length, [],
      .write (frame (server.answerText env peerCid req)) reports⟩ by
    have hdone := reaches_done h rfl rfl rfl (by rw [length_frame]; omega) (Nat.le_refl _)
    rwa [Nat.sub_self] at hdone
  -- a request beyond the limit is answered without its payload
  by_cases hle : req.toJson.toVec.length ≤ maxMsgBytes
  · rw [if_pos hle] at hreply
    rw [if_neg (Nat.not_lt.mpr hle)] at hchecked
    have hdrop : (frame req.toJson.toVec).drop 4 = req.toJson.toVec := by
      rw [frame, List.drop_append_of_le_length (by rw [length_toBeBytes])]
      rfl
    refine hchecked.step env 0 ?_
    simp only [Connection.step, Connection.goto, hdrop, Nat.le_refl, if_true, List.take_length,
      hreply]
  · rw [if_neg hle] at hreply
    rw [if_pos (Nat.not_le.mp hle), hreply] at hchecked
    exact hchecked

/-- What an exchange can give the agent, it can get from the listener. -/
theorem serves_of_exchange (env : SigningEnv)
    (hjson : server.SpeaksJson) {req : AgentRequest} {resp : AgentResponse}
    (hu32 : req.toJson.toVec.length < 2 ^ 32)
    (hanswer : (server.answerText env peerCid req).length + 4 < 2 ^ 32)
    (h : server.exchange env peerCid req = .ok resp) : server.Serves peerCid req resp := by
  obtain ⟨as, sys, hrun, hconn⟩ := reaches_answer env peerCid hjson hu32
  rw [exchange_eq hjson hu32] at h
  refine ⟨as, sys, 0, _, visits_end hrun, hconn, rfl, rfl, rfl, rfl, hu32, ?_, h⟩
  rw [length_frame]
  omega

end Server

/-- The responses that the agent can get from the listener, in whatever pieces the bytes go back and
forth and whatever the other peers do, are those of an exchange in one go. -/
theorem serves_iff (server : Server KeyPair PublicKey) (peerCid : UInt32)
    (hjson : server.SpeaksJson)
    (req : AgentRequest) (resp : AgentResponse) :
    server.Serves peerCid req resp ↔ req.toJson.toVec.length < 2 ^ 32 ∧
      ∃ env, (server.answerText env peerCid req).length + 4 < 2 ^ 32 ∧
        server.exchange env peerCid req = .ok resp := by
  constructor
  · exact fun h => ⟨h.length_lt, h.exchange_eq hjson⟩
  · rintro ⟨hu32, env, hanswer, h⟩
    exact Server.serves_of_exchange env hjson hu32 hanswer h

end

/-- A host whose messages are JSON text. -/
def Symbolic.jsonServer : Server ℕ ℕ :=
  { Symbolic.server with
    reqSerde := AgentRequest.serde Json.readText
    respSerde := AgentResponse.serde Json.readText }

namespace Symbolic

theorem jsonServer_speaksJson : jsonServer.SpeaksJson :=
  ⟨Json.readText, Json.readsMessages_readText, rfl, rfl⟩

theorem unregistered_lt : (AgentRequest.handshake 1 "vm-x").toJson.toVec.length < 2 ^ 32 := by
  rw [Json.length_toVec]
  decide +kernel

theorem answerText_unregistered_le :
    (jsonServer.answerText signing 3 (.handshake 1 "vm-x")).length ≤ maxMsgBytes := by
  rw [Server.answerText, Json.length_toVec]
  decide +kernel

end Symbolic

/-- A VM that is not registered can be told so by the listener. -/
theorem serves_iff_unregistered :
    ∃ resp, Symbolic.jsonServer.Serves 3 (.handshake 1 "vm-x") resp := by
  have hshort := Symbolic.answerText_unregistered_le
  have hmax : maxMsgBytes + 4 < 2 ^ 32 := by decide
  obtain ⟨resp, hread, -⟩ :=
    (Server.received_answerText Symbolic.jsonServer_speaksJson (by omega)).1 hshort
  rw [← Server.exchange_eq Symbolic.jsonServer_speaksJson Symbolic.unregistered_lt] at hread
  exact ⟨resp, (serves_iff Symbolic.jsonServer 3 Symbolic.jsonServer_speaksJson _ resp).mpr
    ⟨Symbolic.unregistered_lt, Symbolic.signing, by omega, hread⟩⟩

end AuthnScope
