import AuthnScope.Proto.Json

/-!
# Frames on the wire

What `send_json` writes and what `recv_json` makes of it (`authn-scope-proto/src/codec.rs`), for one
message and for a stream of them. `serde_json` is assumed to read back what it writes.

The limit on a frame is checked by the receiver alone, so the two sides agree on a frame exactly
when its payload is within it. Within the limit the framing delimits itself: a stream of frames is
read back message by message up to its end or to the frame it is cut in, and a payload that does
not decode costs its own frame only.

## Main definitions

* `sendAll`, `recvAll`: `send_json` for each message of a list, `recv_json` a number of times;
* `Agreed`: sender and receiver agree on the frame of a value.

## Main results

* `agreed_iff`: they do when its payload is within the limit;
* `framing_self_delimiting`: streams of frames, cut streams, and payloads that do not decode.
-/

namespace AuthnScope

open Framing Outcome

section

variable {α : Type} (serde : Serde α)

/-- The type's `serde_json` reads back what it writes for the value. -/
def ReadsBack (value : α) : Prop :=
  ∀ payload, serde.toVec value = .ok payload → serde.fromSlice payload = .ok value

/-- The value is serialised to a payload within the limit. -/
def WithinLimit (value : α) : Prop :=
  ∃ payload, serde.toVec value = .ok payload ∧ payload.length ≤ maxMsgBytes

/-- When the frame of the value is sent in full, its header states the length of the payload, and
the receiver gets the value from it. -/
def Agreed (value : α) : Prop :=
  ∀ w w' payload, w.room = none → serde.toVec value = .ok payload →
    sendJson serde value w = .ok () w' →
    ∃ header, w'.output = w.output ++ (header ++ payload) ∧ header.length = 4 ∧
      (fromBeBytes header).toNat = payload.length ∧
      ∀ s : Stream, s.input = header ++ payload → ∃ s', recvJson serde s = .ok value s'

/-- `send_json` for each message. -/
def sendAll : List α → StreamM Unit
  | [] => pure ()
  | value :: values => do
    sendJson serde value
    sendAll values

/-- `recv_json` as often as `n` says. -/
def recvAll : ℕ → StreamM (List α)
  | 0 => pure []
  | n + 1 => do
    let value ← recvJson serde
    let values ← recvAll n
    return value :: values

end

section

variable {α : Type} {serde : Serde α}

/-! ## One frame -/

/-- A frame that is cut anywhere ends in an error, and is consumed. -/
theorem recvJson_cut {payload : List UInt8} {s : Stream} (hle : payload.length ≤ maxMsgBytes)
    (hin : s.input <+: frame payload) (hcut : s.input.length < (frame payload).length) :
    recvJson serde s = .error "early eof" { s with input := [] } := by
  rw [length_frame] at hcut
  by_cases hheader : s.input.length < 4
  · rw [recvJson, bind_of_error (readExact_of_lt hheader)]
  · -- the header has come in full
    rw [frame] at hin
    obtain ⟨bytes, hbytes⟩ : toBeBytes (UInt32.ofNat payload.length) <+: s.input :=
      List.prefix_of_prefix_length_le (List.prefix_append _ _) hin
        (by rw [length_toBeBytes]; omega)
    have hshort : bytes.length < payload.length := by
      have hlength := congrArg List.length hbytes
      rw [List.length_append, length_toBeBytes] at hlength
      omega
    rw [recvJson_header hle hbytes.symm, bind_of_error (readExact_of_lt hshort)]

/-- The receiver takes nothing longer than the limit for the frame of a value. -/
theorem recvJson_ne_ok_of_length {payload : List UInt8} {s s' : Stream} {value : α}
    (hlong : maxMsgBytes < payload.length) (hu32 : payload.length < 2 ^ 32)
    (hin : s.input = frame payload) : recvJson serde s ≠ .ok value s' := by
  intro h
  -- what is taken is the frame of a payload within the limit, and frames tell their payloads
  obtain ⟨rest, ⟨payload', hle, hframe, -⟩, -⟩ := (recvJson_eq_ok_iff _ _ _).mp h
  have hmax : maxMsgBytes < 2 ^ 32 := by decide
  rw [hin, ← List.append_nil (frame payload)] at hframe
  obtain ⟨rfl, -⟩ := frame_append_inj hu32 (Nat.lt_of_le_of_lt hle hmax) hframe
  omega

/-- Where sender and receiver agree, the payload is within the limit. -/
theorem Agreed.length_le {value : α} {payload : List UInt8} (h : Agreed serde value)
    (hvec : serde.toVec value = .ok payload) : payload.length ≤ maxMsgBytes := by
  obtain ⟨header, hout, hheader, hlen, hrecv⟩ :=
    h ⟨[], [], none⟩ _ payload rfl hvec (sendJson_of_room_none rfl hvec)
  -- what was written is the frame of the payload
  rw [List.append_cancel_left_eq, frame] at hout
  obtain ⟨rfl, -⟩ := List.append_inj hout (by rw [hheader, length_toBeBytes])
  rw [fromBeBytes_toBeBytes, toNat_ofNat_eq_iff] at hlen
  obtain ⟨s', hs'⟩ := hrecv ⟨frame payload, [], none⟩ rfl
  by_contra hlong
  exact recvJson_ne_ok_of_length (Nat.lt_of_not_le hlong) hlen rfl hs'

/-- Sender and receiver agree on the frame of a value exactly when its payload is within the
receiver's limit: longer ones are sent as well, and from 2³² bytes on with another length. -/
theorem agreed_iff {value : α} (hserde : ReadsBack serde value) :
    Agreed serde value ↔
      ∀ payload, serde.toVec value = .ok payload → payload.length ≤ maxMsgBytes := by
  refine ⟨fun h payload hvec => h.length_le hvec, fun h w w' payload hw hvec hsend => ?_⟩
  have hle := h payload hvec
  -- the limit is below the range of the header, so the length is not cut
  have hmax : maxMsgBytes < 2 ^ 32 := by decide
  rw [sendJson_of_room_none hw hvec] at hsend
  cases hsend
  refine ⟨_, rfl, length_toBeBytes _, ?_, fun s hin => ⟨{ s with input := [] }, ?_⟩⟩
  · rw [fromBeBytes_toBeBytes]
    exact (toNat_ofNat_eq_iff _).mpr (Nat.lt_of_le_of_lt hle hmax)
  · rw [recvJson_frame hle (by rw [hin, List.append_nil, frame]),
      hserde payload hvec, liftResult_ok]

/-- The derived encoding is read back by a reader that knows no other message with its text. -/
theorem readsBack_jsonSerde {toJson : α → Json} {known : List α} {value : α}
    (hmem : value ∈ known)
    (hunique : ∀ a ∈ known, (toJson a).toVec = (toJson value).toVec → a = value) :
    ReadsBack (jsonSerde toJson known) value := by
  intro payload hvec
  cases hvec
  have hfound : (known.find? fun a => (toJson a).toVec = (toJson value).toVec).isSome :=
    List.find?_isSome.mpr ⟨value, hmem, by simp⟩
  obtain ⟨a, ha⟩ := Option.isSome_iff_exists.mp hfound
  obtain rfl := hunique a (List.mem_of_find?_eq_some ha) (by simpa using List.find?_some ha)
  simp only [jsonSerde, ha]

/-- A certificate response is within the limit. -/
theorem agreed_certOk :
    Agreed (jsonSerde AgentResponse.toJson [.certOk "cert" "ca"]) (.certOk "cert" "ca") := by
  refine (agreed_iff (readsBack_jsonSerde List.mem_cons_self ?_)).mpr ?_
  · simp
  · intro payload hvec
    cases hvec
    rw [Json.length_toVec]
    decide +kernel

/-- An error response with a long message is not within the limit. -/
theorem not_agreed_error {message : String} (known : List AgentResponse)
    (hlong : maxMsgBytes < message.length + 31) :
    ¬Agreed (jsonSerde AgentResponse.toJson known) (.error message) := by
  intro h
  have hle : (AgentResponse.error message).toJson.toVec.length ≤ maxMsgBytes := h.length_le rfl
  exact absurd (AgentResponse.length_add_le_length_toVec_error message) (by omega)

/-- Such a response is sent in full, and its receiver refuses the frame. -/
theorem not_agreed_long_message :
    let resp := AgentResponse.error (.ofList (List.replicate maxMsgBytes 'a'))
    ReadsBack (jsonSerde AgentResponse.toJson [resp]) resp ∧
      ¬Agreed (jsonSerde AgentResponse.toJson [resp]) resp := by
  refine ⟨readsBack_jsonSerde List.mem_cons_self ?_, not_agreed_error _ ?_⟩
  · intro a ha _
    exact List.mem_singleton.mp ha
  · rw [String.length_ofList, List.length_replicate]
    omega

/-! ## Streams of frames -/

/-- Two lists of the same length, of which one is serialised to the other within the limit. -/
def Payloads (serde : Serde α) (values : List α) (payloads : List (List UInt8)) : Prop :=
  List.Forall₂ (fun value payload => serde.toVec value = .ok payload ∧
    serde.fromSlice payload = .ok value ∧ payload.length ≤ maxMsgBytes) values payloads

theorem exists_payloads {values : List α}
    (h : ∀ value ∈ values, ReadsBack serde value ∧ WithinLimit serde value) :
    ∃ payloads, Payloads serde values payloads := by
  induction values with
  | nil => exact ⟨[], .nil⟩
  | cons value values ih =>
    obtain ⟨payloads, hpayloads⟩ := ih fun v hv => h v (List.mem_cons_of_mem _ hv)
    obtain ⟨hreads, payload, hvec, hle⟩ := h value List.mem_cons_self
    exact ⟨payload :: payloads, .cons ⟨hvec, hreads payload hvec, hle⟩ hpayloads⟩

/-- The messages are written one frame after the other. -/
theorem sendAll_eq_ok {values : List α} {payloads : List (List UInt8)}
    (h : Payloads serde values payloads) {w : Stream} (hw : w.room = none) :
    sendAll serde values w =
      .ok () { w with output := w.output ++ (payloads.map frame).flatten } := by
  induction h generalizing w with
  | nil => simp [sendAll]
  | cons hpayload _ ih =>
    rw [sendAll, bind_of_ok (sendJson_of_room_none hw hpayload.1), ih (by exact hw)]
    simp

/-- The frames are read back one message after the other, and what follows them is left. -/
theorem recvAll_eq_ok {values : List α} {payloads : List (List UInt8)}
    (h : Payloads serde values payloads) {s : Stream} {rest : List UInt8}
    (hin : s.input = (payloads.map frame).flatten ++ rest) :
    recvAll serde values.length s = .ok values { s with input := rest } := by
  induction h generalizing s with
  | nil =>
    rw [List.map_nil, List.flatten_nil, List.nil_append] at hin
    subst hin
    rfl
  | cons hpayload _ ih =>
    rw [List.map_cons, List.flatten_cons, List.append_assoc] at hin
    have hfirst : recvJson serde _ = _ := recvJson_frame hpayload.2.2 hin
    rw [hpayload.2.1, liftResult_ok] at hfirst
    rw [List.length_cons, recvAll, bind_of_ok hfirst, bind_of_ok (ih rfl), pure_run]

theorem Payloads.take {values : List α} {payloads : List (List UInt8)}
    (h : Payloads serde values payloads) (k : ℕ) :
    Payloads serde (values.take k) (payloads.take k) := List.forall₂_take k h

/-- A stream that ends inside a frame gives the messages before that frame, and then an error. -/
theorem recvAll_cut {values : List α} {payloads : List (List UInt8)}
    (h : Payloads serde values payloads) {k : ℕ} (hk : k < payloads.length) {s : Stream}
    {rest : List UInt8} (hin : s.input <+: (payloads.map frame).flatten ++ rest)
    (hlow : ((payloads.map frame).take k).flatten.length ≤ s.input.length)
    (hhigh : s.input.length < ((payloads.map frame).take (k + 1)).flatten.length) :
    ∃ s₁, recvAll serde k s = .ok (values.take k) s₁ ∧
      recvJson serde s₁ = .error "early eof" { s with input := [] } := by
  have hk' : k < (payloads.map frame).length := by rwa [List.length_map]
  have hframe : (payloads.map frame)[k] = frame payloads[k] := List.getElem_map frame
  -- the frames before the cut are there, and of the next one a part
  rw [flatten_eq_of_lt hk', List.append_assoc, hframe] at hin
  rw [flatten_take_succ hk', hframe] at hhigh
  obtain ⟨cut, hcut⟩ : ((payloads.map frame).take k).flatten <+: s.input :=
    List.prefix_of_prefix_length_le (List.prefix_append _ _) hin hlow
  rw [← hcut, List.prefix_append_right_inj, List.append_assoc] at hin
  rw [← hcut, List.length_append, List.length_append] at hhigh
  have hvalues : (values.take k).length = k := by
    rw [List.length_take, h.length_eq]
    omega
  have hbefore := recvAll_eq_ok (h.take k) (by rw [List.map_take]; exact hcut.symm)
  rw [hvalues] at hbefore
  have hle : payloads[k].length ≤ maxMsgBytes := (h.get (by rw [h.length_eq]; exact hk) hk).2.2
  refine ⟨_, hbefore, recvJson_cut hle (List.prefix_of_prefix_length_le hin
    (List.prefix_append _ _) ?_) ?_⟩
  · show cut.length ≤ _
    omega
  · show cut.length < _
    omega

/-- Streams of frames delimit themselves. The messages of a stream are read back in order, and
what follows is left; of a stream that is cut in a frame, the messages before it, and then the
call that comes to the cut fails; and a payload that does not decode costs its own frame. -/
theorem framing_self_delimiting {values : List α}
    (hvalues : ∀ value ∈ values, ReadsBack serde value ∧ WithinLimit serde value) :
    ∃ frames : List (List UInt8), frames.length = values.length ∧
      (∀ w : Stream, w.room = none → ∀ k, sendAll serde (values.take k) w =
        .ok () { w with output := w.output ++ (frames.take k).flatten }) ∧
      (∀ (s : Stream) (rest : List UInt8), s.input = frames.flatten ++ rest →
        recvAll serde values.length s = .ok values { s with input := rest }) ∧
      (∀ (s : Stream) (rest : List UInt8), s.input <+: frames.flatten ++ rest →
        s.input.length < frames.flatten.length →
        ∃ k < values.length, (frames.take k).flatten.length ≤ s.input.length ∧
          s.input.length < (frames.take (k + 1)).flatten.length ∧
          ∃ s₁, recvAll serde k s = .ok (values.take k) s₁ ∧
            recvJson serde s₁ = .error "early eof" { s with input := [] }) ∧
      ∀ (s : Stream) (payload rest : List UInt8) (e : String), payload.length ≤ maxMsgBytes →
        s.input = frame payload ++ rest → serde.fromSlice payload = .error e →
        recvJson serde s = .error e { s with input := rest } := by
  obtain ⟨payloads, hpayloads⟩ := exists_payloads hvalues
  have hlength : payloads.length = values.length := hpayloads.length_eq.symm
  refine ⟨payloads.map frame, by rw [List.length_map, hlength], fun w hw k => ?_,
    fun s rest hin => recvAll_eq_ok hpayloads hin, fun s rest hin hcut => ?_,
    fun s payload rest e hle hin hdec => ?_⟩
  · rw [sendAll_eq_ok (hpayloads.take k) hw, List.map_take]
  · -- the stream ends in one of the frames
    obtain ⟨k, hk, hlow, hhigh⟩ := exists_part_of_lt _ hcut
    rw [List.length_map] at hk
    exact ⟨k, hlength ▸ hk, hlow, hhigh, recvAll_cut hpayloads hk hin hlow hhigh⟩
  · rw [recvJson_frame hle hin, hdec, liftResult_error]

/-- A handshake and a certificate request, one after the other. -/
theorem framing_self_delimiting_requests :
    let reqs := [AgentRequest.handshake 1 "vm-a", .certRequest 1 "vm-a" "web" "csr"]
    ∃ frames : List (List UInt8), frames.length = 2 ∧ ∀ (s : Stream) (rest : List UInt8),
      s.input = frames.flatten ++ rest →
      recvAll (jsonSerde AgentRequest.toJson reqs) 2 s = .ok reqs { s with input := rest } := by
  intro reqs
  have hreqs : ∀ req ∈ reqs, ReadsBack (jsonSerde AgentRequest.toJson reqs) req ∧
      WithinLimit (jsonSerde AgentRequest.toJson reqs) req := by
    have hunique : ∀ req ∈ reqs, ∀ req' ∈ reqs, req'.toJson.toVec = req.toJson.toVec →
        req' = req := by decide +kernel
    have hlength : ∀ req ∈ reqs, req.toJson.toVec.length ≤ maxMsgBytes := by decide +kernel
    exact fun req hreq => ⟨readsBack_jsonSerde hreq (hunique req hreq),
      _, rfl, hlength req hreq⟩
  obtain ⟨frames, hframes, -, hread, -⟩ := framing_self_delimiting hreqs
  exact ⟨frames, hframes, hread⟩

end

end AuthnScope
