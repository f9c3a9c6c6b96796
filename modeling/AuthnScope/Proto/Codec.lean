import AuthnScope.Lib.Framing
import AuthnScope.Lib.Outcome

/-!
# Length-prefixed framing for JSON messages

`send_json` and `recv_json` of `authn-scope-proto/src/codec.rs` over a two-way byte stream. The
peer's bytes are a finite list followed by end of file. Writing succeeds until the peer has taken
`room` bytes and fails from then on; `room = none` is a peer that takes everything. `serde_json`
is a parameter: the two directions of one message type.

Errors are the texts `anyhow` displays.

## Main results

* `recvJson_eq_ok_iff`: `recv_json` returns a message exactly when the unread bytes start with a
  frame within the limit whose payload decodes to it, and it leaves what follows the frame;
* `recvJson_frame`: `recv_json` on a frame within the limit decodes its payload, whatever that
  gives, and leaves what follows it;
* `recvJson_keeps`: `recv_json` writes nothing;
* `sendJson_of_room_none`: on a peer that takes everything, `send_json` appends header and payload.
-/

namespace AuthnScope

open Framing Outcome

/-- Maximum allowed message size (4 MiB). -/
def maxMsgBytes : ℕ := 4 * 1024 * 1024

/-- `serde_json::to_vec` and `serde_json::from_slice` at one message type. -/
structure Serde (α : Type) where
  toVec : α → Except String (List UInt8)
  fromSlice : List UInt8 → Except String α

/-- One end of a connection: what the peer has sent and is not read yet, what was written, and
how many more bytes the peer takes. -/
structure Stream where
  input : List UInt8
  output : List UInt8
  room : Option ℕ
  deriving DecidableEq, Repr

/-- Computations on a stream; a failure keeps the stream as it was left. -/
abbrev StreamM := EStateM String Stream

/-- `AsyncReadExt::read_exact`: a short stream is consumed and ends in an error. -/
def readExact (n : ℕ) : StreamM (List UInt8) := fun s =>
  if n ≤ s.input.length then
    .ok (s.input.take n) { s with input := s.input.drop n }
  else .error "early eof" { s with input := [] }

/-- `AsyncWriteExt::write_all`. -/
def writeAll (bytes : List UInt8) : StreamM Unit := fun s =>
  match s.room with
  | none => .ok () { s with output := s.output ++ bytes }
  | some k =>
    if bytes.length ≤ k then
      .ok () { s with output := s.output ++ bytes, room := some (k - bytes.length) }
    else .error "Broken pipe" { s with output := s.output ++ bytes.take k, room := some 0 }

section

variable {α : Type} (serde : Serde α)

/-- Serialize `value` to JSON and send it as a length-prefixed frame. -/
def sendJson (value : α) : StreamM Unit := do
  let payload ← liftResult (serde.toVec value)
  -- `len() as u32`: a longer payload loses its high bits
  let len := UInt32.ofNat payload.length
  writeAll (toBeBytes len)
  writeAll payload

/-- Read one length-prefixed frame and deserialize it as JSON. -/
def recvJson : StreamM α := do
  let lenBuf ← readExact 4
  let len := (fromBeBytes lenBuf).toNat
  if len > maxMsgBytes then
    throw s!"incoming frame too large: {len} bytes (max {maxMsgBytes})"
  else
    let buf ← readExact len
    liftResult (serde.fromSlice buf)

/-- The bytes start with a frame within the limit whose payload decodes to `value`; `rest`
follows it. -/
def FirstFrame (value : α) (bytes rest : List UInt8) : Prop :=
  ∃ payload, payload.length ≤ maxMsgBytes ∧ bytes = frame payload ++ rest ∧
    serde.fromSlice payload = .ok value

end

variable {α : Type} {serde : Serde α}

/-! ## Reading and writing -/

theorem readExact_eq_ok_iff (n : ℕ) (s s' : Stream) (bytes : List UInt8) :
    readExact n s = .ok bytes s' ↔
      n ≤ s.input.length ∧ bytes = s.input.take n ∧ s' = { s with input := s.input.drop n } := by
  unfold readExact
  split
  · rename_i hn
    constructor
    · intro h
      cases h
      exact ⟨hn, rfl, rfl⟩
    · rintro ⟨-, rfl, rfl⟩
      rfl
  · rename_i hn
    simp [hn]

/-- Reading leaves the written bytes and the peer's room alone. -/
theorem readExact_keeps (n : ℕ) : Keeps (fun s : Stream => (s.output, s.room)) (readExact n) := by
  intro s
  unfold readExact
  split <;> rfl

/-- A peer that takes everything takes the bytes at once. -/
theorem writeAll_of_room_none {s : Stream} (h : s.room = none) (bytes : List UInt8) :
    writeAll bytes s = .ok () { s with output := s.output ++ bytes } := by
  unfold writeAll
  rw [h]

/-- On a peer that takes everything, `send_json` writes header and payload. -/
theorem sendJson_of_room_none {s : Stream} (h : s.room = none) {value : α}
    {payload : List UInt8} (hvec : serde.toVec value = .ok payload) :
    sendJson serde value s = .ok () { s with output := s.output ++ frame payload } := by
  unfold sendJson
  rw [hvec, bind_of_ok (liftResult_ok payload s), bind_of_ok (writeAll_of_room_none h _)]
  rw [writeAll_of_room_none (by exact h)]
  simp [frame]

/-! ## Receiving -/

/-- Bytes that hold a header and the payload it announces start with that payload's frame. -/
theorem eq_frame_append {bytes : List UInt8} (h4 : 4 ≤ bytes.length)
    (hlen : (fromBeBytes (bytes.take 4)).toNat ≤ (bytes.drop 4).length) :
    bytes = frame ((bytes.drop 4).take (fromBeBytes (bytes.take 4)).toNat) ++
      (bytes.drop 4).drop (fromBeBytes (bytes.take 4)).toNat := by
  have hheader : (bytes.take 4).length = 4 := by simp [h4]
  rw [frame, List.append_assoc, List.take_append_drop, List.length_take,
    Nat.min_eq_left hlen,
    UInt32.ofNat_toNat, toBeBytes_fromBeBytes hheader, List.take_append_drop]

/-- `read_exact` on bytes that are there. -/
theorem readExact_append {s : Stream} {bytes rest : List UInt8} (h : s.input = bytes ++ rest) :
    readExact bytes.length s = .ok bytes { s with input := rest } := by
  rw [readExact_eq_ok_iff, h]
  exact ⟨by simp, by simp, by simp⟩

/-- `read_exact` on a short stream. -/
theorem readExact_of_lt {n : ℕ} {s : Stream} (h : s.input.length < n) :
    readExact n s = .error "early eof" { s with input := [] } := by
  rw [readExact, if_neg (by omega)]

/-- `recv_json` with the header of a payload within the limit read. -/
theorem recvJson_header {payload rest : List UInt8} {s : Stream}
    (hle : payload.length ≤ maxMsgBytes)
    (hin : s.input = toBeBytes (UInt32.ofNat payload.length) ++ rest) :
    recvJson serde s =
      (readExact payload.length >>= fun buf => liftResult (serde.fromSlice buf))
        { s with input := rest } := by
  -- the header of a payload within the limit is its exact length
  have hmax : maxMsgBytes < 2 ^ 32 := by decide
  have hlen : (UInt32.ofNat payload.length).toNat = payload.length :=
    (toNat_ofNat_eq_iff _).mpr (Nat.lt_of_le_of_lt hle hmax)
  have hheader := readExact_append hin
  rw [length_toBeBytes] at hheader
  rw [recvJson, bind_of_ok hheader, fromBeBytes_toBeBytes, hlen, if_neg (Nat.not_lt.mpr hle)]

/-- `recv_json` on a frame within the limit decodes its payload, and leaves what follows it. -/
theorem recvJson_frame {payload rest : List UInt8} {s : Stream}
    (hle : payload.length ≤ maxMsgBytes) (hin : s.input = frame payload ++ rest) :
    recvJson serde s = liftResult (serde.fromSlice payload) { s with input := rest } := by
  rw [frame, List.append_assoc] at hin
  rw [recvJson_header hle hin, bind_of_ok (readExact_append rfl)]

/-- `recv_json` returns a message exactly when the unread bytes start with a frame of it, and
then leaves the bytes behind that frame. -/
theorem recvJson_eq_ok_iff (value : α) (s s' : Stream) :
    recvJson serde s = .ok value s' ↔
      ∃ rest, FirstFrame serde value s.input rest ∧ s' = { s with input := rest } := by
  constructor
  · intro h
    unfold recvJson at h
    obtain ⟨lenBuf, s₁, h4, h⟩ := bind_eq_ok_iff.mp h
    obtain ⟨hlen, rfl, rfl⟩ := (readExact_eq_ok_iff _ _ _ _).mp h4
    split at h
    · simp at h
    · rename_i hmax
      obtain ⟨buf, s₂, hbuf, h⟩ := bind_eq_ok_iff.mp h
      obtain ⟨hle, rfl, rfl⟩ := (readExact_eq_ok_iff _ _ _ _).mp hbuf
      obtain ⟨hdec, rfl⟩ := (liftResult_eq_ok_iff _ _ _ _).mp h
      refine ⟨_, ⟨_, ?_, eq_frame_append hlen hle, hdec⟩, rfl⟩
      rw [List.length_take]
      omega
  · rintro ⟨rest, ⟨payload, hle, hin, hdec⟩, rfl⟩
    rw [recvJson_frame hle hin, hdec, liftResult_ok]

/-- Either the unread bytes start with a frame of a message, or `recv_json` fails. -/
theorem recvJson_cases (serde : Serde α) (s : Stream) :
    (∃ value rest, FirstFrame serde value s.input rest ∧
      recvJson serde s = .ok value { s with input := rest }) ∨
    (¬∃ value rest, FirstFrame serde value s.input rest) ∧
      ∃ e s', recvJson serde s = .error e s' := by
  cases hrecv : recvJson serde s with
  | ok value s' =>
    obtain ⟨rest, hframe, rfl⟩ := (recvJson_eq_ok_iff value s s').mp hrecv
    exact Or.inl ⟨value, rest, hframe, rfl⟩
  | error e s' =>
    refine Or.inr ⟨?_, e, s', rfl⟩
    rintro ⟨value, rest, hframe⟩
    have hok := (recvJson_eq_ok_iff value s _).mpr ⟨rest, hframe, rfl⟩
    rw [hrecv] at hok
    cases hok

/-- The bytes determine the message of the first frame and what follows it. -/
theorem FirstFrame.unique {value value' : α} {bytes rest rest' : List UInt8}
    (h : FirstFrame serde value bytes rest) (h' : FirstFrame serde value' bytes rest') :
    value = value' ∧ rest = rest' := by
  obtain ⟨payload, hle, hbytes, hdec⟩ := h
  obtain ⟨payload', hle', hbytes', hdec'⟩ := h'
  have hmax : maxMsgBytes < 2 ^ 32 := by decide
  obtain ⟨rfl, rfl⟩ := frame_append_inj (Nat.lt_of_le_of_lt hle hmax)
    (Nat.lt_of_le_of_lt hle' hmax) (hbytes ▸ hbytes')
  rw [hdec] at hdec'
  cases hdec'
  exact ⟨rfl, rfl⟩

/-- `recv_json` only consumes input. -/
theorem recvJson_keeps (serde : Serde α) :
    Keeps (fun s : Stream => (s.output, s.room)) (recvJson serde) := by
  unfold recvJson
  refine (readExact_keeps 4).bind fun lenBuf => ?_
  apply Keeps.ite (Keeps.throw _)
  exact (readExact_keeps _).bind fun buf => Keeps.liftResult _

end AuthnScope
