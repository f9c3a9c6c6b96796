import Mathlib.Algebra.Group.Nat.Defs
import Mathlib.Data.List.Basic

/-!
# Length-prefixed frames

A frame is a payload behind its length as a big-endian `u32`. The codec of the length is a
bijection between `u32` values and lists of four bytes, so the prefix of a byte string determines
its first frame.

## Main results

* `fromBeBytes_toBeBytes`, `toBeBytes_fromBeBytes`: the length codec and its inverse;
* `frame_append_inj`: two byte strings that begin with a frame and agree have the same payload
  and the same rest;
* `toNat_ofNat_eq_iff`: a header states the length of its payload when the length is a `u32`;
* `exists_part_of_lt`: a cut before the end of concatenated parts falls into one of them.
-/

namespace Framing

/-- `u32::to_be_bytes`. -/
def toBeBytes (n : UInt32) : List UInt8 :=
  [UInt8.ofNat (n.toNat / 2 ^ 24), UInt8.ofNat (n.toNat / 2 ^ 16), UInt8.ofNat (n.toNat / 2 ^ 8),
    UInt8.ofNat n.toNat]

/-- `u32::from_be_bytes`; only ever applied to four bytes. -/
def fromBeBytes : List UInt8 → UInt32
  | [a, b, c, d] =>
    UInt32.ofNat (a.toNat * 2 ^ 24 + b.toNat * 2 ^ 16 + c.toNat * 2 ^ 8 + d.toNat)
  | _ => 0

@[simp]
theorem length_toBeBytes (n : UInt32) : (toBeBytes n).length = 4 := rfl

/-- Reading the four bytes of a `u32` gives it back. -/
@[simp]
theorem fromBeBytes_toBeBytes (n : UInt32) : fromBeBytes (toBeBytes n) = n := by
  have hn := n.toNat_lt
  apply UInt32.toNat_inj.mp
  simp only [toBeBytes, fromBeBytes, UInt8.toNat_ofNat', UInt32.toNat_ofNat']
  omega

/-- Writing the `u32` read from four bytes gives the bytes back. -/
theorem toBeBytes_fromBeBytes {bytes : List UInt8} (h : bytes.length = 4) :
    toBeBytes (fromBeBytes bytes) = bytes := by
  obtain ⟨a, b, c, d, rfl⟩ : ∃ a b c d, bytes = [a, b, c, d] := List.length_eq_four.mp h
  have ha := a.toNat_lt
  have hb := b.toNat_lt
  have hc := c.toNat_lt
  have hd := d.toNat_lt
  simp only [fromBeBytes, toBeBytes, UInt32.toNat_ofNat', List.cons.injEq, and_true]
  refine ⟨?_, ?_, ?_, ?_⟩ <;>
    · apply UInt8.toNat_inj.mp
      simp only [UInt8.toNat_ofNat']
      omega

/-- The frame of a payload: its length as a big-endian `u32`, then the payload. -/
def frame (payload : List UInt8) : List UInt8 :=
  toBeBytes (UInt32.ofNat payload.length) ++ payload

@[simp]
theorem length_frame (payload : List UInt8) : (frame payload).length = 4 + payload.length := by
  simp [frame]

/-- A byte string starts with at most one frame, for payloads the header can describe. -/
theorem frame_append_inj {p q r s : List UInt8} (hp : p.length < 2 ^ 32) (hq : q.length < 2 ^ 32)
    (h : frame p ++ r = frame q ++ s) : p = q ∧ r = s := by
  unfold frame at h
  rw [List.append_assoc, List.append_assoc] at h
  obtain ⟨hlen, hrest⟩ := List.append_inj h (by simp)
  have hn : UInt32.ofNat p.length = UInt32.ofNat q.length := by
    rw [← fromBeBytes_toBeBytes (UInt32.ofNat p.length), hlen, fromBeBytes_toBeBytes]
  have hpq : p.length = q.length := by
    have := congrArg UInt32.toNat hn
    simp only [UInt32.toNat_ofNat'] at this
    omega
  exact List.append_inj hrest hpq

/-- A length survives the header exactly when it is a `u32`. -/
theorem toNat_ofNat_eq_iff (n : ℕ) : (UInt32.ofNat n).toNat = n ↔ n < 2 ^ 32 := by
  rw [UInt32.toNat_ofNat']
  exact Nat.mod_eq_iff_lt (by decide)

theorem flatten_take_succ {β : Type} {parts : List (List β)} {k : ℕ} (h : k < parts.length) :
    (parts.take (k + 1)).flatten = (parts.take k).flatten ++ parts[k] := by
  rw [List.take_succ_eq_append_getElem h, List.flatten_append, List.flatten_singleton]

/-- Concatenated parts, with the part at an index singled out. -/
theorem flatten_eq_of_lt {β : Type} {parts : List (List β)} {k : ℕ} (h : k < parts.length) :
    parts.flatten = (parts.take k).flatten ++ (parts[k] ++ (parts.drop (k + 1)).flatten) := by
  rw [← List.append_assoc, ← flatten_take_succ h, ← List.flatten_append, List.take_append_drop]

/-- A cut before the end of concatenated parts falls into one of them. -/
theorem exists_part_of_lt {β : Type} (parts : List (List β)) {n : ℕ}
    (h : n < parts.flatten.length) :
    ∃ k < parts.length, (parts.take k).flatten.length ≤ n ∧
      n < (parts.take (k + 1)).flatten.length := by
  induction parts generalizing n with
  | nil => cases h
  | cons part parts ih =>
    by_cases hpart : n < part.length
    · exact ⟨0, by simp, by simp, by simpa using hpart⟩
    · -- the cut falls into a later part, as far behind this one
      rw [List.flatten_cons, List.length_append] at h
      obtain ⟨k, hk, hlow, hhigh⟩ := ih (n := n - part.length) (by omega)
      refine ⟨k + 1, by simpa using hk, ?_, ?_⟩
      · rw [List.take_succ_cons, List.flatten_cons, List.length_append]
        omega
      · rw [List.take_succ_cons, List.flatten_cons, List.length_append]
        omega

end Framing
