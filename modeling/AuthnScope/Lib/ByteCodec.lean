import Mathlib.Logic.Encodable.Basic

/-!
# Self-delimiting byte codecs

A `ByteCodec α` writes values of `α` as bytes and reads them back from the front of any byte
string, returning the rest. The round trip is a field, so codecs built from codecs need no proof
of it again.

## Main definitions

* `ByteCodec`: writing, reading, and the proof that reading undoes writing;
* `nat`, `pair`, `either`, `list`, `via`: numbers, pairs, tagged unions, lists, and types with a
  retraction onto a type that has a codec;
* `int`, `bytes`, `string`, `enum`: what follows by `via`;
* `IsLocal`: what follows a value does not matter for reading it.

## Main results

* `IsLocal.parse_prefix`: a text that stops early is not read as another value.
-/

/-- A way to write values as bytes that can be read back from the front of a byte string. -/
structure ByteCodec (α : Type) where
  /-- Write a value. -/
  encode : α → List UInt8
  /-- Read a value from the front; `none` if the bytes do not start with one. -/
  decode : List UInt8 → Option (α × List UInt8)
  /-- Reading undoes writing and leaves what follows. -/
  decode_encode : ∀ a rest, decode (encode a ++ rest) = some (a, rest)

namespace ByteCodec

variable {α β : Type}

/-- The bytes of a codec in full, with nothing after them. -/
def parse (c : ByteCodec α) (bytes : List UInt8) : Option α :=
  match c.decode bytes with
  | some (a, []) => some a
  | _ => none

@[simp]
theorem parse_encode (c : ByteCodec α) (a : α) : c.parse (c.encode a) = some a := by
  have h := c.decode_encode a []
  rw [List.append_nil] at h
  simp [parse, h]

/-- Base 128, least significant digit first; the top bit marks that a digit follows. -/
def encodeNat (n : ℕ) : List UInt8 :=
  if n < 128 then [UInt8.ofNat n] else UInt8.ofNat (128 + n % 128) :: encodeNat (n / 128)
termination_by n

/-- Reading of base 128. -/
def decodeNat : List UInt8 → Option (ℕ × List UInt8)
  | [] => none
  | b :: rest =>
    if b.toNat < 128 then some (b.toNat, rest)
    else (decodeNat rest).map fun (n, rest) => (b.toNat - 128 + 128 * n, rest)

theorem decodeNat_encodeNat (n : ℕ) (rest : List UInt8) :
    decodeNat (encodeNat n ++ rest) = some (n, rest) := by
  -- induction on the number, one digit of base 128 at a time
  induction n using Nat.strong_induction_on with
  | _ n ih =>
    rw [encodeNat]
    split
    · rename_i hn
      have hbyte : (UInt8.ofNat n).toNat = n := by
        rw [UInt8.toNat_ofNat']
        omega
      simp [decodeNat, hbyte, hn]
    · rename_i hn
      have hbyte : (UInt8.ofNat (128 + n % 128)).toNat = 128 + n % 128 := by
        rw [UInt8.toNat_ofNat']
        omega
      have hrest := ih (n / 128) (by omega)
      simp only [List.cons_append, decodeNat, hbyte, hrest, Option.map_some]
      rw [if_neg (by omega)]
      simp only [Option.some.injEq, Prod.mk.injEq, and_true]
      omega

/-- Natural numbers in base 128. -/
def nat : ByteCodec ℕ := ⟨encodeNat, decodeNat, decodeNat_encodeNat⟩

/-- One value after the other. -/
def pair (c : ByteCodec α) (d : ByteCodec β) : ByteCodec (α × β) where
  encode p := c.encode p.1 ++ d.encode p.2
  decode bytes := (c.decode bytes).bind fun (a, rest) =>
    (d.decode rest).map fun (b, rest) => ((a, b), rest)
  decode_encode := by
    rintro ⟨a, b⟩ rest
    simp [List.append_assoc, c.decode_encode, d.decode_encode]

/-- One of two kinds of value, behind a tag. -/
def either (c : ByteCodec α) (d : ByteCodec β) : ByteCodec (α ⊕ β) where
  encode
    | .inl a => 0 :: c.encode a
    | .inr b => 1 :: d.encode b
  decode
    | 0 :: bytes => (c.decode bytes).map fun (a, rest) => (.inl a, rest)
    | 1 :: bytes => (d.decode bytes).map fun (b, rest) => (.inr b, rest)
    | _ => none
  decode_encode := by
    rintro (a | b) rest
    · simp [c.decode_encode]
    · simp [d.decode_encode]

/-- A type with a retraction onto one that has a codec. -/
def via (c : ByteCodec β) (f : α → β) (g : β → Option α) (h : ∀ a, g (f a) = some a) :
    ByteCodec α where
  encode a := c.encode (f a)
  decode bytes := (c.decode bytes).bind fun (b, rest) => (g b).map fun a => (a, rest)
  decode_encode := by
    intro a rest
    simp [c.decode_encode, h]

/-- Read a given number of values. -/
def decodeMany (c : ByteCodec α) : ℕ → List UInt8 → Option (List α × List UInt8)
  | 0, bytes => some ([], bytes)
  | n + 1, bytes => (c.decode bytes).bind fun (a, rest) =>
      (decodeMany c n rest).map fun (as, rest) => (a :: as, rest)

theorem decodeMany_encode (c : ByteCodec α) (as : List α) (rest : List UInt8) :
    c.decodeMany as.length (as.flatMap c.encode ++ rest) = some (as, rest) := by
  induction as with
  | nil => rfl
  | cons a as ih =>
    simp [decodeMany, List.append_assoc, c.decode_encode, ih]

/-- A list behind its length. -/
def list (c : ByteCodec α) : ByteCodec (List α) where
  encode as := nat.encode as.length ++ as.flatMap c.encode
  decode bytes := (nat.decode bytes).bind fun (n, rest) => c.decodeMany n rest
  decode_encode := by
    intro as rest
    rw [List.append_assoc, nat.decode_encode]
    simp [decodeMany_encode]

/-- An encodable type through its number; meant for enumerations. -/
def enum (α : Type) [Encodable α] : ByteCodec α :=
  nat.via Encodable.encode Encodable.decode Encodable.encodek

/-- Integers through the natural numbers. -/
def int : ByteCodec ℤ := enum ℤ

/-- Byte strings, behind their length. -/
def bytes : ByteCodec (List UInt8) :=
  nat.list.via (fun bytes => bytes.map UInt8.toNat) (fun ns => some (ns.map UInt8.ofNat))
    (by intro bytes; simp [Function.comp_def])

/-- Strings as lists of character codes. -/
def string : ByteCodec String :=
  nat.list.via (fun s => s.toList.map Char.toNat) (fun cs => some (.ofList (cs.map Char.ofNat)))
    (by intro s; simp [Function.comp_def])

/-! ## Texts that stop early -/

/-- Reading a value does not depend on what follows it. -/
def IsLocal (c : ByteCodec α) : Prop :=
  ∀ bytes a rest more, c.decode bytes = some (a, rest) →
    c.decode (bytes ++ more) = some (a, rest ++ more)

/-- The beginning of a value, if it is read as a value, is read as this one. -/
theorem IsLocal.parse_prefix {c : ByteCodec α} (hc : c.IsLocal) {a b : α} {bytes : List UInt8}
    (hpre : bytes <+: c.encode a) (h : c.parse bytes = some b) : b = a := by
  obtain ⟨more, hmore⟩ := hpre
  unfold parse at h
  split at h
  · rename_i b' hdecode
    cases h
    have hread := hc bytes b [] more hdecode
    have ha := c.decode_encode a []
    rw [List.append_nil, ← hmore, hread] at ha
    exact congrArg Prod.fst (Option.some.inj ha)
  · cases h

theorem isLocal_nat : nat.IsLocal := by
  intro bytes
  show ∀ a rest more, decodeNat bytes = some (a, rest) →
    decodeNat (bytes ++ more) = some (a, rest ++ more)
  induction bytes with
  | nil => simp [decodeNat]
  | cons b bytes ih =>
    intro a rest more h
    rw [decodeNat] at h
    rw [List.cons_append, decodeNat]
    split at h
    · rename_i hlast
      cases h
      rw [if_pos hlast]
    · rename_i hmore
      obtain ⟨⟨n, rest'⟩, hread, hval⟩ := Option.map_eq_some_iff.mp h
      cases hval
      rw [if_neg hmore, ih n rest more hread, Option.map_some]

theorem IsLocal.pair {c : ByteCodec α} {d : ByteCodec β} (hc : c.IsLocal) (hd : d.IsLocal) :
    (c.pair d).IsLocal := by
  rintro bytes ⟨a, b⟩ rest more h
  obtain ⟨⟨a', rest'⟩, ha, h⟩ := Option.bind_eq_some_iff.mp h
  obtain ⟨⟨b', rest''⟩, hb, hval⟩ := Option.map_eq_some_iff.mp h
  cases hval
  simp [ByteCodec.pair, hc _ _ _ more ha, hd _ _ _ more hb]

theorem IsLocal.via {c : ByteCodec β} (hc : c.IsLocal) (f : α → β) (g : β → Option α)
    (h : ∀ a, g (f a) = some a) : (c.via f g h).IsLocal := by
  intro bytes a rest more hread
  obtain ⟨⟨b, rest'⟩, hb, hread⟩ := Option.bind_eq_some_iff.mp hread
  obtain ⟨a', ha, hval⟩ := Option.map_eq_some_iff.mp hread
  cases hval
  simp [ByteCodec.via, hc _ _ _ more hb, ha]

theorem IsLocal.decodeMany {c : ByteCodec α} (hc : c.IsLocal) (n : ℕ) {bytes rest : List UInt8}
    {as : List α} (h : c.decodeMany n bytes = some (as, rest)) (more : List UInt8) :
    c.decodeMany n (bytes ++ more) = some (as, rest ++ more) := by
  induction n generalizing bytes as with
  | zero =>
    cases h
    rfl
  | succ n ih =>
    obtain ⟨⟨a, rest'⟩, ha, h⟩ := Option.bind_eq_some_iff.mp h
    obtain ⟨⟨as', rest''⟩, has, hval⟩ := Option.map_eq_some_iff.mp h
    cases hval
    simp [ByteCodec.decodeMany, hc _ _ _ more ha, ih has]

theorem IsLocal.list {c : ByteCodec α} (hc : c.IsLocal) : c.list.IsLocal := by
  intro bytes as rest more h
  obtain ⟨⟨n, rest'⟩, hn, h⟩ := Option.bind_eq_some_iff.mp h
  have hmany := hc.decodeMany n h more
  simp [ByteCodec.list, isLocal_nat _ _ _ more hn, hmany]

theorem isLocal_enum (α : Type) [Encodable α] : (enum α).IsLocal := isLocal_nat.via _ _ _

theorem isLocal_bytes : bytes.IsLocal := isLocal_nat.list.via _ _ _

end ByteCodec
