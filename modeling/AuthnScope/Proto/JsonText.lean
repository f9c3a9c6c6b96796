import AuthnScope.Proto.Json
import Mathlib.Data.Bool.AllAny

/-!
# Objects of strings as JSON text

The text of a JSON object whose values are strings. Control characters are escaped in it, so the
text is one line, and a reader that undoes the escaping gets the object back.

## Main definitions

* `Json.ofStrings`: an object of strings;
* `Json.ReadsStrings`: a reader that undoes the writing of objects of strings;
* `Json.readStrings`: such a reader.

## Main results

* `Json.newline_not_mem_toVec_ofStrings`: the text of an object of strings is one line;
* `Json.readsStrings_readStrings`: the reader reads what is written.
-/

namespace AuthnScope

namespace Json

/-- An object whose values are strings. -/
def ofStrings (fields : List (String × String)) : Json :=
  .obj (fields.map fun field => (field.1, .str field.2))

/-- The reader gives back every object of strings whose keys are distinct, from a line that ends in
a newline. -/
def ReadsStrings (fromStr : List UInt8 → Except String Json) : Prop :=
  ∀ fields : List (String × String), (fields.map Prod.fst).Nodup →
    fromStr ((ofStrings fields).toVec ++ [10]) = .ok (ofStrings fields)

/-! ## Control characters -/

/-- No control character is left in the escape of a character. -/
theorem le_toNat_of_mem_escapeChar {c d : Char} (h : d ∈ (escapeChar c).toList) : 32 ≤ d.toNat := by
  unfold escapeChar at h
  split at h
  case h_8 =>
    split at h
    · rename_i hc
      rw [String.toList_append, List.mem_append] at h
      rcases h with h | h
      · revert d
        rw [← List.all_iff_forall_prop]
        decide
      · -- the two digits of a number below 32
        have hdigits : ∀ n < 32,
            32 ≤ (Nat.digitChar (n / 16)).toNat ∧ 32 ≤ (Nat.digitChar (n % 16)).toNat := by
          decide
        simp only [String.toList_ofList, List.mem_cons, List.not_mem_nil, or_false] at h
        rcases h with rfl | rfl
        · exact (hdigits c.toNat hc).1
        · exact (hdigits c.toNat hc).2
    · rename_i hc
      rw [String.toList_singleton, List.mem_singleton] at h
      rw [h]
      exact Nat.not_lt.mp hc
  all_goals
    revert d
    rw [← List.all_iff_forall_prop]
    decide

theorem toList_quote (s : String) :
    (quote s).toList = '"' :: (s.toList.flatMap fun c => (escapeChar c).toList) ++ ['"'] := by
  simp [quote, String.toList_join, List.flatMap_map]

theorem newline_not_mem_quote (s : String) : '\n' ∉ (quote s).toList := by
  have hchars : '\n' ∉ s.toList.flatMap fun c => (escapeChar c).toList := by
    intro h
    obtain ⟨c, -, hc⟩ := List.mem_flatMap.mp h
    exact absurd (le_toNat_of_mem_escapeChar hc) (by decide)
  simp [toList_quote, hchars]

theorem newline_not_mem_writeFields (fields : List (String × String)) :
    '\n' ∉ (writeFields (fields.map fun field => (field.1, .str field.2))).toList := by
  induction fields with
  | nil => simp [writeFields]
  | cons field fields ih =>
    have hkey := newline_not_mem_quote field.1
    have hvalue := newline_not_mem_quote field.2
    simp only [List.map_cons, writeFields, write]
    split <;> simp [hkey, hvalue, ih]

/-! ## Bytes -/

theorem toVec_eq_flatMap (json : Json) :
    json.toVec = json.write.toList.flatMap String.utf8EncodeChar := by
  rw [toVec, String.toUTF8_eq_toByteArray, ← String.utf8Encode_toList, List.utf8Encode]
  simp

/-- A byte 10 encodes a newline. -/
theorem eq_newline_of_mem_utf8EncodeChar {c : Char} (h : 10 ∈ String.utf8EncodeChar c) :
    c = '\n' := by
  unfold String.utf8EncodeChar at h
  dsimp only at h
  split at h
  -- one byte, the code of the character
  · rename_i hc
    rw [List.mem_singleton] at h
    have hbyte := congrArg UInt8.toNat h
    rw [UInt8.toNat_ofNat'] at hbyte
    have hval : c.toNat = 10 := by
      change 10 = c.toNat % 256 at hbyte
      change c.toNat ≤ 127 at hc
      omega
    exact Char.toNat_inj.mp hval
  · -- all bytes of the longer encodings are 128 or more
    have hlarge : ∀ n : ℕ, 128 ≤ n → n < 256 → (10 : UInt8) ≠ UInt8.ofNat n := by
      intro n hlow hhigh heq
      have hbyte := congrArg UInt8.toNat heq
      rw [UInt8.toNat_ofNat'] at hbyte
      change 10 = n % 256 at hbyte
      omega
    split at h
    · simp only [List.mem_cons, List.not_mem_nil, or_false] at h
      rcases h with h | h
      all_goals exact absurd h (hlarge _ (by omega) (by omega))
    split at h
    · simp only [List.mem_cons, List.not_mem_nil, or_false] at h
      rcases h with h | h | h
      all_goals exact absurd h (hlarge _ (by omega) (by omega))
    · simp only [List.mem_cons, List.not_mem_nil, or_false] at h
      rcases h with h | h | h | h
      all_goals exact absurd h (hlarge _ (by omega) (by omega))

theorem newline_not_mem_toVec_ofStrings (fields : List (String × String)) :
    10 ∉ (ofStrings fields).toVec := by
  intro h
  rw [toVec_eq_flatMap] at h
  obtain ⟨c, hc, hbyte⟩ := List.mem_flatMap.mp h
  obtain rfl := eq_newline_of_mem_utf8EncodeChar hbyte
  have hfields := newline_not_mem_writeFields fields
  simp [ofStrings, write, hfields] at hc

/-- A line that is written is the text and its newline. -/
theorem fromUTF8?_toVec (json : Json) :
    String.fromUTF8? ⟨(json.toVec ++ [10]).toArray⟩ = some (json.write ++ "\n") := by
  have hbytes : (⟨(json.toVec ++ [10]).toArray⟩ : ByteArray) =
      (json.write ++ "\n").toByteArray := by
    rw [String.toByteArray_append]
    apply ByteArray.ext
    rw [ByteArray.data_append, toVec, String.toUTF8_eq_toByteArray, ← List.append_toArray,
      Array.toArray_toList]
    rfl
  rw [hbytes, String.fromUTF8?, dif_pos (json.write ++ "\n").isValidUTF8]
  rfl

/-! ## Reading -/

/-- The character that a backslash and a letter stand for. -/
def unescapeChar : Char → Option Char
  | '"' => some '"'
  | '\\' => some '\\'
  | '/' => some '/'
  | 'b' => some '\x08'
  | 'f' => some '\x0c'
  | 'n' => some '\n'
  | 'r' => some '\r'
  | 't' => some '\t'
  | _ => none

/-- The value of a hexadecimal digit. -/
def hexValue (c : Char) : Option ℕ :=
  if '0' ≤ c ∧ c ≤ '9' then some (c.toNat - 48)
  else if 'a' ≤ c ∧ c ≤ 'f' then some (c.toNat - 87)
  else if 'A' ≤ c ∧ c ≤ 'F' then some (c.toNat - 55)
  else none

/-- The character with this code, unless it is half of a surrogate pair. -/
def ofHex (a b c d : Char) : Option Char := do
  let n := 4096 * (← hexValue a) + 256 * (← hexValue b) + 16 * (← hexValue c) + (← hexValue d)
  if n.isValidChar then some (.ofNat n) else none

/-- Read a string literal behind its opening quote: its characters, and what follows it. -/
def readString : List Char → Option (List Char × List Char)
  | [] => none
  | '"' :: rest => some ([], rest)
  | '\\' :: 'u' :: a :: b :: c :: d :: rest => do
    let char ← ofHex a b c d
    let (chars, rest) ← readString rest
    return (char :: chars, rest)
  | '\\' :: c :: rest => do
    let char ← unescapeChar c
    let (chars, rest) ← readString rest
    return (char :: chars, rest)
  | c :: rest =>
    if c.toNat < 32 then none
    else do
      let (chars, rest) ← readString rest
      return (c :: chars, rest)

/-- Read a string literal. -/
def readLiteral : List Char → Option (String × List Char)
  | '"' :: text => (readString text).map fun literal => (.ofList literal.1, literal.2)
  | _ => none

/-- Read the fields of an object up to its closing brace, at most `n` of them. -/
def readFields : (n : ℕ) → List Char → Option (List (String × String) × List Char)
  | 0, _ => none
  | n + 1, text =>
    match readLiteral text with
    | some (key, ':' :: text) =>
      match readLiteral text with
      | some (value, ',' :: text) =>
        (readFields n text).map fun read => ((key, value) :: read.1, read.2)
      | some (value, '\x7d' :: rest) => some ([(key, value)], rest)
      | _ => none
    | _ => none

/-- Read an object of strings with blanks behind it. -/
def readObject : List Char → Option Json
  | '\x7b' :: text =>
    let object := match text with
      | '\x7d' :: rest => some ([], rest)
      | text => readFields text.length text
    object.bind fun read =>
      if read.2.all [' ', '\n', '\r', '\t'].contains then some (ofStrings read.1) else none
  | _ => none

/-- A JSON reader for objects of strings. -/
def readStrings (line : List UInt8) : Except String Json :=
  match (String.fromUTF8? ⟨line.toArray⟩).bind fun text => readObject text.toList with
  | some json => .ok json
  | none => .error "expected value at line 1 column 1"

/-- Reading undoes the escape of a character. -/
theorem readString_escapeChar (c : Char) (rest : List Char) :
    readString ((escapeChar c).toList ++ rest) =
      (readString rest).map fun read => (c :: read.1, read.2) := by
  unfold escapeChar
  split
  case h_8 =>
    split
    · rename_i hc
      -- a control character is written with its code
      have hcode : ∀ n < 32, ofHex '0' '0' (Nat.digitChar (n / 16)) (Nat.digitChar (n % 16)) =
          some (Char.ofNat n) := by
        decide
      have hhex := hcode c.toNat hc
      rw [Char.ofNat_toNat] at hhex
      cases hread : readString rest <;> simp [readString, hhex, hread]
    -- any other character is written as it is
    · rename_i _ hbackslash _ _ _ _ _ hc
      have hbackslash' : ¬c = '\\' := by simpa using hbackslash
      rw [String.toList_singleton, List.singleton_append]
      cases hread : readString rest <;> simp [readString, hbackslash', hc, hread]
  -- the characters with an escape of their own
  all_goals cases hread : readString rest <;> simp [readString, unescapeChar, hread]

/-- Reading undoes the writing of a string. -/
theorem readLiteral_quote (s : String) (rest : List Char) :
    readLiteral ((quote s).toList ++ rest) = some (s, rest) := by
  have hchars : ∀ chars : List Char,
      readString ((chars.flatMap fun c => (escapeChar c).toList) ++ '"' :: rest) =
        some (chars, rest) := by
    intro chars
    -- induction on the characters, each of which is read back from its escape
    induction chars with
    | nil => simp [readString]
    | cons c chars ih =>
      rw [List.flatMap_cons, List.append_assoc, readString_escapeChar, ih]
      rfl
  simp only [toList_quote, List.cons_append, List.append_assoc, List.nil_append]
  rw [readLiteral, hchars, Option.map_some, String.ofList_toList]

/-- Reading undoes the writing of the fields of an object. -/
theorem readFields_writeFields {fields : List (String × String)} (hne : fields ≠ []) {n : ℕ}
    (hn : fields.length ≤ n) (rest : List Char) :
    readFields n ((writeFields (fields.map fun field => (field.1, .str field.2))).toList ++
      '\x7d' :: rest) = some (fields, rest) := by
  -- induction on the fields; the reader needs a step for each of them
  induction fields generalizing n with
  | nil => exact absurd rfl hne
  | cons field fields ih =>
    obtain ⟨n, rfl⟩ : ∃ m, n = m + 1 := Nat.exists_eq_succ_of_ne_zero (by
      rw [List.length_cons] at hn
      omega)
    have hcolon : ":".toList = [':'] := rfl
    have hcomma : ",".toList = [','] := rfl
    simp only [List.map_cons, writeFields, write, String.toList_append, List.append_assoc, hcolon,
      List.cons_append, List.nil_append]
    rw [readFields, readLiteral_quote]
    simp only [readLiteral_quote]
    -- a comma stands behind all fields but the last
    rcases fields with _ | ⟨field', fields⟩
    · rfl
    · have hrest := ih (List.cons_ne_nil _ _) (n := n) (by simpa using hn)
      simp only [List.map_cons, List.isEmpty_cons, Bool.false_eq_true, if_false, hcomma,
        List.cons_append, List.nil_append] at hrest ⊢
      rw [hrest]
      rfl

/-- A field takes a character, at least. -/
theorem length_le_length_writeFields (fields : List (String × String)) :
    fields.length ≤
      (writeFields (fields.map fun field => (field.1, .str field.2))).toList.length := by
  induction fields with
  | nil => exact Nat.zero_le _
  | cons field fields ih =>
    simp only [List.map_cons, writeFields, String.toList_append, List.length_append, toList_quote,
      List.length_cons]
    omega

/-- The reader gives back what is written. -/
theorem readsStrings_readStrings : ReadsStrings readStrings := by
  intro fields _
  have hobject : readObject ((ofStrings fields).write ++ "\n").toList =
      some (ofStrings fields) := by
    rcases fields with _ | ⟨field, fields⟩
    · rfl
    · have htext : ((ofStrings (field :: fields)).write ++ "\n").toList = '\x7b' ::
          ((writeFields ((field :: fields).map fun field => (field.1, .str field.2))).toList ++
            '\x7d' :: ['\n']) := by
        simp [ofStrings, write]
      have hlength := length_le_length_writeFields (field :: fields)
      have hread := fun n hn =>
        readFields_writeFields (List.cons_ne_nil field fields) (n := n) hn ['\n']
      -- the text does not begin with the closing brace
      obtain ⟨tail, htail⟩ : ∃ tail, (writeFields ((field :: fields).map fun field =>
          (field.1, .str field.2))).toList = '"' :: tail := by
        simp [writeFields, toList_quote]
      rw [htail] at hlength hread htext
      rw [htext, List.cons_append, readObject, ← List.cons_append,
        hread _ (by rw [List.length_append]; omega)]
      · rfl
      · simp
  -- the line is the UTF-8 encoding of the text and its newline
  rw [readStrings, fromUTF8?_toVec, Option.bind_some, hobject]

end Json

end AuthnScope
