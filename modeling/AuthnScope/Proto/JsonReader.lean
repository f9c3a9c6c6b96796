import AuthnScope.Proto.Decode
import AuthnScope.Proto.Frames
import AuthnScope.Proto.JsonText

/-!
# Messages as JSON text

`serde_json` at the two message types: the text of the derived encoding, and the derived decoding of
what a reader of JSON text finds. The reader is a parameter, of which only the values that the
messages are encoded as need be read back from their text. Then every request is read back, and
every response up to the order of its map.

A reader for these texts, and for no others, shows that there is one.

## Main definitions

* `Json.ReadsMessages`: what is asked of the reader;
* `AgentRequest.serde`, `AgentResponse.serde`: the two directions of a message type;
* `Json.readValue`, `Json.readText`: a reader.

## Main results

* `AgentRequest.readsBack`, `AgentResponse.exists_fromSlice`: messages are read back from their
  text;
* `Json.readsMessages_readText`: the reader reads the messages.
-/

namespace AuthnScope

/-! ## Messages -/

/-- The reader gives back the encoding of every message from its text. -/
structure Json.ReadsMessages (read : List UInt8 → Except String Json) : Prop where
  request : ∀ req : AgentRequest, read req.toJson.toVec = .ok req.toJson
  response : ∀ resp : AgentResponse, read resp.toJson.toVec = .ok resp.toJson

section

variable (read : List UInt8 → Except String Json)

/-- Requests as text. -/
def AgentRequest.serde : Serde AgentRequest where
  toVec req := .ok req.toJson.toVec
  fromSlice bytes := read bytes >>= fromJson

/-- Responses as text. -/
def AgentResponse.serde : Serde AgentResponse where
  toVec resp := .ok resp.toJson.toVec
  fromSlice bytes := read bytes >>= fromJson

variable {read}

/-- A request is read back from its text. -/
theorem AgentRequest.readsBack (hread : Json.ReadsMessages read) (req : AgentRequest) :
    ReadsBack (serde read) req := by
  rintro payload ⟨⟩
  show read req.toJson.toVec >>= fromJson = _
  rw [hread.request, Outcome.except_ok_bind, fromJson_toJson]

/-- A response is read back from its text, up to the order of its map. -/
theorem AgentResponse.exists_fromSlice (hread : Json.ReadsMessages read) (resp : AgentResponse) :
    ∃ resp', (serde read).fromSlice resp.toJson.toVec = .ok resp' ∧ resp'.Same resp := by
  obtain ⟨resp', hresp', hsame⟩ := fromJson_toJson resp
  refine ⟨resp', ?_, hsame⟩
  show read resp.toJson.toVec >>= fromJson = _
  rw [hread.response, Outcome.except_ok_bind, hresp']

end

namespace Json

/-! ## A reader -/

/-- Read a number: the digits up to the first character that is none. -/
def readNat (text : List Char) : Option (Json × List Char) :=
  let digits := text.takeWhile Char.isDigit
  if digits.isEmpty then none
  else some (.num (Nat.ofDigitChars 10 digits 0), text.dropWhile Char.isDigit)

mutual

/-- Read a value that is nested at most `n` deep: null, a number, a string, or an object of
these. -/
def readValue : (n : ℕ) → List Char → Option (Json × List Char)
  | 0, _ => none
  | _ + 1, 'n' :: 'u' :: 'l' :: 'l' :: rest => some (.null, rest)
  | _ + 1, '"' :: text =>
    (readLiteral ('"' :: text)).map fun literal => (.str literal.1, literal.2)
  | _ + 1, '\x7b' :: '\x7d' :: rest => some (.obj [], rest)
  | n + 1, '\x7b' :: text => (readMembers n text).map fun members => (.obj members.1, members.2)
  | _ + 1, text => readNat text

/-- Read the fields of an object up to its closing brace. -/
def readMembers : (n : ℕ) → List Char → Option (List (String × Json) × List Char)
  | 0, _ => none
  | n + 1, text =>
    match readLiteral text with
    | some (key, ':' :: text) =>
      match readValue n text with
      | some (value, ',' :: text) =>
        (readMembers n text).map fun members => ((key, value) :: members.1, members.2)
      | some (value, '\x7d' :: rest) => some ([(key, value)], rest)
      | _ => none
    | _ => none

end

/-- Read a text that is one value with blanks behind it. -/
def readText (bytes : List UInt8) : Except String Json :=
  match (String.fromUTF8? ⟨bytes.toArray⟩).bind fun text =>
      readValue text.toList.length text.toList with
  | some (json, rest) =>
    if rest.all [' ', '\n', '\r', '\t'].contains then .ok json
    else .error "trailing characters"
  | none => .error "expected value at line 1 column 1"

mutual

/-- The reader knows the value. -/
def Readable : Json → Prop
  | .null | .num _ | .str _ => True
  | .obj fields => ReadableFields fields
  | .bool _ | .dec _ | .arr _ => False

/-- The reader knows the values of the fields. -/
def ReadableFields : List (String × Json) → Prop
  | [] => True
  | (_, value) :: rest => value.Readable ∧ ReadableFields rest

end

mutual

/-- The steps that reading a value takes. -/
def size : Json → ℕ
  | .obj fields => 1 + sizeFields fields
  | _ => 1

/-- The steps that reading the fields of an object takes. -/
def sizeFields : List (String × Json) → ℕ
  | [] => 0
  | (_, value) :: rest => 1 + value.size + sizeFields rest

end

/-! ## Reading undoes writing -/

/-- The text goes on with something that is no digit. -/
def EndsNumber (rest : List Char) : Prop := ∀ c ∈ rest.head?, c.isDigit = false

theorem endsNumber_cons {c : Char} (hc : c.isDigit = false) (rest : List Char) :
    EndsNumber (c :: rest) := by
  intro d hd
  cases hd
  exact hc

theorem takeWhile_isDigit {digits rest : List Char} (hdigits : ∀ c ∈ digits, c.isDigit)
    (hrest : EndsNumber rest) :
    (digits ++ rest).takeWhile Char.isDigit = digits ∧
      (digits ++ rest).dropWhile Char.isDigit = rest := by
  induction digits with
  | nil =>
    cases rest with
    | nil => exact ⟨rfl, rfl⟩
    | cons c rest =>
      have hc := hrest c rfl
      simp [hc]
  | cons c digits ih =>
    have hc := hdigits c List.mem_cons_self
    obtain ⟨htake, hdrop⟩ := ih fun d hd => hdigits d (List.mem_cons_of_mem c hd)
    simp [hc, htake, hdrop]

/-- Reading undoes the writing of a number. -/
theorem readNat_toString (n : ℕ) {rest : List Char} (hrest : EndsNumber rest) :
    readNat ((toString n).toList ++ rest) = some (.num n, rest) := by
  have hdigits : ∀ c ∈ Nat.toDigits 10 n, c.isDigit :=
    fun c hc => Nat.isDigit_of_mem_toDigits (by decide) (by decide) hc
  obtain ⟨htake, hdrop⟩ := takeWhile_isDigit hdigits hrest
  have hne : (Nat.toDigits 10 n).isEmpty = false := by
    rw [List.isEmpty_eq_false_iff]
    exact Nat.toDigits_ne_nil
  rw [Nat.toString_eq_ofList_toDigits, String.toList_ofList, readNat, htake, hdrop, hne,
    Nat.ofDigitChars_toDigits (by decide) (by decide)]
  rfl

/-- A number begins with a digit. -/
theorem exists_toList_toString (n : ℕ) :
    ∃ c tail, (toString n).toList = c :: tail ∧ c.isDigit := by
  rw [Nat.toString_eq_ofList_toDigits, String.toList_ofList]
  cases hdigits : Nat.toDigits 10 n with
  | nil => exact absurd hdigits Nat.toDigits_ne_nil
  | cons c tail =>
    have hmem : c ∈ Nat.toDigits 10 n := by simp [hdigits]
    exact ⟨c, tail, rfl, Nat.isDigit_of_mem_toDigits (by decide) (by decide) hmem⟩

theorem readValue_digit {c : Char} (hc : c.isDigit) (n : ℕ) (tail : List Char) :
    readValue (n + 1) (c :: tail) = readNat (c :: tail) := by
  rw [readValue]
  all_goals
    intro rest htext
    cases htext
    exact absurd hc (by decide)

/-- The text of fields begins with a quote. -/
theorem exists_toList_writeFields (field : String × Json) (fields : List (String × Json)) :
    ∃ tail, (writeFields (field :: fields)).toList = '"' :: tail := by
  simp [writeFields, toList_quote]

mutual

/-- Reading undoes the writing of a value. -/
theorem readValue_write : ∀ (json : Json) (n : ℕ) (rest : List Char), json.Readable →
    json.size ≤ n → EndsNumber rest → readValue n (json.write.toList ++ rest) = some (json, rest)
  | .null, n + 1, rest, _, _, _ => rfl
  | .num m, n + 1, rest, _, _, hrest => by
    obtain ⟨c, tail, htext, hc⟩ := exists_toList_toString m
    rw [write, htext, List.cons_append, readValue_digit hc, ← List.cons_append, ← htext,
      readNat_toString m hrest]
  | .str s, n + 1, rest, _, _, _ => by
    have hread := readLiteral_quote s rest
    rw [toList_quote, List.cons_append, List.cons_append] at hread
    rw [write, toList_quote, List.cons_append, List.cons_append, readValue, hread]
    rfl
  | .obj [], n + 1, rest, _, _, _ => rfl
  | .obj (field :: fields), n + 1, rest, hreadable, hn, hrest => by
    have hsize : sizeFields (field :: fields) ≤ n := by
      rw [size] at hn
      omega
    have hread := readMembers_writeFields field fields n rest hreadable hsize
    -- the text of the fields does not begin with the closing brace
    obtain ⟨tail, htail⟩ := exists_toList_writeFields field fields
    have htext : (write (.obj (field :: fields))).toList ++ rest =
        '\x7b' :: '"' :: (tail ++ '\x7d' :: rest) := by
      simp [write, htail]
    rw [htail, List.cons_append] at hread
    rw [htext, readValue, hread]
    · rfl
    · simp
  | .obj fields, 0, rest, _, hn, _ => by simp [size] at hn
  | .null, 0, rest, _, hn, _ | .num _, 0, rest, _, hn, _ | .str _, 0, rest, _, hn, _ => by
    simp [size] at hn
  | .bool _, _, _, hreadable, _, _ | .dec _, _, _, hreadable, _, _
  | .arr _, _, _, hreadable, _, _ => by cases hreadable

/-- Reading undoes the writing of the fields of an object. -/
theorem readMembers_writeFields : ∀ (field : String × Json) (fields : List (String × Json)) (n : ℕ)
    (rest : List Char), ReadableFields (field :: fields) → sizeFields (field :: fields) ≤ n →
    readMembers n ((writeFields (field :: fields)).toList ++ '\x7d' :: rest) =
      some (field :: fields, rest)
  | (key, value), fields, 0, rest, _, hn => by simp [sizeFields] at hn
  | (key, value), [], n + 1, rest, hreadable, hn => by
    have hvalue := readValue_write value n ('\x7d' :: rest) hreadable.1
      (by simp only [sizeFields] at hn; omega) (endsNumber_cons (by decide) rest)
    have hcolon : ":".toList = [':'] := rfl
    simp only [writeFields, String.toList_append, List.append_assoc, hcolon, List.isEmpty_nil,
      if_true, String.toList_empty, List.cons_append, List.nil_append]
    rw [readMembers, readLiteral_quote]
    simp only [hvalue]
  | (key, value), field :: fields, n + 1, rest, hreadable, hn => by
    have hcolon : ":".toList = [':'] := rfl
    have hcomma : ",".toList = [','] := rfl
    -- a comma stands behind all fields but the last
    have hvalue := fun tail => readValue_write value n (',' :: tail) hreadable.1
      (by simp only [sizeFields] at hn; omega) (endsNumber_cons (by decide) tail)
    have hfields := readMembers_writeFields field fields n rest hreadable.2
      (by simp only [sizeFields] at hn ⊢; omega)
    rw [writeFields, List.isEmpty_cons]
    simp only [String.toList_append, List.append_assoc, hcolon, hcomma, Bool.false_eq_true,
      if_false, List.cons_append, List.nil_append]
    rw [readMembers, readLiteral_quote]
    simp only [hvalue, hfields, Option.map_some]

end

mutual

/-- A value takes a character for each step of reading it, at least. -/
theorem size_le_length_write : ∀ json : Json, json.Readable →
    json.size ≤ json.write.toList.length
  | .null, _ => by decide
  | .num n, _ => by
    have hdigits : 1 ≤ (Nat.toDigits 10 n).length := Nat.length_toDigits_pos
    simpa [size, write] using hdigits
  | .str s, _ => by simp [size, write, toList_quote]
  | .obj fields, hreadable => by
    have hfields := sizeFields_le_length_writeFields fields hreadable
    simp only [size, write, String.toList_append, List.length_append]
    have hbrace : "\x7b".toList.length = 1 := rfl
    omega
  | .bool _, hreadable | .dec _, hreadable | .arr _, hreadable => by cases hreadable

theorem sizeFields_le_length_writeFields : ∀ fields : List (String × Json),
    ReadableFields fields → sizeFields fields ≤ (writeFields fields).toList.length
  | [], _ => Nat.zero_le _
  | (key, value) :: fields, hreadable => by
    have hvalue := size_le_length_write value hreadable.1
    have hfields := sizeFields_le_length_writeFields fields hreadable.2
    have hcolon : ":".toList.length = 1 := rfl
    simp only [sizeFields, writeFields, String.toList_append, List.length_append, hcolon]
    omega

end

/-- Reading undoes the writing of a value that the reader knows. -/
theorem readText_toVec {json : Json} (hreadable : json.Readable) :
    readText json.toVec = .ok json := by
  have hbytes : String.fromUTF8? ⟨json.toVec.toArray⟩ = some json.write := by
    have htext : (⟨json.toVec.toArray⟩ : ByteArray) = json.write.toByteArray := by
      apply ByteArray.ext
      rw [toVec, String.toUTF8_eq_toByteArray, Array.toArray_toList]
    rw [htext, String.fromUTF8?, dif_pos json.write.isValidUTF8]
    rfl
  have hread := readValue_write json _ [] hreadable (size_le_length_write json hreadable)
    (by rintro c ⟨⟩)
  rw [List.append_nil] at hread
  rw [readText, hbytes, Option.bind_some, hread]
  rfl

/-! ## The messages are known -/

theorem readable_getD {α : Type} (encode : α → Json) (hencode : ∀ a, (encode a).Readable)
    (a : Option α) : ((a.map encode).getD .null).Readable := by
  cases a with
  | none => trivial
  | some a => exact hencode a

theorem readable_ofOption (s : Option String) : (ofOption s).Readable :=
  readable_getD Json.str (fun _ => trivial) s

theorem readable_workload (config : WorkloadConfig) : config.toJson.Readable := by
  have hunix : ∀ unix : UnixSelector, unix.toJson.Readable := fun unix =>
    ⟨readable_ofOption _, readable_ofOption _, readable_ofOption _, trivial⟩
  have hsystemd : ∀ systemd : SystemdSelector, systemd.toJson.Readable := fun systemd =>
    ⟨readable_ofOption _, readable_ofOption _, trivial⟩
  exact ⟨⟨readable_getD _ hunix _, readable_getD _ hsystemd _, trivial⟩, trivial, trivial⟩

theorem readable_response (resp : AgentResponse) : resp.toJson.Readable := by
  cases resp with
  | handshakeOk workloads =>
    refine ⟨trivial, ?_, trivial⟩
    show ReadableFields _
    induction workloads.entries with
    | nil => trivial
    | cons entry entries ih => exact ⟨readable_workload entry.2, ih⟩
  | certOk certPem caCertPem => exact ⟨trivial, trivial, trivial, trivial⟩
  | error message => exact ⟨trivial, trivial, trivial⟩

theorem readable_request (req : AgentRequest) : req.toJson.Readable := by
  cases req <;> simp [AgentRequest.toJson, Readable, ReadableFields]

/-- The reader reads the messages. -/
theorem readsMessages_readText : ReadsMessages readText :=
  ⟨fun req => readText_toVec (readable_request req),
    fun resp => readText_toVec (readable_response resp)⟩

end Json

end AuthnScope
