import Mathlib.Data.List.DropRight
import Mathlib.Data.List.Infix

/-!
# Rust's `str` operations

The operations of Rust's `str` used by programs that take small grammars apart: `trim`, `split`,
`splitn`, `lines`, `contains` and `strip_suffix`, on Lean's `String` through its list of
characters. A Rust `str` and a Lean `String` are both sequences of Unicode scalar values, so nothing
is lost.

## Main results

* `stripSuffix_eq_some_iff`: `strip_suffix` undoes appending the suffix, and nothing else;
* `lines_terminated`: the lines of a text in which each line ends in a newline;
* `split_of_fields`: the first two of the pieces that are separated by a character;
* `trim_of_blanks`, `split_intercalate`: trimming and splitting undo padding and joining.
-/

namespace RustText

/-- Unicode `White_Space`, the test behind `char::is_whitespace`. -/
def isWhitespace (c : Char) : Bool :=
  (9 ≤ c.toNat && c.toNat ≤ 13) || (0x2000 ≤ c.toNat && c.toNat ≤ 0x200A) ||
    [0x20, 0x85, 0xA0, 0x1680, 0x2028, 0x2029, 0x202F, 0x205F, 0x3000].contains c.toNat

/-- `str::trim`. -/
def trim (s : String) : String :=
  String.ofList ((s.toList.dropWhile isWhitespace).rdropWhile isWhitespace)

/-- `str::split` at a character. -/
def split (s : String) (sep : Char) : List String :=
  (s.toList.splitOn sep).map String.ofList

/-- `splitn` on lists of characters: at most `n` pieces, the last one unsplit. -/
def splitnChars (sep : Char) : ℕ → List Char → List (List Char)
  | 0, _ => []
  | 1, cs => [cs]
  | n + 2, cs =>
    match cs.span (· ≠ sep) with
    | (piece, []) => [piece]
    | (piece, _ :: rest) => piece :: splitnChars sep (n + 1) rest

/-- `str::splitn` at a character. -/
def splitn (n : ℕ) (s : String) (sep : Char) : List String :=
  (splitnChars sep n s.toList).map String.ofList

/-- `str::strip_suffix`. -/
def stripSuffix (s suffix : String) : Option String :=
  if suffix.toList.isSuffixOf s.toList then
    some (String.ofList (s.toList.take (s.toList.length - suffix.toList.length)))
  else none

/-- `str::contains` of a string. -/
def contains (s pattern : String) : Bool := decide (pattern.toList <:+: s.toList)

/-- `str::ends_with` of a string. -/
def endsWith (s suffix : String) : Bool := suffix.toList.isSuffixOf s.toList

/-- A line without the carriage return at its end. -/
def stripCr (line : List Char) : List Char :=
  if line.getLast? = some '\r' then line.dropLast else line

/-- `str::lines`: each newline ends a line, with a carriage return before it; what follows the last
newline is a line if it is not empty. -/
def lines (s : String) : List String :=
  let pieces := s.toList.splitOn '\n'
  let last := (pieces.getLast?).getD []
  (pieces.dropLast.map stripCr ++ if last.isEmpty then [] else [last]).map String.ofList

/-! ## Suffixes -/

/-- Stripping a suffix gives `v` exactly when the string is `v` followed by the suffix. -/
theorem stripSuffix_eq_some_iff (s suffix v : String) :
    stripSuffix s suffix = some v ↔ s = v ++ suffix := by
  unfold stripSuffix
  constructor
  · intro h
    split at h
    · rename_i hsuf
      -- what is taken is what stands before the suffix
      obtain ⟨front, hfront⟩ := List.isSuffixOf_iff_suffix.mp hsuf
      have hv : String.ofList front = v := by
        rw [← hfront] at h
        simpa using h
      rw [← hv, ← String.toList_inj, String.toList_append, String.toList_ofList, hfront]
    · cases h
  · rintro rfl
    rw [if_pos (by simp)]
    simp

/-- Appending a suffix and stripping it again gives the string back. -/
@[simp]
theorem stripSuffix_append (v suffix : String) : stripSuffix (v ++ suffix) suffix = some v :=
  (stripSuffix_eq_some_iff _ _ _).mpr rfl

/-! ## Lines -/

/-- Splitting lines that each end in a newline gives them back, and an empty last piece. -/
theorem splitOn_terminated {ls : List (List Char)} (h : ∀ l ∈ ls, '\n' ∉ l) :
    (ls.flatMap fun l => l ++ ['\n']).splitOn '\n' = ls ++ [[]] := by
  induction ls with
  | nil => rfl
  | cons l ls ih =>
    have hl : '\n' ∉ l := h l List.mem_cons_self
    have hls : ∀ l ∈ ls, '\n' ∉ l := fun l' hl' => h l' (List.mem_cons_of_mem l hl')
    rw [List.flatMap_cons, List.append_assoc, List.singleton_append,
      List.splitOn_append_cons_self_of_not_mem hl, ih hls]
    rfl

/-- A text in which each line ends in a newline has these lines, each without the carriage return at
its end. -/
theorem lines_terminated {ls : List (List Char)} (h : ∀ l ∈ ls, '\n' ∉ l) :
    lines (.ofList (ls.flatMap fun l => l ++ ['\n'])) =
      ls.map fun l => String.ofList (stripCr l) := by
  simp [lines, splitOn_terminated h]

/-- A carriage return stands at the end of a line, if anywhere, so what comes before stays. -/
theorem stripCr_append {front : List Char} (h : front.getLast? ≠ some '\r') (line : List Char) :
    stripCr (front ++ line) = front ++ stripCr line := by
  unfold stripCr
  rcases List.eq_nil_or_concat line with rfl | ⟨line, c, rfl⟩
  · simp [h]
  · by_cases hc : c = '\r'
    · simp [hc, ← List.append_assoc]
    · simp [hc, ← List.append_assoc]

theorem stripCr_eq_self_iff (line : List Char) :
    stripCr line = line ↔ line.getLast? ≠ some '\r' := by
  unfold stripCr
  rcases List.eq_nil_or_concat line with rfl | ⟨line, c, rfl⟩
  · simp
  · by_cases hc : c = '\r'
    · simp [hc]
    · simp [hc]

/-! ## Trimming -/

/-- Trimming drops the blanks around a text that neither starts nor ends with one. -/
theorem trim_of_blanks {before cs after : List Char} (hbefore : ∀ c ∈ before, isWhitespace c)
    (hafter : ∀ c ∈ after, isWhitespace c) (hhead : ∀ c ∈ cs.head?, ¬isWhitespace c)
    (hlast : ∀ c ∈ cs.getLast?, ¬isWhitespace c) :
    trim (.ofList (before ++ (cs ++ after))) = .ofList cs := by
  -- what follows the blanks in front is not blank any more, unless nothing is left
  have hdrop : (before ++ (cs ++ after)).dropWhile isWhitespace =
      if cs = [] then [] else cs ++ after := by
    rw [List.dropWhile_append_of_pos hbefore]
    cases cs with
    | nil => simpa using hafter
    | cons c cs => simp [hhead c rfl]
  -- from the other end the blanks behind it are dropped, up to its last character
  have hrdrop : (cs ++ after).rdropWhile isWhitespace = cs := by
    rw [List.rdropWhile, List.reverse_append,
      List.dropWhile_append_of_pos fun c hc => hafter c (List.mem_reverse.mp hc),
      ← List.rdropWhile, List.rdropWhile_eq_self_iff]
    intro hcs
    exact hlast _ (List.getLast?_eq_some_getLast hcs)
  rw [trim, String.toList_ofList, hdrop]
  split
  · rename_i hcs
    rw [hcs]
    rfl
  · rw [hrdrop]

/-- Nothing is left exactly of a blank text. -/
theorem trim_eq_empty_iff (s : String) : trim s = "" ↔ ∀ c ∈ s.toList, isWhitespace c := by
  rw [trim, String.ofList_eq_empty_iff, List.rdropWhile_eq_nil_iff]
  constructor
  · intro h c hc
    rw [← List.takeWhile_append_dropWhile (p := isWhitespace) (l := s.toList)] at hc
    rcases List.mem_append.mp hc with hc | hc
    · exact List.mem_takeWhile_imp hc
    · exact h c hc
  · intro h c hc
    exact h c ((List.dropWhile_suffix _).mem hc)

/-! ## Pieces -/

/-- A text is one piece, or a piece and the separator in front of a text. -/
theorem pieces_induction (sep : Char) {P : List Char → Prop} (last : ∀ piece, sep ∉ piece → P piece)
    (cons : ∀ piece rest, sep ∉ piece → P rest → P (piece ++ sep :: rest)) (cs : List Char) :
    P cs := by
  induction hn : cs.length using Nat.strong_induction_on generalizing cs with
  | _ n ih =>
    subst hn
    by_cases hsep : sep ∈ cs
    · obtain ⟨piece, rest, rfl, hpiece⟩ := List.eq_append_cons_of_mem hsep
      refine cons piece rest hpiece (ih rest.length ?_ rest rfl)
      rw [List.length_append, List.length_cons]
      omega
    · exact last cs hsep

/-- The first piece is what stands before the first separator. -/
theorem head?_splitOn (cs : List Char) (sep : Char) :
    (cs.splitOn sep).head? = some (cs.takeWhile (· ≠ sep)) := by
  induction cs with
  | nil => simp
  | cons c cs ih =>
    rw [List.splitOn_cons_eq_if_modifyHead]
    by_cases hc : c = sep
    · simp [hc]
    · simp [hc, ih]

/-- A text without the separator is its own first piece. -/
theorem takeWhile_ne_eq_self_iff (cs : List Char) (sep : Char) :
    cs.takeWhile (· ≠ sep) = cs ↔ sep ∉ cs := by
  rw [List.takeWhile_eq_self_iff]
  simp only [ne_eq, decide_not, Bool.not_eq_true', decide_eq_false_iff_not]
  exact ⟨fun h hmem => h sep hmem rfl, fun h c hc hcs => h (hcs ▸ hc)⟩

/-- Two fields without the separator are the first two pieces. -/
theorem split_of_fields {first second : List Char} {sep : Char} (hfirst : sep ∉ first)
    (hsecond : sep ∉ second) (rest : List Char) :
    split (.ofList (first ++ sep :: (second ++ sep :: rest))) sep =
      .ofList first :: .ofList second :: (rest.splitOn sep).map String.ofList := by
  rw [split, String.toList_ofList, List.splitOn_append_cons_self_of_not_mem hfirst,
    List.splitOn_append_cons_self_of_not_mem hsecond]
  rfl

/-- `split` undoes joining with the separator. -/
theorem split_intercalate {parts : List String} {sep : Char} (h : ∀ part ∈ parts, sep ∉ part.toList)
    (hne : parts ≠ []) : split (.intercalate (.singleton sep) parts) sep = parts := by
  have hsep : ∀ l ∈ parts.map String.toList, sep ∉ l := by
    simpa using h
  rw [split, String.toList_intercalate, String.toList_singleton,
    List.splitOn_intercalate sep hsep (by simpa using hne)]
  simp

/-- The characters before the first separator. -/
theorem takeWhile_ne_append_cons {piece : List Char} {sep : Char} (h : sep ∉ piece)
    (rest : List Char) : (piece ++ sep :: rest).takeWhile (· ≠ sep) = piece := by
  have hpos : ∀ c ∈ piece, decide (c ≠ sep) = true := by
    intro c hc
    exact decide_eq_true fun hcs => h (hcs ▸ hc)
  rw [List.takeWhile_append_of_pos hpos]
  simp

/-- A piece ends at the first separator. -/
theorem splitnChars_append_cons {piece : List Char} {sep : Char} (h : sep ∉ piece) (n : ℕ)
    (rest : List Char) :
    splitnChars sep (n + 2) (piece ++ sep :: rest) = piece :: splitnChars sep (n + 1) rest := by
  have hpiece := takeWhile_ne_append_cons h rest
  have hrest : (piece ++ sep :: rest).dropWhile (· ≠ sep) = sep :: rest := by
    have happend := List.takeWhile_append_dropWhile (p := (· ≠ sep)) (l := piece ++ sep :: rest)
    rw [hpiece] at happend
    exact List.append_cancel_left happend
  rw [splitnChars, List.span_eq_takeWhile_dropWhile, hpiece, hrest]

/-- A text without the separator is one piece. -/
theorem splitnChars_of_not_mem {cs : List Char} {sep : Char} (h : sep ∉ cs) (n : ℕ) :
    splitnChars sep (n + 2) cs = [cs] := by
  have hcs : cs.takeWhile (· ≠ sep) = cs := (takeWhile_ne_eq_self_iff cs sep).mpr h
  have hrest : cs.dropWhile (· ≠ sep) = [] := by
    have happend := List.takeWhile_append_dropWhile (p := (· ≠ sep)) (l := cs)
    rw [hcs] at happend
    exact List.append_right_eq_self.mp happend
  rw [splitnChars, List.span_eq_takeWhile_dropWhile, hcs, hrest]

/-- There is at most one piece more than there are separators. -/
theorem length_splitnChars_le (sep : Char) (n : ℕ) (cs : List Char) :
    (splitnChars sep n cs).length ≤ cs.count sep + 1 := by
  induction n generalizing cs with
  | zero => simp [splitnChars]
  | succ n ih =>
    cases n with
    | zero => simp [splitnChars]
    | succ n =>
      -- a separator ends a piece, and the rest has one separator less
      by_cases h : sep ∈ cs
      · obtain ⟨piece, rest, rfl, hpiece⟩ := List.eq_append_cons_of_mem h
        have hrest := ih rest
        rw [splitnChars_append_cons hpiece, List.length_cons, List.count_append,
          List.count_cons_self]
        omega
      · simp [splitnChars_of_not_mem h]

/-- A text with two separators has two fields before its rest. -/
theorem exists_fields {cs : List Char} {sep : Char} (h : 2 ≤ cs.count sep) :
    ∃ first second rest, sep ∉ first ∧ sep ∉ second ∧
      cs = first ++ sep :: (second ++ sep :: rest) := by
  -- the first separator, then the first one of what follows it
  have hmem : sep ∈ cs := List.count_pos_iff.mp (by omega)
  obtain ⟨first, tail, rfl, hfirst⟩ := List.eq_append_cons_of_mem hmem
  rw [List.count_append, List.count_cons_self, List.count_eq_zero.mpr hfirst] at h
  obtain ⟨second, rest, rfl, hsecond⟩ := List.eq_append_cons_of_mem
    (List.count_pos_iff.mp (by omega : 0 < tail.count sep))
  exact ⟨first, second, rest, hfirst, hsecond, rfl⟩

/-- The first field is what stands before the first separator. -/
theorem fields_inj {first first' rest rest' : List Char} {sep : Char} (h : sep ∉ first)
    (h' : sep ∉ first') (heq : first ++ sep :: rest = first' ++ sep :: rest') :
    first = first' ∧ rest = rest' := by
  have hfirst : first = first' := by
    rw [← takeWhile_ne_append_cons h rest, heq, takeWhile_ne_append_cons h']
  subst hfirst
  exact ⟨rfl, List.tail_eq_of_cons_eq (List.append_cancel_left heq)⟩

/-! ## Substrings -/

theorem contains_iff (s pattern : String) :
    contains s pattern = true ↔ pattern.toList <:+: s.toList := by
  rw [contains, decide_eq_true_iff]

end RustText
