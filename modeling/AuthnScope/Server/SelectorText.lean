import AuthnScope.Server.SelectorGrammar
import Mathlib.Data.Bool.AllAny

/-!
# Writing selector strings

How a selector is written: the text of a component, the parts that hold the texts with blanks around
them, and the fields of a selector that are to be written. Nothing here runs the parser.

## Main definitions

* `Component.text`: the text `domain:key:value` of a component;
* `Writes`: the parts of a selector string that write these components, between blank parts;
* `SelectorConfig.fields`, `SelectorConfig.Writable`: the components of a selector, and the
  selectors whose components can be written;
* `Malformed`: a part that is the text of no component.

## Main results

* `parseSelector_grammar`: the parser gives back every selector that is written, whatever the order
  and the blanks, and refuses exactly the strings with a malformed part or an unanchored path.
-/

namespace AuthnScope

open Outcome RustText

namespace Kind

/-- The domain a kind is written with. -/
def domain : Kind → String
  | .user | .group | .bin => "unix"
  | .unitname | .unitpath => "systemd"

/-- The key a kind is written with. -/
def key : Kind → String
  | .user => "user"
  | .group => "group"
  | .bin => "bin"
  | .unitname => "unitname"
  | .unitpath => "unitpath"

/-- A kind is read from the names it is written with, and from no others. -/
theorem ofNames_eq_some_iff (domain key : String) (kind : Kind) :
    ofNames domain key = some kind ↔ domain = kind.domain ∧ key = kind.key := by
  constructor
  · intro h
    unfold ofNames at h
    split at h <;> cases h <;> exact ⟨rfl, rfl⟩
  · rintro ⟨rfl, rfl⟩
    cases kind <;> rfl

theorem domain_fields (kind : Kind) (c : Char) (h : c ∈ kind.domain.toList) :
    c ≠ ':' ∧ c ≠ ',' ∧ ¬isWhitespace c := by
  revert c
  rw [← List.all_iff_forall_prop]
  cases kind <;> decide

theorem key_fields (kind : Kind) (c : Char) (h : c ∈ kind.key.toList) :
    c ≠ ':' ∧ c ≠ ',' ∧ ¬isWhitespace c := by
  revert c
  rw [← List.all_iff_forall_prop]
  cases kind <;> decide

end Kind

/-- The text of a component. -/
def Component.text (c : Component) : String := c.kind.domain ++ ":" ++ c.kind.key ++ ":" ++ c.value

/-- A part that writes the component: its text, with blanks around it. -/
def Component.IsWrittenIn (c : Component) (part : String) : Prop :=
  ∃ before after : String, (∀ b ∈ before.toList, isWhitespace b) ∧
    (∀ b ∈ after.toList, isWhitespace b) ∧ part = before ++ c.text ++ after

/-- These parts write these components, in order; the other parts are blank. -/
inductive Writes : List String → List Component → Prop where
  | nil : Writes [] []
  | blank {part : String} {parts : List String} {cs : List Component}
      (h : ∀ b ∈ part.toList, isWhitespace b) (hparts : Writes parts cs) :
      Writes (part :: parts) cs
  | component {part : String} {parts : List String} {c : Component} {cs : List Component}
      (h : c.IsWrittenIn part) (hparts : Writes parts cs) : Writes (part :: parts) (c :: cs)

/-- A value that can be written: a comma would end it, and blanks at its end would be lost. -/
def CanWrite (value : String) : Prop :=
  ',' ∉ value.toList ∧ ∀ c ∈ value.toList.getLast?, ¬isWhitespace c

namespace SelectorConfig

/-- The fields of a selector, as components. -/
def fields (sel : SelectorConfig) : List Component :=
  [Kind.user, .group, .bin, .unitname, .unitpath].filterMap fun kind =>
    (sel.value kind).map fun value => ⟨kind, value⟩

/-- A selector that can be written: a domain that is present has a field, and a path comes with a
user and a group. -/
structure Writable (sel : SelectorConfig) : Prop where
  unix : sel.unix ≠ some .default
  systemd : sel.systemd ≠ some .default
  values : ∀ kind value, sel.value kind = some value → CanWrite value
  bin : (sel.value .bin).isSome → (sel.value .user).isSome ∧ (sel.value .group).isSome

theorem mem_fields_iff (sel : SelectorConfig) (c : Component) :
    c ∈ sel.fields ↔ sel.value c.kind = some c.value := by
  obtain ⟨kind, value⟩ := c
  cases kind <;> simp [fields, Option.map_eq_some_iff]

end SelectorConfig

/-- A part that is the text of no component: it has too few colons, or names no kind. -/
def Malformed (part : String) : Prop :=
  part.toList.count ':' < 2 ∨
    ∃ domain key value : String, ':' ∉ domain.toList ∧ ':' ∉ key.toList ∧
      part = domain ++ ":" ++ key ++ ":" ++ value ∧
      ∀ kind : Kind, ¬(domain = kind.domain ∧ key = kind.key)

/-! ## Reading one part -/

/-- Three fields are read as such; only the last one may have colons. -/
theorem splitn_fields {domain key : String} (hdomain : ':' ∉ domain.toList)
    (hkey : ':' ∉ key.toList) (value : String) :
    splitn 3 (domain ++ ":" ++ key ++ ":" ++ value) ':' = [domain, key, value] := by
  have htext : (domain ++ ":" ++ key ++ ":" ++ value).toList =
      domain.toList ++ ':' :: (key.toList ++ ':' :: value.toList) := by
    simp
  -- the split stops after two colons, so the value keeps its own
  rw [splitn, htext, splitnChars_append_cons hdomain, splitnChars_append_cons hkey]
  simp [splitnChars]

theorem ofPart_of_fields {domain key : String} (hdomain : ':' ∉ domain.toList)
    (hkey : ':' ∉ key.toList) (value : String) :
    Component.ofPart (domain ++ ":" ++ key ++ ":" ++ value) =
      (Kind.ofNames domain key).map fun kind => ⟨kind, value⟩ := by
  rw [Component.ofPart, splitn_fields hdomain hkey]

/-- The text of a component is read as the component. -/
theorem ofPart_text (c : Component) : Component.ofPart c.text = some c := by
  rw [Component.text, ofPart_of_fields (fun h => (c.kind.domain_fields _ h).1 rfl)
    (fun h => (c.kind.key_fields _ h).1 rfl), (Kind.ofNames_eq_some_iff _ _ c.kind).mpr ⟨rfl, rfl⟩]
  rfl

/-- A part with too few colons is no component. -/
theorem ofPart_of_few_colons {part : String} (h : part.toList.count ':' < 2) :
    Component.ofPart part = none := by
  rw [Option.eq_none_iff_forall_not_mem]
  intro c hc
  obtain ⟨domain, key, value, rest, kind, hsplit, -, -⟩ := Component.ofPart_eq_some hc
  -- a component is read from three pieces, one more than there are colons
  have hlength := congrArg List.length hsplit
  have hpieces := length_splitnChars_le ':' 3 part.toList
  simp only [splitn, List.length_map, List.length_cons] at hlength
  omega

/-- With two colons a part has the three fields. -/
theorem exists_fields_of_part {part : String} (h : ¬part.toList.count ':' < 2) :
    ∃ domain key value : String, ':' ∉ domain.toList ∧ ':' ∉ key.toList ∧
      part = domain ++ ":" ++ key ++ ":" ++ value := by
  obtain ⟨first, second, rest, hfirst, hsecond, hpart⟩ := exists_fields (not_lt.mp h)
  refine ⟨.ofList first, .ofList second, .ofList rest, by simpa, by simpa, ?_⟩
  rw [← String.toList_inj, hpart]
  simp

/-- A part is read as a component exactly when it is the text of the component. -/
theorem ofPart_eq_some_iff (part : String) (c : Component) :
    Component.ofPart part = some c ↔ part = c.text := by
  constructor
  · intro h
    -- what is read has its three fields, and these are the names of the kind
    have hcolons : ¬part.toList.count ':' < 2 := by
      intro hfew
      rw [ofPart_of_few_colons hfew] at h
      cases h
    obtain ⟨domain, key, value, hdomain, hkey, rfl⟩ := exists_fields_of_part hcolons
    rw [ofPart_of_fields hdomain hkey, Option.map_eq_some_iff] at h
    obtain ⟨kind, hkind, rfl⟩ := h
    obtain ⟨rfl, rfl⟩ := (Kind.ofNames_eq_some_iff _ _ _).mp hkind
    rfl
  · rintro rfl
    exact ofPart_text c

/-- A part is no component exactly when it is malformed. -/
theorem ofPart_eq_none_iff (part : String) : Component.ofPart part = none ↔ Malformed part := by
  by_cases hcolons : part.toList.count ':' < 2
  · exact iff_of_true (ofPart_of_few_colons hcolons) (.inl hcolons)
  · obtain ⟨domain, key, value, hdomain, hkey, rfl⟩ := exists_fields_of_part hcolons
    rw [ofPart_of_fields hdomain hkey, Option.map_eq_none_iff, Option.eq_none_iff_forall_not_mem]
    -- with three fields, only the names can be wrong
    constructor
    · intro h
      exact .inr ⟨domain, key, value, hdomain, hkey, rfl, fun kind hkind =>
        h kind ((Kind.ofNames_eq_some_iff _ _ _).mpr hkind)⟩
    · rintro (h | ⟨domain', key', value', hdomain', hkey', heq, h⟩) kind hkind
      · exact hcolons h
      · -- the fields of a text are determined by it
        rw [← String.toList_inj] at heq
        simp only [String.toList_append, List.append_assoc] at heq
        obtain ⟨hd, heq⟩ := fields_inj hdomain hdomain' heq
        obtain ⟨hk, -⟩ := fields_inj hkey hkey' heq
        rw [String.toList_inj] at hd hk
        subst hd hk
        exact h kind ((Kind.ofNames_eq_some_iff _ _ _).mp hkind)

/-! ## Reading what is written -/

/-- The text of a component has no comma. -/
theorem comma_not_mem_text {c : Component} (h : CanWrite c.value) : ',' ∉ c.text.toList := by
  have hdomain : ',' ∉ c.kind.domain.toList := fun h => (c.kind.domain_fields _ h).2.1 rfl
  have hkey : ',' ∉ c.kind.key.toList := fun h => (c.kind.key_fields _ h).2.1 rfl
  simp [Component.text, hdomain, hkey, h.1]

/-- The last character of a text is the last one of its value, or the colon before it. -/
theorem getLast?_text (c : Component) :
    c.text.toList.getLast? = some ((c.value.toList.getLast?).getD ':') := by
  have htext : c.text.toList =
      (c.kind.domain.toList ++ ':' :: c.kind.key.toList) ++ ':' :: c.value.toList := by
    simp [Component.text]
  rw [htext, List.getLast?_append, List.getLast?_cons, Option.some_or]

/-- Trimming a part leaves the text of the component that it writes. -/
theorem trim_of_isWrittenIn {c : Component} {part : String} (h : c.IsWrittenIn part)
    (hvalue : CanWrite c.value) : trim part = c.text := by
  obtain ⟨before, after, hbefore, hafter, rfl⟩ := h
  -- the text starts with a domain and ends with the value, so trimming stops at it
  have hhead : ∀ b ∈ c.text.toList.head?, ¬isWhitespace b := by
    obtain ⟨kind, value⟩ := c
    cases kind <;> simp [Component.text, Kind.domain] <;> decide
  have hlast : ∀ b ∈ c.text.toList.getLast?, ¬isWhitespace b := by
    intro b hb
    rw [getLast?_text, Option.mem_some_iff] at hb
    -- an empty value leaves the colon before it as the last character
    cases hvalue' : c.value.toList.getLast? with
    | none =>
      rw [hvalue', Option.getD_none] at hb
      rw [← hb]
      decide
    | some last =>
      rw [hvalue', Option.getD_some] at hb
      rw [← hb]
      exact hvalue.2 last hvalue'
  have hpart : before ++ c.text ++ after =
      .ofList (before.toList ++ (c.text.toList ++ after.toList)) := by
    rw [← String.toList_inj]
    simp
  rw [hpart, trim_of_blanks hbefore hafter hhead hlast]
  exact String.ofList_toList

/-- The parts are read as the components they write. -/
theorem componentsOfParts_of_writes {parts : List String} {cs : List Component}
    (h : Writes parts cs) (hvalues : ∀ c ∈ cs, CanWrite c.value) :
    componentsOfParts parts = some cs := by
  -- induction on the parts: a blank one is skipped, another one is the next component
  induction h with
  | nil => rfl
  | blank hblank _ ih =>
    rw [componentsOfParts_cons, (trim_eq_empty_iff _).mpr hblank]
    exact ih hvalues
  | @component part parts c cs hpart _ ih =>
    have hc : CanWrite c.value := hvalues c List.mem_cons_self
    have hne : c.text.isEmpty = false := by
      simp [Component.text]
    rw [componentsOfParts_cons, trim_of_isWrittenIn hpart hc, hne, ofPart_text,
      ih fun d hd => hvalues d (List.mem_cons_of_mem c hd)]
    rfl

/-- No part that is written has a comma. -/
theorem comma_not_mem_of_writes {parts : List String} {cs : List Component} (h : Writes parts cs)
    (hvalues : ∀ c ∈ cs, CanWrite c.value) : ∀ part ∈ parts, ',' ∉ part.toList := by
  -- a comma is no blank
  have hblank : ∀ {s : String}, (∀ b ∈ s.toList, isWhitespace b) → ',' ∉ s.toList := by
    intro s hs hmem
    exact absurd (hs _ hmem) (by decide)
  induction h with
  | nil => simp
  | blank h _ ih =>
    rintro part (_ | ⟨_, hmem⟩)
    · exact hblank h
    · exact ih hvalues part hmem
  | component h _ ih =>
    rintro part (_ | ⟨_, hmem⟩)
    -- the part that is written now: blanks, the text, blanks
    · obtain ⟨before, after, hbefore, hafter, rfl⟩ := h
      have htext := comma_not_mem_text (hvalues _ List.mem_cons_self)
      simp [hblank hbefore, hblank hafter, htext]
    · exact ih (fun d hd => hvalues d (List.mem_cons_of_mem _ hd)) part hmem

/-- A selector string is read as the components that its parts write. -/
theorem components_of_writes {parts : List String} {cs : List Component} (h : Writes parts cs)
    (hvalues : ∀ c ∈ cs, CanWrite c.value) :
    components (.intercalate "," parts) = some cs := by
  unfold components
  by_cases hne : parts = []
  · -- no part at all is one blank part
    subst hne
    cases h
    decide
  · have hsplit := split_intercalate (comma_not_mem_of_writes h hvalues) hne
    rw [show String.singleton ',' = "," from rfl] at hsplit
    rw [hsplit]
    exact componentsOfParts_of_writes h hvalues

/-! ## The selector that is written -/

namespace SelectorConfig

variable {sel : SelectorConfig}

/-- In a selector that can be written, a domain that is present has a field. -/
theorem Writable.unix_isSome_iff (h : sel.Writable) :
    sel.unix.isSome ↔ ∃ kind : Kind, kind.isUnix = true ∧ (sel.value kind).isSome := by
  have hunix := h.unix
  obtain ⟨_ | ⟨user, group, bin⟩, systemd⟩ := sel
  -- without the domain no kind of it has a value
  · apply iff_of_false (by simp)
    rintro ⟨kind, hkind, hvalue⟩
    cases kind <;> simp [Kind.isUnix, value] at hkind hvalue
  -- with it one of its fields is there, or it would be the empty one
  · apply iff_of_true rfl
    by_contra hnone
    push Not at hnone
    have huser : user = none := by simpa [value] using hnone .user rfl
    have hgroup : group = none := by simpa [value] using hnone .group rfl
    have hbin : bin = none := by simpa [value] using hnone .bin rfl
    exact hunix (by rw [huser, hgroup, hbin]; rfl)

theorem Writable.systemd_isSome_iff (h : sel.Writable) :
    sel.systemd.isSome ↔ ∃ kind : Kind, kind.isUnix = false ∧ (sel.value kind).isSome := by
  have hsystemd := h.systemd
  obtain ⟨unix, _ | ⟨unitpath, unitname⟩⟩ := sel
  · apply iff_of_false (by simp)
    rintro ⟨kind, hkind, hvalue⟩
    cases kind <;> simp [Kind.isUnix, value] at hkind hvalue
  · apply iff_of_true rfl
    by_contra hnone
    push Not at hnone
    have hpath : unitpath = none := by simpa [value] using hnone .unitpath rfl
    have hname : unitname = none := by simpa [value] using hnone .unitname rfl
    exact hsystemd (by rw [hpath, hname]; rfl)

end SelectorConfig

section Fields

variable {sel : SelectorConfig} {cs : List Component} (hcs : cs.Perm sel.fields)

include hcs

theorem mem_of_perm (c : Component) : c ∈ cs ↔ sel.value c.kind = some c.value :=
  hcs.mem_iff.trans (sel.mem_fields_iff c)

/-- In any order, the last value of a kind is the one the selector holds. -/
theorem lastValue_of_perm (kind : Kind) : lastValue kind cs = sel.value kind := by
  ext value
  constructor
  · intro h
    exact (mem_of_perm hcs _).mp (mem_of_lastValue h)
  · intro h
    -- the selector has one value of a kind, so every component of the kind has this one
    obtain ⟨value', hvalue'⟩ := exists_lastValue_of_mem ((mem_of_perm hcs ⟨kind, value⟩).mpr h)
    have hsame := (mem_of_perm hcs _).mp (mem_of_lastValue hvalue')
    rwa [Option.some.inj (h.symm.trans hsame)]

/-- A kind of a domain is written exactly when the selector has a value of such a kind. -/
theorem any_isUnix_iff (unix : Bool) :
    cs.any (fun c => c.kind.isUnix == unix) = true ↔
      ∃ kind : Kind, kind.isUnix = unix ∧ (sel.value kind).isSome := by
  rw [List.any_eq_true]
  constructor
  · rintro ⟨c, hc, hunix⟩
    have hvalue := (mem_of_perm hcs c).mp hc
    exact ⟨c.kind, by simpa using hunix, by simp [hvalue]⟩
  · rintro ⟨kind, hunix, hvalue⟩
    obtain ⟨value, hvalue⟩ := Option.isSome_iff_exists.mp hvalue
    exact ⟨⟨kind, value⟩, (mem_of_perm hcs _).mpr hvalue, by simpa using hunix⟩

/-- The components of a selector that can be written make up the selector. -/
theorem ofComponents_of_perm (hsel : sel.Writable) : SelectorConfig.ofComponents cs = sel := by
  -- a domain is made when one of its kinds is written, and its fields are the values
  have hunix : cs.any (·.kind.isUnix) = sel.unix.isSome := by
    rw [Bool.eq_iff_iff, hsel.unix_isSome_iff, ← any_isUnix_iff hcs true]
    simp only [beq_true]
  have hsystemd : cs.any (!·.kind.isUnix) = sel.systemd.isSome := by
    rw [Bool.eq_iff_iff, hsel.systemd_isSome_iff, ← any_isUnix_iff hcs false]
    simp only [beq_false]
  simp only [SelectorConfig.ofComponents, hunix, hsystemd, lastValue_of_perm hcs]
  obtain ⟨_ | unix, _ | systemd⟩ := sel <;> rfl

theorem binAnchored_of_perm (hsel : sel.Writable) : BinAnchored cs := by
  unfold BinAnchored
  rw [lastValue_of_perm hcs, lastValue_of_perm hcs, lastValue_of_perm hcs]
  exact hsel.bin

end Fields

/-! ## Refused strings -/

/-- Some part of the selector string is a component of the kind. -/
def Mentions (selector : String) (kind : Kind) : Prop :=
  ∃ part ∈ split selector ',', ∃ value : String, trim part = (Component.mk kind value).text

/-- The text of a component is not empty. -/
theorem text_ne_empty (c : Component) : c.text ≠ "" := by
  simp [Component.text]

/-- The components of a string are those that some part of it writes. -/
theorem mem_componentsOfParts {parts : List String} {cs : List Component}
    (h : componentsOfParts parts = some cs) (c : Component) :
    c ∈ cs ↔ ∃ part ∈ parts, trim part = c.text := by
  induction parts generalizing cs with
  | nil =>
    cases h
    simp
  | cons part parts ih =>
    rw [componentsOfParts_cons] at h
    rw [List.exists_mem_cons_iff]
    split at h
    · rename_i hblank
      have hne : trim part ≠ c.text := fun heq =>
        text_ne_empty c (heq ▸ String.isEmpty_iff.mp hblank)
      rw [ih h, or_iff_right hne]
    -- a part that is not blank writes the component it is read as, and no other
    · obtain ⟨d, hd, h⟩ := Option.bind_eq_some_iff.mp h
      obtain ⟨ds, hds, rfl⟩ := Option.map_eq_some_iff.mp h
      rw [List.mem_cons, ih hds, ← ofPart_eq_some_iff, hd, Option.some.injEq, eq_comm]

/-- A string has no components exactly when some part is neither blank nor a component. -/
theorem componentsOfParts_eq_none_iff (parts : List String) :
    componentsOfParts parts = none ↔ ∃ part ∈ parts, trim part ≠ "" ∧ Malformed (trim part) := by
  induction parts with
  | nil => simp [componentsOfParts]
  | cons part parts ih =>
    rw [componentsOfParts_cons, List.exists_mem_cons_iff, ← ih, ← ofPart_eq_none_iff]
    -- the first part is skipped, or refused, or the question is about the others
    by_cases hblank : trim part = ""
    · simp [hblank]
    · rw [if_neg (by simpa using hblank)]
      cases hpart : Component.ofPart (trim part) <;> simp [hblank]

/-- A kind that the string mentions has a last value, and no other kind has. -/
theorem lastValue_isSome_iff {selector : String} {cs : List Component}
    (h : components selector = some cs) (kind : Kind) :
    (lastValue kind cs).isSome ↔ Mentions selector kind := by
  constructor
  · intro hsome
    obtain ⟨value, hvalue⟩ := Option.isSome_iff_exists.mp hsome
    obtain ⟨part, hpart, htext⟩ := (mem_componentsOfParts h _).mp (mem_of_lastValue hvalue)
    exact ⟨part, hpart, value, htext⟩
  · rintro ⟨part, hpart, value, htext⟩
    obtain ⟨last, hlast⟩ := exists_lastValue_of_mem
      ((mem_componentsOfParts h ⟨kind, value⟩).mpr ⟨part, hpart, htext⟩)
    simp [hlast]

/-- The parser refuses a string exactly when a part that is not blank is malformed, or a path is
mentioned without a user and a group. -/
theorem parseSelector_eq_error_iff (policy : IdentityPolicy) :
    (∃ e, policy.parseSelector = .error e) ↔
      (∃ part ∈ split policy.selector ',', trim part ≠ "" ∧ Malformed (trim part)) ∨
        (Mentions policy.selector .bin ∧
          ¬(Mentions policy.selector .user ∧ Mentions policy.selector .group)) := by
  have herror : (∃ e, policy.parseSelector = .error e) ↔
      ¬∃ sel, policy.parseSelector = .ok sel := by
    cases policy.parseSelector <;> simp
  rw [herror]
  simp only [parseSelector_eq_ok_iff]
  cases hcs : components policy.selector with
  | none => exact iff_of_true (by simp) (.inl ((componentsOfParts_eq_none_iff _).mp hcs))
  | some cs =>
    have hparts : ¬∃ part ∈ split policy.selector ',',
        trim part ≠ "" ∧ Malformed (trim part) := by
      rw [← componentsOfParts_eq_none_iff, ← components, hcs]
      simp
    have hanchored : (∃ sel ds, some cs = some ds ∧ BinAnchored ds ∧
        sel = SelectorConfig.ofComponents ds) ↔ BinAnchored cs := by
      simp
    -- all parts are read, so only the path can be refused
    rw [or_iff_right hparts, hanchored, BinAnchored, Classical.not_imp]
    simp only [lastValue_isSome_iff hcs]

/-- The parser recognises exactly its grammar. A selector whose fields are written as components, in
any order, with any blanks around them and any blank parts between them, is given back; a string is
refused exactly when a part that is not blank has too few colons or names no kind, or when a path is
mentioned without a user and a group. -/
theorem parseSelector_grammar (policy : IdentityPolicy) :
    (∀ (sel : SelectorConfig) (cs : List Component) (parts : List String),
      sel.Writable → cs.Perm sel.fields → Writes parts cs →
        policy.selector = .intercalate "," parts → policy.parseSelector = .ok sel) ∧
    ((∃ e, policy.parseSelector = .error e) ↔
      (∃ part ∈ split policy.selector ',', trim part ≠ "" ∧ Malformed (trim part)) ∨
        (Mentions policy.selector .bin ∧
          ¬(Mentions policy.selector .user ∧ Mentions policy.selector .group))) := by
  refine ⟨?_, parseSelector_eq_error_iff policy⟩
  intro sel cs parts hsel hcs hparts htext
  have hvalues : ∀ c ∈ cs, CanWrite c.value := fun c hc =>
    hsel.values c.kind c.value ((mem_of_perm hcs c).mp hc)
  rw [parseSelector_eq_ok_iff, htext]
  -- the order matters neither to the check of the path nor to the result
  exact ⟨cs, components_of_writes hparts hvalues, binAnchored_of_perm hcs hsel,
    (ofComponents_of_perm hcs hsel).symm⟩

/-- A selector with a path, written with blanks, an empty part and colons in a value. -/
theorem parseSelector_grammar_path :
    (IdentityPolicy.mk " unix:bin:/opt/a:b,,unix:group:svc , unix:user: svc" 60).parseSelector =
      .ok ⟨some ⟨some " svc", some "svc", some "/opt/a:b"⟩, none⟩ := by
  refine (parseSelector_grammar _).1 _ [⟨.bin, "/opt/a:b"⟩, ⟨.group, "svc"⟩, ⟨.user, " svc"⟩]
    [" unix:bin:/opt/a:b", "", "unix:group:svc ", " unix:user: svc"] ?_ ?_ ?_ ?_
  · refine ⟨by decide, by decide, ?_, by decide⟩
    intro kind value hvalue
    cases kind <;> cases hvalue <;> exact ⟨by decide, by simp; decide⟩
  · decide
  · have hblank : ∀ b ∈ " ".toList, isWhitespace b := List.all_iff_forall_prop.mp (by decide)
    have hempty : ∀ b ∈ "".toList, isWhitespace b := by simp
    refine .component ⟨" ", "", hblank, hempty, by decide⟩ (.blank hempty ?_)
    refine .component ⟨"", " ", hempty, hblank, by decide⟩ ?_
    exact .component ⟨" ", "", hblank, hempty, by decide⟩ .nil
  · decide

end AuthnScope
