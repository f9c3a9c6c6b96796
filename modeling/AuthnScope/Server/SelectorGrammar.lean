import AuthnScope.Server.Config

/-!
# The grammar of selector strings

A selector string is a list of components `domain:key:value` separated by commas, with blanks
around them and empty parts skipped. `components` reads a string this way, without any of the
parser's variables. `IdentityPolicy.parseSelector` folds the components into a record that keeps
one value for each kind, so a later component of a kind replaces an earlier one.

## Main definitions

* `Component`: a component of one of the five kinds with its value;
* `components`: the components a string writes, in order;
* `lastValue`: the value of the last component of a kind;
* `SelectorConfig.ofComponents`: the selector that keeps the last value of each kind.

## Main results

* `parseSelector_eq_ok_iff`: the parser accepts exactly the strings whose written components are
  all of the five kinds and that pair `unix:bin` with a user and a group, and returns
  `SelectorConfig.ofComponents`;
* `value_ofComponents`: what that selector holds for each kind.
-/

namespace AuthnScope

open Outcome RustText

namespace Kind

/-- The kind written `domain:key`. -/
def ofNames : String → String → Option Kind
  | "unix", "user" => some .user
  | "unix", "group" => some .group
  | "unix", "bin" => some .bin
  | "systemd", "unitname" => some .unitname
  | "systemd", "unitpath" => some .unitpath
  | _, _ => none

/-- Whether the kind belongs to the `unix` domain. -/
def isUnix : Kind → Bool
  | .user | .group | .bin => true
  | .unitname | .unitpath => false

end Kind

/-- A selector component. -/
structure Component where
  kind : Kind
  value : String
  deriving DecidableEq, Repr

/-- Read a trimmed, non-empty part of a selector string. -/
def Component.ofPart (part : String) : Option Component :=
  match splitn 3 part ':' with
  | domain :: key :: value :: _ => (Kind.ofNames domain key).map fun kind => ⟨kind, value⟩
  | _ => none

/-- A component is three pieces, of which the first two name its kind. -/
theorem Component.ofPart_eq_some {part : String} {c : Component} (h : ofPart part = some c) :
    ∃ domain key value rest kind, splitn 3 part ':' = domain :: key :: value :: rest ∧
      Kind.ofNames domain key = some kind ∧ c = ⟨kind, value⟩ := by
  unfold ofPart at h
  rcases hsplit : splitn 3 part ':' with _ | ⟨domain, _ | ⟨key, _ | ⟨value, rest⟩⟩⟩
  case cons.cons.cons =>
    simp only [hsplit, Option.map_eq_some_iff] at h
    obtain ⟨kind, hkind, rfl⟩ := h
    exact ⟨domain, key, value, rest, kind, rfl, hkind, rfl⟩
  all_goals simp [hsplit] at h

/-- Read the parts of a selector string: every part that is not blank must be a component. -/
def componentsOfParts (parts : List String) : Option (List Component) :=
  ((parts.map trim).filter fun part => !part.isEmpty).mapM Component.ofPart

/-- The components a selector string writes, in order; `none` if some part is none. -/
def components (s : String) : Option (List Component) := componentsOfParts (split s ',')

/-- The value of the last component of a kind. -/
def lastValue (k : Kind) (cs : List Component) : Option String :=
  cs.foldl (fun v c => if c.kind = k then some c.value else v) none

/-- The selector that keeps the last value of each kind; a domain is present when it is
written. -/
def SelectorConfig.ofComponents (cs : List Component) : SelectorConfig where
  unix :=
    if cs.any (·.kind.isUnix) then
      some ⟨lastValue .user cs, lastValue .group cs, lastValue .bin cs⟩
    else none
  systemd :=
    if cs.any (!·.kind.isUnix) then
      some ⟨lastValue .unitpath cs, lastValue .unitname cs⟩
    else none

/-- A path is only accepted together with a user and a group. -/
def BinAnchored (cs : List Component) : Prop :=
  (lastValue .bin cs).isSome → (lastValue .user cs).isSome ∧ (lastValue .group cs).isSome

/-! ## Last values -/

@[simp]
theorem lastValue_nil (k : Kind) : lastValue k [] = none := rfl

/-- A component sets the value of its own kind. -/
theorem lastValue_append_singleton (k : Kind) (cs : List Component) (c : Component) :
    lastValue k (cs ++ [c]) = if c.kind = k then some c.value else lastValue k cs := by
  simp [lastValue, List.foldl_append]

/-- The last value of a kind is written in some component. -/
theorem mem_of_lastValue {k : Kind} {cs : List Component} {v : String}
    (h : lastValue k cs = some v) : ⟨k, v⟩ ∈ cs := by
  induction cs using List.reverseRecOn with
  | nil => simp at h
  | append_singleton cs c ih =>
    rw [lastValue_append_singleton] at h
    split at h
    · rename_i hk
      cases h
      subst hk
      simp
    · exact List.mem_append_left _ (ih h)

/-- A kind that is written has a last value. -/
theorem exists_lastValue_of_mem {cs : List Component} {c : Component} (h : c ∈ cs) :
    ∃ v, lastValue c.kind cs = some v := by
  induction cs using List.reverseRecOn with
  | nil => cases h
  | append_singleton cs d ih =>
    rw [lastValue_append_singleton]
    split
    · exact ⟨_, rfl⟩
    · rename_i hk
      rcases List.mem_append.mp h with hc | hc
      · exact ih hc
      · rw [List.mem_singleton.mp hc] at hk
        exact absurd rfl hk

/-- What the selector of a list of components holds for each kind is the last value written. -/
theorem value_ofComponents (cs : List Component) (k : Kind) :
    (SelectorConfig.ofComponents cs).value k = lastValue k cs := by
  -- a domain that is not written has no last values
  have hnone : ∀ unix : Bool, k.isUnix = unix → cs.any (fun c => c.kind.isUnix == unix) = false →
      lastValue k cs = none := by
    intro unix hk hany
    cases h : lastValue k cs with
    | none => rfl
    | some v =>
      have := List.any_eq_false.mp hany _ (mem_of_lastValue h)
      simp [hk] at this
  cases k <;> simp only [SelectorConfig.value, SelectorConfig.ofComponents]
  all_goals
    split
    · rfl
    · rename_i h
      rw [Option.bind_none]
      symm
      first
      | exact hnone true rfl (by simpa using h)
      | exact hnone false rfl (by simpa using h)

/-! ## The parser computes the components -/

/-- The variables of the parser's loop once it has read the components `cs`. -/
def SelectorState.ofComponents (cs : List Component) : SelectorState where
  unix := ⟨lastValue .user cs, lastValue .group cs, lastValue .bin cs⟩
  systemd := ⟨lastValue .unitpath cs, lastValue .unitname cs⟩
  hasUnix := cs.any (·.kind.isUnix)
  hasSystemd := cs.any (!·.kind.isUnix)

/-- A blank part changes nothing. -/
theorem parsePart_of_blank (st : SelectorState) {part : String} (h : (trim part).isEmpty) :
    parsePart st part = .ok st := by
  simp [parsePart, h]

/-- A component is added to those read so far. -/
theorem parsePart_of_component (cs : List Component) {part : String} {c : Component}
    (hpart : ¬(trim part).isEmpty) (h : Component.ofPart (trim part) = some c) :
    parsePart (.ofComponents cs) part = .ok (.ofComponents (cs ++ [c])) := by
  obtain ⟨domain, key, value, rest, kind, hsplit, hkind, rfl⟩ := Component.ofPart_eq_some h
  simp only [parsePart, hpart, Bool.false_eq_true, ↓reduceIte, hsplit]
  unfold Kind.ofNames at hkind
  split at hkind <;> cases hkind <;>
    simp [SelectorState.ofComponents, lastValue_append_singleton, Kind.isUnix]

/-- A part that is neither blank nor a component is refused. -/
theorem parsePart_of_none (st : SelectorState) {part : String}
    (hpart : ¬(trim part).isEmpty) (h : Component.ofPart (trim part) = none) :
    ∃ e, parsePart st part = .error e := by
  simp only [parsePart, hpart, Bool.false_eq_true, ↓reduceIte]
  unfold Component.ofPart at h
  -- fewer than three pieces are refused as such, three or more for their names
  rcases hsplit : splitn 3 (trim part) ':' with _ | ⟨domain, _ | ⟨key, _ | ⟨value, rest⟩⟩⟩
  case cons.cons.cons =>
    simp only [hsplit, Option.map_eq_none_iff] at h
    dsimp only
    split <;> first | exact ⟨_, rfl⟩ | simp [Kind.ofNames] at h
  all_goals exact ⟨_, rfl⟩

theorem componentsOfParts_cons (part : String) (parts : List String) :
    componentsOfParts (part :: parts) =
      if (trim part).isEmpty then componentsOfParts parts
      else (Component.ofPart (trim part)).bind fun c =>
        (componentsOfParts parts).map fun cs => c :: cs := by
  unfold componentsOfParts
  by_cases h : (trim part).isEmpty
  · simp [h]
  · simp only [List.map_cons, List.filter_cons, h, Bool.false_eq_true, Bool.not_false, ↓reduceIte,
      List.mapM_cons, Option.bind_eq_bind, Option.pure_def, Option.map_eq_bind, Function.comp_def]

/-- The loop reads the parts one after the other. -/
theorem foldlM_parsePart_eq_ok_iff (parts : List String) (cs : List Component)
    (st : SelectorState) :
    parts.foldlM parsePart (.ofComponents cs) = .ok st ↔
      ∃ ds, componentsOfParts parts = some ds ∧ st = .ofComponents (cs ++ ds) := by
  -- induction on the parts left, with the components read so far as the state
  induction parts generalizing cs with
  | nil => simp [componentsOfParts, pure, Except.pure, eq_comm]
  | cons part parts ih =>
    rw [List.foldlM_cons, except_bind_eq_ok_iff, componentsOfParts_cons]
    by_cases hpart : (trim part).isEmpty
    · simp [parsePart_of_blank _ hpart, hpart, ih]
    · rw [if_neg hpart]
      cases h : Component.ofPart (trim part) with
      | none =>
        obtain ⟨e, he⟩ := parsePart_of_none (.ofComponents cs) hpart h
        simp [he]
      | some c =>
        simp [parsePart_of_component cs hpart h, ih]

/-- `parse_selector` accepts a string exactly when its parts are components and a `unix:bin`
comes with a user and a group, and it returns the last value written for each kind. -/
theorem parseSelector_eq_ok_iff (policy : IdentityPolicy) (sel : SelectorConfig) :
    policy.parseSelector = .ok sel ↔
      ∃ cs, components policy.selector = some cs ∧ BinAnchored cs ∧
        sel = SelectorConfig.ofComponents cs := by
  have hinit : SelectorState.init = .ofComponents [] := rfl
  have hloop := foldlM_parsePart_eq_ok_iff (split policy.selector ',') []
  -- the check after the loop refuses exactly the selectors that are not anchored
  have hcheck : ∀ cs : List Component,
      ((lastValue .bin cs).isSome &&
        ((lastValue .user cs).isNone || (lastValue .group cs).isNone)) = true ↔
      ¬BinAnchored cs := by
    intro cs
    unfold BinAnchored
    cases lastValue .bin cs <;> cases lastValue .user cs <;> cases lastValue .group cs <;> simp
  unfold IdentityPolicy.parseSelector
  rw [except_bind_eq_ok_iff, hinit]
  constructor
  · rintro ⟨st, hst, h⟩
    obtain ⟨cs, hcs, rfl⟩ := (hloop st).mp hst
    split at h
    · cases h
    · rename_i hbin
      cases h
      exact ⟨cs, hcs, not_not.mp fun h => hbin ((hcheck cs).mpr h), rfl⟩
  · rintro ⟨cs, hcs, hbin, rfl⟩
    refine ⟨_, (hloop _).mpr ⟨cs, hcs, rfl⟩, ?_⟩
    split
    · rename_i h
      exact absurd hbin ((hcheck cs).mp h)
    · rfl

end AuthnScope
