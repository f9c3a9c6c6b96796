import AuthnScope.Agent.Attest

/-!
# The unit of a process

`handle_workload_conn` of `authn-scope-agent/src/client.rs` reads the systemd unit of its peer from
`/proc/<pid>/cgroup`: the first line whose third field contains `.service` gives the unit path, and
the last component of that path the unit name. A path is cut at its first colon, and the components
below a service are in the hands of the service.

## Main definitions

* `discoverUnit`: the code;
* `CgroupLine`, `cgroupContent`: the lines the kernel writes;
* `unitLine`: the line that a unit is discovered from;
* `Owns`: the service a path belongs to, and what is below it;
* `lastRead`: the component of a path at which the code stops to read.

## Main results

* `unitpath_eq_iff`: the unit path is the whole path of the first line of a service exactly when
  that path has no colon and does not end in a carriage return;
* `unitname_owner_iff`: the unit name is that of the service that a path belongs to exactly when the
  component at which the code stops has this name, and exactly then are the groups below the service
  without influence.
-/

namespace AuthnScope

open RustText

/-- The loop over the lines of the file: the unit path and the unit name. -/
def discoverUnitLoop : List String → Option String × Option String
  | [] => (none, none)
  | line :: rest =>
    match split line ':' with
    | _ :: _ :: path :: _ =>
      -- whatever follows a third colon is dropped
      if contains path ".service" then (some path, (split path '/').getLast?)
      else discoverUnitLoop rest
    | _ => discoverUnitLoop rest

/-- Discover the systemd unit path and unit name in the content of `/proc/<pid>/cgroup`, if it can
be read. -/
def discoverUnit (content : Except String String) : Option String × Option String :=
  match content with
  | .error _ => (none, none)
  | .ok content => discoverUnitLoop (lines content)

/-- The attributes `handle_workload_conn` discovers, from the credentials of the peer, the target of
`/proc/<pid>/exe` and the content of `/proc/<pid>/cgroup`. -/
def Process.discover (uid gid : UInt32) (exe content : Except String String) : Process where
  uid := uid
  gid := gid
  binPath := exe.toOption
  unitpath := (discoverUnit content).1
  unitname := (discoverUnit content).2

/-- A line of a cgroup file: a hierarchy, its controllers and the path of the process in it. -/
structure CgroupLine where
  id : String
  controllers : String
  path : String
  id_field : ':' ∉ id.toList ∧ '\n' ∉ id.toList
  controllers_field : ':' ∉ controllers.toList ∧ '\n' ∉ controllers.toList
  path_line : '\n' ∉ path.toList

/-- The text of a line. -/
def CgroupLine.text (l : CgroupLine) : String := l.id ++ ":" ++ l.controllers ++ ":" ++ l.path

/-- A file of lines. -/
def cgroupContent (ls : List CgroupLine) : String := .join (ls.map fun l => l.text ++ "\n")

/-- What the code reads of a path: a carriage return at its end belongs to the line break, and the
first colon ends the field. -/
def cutPath (path : String) : String :=
  .ofList ((stripCr path.toList).takeWhile (· ≠ ':'))

/-- The test for the path of a service. -/
def isServicePath (path : String) : Bool := contains path ".service"

/-- `owner` is the first component of the path that ends in `.service`, and `below` are the
components that follow it. -/
def Owns (path owner : String) (below : List String) : Prop :=
  ∃ above, split path '/' = above ++ owner :: below ∧
    (∀ c ∈ above, endsWith c ".service" = false) ∧ endsWith owner ".service"

/-- The line that a unit is discovered from: the first of whose path enough is read to see that it
is one of a service. -/
def unitLine (ls : List CgroupLine) : Option CgroupLine :=
  ls.find? fun l => isServicePath (cutPath l.path)

/-- The component of a path at which the code stops to read: the first one that has a colon, or
else the last one. -/
def lastRead (path : String) : Option String :=
  ((split path '/').find? (':' ∈ ·.toList)).or (split path '/').getLast?

/-! ## The unit path -/

theorem toList_cgroupContent (ls : List CgroupLine) :
    (cgroupContent ls).toList =
      (ls.map fun l => l.text.toList).flatMap fun line => line ++ ['\n'] := by
  simp [cgroupContent, String.toList_join, List.flatMap_map]

/-- The lines of the file, as they are read. -/
theorem lines_cgroupContent (ls : List CgroupLine) :
    lines (cgroupContent ls) = ls.map fun l => String.ofList (stripCr l.text.toList) := by
  have hlines : ∀ line ∈ ls.map fun l => l.text.toList, '\n' ∉ line := by
    intro line hline
    obtain ⟨l, -, rfl⟩ := List.mem_map.mp hline
    simp [CgroupLine.text, l.id_field.2, l.controllers_field.2, l.path_line]
  rw [← String.ofList_toList (s := cgroupContent ls), toList_cgroupContent,
    lines_terminated hlines, List.map_map]
  rfl

/-- The fields of a line: its first two, and the path up to its first colon. -/
theorem split_text (l : CgroupLine) :
    ∃ rest, split (.ofList (stripCr l.text.toList)) ':' =
      l.id :: l.controllers :: cutPath l.path :: rest := by
  have htext : l.text.toList =
      (l.id.toList ++ ':' :: (l.controllers.toList ++ [':'])) ++ l.path.toList := by
    simp [CgroupLine.text]
  -- the carriage return, if there is one, is in the path
  rw [htext, stripCr_append (by simp [List.getLast?_cons]), List.append_assoc, List.cons_append,
    List.append_assoc, List.singleton_append,
    split_of_fields l.id_field.1 l.controllers_field.1]
  obtain ⟨rest, hrest⟩ := List.head?_eq_some_iff.mp (head?_splitOn (stripCr l.path.toList) ':')
  rw [hrest]
  exact ⟨rest.map String.ofList, by simp [cutPath]⟩

/-- The unit path is the first cut path of a service. -/
theorem unitpath_discoverUnit (ls : List CgroupLine) :
    (discoverUnit (.ok (cgroupContent ls))).1 =
      (ls.map fun l => cutPath l.path).find? isServicePath := by
  rw [discoverUnit, lines_cgroupContent]
  induction ls with
  | nil => rfl
  | cons l ls ih =>
    obtain ⟨rest, hsplit⟩ := split_text l
    rw [List.map_cons, List.map_cons, List.find?_cons, discoverUnitLoop, hsplit]
    simp only [isServicePath]
    by_cases h : contains (cutPath l.path) ".service"
    · simp [h]
    · simpa [h] using ih

theorem stripCr_isPrefix (line : List Char) : stripCr line <+: line := by
  unfold stripCr
  split
  · exact List.dropLast_prefix line
  · exact List.prefix_refl line

/-- A path is read in full when it has no colon and no carriage return at its end. -/
theorem cutPath_eq_self_iff (path : String) :
    cutPath path = path ↔ ':' ∉ path.toList ∧ path.toList.getLast? ≠ some '\r' := by
  rw [cutPath, ← String.toList_inj, String.toList_ofList, ← stripCr_eq_self_iff]
  have hcut : (stripCr path.toList).takeWhile (· ≠ ':') <+: stripCr path.toList :=
    List.takeWhile_prefix _
  constructor
  · intro h
    -- what is left of the path is all of it, so neither step has dropped anything
    rw [h] at hcut
    have hstrip : stripCr path.toList = path.toList :=
      (stripCr_isPrefix _).eq_of_length_le hcut.length_le
    rw [hstrip] at h
    exact ⟨(takeWhile_ne_eq_self_iff _ _).mp h, hstrip⟩
  · rintro ⟨hcolon, hstrip⟩
    rw [hstrip]
    exact (takeWhile_ne_eq_self_iff _ _).mpr hcolon

/-- What is read of a path is the path of a service only if the path is. -/
theorem isServicePath_of_cutPath {path : String} (h : isServicePath (cutPath path)) :
    isServicePath path := by
  rw [isServicePath, contains_iff] at h ⊢
  apply h.trans
  rw [cutPath, String.toList_ofList]
  exact ((List.takeWhile_prefix _).trans (stripCr_isPrefix _)).isInfix

/-- Of the path of a service without a colon, enough is read to see that it is one. -/
theorem isServicePath_cutPath {path : String} (hcolon : ':' ∉ path.toList)
    (h : isServicePath path) : isServicePath (cutPath path) := by
  by_cases hcr : path.toList.getLast? = some '\r'
  · obtain ⟨front, hfront⟩ := List.getLast?_eq_some_iff.mp hcr
    rw [isServicePath, contains_iff, hfront, List.infix_concat_iff] at h
    -- the last character is dropped, and the pattern does not end in it
    have hinfix : ".service".toList <:+: front := by
      refine h.resolve_left fun hsuffix => ?_
      rcases List.suffix_concat_iff.mp hsuffix with hnil | ⟨t, ht, -⟩
      · exact absurd hnil (by decide)
      · have hlast := congrArg List.getLast? ht
        rw [List.getLast?_concat] at hlast
        exact absurd hlast (by decide)
    rw [hfront, List.mem_append, not_or] at hcolon
    have hall := (takeWhile_ne_eq_self_iff _ _).mpr hcolon.1
    have hstrip : stripCr path.toList = front := by simp [stripCr, hfront]
    have hcut : (cutPath path).toList = front := by
      rw [cutPath, hstrip, hall, String.toList_ofList]
    rw [isServicePath, contains_iff, hcut]
    exact hinfix
  · rw [(cutPath_eq_self_iff path).mpr ⟨hcolon, hcr⟩]
    exact h

/-- Among what is read of some paths, the first of a service is the first of them that is one,
exactly when that path is read in full. -/
theorem find?_cutPath_eq_iff (paths : List String) :
    (paths.map cutPath).find? isServicePath = paths.find? isServicePath ↔
      ∀ path, paths.find? isServicePath = some path →
        ':' ∉ path.toList ∧ path.toList.getLast? ≠ some '\r' := by
  induction paths with
  | nil => simp
  | cons path paths ih =>
    rw [List.map_cons, List.find?_cons, List.find?_cons]
    by_cases hservice : isServicePath path
    · rw [hservice]
      simp only [Option.some.injEq, forall_eq']
      rw [← cutPath_eq_self_iff]
      by_cases hcut : isServicePath (cutPath path)
      · rw [hcut, Option.some.injEq]
      · -- another path is taken for this one, or none
        rw [Bool.not_eq_true] at hcut
        rw [hcut]
        refine iff_of_false (fun hfind => ?_) fun hself => ?_
        · obtain ⟨other, -, hother⟩ := List.mem_map.mp (List.mem_of_find?_eq_some hfind)
          have hcolon : ':' ∉ path.toList := by
            rw [← hother, cutPath, String.toList_ofList]
            intro hmem
            simpa using List.mem_takeWhile_imp hmem
          rw [isServicePath_cutPath hcolon hservice] at hcut
          cases hcut
        · rw [hself, hservice] at hcut
          cases hcut
    · have hcut : isServicePath (cutPath path) = false := by
        rw [← Bool.not_eq_true]
        exact fun h => hservice (isServicePath_of_cutPath h)
      rw [Bool.not_eq_true] at hservice
      rw [hservice, hcut]
      exact ih

/-- The unit path is the whole path of the first line whose path contains `.service`, or none if
there is no such line, exactly when that path has no colon and does not end in a carriage
return. -/
theorem unitpath_eq_iff (ls : List CgroupLine) :
    (discoverUnit (.ok (cgroupContent ls))).1 = (ls.map (·.path)).find? isServicePath ↔
      ∀ path, (ls.map (·.path)).find? isServicePath = some path →
        ':' ∉ path.toList ∧ path.toList.getLast? ≠ some '\r' := by
  rw [unitpath_discoverUnit, ← find?_cutPath_eq_iff, List.map_map]
  rfl

/-- A unit whose name has a colon is not discovered. -/
theorem unitpath_cut_at_colon :
    ¬∀ ls : List CgroupLine,
      (discoverUnit (.ok (cgroupContent ls))).1 = (ls.map (·.path)).find? isServicePath := by
  intro h
  have hunit := h [⟨"0", "", "/system.slice/backup:home.service", by decide, by decide, by decide⟩]
  exact absurd hunit (by decide +kernel)

/-! ## The unit name -/

theorem unitname_discoverUnitLoop {ls : List String} {path : String}
    (h : (discoverUnitLoop ls).1 = some path) :
    (discoverUnitLoop ls).2 = (split path '/').getLast? := by
  induction ls with
  | nil => cases h
  | cons line ls ih =>
    unfold discoverUnitLoop at h ⊢
    -- the path comes from this line, or from one that follows
    split at h
    · rename_i path' _ _
      by_cases hservice : contains path' ".service"
      · rw [if_pos hservice] at h ⊢
        cases h
        rfl
      · rw [if_neg hservice] at h ⊢
        exact ih h
    · exact ih h

/-- The unit name is the last component of the unit path. -/
theorem unitname_discoverUnit {content : Except String String} {path : String}
    (h : (discoverUnit content).1 = some path) :
    (discoverUnit content).2 = (split path '/').getLast? := by
  cases content with
  | error e => cases h
  | ok content => exact unitname_discoverUnitLoop h

/-- A path is cut at its first colon, whatever follows. -/
theorem takeWhile_stripCr_append_cons {front : List Char} (h : ':' ∉ front) (rest : List Char) :
    (stripCr (front ++ ':' :: rest)).takeWhile (· ≠ ':') = front := by
  have hlast : (front ++ [':']).getLast? ≠ some '\r' := by simp
  rw [List.append_cons, stripCr_append hlast, List.append_assoc, List.singleton_append,
    takeWhile_ne_append_cons h]

/-- Of a path the components in front of the one at which the code stops are read in full, and that
one as far as it is read of a path of its own. -/
theorem getLast?_splitOn_cut (cs : List Char) :
    (((stripCr cs).takeWhile (· ≠ ':')).splitOn '/').getLast? =
      (((cs.splitOn '/').find? (':' ∈ ·)).or (cs.splitOn '/').getLast?).map fun c =>
        (stripCr c).takeWhile (· ≠ ':') := by
  induction cs using pieces_induction '/' with
  | last piece hpiece =>
    have hcut : '/' ∉ (stripCr piece).takeWhile (· ≠ ':') := fun hmem =>
      hpiece (((List.takeWhile_prefix _).trans (stripCr_isPrefix piece)).subset hmem)
    rw [List.splitOn_eq_singleton hcut, List.splitOn_eq_singleton hpiece]
    by_cases hcolon : ':' ∈ piece <;> simp [hcolon]
  | cons piece rest hpiece ih =>
    rw [List.splitOn_append_cons_self_of_not_mem hpiece]
    by_cases hcolon : ':' ∈ piece
    · -- the code stops in this component
      obtain ⟨front, tail, rfl, hfront⟩ := List.eq_append_cons_of_mem hcolon
      have hslash : '/' ∉ front := fun hmem => hpiece (List.mem_append_left _ hmem)
      rw [List.append_assoc, List.cons_append, takeWhile_stripCr_append_cons hfront,
        List.splitOn_eq_singleton hslash, List.find?_cons_of_pos (by exact decide_eq_true hcolon),
        Option.some_or, Option.map_some, takeWhile_stripCr_append_cons hfront]
      rfl
    · -- the component is read in full, and reading goes on behind it
      have hlast : (piece ++ ['/']).getLast? ≠ some '\r' := by simp
      have hread : ∀ c ∈ piece ++ ['/'], decide (c ≠ ':') = true := by
        intro c hc
        refine decide_eq_true fun hcs => ?_
        rcases List.mem_append.mp hc with hc | hc
        · exact hcolon (hcs ▸ hc)
        · exact absurd (hcs ▸ hc) (by decide)
      rw [List.append_cons, stripCr_append hlast, List.takeWhile_append_of_pos hread,
        List.append_assoc, List.singleton_append, List.splitOn_append_cons_self_of_not_mem hpiece,
        List.getLast?_cons_of_ne_nil (List.splitOn_ne_nil _ _), ih,
        List.getLast?_cons_of_ne_nil (List.splitOn_ne_nil _ _),
        List.find?_cons_of_neg (by simpa using hcolon)]

/-- What is read of a path ends in the component at which the code stops. -/
theorem getLast?_split_cutPath (path : String) :
    (split (cutPath path) '/').getLast? = (lastRead path).map cutPath := by
  have hcut : cutPath ∘ String.ofList =
      fun c => String.ofList ((stripCr c).takeWhile (· ≠ ':')) := by
    funext c
    rw [Function.comp_apply, cutPath, String.toList_ofList]
  rw [lastRead, split, split, List.find?_map, List.getLast?_map, List.getLast?_map, ← Option.map_or,
    Option.map_map, hcut, cutPath, String.toList_ofList, getLast?_splitOn_cut, Option.map_map]
  simp only [Function.comp_def, String.toList_ofList]

/-- The code stops at the last component of a path that is read in full: the service, or what is
last below it. -/
theorem lastRead_of_owns {path owner : String} {below : List String} (hcut : cutPath path = path)
    (h : Owns path owner below) :
    (lastRead path).map cutPath = some (below.getLast?.getD owner) := by
  obtain ⟨above, hsplit, -, -⟩ := h
  rw [← getLast?_split_cutPath, hcut, hsplit,
    List.getLast?_append_of_ne_nil _ (List.cons_ne_nil _ _), List.getLast?_cons]

theorem exists_lastRead (path : String) : ∃ c, lastRead path = some c := by
  have hne : split path '/' ≠ [] := by
    simp [split, List.splitOn_ne_nil]
  rw [← Option.isSome_iff_exists, lastRead, List.getLast?_eq_some_getLast hne]
  simp

/-- The unit name is what is read of the component at which the code stops. -/
theorem unitname_of_unitLine {ls : List CgroupLine} {l : CgroupLine} (h : unitLine ls = some l) :
    (discoverUnit (.ok (cgroupContent ls))).2 = (lastRead l.path).map cutPath := by
  have hpath : (discoverUnit (.ok (cgroupContent ls))).1 = some (cutPath l.path) := by
    rw [unitLine] at h
    rw [unitpath_discoverUnit, List.find?_map, Function.comp_def, h, Option.map_some]
  rw [unitname_discoverUnit hpath, getLast?_split_cutPath]

/-- A path belongs to one service. -/
theorem Owns.unique {path owner owner' : String} {below below' : List String}
    (h : Owns path owner below) (h' : Owns path owner' below') :
    owner = owner' ∧ below = below' := by
  -- what follows the components that are no service starts with the owner
  have hdrop : ∀ {owner below}, Owns path owner below →
      (split path '/').dropWhile (fun c => !endsWith c ".service") = owner :: below := by
    rintro owner below ⟨above, hsplit, habove, howner⟩
    rw [hsplit, List.dropWhile_append_of_pos (by simpa using habove)]
    simp [howner]
  have heq := (hdrop h).symm.trans (hdrop h')
  rw [List.cons.injEq] at heq
  exact heq

/-- Processes whose units have different names meet different selectors. -/
theorem unitnameMatches_eq_iff {proc proc' : Process} {unit unit' : String}
    (h : proc.unitname = some unit) (h' : proc'.unitname = some unit') :
    (∀ wlUnitname, unitnameMatches proc wlUnitname = unitnameMatches proc' wlUnitname) ↔
      unit = unit' := by
  -- a unit meets its name, with or without the suffix
  have hbears : ∀ {proc : Process} {unit}, proc.unitname = some unit → ∀ wlUnitname,
      (unitnameMatches proc wlUnitname = true ↔
        unit = wlUnitname ∨ unit = wlUnitname ++ ".service") := by
    intro proc unit hunit wlUnitname
    have haccepts : accepts ⟨fun _ => none, fun _ => none⟩ proc .unitname wlUnitname = true ↔ _ :=
      accepts_iff .unitname wlUnitname
    rw [← stripSuffix_eq_some_iff]
    simpa [accepts, Holds, hunit] using haccepts
  constructor
  · intro hsame
    -- each name meets itself, so each is the other one, or the other one with the suffix
    have hunit := (hbears h' unit).mp (by rw [← hsame, hbears h]; exact Or.inl rfl)
    have hunit' := (hbears h unit').mp (by rw [hsame, hbears h']; exact Or.inl rfl)
    rcases hunit with heq | heq
    · exact heq.symm
    rcases hunit' with heq' | heq'
    · exact heq'
    have hservice : ".service".length = 8 := by decide
    rw [heq'] at heq
    have hlength := congrArg String.length heq
    simp only [String.length_append, hservice] at hlength
    omega
  · rintro rfl wlUnitname
    rw [Bool.eq_iff_iff, hbears h, hbears h']

/-- The unit name is that of the service that the path of the line belongs to, exactly when the code
stops at a component of that name. Two processes, also of one service, meet the same unit names
exactly when the code stops at components of one name. -/
theorem unitname_owner_iff {ls : List CgroupLine} {l : CgroupLine} (h : unitLine ls = some l) :
    ((∃ owner below, Owns l.path owner below ∧
        (discoverUnit (.ok (cgroupContent ls))).2 = some owner) ↔
      ∃ owner below c, Owns l.path owner below ∧ lastRead l.path = some c ∧ cutPath c = owner) ∧
    ∀ uid gid exe ls' l', unitLine ls' = some l' →
      ((∀ wlUnitname,
        unitnameMatches (.discover uid gid exe (.ok (cgroupContent ls))) wlUnitname =
          unitnameMatches (.discover uid gid exe (.ok (cgroupContent ls'))) wlUnitname) ↔
        (lastRead l.path).map cutPath = (lastRead l'.path).map cutPath) := by
  refine ⟨?_, fun uid gid exe ls' l' h' => ?_⟩
  · simp only [unitname_of_unitLine h, Option.map_eq_some_iff, exists_and_left]
  · -- each path has a component at which the code stops
    obtain ⟨c, hc⟩ := exists_lastRead l.path
    obtain ⟨c', hc'⟩ := exists_lastRead l'.path
    have hname := unitname_of_unitLine h
    have hname' := unitname_of_unitLine h'
    rw [hc, Option.map_some] at hname ⊢
    rw [hc', Option.map_some] at hname' ⊢
    rw [Option.some.injEq]
    exact unitnameMatches_eq_iff hname hname'

/-- The line of a process in the unified hierarchy. -/
def unifiedLine (path : String) (h : '\n' ∉ path.toList) : CgroupLine :=
  ⟨"0", "", path, by decide, by decide, h⟩

/-- A process of `web.service` without groups of its own, and one in a group that is named like the
service. -/
theorem unitname_owner_web :
    let l := unifiedLine "/system.slice/web.service" (by decide)
    let l' := unifiedLine "/system.slice/web.service/web.service" (by decide)
    (∃ owner below, Owns l.path owner below ∧
      (discoverUnit (.ok (cgroupContent [l]))).2 = some owner) ∧
    ∀ wlUnitname,
      unitnameMatches (.discover 33 33 (.ok "/bin/web") (.ok (cgroupContent [l]))) wlUnitname =
        unitnameMatches (.discover 33 33 (.ok "/bin/web") (.ok (cgroupContent [l'])))
          wlUnitname := by
  intro l l'
  have hline : unitLine [l] = some l := List.find?_cons_of_pos (by decide +kernel)
  have hline' : unitLine [l'] = some l' := List.find?_cons_of_pos (by decide +kernel)
  have howns : Owns l.path "web.service" [] :=
    ⟨["", "system.slice"], by decide +kernel, by decide +kernel, by decide +kernel⟩
  exact ⟨(unitname_owner_iff hline).1.mpr
      ⟨_, _, "web.service", howns, by decide +kernel, by decide +kernel⟩,
    ((unitname_owner_iff hline).2 _ _ _ [l'] l' hline').mpr (by decide +kernel)⟩

/-- A group below `web.service` has its own name for a unit name. -/
theorem unitname_of_group :
    ¬∀ ls l, unitLine ls = some l →
      ∃ owner below, Owns l.path owner below ∧
        (discoverUnit (.ok (cgroupContent ls))).2 = some owner := by
  intro h
  let l := unifiedLine "/system.slice/web.service/db.service" (by decide)
  have hline : unitLine [l] = some l := List.find?_cons_of_pos (by decide +kernel)
  have howns : Owns l.path "web.service" ["db.service"] :=
    ⟨["", "system.slice"], by decide +kernel, by decide +kernel, by decide +kernel⟩
  obtain ⟨owner, below, howns', hname⟩ := h [l] l hline
  obtain ⟨rfl, rfl⟩ := howns.unique howns'
  rw [unitname_of_unitLine hline, lastRead_of_owns (by decide +kernel) howns'] at hname
  exact absurd hname (by decide)

end AuthnScope
