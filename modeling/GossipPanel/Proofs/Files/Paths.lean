import GossipPanel.Work.Files

/-!
# The components of a path

What stands between the separators of a path is said without cutting the path.

* `ComponentAt`, `IsComponent`: a text that stands between separators or the ends of a path.
* `IsLastComponent`: the last component that counts, which is neither empty nor a single dot.
* `safeFileName?_eq_some_iff`, `safeFileName?_eq_none_iff`: the name under which a file is saved is
  this last component, and there is none only if it leads up or nothing counts.
* `leadingNames_joinPath`, `resolve_joinPath`: such a name leads right below its directory, as a
  path and in every tree of files.
-/

namespace GossipPanel.Node

open Text

/-- `part` stands behind `before` and in front of `after`, between separators or the ends of the
path. -/
structure ComponentAt (path before part after : String) : Prop where
  path_eq : path = before ++ part ++ after
  whole : '/' ∉ part.toList
  opens : before = "" ∨ ∃ front, before = front ++ "/"
  closes : after = "" ∨ ∃ rest, after = "/" ++ rest

def IsComponent (path part : String) : Prop :=
  ∃ before after, ComponentAt path before part after

/-- A component that is not skipped on the way along a path. -/
def Counts (part : String) : Prop :=
  part ≠ "" ∧ part ≠ "."

/-- A component that names a file or a directory. -/
def IsNormal (part : String) : Prop :=
  part ≠ "" ∧ part ≠ "." ∧ part ≠ ".."

/-- `part` is the last component of the path that counts. -/
def IsLastComponent (path part : String) : Prop :=
  ∃ before after, ComponentAt path before part after ∧ Counts part ∧
    ∀ other, IsComponent after other → ¬Counts other

/-! ## Cutting a path -/

/-- The texts between the separators of a path. -/
def parts (path : String) : List String :=
  (splitOn '/' path.toList).map String.ofList

theorem parts_append (front rest : String) :
    parts (front ++ "/" ++ rest) = parts front ++ parts rest := by
  have hlist : (front ++ "/" ++ rest).toList = front.toList ++ '/' :: rest.toList := by
    simp [String.toList_append]
  rw [parts, hlist, splitOn_eq, List.splitOn_append_cons_self, List.map_append, ← splitOn_eq,
    ← splitOn_eq]
  rfl

theorem parts_of_not_mem {part : String} (h : '/' ∉ part.toList) : parts part = [part] := by
  rw [parts, splitOn_eq, List.splitOn_eq_singleton h, List.map_singleton, String.ofList_toList]

theorem not_mem_of_mem_parts {path part : String} (h : part ∈ parts path) :
    '/' ∉ part.toList := by
  obtain ⟨cs, hcs, rfl⟩ := List.mem_map.1 h
  rw [String.toList_ofList]
  exact not_mem_of_mem_splitOn hcs

theorem eq_of_parts_eq_singleton {path part : String} (h : parts path = [part]) :
    path = part := by
  obtain ⟨cs, hcs, rfl⟩ := List.map_eq_singleton_iff.1 h
  have hpath : ['/'].intercalate (path.toList.splitOn '/') = path.toList :=
    List.intercalate_splitOn '/'
  rw [← splitOn_eq, hcs] at hpath
  rw [← String.ofList_toList (s := path), ← hpath]
  simp

theorem exists_of_parts_eq_append {path : String} {ps qs : List String}
    (h : parts path = ps ++ qs) (hps : ps ≠ []) (hqs : qs ≠ []) :
    ∃ front rest, path = front ++ "/" ++ rest ∧ parts front = ps ∧ parts rest = qs := by
  obtain ⟨ps, qs, hpieces, rfl, rfl⟩ := List.map_eq_append_iff.1 h
  obtain ⟨as, bs, hpath, rfl, rfl⟩ :=
    exists_of_splitOn_eq_append hpieces (by simpa using hps) (by simpa using hqs)
  refine ⟨String.ofList as, String.ofList bs, ?_, ?_, ?_⟩
  · rw [← String.toList_inj, hpath]
    simp [String.toList_append]
  · rw [parts, String.toList_ofList]
  · rw [parts, String.toList_ofList]

/-- What a part is followed by. -/
def Follows (after : String) (qs : List String) : Prop :=
  after = "" ∧ qs = [] ∨ ∃ rest, after = "/" ++ rest ∧ parts rest = qs

theorem ComponentAt.parts_eq {path before part after : String}
    (h : ComponentAt path before part after) :
    ∃ ps qs, parts path = ps ++ part :: qs ∧ Follows after qs := by
  obtain ⟨rfl, hwhole, hopens, hcloses⟩ := h
  have hfront : ∃ ps, parts (before ++ part) = ps ++ [part] := by
    obtain rfl | ⟨front, rfl⟩ := hopens
    · exact ⟨[], by rw [String.empty_append, parts_of_not_mem hwhole, List.nil_append]⟩
    · exact ⟨parts front, by rw [parts_append, parts_of_not_mem hwhole]⟩
  obtain ⟨ps, hps⟩ := hfront
  obtain rfl | ⟨rest, rfl⟩ := hcloses
  · exact ⟨ps, [], by rw [String.append_empty, hps], .inl ⟨rfl, rfl⟩⟩
  · refine ⟨ps, parts rest, ?_, .inr ⟨rest, rfl, rfl⟩⟩
    rw [← String.append_assoc, parts_append, hps, List.append_assoc, List.singleton_append]

theorem exists_componentAt {path part : String} {ps qs : List String}
    (h : parts path = ps ++ part :: qs) :
    ∃ before after, ComponentAt path before part after ∧ Follows after qs := by
  have hmem : part ∈ parts path := by simp [h]
  have hwhole : '/' ∉ part.toList := not_mem_of_mem_parts hmem
  -- the path up to the end of the part, and what follows
  have hcut : ∃ front after, path = front ++ after ∧ parts front = ps ++ [part] ∧
      Follows after qs := by
    cases qs with
    | nil => exact ⟨path, "", String.append_empty.symm, h, .inl ⟨rfl, rfl⟩⟩
    | cons q qs =>
      have hparts : parts path = (ps ++ [part]) ++ (q :: qs) := by
        rw [h, List.append_assoc, List.singleton_append]
      obtain ⟨front, rest, rfl, hfront, hrest⟩ :=
        exists_of_parts_eq_append hparts (by simp) (by simp)
      exact ⟨front, "/" ++ rest, String.append_assoc .., hfront, .inr ⟨rest, rfl, hrest⟩⟩
  obtain ⟨front, after, rfl, hfront, hafter⟩ := hcut
  have hcloses : after = "" ∨ ∃ rest, after = "/" ++ rest :=
    hafter.imp And.left fun ⟨rest, hrest, _⟩ => ⟨rest, hrest⟩
  cases ps with
  | nil =>
    obtain rfl := eq_of_parts_eq_singleton hfront
    exact ⟨"", after, ⟨by rw [String.empty_append], hwhole, .inl rfl, hcloses⟩, hafter⟩
  | cons p ps =>
    obtain ⟨before, last, rfl, -, hlast⟩ :=
      exists_of_parts_eq_append hfront (by simp) (by simp)
    obtain rfl := eq_of_parts_eq_singleton hlast
    exact ⟨before ++ "/", after, ⟨rfl, hwhole, .inr ⟨before, rfl⟩, hcloses⟩, hafter⟩

theorem isComponent_iff {path part : String} : IsComponent path part ↔ part ∈ parts path := by
  constructor
  · rintro ⟨before, after, h⟩
    obtain ⟨ps, qs, hparts, -⟩ := h.parts_eq
    simp [hparts]
  · intro h
    obtain ⟨ps, qs, hparts⟩ := List.append_of_mem h
    obtain ⟨before, after, hpart, -⟩ := exists_componentAt hparts
    exact ⟨before, after, hpart⟩

theorem Follows.forall_not_counts_iff {after : String} {qs : List String} (h : Follows after qs) :
    (∀ other, IsComponent after other → ¬Counts other) ↔ ∀ other ∈ qs, ¬Counts other := by
  simp only [isComponent_iff]
  obtain ⟨rfl, rfl⟩ | ⟨rest, rfl, rfl⟩ := h
  · simp [parts_of_not_mem, Counts]
  · have hparts : parts ("/" ++ rest) = "" :: parts rest := by
      rw [← String.empty_append (s := "/"), parts_append, parts_of_not_mem (by simp),
        List.singleton_append]
    simp [hparts, Counts]

/-! ## The last component -/

theorem pathComponents_eq (path : String) :
    pathComponents path = (parts path).filter fun part => part != "" && part != "." := rfl

theorem counts_iff {part : String} : (part != "" && part != ".") = true ↔ Counts part := by
  simp [Counts]

theorem not_counts_iff {part : String} :
    (!(part != "" && part != ".")) = true ↔ ¬Counts part := by
  rw [← counts_iff, Bool.not_eq_true', Bool.not_eq_true]

theorem isLastComponent_iff {path part : String} :
    IsLastComponent path part ↔ (pathComponents path).getLast? = some part := by
  rw [pathComponents_eq, List.getLast?_filter, List.find?_eq_some_iff_append, counts_iff]
  constructor
  · rintro ⟨before, after, hpart, hcounts, hafter⟩
    obtain ⟨ps, qs, hparts, hfollows⟩ := hpart.parts_eq
    refine ⟨hcounts, qs.reverse, ps.reverse, by simp [hparts], fun other hother => ?_⟩
    have hqs := hfollows.forall_not_counts_iff.1 hafter
    exact not_counts_iff.2 (hqs other (List.mem_reverse.1 hother))
  · rintro ⟨hcounts, qs, ps, hparts, hqs⟩
    have hparts : parts path = ps.reverse ++ part :: qs.reverse := by
      simpa using congrArg List.reverse hparts
    obtain ⟨before, after, hpart, hfollows⟩ := exists_componentAt hparts
    refine ⟨before, after, hpart, hcounts, hfollows.forall_not_counts_iff.2 fun other hother => ?_⟩
    exact not_counts_iff.1 (hqs other (List.mem_reverse.1 hother))

theorem safeFileName?_eq_some_iff {name n : String} :
    safeFileName? name = some n ↔ IsLastComponent name n ∧ n ≠ ".." := by
  rw [safeFileName?, fileName?, Option.filter_eq_some_iff, ← isLastComponent_iff]
  simp

theorem safeFileName?_eq_none_iff {name : String} :
    safeFileName? name = none ↔
      IsLastComponent name ".." ∨ ∀ part, IsComponent name part → ¬IsNormal part := by
  constructor
  · intro h
    cases hlast : (pathComponents name).getLast? with
    | none =>
      refine .inr fun part hpart hnormal => ?_
      have hnone : pathComponents name = [] := List.getLast?_eq_none_iff.1 hlast
      have hmem : part ∈ pathComponents name :=
        List.mem_filter.2 ⟨isComponent_iff.1 hpart, counts_iff.2 ⟨hnormal.1, hnormal.2.1⟩⟩
      simp [hnone] at hmem
    | some part =>
      rw [safeFileName?, fileName?, hlast] at h
      have hup : part = ".." := by simpa [Option.filter] using h
      exact .inl (isLastComponent_iff.2 (hup ▸ hlast))
  · rintro (hup | hnone)
    · rw [safeFileName?, fileName?, isLastComponent_iff.1 hup]
      rfl
    · rw [Option.eq_none_iff_forall_ne_some]
      intro n hn
      obtain ⟨⟨before, after, hpart, hcounts, -⟩, hne⟩ := safeFileName?_eq_some_iff.1 hn
      exact hnone n ⟨before, after, hpart⟩ ⟨hcounts.1, hcounts.2, hne⟩

theorem safeFileName?_of_isNormal {n : String} (hwhole : '/' ∉ n.toList) (hn : IsNormal n) :
    safeFileName? n = some n := by
  have hparts := parts_of_not_mem hwhole
  have hcounts := counts_iff.2 ⟨hn.1, hn.2.1⟩
  simp [safeFileName?, fileName?, pathComponents_eq, hparts, hcounts, hn.2.2]

theorem isNormal_of_safeFileName? {name n : String} (h : safeFileName? name = some n) :
    '/' ∉ n.toList ∧ IsNormal n := by
  obtain ⟨⟨before, after, hpart, hcounts, -⟩, hne⟩ := safeFileName?_eq_some_iff.1 h
  exact ⟨hpart.whole, hcounts.1, hcounts.2, hne⟩

end GossipPanel.Node

namespace GossipPanel.Work

open Node Text

/-! ## A name below a directory -/

variable {directory n : String}

theorem isAbsolute_of_not_mem (hwhole : '/' ∉ n.toList) : isAbsolute n = false := by
  rw [isAbsolute, String.startsWith_char_eq_head?, beq_eq_false_iff_ne]
  exact fun h => hwhole (List.mem_of_mem_head? h)

/-- The path of a name below a directory: a separator stands between them, unless the directory
has one at its end or is the one that paths start from. -/
theorem joinPath_cases (hwhole : '/' ∉ n.toList) (directory : String) :
    (directory = "" ∧ joinPath directory n = n) ∨
      (∃ above, directory = above ++ "/" ∧ joinPath directory n = above ++ "/" ++ n) ∨
      (directory ≠ "" ∧ joinPath directory n = directory ++ "/" ++ n) := by
  rw [joinPath, if_neg (by simp [isAbsolute_of_not_mem hwhole])]
  by_cases hempty : directory = ""
  · exact .inl ⟨hempty, by simp [hempty]⟩
  · cases hend : directory.endsWith '/' with
    | true =>
      obtain ⟨above, habove⟩ := String.endsWith_char_iff_exists_append.1 hend
      have hslash : String.singleton '/' = "/" := rfl
      rw [hslash] at habove
      exact .inr (.inl ⟨above, habove, by simp [habove]⟩)
    | false => exact .inr (.inr ⟨hempty, by simp [hempty]⟩)

theorem parts_joinPath (hwhole : '/' ∉ n.toList) (directory : String) :
    ∃ way, parts (joinPath directory n) = way ++ [n] ∧
      (parts directory = way ∨ parts directory = way ++ [""]) := by
  have hn : parts n = [n] := parts_of_not_mem hwhole
  have hnothing : parts "" = [""] := parts_of_not_mem (by simp)
  obtain ⟨rfl, hjoin⟩ | ⟨above, rfl, hjoin⟩ | ⟨-, hjoin⟩ := joinPath_cases hwhole directory
  · exact ⟨[], by rw [hjoin, hn, List.nil_append], .inr hnothing⟩
  · have hdirectory : parts (above ++ "/" ++ "") = parts above ++ [""] := by
      rw [parts_append, hnothing]
    rw [String.append_empty] at hdirectory
    exact ⟨parts above, by rw [hjoin, parts_append, hn], .inr hdirectory⟩
  · exact ⟨parts directory, by rw [hjoin, parts_append, hn], .inl rfl⟩

theorem names_joinPath (hwhole : '/' ∉ n.toList) (hne : n ≠ "") (directory : String) :
    names (joinPath directory n) = names directory ++ [n] := by
  have hnames : ∀ path, names path = (parts path).filter (· != "") := fun _ => rfl
  obtain ⟨way, hjoin, hdirectory | hdirectory⟩ := parts_joinPath hwhole directory
  · simp [hnames, hjoin, hdirectory, hne]
  · simp [hnames, hjoin, hdirectory, hne]

theorem isAbsolute_joinPath (hwhole : '/' ∉ n.toList) (directory : String) :
    isAbsolute (joinPath directory n) = isAbsolute directory := by
  obtain ⟨rfl, hjoin⟩ | ⟨above, rfl, hjoin⟩ | ⟨hne, hjoin⟩ := joinPath_cases hwhole directory
  · rw [hjoin, isAbsolute_of_not_mem hwhole, isAbsolute_of_not_mem (by simp)]
  · simp [hjoin, isAbsolute, String.startsWith_char_eq_head?, List.head?_append]
  · obtain ⟨c, cs, hcs⟩ : ∃ c cs, directory.toList = c :: cs :=
      List.exists_cons_of_ne_nil (by simpa using hne)
    simp [hjoin, isAbsolute, String.startsWith_char_eq_head?, hcs]

theorem leadingNames_joinPath (hwhole : '/' ∉ n.toList) (hn : IsNormal n) (directory : String) :
    leadingNames (joinPath directory n) = leadingNames directory ++ [n] := by
  rw [leadingNames, leadingNames, names_joinPath hwhole hn.1, isAbsolute_joinPath hwhole]
  cases names directory with
  | nil => simp [hn.2.1]
  | cons first more => simp [List.filter_append, hn.2.1]

namespace Files

variable {fs : Files} {place above : Place}

theorem step_eq_ok_of_isNormal (hn : IsNormal n) (h : fs.step above n = .ok place) :
    fs.find? above = some .directory ∧ place = above ++ [n] := by
  rw [step] at h
  split at h
  · cases h
  · cases h
  · next hfind =>
    rw [if_neg (by simp [hn.1, hn.2.1]), if_neg hn.2.2] at h
    split at h
    · cases h
    · exact ⟨hfind, (Except.ok.inj h).symm⟩

theorem step_nothing (hfind : fs.find? above = some .directory) :
    fs.step above "" = .ok above := by
  rw [step, hfind]
  rfl

theorem checkPath_eq_ok_iff {path : String} :
    checkPath path = .ok () ↔ '\x00' ∉ path.toList ∧ path.utf8ByteSize ≤ maxPathBytes := by
  rw [checkPath]
  split
  · next hnul => simpa using fun h => absurd hnul (by simpa using h)
  · next hnul =>
    split
    · next hlong => simp [hlong]
    · next hlong => exact ⟨fun _ => ⟨by simpa using hnul, Nat.le_of_not_lt hlong⟩, fun _ => rfl⟩

theorem checkPath_of_append {front rest : String} (h : checkPath (front ++ rest) = .ok ()) :
    checkPath front = .ok () := by
  rw [checkPath_eq_ok_iff, String.toList_append, String.utf8ByteSize_append] at h
  exact checkPath_eq_ok_iff.2 ⟨fun hnul => h.1 (List.mem_append_left _ hnul), by omega⟩

theorem resolve_eq_ok_iff {path : String} :
    fs.resolve path = .ok place ↔
      checkPath path = .ok () ∧ (parts path).foldlM fs.step (startOf path) = .ok place := by
  have hresolve : fs.resolve path =
      checkPath path >>= fun _ => (parts path).foldlM fs.step (startOf path) := rfl
  rw [hresolve]
  cases checkPath path with
  | error e => simp [bind, Except.bind]
  | ok done => simp [bind, Except.bind]

theorem foldlM_concat_eq_ok_iff {names : List String} {name : String} {start : Place} :
    (names ++ [name]).foldlM fs.step start = .ok place ↔
      ∃ above, names.foldlM fs.step start = .ok above ∧ fs.step above name = .ok place := by
  rw [List.foldlM_append]
  cases names.foldlM fs.step start with
  | error e => simp [bind, Except.bind]
  | ok above =>
    have hlast : [name].foldlM fs.step above = fs.step above name := by simp
    simp only [bind, Except.bind, hlast, Except.ok.injEq, exists_eq_left']

/-- In every tree of files a name below a directory leads to a place right below that of the
directory. -/
theorem resolve_joinPath (hwhole : '/' ∉ n.toList) (hn : IsNormal n)
    (h : fs.resolve (joinPath directory n) = .ok place) :
    ∃ above, fs.resolve directory = .ok above ∧ fs.find? above = some .directory ∧
      place = above ++ [n] := by
  have hstart : startOf (joinPath directory n) = startOf directory := by
    rw [startOf, startOf, isAbsolute_joinPath hwhole]
  obtain ⟨hcheck, hway⟩ := resolve_eq_ok_iff.1 h
  have hcheck' : checkPath directory = .ok () := by
    obtain ⟨gap, hjoin⟩ : ∃ gap, joinPath directory n = directory ++ gap := by
      obtain ⟨rfl, hjoin⟩ | ⟨path, rfl, hjoin⟩ | ⟨-, hjoin⟩ := joinPath_cases hwhole directory
      · exact ⟨n, by rw [hjoin, String.empty_append]⟩
      · exact ⟨n, hjoin⟩
      · exact ⟨"/" ++ n, by rw [hjoin, String.append_assoc]⟩
    exact checkPath_of_append (hjoin ▸ hcheck)
  obtain ⟨way, hparts, hdirectory⟩ := parts_joinPath hwhole directory
  rw [hstart, hparts, foldlM_concat_eq_ok_iff] at hway
  obtain ⟨above, habove, hstep⟩ := hway
  obtain ⟨hfind, rfl⟩ := step_eq_ok_of_isNormal hn hstep
  refine ⟨above, resolve_eq_ok_iff.2 ⟨hcheck', ?_⟩, hfind, rfl⟩
  obtain hdirectory | hdirectory := hdirectory
  · rw [hdirectory, habove]
  · -- a separator at the end of the path of a directory leads no further
    rw [hdirectory, foldlM_concat_eq_ok_iff]
    exact ⟨above, habove, step_nothing hfind⟩

end Files

end GossipPanel.Work
