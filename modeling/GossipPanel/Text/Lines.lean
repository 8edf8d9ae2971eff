/-!
# Cutting texts at a character

* `splitOn sep` cuts at every `sep`; there is always at least one piece.
* `lines` are the pieces between line feeds, without the carriage return before a line feed and
  without an empty last piece.
* `splitAtLast?` cuts at the last `sep` only.
-/

namespace GossipPanel.Text

/-- The pieces of a text between the characters `sep`. -/
def splitOn (sep : Char) : List Char → List (List Char)
  | [] => [[]]
  | c :: cs =>
    if c = sep then [] :: splitOn sep cs
    else
      match splitOn sep cs with
      | [] => [[c]]
      | piece :: pieces => (c :: piece) :: pieces

/-- A text without one carriage return at its end. -/
def dropReturn : List Char → List Char
  | [] => []
  | [c] => if c = '\r' then [] else [c]
  | c :: cs => c :: dropReturn cs

/-- The lines of a text; a line ends with a line feed, which a carriage return may precede. -/
def lines (cs : List Char) : List (List Char) :=
  match (splitOn '\n' cs).reverse with
  | [] => []
  | last :: ended =>
    (ended.reverse.map dropReturn) ++ (if last.isEmpty then [] else [last])

/-- The texts before and after the last `sep`. -/
def splitAtLast? (sep : Char) : List Char → Option (List Char × List Char)
  | [] => none
  | c :: cs =>
    match splitAtLast? sep cs with
    | some (before, after) => some (c :: before, after)
    | none => if c = sep then some ([], cs) else none

/-- The text after `start`, if it begins with it. -/
def dropPrefix? (start : List Char) (cs : List Char) : Option (List Char) :=
  match start, cs with
  | [], cs => some cs
  | _ :: _, [] => none
  | s :: ss, c :: cs => if s = c then dropPrefix? ss cs else none

/-! ## Pieces -/

theorem splitOn_ne_nil (sep : Char) (cs : List Char) : splitOn sep cs ≠ [] := by
  cases cs with
  | nil => simp [splitOn]
  | cons c cs =>
    rw [splitOn]
    split
    · simp
    · split <;> simp

theorem splitOn_eq (sep : Char) (cs : List Char) : splitOn sep cs = cs.splitOn sep := by
  induction cs with
  | nil => rfl
  | cons c cs ih =>
    rw [splitOn, List.splitOn_cons_eq_if_modifyHead, ih]
    by_cases hc : c = sep
    · simp [hc]
    · cases hpieces : cs.splitOn sep with
      | nil => exact absurd hpieces (List.splitOn_ne_nil sep cs)
      | cons piece pieces => simp [hc]

theorem exists_of_splitOn_eq_append {sep : Char} {cs : List Char} {ps qs : List (List Char)}
    (h : splitOn sep cs = ps ++ qs) (hps : ps ≠ []) (hqs : qs ≠ []) :
    ∃ as bs, cs = as ++ sep :: bs ∧ splitOn sep as = ps ∧ splitOn sep bs = qs := by
  induction cs generalizing ps with
  | nil =>
    have hlength := congrArg List.length h
    have hp := List.length_pos_iff.2 hps
    have hq := List.length_pos_iff.2 hqs
    rw [splitOn, List.length_singleton, List.length_append] at hlength
    omega
  | cons c cs ih =>
    obtain ⟨p, ps, rfl⟩ := List.exists_cons_of_ne_nil hps
    by_cases hc : c = sep
    · rw [splitOn, if_pos hc, List.cons_append, List.cons.injEq] at h
      obtain ⟨rfl, hrest⟩ := h
      cases ps with
      | nil => exact ⟨[], cs, by rw [hc, List.nil_append], rfl, by simpa using hrest⟩
      | cons q ps =>
        obtain ⟨as, bs, rfl, has, hbs⟩ := ih hrest (by simp)
        exact ⟨c :: as, bs, rfl, by rw [splitOn, if_pos hc, has], hbs⟩
    · rw [splitOn, if_neg hc] at h
      cases hpieces : splitOn sep cs with
      | nil => exact absurd hpieces (splitOn_ne_nil sep cs)
      | cons piece pieces =>
        rw [hpieces, List.cons_append, List.cons.injEq] at h
        obtain ⟨rfl, hrest⟩ := h
        have hshorter : splitOn sep cs = (piece :: ps) ++ qs := by
          rw [hpieces, hrest, List.cons_append]
        obtain ⟨as, bs, rfl, has, hbs⟩ := ih hshorter (by simp)
        exact ⟨c :: as, bs, rfl, by rw [splitOn, if_neg hc, has], hbs⟩

theorem flatten_splitOn (sep : Char) (cs : List Char) :
    (splitOn sep cs).flatten = cs.filter (· != sep) := by
  induction cs with
  | nil => rfl
  | cons c cs ih =>
    rw [splitOn]
    by_cases hc : c = sep
    · simp [hc, ih]
    · rw [if_neg hc, List.filter_cons_of_pos (by simpa using hc), ← ih]
      cases splitOn sep cs <;> rfl

theorem splitAtLast?_eq_none_iff {sep : Char} {cs : List Char} :
    splitAtLast? sep cs = none ↔ sep ∉ cs := by
  induction cs with
  | nil => simp [splitAtLast?]
  | cons c cs ih =>
    rw [splitAtLast?, List.mem_cons, not_or, ← ih, eq_comm (a := sep)]
    cases splitAtLast? sep cs <;> simp

theorem splitAtLast?_eq_some_iff {sep : Char} {cs before after : List Char} :
    splitAtLast? sep cs = some (before, after) ↔ cs = before ++ sep :: after ∧ sep ∉ after := by
  constructor
  · intro h
    induction cs generalizing before with
    | nil => cases h
    | cons c cs ih =>
      rw [splitAtLast?] at h
      split at h
      · next front rest hrest =>
        cases h
        obtain ⟨hcs, hafter⟩ := ih hrest
        exact ⟨congrArg (c :: ·) hcs, hafter⟩
      · next hnone =>
        split at h
        · next hc =>
          cases h
          exact ⟨by rw [hc, List.nil_append], splitAtLast?_eq_none_iff.1 hnone⟩
        · cases h
  · rintro ⟨rfl, hafter⟩
    induction before with
    | nil => simp [splitAtLast?, splitAtLast?_eq_none_iff.2 hafter]
    | cons c before ih => simp [splitAtLast?, ih]

theorem not_mem_of_mem_splitOn {sep : Char} {cs p : List Char} (h : p ∈ splitOn sep cs) :
    sep ∉ p := by
  induction cs generalizing p with
  | nil => simp_all [splitOn]
  | cons c cs ih =>
    rw [splitOn] at h
    split at h
    · rcases List.mem_cons.1 h with rfl | h
      · simp
      · exact ih h
    · rename_i hc
      split at h
      · rename_i hnil
        exact absurd hnil (splitOn_ne_nil sep cs)
      · rename_i q qs hq
        rcases List.mem_cons.1 h with rfl | h
        · simp [ih (by simp [hq] : q ∈ splitOn sep cs), Ne.symm hc]
        · exact ih (by simp [hq, h])

theorem splitOn_of_not_mem {sep : Char} {cs : List Char} (h : sep ∉ cs) : splitOn sep cs = [cs] := by
  rw [splitOn_eq, List.splitOn_eq_singleton h]

theorem splitOn_append (sep : Char) (as bs : List Char) :
    splitOn sep (as ++ sep :: bs) = splitOn sep as ++ splitOn sep bs := by
  simp only [splitOn_eq, List.splitOn_append_cons_self]

theorem splitOn_concat {sep c : Char} (h : c ≠ sep) (cs : List Char) :
    ∃ pieces last, splitOn sep cs = pieces ++ [last] ∧
      splitOn sep (cs ++ [c]) = pieces ++ [last ++ [c]] := by
  induction cs with
  | nil => exact ⟨[], [], rfl, by simp [splitOn, h]⟩
  | cons d cs ih =>
    obtain ⟨pieces, last, hold, hnew⟩ := ih
    rw [List.cons_append, splitOn, splitOn, hold, hnew]
    split
    · exact ⟨[] :: pieces, last, rfl, rfl⟩
    · cases pieces with
      | nil => exact ⟨[], d :: last, rfl, rfl⟩
      | cons piece pieces => exact ⟨(d :: piece) :: pieces, last, rfl, rfl⟩

theorem splitOn_eq_singleton_nil_iff {sep : Char} {cs : List Char} :
    splitOn sep cs = [[]] ↔ cs = [] := by
  refine ⟨fun h => ?_, fun h => by rw [h, splitOn]⟩
  cases cs with
  | nil => rfl
  | cons c cs =>
    rw [splitOn] at h
    split at h
    · exact absurd (List.cons.inj h).2 (splitOn_ne_nil sep cs)
    · split at h
      · cases h
      · cases h

theorem mem_of_mem_splitOn {sep c : Char} {cs p : List Char} (hp : p ∈ splitOn sep cs)
    (hc : c ∈ p) : c ∈ cs := by
  have hmem : c ∈ (splitOn sep cs).flatten := List.mem_flatten.2 ⟨p, hp, hc⟩
  rw [flatten_splitOn] at hmem
  exact (List.mem_filter.1 hmem).1

theorem dropReturn_of_not_mem {cs : List Char} (h : '\r' ∉ cs) : dropReturn cs = cs := by
  fun_induction dropReturn cs with
  | case1 => rfl
  | case2 => simp at h
  | case3 => rfl
  | case4 c cs _ ih => rw [ih fun hmem => h (List.mem_cons_of_mem c hmem)]

/-- The lines of a text without carriage returns that does not end with a line feed are its pieces
between line feeds. -/
theorem lines_eq_splitOn {cs : List Char} (hne : cs ≠ []) (hlast : cs.getLast? ≠ some '\n')
    (hreturn : '\r' ∉ cs) : lines cs = splitOn '\n' cs := by
  obtain ⟨ended, last, hpieces⟩ : ∃ ended last, splitOn '\n' cs = ended ++ [last] :=
    ⟨_, _, (List.dropLast_concat_getLast (splitOn_ne_nil '\n' cs)).symm⟩
  have hlast_ne : last ≠ [] := by
    rintro rfl
    cases ended with
    | nil => exact hne (splitOn_eq_singleton_nil_iff.1 hpieces)
    | cons p ended =>
      obtain ⟨as, bs, hcs, -, hbs⟩ :=
        exists_of_splitOn_eq_append hpieces (List.cons_ne_nil p ended) (List.cons_ne_nil [] [])
      rw [splitOn_eq_singleton_nil_iff.1 hbs] at hcs
      exact hlast (by rw [hcs, List.getLast?_concat])
  have hended : ended.map dropReturn = ended := by
    refine (List.map_congr_left fun p hp => ?_).trans (List.map_id ended)
    have hp : p ∈ splitOn '\n' cs := by
      rw [hpieces]
      exact List.mem_append_left _ hp
    exact dropReturn_of_not_mem fun hr => hreturn (mem_of_mem_splitOn hp hr)
  rw [lines, hpieces, List.reverse_append]
  simp [hended, hlast_ne]

theorem dropPrefix?_eq_some_iff {start cs rest : List Char} :
    dropPrefix? start cs = some rest ↔ cs = start ++ rest := by
  induction start generalizing cs with
  | nil => simp [dropPrefix?]
  | cons s ss ih =>
    cases cs with
    | nil => simp [dropPrefix?]
    | cons c cs =>
      by_cases h : s = c
      · simp [dropPrefix?, h, ih]
      · simp [dropPrefix?, h, Ne.symm h]

end GossipPanel.Text
