/-!
# White space

* `isBlank` is the Unicode property `White_Space`.
* `trim`, `trimStart`, `trimEnd` remove blanks at the ends of a text.
* `words` are the maximal runs of characters that are not blank.
-/

namespace GossipPanel.Text

/-- A character with the Unicode property `White_Space`. -/
def isBlank (c : Char) : Bool :=
  let n := c.toNat
  (9 ≤ n && n ≤ 13) || n == 0x20 || n == 0x85 || n == 0xA0 || n == 0x1680 ||
    (0x2000 ≤ n && n ≤ 0x200A) || n == 0x2028 || n == 0x2029 || n == 0x202F || n == 0x205F ||
    n == 0x3000

/-- The text from its first character that is not blank. -/
def trimStart (cs : List Char) : List Char :=
  cs.dropWhile isBlank

/-- The text up to its last character that is not blank. -/
def trimEnd : List Char → List Char
  | [] => []
  | c :: cs =>
    match trimEnd cs with
    | [] => if isBlank c then [] else [c]
    | rest => c :: rest

/-- The text without the blanks at both ends. -/
def trim (cs : List Char) : List Char :=
  trimEnd (trimStart cs)

/-- The string without the blanks at both ends. -/
def trimmed (s : String) : String :=
  String.ofList (trim s.toList)

/-- Every character is blank. -/
def allBlank (s : String) : Bool :=
  s.toList.all isBlank

/-- The maximal runs of characters that are not blank, in order. -/
def words : List Char → List (List Char)
  | [] => []
  | c :: cs =>
    if isBlank c then words cs
    else if cs.head?.all isBlank then [c] :: words cs
    else
      match words cs with
      | [] => [[c]]
      | w :: ws => (c :: w) :: ws

/-! ## Trimming -/

theorem trimEnd_eq_nil_iff {cs : List Char} : trimEnd cs = [] ↔ ∀ c ∈ cs, isBlank c = true := by
  induction cs with
  | nil => simp [trimEnd]
  | cons c cs ih =>
    cases h : trimEnd cs with
    | nil =>
      have := ih.1 h
      by_cases hc : isBlank c <;> simp_all [trimEnd]
    | cons d ds =>
      have hne : ¬ ∀ c ∈ cs, isBlank c = true := fun hall => by simp [ih.2 hall] at h
      simp only [trimEnd, h, List.mem_cons, forall_eq_or_imp]
      exact ⟨fun hf => by simp at hf, fun hf => absurd hf.2 hne⟩

theorem isBlank_head?_trimStart {cs : List Char} :
    ∀ c ∈ (trimStart cs).head?, isBlank c = false := by
  intro c hc
  have h := List.head?_dropWhile_not isBlank cs
  rw [trimStart] at hc
  rw [Option.mem_def.1 hc] at h
  exact h

theorem head?_trimEnd {cs : List Char} (h : ∀ c ∈ cs.head?, isBlank c = false) :
    (trimEnd cs).head? = cs.head? := by
  cases cs with
  | nil => rfl
  | cons c cs =>
    have hc : isBlank c = false := h c rfl
    rw [trimEnd]
    cases trimEnd cs <;> simp [hc]

theorem isBlank_getLast?_trimEnd {cs : List Char} :
    ∀ c ∈ (trimEnd cs).getLast?, isBlank c = false := by
  induction cs with
  | nil => nofun
  | cons c cs ih =>
    rw [trimEnd]
    cases hrest : trimEnd cs with
    | nil =>
      cases hc : isBlank c with
      | true => nofun
      | false => simp [hc]
    | cons d ds =>
      rw [hrest] at ih
      simpa [List.getLast?_cons_cons] using ih

theorem isBlank_ends_trim (cs : List Char) :
    (∀ c ∈ (trim cs).head?, isBlank c = false) ∧
      ∀ c ∈ (trim cs).getLast?, isBlank c = false := by
  constructor
  · rw [trim, head?_trimEnd isBlank_head?_trimStart]
    exact isBlank_head?_trimStart
  · exact isBlank_getLast?_trimEnd

theorem trimEnd_prefix_append (as bs : List Char) : trimEnd as <+: trimEnd (as ++ bs) := by
  induction as with
  | nil => exact List.nil_prefix
  | cons c as ih =>
    rw [List.cons_append, trimEnd, trimEnd]
    cases hshort : trimEnd as with
    | nil =>
      cases hc : isBlank c with
      | true => exact List.nil_prefix
      | false => cases trimEnd (as ++ bs) <;> simp
    | cons d ds =>
      obtain ⟨rest, hrest⟩ := ih
      rw [← hrest, hshort]
      exact ⟨rest, rfl⟩

theorem trim_prefix_append {as : List Char} (h : trim as ≠ []) (bs : List Char) :
    trim as <+: trim (as ++ bs) := by
  have hstart : trimStart as ≠ [] := fun hnil => h (by rw [trim, hnil, trimEnd])
  have happend : trimStart (as ++ bs) = trimStart as ++ bs := by
    rw [trimStart, List.dropWhile_append, if_neg (by simpa [trimStart] using hstart), ← trimStart]
  rw [trim, trim, happend]
  exact trimEnd_prefix_append _ _

theorem trim_of_ends {cs : List Char} (hhead : ∀ c ∈ cs.head?, isBlank c = false)
    (hlast : ∀ c ∈ cs.getLast?, isBlank c = false) : trim cs = cs := by
  have hstart : trimStart cs = cs := by
    cases cs with
    | nil => rfl
    | cons c cs => rw [trimStart, List.dropWhile_cons_of_neg (by simp [hhead c rfl])]
  rw [trim, hstart]
  clear hhead hstart
  induction cs with
  | nil => rfl
  | cons c cs ih =>
    cases cs with
    | nil => simp [trimEnd, hlast c rfl]
    | cons d cs => rw [trimEnd, ih (by simpa [List.getLast?_cons_cons] using hlast)]

end GossipPanel.Text
