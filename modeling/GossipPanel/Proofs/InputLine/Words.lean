import GossipPanel.Text.Blank
import Mathlib.Data.List.Basic
import Mathlib.Data.List.TakeWhile

/-!
# Words and the blanks between them

How a text divides into words is said without saying how the words are found.

* `Arguments`: a text that consists of words, each behind a gap, and of blanks at its end.
* `WholeArgument`: a text that encloses another one, which may hold blanks itself, in blanks.
* `arguments_iff`, `wholeArgument_iff`: what `words` and `trim` find is what a text behind a gap
  consists of.
-/

namespace GossipPanel.Text

/-- Blanks, or nothing. -/
def IsBlanks (cs : List Char) : Prop :=
  ∀ c ∈ cs, isBlank c = true

/-- One blank or more. -/
def IsGap (cs : List Char) : Prop :=
  cs ≠ [] ∧ IsBlanks cs

/-- One character or more, and no blank. -/
def IsWord (cs : List Char) : Prop :=
  cs ≠ [] ∧ ∀ c ∈ cs, isBlank c = false

/-- The text is not empty and has no blank at its ends. -/
def IsTight (cs : List Char) : Prop :=
  cs ≠ [] ∧ (∀ c ∈ cs.head?, isBlank c = false) ∧ ∀ c ∈ cs.getLast?, isBlank c = false

/-- The text is empty or begins with a blank. -/
def Parted (cs : List Char) : Prop :=
  ∀ c ∈ cs.head?, isBlank c = true

/-- The text consists of these words, each behind a gap, and possibly of blanks at its end. -/
inductive Arguments : List (List Char) → List Char → Prop
  | none {after : List Char} (hafter : IsBlanks after) : Arguments [] after
  | next {gap word rest : List Char} {ws : List (List Char)} (hgap : IsGap gap)
      (hword : IsWord word) (hrest : Arguments ws rest) :
      Arguments (word :: ws) (gap ++ word ++ rest)

/-- The text is `whole` behind a gap, and possibly blanks at its end. -/
inductive WholeArgument (whole : List Char) : List Char → Prop
  | mk {gap after : List Char} (hgap : IsGap gap) (hwhole : IsTight whole)
      (hafter : IsBlanks after) : WholeArgument whole (gap ++ whole ++ after)

theorem IsBlanks.parted {cs : List Char} (h : IsBlanks cs) : Parted cs :=
  fun c hc => h c (List.mem_of_mem_head? hc)

theorem IsGap.parted_append {gap : List Char} (h : IsGap gap) (rest : List Char) :
    Parted (gap ++ rest) := by
  obtain ⟨hne, hall⟩ := h
  obtain ⟨c, gap, rfl⟩ := List.exists_cons_of_ne_nil hne
  intro d hd
  exact hall d (by simp_all)

theorem IsWord.isTight {word : List Char} (h : IsWord word) : IsTight word :=
  ⟨h.1, fun c hc => h.2 c (List.mem_of_mem_head? hc),
    fun c hc => h.2 c (List.mem_of_mem_getLast? hc)⟩

theorem Arguments.parted {ws : List (List Char)} {tail : List Char} (h : Arguments ws tail) :
    Parted tail := by
  cases h with
  | none hafter => exact hafter.parted
  | next hgap _ _ =>
    rw [List.append_assoc]
    exact hgap.parted_append _

theorem WholeArgument.parted {whole tail : List Char} (h : WholeArgument whole tail) :
    Parted tail := by
  obtain ⟨hgap, -, -⟩ := h
  rw [List.append_assoc]
  exact hgap.parted_append _

/-! ## What `words` finds -/

theorem words_of_isBlanks {cs : List Char} (h : IsBlanks cs) : words cs = [] := by
  induction cs with
  | nil => rfl
  | cons c cs ih =>
    rw [words, if_pos (h c List.mem_cons_self)]
    exact ih fun d hd => h d (List.mem_cons_of_mem c hd)

theorem words_append_of_isBlanks {before : List Char} (h : IsBlanks before) (cs : List Char) :
    words (before ++ cs) = words cs := by
  induction before with
  | nil => rfl
  | cons c before ih =>
    rw [List.cons_append, words, if_pos (h c List.mem_cons_self)]
    exact ih fun d hd => h d (List.mem_cons_of_mem c hd)

theorem words_append_isBlanks (cs : List Char) {after : List Char} (h : IsBlanks after) :
    words (cs ++ after) = words cs := by
  induction cs with
  | nil => exact words_of_isBlanks h
  | cons c cs ih =>
    have hhead : (cs ++ after).head?.all isBlank = cs.head?.all isBlank := by
      cases cs with
      | nil =>
        cases after with
        | nil => rfl
        | cons a after => exact h a List.mem_cons_self
      | cons d cs => rfl
    rw [List.cons_append, words, words, ih, hhead]

theorem words_word_append {word rest : List Char} (hword : IsWord word) (hrest : Parted rest) :
    words (word ++ rest) = word :: words rest := by
  obtain ⟨hne, hall⟩ := hword
  induction word with
  | nil => exact absurd rfl hne
  | cons c word ih =>
    have hc : ¬isBlank c = true := by simp [hall c List.mem_cons_self]
    rw [List.cons_append, words, if_neg hc]
    cases word with
    | nil =>
      have hend : rest.head?.all isBlank = true := by
        cases rest with
        | nil => rfl
        | cons r rest => exact hrest r rfl
      rw [List.nil_append, if_pos hend]
    | cons d word =>
      have hd : isBlank d = false := hall d (by simp)
      rw [if_neg (by simp [hd]), ih (by simp) fun e he => hall e (List.mem_cons_of_mem c he)]

theorem Arguments.words_eq {ws : List (List Char)} {tail : List Char} (h : Arguments ws tail) :
    words tail = ws := by
  induction h with
  | none hafter => exact words_of_isBlanks hafter
  | next hgap hword hrest ih =>
    rw [List.append_assoc, words_append_of_isBlanks hgap.2,
      words_word_append hword hrest.parted, ih]

theorem Arguments.cons_blank {ws : List (List Char)} {tail : List Char} {c : Char}
    (hc : isBlank c = true) (h : Arguments ws tail) : Arguments ws (c :: tail) := by
  cases h with
  | none hafter => exact .none (by simpa [IsBlanks, hc] using hafter)
  | @next gap word rest ws hgap hword hrest =>
    have hlonger : IsGap (c :: gap) := ⟨by simp, by simpa [IsBlanks, hc] using hgap.2⟩
    exact .next hlonger hword hrest

theorem arguments_words (cs : List Char) :
    (Parted cs ∧ Arguments (words cs) cs) ∨
      ∃ word rest, IsWord word ∧ cs = word ++ rest ∧ Arguments (words rest) rest ∧
        words cs = word :: words rest := by
  induction cs with
  | nil => exact .inl ⟨by simp [Parted], .none (by simp [IsBlanks])⟩
  | cons c cs ih =>
    cases hc : isBlank c with
    | true =>
      refine .inl ⟨by simpa [Parted] using hc, ?_⟩
      rw [words, if_pos hc]
      obtain ⟨-, harguments⟩ | ⟨word, rest, hword, rfl, hrest, hwords⟩ := ih
      · exact harguments.cons_blank hc
      · rw [hwords]
        exact @Arguments.next [c] word rest _ ⟨by simp, by simpa [IsBlanks] using hc⟩ hword hrest
    | false =>
      refine .inr ?_
      obtain ⟨hparted, harguments⟩ | ⟨word, rest, hword, rfl, hrest, hwords⟩ := ih
      · have hletter : IsWord [c] := ⟨by simp, by simpa using hc⟩
        exact ⟨[c], cs, hletter, rfl, harguments, words_word_append hletter hparted⟩
      · have hlonger : IsWord (c :: word) := ⟨by simp, by simpa [hc] using hword.2⟩
        exact ⟨c :: word, rest, hlonger, rfl, hrest, words_word_append hlonger hrest.parted⟩

theorem arguments_iff {ws : List (List Char)} {tail : List Char} :
    Arguments ws tail ↔ Parted tail ∧ words tail = ws := by
  constructor
  · intro h
    exact ⟨h.parted, h.words_eq⟩
  · rintro ⟨hparted, rfl⟩
    obtain ⟨-, harguments⟩ | ⟨word, rest, hword, rfl, -, -⟩ := arguments_words tail
    · exact harguments
    · obtain ⟨c, word, rfl⟩ := List.exists_cons_of_ne_nil hword.1
      have hblank : isBlank c = true := hparted c rfl
      simp [hword.2 c List.mem_cons_self] at hblank

/-! ## What `trim` finds -/

theorem trimEnd_append_of_last {front : List Char}
    (h : ∀ c ∈ front.getLast?, isBlank c = false) (cs : List Char) :
    trimEnd (front ++ cs) = front ++ trimEnd cs := by
  induction front with
  | nil => rfl
  | cons c front ih =>
    rw [List.cons_append, trimEnd]
    cases front with
    | nil =>
      have hc : isBlank c = false := h c rfl
      rw [List.nil_append]
      cases trimEnd cs <;> simp [hc]
    | cons d front =>
      rw [ih (by simpa using h)]
      simp

theorem trim_of_enclosed {before whole after : List Char} (hbefore : IsBlanks before)
    (hwhole : IsTight whole) (hafter : IsBlanks after) :
    trim (before ++ whole ++ after) = whole := by
  obtain ⟨hne, hfirst, hlast⟩ := hwhole
  obtain ⟨c, whole, rfl⟩ := List.exists_cons_of_ne_nil hne
  have hc : isBlank c = false := hfirst c rfl
  have hstart : trimStart (before ++ (c :: whole ++ after)) = c :: whole ++ after := by
    rw [trimStart, List.dropWhile_append_of_pos hbefore]
    simp [hc]
  rw [List.append_assoc, trim, hstart, trimEnd_append_of_last hlast, trimEnd_eq_nil_iff.2 hafter,
    List.append_nil]

theorem exists_trimEnd (cs : List Char) : ∃ after, cs = trimEnd cs ++ after ∧ IsBlanks after := by
  induction cs with
  | nil => exact ⟨[], rfl, by simp [IsBlanks]⟩
  | cons c cs ih =>
    obtain ⟨after, hcs, hafter⟩ := ih
    rw [trimEnd]
    cases htrim : trimEnd cs with
    | nil =>
      have hblanks : IsBlanks cs := trimEnd_eq_nil_iff.1 htrim
      cases hc : isBlank c with
      | true => exact ⟨c :: cs, rfl, by simpa [IsBlanks, hc] using hblanks⟩
      | false => exact ⟨cs, rfl, hblanks⟩
    | cons d ds => exact ⟨after, by rw [List.cons_append, ← htrim, ← hcs], hafter⟩

theorem exists_trim (cs : List Char) :
    ∃ before after, cs = before ++ trim cs ++ after ∧ IsBlanks before ∧ IsBlanks after := by
  obtain ⟨after, hafter, hblanks⟩ := exists_trimEnd (trimStart cs)
  refine ⟨cs.takeWhile isBlank, after, ?_, fun c hc => List.mem_takeWhile_imp hc, hblanks⟩
  rw [List.append_assoc, trim, ← hafter, trimStart, List.takeWhile_append_dropWhile]

theorem words_trim (cs : List Char) : words (trim cs) = words cs := by
  obtain ⟨before, after, hcs, hbefore, hafter⟩ := exists_trim cs
  rw [hcs, words_append_isBlanks _ hafter, words_append_of_isBlanks hbefore, ← hcs]

theorem wholeArgument_iff {whole tail : List Char} :
    WholeArgument whole tail ↔ Parted tail ∧ whole ≠ [] ∧ trim tail = whole := by
  constructor
  · intro h
    have hparted := h.parted
    obtain ⟨hgap, hwhole, hafter⟩ := h
    exact ⟨hparted, hwhole.1, trim_of_enclosed hgap.2 hwhole hafter⟩
  · rintro ⟨hparted, hne, rfl⟩
    obtain ⟨before, after, htail, hbefore, hafter⟩ := exists_trim tail
    obtain ⟨hfirst, hlast⟩ := isBlank_ends_trim tail
    have hgap : before ≠ [] := by
      rintro rfl
      obtain ⟨c, rest, htrim⟩ := List.exists_cons_of_ne_nil hne
      rw [htail, htrim] at hparted
      have hblank : isBlank c = true := hparted c rfl
      simp [hfirst c (by simp [htrim])] at hblank
    have hwhole := WholeArgument.mk ⟨hgap, hbefore⟩ ⟨hne, hfirst, hlast⟩ hafter
    rwa [← htail] at hwhole

theorem trim_eq_nil_iff {cs : List Char} : trim cs = [] ↔ IsBlanks cs := by
  constructor
  · intro htrim
    obtain ⟨before, after, hcs, hbefore, hafter⟩ := exists_trim cs
    rw [htrim, List.append_nil] at hcs
    intro c hc
    rw [hcs] at hc
    exact (List.mem_append.1 hc).elim (hbefore c) (hafter c)
  · intro hblank
    have hstart : trimStart cs = [] := List.dropWhile_eq_nil_iff.2 hblank
    rw [trim, hstart]
    rfl

theorem Arguments.trim_eq_nil {tail : List Char} (h : Arguments [] tail) : trim tail = [] := by
  cases h with
  | none hafter => exact trim_eq_nil_iff.2 hafter

theorem IsTight.words_eq_or {cs : List Char} (h : IsTight cs) :
    words cs = [cs] ∨ ∃ w v ws, words cs = w :: v :: ws := by
  obtain ⟨hne, hfirst, hlast⟩ := h
  obtain ⟨hparted, -⟩ | ⟨word, rest, hword, rfl, hrest, hwords⟩ := arguments_words cs
  · obtain ⟨c, cs, rfl⟩ := List.exists_cons_of_ne_nil hne
    have hblank : isBlank c = true := hparted c rfl
    simp [hfirst c rfl] at hblank
  · rw [hwords]
    cases hmore : words rest with
    | cons v ws => exact .inr ⟨word, v, ws, rfl⟩
    | nil =>
      -- blanks behind the only word would be at the end of the text
      rw [hmore] at hrest
      cases hrest with
      | none hafter =>
        have hnil : rest = [] := by
          by_contra hrestne
          have hblank := hafter _ (List.getLast_mem hrestne)
          have hend := hlast _ (List.mem_getLast?_append_of_mem_getLast?
            (List.getLast_mem_getLast? hrestne))
          simp [hblank] at hend
        exact .inl (by rw [hnil, List.append_nil])

end GossipPanel.Text
