import GossipPanel.Proofs.Wrapping.Words

/-!
# Word wrap fills rows

Word wrap reads a line glyph by glyph. For words of narrow characters with one space between them
it draws as many rows as filling every row with the pieces of the line takes.

* `Begun`, `Joined`: word wrap inside a word that a row begins with, and inside a word behind others
  in the row. `Begun.letter`, `Joined.letter`: one letter more.
* `EndsWord`: word wrap behind a word. `EndsWord.next`: behind one word more.
* `exists_packs_of_words`: words take the rows that their pieces fill. `exists_fewest_of_plain`:
  these are the fewest rows that a line can take.
-/

namespace GossipPanel.Screen.Wrap

open Text Fill

variable {α : Type}

@[simp]
theorem widthOf_nil : widthOf ([] : List (Glyph α)) = 0 := rfl

@[simp]
theorem widthOf_append (gs hs : List (Glyph α)) : widthOf (gs ++ hs) = widthOf gs + widthOf hs := by
  rw [widthOf, List.map_append, sumColumns_append]
  rfl

@[simp]
theorem widthOf_singleton (g : Glyph α) : widthOf [g] = g.width := rfl

/-- A glyph of a word of narrow characters. -/
structure Glyph.IsLetter (g : Glyph α) : Prop where
  width : g.width = 1
  isSpace : g.isSpace = false

/-- A glyph that separates such words. -/
structure Glyph.IsBlank (g : Glyph α) : Prop where
  width : g.width = 1
  isSpace : g.isSpace = true

namespace State

variable {limit n used k : Nat} {s : State α} {g : Glyph α}

/-- Behind `n` rows and the first `k` letters of a word that a row begins with. -/
structure Begun (limit n k : Nat) (s : State α) : Prop where
  rows : s.rows.length = n + (filledBy limit k).1
  line : s.line = []
  space : s.space = []
  word : widthOf s.word = (filledBy limit k).2
  afterWord : 0 < k → s.afterWord = true

/-- Behind `n` rows, words of `used` columns, a space and the first `k` letters of a word that fit
beside them. -/
structure Joined (limit n used k : Nat) (s : State α) : Prop where
  rows : s.rows.length = n
  line : widthOf s.line = used
  used_pos : 0 < used
  space : ∃ blank : Glyph α, blank.width = 1 ∧ s.space = [blank]
  word : widthOf s.word = k
  afterWord : s.afterWord = decide (0 < k)
  fits : used + 1 + k ≤ limit

theorem begun_start (limit : Nat) : Begun limit 0 0 ({} : State α) :=
  ⟨rfl, rfl, rfl, rfl, fun h => absurd h (Nat.lt_irrefl 0)⟩

theorem take_letter (s : State α) (hg : g.IsLetter) :
    s.take g = { s with word := s.word ++ [g], afterWord := true } := by
  rw [take, hg.isSpace]
  rfl

theorem take_blank (s : State α) (hg : g.IsBlank) :
    s.take g = { s with space := s.space ++ [g], afterWord := false } := by
  rw [take, hg.isSpace]
  rfl

theorem Joined.line_ne_nil (h : Joined limit n used k s) : s.line ≠ [] := by
  intro hnil
  have hline := h.line
  rw [hnil, widthOf_nil] at hline
  exact absurd hline.symm (Nat.ne_of_gt h.used_pos)

/-! ## Letters -/

theorem Begun.letter (h : Begun limit n k s) (hlimit : 0 < limit) (hg : g.IsLetter) :
    Begun limit n (k + 1) (s.step limit g) := by
  obtain ⟨hrows, hline, hspace, hword, -⟩ := h
  have hle := filledBy_le hlimit k
  have hg_width := hg.width
  rw [step, if_neg (by omega)]
  by_cases hroom : (filledBy limit k).2 < limit
  · -- the row has room
    have hsettle : s.mustSettle limit g = false := by
      simp [mustSettle, hg.isSpace, hline, hspace, hword, hg.width]
      omega
    have hbreak : s.mustBreak limit g = false := by
      simp [mustBreak, hline, hspace, hword]
      omega
    have hfilled : filledBy limit (k + 1) = ((filledBy limit k).1, (filledBy limit k).2 + 1) := by
      rw [filledBy, if_pos hroom]
    simp only [hsettle, hbreak, Bool.false_eq_true, if_false, take_letter _ hg]
    exact ⟨by rw [hfilled]; exact hrows, hline, hspace,
      by rw [hfilled, widthOf_append, hword, widthOf_singleton, hg.width], fun _ => rfl⟩
  · -- the word has filled the row
    have hsettle : s.mustSettle limit g = true := by
      simp [mustSettle, hline, hword, hg.width]
      omega
    have hbreak : s.settle.mustBreak limit g = true := by
      simp [mustBreak, settle, hline, hword]
      omega
    have hfilled : filledBy limit (k + 1) = ((filledBy limit k).1 + 1, 1) := by
      rw [filledBy, if_neg hroom]
    simp only [hsettle, hbreak, if_true, hg.isSpace, Bool.false_and, Bool.false_eq_true, if_false,
      take_letter _ hg]
    refine ⟨?_, rfl, rfl, by rw [hfilled]; exact hg.width, fun _ => rfl⟩
    rw [hfilled]
    show s.rows.length + 1 = n + ((filledBy limit k).1 + 1)
    omega

theorem Joined.letter (h : Joined limit n used k s) (hg : g.IsLetter) :
    if used + 1 + (k + 1) ≤ limit then Joined limit n used (k + 1) (s.step limit g)
    else Begun limit (n + 1) (k + 1) (s.step limit g) := by
  have hne := h.line_ne_nil
  obtain ⟨hrows, hline, hused, ⟨blank, hblank, hspace⟩, hword, -, hfits⟩ := h
  have hg_width := hg.width
  have hsettle : s.mustSettle limit g = false := by
    simp [mustSettle, hg.isSpace, hne]
  have hstep : s.step limit g =
      if s.mustBreak limit g then (s.breakRow limit).take g else s.take g := by
    rw [step, if_neg (by omega)]
    simp [hsettle, hg.isSpace]
  have hgrown : widthOf (s.word ++ [g]) = k + 1 := by
    rw [widthOf_append, hword, widthOf_singleton, hg.width]
  split
  · next hroom =>
    have hbreak : s.mustBreak limit g = false := by
      simp [mustBreak, hspace, hline, hword, hblank]
      omega
    rw [hstep, hbreak, if_neg (by simp), take_letter _ hg]
    exact ⟨hrows, hline, hused, ⟨blank, hblank, hspace⟩, hgrown, by simp, hroom⟩
  · next hfull =>
    have hbreak : s.mustBreak limit g = true := by
      simp [mustBreak, hspace, hline, hword, hblank, hg.width]
      omega
    have hdropped : dropFitting (limit - widthOf s.line) s.space = [] := by
      rw [hspace, dropFitting, if_pos (by omega)]
      rfl
    have hfilled : filledBy limit (k + 1) = (0, k + 1) := filledBy_of_le (by omega)
    rw [hstep, hbreak, if_pos rfl, take_letter _ hg]
    refine ⟨?_, rfl, hdropped, by rw [hfilled]; exact hgrown, fun _ => rfl⟩
    rw [hfilled]
    show s.rows.length + 1 = n + 1 + 0
    omega

theorem Begun.letters (h : Begun limit n k s) (hlimit : 0 < limit) {gs : List (Glyph α)}
    (hgs : ∀ g ∈ gs, g.IsLetter) : Begun limit n (k + gs.length) (gs.foldl (step limit) s) := by
  induction gs generalizing k s with
  | nil => exact h
  | cons g gs ih =>
    have hrest := ih (h.letter hlimit (hgs g List.mem_cons_self))
      fun g hg => hgs g (List.mem_cons_of_mem _ hg)
    rw [List.length_cons, Nat.add_comm gs.length, ← Nat.add_assoc]
    exact hrest

theorem Joined.letters (h : Joined limit n used k s) (hlimit : 0 < limit) {gs : List (Glyph α)}
    (hgs : ∀ g ∈ gs, g.IsLetter) :
    if used + 1 + (k + gs.length) ≤ limit then
      Joined limit n used (k + gs.length) (gs.foldl (step limit) s)
    else Begun limit (n + 1) (k + gs.length) (gs.foldl (step limit) s) := by
  induction gs generalizing k s with
  | nil =>
    simp only [List.length_nil, Nat.add_zero, if_pos h.fits]
    exact h
  | cons g gs ih =>
    have hgs' : ∀ g ∈ gs, g.IsLetter := fun g hg => hgs g (List.mem_cons_of_mem _ hg)
    have hletter := h.letter (hgs g List.mem_cons_self)
    rw [List.length_cons, show k + (gs.length + 1) = k + 1 + gs.length by omega, List.foldl_cons]
    split at hletter
    · exact ih hletter hgs'
    · rw [if_neg (by omega)]
      exact hletter.letters hlimit hgs'

/-! ## Words -/

/-- Behind a word: `n` rows are finished, and the row with the word has `used` columns. -/
structure EndsWord (limit n used : Nat) (s : State α) : Prop where
  rows : s.rows.length = n
  settled : widthOf s.settle.line = used
  used_pos : 0 < used
  used_le : used ≤ limit
  afterWord : s.afterWord = true

theorem Begun.endsWord (h : Begun limit n k s) (hlimit : 0 < limit) (hk : 0 < k) :
    EndsWord limit (n + (filledBy limit k).1) (filledBy limit k).2 s := by
  refine ⟨h.rows, ?_, filledBy_pos hk, filledBy_le hlimit k, h.afterWord hk⟩
  simp [settle, h.line, h.word]

theorem Joined.endsWord (h : Joined limit n used k s) (hk : 0 < k) :
    EndsWord limit n (used + 1 + k) s := by
  obtain ⟨blank, hblank, hspace⟩ := h.space
  refine ⟨h.rows, ?_, by omega, h.fits, by simp [h.afterWord, hk]⟩
  have hsettled : s.settle.line = s.line ++ [blank] ++ s.word := by
    rw [settle, hspace, if_neg (by simpa using h.line_ne_nil)]
  rw [hsettled, widthOf_append, widthOf_append, h.line, widthOf_singleton, hblank, h.word]

theorem EndsWord.blank (h : EndsWord limit n used s) (hg : g.IsBlank) :
    if used < limit then Joined limit n used 0 (s.step limit g)
    else Begun limit (n + 1) 0 (s.step limit g) := by
  have hpos := h.used_pos
  have hle := h.used_le
  have hg_width := hg.width
  have hsettle : s.mustSettle limit g = true := by
    simp [mustSettle, h.afterWord, hg.isSpace]
  have hcleared : s.settle.space = [] ∧ s.settle.word = [] := ⟨rfl, rfl⟩
  have hstep : s.step limit g =
      if s.settle.mustBreak limit g then s.settle.breakRow limit else s.settle.take g := by
    rw [step, if_neg (by omega), hsettle, hg.isSpace]
    rfl
  rw [hstep]
  split
  · next hroom =>
    have hbreak : s.settle.mustBreak limit g = false := by
      simp [mustBreak, h.settled, hcleared]
      omega
    rw [hbreak, if_neg (by simp), take_blank _ hg]
    exact ⟨h.rows, h.settled, hpos, ⟨g, hg.width, rfl⟩, rfl, rfl, by omega⟩
  · next hfull =>
    have hbreak : s.settle.mustBreak limit g = true := by
      simp [mustBreak, h.settled]
      omega
    rw [hbreak, if_pos rfl]
    refine ⟨?_, rfl, rfl, rfl, fun hk => absurd hk (Nat.lt_irrefl 0)⟩
    show s.rows.length + 1 = n + 1 + 0
    rw [h.rows]

theorem EndsWord.next (h : EndsWord limit n used s) (hlimit : 0 < limit) (hg : g.IsBlank)
    {gs : List (Glyph α)} (hgs : ∀ g ∈ gs, g.IsLetter) (hne : gs ≠ []) :
    EndsWord limit (afterNext limit n used gs.length).1 (afterNext limit n used gs.length).2
      ((g :: gs).foldl (step limit) s) := by
  have hlength := List.length_pos_iff.2 hne
  have hblank := h.blank hg
  rw [List.foldl_cons, afterNext]
  split at hblank
  · have hletters := hblank.letters hlimit hgs
    rw [Nat.zero_add] at hletters
    split at hletters
    · next hfits =>
      rw [if_pos hfits]
      exact hletters.endsWord hlength
    · next hover =>
      rw [if_neg hover]
      exact hletters.endsWord hlimit hlength
  · rw [if_neg (by omega)]
    have hletters := hblank.letters hlimit hgs
    rw [Nat.zero_add] at hletters
    exact hletters.endsWord hlimit hlength

theorem EndsWord.length_finish (h : EndsWord limit n used s) : s.finish.length = n + 1 := by
  have hne : s.settle.line ≠ [] := by
    intro hnil
    have hsettled := h.settled
    rw [hnil, widthOf_nil] at hsettled
    exact absurd hsettled (Nat.ne_of_lt h.used_pos)
  have hopen : (s.line.isEmpty && s.word.isEmpty && !s.space.isEmpty) = false := by
    cases hline : s.line with
    | nil =>
      cases hword : s.word with
      | nil => exact absurd (by simp [settle, hline, hword]) hne
      | cons g gs => rfl
    | cons g gs => rfl
  have hfinish : s.finish = (s.settle.line :: s.rows).reverse := by
    rw [finish, hopen]
    show (if (if s.settle.line.isEmpty then s.rows else s.settle.line :: s.rows).isEmpty then _
      else (if s.settle.line.isEmpty then s.rows else s.settle.line :: s.rows).reverse) = _
    rw [if_neg (show ¬s.settle.line.isEmpty = true by simpa using hne)]
    rfl
  rw [hfinish, List.length_reverse, List.length_cons, h.rows]

end State

/-! ## Lines -/

theorem intercalate_concat {β : Type} (sep : List β) {ls : List (List β)} (h : ls ≠ [])
    (l : List β) : sep.intercalate (ls ++ [l]) = sep.intercalate ls ++ sep ++ l := by
  induction ls with
  | nil => exact absurd rfl h
  | cons first ls ih =>
    rw [List.cons_append, List.intercalate_cons_of_ne_nil (by simp)]
    by_cases hls : ls = []
    · simp [hls]
    · rw [ih hls, List.intercalate_cons_of_ne_nil hls]
      simp

/-- The glyphs of a text of characters that stand alone. -/
def glyphsOf (tag : α) (cs : List Char) : List (Glyph α) :=
  cs.map fun c => ⟨[c], tag⟩

theorem isLetter_of_mem_glyphsOf (tag : α) {w : List Char} (hw : PlainWord w) :
    ∀ g ∈ glyphsOf tag w, g.IsLetter := by
  intro g hg
  obtain ⟨c, hc, rfl⟩ := List.mem_map.1 hg
  obtain ⟨halone, hwidth, hseparator⟩ := isLetter_iff.1 (hw.letters c hc)
  exact ⟨(clusterWidth_of_standsAlone halone).trans hwidth, hseparator⟩

theorem isBlank_space (tag : α) : Glyph.IsBlank (⟨[' '], tag⟩ : Glyph α) :=
  ⟨by show clusterWidth [' '] = 1; decide +kernel, by show isSeparator [' '] = true; decide +kernel⟩

/-- Behind some words, of which the last one may be followed by any number of spaces, word wrap has
filled the rows that their pieces fill. -/
theorem exists_packs_of_words {limit : Nat} (hlimit : 0 < limit) (tag : α) {ws : List (List Char)}
    {w : List Char} (hws : ∀ v ∈ ws, PlainWord v) (hw : PlainWord w) (space : Nat) :
    ∃ n used,
      Packs limit ((ws.flatMap fun v => wordPieces limit v 1) ++ wordPieces limit w space) n used ∧
        State.EndsWord limit n used
          ((glyphsOf tag ([' '].intercalate (ws ++ [w]))).foldl (State.step limit) {}) := by
  induction ws using List.reverseRecOn generalizing w space with
  | nil =>
    have hletters := (State.begun_start (α := α) limit).letters hlimit
      (isLetter_of_mem_glyphsOf tag hw)
    have hends := hletters.endsWord hlimit
      (by simpa [glyphsOf, List.length_pos_iff] using hw.ne_nil)
    rw [Nat.zero_add, Nat.zero_add, glyphsOf, List.length_map, ← glyphsOf] at hends
    exact ⟨_, _, packs_wordPieces hlimit hw space, by simpa using hends⟩
  | append_singleton ws v ih =>
    have hv := hws v (by simp)
    obtain ⟨n, used, hpacks, hends⟩ := ih (fun u hu => hws u (List.mem_append_left _ hu)) hv 1
    have hglyphs : glyphsOf tag ([' '].intercalate (ws ++ [v] ++ [w])) =
        glyphsOf tag ([' '].intercalate (ws ++ [v])) ++ ⟨[' '], tag⟩ :: glyphsOf tag w := by
      rw [intercalate_concat [' '] (by simp)]
      simp [glyphsOf]
    have hpieces : ((ws ++ [v]).flatMap fun v => wordPieces limit v 1) =
        (ws.flatMap fun v => wordPieces limit v 1) ++ wordPieces limit v 1 := by
      rw [List.flatMap_append, List.flatMap_singleton]
    refine ⟨(afterNext limit n used w.length).1, (afterNext limit n used w.length).2, ?_, ?_⟩
    · rw [wordPieces_of_plain hlimit hv, ← List.append_assoc] at hpacks
      rw [hpieces, wordPieces_of_plain hlimit hv, ← List.append_assoc]
      exact hpacks.next hlimit hw space
    · have hnext := hends.next hlimit (isBlank_space tag) (isLetter_of_mem_glyphsOf tag hw)
        (by simpa [glyphsOf] using hw.ne_nil)
      rw [hglyphs, List.foldl_append]
      rwa [glyphsOf, List.length_map, ← glyphsOf] at hnext

theorem exists_fewest_of_plain {limit : Nat} (hlimit : 0 < limit) (tag : α) {line : List Char}
    (hline : PlainLine line) :
    ∃ rows, Fewest limit (pieces limit line) rows ∧
      (wrapLine limit (glyphsOf tag line)).length = max 1 rows.length := by
  by_cases hne : line = []
  · subst hne
    exact ⟨[], fewest_nil, rfl⟩
  · obtain ⟨ws, w, rfl, hws, hw⟩ := hline.exists_words hne
    obtain ⟨n, used, hpacks, hends⟩ := exists_packs_of_words hlimit tag hws hw 0
    obtain ⟨rows, hfewest, hlength⟩ := hpacks.exists_fewest
    rw [← pieces_intercalate limit hws hw] at hfewest
    refine ⟨rows, hfewest, ?_⟩
    rw [wrapLine, hends.length_finish, hlength]
    exact (Nat.max_eq_right (Nat.succ_le_succ (Nat.zero_le n))).symm

end GossipPanel.Screen.Wrap
