import GossipPanel.Proofs.Text.StandsAlone
import GossipPanel.Proofs.Wrapping.Packing
import GossipPanel.Proofs.Wrapping.Pieces

/-!
# Words of narrow characters

The pieces of words that have one column for each character and one space between them.

* `PlainWord`, `PlainLine`: such words, and lines of them.
* `filledBy`: the rows that the letters of one word fill. `wordPieces_of_plain`: the pieces of a
  word are these rows and the rest.
* `afterNext`: the rows behind one more word. `Packs.next`: its pieces fill these.
* `pieces_intercalate`: the pieces of a line are those of its words.
-/

namespace GossipPanel.Text

open Fill Screen.Wrap

/-- A character of a word: it stands alone, in one column. -/
def isLetter (c : Char) : Bool :=
  standsAlone c && charWidth c == 1 && !isSeparator [c]

/-- A word of such characters that is not broken after a hyphen. -/
structure PlainWord (w : List Char) : Prop where
  ne_nil : w ≠ []
  letters : ∀ c ∈ w, isLetter c = true
  unbroken : hyphenParts none [] w = [w]

/-- Nothing, or such words with one space between them. -/
def PlainLine (line : List Char) : Prop :=
  line = [] ∨ ∀ w ∈ splitOn ' ' line, PlainWord w

instance : DecidablePred PlainWord := fun w =>
  decidable_of_iff (w ≠ [] ∧ w.all isLetter = true ∧ hyphenParts none [] w = [w])
    ⟨fun h => ⟨h.1, List.all_eq_true.1 h.2.1, h.2.2⟩,
      fun h => ⟨h.ne_nil, List.all_eq_true.2 h.letters, h.unbroken⟩⟩

instance : DecidablePred PlainLine := fun line =>
  inferInstanceAs (Decidable (line = [] ∨ ∀ w ∈ splitOn ' ' line, PlainWord w))

theorem isLetter_iff {c : Char} :
    isLetter c = true ↔ standsAlone c = true ∧ charWidth c = 1 ∧ isSeparator [c] = false := by
  simp [isLetter, and_assoc]

theorem isLetter_ne {c d : Char} (h : isLetter c = true) (hd : isLetter d = false) : c ≠ d := by
  rintro rfl
  rw [h] at hd
  cases hd

theorem PlainWord.not_mem_space {w : List Char} (h : PlainWord w) : ' ' ∉ w :=
  fun hmem => isLetter_ne (h.letters ' ' hmem) (d := ' ') (by decide +kernel) rfl

theorem PlainLine.exists_words {line : List Char} (h : PlainLine line) (hne : line ≠ []) :
    ∃ ws w, line = [' '].intercalate (ws ++ [w]) ∧ (∀ v ∈ ws, PlainWord v) ∧ PlainWord w := by
  have hwords := h.resolve_left hne
  obtain ⟨ws, w, hsplit⟩ : ∃ ws w, splitOn ' ' line = ws ++ [w] :=
    ⟨_, _, (List.dropLast_concat_getLast (splitOn_ne_nil ' ' line)).symm⟩
  rw [hsplit] at hwords
  refine ⟨ws, w, ?_, fun v hv => hwords v (List.mem_append_left _ hv), hwords w (by simp)⟩
  rw [← hsplit, splitOn_eq, List.intercalate_splitOn]

namespace Fill

/-! ## Rows of one word -/

theorem columns_of_letters {w : List Char} (h : ∀ c ∈ w, isLetter c = true) :
    columns w = List.replicate w.length 1 := by
  induction w with
  | nil => simp [columns]
  | cons c w ih =>
    have hc := h c List.mem_cons_self
    rw [columns, if_neg (isLetter_ne hc (by decide +kernel)), (isLetter_iff.1 hc).2.1,
      ih fun d hd => h d (List.mem_cons_of_mem c hd)]
    rfl

/-- The rows that so many letters of one word fill, and the letters in the row after them. -/
def filledBy (limit : Nat) : Nat → Nat × Nat
  | 0 => (0, 0)
  | k + 1 =>
    if (filledBy limit k).2 < limit then ((filledBy limit k).1, (filledBy limit k).2 + 1)
    else ((filledBy limit k).1 + 1, 1)

theorem filledBy_of_le {limit k : Nat} (h : k ≤ limit) : filledBy limit k = (0, k) := by
  induction k with
  | zero => rfl
  | succ k ih => rw [filledBy, ih (by omega), if_pos (show k < limit by omega)]

theorem filledBy_le {limit : Nat} (h : 0 < limit) (k : Nat) : (filledBy limit k).2 ≤ limit := by
  cases k with
  | zero => exact Nat.zero_le _
  | succ k =>
    rw [filledBy]
    split
    · next hroom => exact hroom
    · exact h

theorem filledBy_pos {limit k : Nat} (h : 0 < k) : 0 < (filledBy limit k).2 := by
  cases k with
  | zero => exact absurd h (Nat.lt_irrefl 0)
  | succ k =>
    rw [filledBy]
    split <;> exact Nat.succ_pos _

theorem eq_of_filledBy_fst {limit k : Nat} (h : (filledBy limit k).1 = 0) :
    (filledBy limit k).2 = k := by
  induction k with
  | zero => rfl
  | succ k ih =>
    rw [filledBy] at h ⊢
    split at h
    · next hroom =>
      rw [if_pos hroom]
      exact congrArg (· + 1) (ih h)
    · cases h

/-- The rows that are filled, and the columns of the row after them, behind one more word. -/
def afterNext (limit n used k : Nat) : Nat × Nat :=
  if used + 1 + k ≤ limit then (n, used + 1 + k)
  else (n + 1 + (filledBy limit k).1, (filledBy limit k).2)

section

variable {limit : Nat} (hlimit : 0 < limit)
include hlimit

theorem cutColumns_replicate (k : Nat) :
    cutColumns limit 0 (List.replicate k 1) =
      List.replicate (filledBy limit k).1 limit ++ [(filledBy limit k).2] := by
  induction k with
  | zero => rfl
  | succ k ih =>
    obtain ⟨init, last, hold, hnew⟩ := cutColumns_concat limit 0 (List.replicate k 1) 1
    rw [ih] at hold
    obtain ⟨rfl, hlast⟩ := List.append_inj' hold rfl
    obtain rfl : (filledBy limit k).2 = last := by simpa using hlast
    rw [List.replicate_succ', hnew, filledBy]
    have hle := filledBy_le hlimit k
    by_cases hroom : (filledBy limit k).2 < limit
    · rw [if_pos hroom, if_neg (by omega)]
    · rw [if_neg hroom, if_pos (by omega), show (filledBy limit k).2 = limit by omega,
        ← List.replicate_succ']

/-- The pieces of a word are the rows that it fills, and the rest. -/
theorem wordPieces_of_plain {w : List Char} (hw : PlainWord w) (space : Nat) :
    wordPieces limit w space =
      List.replicate (filledBy limit w.length).1 ⟨limit, 0⟩ ++
        [⟨(filledBy limit w.length).2, space⟩] := by
  rw [wordPieces, hw.unbroken, List.flatMap_singleton, partWidths_eq,
    columns_of_letters hw.letters, cutColumns_replicate hlimit, piecesOf_concat,
    List.map_replicate]

theorem narrow_of_mem_wordPieces {w : List Char} (hw : PlainWord w) {space : Nat}
    (hspace : space ≤ 1) : ∀ p ∈ wordPieces limit w space, p.Narrow limit := by
  intro p hp
  have hpos := List.length_pos_iff.2 hw.ne_nil
  rw [wordPieces_of_plain hlimit hw, List.mem_append, List.mem_singleton] at hp
  rcases hp with hp | rfl
  · obtain rfl := (List.mem_replicate.1 hp).2
    exact ⟨hlimit, Nat.le_refl _, Nat.zero_le _⟩
  · exact ⟨filledBy_pos hpos, filledBy_le hlimit _, hspace⟩

/-! ## One more word -/

theorem packs_full (m : Nat) :
    Packs limit (List.replicate m ⟨limit, 0⟩ ++ [⟨limit, 0⟩]) m limit := by
  induction m with
  | zero => exact packs_singleton (Nat.le_refl limit)
  | succ m ih =>
    rw [List.replicate_succ']
    exact ih.below (Nat.le_refl limit) (show limit < limit + 0 + limit by omega)

theorem Packs.full {ps : List Piece} {q : Piece} {n used : Nat}
    (h : Packs limit (ps ++ [q]) n used) (hused : 0 < used + q.space) (m : Nat) :
    Packs limit (ps ++ [q] ++ List.replicate m ⟨limit, 0⟩ ++ [⟨limit, 0⟩]) (n + 1 + m) limit := by
  induction m with
  | zero =>
    rw [List.replicate_zero, List.append_nil]
    exact h.below (Nat.le_refl limit) (show limit < used + q.space + limit by omega)
  | succ m ih =>
    rw [List.replicate_succ', ← List.append_assoc]
    exact ih.below (Nat.le_refl limit) (show limit < limit + 0 + limit by omega)

theorem packs_wordPieces {w : List Char} (hw : PlainWord w) (space : Nat) :
    Packs limit (wordPieces limit w space) (filledBy limit w.length).1
      (filledBy limit w.length).2 := by
  have hle := filledBy_le hlimit w.length
  have hpos : 0 < (filledBy limit w.length).2 :=
    filledBy_pos (List.length_pos_iff.2 hw.ne_nil)
  rw [wordPieces_of_plain hlimit hw]
  cases (filledBy limit w.length).1 with
  | zero => exact packs_singleton hle
  | succ m =>
    rw [List.replicate_succ']
    exact (packs_full hlimit m).below hle (Nat.lt_add_of_pos_right hpos)

theorem Packs.next {ps : List Piece} {v n used : Nat} (h : Packs limit (ps ++ [⟨v, 1⟩]) n used)
    {w : List Char} (hw : PlainWord w) (space : Nat) :
    Packs limit (ps ++ [⟨v, 1⟩] ++ wordPieces limit w space) (afterNext limit n used w.length).1
      (afterNext limit n used w.length).2 := by
  have hle := filledBy_le hlimit w.length
  have hpos : 0 < (filledBy limit w.length).2 :=
    filledBy_pos (List.length_pos_iff.2 hw.ne_nil)
  rw [wordPieces_of_plain hlimit hw, afterNext]
  cases hrows : (filledBy limit w.length).1 with
  | zero =>
    have hwidth := eq_of_filledBy_fst hrows
    rw [hwidth] at hle ⊢
    split
    · next hfits => exact h.beside (p := ⟨w.length, space⟩) hfits
    · next hover =>
      exact h.below (p := ⟨w.length, space⟩) hle (show limit < used + 1 + w.length by omega)
  | succ m =>
    have hlong : ¬used + 1 + w.length ≤ limit := by
      intro hfits
      rw [filledBy_of_le (by omega)] at hrows
      cases hrows
    have hfull := h.full hlimit (show 0 < used + 1 by omega) m
    rw [if_neg hlong, List.replicate_succ', ← List.append_assoc, ← List.append_assoc]
    exact hfull.below (p := ⟨_, space⟩) hle (Nat.lt_add_of_pos_right hpos)

end

/-! ## Lines of words -/

theorem spacedWords_of_word {w : List Char} (hne : w ≠ []) (hspace : ' ' ∉ w) :
    spacedWords w = [(w, 0)] := by
  induction w with
  | nil => exact absurd rfl hne
  | cons c w ih =>
    obtain ⟨hc, hw⟩ : c ≠ ' ' ∧ ' ' ∉ w := by simpa [eq_comm] using hspace
    rw [spacedWords]
    cases w with
    | nil => simp [spacedWords, hc]
    | cons d w => rw [ih (by simp) hw]; simp [hc]

theorem spacedWords_append {w rest first : List Char} {n : Nat} {more : List (List Char × Nat)}
    (hspace : ' ' ∉ w) (hrest : spacedWords rest = (first, n) :: more) (hfirst : first ≠ []) :
    spacedWords (w ++ ' ' :: rest) = (w, 1) :: (first, n) :: more := by
  induction w with
  | nil => simp [spacedWords, hrest, hfirst]
  | cons c w ih =>
    obtain ⟨hc, hw⟩ : c ≠ ' ' ∧ ' ' ∉ w := by simpa [eq_comm] using hspace
    rw [List.cons_append, spacedWords, ih hw]
    simp [hc]

theorem spacedWords_intercalate {ws : List (List Char)} {w : List Char}
    (hws : ∀ v ∈ ws, PlainWord v) (hw : PlainWord w) :
    spacedWords ([' '].intercalate (ws ++ [w])) = (ws.map fun v => (v, 1)) ++ [(w, 0)] := by
  induction ws with
  | nil => simpa using spacedWords_of_word hw.ne_nil hw.not_mem_space
  | cons v ws ih =>
    have hrest := ih fun u hu => hws u (List.mem_cons_of_mem v hu)
    obtain ⟨first, n, more, hmore, hfirst⟩ : ∃ first n more,
        (ws.map fun v => (v, 1)) ++ [(w, 0)] = (first, n) :: more ∧ first ≠ [] := by
      cases ws with
      | nil => exact ⟨w, 0, [], rfl, hw.ne_nil⟩
      | cons u ws => exact ⟨u, 1, _, rfl, (hws u (by simp)).ne_nil⟩
    have hv := hws v List.mem_cons_self
    rw [List.cons_append, List.intercalate_cons_of_ne_nil (by simp), List.append_assoc,
      List.singleton_append, spacedWords_append hv.not_mem_space (hrest.trans hmore) hfirst,
      ← hmore]
    rfl

theorem pieces_intercalate (limit : Nat) {ws : List (List Char)} {w : List Char}
    (hws : ∀ v ∈ ws, PlainWord v) (hw : PlainWord w) :
    pieces limit ([' '].intercalate (ws ++ [w])) =
      (ws.flatMap fun v => wordPieces limit v 1) ++ wordPieces limit w 0 := by
  rw [pieces_eq, spacedWords_intercalate hws hw, List.flatMap_append, List.flatMap_singleton,
    List.flatMap_map]

theorem narrow_of_mem_pieces {limit : Nat} (hlimit : 0 < limit) {line : List Char}
    (h : PlainLine line) : ∀ p ∈ pieces limit line, p.Narrow limit := by
  intro p hp
  by_cases hne : line = []
  · subst hne
    cases hp
  · obtain ⟨ws, w, rfl, hws, hw⟩ := h.exists_words hne
    rw [pieces_intercalate limit hws hw, List.mem_append, List.mem_flatMap] at hp
    rcases hp with ⟨v, hv, hp⟩ | hp
    · exact narrow_of_mem_wordPieces hlimit (hws v hv) (Nat.le_refl 1) p hp
    · exact narrow_of_mem_wordPieces hlimit hw (Nat.zero_le 1) p hp

end Fill

end GossipPanel.Text
