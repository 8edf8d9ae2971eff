import GossipPanel.Proofs.Text.StandsAlone
import GossipPanel.Proofs.Wrapping.Settings

/-!
# The pieces of a line

What the search for a setting is given: how many columns the pieces have together, and what becomes
of them when the line grows by a character.

* `advance_pieces_le`: the pieces have no more columns than the characters of the line.
* `pieces_concat`: with one more character the last piece grows, or pieces follow behind it.
* `exists_cheapest_of_line`: a line has the rows of a cheapest setting of its pieces, also where it
  is so short that no setting is sought.
-/

namespace GossipPanel.Text

theorem charWidth_le_utf8Size (c : Char) : charWidth c ≤ c.utf8Size := by
  have hval : c.toNat = c.val.toNat := rfl
  unfold charWidth Char.utf8Size
  simp only [UInt32.le_iff_toNat_le, UInt32.toNat_ofNatLT, ← hval]
  by_cases hcontrol : isControl c = true
  · simp only [hcontrol, if_true]
    repeat' split
    all_goals omega
  · have hdelete : c.toNat ≠ 0x7f := fun heq => hcontrol (by simp [isControl, heq])
    repeat' split
    all_goals omega

theorem charColumns_le_byteLength (cs : List Char) : charColumns cs ≤ byteLength cs := by
  induction cs with
  | nil => exact Nat.le_refl 0
  | cons c cs ih => exact Nat.add_le_add (charWidth_le_utf8Size c) ih

namespace Fill

/-! ## Escape sequences -/

theorem dropCommand_suffix (last : Char) (cs : List Char) :
    dropEscape.dropCommand last cs <:+ cs := by
  induction cs generalizing last with
  | nil => exact List.suffix_rfl
  | cons c cs ih =>
    rw [dropEscape.dropCommand]
    split
    · exact List.suffix_cons c cs
    · exact (ih c).trans (List.suffix_cons c cs)

theorem dropEscape_suffix (cs : List Char) : dropEscape cs <:+ cs := by
  unfold dropEscape
  split
  · exact ((List.drop_suffix _ _).trans (List.dropWhile_suffix _)).trans (List.suffix_cons _ _)
  · exact (dropCommand_suffix _ _).trans (List.suffix_cons _ _)
  · exact List.suffix_cons _ _
  · exact List.suffix_rfl

theorem dropCommand_concat (last : Char) (cs : List Char) (c : Char) :
    dropEscape.dropCommand last (cs ++ [c]) = dropEscape.dropCommand last cs ++ [c] ∨
      dropEscape.dropCommand last (cs ++ [c]) = [] ∧ dropEscape.dropCommand last cs = [] := by
  induction cs generalizing last with
  | nil => right; simp [dropEscape.dropCommand]
  | cons d cs ih =>
    rw [List.cons_append, dropEscape.dropCommand, dropEscape.dropCommand]
    split
    · exact .inl rfl
    · exact ih d

theorem dropEscape_concat (cs : List Char) (c : Char) :
    dropEscape (cs ++ [c]) = dropEscape cs ++ [c] ∨
      dropEscape (cs ++ [c]) = [] ∧ dropEscape cs = [] := by
  rcases cs with - | ⟨d, cs⟩
  · right
    unfold dropEscape
    split <;> simp_all [dropEscape.dropCommand]
  · by_cases hcontrol : d = '['
    · subst hcontrol
      let inside := fun c : Char => !('@' ≤ c && c ≤ '~')
      show ((cs ++ [c]).dropWhile inside).drop 1 = (cs.dropWhile inside).drop 1 ++ [c] ∨
        ((cs ++ [c]).dropWhile inside).drop 1 = [] ∧ (cs.dropWhile inside).drop 1 = []
      rw [List.dropWhile_append]
      cases hend : cs.dropWhile inside with
      | nil =>
        right
        cases hc : inside c <;> simp [List.dropWhile, hc]
      | cons e rest => simp
    · by_cases hcommand : d = ']'
      · subst hcommand
        exact dropCommand_concat ']' cs c
      · left
        simp [dropEscape]

/-! ## Columns -/

theorem charColumns_suffix_le {as bs : List Char} (h : as <:+ bs) :
    charColumns as ≤ charColumns bs := by
  obtain ⟨front, rfl⟩ := h
  rw [charColumns_append]
  exact Nat.le_add_left _ _

theorem sumColumns_columns_le (cs : List Char) : sumColumns (columns cs) ≤ charColumns cs := by
  fun_induction columns cs with
  | case1 => exact Nat.le_refl 0
  | case2 cs _ ih =>
    have hrest := charColumns_suffix_le (dropEscape_suffix cs)
    rw [charColumns_cons]
    omega
  | case3 c cs _ ih =>
    rw [sumColumns, charColumns_cons]
    omega

theorem columns_concat (cs : List Char) (c : Char) :
    columns (cs ++ [c]) = columns cs ∨ columns (cs ++ [c]) = columns cs ++ [charWidth c] := by
  fun_induction columns cs with
  | case1 =>
    by_cases hc : c = '\x1b'
    · left
      simp [columns, hc, dropEscape]
    · right
      simp [columns, hc]
  | case2 cs _ ih =>
    rw [List.cons_append, columns, if_pos rfl]
    rcases dropEscape_concat cs c with hstays | ⟨hgone, hnone⟩
    · rwa [hstays]
    · left
      rw [hgone, hnone]
  | case3 d cs hd ih =>
    rw [List.cons_append, columns, if_neg hd]
    rcases ih with ih | ih
    · exact .inl (by rw [ih])
    · exact .inr (by rw [ih, List.cons_append])

/-! ## Parts of words -/

theorem sumColumns_cutColumns (limit used : Nat) (ws : List Nat) :
    sumColumns (cutColumns limit used ws) = used + sumColumns ws := by
  induction ws generalizing used with
  | nil => rfl
  | cons w ws ih =>
    rw [cutColumns]
    split
    · rw [sumColumns, ih, sumColumns]
    · rw [ih, sumColumns, Nat.add_assoc]

theorem cutColumns_of_fits {limit used : Nat} {ws : List Nat} (h : used + sumColumns ws ≤ limit) :
    cutColumns limit used ws = [used + sumColumns ws] := by
  induction ws generalizing used with
  | nil => rfl
  | cons w ws ih =>
    rw [sumColumns] at h ⊢
    rw [cutColumns, if_neg (by omega), ih (by omega), Nat.add_assoc]

theorem cutColumns_concat (limit used : Nat) (ws : List Nat) (w : Nat) :
    ∃ init last, cutColumns limit used ws = init ++ [last] ∧
      cutColumns limit used (ws ++ [w]) =
        if 0 < last ∧ limit < last + w then init ++ [last] ++ [w] else init ++ [last + w] := by
  induction ws generalizing used with
  | nil => exact ⟨[], used, rfl, rfl⟩
  | cons v ws ih =>
    rw [List.cons_append, cutColumns, cutColumns]
    split
    · obtain ⟨init, last, hold, hnew⟩ := ih v
      refine ⟨used :: init, last, by rw [hold, List.cons_append], ?_⟩
      rw [hnew]
      split <;> rfl
    · exact ih (used + v)

theorem partWidths_eq (limit : Nat) (part : List Char) :
    partWidths limit part = cutColumns limit 0 (columns part) := by
  show (if limit < sumColumns (columns part) then cutColumns limit 0 (columns part)
    else [sumColumns (columns part)]) = _
  split
  · rfl
  · rw [cutColumns_of_fits (by omega), Nat.zero_add]

theorem partWidths_concat (limit : Nat) (part : List Char) (c : Char) :
    ∃ init last, partWidths limit part = init ++ [last] ∧
      ((∃ w, last ≤ w ∧ partWidths limit (part ++ [c]) = init ++ [w]) ∨
        ∃ w, partWidths limit (part ++ [c]) = init ++ [last] ++ [w]) := by
  obtain ⟨init, last, hcut, hmore⟩ := cutColumns_concat limit 0 (columns part) (charWidth c)
  rw [partWidths_eq, partWidths_eq]
  refine ⟨init, last, hcut, ?_⟩
  rcases columns_concat part c with hsame | hnew
  · exact .inl ⟨last, Nat.le_refl _, by rw [hsame, hcut]⟩
  · rw [hnew, hmore]
    split
    · exact .inr ⟨_, rfl⟩
    · exact .inl ⟨_, Nat.le_add_right _ _, rfl⟩

theorem flatten_hyphenParts (before : Option Char) (part cs : List Char) :
    (hyphenParts before part cs).flatten = part.reverse ++ cs := by
  induction cs generalizing before part with
  | nil => simp [hyphenParts]
  | cons c cs ih =>
    rw [hyphenParts]
    split
    · simp [ih]
    · simp [ih]

theorem hyphenParts_concat (before : Option Char) (part cs : List Char) (c : Char) :
    ∃ init last, hyphenParts before part cs = init ++ [last] ∧
      (hyphenParts before part (cs ++ [c]) = init ++ [last ++ [c]] ∨
        hyphenParts before part (cs ++ [c]) = init ++ [last] ++ [[c]]) := by
  induction cs generalizing before part with
  | nil => exact ⟨[], part.reverse, rfl, .inl (by simp [hyphenParts])⟩
  | cons d cs ih =>
    cases cs with
    | nil =>
      refine ⟨[], (d :: part).reverse, by simp [hyphenParts], ?_⟩
      rw [List.cons_append, hyphenParts]
      split
      · right; simp [hyphenParts]
      · left; simp [hyphenParts]
    | cons e cs =>
      have hcons : ∀ rest : List Char, hyphenParts before part (d :: e :: rest) =
          if d = '-' && before.any isAlphanumeric && isAlphanumeric e then
            (d :: part).reverse :: hyphenParts (some d) [] (e :: rest)
          else hyphenParts (some d) (d :: part) (e :: rest) := fun _ => rfl
      rw [List.cons_append, List.cons_append, hcons, hcons, ← List.cons_append]
      split
      · obtain ⟨init, last, hold, hnew⟩ := ih (some d) []
        refine ⟨(d :: part).reverse :: init, last, by rw [hold, List.cons_append], ?_⟩
        rcases hnew with hnew | hnew
        · exact .inl (by rw [hnew, List.cons_append])
        · exact .inr (by rw [hnew, List.cons_append, List.cons_append])
      · exact ih (some d) (d :: part)

/-! ## Words -/

/-- The columns of words and of the spaces behind them. -/
def wordColumns (ws : List (List Char × Nat)) : Nat :=
  sumColumns (ws.map fun (word, space) => charColumns word + space)

theorem wordColumns_spacedWords (line : List Char) :
    wordColumns (spacedWords line) = charColumns line := by
  induction line with
  | nil => rfl
  | cons c line ih =>
    have hspace : charWidth ' ' = 1 := rfl
    rw [spacedWords]
    rw [wordColumns] at ih ⊢
    rw [charColumns_cons]
    rcases hwords : spacedWords line with - | ⟨⟨w, n⟩, rest⟩
    · rw [hwords] at ih
      simp only [List.map_nil, sumColumns] at ih
      by_cases hc : c = ' '
      · subst hc
        simp [sumColumns, hspace, ← ih]
      · simp [hc, sumColumns, ← ih]
    · rw [hwords] at ih
      simp only [List.map_cons, sumColumns] at ih
      by_cases hc : c = ' '
      · subst hc
        cases hw : w.isEmpty
        · simp [hw, sumColumns, hspace]
          omega
        · obtain rfl := List.isEmpty_iff.1 hw
          simp only [charColumns_nil] at ih
          simp [sumColumns, hspace]
          omega
      · simp only [hc, if_false, List.map_cons, sumColumns, charColumns_cons]
        omega

theorem spacedWords_concat {line : List Char} (h : line ≠ []) (c : Char) :
    ∃ init word space, spacedWords line = init ++ [(word, space)] ∧
      spacedWords (line ++ [c]) =
        if c = ' ' then init ++ [(word, space + 1)]
        else if space = 0 then init ++ [(word ++ [c], 0)]
        else init ++ [(word, space), ([c], 0)] := by
  induction line with
  | nil => exact absurd rfl h
  | cons d line ih =>
    cases line with
    | nil =>
      by_cases hd : d = ' ' <;> by_cases hc : c = ' '
      · exact ⟨[], [], 1, by simp [spacedWords, hd], by simp [spacedWords, hd, hc]⟩
      · exact ⟨[], [], 1, by simp [spacedWords, hd], by simp [spacedWords, hd, hc]⟩
      · exact ⟨[], [d], 0, by simp [spacedWords, hd], by simp [spacedWords, hd, hc]⟩
      · exact ⟨[], [d], 0, by simp [spacedWords, hd], by simp [spacedWords, hd, hc]⟩
    | cons e line =>
      obtain ⟨init, word, space, hold, hnew⟩ := ih (by simp)
      rw [List.cons_append, spacedWords, hold, spacedWords, hnew]
      rcases init with - | ⟨⟨first, n⟩, init⟩
      · by_cases hd : d = ' '
        · cases hword : word.isEmpty with
          | true =>
            obtain rfl := List.isEmpty_iff.1 hword
            refine ⟨[], [], space + 1, by simp [hd], ?_⟩
            split_ifs <;> simp_all
          | false =>
            refine ⟨[([], 1)], word, space, by simp [hd, hword], ?_⟩
            split_ifs <;> simp_all
        · refine ⟨[], d :: word, space, by simp [hd], ?_⟩
          split_ifs <;> simp_all
      · by_cases hd : d = ' '
        · cases hfirst : first.isEmpty with
          | true =>
            refine ⟨([], n + 1) :: init, word, space, by simp [hd, hfirst], ?_⟩
            split_ifs <;> simp_all
          | false =>
            refine ⟨([], 1) :: (first, n) :: init, word, space, by simp [hd, hfirst], ?_⟩
            split_ifs <;> simp_all
        · refine ⟨(d :: first, n) :: init, word, space, by simp [hd], ?_⟩
          split_ifs <;> simp_all

/-! ## Pieces -/

theorem piecesOf_concat (space : Nat) (ws : List Nat) (w : Nat) :
    piecesOf space (ws ++ [w]) = (ws.map fun v => (⟨v, 0⟩ : Piece)) ++ [⟨w, space⟩] := by
  induction ws with
  | nil => rfl
  | cons v ws ih =>
    obtain ⟨x, xs, hrest⟩ : ∃ x xs, ws ++ [w] = x :: xs :=
      List.exists_cons_of_ne_nil (by simp)
    rw [List.cons_append, hrest, piecesOf, ← hrest, ih, List.map_cons, List.cons_append]
    simp

theorem advance_map (ws : List Nat) :
    advance (ws.map fun v => (⟨v, 0⟩ : Piece)) = sumColumns ws := by
  induction ws with
  | nil => rfl
  | cons v ws ih => rw [List.map_cons, advance_cons, ih, sumColumns, Nat.add_zero]

theorem advance_piecesOf_le (space : Nat) (ws : List Nat) :
    advance (piecesOf space ws) ≤ sumColumns ws + space := by
  rcases List.eq_nil_or_concat' ws with rfl | ⟨init, w, rfl⟩
  · exact Nat.zero_le _
  · rw [piecesOf_concat, advance_append, advance_map, sumColumns_append]
    show sumColumns init + (w + space + 0) ≤ sumColumns init + (w + 0) + space
    omega

/-- The pieces of a word with the spaces behind it. -/
def wordPieces (limit : Nat) (word : List Char) (space : Nat) : List Piece :=
  piecesOf space ((hyphenParts none [] word).flatMap (partWidths limit))

theorem pieces_eq (limit : Nat) (line : List Char) :
    pieces limit line =
      (spacedWords line).flatMap fun (word, space) => wordPieces limit word space := rfl

theorem sumColumns_partWidths_le (limit : Nat) (parts : List (List Char)) :
    sumColumns (parts.flatMap (partWidths limit)) ≤ charColumns parts.flatten := by
  induction parts with
  | nil => exact Nat.le_refl 0
  | cons part parts ih =>
    have hpart := sumColumns_columns_le part
    rw [List.flatMap_cons, sumColumns_append, partWidths_eq, sumColumns_cutColumns,
      List.flatten_cons, charColumns_append]
    omega

theorem advance_wordPieces_le (limit : Nat) (word : List Char) (space : Nat) :
    advance (wordPieces limit word space) ≤ charColumns word + space := by
  have hword := sumColumns_partWidths_le limit (hyphenParts none [] word)
  rw [flatten_hyphenParts, List.reverse_nil, List.nil_append] at hword
  exact Nat.le_trans (advance_piecesOf_le _ _) (Nat.add_le_add_right hword _)

theorem advance_words_le (limit : Nat) (ws : List (List Char × Nat)) :
    advance (ws.flatMap fun (word, space) => wordPieces limit word space) ≤ wordColumns ws := by
  induction ws with
  | nil => exact Nat.le_refl 0
  | cons first ws ih =>
    have hfirst := advance_wordPieces_le limit first.1 first.2
    rw [List.flatMap_cons, advance_append, wordColumns, List.map_cons, sumColumns]
    exact Nat.add_le_add hfirst ih

theorem advance_pieces_le (limit : Nat) (line : List Char) :
    advance (pieces limit line) ≤ charColumns line := by
  rw [pieces_eq, ← wordColumns_spacedWords line]
  exact advance_words_le limit _

theorem rowColumns_pieces_le (limit : Nat) (line : List Char) :
    rowColumns (pieces limit line) ≤ charColumns line :=
  Nat.le_trans (rowColumns_le_advance _) (advance_pieces_le limit line)

/-- How pieces grow with their line: the last one gets wider, or pieces follow behind it. -/
inductive Grows : List Piece → List Piece → Prop where
  | more (ps new : List Piece) : Grows ps (ps ++ new)
  | wider (ps : List Piece) {w w' : Nat} (h : w ≤ w') (space space' : Nat) :
      Grows (ps ++ [⟨w, space⟩]) (ps ++ [⟨w', space'⟩])

theorem Grows.append_left {ps qs : List Piece} (h : Grows ps qs) (front : List Piece) :
    Grows (front ++ ps) (front ++ qs) := by
  cases h with
  | more ps new =>
    rw [← List.append_assoc]
    exact Grows.more _ new
  | wider ps hle space space' =>
    rw [← List.append_assoc, ← List.append_assoc]
    exact Grows.wider _ hle space space'

theorem grows_piecesOf_space (ws : List Nat) (space space' : Nat) :
    Grows (piecesOf space ws) (piecesOf space' ws) := by
  rcases List.eq_nil_or_concat' ws with rfl | ⟨init, w, rfl⟩
  · exact Grows.more [] []
  · rw [piecesOf_concat, piecesOf_concat]
    exact Grows.wider _ (Nat.le_refl w) _ _

theorem piecesOf_zero (ws : List Nat) : piecesOf 0 ws = ws.map fun v => (⟨v, 0⟩ : Piece) := by
  rcases List.eq_nil_or_concat' ws with rfl | ⟨init, w, rfl⟩
  · rfl
  · rw [piecesOf_concat, List.map_append, List.map_singleton]

/-- One more character of a word makes its last piece wider, or pieces follow behind it. -/
theorem grows_wordPieces (limit : Nat) (word : List Char) (c : Char) :
    Grows (wordPieces limit word 0) (wordPieces limit (word ++ [c]) 0) := by
  obtain ⟨parts, part, hold, hnew⟩ := hyphenParts_concat none [] word c
  obtain ⟨init, last, hpart, hmore⟩ := partWidths_concat limit part c
  rw [wordPieces, wordPieces, piecesOf_zero, piecesOf_zero, hold]
  rcases hnew with hnew | hnew
  · rw [hnew, List.flatMap_append, List.flatMap_append, List.map_append, List.map_append]
    refine Grows.append_left ?_ _
    rw [List.flatMap_singleton, List.flatMap_singleton, hpart]
    rcases hmore with ⟨w, hle, hw⟩ | ⟨w, hw⟩
    · rw [hw, List.map_append, List.map_append]
      exact Grows.wider _ hle 0 0
    · rw [hw]
      conv => arg 2; rw [List.map_append]
      exact Grows.more _ _
  · rw [hnew]
    conv => arg 2; rw [List.flatMap_append, List.map_append]
    exact Grows.more _ _

theorem pieces_concat (limit : Nat) (line : List Char) (c : Char) :
    Grows (pieces limit line) (pieces limit (line ++ [c])) := by
  by_cases hline : line = []
  · rw [hline]
    exact Grows.more [] _
  · obtain ⟨words, word, space, hold, hnew⟩ := spacedWords_concat hline c
    have hlast : ∀ (word : List Char) (space : Nat),
        (words ++ [(word, space)]).flatMap (fun (word, space) => wordPieces limit word space) =
          words.flatMap (fun (word, space) => wordPieces limit word space) ++
            wordPieces limit word space := by
      intro word space
      rw [List.flatMap_append, List.flatMap_singleton]
    rw [pieces_eq, pieces_eq, hold, hnew]
    split
    · -- the character is one more space
      rw [hlast, hlast]
      exact (grows_piecesOf_space _ _ _).append_left _
    · split
      · -- it belongs to the last word
        next hspace =>
        rw [hlast, hlast, hspace]
        exact (grows_wordPieces limit word c).append_left _
      · -- it begins a word
        rw [show words ++ [(word, space), ([c], 0)] = (words ++ [(word, space)]) ++ [([c], 0)] by
          simp]
        conv => arg 2; rw [List.flatMap_append]
        exact Grows.more _ _

/-! ## Lines -/

theorem le_cost (limit : Nat) (isLast : Bool) (rows : List (List Piece)) :
    1000 * rows.length ≤ cost limit isLast rows := by
  induction rows using List.reverseRecOn generalizing isLast with
  | nil => exact Nat.zero_le _
  | append_singleton rows row ih =>
    have hrow : 1000 ≤ rowCost limit (rowColumns row) isLast (row.length = 1) :=
      Nat.le_add_right _ _
    have hrest := ih false
    rw [cost_concat, List.length_append, List.length_singleton]
    omega

theorem cost_singleton_le {limit : Nat} {ps : List Piece} (h : rowColumns ps ≤ limit) :
    cost limit true [ps] ≤ 1025 := by
  show rowCost limit (rowColumns ps) true (ps.length = 1) ≤ 1025
  rw [rowCost_last]
  split <;> omega

theorem cheapest_singleton {limit : Nat} {ps : List Piece} (hne : ps ≠ [])
    (hfits : rowColumns ps ≤ limit) : Cheapest limit ps [ps] := by
  refine ⟨sets_singleton hne, fun others hsets => ?_⟩
  rcases others with - | ⟨row, - | ⟨second, rest⟩⟩
  · exact absurd hsets.flatten (Ne.symm hne)
  · obtain rfl : row = ps := by simpa using hsets.flatten
    exact Nat.le_refl _
  · have hone := cost_singleton_le hfits
    have htwo := le_cost limit true (row :: second :: rest)
    simp only [List.length_cons] at htwo
    omega

theorem Cheapest.length_le_one {limit : Nat} {ps : List Piece} {rows : List (List Piece)}
    (h : Cheapest limit ps rows) (hfits : rowColumns ps ≤ limit) : rows.length ≤ 1 := by
  by_cases hne : ps = []
  · subst hne
    rw [h.sets.eq_nil]
    exact Nat.zero_le 1
  · have hone := cost_singleton_le hfits
    have hleast := h.least [ps] (sets_singleton hne)
    have hrows := le_cost limit true rows
    omega

/-- A line has the rows of a cheapest setting of its pieces; without pieces it has one. -/
theorem exists_cheapest_of_line (limit : Nat) (line : List Char) :
    ∃ rows, Cheapest limit (pieces limit line) rows ∧ lineRows limit line = max 1 rows.length := by
  rw [lineRows]
  split
  · next hshort =>
    have hfits := rowColumns_pieces_le limit line
    have hbytes := charColumns_le_byteLength line
    by_cases hne : pieces limit line = []
    · rw [hne]
      exact ⟨[], ⟨sets_nil, fun _ _ => Nat.zero_le _⟩, rfl⟩
    · exact ⟨_, cheapest_singleton hne (by omega), rfl⟩
  · exact exists_cheapest limit _

end Fill

end GossipPanel.Text
