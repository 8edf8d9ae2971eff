import GossipPanel.Proofs.MessageList.RowHeights
import GossipPanel.Proofs.Wrapping.WordWrap
import Mathlib.Tactic.Choose

/-!
# Rows predicted and rows drawn

The height of a message is predicted from a cheapest setting of its content, and the content is
drawn by word wrap. The two need not take the same number of rows.

* `wrappedRowCount`: the rows that word wrap needs. `length_wrappedText`: as many are drawn as there
  is room for.
* `wrappedRowCount_of_plain`: for words of narrow characters there can be no fewer rows.
* `predicted_rows_of_settings`: how the two numbers compare; `rows_cut_off` is a message of which the
  last row is not drawn.
-/

namespace GossipPanel.Screen

open Text Wrap

/-- The rows that a text takes when it is wrapped. -/
def wrappedRowCount (text : String) (width : Nat) : Nat :=
  ((textLines text).flatMap fun l => wrapLine width (glyphs [⟨l, {}⟩])).length

theorem length_wrappedText (text : String) {width : Nat} (h : 0 < width) (height : Nat) :
    (wrappedText text width height).length = min height (wrappedRowCount text width) := by
  rw [wrappedText, List.length_map, wrappedRows, if_neg (Nat.ne_of_gt h), List.length_take,
    List.flatMap_map]
  rfl

end GossipPanel.Screen

namespace GossipPanel.Text

open Fill Screen Screen.Wrap

theorem length_flatMap_eq {α β : Type} (f : α → List β) (as : List α) :
    (as.flatMap f).length = sumColumns (as.map fun a => (f a).length) := by
  induction as with
  | nil => rfl
  | cons a as ih => rw [List.flatMap_cons, List.length_append, ih, List.map_cons, sumColumns]

theorem sumColumns_map_le {α : Type} {f g : α → Nat} {as : List α} (h : ∀ a ∈ as, f a ≤ g a) :
    sumColumns (as.map f) ≤ sumColumns (as.map g) ∧
      (sumColumns (as.map g) = sumColumns (as.map f) ↔ ∀ a ∈ as, g a = f a) := by
  induction as with
  | nil => simp
  | cons a as ih =>
    obtain ⟨hle, hiff⟩ := ih fun b hb => h b (List.mem_cons_of_mem a hb)
    have ha := h a List.mem_cons_self
    simp only [List.map_cons, sumColumns, List.forall_mem_cons, ← hiff]
    omega

theorem standsAlone_of_plain {line : List Char} (h : PlainLine line) :
    ∀ c ∈ line, standsAlone c = true := by
  intro c hc
  rcases h with rfl | hwords
  · cases hc
  · by_cases hspace : c = ' '
    · rw [hspace]
      decide +kernel
    · have hmem : c ∈ (splitOn ' ' line).flatten := by
        rw [flatten_splitOn, List.mem_filter]
        exact ⟨hc, by simpa using hspace⟩
      obtain ⟨w, hw, hcw⟩ := List.mem_flatten.1 hmem
      exact (isLetter_iff.1 ((hwords w hw).letters c hcw)).1

theorem textLines_trimmed {text : String} (hne : trim text.toList ≠ [])
    (hplain : ∀ l ∈ splitOn '\n' (trim text.toList), PlainLine l) :
    textLines (trimmed text) = (splitOn '\n' (trim text.toList)).map String.ofList := by
  have hends := (isBlank_ends_trim text.toList).2
  have hreturn : '\r' ∉ trim text.toList := by
    intro hmem
    have hpiece : '\r' ∈ (splitOn '\n' (trim text.toList)).flatten := by
      rw [flatten_splitOn, List.mem_filter]
      exact ⟨hmem, by decide⟩
    obtain ⟨l, hl, hr⟩ := List.mem_flatten.1 hpiece
    have halone := standsAlone_of_plain (hplain l hl) '\r' hr
    exact absurd halone (by decide +kernel)
  have hlast : (trim text.toList).getLast? ≠ some '\n' := by
    intro hfeed
    exact absurd (hends '\n' (by rw [hfeed]; rfl)) (by decide)
  rw [trimmed, textLines, if_neg, String.toList_ofList, lines_eq_splitOn hne hlast hreturn]
  intro hempty
  exact hne (by simpa using congrArg String.toList hempty)

/-- Word wrap draws every line of words in as few rows as there can be. -/
theorem wrappedRowCount_of_plain {text : String} {limit : Nat}
    (hne : trim text.toList ≠ []) {fewest : List Char → List (List Piece)}
    (hplain : ∀ l ∈ splitOn '\n' (trim text.toList), PlainLine l)
    (hfewest : ∀ l, PlainLine l →
      (wrapLine limit (glyphsOf ({} : Style) l)).length = max 1 (fewest l).length) :
    wrappedRowCount (trimmed text) limit =
      sumColumns ((splitOn '\n' (trim text.toList)).map fun l => max 1 (fewest l).length) := by
  rw [wrappedRowCount, textLines_trimmed hne hplain, List.flatMap_map, length_flatMap_eq]
  congr 1
  refine List.map_congr_left fun l hl => ?_
  rw [glyphs_of_standsAlone (standsAlone_of_plain (hplain l hl))]
  exact hfewest l (hplain l hl)

end GossipPanel.Text

namespace GossipPanel.Display

open Panel Screen Text Text.Fill

/-- A message that is not blank is as high as cheapest settings of its lines, and three rows more;
in that height as many rows are drawn as word wrap needs, but no more than were predicted. For lines
of words of narrow characters, with one space between them, word wrap needs the fewest rows that
fit. So in up to 39 columns it never needs more than were predicted, and as many exactly if on every
line the cheapest setting is one of the fewest rows; and in any width as many as were predicted when
every line fits into a row. -/
theorem predicted_rows_of_settings (row : MessageRow) (width : Nat) (hwidth : 4 < width)
    (hcontent : trim row.content.toList ≠ [])
    (hrows : Bubble.contentRows row.content width < 65533) :
    let limit := width - 4
    let lines := splitOn '\n' (trim row.content.toList)
    let height := (Bubble.height row width).toNat
    let needed := wrappedRowCount (trimmed row.content) limit
    ∃ cheapest : List Char → List (List Piece),
      (∀ l ∈ lines, Cheapest limit (pieces limit l) (cheapest l)) ∧
      height = sumColumns (lines.map fun l => max 1 (cheapest l).length) + 3 ∧
      (∃ ground drawn, Bubble.draw row width height = Picture.overlay 2 1 ground drawn ∧
        drawn.length = min (height - 3) needed) ∧
      ((∀ l ∈ lines, PlainLine l) →
        ∃ fewest : List Char → List (List Piece),
          (∀ l ∈ lines, Fewest limit (pieces limit l) (fewest l)) ∧
          needed = sumColumns (lines.map fun l => max 1 (fewest l).length) ∧
          (limit ≤ 39 → needed ≤ height - 3 ∧
            (height - 3 = needed ↔
              ∀ l ∈ lines, max 1 (cheapest l).length = max 1 (fewest l).length)) ∧
          ((∀ l ∈ lines, charColumns l ≤ limit) → height - 3 = needed)) := by
  intro limit lines height needed
  have hlimit : 0 < limit := Nat.sub_pos_of_lt hwidth
  choose cheapest hcheapest hcount using exists_cheapest_of_line limit
  have hpredicted : Bubble.contentRows row.content width =
      sumColumns (lines.map fun l => max 1 (cheapest l).length) := by
    rw [Bubble.contentRows, if_neg (by simpa using hcontent)]
    exact congrArg sumColumns (List.map_congr_left fun l _ => hcount l)
  have hheight : height = sumColumns (lines.map fun l => max 1 (cheapest l).length) + 3 := by
    have hsum : height = (Bubble.contentRows row.content width + 3) % 65536 :=
      Bubble.toNat_height row hwidth
    omega
  refine ⟨cheapest, fun l _ => hcheapest l, hheight,
    ⟨_, _, rfl, length_wrappedText _ hlimit _⟩, fun hplain => ?_⟩
  have hexists : ∀ l, ∃ rows, PlainLine l → Fewest limit (pieces limit l) rows ∧
      (Wrap.wrapLine limit (Wrap.glyphsOf ({} : Style) l)).length = max 1 rows.length := by
    intro l
    by_cases hl : PlainLine l
    · obtain ⟨rows, hrows⟩ := Wrap.exists_fewest_of_plain hlimit ({} : Style) hl
      exact ⟨rows, fun _ => hrows⟩
    · exact ⟨[], fun h => absurd h hl⟩
  choose fewest hfewest using hexists
  have hneeded : needed = sumColumns (lines.map fun l => max 1 (fewest l).length) :=
    wrappedRowCount_of_plain hcontent hplain fun l hl => (hfewest l hl).2
  refine ⟨fewest, fun l hl => (hfewest l (hplain l hl)).1, hneeded, fun hnarrow => ?_,
    fun hfits => ?_⟩
  · have hle : ∀ l ∈ lines, max 1 (fewest l).length ≤ max 1 (cheapest l).length := by
      intro l hl
      have hlength := (hfewest l (hplain l hl)).1.length_le (hcheapest l) hnarrow
        (narrow_of_mem_pieces hlimit (hplain l hl))
      omega
    obtain ⟨hsum, hiff⟩ := sumColumns_map_le hle
    rw [hheight, hneeded, Nat.add_sub_cancel]
    exact ⟨hsum, hiff⟩
  · rw [hheight, hneeded, Nat.add_sub_cancel]
    congr 1
    refine List.map_congr_left fun l hl => ?_
    have hrow := Nat.le_trans (rowColumns_pieces_le limit l) (hfits l hl)
    have hone := (hcheapest l).length_le_one hrow
    have hone' := (hfewest l (hplain l hl)).1.length_le_one hrow
    omega

/-- Two lines of words in five columns. -/
theorem predicted_rows_of_words :
    let row : MessageRow := ⟨"alice", "", 3, "", "to be or\nnot to be", "", false, false⟩
    4 < 9 ∧ trim row.content.toList ≠ [] ∧ Bubble.contentRows row.content 9 < 65533 ∧
      (∀ l ∈ splitOn '\n' (trim row.content.toList), PlainLine l) ∧
      wrappedRowCount (trimmed row.content) 5 ≤ (Bubble.height row 9).toNat - 3 := by
  intro row
  have hcontent : trim row.content.toList ≠ [] := by decide +kernel
  have hrows : Bubble.contentRows row.content 9 < 65533 := by decide +kernel
  have hplain : ∀ l ∈ splitOn '\n' (trim row.content.toList), PlainLine l := by decide +kernel
  obtain ⟨cheapest, -, -, -, hwords⟩ :=
    predicted_rows_of_settings row 9 (by decide) hcontent hrows
  obtain ⟨fewest, -, -, hnarrow, -⟩ := hwords hplain
  exact ⟨by decide, hcontent, hrows, hplain, (hnarrow (by decide)).1⟩

/-- In 40 columns a row that is too wide may cost less than a gap. -/
example :
    let content := "a " ++ String.ofList (List.replicate 39 'b')
    Bubble.contentRows content 44 = 1 ∧ wrappedRowCount content 40 = 2 := by
  decide +kernel

/-- In four columns two rows are predicted for a word with a hyphen between two letters, but three
are needed, and the last one is not drawn: word wrap breaks no word after a hyphen. -/
theorem rows_cut_off :
    let row : MessageRow := ⟨"alice", "", 3, "", "a b-cd e", "", false, false⟩
    trim row.content.toList ≠ [] ∧ Bubble.contentRows row.content 8 = 2 ∧
      (Bubble.height row 8).toNat - 3 = 2 ∧ wrappedRowCount (trimmed row.content) 4 = 3 ∧
      (wrappedText (trimmed row.content) 4 ((Bubble.height row 8).toNat - 3)).length = 2 := by
  intro row
  refine ⟨?_, ?_, ?_, ?_, ?_⟩ <;> decide +kernel

end GossipPanel.Display
