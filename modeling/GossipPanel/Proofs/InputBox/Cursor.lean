import GossipPanel.Display.InputBox
import GossipPanel.Proofs.Text.StandsAlone
import Mathlib.Data.List.Infix

/-!
# The cursor and its character

A line wider than the box is shown from a column on. The box shows the characters that begin at this
column or behind it, so a wide character that the column cuts is left out, and one cell less is
drawn before the cursor than the column of the cursor tells.

* `beginning`, `fitting`: the shortest beginning of a text with so many columns, and the longest one
  that fits into so many. `visibleFrom_eq`: a box shows what fits behind the shortest beginning.
* `exists_near`: where widths add up, the text before the cursor is what is hidden and what is shown
  before it.
* `symbolAt?_paragraph`: which cell of the picture a character stands in.
* `cursor_at_character_iff`: the cursor is drawn at its character exactly if a character begins at
  the column from which the box shows the text; `cursor_beside_wide_character` is a box where none
  does.
-/

namespace GossipPanel.Text

/-! ## Beginnings of a text -/

/-- The shortest beginning with `columns` columns; the whole text if it has fewer. -/
def beginning (columns : Nat) : List Char → List Char
  | [] => []
  | c :: cs => if columns = 0 then [] else c :: beginning (columns - charWidth c) cs

/-- The longest beginning that fits into `room` columns. -/
def fitting (room : Nat) : List Char → List Char
  | [] => []
  | c :: cs => if room < charWidth c then [] else c :: fitting (room - charWidth c) cs

theorem beginning_zero (cs : List Char) : beginning 0 cs = [] := by
  cases cs <;> rfl

theorem isPrefix_beginning (columns : Nat) (cs : List Char) : beginning columns cs <+: cs := by
  induction cs generalizing columns with
  | nil => exact List.prefix_rfl
  | cons c cs ih =>
    rw [beginning]
    split
    · exact List.nil_prefix
    · exact List.cons_prefix_cons.2 ⟨rfl, ih _⟩

theorem beginning_prefix_of_le {columns : Nat} {start cs : List Char} (hstart : start <+: cs)
    (h : columns ≤ charColumns start) : beginning columns cs <+: start := by
  induction cs generalizing columns start with
  | nil => exact List.nil_prefix
  | cons c cs ih =>
    rw [beginning]
    split
    · exact List.nil_prefix
    · next hpos =>
      cases start with
      | nil => exact absurd (Nat.le_zero.1 h) hpos
      | cons d start =>
        obtain ⟨rfl, hrest⟩ := List.cons_prefix_cons.1 hstart
        rw [charColumns_cons] at h
        exact List.cons_prefix_cons.2 ⟨rfl, ih hrest (by omega)⟩

theorem le_charColumns_beginning {columns : Nat} {cs : List Char} (h : columns ≤ charColumns cs) :
    columns ≤ charColumns (beginning columns cs) := by
  induction cs generalizing columns with
  | nil => exact h
  | cons c cs ih =>
    rw [charColumns_cons] at h
    rw [beginning]
    split
    · next hzero => exact hzero ▸ Nat.zero_le _
    · have hrest := ih (show columns - charWidth c ≤ charColumns cs by omega)
      rw [charColumns_cons]
      omega

theorem charColumns_beginning_eq_iff {columns : Nat} {cs : List Char}
    (h : columns ≤ charColumns cs) :
    charColumns (beginning columns cs) = columns ↔
      ∃ start, start <+: cs ∧ charColumns start = columns := by
  refine ⟨fun heq => ⟨_, isPrefix_beginning columns cs, heq⟩, ?_⟩
  rintro ⟨start, hstart, hcolumns⟩
  have hle := charColumns_prefix_le (beginning_prefix_of_le hstart hcolumns.ge)
  have hge := le_charColumns_beginning h
  omega

theorem isPrefix_fitting (room : Nat) (cs : List Char) : fitting room cs <+: cs := by
  induction cs generalizing room with
  | nil => exact List.prefix_rfl
  | cons c cs ih =>
    rw [fitting]
    split
    · exact List.nil_prefix
    · exact List.cons_prefix_cons.2 ⟨rfl, ih _⟩

theorem charColumns_fitting_le (room : Nat) (cs : List Char) :
    charColumns (fitting room cs) ≤ room := by
  induction cs generalizing room with
  | nil => exact Nat.zero_le _
  | cons c cs ih =>
    rw [fitting]
    split
    · exact Nat.zero_le _
    · have hrest := ih (room - charWidth c)
      rw [charColumns_cons]
      omega

theorem prefix_fitting_of_le {room : Nat} {start cs : List Char} (hstart : start <+: cs)
    (h : charColumns start ≤ room) : start <+: fitting room cs := by
  induction cs generalizing room start with
  | nil => exact hstart
  | cons c cs ih =>
    cases start with
    | nil => exact List.nil_prefix
    | cons d start =>
      obtain ⟨rfl, hrest⟩ := List.cons_prefix_cons.1 hstart
      rw [charColumns_cons] at h
      rw [fitting, if_neg (by omega)]
      exact List.cons_prefix_cons.2 ⟨rfl, ih hrest (by omega)⟩

/-- Every piece of the text has the columns of its characters. -/
def WidthsAddUp (cs : List Char) : Prop :=
  ∀ piece, piece <:+: cs → textWidth piece = charColumns piece

theorem widthsAddUp_of_standsAlone {cs : List Char} (h : ∀ c ∈ cs, standsAlone c = true) :
    WidthsAddUp cs :=
  fun _ hpiece => textWidth_of_standsAlone fun c hc => h c (hpiece.mem hc)

end GossipPanel.Text

namespace GossipPanel.Display

open Panel Screen Text

namespace InputBox

/-! ## What the box shows -/

theorem visibleFrom_eq (scroll column room : Nat) (cs : List Char) :
    visibleFrom scroll column room cs =
      fitting room (cs.drop (beginning (scroll - column) cs).length) := by
  induction cs generalizing column room with
  | nil => rfl
  | cons c cs ih =>
    rw [visibleFrom]
    by_cases hcolumn : column < scroll
    · have hpos : scroll - column ≠ 0 := by omega
      rw [if_pos hcolumn, ih, beginning, if_neg hpos, List.length_cons, List.drop_succ_cons,
        Nat.sub_sub]
    · have hzero : scroll - column = 0 := by omega
      have hlater : scroll - (column + charWidth c) = 0 := by omega
      rw [if_neg hcolumn, hzero, beginning_zero, List.length_nil, List.drop_zero, fitting, ih,
        hlater, beginning_zero, List.length_nil, List.drop_zero]

/-- Where widths add up, the text before the cursor is what is hidden and what is shown before the
cursor. The latter has the columns from `scroll` on, unless `scroll` cuts a character. -/
theorem exists_near (b : InputBox) {width : Nat} (hwidths : WidthsAddUp b.buffer.toList)
    (hscroll : b.scroll ≤ b.cursorColumn) (hcovers : b.cursorColumn < b.scroll + width) :
    ∃ near behind,
      b.parts.1 = beginning b.scroll b.buffer.toList ++ near ∧
        fitting width (b.buffer.toList.drop (beginning b.scroll b.buffer.toList).length) =
          near ++ behind ∧
        textWidth near ≤ b.cursorColumn - b.scroll ∧
        (textWidth near = b.cursorColumn - b.scroll ↔
          ∃ start, start <+: b.buffer.toList ∧ charColumns start = b.scroll) := by
  have hbuffer : b.parts.1 ++ b.parts.2 = b.buffer.toList := splitAtByte_append _ _
  have hbefore : b.parts.1 <+: b.buffer.toList := ⟨_, hbuffer⟩
  have hcolumn : b.cursorColumn = charColumns b.parts.1 := hwidths _ hbefore.isInfix
  have hfits := Nat.le_trans (hcolumn ▸ hscroll) (charColumns_prefix_le hbefore)
  have hreaches := le_charColumns_beginning hfits
  have hedge := charColumns_beginning_eq_iff hfits
  obtain ⟨near, hnear⟩ := beginning_prefix_of_le hbefore (hcolumn ▸ hscroll)
  generalize beginning b.scroll b.buffer.toList = hidden at *
  have hsum : charColumns hidden + charColumns near = b.cursorColumn := by
    rw [hcolumn, ← hnear, charColumns_append]
  have hwidth : textWidth near = charColumns near :=
    hwidths near ⟨hidden, b.parts.2, by rw [hnear, hbuffer]⟩
  have hrest : b.buffer.toList.drop hidden.length = near ++ b.parts.2 := by
    rw [← hbuffer, ← hnear, List.append_assoc, List.drop_left]
  obtain ⟨behind, hbehind⟩ : near <+: fitting width (near ++ b.parts.2) :=
    prefix_fitting_of_le (List.prefix_append _ _) (by omega)
  refine ⟨near, behind, hnear.symm, by rw [hrest, hbehind], by omega, ?_⟩
  rw [← hedge, hwidth]
  omega

theorem draw_eq (b : InputBox) (title : String) (width height : Nat) :
    ∃ f : Frame, b.draw title true width height =
      (b.updateScroll (width - 2),
        f.around width height (paragraph (.colored .green)
          ((b.updateScroll (width - 2)).visibleText (width - 2)) (width - 2) (height - 2)),
        some (1 + (b.cursorColumn - (b.updateScroll (width - 2)).scroll), 1)) :=
  ⟨_, rfl⟩

end InputBox

/-- Whatever is typed and however far the text has been scrolled before, a box of three columns or
more shows a piece of its text, and its cursor inside. Where widths add up, what is shown before the
cursor has as many columns as lie between the column `scroll` and the cursor exactly if a character
begins at this column, or the text ends there; then the cursor is in the cell of the character
behind it, the first blank one if none is shown behind it, as long as all characters stand alone. -/
theorem cursor_at_character_iff (b : InputBox) (title : String) (width height : Nat)
    (hwidth : 3 ≤ width) :
    let drawn := (b.draw title true width height).1
    let picture := (b.draw title true width height).2.1
    let cursor := (b.draw title true width height).2.2
    let text := b.buffer.toList
    ∃ hidden shown rest,
      text = hidden ++ shown ++ rest ∧
        (∃ f : Frame, picture = f.around width height
          (paragraph (.colored .green) (String.ofList shown) (width - 2) (height - 2))) ∧
        drawn.scroll ≤ b.cursorColumn ∧ b.cursorColumn < drawn.scroll + (width - 2) ∧
        cursor = some (1 + (b.cursorColumn - drawn.scroll), 1) ∧
        (WidthsAddUp text → ∃ near behind,
          b.parts.1 = hidden ++ near ∧ shown = near ++ behind ∧
            (textWidth near = b.cursorColumn - drawn.scroll ↔
              ∃ start, start <+: text ∧ charColumns start = drawn.scroll) ∧
            ((∀ c ∈ text, standsAlone c = true) → 3 ≤ height →
              symbolAt? picture (1 + textWidth near) 1 =
                some ((behind.head?.map String.singleton).getD " "))) := by
  intro drawn picture cursor text
  obtain ⟨f, hdraw⟩ := b.draw_eq title width height
  have hdrawn : drawn = b.updateScroll (width - 2) := congrArg Prod.fst hdraw
  obtain ⟨hscroll, hcovers⟩ := b.updateScroll_covers (show 0 < width - 2 by omega)
  let hidden := beginning drawn.scroll text
  let shown := fitting (width - 2) (text.drop hidden.length)
  have hvisible : (b.updateScroll (width - 2)).visibleText (width - 2) = String.ofList shown := by
    show String.ofList (InputBox.visibleFrom _ 0 (width - 2) text) = _
    rw [InputBox.visibleFrom_eq, Nat.sub_zero, ← hdrawn]
  have hpicture : picture = f.around width height
      (paragraph (.colored .green) (String.ofList shown) (width - 2) (height - 2)) := by
    rw [← hvisible]
    exact congrArg (·.2.1) hdraw
  have hhidden : hidden ++ text.drop hidden.length = text :=
    List.prefix_iff_eq_append.1 (isPrefix_beginning drawn.scroll text)
  obtain ⟨rest, hrest⟩ : shown <+: text.drop hidden.length := isPrefix_fitting _ _
  have htext : text = hidden ++ shown ++ rest := by rw [List.append_assoc, hrest, hhidden]
  refine ⟨hidden, shown, rest, htext, ⟨f, hpicture⟩, hdrawn ▸ hscroll, hdrawn ▸ hcovers, ?_, ?_⟩
  · rw [hdrawn]
    exact congrArg (·.2.2) hdraw
  · intro hwidths
    obtain ⟨near, behind, hbefore, hshown, hle, hiff⟩ :=
      (b.updateScroll (width - 2)).exists_near hwidths hscroll hcovers
    rw [← hdrawn] at hbefore hshown hle hiff hcovers
    have hle : textWidth near ≤ b.cursorColumn - drawn.scroll := hle
    refine ⟨near, behind, hbefore, hshown, hiff, fun halone hheight => ?_⟩
    have hmem : ∀ c ∈ near ++ behind, standsAlone c = true := by
      intro c hc
      refine halone c ?_
      rw [htext, show shown = near ++ behind from hshown]
      simp only [List.mem_append] at hc ⊢
      tauto
    have hfits : charColumns (near ++ behind) ≤ width - 2 :=
      hshown ▸ charColumns_fitting_le (width - 2) (text.drop hidden.length)
    have hwidth_near : textWidth near = charColumns near :=
      textWidth_of_standsAlone fun c hc => hmem c (List.mem_append_left _ hc)
    have hcell := symbolAt?_paragraph hmem f (.colored .green) hfits (by omega)
      (show 0 < height - 2 by omega)
    rw [hwidth_near, hpicture, show shown = near ++ behind from hshown]
    rwa [Nat.sub_add_cancel (by omega), Nat.sub_add_cancel (by omega)] at hcell

/-- In a scrolled box the cursor is at the wide character behind it. -/
theorem cursor_at_wide_character :
    let b : InputBox := { buffer := "ab世c世d", cursor := 6, scroll := 2 }
    let picture := (b.draw "" true 7 3).2.1
    3 ≤ 7 ∧ WidthsAddUp b.buffer.toList ∧
      (∃ near, near <:+ "ab世c".toList ∧ textWidth near = 3 ∧
        (b.draw "" true 7 3).2.2 = some (1 + textWidth near, 1)) ∧
      symbolAt? picture 4 1 = some "世" := by
  intro b picture
  have hwidths : WidthsAddUp b.buffer.toList :=
    widthsAddUp_of_standsAlone (List.all_eq_true.1 (by decide +kernel))
  have hcolumn : b.cursorColumn - (b.draw "" true 7 3).1.scroll = 3 := by decide +kernel
  obtain ⟨hidden, shown, rest, -, -, -, -, hcursor, hnear⟩ :=
    cursor_at_character_iff b "" 7 3 (by decide)
  obtain ⟨near, behind, hbefore, -, hiff, -⟩ := hnear hwidths
  have hedge : ∃ start, start <+: b.buffer.toList ∧
      charColumns start = (b.draw "" true 7 3).1.scroll :=
    ⟨['a', 'b'], by decide +kernel, by decide +kernel⟩
  have hthree : textWidth near = 3 := (hiff.2 hedge).trans hcolumn
  refine ⟨by decide, hwidths, ⟨near, ?_, hthree, ?_⟩, by decide +kernel⟩
  · have hparts : b.parts.1 = "ab世c".toList := by decide +kernel
    exact ⟨hidden, by rw [← hbefore, hparts]⟩
  · rw [hcursor, hcolumn, hthree]

/-- Behind three wide characters in four columns, of which one is shown, the cursor is not directly
behind that one but a cell further on: the column from which the box shows the text cuts a
character. -/
theorem cursor_beside_wide_character :
    let b := (({} : InputBox).handle (.paste "世世世")).2
    let drawn := (b.draw "" true 6 3).1
    let picture := (b.draw "" true 6 3).2.1
    b.parts = (['世', '世', '世'], []) ∧ drawn.visibleText 4 = "世" ∧
      textWidth ['世'] ≠ b.cursorColumn - drawn.scroll ∧
      symbolAt? picture 1 1 = some "世" ∧
      symbolAt? picture (1 + textWidth ['世']) 1 = some " " ∧
      (b.draw "" true 6 3).2.2 ≠ some (1 + textWidth ['世'], 1) := by
  intro b drawn picture
  refine ⟨?_, ?_, ?_, ?_, ?_, ?_⟩ <;> decide +kernel

end GossipPanel.Display
