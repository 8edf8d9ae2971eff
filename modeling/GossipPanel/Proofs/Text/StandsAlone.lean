import GossipPanel.Screen.Frame
import GossipPanel.Screen.Paragraph
import Mathlib.Data.List.Basic

/-!
# Characters that stand alone

Letters, ideographs, syllables and most symbols are drawn one by one, whatever like character stands
beside them: each is a cluster of its own, and a text of them has as many columns as its characters
have on their own. Controls, marks, joiners, selectors, regional indicators and the letters of
ligatures do not stand alone.

* `textWidth_of_standsAlone`, `clusters_of_standsAlone`: the columns and clusters of such a text.
* `glyphs_of_standsAlone`: what is drawn of it. `symbolAt?_paragraph`: in which cells of a frame it
  stands.
-/

namespace GossipPanel.Text

open Property

/-- The columns of the characters of a text, each on its own. -/
def charColumns (cs : List Char) : Nat :=
  sumColumns (cs.map charWidth)

@[simp]
theorem charColumns_nil : charColumns [] = 0 := rfl

@[simp]
theorem charColumns_cons (c : Char) (cs : List Char) :
    charColumns (c :: cs) = charWidth c + charColumns cs := rfl

@[simp]
theorem charColumns_append (as bs : List Char) :
    charColumns (as ++ bs) = charColumns as + charColumns bs := by
  rw [charColumns, List.map_append, sumColumns_append]
  rfl

theorem charColumns_prefix_le {as bs : List Char} (h : as <+: bs) :
    charColumns as ≤ charColumns bs := by
  obtain ⟨rest, rfl⟩ := h
  rw [charColumns_append]
  exact Nat.le_add_right _ _

/-- A character that does not join with its neighbours, as long as they do not either. -/
def standsAlone (c : Char) : Bool :=
  decide (0 < charWidth c) &&
    (breakClass c == .other || breakClass c == .openSyllable || breakClass c == .closedSyllable) &&
    (Sequence.start c == .other || Sequence.start c == .emoji)

theorem standsAlone_iff {c : Char} :
    standsAlone c = true ↔ 0 < charWidth c ∧
      (breakClass c = .other ∨ breakClass c = .openSyllable ∨ breakClass c = .closedSyllable) ∧
      (Sequence.start c = .other ∨ Sequence.start c = .emoji) := by
  simp [standsAlone, and_assoc, or_assoc]

theorem charWidth_of_isControl {c : Char} (h : isControl c = true) : charWidth c = 0 := by
  have hrange : c.toNat < 0x20 ∨ 0x7f ≤ c.toNat ∧ c.toNat ≤ 0x9f := by
    simpa [isControl] using h
  unfold charWidth
  rcases hrange with hlow | hhigh
  · simp [hlow, show c.toNat < 0x7f by omega]
  · simp [h, show ¬c.toNat < 0x7f by omega]

section

variable {c : Char} (h : standsAlone c = true)
include h

theorem isControl_of_standsAlone : isControl c = false := by
  cases hcontrol : isControl c with
  | false => rfl
  | true =>
    have hpos := (standsAlone_iff.1 h).1
    rw [charWidth_of_isControl hcontrol] at hpos
    exact absurd hpos (Nat.lt_irrefl 0)

theorem toNat_ne_of_standsAlone {d : Char} (hd : standsAlone d = false) : c.toNat ≠ d.toNat := by
  intro heq
  rw [Char.toNat_inj.1 heq, hd] at h
  exact Bool.noConfusion h

theorem isVoicingMark_of_standsAlone : isVoicingMark c = false := by
  have h1 := toNat_ne_of_standsAlone h (show standsAlone '\uff9e' = false by decide +kernel)
  have h2 := toNat_ne_of_standsAlone h (show standsAlone '\uff9f' = false by decide +kernel)
  simp only [isVoicingMark, Bool.or_eq_false_iff, decide_eq_false_iff_not]
  exact ⟨h1, h2⟩

theorem isJoiner_of_standsAlone : isJoiner c = false := by
  have hne := toNat_ne_of_standsAlone h (show standsAlone '\u200d' = false by decide +kernel)
  exact decide_eq_false hne

theorem narrow_of_standsAlone (hle : c.toNat ≤ 0xa0) :
    charWidth c = 1 ∧ Sequence.start c = .other := by
  have hpos := (standsAlone_iff.1 h).1
  have hcontrol := isControl_of_standsAlone h
  constructor
  · by_cases hascii : c.toNat < 0x7f
    · unfold charWidth at hpos ⊢
      simp only [hascii, if_true] at hpos ⊢
      split at hpos
      · exact absurd hpos (Nat.lt_irrefl 0)
      · next hlow => rw [if_neg hlow]
    · have hspace : c.toNat = '\u00a0'.toNat := by
        simp only [isControl, Bool.or_eq_false_iff, decide_eq_false_iff_not, Bool.and_eq_false_iff]
          at hcontrol
        show c.toNat = 0xa0
        omega
      rw [Char.toNat_inj.1 hspace]
      decide +kernel
  · simp [Sequence.start, show c.toNat < 0x5dc by omega]

theorem take_of_standsAlone {s : Sequence} (hs : s = .other ∨ s = .emoji) :
    Behind.take { sequence := s } c = ((charWidth c : Int), { sequence := .start c }) := by
  have hne : ∀ d : Char, standsAlone d = false → c.toNat ≠ d.toNat :=
    fun d hd => toNat_ne_of_standsAlone h hd
  have hjoiner := isJoiner_of_standsAlone h
  have htake : s.take? c = none := by
    rcases hs with rfl | rfl
    · rfl
    · simp [Sequence.take?, Sequence.isLigature, Sequence.takeLetter?, Sequence.takeEmoji?, hjoiner]
  have hdrop : Behind.dropEmojiSelector { sequence := s } = { sequence := s } := rfl
  rw [Behind.take, if_neg (by simp)]
  simp only [hdrop]
  by_cases hle : c.toNat ≤ 0xa0
  · obtain ⟨hwidth, hstart⟩ := narrow_of_standsAlone h hle
    have hfeed : c ≠ '\n' := fun heq => hne '\n' (by decide +kernel) (congrArg Char.toNat heq)
    have hreturn : c ≠ '\r' := fun heq => hne '\r' (by decide +kernel) (congrArg Char.toNat heq)
    rw [if_pos hle, if_neg hfeed, if_neg (fun hr => hreturn hr.1), hwidth, hstart]
    rfl
  · have hemoji : c.toNat ≠ 0xfe0f := hne '\ufe0f' (by decide +kernel)
    have htext : c.toNat ≠ 0xfe0e := hne '\ufe0e' (by decide +kernel)
    have hquotes : c.toNat ≠ 0xfe01 := hne '\ufe01' (by decide +kernel)
    rw [if_neg hle, Behind.takeLetter]
    simp [hemoji, htext, hquotes, htake]

end

/-! ## Texts -/

section

variable {cs : List Char} (h : ∀ c ∈ cs, standsAlone c = true)
include h

theorem columnsBehind_of_standsAlone :
    columnsBehind cs =
      ((charColumns cs : Int), { sequence := (cs.head?.map Sequence.start).getD .other }) := by
  induction cs with
  | nil => rfl
  | cons c cs ih =>
    have hbehind : (cs.head?.map Sequence.start).getD .other = .other ∨
        (cs.head?.map Sequence.start).getD .other = .emoji := by
      cases cs with
      | nil => exact .inl rfl
      | cons d cs => exact (standsAlone_iff.1 (h d (by simp))).2.2
    have ih := ih fun d hd => h d (List.mem_cons_of_mem c hd)
    simp only [columnsBehind, ih, take_of_standsAlone (h c List.mem_cons_self) hbehind]
    simp [Int.add_comm]

theorem textWidth_of_standsAlone : textWidth cs = charColumns cs := by
  rw [textWidth, columnsBehind_of_standsAlone h]
  exact Int.toNat_natCast _

theorem clustersFrom_of_standsAlone {c : Char} (hc : standsAlone c = true) :
    clustersFrom [c] (.start c) cs = (c :: cs).map fun c => [c] := by
  induction cs generalizing c with
  | nil => rfl
  | cons d cs ih =>
    have hd := h d List.mem_cons_self
    have hjoins : (ClusterEnd.start c).joins d = false := by
      obtain ⟨-, hclass, -⟩ := standsAlone_iff.1 hc
      obtain ⟨-, hnext, -⟩ := standsAlone_iff.1 hd
      unfold ClusterEnd.joins ClusterEnd.start
      rcases hclass with hclass | hclass | hclass <;>
        rcases hnext with hnext | hnext | hnext <;> simp [hclass, hnext]
    have hrest := ih (fun e he => h e (List.mem_cons_of_mem d he)) hd
    rw [clustersFrom, hjoins, hrest]
    rfl

theorem clusters_of_standsAlone : clusters cs = cs.map fun c => [c] := by
  cases cs with
  | nil => rfl
  | cons c cs =>
    exact clustersFrom_of_standsAlone (fun d hd => h d (List.mem_cons_of_mem c hd))
      (h c List.mem_cons_self)

end

theorem clusterWidth_of_standsAlone {c : Char} (h : standsAlone c = true) :
    clusterWidth [c] = charWidth c := by
  have hwidth : textWidth [c] = charColumns [c] := textWidth_of_standsAlone (by simpa using h)
  rw [clusterWidth, hwidth]
  simp [isVoicingMark_of_standsAlone h]

end GossipPanel.Text

namespace GossipPanel.Screen

open Text

theorem glyphs_of_standsAlone {cs : List Char} (h : ∀ c ∈ cs, standsAlone c = true)
    (style : Style) :
    glyphs [⟨String.ofList cs, style⟩] = cs.map fun c => ⟨[c], style⟩ := by
  have hdrawable : drawable cs = cs.map fun c => [c] := by
    rw [drawable, clusters_of_standsAlone h, List.filter_eq_self]
    intro cluster hcluster
    obtain ⟨c, hc, rfl⟩ := List.mem_map.1 hcluster
    simp [isControl_of_standsAlone (h c hc)]
  simp [glyphs, hdrawable]

/-! ## Characters in cells -/

/-- The symbols of the cells of a text: wide characters leave cells behind them blank. -/
def cellSymbols (cs : List Char) : List String :=
  cs.flatMap fun c => String.singleton c :: List.replicate (charWidth c - 1) " "

theorem cellSymbols_append (as bs : List Char) :
    cellSymbols (as ++ bs) = cellSymbols as ++ cellSymbols bs :=
  List.flatMap_append

theorem length_cellSymbols {cs : List Char} (h : ∀ c ∈ cs, standsAlone c = true) :
    (cellSymbols cs).length = charColumns cs := by
  induction cs with
  | nil => rfl
  | cons c cs ih =>
    have hpos := (standsAlone_iff.1 (h c List.mem_cons_self)).1
    have hrest := ih fun d hd => h d (List.mem_cons_of_mem c hd)
    simp only [cellSymbols, List.flatMap_cons, List.length_append, List.length_cons,
      List.length_replicate, charColumns_cons] at hrest ⊢
    omega

theorem cutGlyphs_of_standsAlone {cs : List Char} (h : ∀ c ∈ cs, standsAlone c = true)
    {width room : Nat} (hroom : charColumns cs ≤ room) (hle : room ≤ width) (style : Style) :
    cutGlyphs width room (cs.map fun c => ⟨[c], style⟩) = cs.map fun c => ⟨[c], style⟩ := by
  induction cs generalizing room with
  | nil => rfl
  | cons c cs ih =>
    have hwidth : Wrap.Glyph.width (⟨[c], style⟩ : Wrap.Glyph Style) = charWidth c :=
      clusterWidth_of_standsAlone (h c List.mem_cons_self)
    rw [charColumns_cons] at hroom
    rw [List.map_cons, cutGlyphs, hwidth, if_neg (by omega), if_neg (by omega),
      ih (fun d hd => h d (List.mem_cons_of_mem c hd)) (by omega) (by omega)]

theorem overlay_replicate_none (cell : Cell) {k n : Nat} (h : k ≤ n) (marks : Overlay) :
    Row.overlay (List.replicate n cell) (List.replicate k none ++ marks) =
      List.replicate k cell ++ Row.overlay (List.replicate (n - k) cell) marks := by
  induction k generalizing n with
  | zero => rfl
  | succ k ih =>
    obtain ⟨n, rfl⟩ := Nat.exists_eq_succ_of_ne_zero (show n ≠ 0 by omega)
    have hrest := ih (show k ≤ n by omega)
    rw [List.replicate_succ, List.replicate_succ, List.cons_append, Row.overlay, hrest,
      Nat.succ_sub_succ, List.replicate_succ, List.cons_append]

theorem symbols_overlay {cs : List Char} (h : ∀ c ∈ cs, standsAlone c = true) {width : Nat}
    (hfits : charColumns cs ≤ width) (ground style : Style) :
    (Row.overlay (List.replicate width (blank ground))
        (glyphMarks (cs.map fun c => ⟨[c], style⟩))).map Cell.symbol =
      cellSymbols cs ++ List.replicate (width - charColumns cs) " " := by
  induction cs generalizing width with
  | nil =>
    cases width with
    | zero => rfl
    | succ width => simp [glyphMarks, Row.overlay, cellSymbols, blank]
  | cons c cs ih =>
    have halone := h c List.mem_cons_self
    obtain ⟨w, hw⟩ := Nat.exists_eq_succ_of_ne_zero
      (Nat.ne_of_gt (standsAlone_iff.1 halone).1)
    have hglyph : Wrap.Glyph.width (⟨[c], style⟩ : Wrap.Glyph Style) = w + 1 :=
      (clusterWidth_of_standsAlone halone).trans hw
    have hmarks : glyphMarks ((c :: cs).map fun c => ⟨[c], style⟩) =
        some ⟨String.singleton c, style⟩ ::
          (List.replicate w none ++ glyphMarks (cs.map fun c => ⟨[c], style⟩)) := by
      rw [List.map_cons, glyphMarks, List.flatMap_cons, Wrap.Glyph.marks, hglyph]
      rfl
    rw [charColumns_cons, hw] at hfits
    obtain ⟨width, rfl⟩ := Nat.exists_eq_succ_of_ne_zero (show width ≠ 0 by omega)
    have hrest := ih (fun d hd => h d (List.mem_cons_of_mem c hd))
      (show charColumns cs ≤ width - w by omega)
    rw [hmarks, List.replicate_succ, Row.overlay, overlay_replicate_none _ (by omega),
      List.map_cons, List.map_append, hrest, charColumns_cons, hw]
    simp only [cellSymbols, List.flatMap_cons, hw, Nat.succ_eq_add_one, Nat.add_sub_cancel,
      List.map_replicate, List.append_assoc, List.cons_append]
    rw [show width + 1 - (w + 1 + charColumns cs) = width - w - charColumns cs by omega]
    rfl

/-- The symbol in a cell of a picture. -/
def symbolAt? (p : Picture) (x y : Nat) : Option String :=
  (p[y]?.bind (·[x]?)).map Cell.symbol

theorem symbolAt?_around (f : Frame) (contents : Picture) {width height x y : Nat} {row : Row}
    (hrow : contents[y]? = some row) (hlength : row.length = width) (hx : x < width)
    (hy : y < height) :
    symbolAt? (f.around (width + 2) (height + 2) contents) (x + 1) (y + 1) =
      row[x]?.map Cell.symbol := by
  have hfit : fit (blank .plain) width row = row := by
    rw [fit, List.take_of_length_le (Nat.le_of_eq hlength), hlength, Nat.sub_self,
      List.replicate_zero, List.append_nil]
  have hcontents : (fitRows (blank .plain) width height contents)[y]? = some row := by
    rw [getElem?_fitRows _ _ _ hy, hrow, Option.getD_some]
  have hside : f.side (width + 2) row =
      ⟨f.border.vertical, f.style⟩ :: (row ++ [⟨f.border.vertical, f.style⟩]) := by
    rw [Frame.side, hfit]
    rfl
  have hline : (f.around (width + 2) (height + 2) contents)[y + 1]? =
      some (f.side (width + 2) row) := by
    rw [Frame.around, Nat.add_sub_cancel, List.cons_append, List.getElem?_cons_succ,
      List.getElem?_append_left (by simpa using hy), List.getElem?_map, hcontents, Option.map_some]
  rw [symbolAt?, hline, Option.bind_some, hside, List.getElem?_cons_succ,
    List.getElem?_append_left (by omega)]

/-- Characters that stand alone are drawn one behind the other: behind those before it, a character
stands in its cell, and behind the last one the row is blank. -/
theorem symbolAt?_paragraph {near behind : List Char}
    (h : ∀ c ∈ near ++ behind, standsAlone c = true) (f : Frame) (style : Style)
    {width height : Nat} (hfits : charColumns (near ++ behind) ≤ width)
    (hnear : charColumns near < width) (hheight : 0 < height) :
    symbolAt? (f.around (width + 2) (height + 2)
        (paragraph style (String.ofList (near ++ behind)) width height)) (1 + charColumns near) 1 =
      some ((behind.head?.map String.singleton).getD " ") := by
  have hnear_alone : ∀ c ∈ near, standsAlone c = true :=
    fun c hc => h c (List.mem_append_left _ hc)
  have hno : ∀ d : Char, standsAlone d = false → d ∉ near ++ behind := by
    intro d hd hmem
    rw [h d hmem] at hd
    cases hd
  let text := near ++ behind
  let row := Row.overlay (List.replicate width (blank style))
    (glyphMarks (text.map fun c => ⟨[c], {}⟩))
  have hlines : textLines (String.ofList text) = [String.ofList text] := by
    rw [textLines]
    split
    · next hempty => rw [hempty]
    · next hne =>
      have hfeed : '\n' ∉ text := hno '\n' (by decide +kernel)
      rw [String.toList_ofList, lines_eq_splitOn, splitOn_of_not_mem hfeed]
      · rfl
      · intro hnil
        exact hne (by rw [hnil, String.ofList_nil])
      · exact fun hlast => hfeed (List.mem_of_getLast? hlast)
      · exact hno '\r' (by decide +kernel)
  have hrow : (paragraph style (String.ofList text) width height)[0]? = some row := by
    rw [paragraph, getElem?_fitRows _ _ _ hheight, hlines, List.map_singleton,
      List.getElem?_cons_zero, Option.getD_some, glyphs_of_standsAlone h,
      cutGlyphs_of_standsAlone h hfits (Nat.le_refl width)]
  have hlength : row.length = width := by
    rw [Row.length_overlay, List.length_replicate]
  have hsymbols : row.map Cell.symbol =
      cellSymbols text ++ List.replicate (width - charColumns text) " " :=
    symbols_overlay h hfits style {}
  have hskip : (cellSymbols near).length = charColumns near := length_cellSymbols hnear_alone
  rw [Nat.add_comm 1, symbolAt?_around f _ hrow hlength hnear hheight, ← List.getElem?_map,
    hsymbols, cellSymbols_append, List.append_assoc,
    List.getElem?_append_right (Nat.le_of_eq hskip), hskip, Nat.sub_self]
  cases behind with
  | nil =>
    obtain ⟨room, hroom⟩ := Nat.exists_eq_succ_of_ne_zero
      (show width - charColumns text ≠ 0 by simp only [text, List.append_nil]; omega)
    rw [hroom]
    rfl
  | cons c behind => rfl

end GossipPanel.Screen
