import GossipPanel.Screen.Widgets
import GossipPanel.Display.TabBar

/-!
# The highlighted label of a tab strip

Labels are written into a strip one after the other, and what does not fit is left out. The columns
of a label are counted here without drawing anything.

* `tabColumns`: the columns of a label, from what is written in front of it.
* `Labelled.Plain`: a strip that has been written up to a column and has no highlight so far.
  `Labelled.put_behind`: what is written does not depend on what stands in front of it.
* `tabStrip_eq`: the selected label is drawn like the others, and then the highlight is put over its
  columns.
* `style_tabStrip`: which cells have the highlight; `TabBar.map_bold_draw`: those of the tab bar.
-/

namespace GossipPanel.Screen

open Text

/-! ## Columns -/

/-- The columns that clusters take of so many: those up to the first that does not fit. -/
def columnsOf : Nat → List (List Char) → Nat
  | _, [] => 0
  | room, cluster :: more =>
    if room < clusterWidth cluster then 0
    else clusterWidth cluster + columnsOf (room - clusterWidth cluster) more

/-- The column behind a text that is written from a column on. -/
def columnBehind (width column : Nat) (text : String) : Nat :=
  (lineSpans {} text).foldl
    (fun column s => column + columnsOf (width - column) (drawable s.text.toList)) column

/-- What is written in front of the label at position `i`, apart from the labels before. -/
def tabLead (i : Nat) : List String :=
  (if i = 0 then [] else ["│"]) ++ [" "]

/-- What is written for labels, the first of which is at position `k`. -/
def tabTexts (k : Nat) : List String → List String
  | [] => []
  | text :: labels => tabLead k ++ text :: " " :: tabTexts (k + 1) labels

/-- The columns of the label at a position: the first one, and the one behind the last. -/
def tabColumns (labels : List String) (i width : Nat) : Nat × Nat :=
  let start := (tabTexts 0 (labels.take i) ++ tabLead i).foldl (columnBehind width) 0
  (start, columnBehind width start (labels.getD i ""))

/-! ## Writing labels -/

namespace Labelled

variable {l : Labelled} {base : Style} {width column : Nat}

/-- More in front of what has been written. -/
def behind (front : Row) (l : Labelled) : Labelled :=
  { l with front := front ++ l.front }

theorem putAll_behind (front : Row) (l : Labelled) (cs : List (List Char)) :
    (l.behind front).putAll cs = (l.putAll cs).behind front := by
  induction cs generalizing l with
  | nil => rfl
  | cons cluster more ih =>
    rw [putAll, putAll, show (l.behind front).rest = l.rest from rfl]
    split
    · exact ih l
    · split
      · rfl
      · rw [← ih]
        simp [behind]
    · rfl

theorem put_behind (front : Row) (l : Labelled) (text : String) :
    (l.behind front).put text = (l.put text).behind front := by
  rw [put, put]
  generalize lineSpans {} text = spans
  induction spans generalizing l with
  | nil => rfl
  | cons s spans ih => rw [List.foldl_cons, List.foldl_cons, putAll_behind, ih]

theorem foldl_put_behind (front : Row) (l : Labelled) (texts : List String) :
    texts.foldl put (l.behind front) = (texts.foldl put l).behind front := by
  induction texts generalizing l with
  | nil => rfl
  | cons text texts ih => rw [List.foldl_cons, List.foldl_cons, put_behind, ih]

theorem foldl_put_eq (l : Labelled) (texts : List String) :
    texts.foldl put l = (texts.foldl put { l with front := [] }).behind l.front := by
  rw [← foldl_put_behind]
  simp [behind]

theorem row_foldl_put (l : Labelled) (texts : List String) :
    (texts.foldl put l).row = l.front ++ (texts.foldl put { l with front := [] }).row := by
  rw [foldl_put_eq]
  exact List.append_assoc _ _ _

/-- A strip of so many cells that has been written up to a column. Its cells have the style of its
ground, apart from those that a wide character has emptied. -/
structure Plain (base : Style) (width column : Nat) (l : Labelled) : Prop where
  length_front : l.front.length = column
  length_row : l.row.length = width
  style_mem : ∀ c ∈ l.row, c.style = base ∨ c.style = .plain

theorem Plain.length_rest (h : l.Plain base width column) : l.rest.length = width - column := by
  have hrow := h.length_row
  rw [row, List.length_append, h.length_front] at hrow
  omega

theorem Plain.putAll (h : l.Plain base width column) (cs : List (List Char)) :
    (l.putAll cs).Plain base width (column + columnsOf (width - column) cs) := by
  induction cs generalizing l column with
  | nil => exact h
  | cons cluster more ih =>
    have hroom := h.length_rest
    rw [Labelled.putAll]
    split
    · next hw =>
      rw [columnsOf, hw, if_neg (Nat.not_lt_zero _), Nat.zero_add, Nat.sub_zero]
      exact ih h
    · next w c rest hw hrest =>
      rw [hrest, List.length_cons] at hroom
      rw [columnsOf, hw]
      split
      · rw [if_pos (by omega)]
        exact h
      · next hfits =>
        rw [if_neg (by omega), ← Nat.add_assoc, Nat.sub_sub]
        refine ih ⟨?_, ?_, fun cell hcell => ?_⟩
        · simp [h.length_front, Nat.add_comm w 1]
        · have hrow := h.length_row
          simp only [row, hrest, List.length_append, List.length_cons, List.length_replicate,
            List.length_drop] at hrow ⊢
          omega
        · have hstyle := h.style_mem
          simp only [row, hrest, List.append_assoc, List.cons_append, List.mem_append,
            List.mem_cons, List.mem_replicate] at hstyle hcell
          -- before the cluster, its first cell, those that it empties, and behind it
          obtain hcell | rfl | ⟨-, rfl⟩ | hcell := hcell
          · exact hstyle cell (.inl hcell)
          · rw [Cell.write, show ({} : Style) = .plain from rfl, Style.plain_onto]
            exact hstyle c (.inr (.inl rfl))
          · exact .inr rfl
          · exact hstyle cell (.inr (.inr (List.mem_of_mem_drop hcell)))
    · next hrest hne =>
      rw [hrest, List.length_nil] at hroom
      have hpos : 0 < clusterWidth cluster := Nat.pos_of_ne_zero hne
      rw [columnsOf, ← hroom, if_pos hpos]
      exact h

theorem Plain.put (h : l.Plain base width column) (text : String) :
    (l.put text).Plain base width (columnBehind width column text) := by
  rw [Labelled.put, columnBehind]
  generalize lineSpans {} text = spans
  induction spans generalizing l column with
  | nil => exact h
  | cons s spans ih => exact ih (h.putAll (drawable s.text.toList))

theorem Plain.foldl_put (h : l.Plain base width column) (texts : List String) :
    (texts.foldl Labelled.put l).Plain base width (texts.foldl (columnBehind width) column) := by
  induction texts generalizing l column with
  | nil => exact h
  | cons text texts ih => exact ih (h.put text)

theorem plain_ground (base : Style) (width : Nat) :
    Plain base width 0 { rest := List.replicate width (blank base) } := by
  refine ⟨rfl, List.length_replicate, fun c hc => ?_⟩
  rw [List.eq_of_mem_replicate hc]
  exact .inl rfl

end Labelled

/-! ## The strip -/

/-- The pieces that a label is written in, each with whether it is the selected label. -/
def tabPieces (selected i : Nat) (text : String) : List (Bool × String) :=
  (if i = 0 then [] else [(false, "│")]) ++ [(false, " "), (i == selected, text), (false, " ")]

/-- Writes a piece, with the highlight over it if it is the selected label. -/
def Labelled.putPiece (highlight : Style) (l : Labelled) (piece : Bool × String) : Labelled :=
  if piece.1 then l.putStyled highlight piece.2 else l.put piece.2

section Strip

variable (base highlight : Style) {labels : List String} {i selected : Nat} (width : Nat)

theorem tabPieces_of_ne (hne : i ≠ selected) (text : String) :
    tabPieces selected i text = (tabLead i ++ [text, " "]).map fun text => (false, text) := by
  rw [tabPieces, tabLead, beq_eq_false_iff_ne.2 hne]
  split <;> rfl

/-- The pieces of a strip whose first label is at position `k`. -/
def piecesFrom (selected k : Nat) (labels : List String) : List (Bool × String) :=
  (labels.mapIdx fun j => tabPieces selected (j + k)).flatten

theorem piecesFrom_cons (selected k : Nat) (text : String) (labels : List String) :
    piecesFrom selected k (text :: labels) =
      tabPieces selected k text ++ piecesFrom selected (k + 1) labels := by
  rw [piecesFrom, List.mapIdx_cons, List.flatten_cons, Nat.zero_add]
  simp only [Nat.add_assoc, Nat.add_comm 1 k]
  rfl

theorem piecesFrom_of_ne {k : Nat} (hne : ∀ j, k ≤ j → j < k + labels.length → j ≠ selected) :
    piecesFrom selected k labels = (tabTexts k labels).map fun text => (false, text) := by
  induction labels generalizing k with
  | nil => rfl
  | cons text labels ih =>
    rw [List.length_cons] at hne
    have hrest := ih (k := k + 1) fun j hj hlt => hne j (by omega) (by omega)
    rw [piecesFrom_cons, hrest, tabPieces_of_ne (hne k (Nat.le_refl k) (by omega)), tabTexts]
    simp

theorem piecesFrom_append (selected k : Nat) (before labels : List String) :
    piecesFrom selected k (before ++ labels) =
      piecesFrom selected k before ++ piecesFrom selected (k + before.length) labels := by
  induction before generalizing k with
  | nil => rfl
  | cons text before ih =>
    rw [List.cons_append, piecesFrom_cons, piecesFrom_cons, ih, List.append_assoc,
      List.length_cons, Nat.add_assoc, Nat.add_comm 1]

theorem piecesFrom_eq (hi : i < labels.length) (hselected : i ≤ selected)
    (hother : selected = i ∨ labels.length ≤ selected) :
    piecesFrom selected 0 labels =
      (tabTexts 0 (labels.take i) ++ tabLead i).map (fun text => (false, text)) ++
        (i == selected, labels[i]) ::
          (" " :: tabTexts (i + 1) (labels.drop (i + 1))).map fun text => (false, text) := by
  have hsplit : labels = labels.take i ++ labels[i] :: labels.drop (i + 1) := by
    rw [← List.drop_eq_getElem_cons hi, List.take_append_drop]
  have hlength : (labels.take i).length = i := List.length_take_of_le (Nat.le_of_lt hi)
  have hbefore : piecesFrom selected 0 (labels.take i) =
      (tabTexts 0 (labels.take i)).map fun text => (false, text) :=
    piecesFrom_of_ne fun j _ hj => by omega
  have hafter : piecesFrom selected (i + 1) (labels.drop (i + 1)) =
      (tabTexts (i + 1) (labels.drop (i + 1))).map fun text => (false, text) := by
    refine piecesFrom_of_ne fun j hj hlt => ?_
    rw [List.length_drop] at hlt
    omega
  calc piecesFrom selected 0 labels
      = piecesFrom selected 0 (labels.take i ++ labels[i] :: labels.drop (i + 1)) := by
        rw [← hsplit]
    _ = _ := by
        rw [piecesFrom_append, hlength, Nat.zero_add, piecesFrom_cons, hbefore, hafter, tabPieces,
          tabLead]
        split <;> simp

theorem foldl_putPiece (l : Labelled) (texts : List String) :
    (texts.map fun text => (false, text)).foldl (Labelled.putPiece highlight) l =
      texts.foldl Labelled.put l := by
  rw [List.foldl_map]
  rfl

/-- A strip up to where the label at a position is written. -/
def tabStart (base : Style) (labels : List String) (i width : Nat) : Labelled :=
  (tabTexts 0 (labels.take i) ++ tabLead i).foldl Labelled.put
    { rest := List.replicate width (blank base) }

theorem plain_tabStart (labels : List String) (i : Nat) :
    (tabStart base labels i width).Plain base width (tabColumns labels i width).1 :=
  (Labelled.plain_ground base width).foldl_put _

theorem tabStrip_eq_row (hi : i < labels.length) (hselected : i ≤ selected)
    (hother : selected = i ∨ labels.length ≤ selected) :
    tabStrip base highlight labels selected width =
      ((" " :: tabTexts (i + 1) (labels.drop (i + 1))).foldl Labelled.put
        ((tabStart base labels i width).putPiece highlight (i == selected, labels[i]))).row := by
  have hpieces : tabStrip base highlight labels selected width =
      ((piecesFrom selected 0 labels).foldl (Labelled.putPiece highlight)
        { rest := List.replicate width (blank base) }).row := rfl
  rw [hpieces, piecesFrom_eq hi hselected hother, List.foldl_append, foldl_putPiece,
    List.foldl_cons, foldl_putPiece]
  rfl

/-- The selected label is drawn like the others, and then the highlight is put over its columns. -/
theorem tabStrip_eq (hi : i < labels.length) :
    ∃ front label rest : Row,
      tabStrip base highlight labels labels.length width = front ++ label ++ rest ∧
        tabStrip base highlight labels i width = front ++ restyle highlight label ++ rest ∧
        (front ++ label ++ rest).length = width ∧
        front.length = (tabColumns labels i width).1 ∧
        (front ++ label).length = (tabColumns labels i width).2 ∧
        ∀ c ∈ front ++ label ++ rest, c.style = base ∨ c.style = .plain := by
  -- the label by itself is what both strips have at its place
  let l := tabStart base labels i width
  let written := ({ l with front := [] } : Labelled).put labels[i]
  let behind := " " :: tabTexts (i + 1) (labels.drop (i + 1))
  have hput : l.put labels[i] = written.behind l.front := Labelled.foldl_put_eq l [labels[i]]
  have hplain := (plain_tabStart base width labels i).put labels[i]
  have hlast := hplain.foldl_put behind
  have hrow : (behind.foldl Labelled.put (l.put labels[i])).row =
      l.front ++ written.front ++ (behind.foldl Labelled.put { written with front := [] }).row := by
    rw [hput, Labelled.row_foldl_put]
    rfl
  have hunselected : tabStrip base highlight labels labels.length width =
      (behind.foldl Labelled.put (l.put labels[i])).row := by
    rw [tabStrip_eq_row base highlight width hi (Nat.le_of_lt hi) (.inr (Nat.le_refl _)),
      beq_eq_false_iff_ne.2 (Nat.ne_of_lt hi)]
    rfl
  have hselected : tabStrip base highlight labels i width =
      (behind.foldl Labelled.put (l.putStyled highlight labels[i])).row := by
    rw [tabStrip_eq_row base highlight width hi (Nat.le_refl i) (.inl rfl), beq_self_eq_true]
    rfl
  refine ⟨l.front, written.front, _, hunselected.trans hrow, ?_, hrow ▸ hlast.length_row,
    (plain_tabStart base width labels i).length_front, ?_, hrow ▸ hlast.style_mem⟩
  · rw [hselected, Labelled.row_foldl_put]
    rfl
  · have hstop := hplain.length_front
    rw [show tabStart base labels i width = l from rfl, hput] at hstop
    rw [tabColumns, List.getD_eq_getElem?_getD, List.getElem?_eq_getElem hi]
    exact hstop

/-- The cells in the columns of the selected label have the highlight over their style, the others
have not. -/
theorem style_tabStrip (hi : i < labels.length) {column : Nat} {cell : Cell}
    (hcell : (tabStrip base highlight labels i width)[column]? = some cell) :
    let columns := tabColumns labels i width
    ∃ below, (below = base ∨ below = .plain) ∧
      cell.style =
        if columns.1 ≤ column ∧ column < columns.2 then highlight.onto below else below := by
  intro columns
  obtain ⟨front, label, rest, -, hstrip, -, hstart, hstop, hstyle⟩ :=
    tabStrip_eq base highlight width hi
  have hstart : front.length = columns.1 := hstart
  have hstop : front.length + label.length = columns.2 := List.length_append ▸ hstop
  rw [hstrip, List.append_assoc, List.getElem?_append, List.getElem?_append] at hcell
  split at hcell
  · next hlt =>
    have hmem : cell ∈ front := List.mem_of_getElem? hcell
    exact ⟨cell.style, hstyle cell (by simp [hmem]), (if_neg (by omega)).symm⟩
  · split at hcell
    · next hge hlt =>
      rw [restyle, List.length_map] at hlt
      rw [restyle, List.getElem?_map, Option.map_eq_some_iff] at hcell
      obtain ⟨c, hc, rfl⟩ := hcell
      have hmem : c ∈ label := List.mem_of_getElem? hc
      exact ⟨c.style, hstyle c (by simp [hmem]), (if_pos (by omega)).symm⟩
    · next hge hlt =>
      rw [restyle, List.length_map] at hlt
      have hmem : cell ∈ rest := List.mem_of_getElem? hcell
      exact ⟨cell.style, hstyle cell (by simp [hmem]), (if_neg (by omega)).symm⟩

/-- The second label of `" ab │ cd "`. -/
example : tabColumns ["ab", "cd"] 1 20 = (6, 8) := by decide +kernel

theorem length_tabStrip (hi : i < labels.length) :
    (tabStrip base highlight labels i width).length = width := by
  obtain ⟨front, label, rest, -, hstrip, hlength, -⟩ := tabStrip_eq base highlight width hi
  rw [hstrip, ← hlength]
  simp [restyle]

end Strip

end GossipPanel.Screen

namespace GossipPanel.Display.TabBar

open Panel Screen

theorem active_lt (app : App) : active app < (labels app).length := by
  rw [active]
  cases hfound : (labels app).findIdx? (·.view == app.view) with
  | none => exact Nat.succ_pos _
  | some i => exact (List.findIdx?_eq_some_iff_findIdx_eq.1 hfound).1

/-- The bold cells of the tab bar are those of the active label. -/
theorem map_bold_draw (app : App) (width : Nat) :
    let columns := tabColumns ((labels app).map TabLabel.text) (active app) width
    (draw app width).map (·.style.bold) =
      (List.range width).map fun column => decide (columns.1 ≤ column ∧ column < columns.2) := by
  intro columns
  have hactive : active app < ((labels app).map TabLabel.text).length := by
    rw [List.length_map]
    exact active_lt app
  have hlength : (draw app width).length = width := length_tabStrip _ _ width hactive
  refine List.ext_getElem (by simp [hlength]) fun column hcolumn _ => ?_
  rw [List.length_map] at hcolumn
  obtain ⟨below, hbelow, hstyle⟩ :=
    style_tabStrip _ _ width hactive (List.getElem?_eq_getElem hcolumn)
  have hplain : below.bold = false := by
    obtain rfl | rfl := hbelow <;> rfl
  rw [List.getElem_map, List.getElem_map, List.getElem_range,
    show (draw app width)[column].style = _ from hstyle]
  split
  · next hin => exact (decide_eq_true hin).symm
  · next hout => rw [hplain, decide_eq_false hout]

end GossipPanel.Display.TabBar
