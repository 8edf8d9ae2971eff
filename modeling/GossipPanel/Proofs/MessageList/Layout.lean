import GossipPanel.Display.MessageList
import Mathlib.Data.List.Basic

/-!
# Where messages stand in a feed

Everything that later proofs know about a layout: how its edges follow from the heights, and that
an update makes it what it would be if every message were measured again.

* `Layout.edge`: the number of rows of the first messages; `top_eq`, `total_eq`: the edges of a
  layout are these numbers up to the greatest row.
* `Layout.Measured`: the heights are those of the messages in the width. `Measured.update`: an
  update keeps this, and `Measured.heights_update` says what the heights are then.
* `update_update`: a second update for the same messages and width changes nothing.
-/

namespace GossipPanel.Display

open Panel Text

namespace Layout

/-- The number of rows of the first `i` messages. -/
def edge (l : Layout) (i : Nat) : Nat :=
  sumColumns (l.heights.take i)

/-! ## Edges -/

@[simp]
theorem length_bottomsFrom (top : Nat) (hs : List Nat) :
    (bottomsFrom top hs).length = hs.length := by
  induction hs generalizing top with
  | nil => rfl
  | cons h hs ih => simp [bottomsFrom, ih]

theorem getElem_bottomsFrom (top : Nat) (hs : List Nat) (i : Nat)
    (hi : i < (bottomsFrom top hs).length) :
    (bottomsFrom top hs)[i] = min (top + sumColumns (hs.take (i + 1))) maxRow := by
  induction hs generalizing top i with
  | nil => simp [bottomsFrom] at hi
  | cons h hs ih =>
    cases i with
    | zero => simp [bottomsFrom, sumColumns]
    | succ i =>
      have hlater := ih (min (top + h) maxRow) i (by simpa using hi)
      simp only [bottomsFrom, List.getElem_cons_succ, List.take_succ_cons, sumColumns]
      rw [hlater]
      omega

variable {l : Layout}

theorem bottoms_eq (l : Layout) :
    l.bottoms = (List.range l.heights.length).map fun i => min (l.edge (i + 1)) maxRow := by
  refine List.ext_getElem (by simp [bottoms]) fun i hi _ => ?_
  simp only [bottoms, getElem_bottomsFrom, List.getElem_map, List.getElem_range, edge, Nat.zero_add]

theorem edge_zero (l : Layout) : l.edge 0 = 0 := rfl

theorem edge_length (l : Layout) : l.edge l.heights.length = sumColumns l.heights := by
  rw [edge, List.take_length]

theorem edge_succ {i : Nat} (hi : i < l.heights.length) :
    l.edge (i + 1) = l.edge i + l.heights[i] := by
  rw [edge, edge, List.take_succ_eq_append_getElem hi, sumColumns_append]
  rfl

theorem edge_mono {i j : Nat} (h : i ≤ j) : l.edge i ≤ l.edge j := by
  obtain ⟨k, rfl⟩ := Nat.exists_eq_add_of_le h
  rw [edge, edge, List.take_add, sumColumns_append]
  exact Nat.le_add_right _ _

theorem total_eq (l : Layout) : l.total = min (sumColumns l.heights) maxRow := by
  rw [total, bottoms_eq, ← edge_length]
  cases hlength : l.heights.length with
  | zero => simp [edge_zero]
  | succ n => simp [List.range_succ]

theorem top_eq {i : Nat} (hi : i ≤ l.heights.length) : l.top i = min (l.edge i) maxRow := by
  cases i with
  | zero => simp [top, edge_zero]
  | succ i =>
    have hrow : (List.range l.heights.length)[i]? = some i := List.getElem?_range (by omega)
    simp [top, bottoms_eq, List.getD_eq_getElem?_getD, hrow]

/-! ## Updates -/

/-- The height that a message needs in a width. -/
def measure (width : Nat) (row : MessageRow) : Nat :=
  (Bubble.height row width).toNat

/-- The heights are those that the messages need in the width. -/
def Measured (l : Layout) : Prop :=
  l.heights = l.rows.map (measure l.width)

theorem measured_empty : Measured {} := rfl

theorem length_unchanged_le (olds : List MessageRow) (hs : List Nat) (rows : List MessageRow) :
    (unchanged olds hs rows).length ≤ rows.length := by
  fun_induction unchanged olds hs rows with
  | case1 old olds h hs rows ih => simpa using ih
  | case2 => simp
  | case3 => simp

theorem unchanged_map (f : MessageRow → Nat) (olds rows : List MessageRow) :
    unchanged olds (olds.map f) rows =
      (rows.take (unchanged olds (olds.map f) rows).length).map f := by
  induction olds generalizing rows with
  | nil => rfl
  | cons old olds ih =>
    cases rows with
    | nil => rfl
    | cons row rows =>
      rw [List.map_cons, unchanged]
      split
      · rename_i heq
        rw [List.length_cons, List.take_succ_cons, List.map_cons, ← ih, heq]
      · rfl

theorem unchanged_append {rows : List MessageRow} {hs : List Nat} (h : hs.length = rows.length)
    (more : List MessageRow) : unchanged rows hs (rows ++ more) = hs := by
  induction rows generalizing hs with
  | nil => rw [List.length_eq_zero_iff.1 h]; rfl
  | cons row rows ih =>
    cases hs with
    | nil => rfl
    | cons h' hs => rw [List.cons_append, unchanged, if_pos rfl, ih (by simpa using h)]

theorem unchanged_self {rows : List MessageRow} {hs : List Nat} (h : hs.length = rows.length) :
    unchanged rows hs rows = hs := by
  simpa using unchanged_append h []

theorem length_heights_update (l : Layout) (rows : List MessageRow) (width : Nat) :
    (l.update rows width).heights.length = rows.length := by
  have hkept : (l.kept rows width).length ≤ rows.length := by
    rw [kept]
    split
    · exact length_unchanged_le _ _ _
    · exact Nat.zero_le _
  simp only [update, List.length_append, List.length_map, List.length_drop]
  omega

/-- The heights after an update of a measured layout are those of measuring every message. -/
theorem Measured.heights_update (h : l.Measured) (rows : List MessageRow) (width : Nat) :
    (l.update rows width).heights = rows.map (measure width) := by
  have hkept : l.kept rows width = (rows.take (l.kept rows width).length).map (measure width) := by
    rw [kept]
    split
    · rename_i hwidth
      rw [show l.heights = l.rows.map (measure width) from hwidth ▸ h]
      exact unchanged_map _ _ _
    · rfl
  calc (l.update rows width).heights
      = l.kept rows width ++ (rows.drop (l.kept rows width).length).map (measure width) := rfl
    _ = (rows.take (l.kept rows width).length).map (measure width) ++
          (rows.drop (l.kept rows width).length).map (measure width) := by rw [← hkept]
    _ = rows.map (measure width) := by rw [← List.map_append, List.take_append_drop]

theorem Measured.update (h : l.Measured) (rows : List MessageRow) (width : Nat) :
    (l.update rows width).Measured :=
  h.heights_update rows width

theorem heights_update_append (h : l.heights.length = l.rows.length) (more : List MessageRow) :
    (l.update (l.rows ++ more) l.width).heights = l.heights ++ more.map (measure l.width) := by
  have hkept : l.kept (l.rows ++ more) l.width = l.heights := by
    rw [kept, if_pos rfl]
    exact unchanged_append h more
  simp only [update, hkept, h, List.drop_left]
  rfl

theorem update_update (l : Layout) (rows : List MessageRow) (width : Nat) :
    (l.update rows width).update rows width = l.update rows width := by
  have hkept : (l.update rows width).kept rows width = (l.update rows width).heights := by
    rw [kept, if_pos (show (l.update rows width).width = width from rfl)]
    exact unchanged_self (length_heights_update l rows width)
  have hheights : ((l.update rows width).update rows width).heights =
      (l.update rows width).heights := by
    conv_lhs => rw [Layout.update]
    simp only [hkept, length_heights_update, List.drop_length, List.map_nil, List.append_nil]
  exact congrArg (fun heights => (⟨heights, rows, width⟩ : Layout)) hheights

end Layout

end GossipPanel.Display
