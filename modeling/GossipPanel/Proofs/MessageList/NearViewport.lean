import GossipPanel.Proofs.MessageList.Layout
import Mathlib.Data.List.Range

/-!
# The messages near a viewport

Which messages a layout takes to be near a viewport: exactly those that reach into it or into half
a screen above and below it.

* `lt_length_takeWhile_iff`: how far a condition holds in a list that it cuts in two.
  `partitionPoint` finds the same place by halving.
* `Layout.search`: how many bottom edges a condition holds of, by halving. Bottom edges never fall,
  so `lt_search_iff` says of every single message whether it is counted.
* `Layout.first_visible_le_iff`, `Layout.lt_stop_visible_iff`: what the two ends of the range say
  about a message, in every layout.
* `Layout.first_visible_le_stop`: the ends are in order where bottom edges rise.
* `visible_exactly_near_viewport`: the edges of a feed and the range.
-/

namespace GossipPanel.Display

open Text

/-! ## Where a condition ends -/

section Search

variable {p : Nat → Bool} {xs : List Nat}

theorem lt_length_takeWhile_iff (hcut : xs.Pairwise fun a b => p b = true → p a = true) {i : Nat}
    (hi : i < xs.length) : i < (xs.takeWhile p).length ↔ p xs[i] = true := by
  induction xs generalizing i with
  | nil => exact absurd hi (Nat.not_lt_zero i)
  | cons x xs ih =>
    obtain ⟨hx, hrest⟩ := List.pairwise_cons.1 hcut
    by_cases hholds : p x = true
    · rw [List.takeWhile_cons_of_pos hholds]
      cases i with
      | zero => simp [hholds]
      | succ i => simpa using ih hrest (by simpa using hi)
    · rw [List.takeWhile_cons_of_neg hholds]
      refine iff_of_false (Nat.not_lt_zero i) fun hlater => hholds ?_
      cases i with
      | zero => exact hlater
      | succ i => exact hx _ (List.getElem_mem _) hlater

/-- The place where a condition ends, by halving the part of the list where it may lie. -/
def partitionPoint (p : Nat → Bool) (xs : List Nat) (lo hi : Nat) : Nat :=
  if lo < hi then
    if xs[(lo + hi) / 2]?.any p then partitionPoint p xs ((lo + hi) / 2 + 1) hi
    else partitionPoint p xs lo ((lo + hi) / 2)
  else lo
termination_by hi - lo

/-- Halving finds the place, which lies between the two ends all along. -/
theorem partitionPoint_eq (hcut : xs.Pairwise fun a b => p b = true → p a = true) {lo hi : Nat}
    (hlo : lo ≤ (xs.takeWhile p).length) (hhi : (xs.takeWhile p).length ≤ hi)
    (hlength : hi ≤ xs.length) : partitionPoint p xs lo hi = (xs.takeWhile p).length := by
  fun_induction partitionPoint p xs lo hi with
  | case1 lo hi hlt hholds ih =>
    have hmid : (lo + hi) / 2 < xs.length := by omega
    rw [List.getElem?_eq_getElem hmid, Option.any_some] at hholds
    exact ih ((lt_length_takeWhile_iff hcut hmid).2 hholds) hhi hlength
  | case2 lo hi hlt hfails ih =>
    have hmid : (lo + hi) / 2 < xs.length := by omega
    rw [List.getElem?_eq_getElem hmid, Option.any_some] at hfails
    have hbefore := mt (lt_length_takeWhile_iff hcut hmid).1 hfails
    exact ih hlo (Nat.not_lt.1 hbefore) (Nat.le_of_lt hmid)
  | case3 lo hi hge => omega

end Search

namespace Layout

variable {l : Layout}

/-! ## Edges -/

theorem length_bottoms (l : Layout) : l.bottoms.length = l.heights.length :=
  length_bottomsFrom 0 l.heights

theorem pairwise_bottoms (l : Layout) : l.bottoms.Pairwise (· ≤ ·) := by
  rw [bottoms_eq, List.pairwise_map]
  refine List.pairwise_lt_range.imp fun {i j} hij => ?_
  have hedge : l.edge (i + 1) ≤ l.edge (j + 1) := edge_mono (by omega)
  omega

theorem getElem_bottoms {i : Nat} (hi : i < l.bottoms.length) : l.bottoms[i] = l.top (i + 1) := by
  simp [top, List.getD_eq_getElem?_getD, List.getElem?_eq_getElem hi]

theorem top_zero (l : Layout) : l.top 0 = 0 :=
  if_pos rfl

theorem top_length (l : Layout) : l.top l.heights.length = l.total := by
  rw [top_eq (Nat.le_refl _), total_eq, edge_length]

theorem top_le_maxRow {i : Nat} (hi : i ≤ l.heights.length) : l.top i ≤ maxRow := by
  rw [top_eq hi]
  exact Nat.min_le_right _ _

theorem edge_le (l : Layout) {i : Nat} (hi : i ≤ l.heights.length) :
    l.edge i ≤ sumColumns l.heights :=
  edge_length l ▸ edge_mono hi

section Rising

variable (hpositive : ∀ h ∈ l.heights, 1 ≤ h) (htotal : sumColumns l.heights ≤ maxRow)
include htotal

theorem top_eq_edge {i : Nat} (hi : i ≤ l.heights.length) : l.top i = l.edge i := by
  rw [top_eq hi, Nat.min_eq_left (Nat.le_trans (l.edge_le hi) htotal)]

theorem top_succ {i : Nat} (hi : i < l.heights.length) :
    l.top (i + 1) = l.top i + l.heights[i] := by
  rw [top_eq_edge htotal hi, top_eq_edge htotal (Nat.le_of_lt hi), edge_succ hi]

include hpositive

theorem top_lt_top_succ {i : Nat} (hi : i < l.heights.length) : l.top i < l.top (i + 1) := by
  have hheight := hpositive _ (List.getElem_mem hi)
  rw [top_succ htotal hi]
  omega

theorem top_lt_top {i j : Nat} (hij : i < j) (hj : j ≤ l.heights.length) : l.top i < l.top j := by
  induction j, hij using Nat.le_induction with
  | base => exact top_lt_top_succ hpositive htotal hj
  | succ j _ ih =>
    exact Nat.lt_trans (ih (Nat.le_of_lt hj)) (top_lt_top_succ hpositive htotal hj)

end Rising

/-! ## Searches by the bottom edge -/

/-- How many messages there are before the first whose bottom edge a condition fails of. -/
def search (l : Layout) (p : Nat → Bool) : Nat :=
  partitionPoint p l.bottoms 0 l.bottoms.length

section Falling

variable {p : Nat → Bool} (hfalls : ∀ a b, a ≤ b → p b = true → p a = true)
include hfalls

theorem search_eq (l : Layout) : l.search p = (l.bottoms.takeWhile p).length :=
  partitionPoint_eq (l.pairwise_bottoms.imp fun {a b} => hfalls a b) (Nat.zero_le _)
    (List.takeWhile_sublist p).length_le (Nat.le_refl _)

theorem search_le (l : Layout) : l.search p ≤ l.heights.length := by
  rw [search_eq hfalls, ← length_bottoms]
  exact (List.takeWhile_sublist p).length_le

theorem lt_search_iff {i : Nat} (hi : i < l.heights.length) :
    i < l.search p ↔ p (l.top (i + 1)) = true := by
  have hbottom : i < l.bottoms.length := l.length_bottoms.symm ▸ hi
  rw [search_eq hfalls, lt_length_takeWhile_iff (l.pairwise_bottoms.imp fun {a b} => hfalls a b)
    hbottom, getElem_bottoms]

end Falling

theorem falls_le (line : Nat) (a b : Nat) (hab : a ≤ b) (hb : decide (b ≤ line) = true) :
    decide (a ≤ line) = true :=
  decide_eq_true (Nat.le_trans hab (of_decide_eq_true hb))

theorem falls_lt (line : Nat) (a b : Nat) (hab : a ≤ b) (hb : decide (b < line) = true) :
    decide (a < line) = true :=
  decide_eq_true (Nat.lt_of_le_of_lt hab (of_decide_eq_true hb))

/-! ## The range -/

variable (l) (offset height : Nat) {i : Nat}

/-- The range by two searches, with the sum for its lower end in one piece. -/
theorem visible_eq_search :
    l.visible offset height =
      (l.search (· ≤ offset - height / 2),
        min (l.search (· < min (offset + height + height / 2) maxRow) + 1) l.heights.length) := by
  have hstop : min (min (offset + height) maxRow + height / 2) maxRow =
      min (offset + height + height / 2) maxRow := by omega
  rw [search_eq (falls_le _), search_eq (falls_lt _), ← hstop, ← length_bottoms]
  rfl

variable {l}

theorem first_visible_le_iff (hi : i < l.heights.length) :
    (l.visible offset height).1 ≤ i ↔ offset - height / 2 < l.top (i + 1) := by
  rw [visible_eq_search, ← Nat.not_lt, lt_search_iff (falls_le _) hi, decide_eq_true_eq, Nat.not_le]

theorem succ_lt_stop_visible_iff (hi : i + 1 < l.heights.length) :
    i + 1 < (l.visible offset height).2 ↔
      l.top (i + 1) < min (offset + height + height / 2) maxRow := by
  rw [visible_eq_search, Nat.lt_min, and_iff_left hi, Nat.add_lt_add_iff_right,
    lt_search_iff (falls_lt _) (Nat.lt_of_succ_lt hi), decide_eq_true_eq]

theorem lt_stop_visible_iff (hheight : 0 < height) (hi : i < l.heights.length) :
    i < (l.visible offset height).2 ↔ l.top i < min (offset + height + height / 2) maxRow := by
  cases i with
  | zero =>
    have hrow : 0 < maxRow := by decide
    rw [visible_eq_search, top_zero]
    exact iff_of_true (Nat.lt_min.2 ⟨Nat.succ_pos _, hi⟩) (by omega)
  | succ i => exact succ_lt_stop_visible_iff offset height hi

theorem first_visible_le_length : (l.visible offset height).1 ≤ l.heights.length := by
  rw [visible_eq_search]
  exact search_le (falls_le _) l

theorem stop_visible_le : (l.visible offset height).2 ≤ l.heights.length := by
  rw [visible_eq_search]
  exact Nat.min_le_right _ _

theorem first_visible_le_stop (hpositive : ∀ h ∈ l.heights, 1 ≤ h)
    (htotal : sumColumns l.heights ≤ maxRow) :
    (l.visible offset height).1 ≤ (l.visible offset height).2 := by
  obtain ⟨stop, hstop⟩ : ∃ stop, (l.visible offset height).2 = stop := ⟨_, rfl⟩
  have hbehind {i : Nat} (hi : i + 1 < l.heights.length) := succ_lt_stop_visible_iff offset height hi
  have hbefore {i : Nat} (hi : i < l.heights.length) := first_visible_le_iff offset height hi
  rw [hstop] at hbehind ⊢
  rcases Nat.lt_or_ge stop l.heights.length with hlt | hge
  · rw [hbefore hlt]
    have hrises := top_lt_top_succ hpositive htotal hlt
    have hlimit : l.top (stop + 1) ≤ maxRow := top_le_maxRow hlt
    cases stop with
    | zero =>
      rw [visible_eq_search] at hstop
      dsimp only at hstop
      omega
    | succ i =>
      have hlower := mt (hbehind hlt).2 (Nat.lt_irrefl _)
      omega
  · exact Nat.le_trans (first_visible_le_length offset height) hge

end Layout

/-- **Exactly the messages near a viewport.** Let every message have a row and let the rows of all
of them be counted without a stop at the greatest one. Then the upper edges rise from 0 to the end
of the feed, each by the height of a message. For a viewport of `height` rows from `offset` on, let
`lo` be half a screen above it, as far as there are rows, and `hi` half a screen below it, as far as
rows are counted:

* two searches by halving in the bottom edges come to the ends of the range;
* the range is one of messages, and it is not the wrong way round, also for a viewport without rows;
* a viewport with rows has exactly those messages in its range that begin above `hi` and end below
  `lo`. -/
theorem visible_exactly_near_viewport (l : Layout) (hpositive : ∀ h ∈ l.heights, 1 ≤ h)
    (htotal : sumColumns l.heights < UInt32.size) :
    let n := l.heights.length
    (∀ i j, i < j → j ≤ n → l.top i < l.top j) ∧
      l.top 0 = 0 ∧ l.top n = l.total ∧
      (∀ i (hi : i < n), l.top (i + 1) - l.top i = l.heights[i]) ∧
      ∀ offset height,
        let lo := offset - height / 2
        let hi := min (offset + height + height / 2) maxRow
        let range := l.visible offset height
        range = (l.search (· ≤ lo), min (l.search (· < hi) + 1) n) ∧
          range.1 ≤ range.2 ∧ range.2 ≤ n ∧
          (0 < height →
            ∀ i < n, range.1 ≤ i ∧ i < range.2 ↔ l.top i < hi ∧ lo < l.top (i + 1)) := by
  intro n
  have htotal : sumColumns l.heights ≤ maxRow := Nat.le_pred_of_lt htotal
  refine ⟨fun i j hij hj => Layout.top_lt_top hpositive htotal hij hj, l.top_zero, l.top_length,
    fun i hi => ?_, fun offset height => ?_⟩
  · rw [Layout.top_succ htotal hi, Nat.add_sub_cancel_left]
  · refine ⟨l.visible_eq_search offset height,
      Layout.first_visible_le_stop offset height hpositive htotal,
      Layout.stop_visible_le offset height, fun hheight i hi => ?_⟩
    have hfirst := Layout.first_visible_le_iff offset height hi
    have hstop := Layout.lt_stop_visible_iff offset height hheight hi
    exact (and_congr hfirst hstop).trans and_comm

/-- Ten messages of ten rows each, and a viewport of 20 rows from row 50 on: of the rows from 40 up
to 80, the fifth to the eighth message have some. -/
theorem visible_in_feed_of_ten :
    let l : Layout := { heights := List.replicate 10 10 }
    (∀ h ∈ l.heights, 1 ≤ h) ∧ sumColumns l.heights < UInt32.size ∧
      l.visible 50 20 = (4, 8) ∧
      ∀ i < 10, (4 ≤ i ∧ i < 8) ↔ l.top i < 80 ∧ 40 < l.top (i + 1) := by
  intro l
  have hpositive : ∀ h ∈ l.heights, 1 ≤ h := by decide
  have htotal : sumColumns l.heights < UInt32.size := by decide
  obtain ⟨-, -, -, -, hrange⟩ := visible_exactly_near_viewport l hpositive htotal
  have hvisible : l.visible 50 20 = (4, 8) := by decide
  obtain ⟨-, -, -, hnear⟩ := hrange 50 20
  rw [hvisible] at hnear
  exact ⟨hpositive, htotal, hvisible, hnear (by decide)⟩

end GossipPanel.Display
