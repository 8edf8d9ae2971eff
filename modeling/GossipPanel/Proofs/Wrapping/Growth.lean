import GossipPanel.Proofs.Wrapping.Pieces
import Mathlib.Tactic.Ring

/-!
# Longer texts take no fewer rows

A row costs a convex function of its columns. So when the end of a row moves on, the start that is
cheapest for it does not move back, and neither does the number of rows before it.

* `rowCost_cross`: exchanging the ends of two rows, one of which lies inside the other, costs no
  more.
* `chosen_le`: a row with a later end has no earlier start. `rows_antitone`: later starts have no
  fewer rows before them.
* `filledRows_prefix_le`: no text takes fewer rows than its beginnings.
-/

namespace GossipPanel.Text.Fill

/-! ## Convex costs -/

/-- For a convex function the outer two of four places cost no less than the inner two. -/
theorem cross_of_convex {f : Nat → Nat} (h : ∀ u, f (u + 1) + f (u + 1) ≤ f u + f (u + 2))
    (u d e : Nat) : f (u + d) + f (u + e) ≤ f u + f (u + d + e) := by
  have hslope : ∀ u e, f (u + 1) + f (u + e) ≤ f u + f (u + 1 + e) := by
    intro u e
    induction e with
    | zero => exact Nat.le_of_eq (Nat.add_comm _ _)
    | succ e ih =>
      have hconvex := h (u + e)
      rw [show u + e + 1 = u + 1 + e by omega, show u + e + 2 = u + 1 + (e + 1) by omega] at hconvex
      rw [show u + (e + 1) = u + 1 + e by omega]
      omega
  induction d with
  | zero => exact Nat.le_refl _
  | succ d ih =>
    have hnext := hslope (u + d) e
    rw [← Nat.add_assoc u d 1, show u + d + 1 + e = u + d + e + 1 by omega]
    rw [show u + d + 1 + e = u + d + e + 1 by omega] at hnext
    omega

theorem rowCost_convex (limit : Nat) (isLast : Bool) (u : Nat) :
    rowCost limit (u + 1) isLast false + rowCost limit (u + 1) isLast false ≤
      rowCost limit u isLast false + rowCost limit (u + 2) isLast false := by
  cases isLast with
  | true =>
    simp only [rowCost_last, Bool.false_and, Bool.false_eq_true, if_false]
    omega
  | false =>
    have hsquares : (limit - (u + 1)) * (limit - (u + 1)) + (limit - (u + 1)) * (limit - (u + 1)) ≤
        (limit - u) * (limit - u) + (limit - (u + 2)) * (limit - (u + 2)) := by
      rcases Nat.lt_or_ge (u + 1) limit with hgap | hfull
      · obtain ⟨x, rfl⟩ := Nat.exists_eq_add_of_lt hgap
        rw [show u + 1 + x + 1 - (u + 1) = x + 1 by omega, show u + 1 + x + 1 - u = x + 2 by omega,
          show u + 1 + x + 1 - (u + 2) = x by omega]
        have hinner : (x + 1) * (x + 1) = x * x + 2 * x + 1 := by ring
        have houter : (x + 2) * (x + 2) = x * x + 4 * x + 4 := by ring
        omega
      · rw [show limit - (u + 1) = 0 by omega]
        exact Nat.zero_le _
    simp only [rowCost_before]
    omega

/-- Of two starts and two ends, the rows that cross cost no more than the two of which one lies
inside the other. -/
theorem rowCost_cross (limit : Nat) (isLast : Bool) {far near stop stop' : Nat}
    (alone alone' : Bool) (hstarts : far ≤ near) (hnear : near ≤ stop) (hstops : stop ≤ stop')
    (halone : alone' = true → alone = true) :
    rowCost limit (stop - far) isLast false + rowCost limit (stop' - near) isLast alone' ≤
      rowCost limit (stop - near) isLast alone + rowCost limit (stop' - far) isLast false := by
  have hcross := cross_of_convex (f := fun u => rowCost limit u isLast false)
    (rowCost_convex limit isLast) (stop - near) (near - far) (stop' - stop)
  rw [show stop - near + (near - far) = stop - far by omega,
    show stop - near + (stop' - stop) = stop' - near by omega,
    show stop - far + (stop' - stop) = stop' - far by omega] at hcross
  cases isLast with
  | true =>
    simp only [rowCost_last, Bool.false_and, Bool.false_eq_true, if_false] at hcross ⊢
    have hshort : (if alone' && 4 * (stop' - near) < limit then 25 else 0) ≤
        (if alone && 4 * (stop - near) < limit then 25 else 0) := by
      split
      · next h =>
        simp only [Bool.and_eq_true, decide_eq_true_eq] at h
        rw [if_pos (by simp [halone h.1]; omega)]
      · exact Nat.zero_le _
    omega
  | false =>
    simp only [rowCost_before] at hcross ⊢
    exact hcross

/-! ## Starts move on with the end -/

theorem advance_drop_le (ps : List Piece) (j : Nat) : advance (ps.drop j) ≤ advance ps := by
  conv_rhs => rw [← List.take_append_drop j ps, advance_append]
  exact Nat.le_add_left _ _

theorem before_le {limit : Nat} {rs : List Piece} {i k : Nat} {s t : Start} (hik : i ≤ k)
    (hs : (startsOf limit rs)[i]? = some s) (ht : (startsOf limit rs)[k]? = some t) :
    t.before ≤ s.before ∧ s.before ≤ advance rs := by
  have hbest := (best_of_mem_starts limit rs).2
  obtain ⟨j, rfl⟩ := Nat.exists_eq_add_of_le hik
  rw [(hbest i s hs).before, (hbest (i + j) t ht).before, advance_reverse, advance_reverse]
  refine ⟨?_, advance_drop_le rs i⟩
  rw [← List.drop_drop]
  exact advance_drop_le (rs.drop i) j

/-- A start from which a row to a later end costs least does not stand before the one that is chosen
for the earlier end. -/
theorem chosen_le {limit stop stop' : Nat} {isLast : Bool} {rs : List Piece} {i k : Nat}
    {s t : Start} (alone : Nat → Bool) (halone : ∀ j, alone j = true → j = 0)
    (hchosen : Chosen limit stop isLast (startsOf limit rs) i s)
    (hstop : advance rs ≤ stop) (hstops : stop ≤ stop') (ht : (startsOf limit rs)[k]? = some t)
    (hleast : ∀ (j : Nat) (u : Start), (startsOf limit rs)[j]? = some u →
      t.costTo limit stop' isLast (alone k) ≤ u.costTo limit stop' isLast (alone j)) :
    k ≤ i := by
  rcases Nat.lt_or_ge i k with hik | hle
  · obtain ⟨hstarts, hnear⟩ := before_le (Nat.le_of_lt hik) hchosen.get ht
    have hcross := rowCost_cross limit isLast (i = 0) (alone i) hstarts
      (Nat.le_trans hnear hstop) hstops fun h => by simpa using halone i h
    have hfar : alone k = false := by
      cases h : alone k with
      | false => rfl
      | true => exact absurd (halone k h) (by omega)
    have hearlier := hchosen.lt k t ht hik
    have hlater := hleast i s hchosen.get
    rw [hfar] at hlater
    rw [show decide (k = 0) = false from decide_eq_false (by omega)] at hearlier
    simp only [Start.costTo] at hearlier hlater
    omega
  · exact hle

theorem chosen_le_of_cons {limit stop stop' : Nat} {isLast : Bool} {rs : List Piece} {i k : Nat}
    {newest s t : Start} (hchosen : Chosen limit stop isLast (startsOf limit rs) i s)
    (hstop : advance rs ≤ stop) (hstops : stop ≤ stop')
    (hlater : Chosen limit stop' isLast (newest :: startsOf limit rs) (k + 1) t) : k ≤ i :=
  chosen_le (fun _ => false) (by simp) hchosen hstop hstops hlater.get
    fun j u hu => by simpa using hlater.le (j + 1) u hu

theorem rows_antitone {limit : Nat} {rs : List Piece} {i k : Nat} {s t : Start} (hik : i ≤ k)
    (hs : (startsOf limit rs)[i]? = some s) (ht : (startsOf limit rs)[k]? = some t) :
    t.rows ≤ s.rows := by
  induction rs generalizing i k s t with
  | nil =>
    have hk : k < 1 := (List.getElem?_eq_some_iff.1 ht).1
    obtain rfl : i = k := by omega
    rw [Option.some.inj (hs.symm.trans ht)]
  | cons p rs ih =>
    obtain ⟨j, u, hchosen, hstarts⟩ := exists_startsOf_cons limit p rs
    rw [hstarts] at hs ht
    -- the newest start has no fewer rows before it than the one before it
    have hnewest : ∀ v, (startsOf limit rs)[0]? = some v → v.rows ≤ u.rows + 1 := by
      intro v hv
      cases rs with
      | nil =>
        obtain rfl : (⟨0, 0, 0⟩ : Start) = v := Option.some.inj hv
        exact Nat.zero_le _
      | cons q rs =>
        obtain ⟨l, w, hbefore, hcons⟩ := exists_startsOf_cons limit q rs
        rw [hcons] at hv hchosen ih
        obtain rfl := Option.some.inj hv
        cases j with
        | zero =>
          obtain rfl := Option.some.inj hchosen.get
          exact Nat.le_succ _
        | succ j =>
          have hjl : j ≤ l := chosen_le_of_cons hbefore (Nat.le_add_right _ _)
            (by rw [advance_cons]; omega) hchosen
          exact Nat.succ_le_succ (ih (Nat.succ_le_succ hjl) hchosen.get hbefore.get)
    cases k with
    | zero =>
      obtain rfl : i = 0 := by omega
      rw [Option.some.inj (hs.symm.trans ht)]
    | succ k =>
      cases i with
      | zero =>
        obtain rfl := Option.some.inj hs
        obtain ⟨v, hv⟩ : ∃ v, (startsOf limit rs)[0]? = some v :=
          ⟨_, List.getElem?_eq_getElem (List.length_pos_iff.2 (startsOf_ne_nil limit rs))⟩
        exact Nat.le_trans (ih (Nat.zero_le k) hv ht) (hnewest v hv)
      | succ i => exact ih (by omega) hs ht

/-! ## Longer lines -/

theorem one_le_leastRows (limit : Nat) (ps : List Piece) : 1 ≤ leastRows limit ps :=
  Nat.le_max_left _ _

theorem leastRows_le_concat (limit : Nat) (ps : List Piece) (p : Piece) :
    leastRows limit ps ≤ leastRows limit (ps ++ [p]) := by
  rcases List.eq_nil_or_concat' ps with rfl | ⟨qs, q, rfl⟩
  · exact one_le_leastRows limit _
  · obtain ⟨i, s, hchosen, hrows⟩ := exists_leastRows limit qs q
    obtain ⟨k, u, hlater, hmore⟩ := exists_leastRows limit (qs ++ [q]) p
    obtain ⟨j, t, -, hstarts⟩ := exists_startsOf_cons limit q qs.reverse
    rw [hrows, hmore]
    refine Nat.succ_le_succ ?_
    rw [List.reverse_concat] at hlater
    cases k with
    | zero =>
      have hi : (startsOf limit (q :: qs.reverse))[i + 1]? = some s := by
        rw [hstarts]
        exact hchosen.get
      exact rows_antitone (Nat.zero_le _) hlater.get hi
    | succ k =>
      rw [hstarts] at hlater
      have hki : k ≤ i := chosen_le_of_cons hchosen
        (by rw [advance_reverse]; exact Nat.le_add_right _ _)
        (by rw [advance_append, advance_cons]; omega) hlater
      exact rows_antitone hki hlater.get hchosen.get

theorem leastRows_le_wider (limit : Nat) (ps : List Piece) {w w' : Nat} (h : w ≤ w')
    (space space' : Nat) :
    leastRows limit (ps ++ [⟨w, space⟩]) ≤ leastRows limit (ps ++ [⟨w', space'⟩]) := by
  obtain ⟨i, s, hchosen, hrows⟩ := exists_leastRows limit ps ⟨w, space⟩
  obtain ⟨k, t, hlater, hmore⟩ := exists_leastRows limit ps ⟨w', space'⟩
  rw [hrows, hmore]
  have hki : k ≤ i := chosen_le (fun j => j = 0) (by simp) hchosen
    (by rw [advance_reverse]; exact Nat.le_add_right _ _) (Nat.add_le_add_left h _) hlater.get
    hlater.le
  exact Nat.succ_le_succ (rows_antitone hki hlater.get hchosen.get)

theorem leastRows_le_of_grows {limit : Nat} {ps qs : List Piece} (h : Grows ps qs) :
    leastRows limit ps ≤ leastRows limit qs := by
  cases h with
  | more ps new =>
    induction new using List.reverseRecOn with
    | nil => rw [List.append_nil]
    | append_singleton new p ih =>
      rw [← List.append_assoc]
      exact Nat.le_trans ih (leastRows_le_concat limit _ p)
  | wider ps hle space space' => exact leastRows_le_wider limit ps hle space space'

theorem one_le_lineRows (limit : Nat) (line : List Char) : 1 ≤ lineRows limit line := by
  rw [lineRows]
  split
  · exact Nat.le_refl 1
  · exact one_le_leastRows limit _

theorem lineRows_le_concat (limit : Nat) (line : List Char) (c : Char) :
    lineRows limit line ≤ lineRows limit (line ++ [c]) := by
  have hbytes : byteLength line ≤ byteLength (line ++ [c]) := by
    rw [byteLength_append]
    exact Nat.le_add_right _ _
  rw [lineRows]
  split
  · exact one_le_lineRows limit _
  · next hlong =>
    rw [lineRows, if_neg (by omega)]
    exact leastRows_le_of_grows (pieces_concat limit line c)

/-! ## Longer texts -/

theorem filledRows_append (limit : Nat) (as bs : List Char) :
    filledRows limit (as ++ '\n' :: bs) = filledRows limit as + filledRows limit bs := by
  rw [filledRows, splitOn_append, List.map_append, sumColumns_append]
  rfl

theorem filledRows_le_concat (limit : Nat) (cs : List Char) (c : Char) :
    filledRows limit cs ≤ filledRows limit (cs ++ [c]) := by
  by_cases hc : c = '\n'
  · rw [hc, filledRows_append]
    exact Nat.le_add_right _ _
  · obtain ⟨pieces, last, hold, hnew⟩ := splitOn_concat hc cs
    have hlast := lineRows_le_concat limit last c
    simp only [filledRows, hold, hnew, List.map_append, List.map_singleton, sumColumns_append,
      sumColumns]
    omega

theorem filledRows_prefix_le {limit : Nat} {as bs : List Char} (h : as <+: bs) :
    filledRows limit as ≤ filledRows limit bs := by
  obtain ⟨rest, rfl⟩ := h
  induction rest using List.reverseRecOn with
  | nil => rw [List.append_nil]
  | append_singleton rest c ih =>
    rw [← List.append_assoc]
    exact Nat.le_trans ih (filledRows_le_concat limit _ c)

end GossipPanel.Text.Fill
