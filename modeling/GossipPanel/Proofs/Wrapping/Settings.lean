import GossipPanel.Text.Fill
import Mathlib.Data.List.Basic
import Mathlib.Data.List.Induction

/-!
# Setting words into rows

A setting cuts the pieces of a line into rows. `leastRows` finds the number of rows of a setting
that no other one undercuts, by the starts of rows alone.

* `Sets`, `cost`, `Cheapest`: settings and what they cost, without the search.
* `Chosen`: the start that is chosen costs least, and is the earliest that does;
  `exists_nextStart`: there is one.
* `best_of_mem_starts`: every start stands for a cheapest setting of the pieces before it.
* `exists_cheapest`: `leastRows` counts the rows of a cheapest setting; `exists_cheapest_of_line`
  the same for a line, also where the line is not set at all.
-/

namespace GossipPanel.Text.Fill

/-! ## Settings -/

/-- The columns of pieces with the spaces behind each of them. -/
def advance (ps : List Piece) : Nat :=
  sumColumns (ps.map fun p => p.width + p.space)

/-- The columns of pieces in one row; the spaces behind the last one do not count. -/
def rowColumns : List Piece → Nat
  | [] => 0
  | [p] => p.width
  | p :: ps => p.width + p.space + rowColumns ps

/-- The pieces, cut into rows. No row is empty. -/
structure Sets (ps : List Piece) (rows : List (List Piece)) : Prop where
  flatten : rows.flatten = ps
  ne_nil : [] ∉ rows

/-- What rows cost; `isLast` tells that the last one ends the line. -/
def cost (limit : Nat) (isLast : Bool) : List (List Piece) → Nat
  | [] => 0
  | [row] => rowCost limit (rowColumns row) isLast (row.length = 1)
  | row :: rows => rowCost limit (rowColumns row) false (row.length = 1) + cost limit isLast rows

/-- A setting of the pieces that no other one undercuts. -/
structure Cheapest (limit : Nat) (ps : List Piece) (rows : List (List Piece)) : Prop where
  sets : Sets ps rows
  least : ∀ others, Sets ps others → cost limit true rows ≤ cost limit true others

@[simp]
theorem advance_nil : advance [] = 0 := rfl

@[simp]
theorem advance_cons (p : Piece) (ps : List Piece) :
    advance (p :: ps) = p.width + p.space + advance ps := rfl

@[simp]
theorem advance_append (ps qs : List Piece) : advance (ps ++ qs) = advance ps + advance qs := by
  rw [advance, List.map_append, sumColumns_append]
  rfl

@[simp]
theorem advance_reverse (ps : List Piece) : advance ps.reverse = advance ps := by
  induction ps with
  | nil => rfl
  | cons p ps ih =>
    rw [List.reverse_cons, advance_append, ih, advance_cons, advance_cons, advance_nil]
    omega

theorem rowColumns_cons {ps : List Piece} (h : ps ≠ []) (p : Piece) :
    rowColumns (p :: ps) = p.width + p.space + rowColumns ps := by
  obtain ⟨q, qs, rfl⟩ := List.exists_cons_of_ne_nil h
  rfl

theorem rowColumns_concat (ps : List Piece) (p : Piece) :
    rowColumns (ps ++ [p]) = advance ps + p.width := by
  induction ps with
  | nil => simp [rowColumns]
  | cons q ps ih =>
    rw [List.cons_append, rowColumns_cons (by simp), ih, advance_cons]
    omega

theorem rowColumns_le_advance (ps : List Piece) : rowColumns ps ≤ advance ps := by
  rcases List.eq_nil_or_concat' ps with rfl | ⟨qs, p, rfl⟩
  · exact Nat.le_refl 0
  · rw [rowColumns_concat, advance_append, advance_cons, advance_nil]
    omega

theorem sets_nil : Sets [] [] :=
  ⟨rfl, by simp⟩

theorem Sets.eq_nil {rows : List (List Piece)} (h : Sets [] rows) : rows = [] := by
  cases rows with
  | nil => rfl
  | cons row rows =>
    have hrow : row = [] := List.append_eq_nil_iff.1 h.flatten |>.1
    exact absurd (hrow ▸ List.mem_cons_self) h.ne_nil

theorem sets_singleton {ps : List Piece} (h : ps ≠ []) : Sets ps [ps] :=
  ⟨by simp, by simpa using h.symm⟩

theorem Sets.concat {ps row : List Piece} {rows : List (List Piece)} (h : Sets ps rows)
    (hrow : row ≠ []) : Sets (ps ++ row) (rows ++ [row]) :=
  ⟨by simp [h.flatten], by simpa [h.ne_nil] using hrow.symm⟩

theorem Sets.exists_last {ps : List Piece} {p : Piece} {rows : List (List Piece)}
    (h : Sets (ps ++ [p]) rows) :
    ∃ init before last, rows = init ++ [last ++ [p]] ∧ ps = before ++ last ∧ Sets before init := by
  rcases List.eq_nil_or_concat' rows with rfl | ⟨init, row, rfl⟩
  · have hflatten := h.flatten
    simp at hflatten
  · have hrow : row ≠ [] := fun hnil => h.ne_nil (by simp [hnil])
    obtain ⟨last, q, rfl⟩ := List.eq_nil_or_concat' row |>.resolve_left hrow
    have hflatten : (init.flatten ++ last) ++ [q] = ps ++ [p] := by
      simpa using h.flatten
    obtain ⟨hps, hp⟩ := List.append_inj' hflatten rfl
    obtain rfl : q = p := by simpa using hp
    exact ⟨init, init.flatten, last, rfl, hps.symm,
      rfl, fun hmem => h.ne_nil (List.mem_append_left _ hmem)⟩

theorem cost_cons (limit : Nat) (isLast : Bool) (row : List Piece) {rows : List (List Piece)}
    (h : rows ≠ []) :
    cost limit isLast (row :: rows) =
      rowCost limit (rowColumns row) false (row.length = 1) + cost limit isLast rows := by
  obtain ⟨next, rest, rfl⟩ := List.exists_cons_of_ne_nil h
  rfl

theorem cost_append (limit : Nat) (isLast : Bool) (rows : List (List Piece))
    {more : List (List Piece)} (h : more ≠ []) :
    cost limit isLast (rows ++ more) = cost limit false rows + cost limit isLast more := by
  induction rows with
  | nil => exact (Nat.zero_add _).symm
  | cons row rows ih =>
    rw [List.cons_append, cost_cons limit isLast row (by simp [h]), ih, ← Nat.add_assoc]
    by_cases hrows : rows = []
    · rw [hrows]
      rfl
    · rw [cost_cons limit false row hrows]

theorem cost_concat (limit : Nat) (isLast : Bool) (rows : List (List Piece)) (row : List Piece) :
    cost limit isLast (rows ++ [row]) =
      cost limit false rows + rowCost limit (rowColumns row) isLast (row.length = 1) :=
  cost_append limit isLast rows (by simp)

theorem rowCost_last (limit used : Nat) (alone : Bool) :
    rowCost limit used true alone =
      1000 + (used - limit) * 2500 + (if alone && 4 * used < limit then 25 else 0) := by
  unfold rowCost
  by_cases h : limit < used
  · have hshort : ¬4 * used < limit := by omega
    simp [h, hshort]
  · simp [h, show used - limit = 0 by omega]

theorem rowCost_before (limit used : Nat) (alone : Bool) :
    rowCost limit used false alone =
      1000 + (used - limit) * 2500 + (limit - used) * (limit - used) := by
  unfold rowCost
  by_cases h : limit < used
  · simp [h, show limit - used = 0 by omega]
  · simp [h, show used - limit = 0 by omega]

/-! ## The choice of a start -/

/-- What rows cost when the last of them begins at a start and ends at column `stop`. -/
def Start.costTo (s : Start) (limit stop : Nat) (isLast alone : Bool) : Nat :=
  s.cost + rowCost limit (stop - s.before) isLast alone

theorem exists_foldl_cheaper (first : Start) (starts : List Start) :
    ∃ i : Nat, (first :: starts)[i]? =
        some (starts.foldl (fun later earlier => cheaper earlier later) first) ∧
      ∀ (k : Nat) (t : Start), (first :: starts)[k]? = some t →
        (starts.foldl (fun later earlier => cheaper earlier later) first).cost ≤ t.cost ∧
          (i < k → (starts.foldl (fun later earlier => cheaper earlier later) first).cost <
            t.cost) := by
  induction starts using List.reverseRecOn with
  | nil =>
    refine ⟨0, rfl, fun k t ht => ?_⟩
    cases k with
    | zero => simp_all
    | succ k => simp at ht
  | append_singleton starts s ih =>
    obtain ⟨i, hi, hleast⟩ := ih
    rw [List.foldl_concat]
    generalize starts.foldl (fun later earlier => cheaper earlier later) first = best at *
    have hlength : i < (first :: starts).length := (List.getElem?_eq_some_iff.1 hi).1
    have hsplit : ∀ (k : Nat) (t : Start), (first :: (starts ++ [s]))[k]? = some t →
        (first :: starts)[k]? = some t ∨ k = (first :: starts).length ∧ t = s := by
      intro k t ht
      rw [← List.cons_append, List.getElem?_append] at ht
      split at ht
      · exact .inl ht
      · next hk =>
        obtain ⟨hlt, rfl⟩ := List.getElem?_eq_some_iff.1 ht
        simp only [List.length_singleton] at hlt
        exact .inr ⟨by omega, by simp⟩
    rw [cheaper]
    split
    · -- the new start is the earliest, and chosen
      next hle =>
      refine ⟨(first :: starts).length, by simp, fun k t ht => ?_⟩
      rcases hsplit k t ht with hold | ⟨rfl, rfl⟩
      · have hk := (List.getElem?_eq_some_iff.1 hold).1
        exact ⟨Nat.le_trans hle (hleast k t hold).1, fun hlt => by omega⟩
      · exact ⟨Nat.le_refl _, fun hlt => absurd hlt (Nat.lt_irrefl _)⟩
    · next hlt =>
      refine ⟨i, ?_, fun k t ht => ?_⟩
      · rw [← List.cons_append, List.getElem?_append_left hlength, hi]
      · rcases hsplit k t ht with hold | ⟨rfl, rfl⟩
        · exact hleast k t hold
        · omega

/-- Among some starts, last first, start `i` is the one from which a row to column `stop` costs
least. From those before it a row costs more. -/
structure Chosen (limit stop : Nat) (isLast : Bool) (starts : List Start) (i : Nat) (s : Start) :
    Prop where
  get : starts[i]? = some s
  le : ∀ (k : Nat) (t : Start), starts[k]? = some t →
    s.costTo limit stop isLast (i = 0) ≤ t.costTo limit stop isLast (k = 0)
  lt : ∀ (k : Nat) (t : Start), starts[k]? = some t → i < k →
    s.costTo limit stop isLast (i = 0) < t.costTo limit stop isLast (k = 0)

theorem exists_nextStart (limit stop after : Nat) (isLast : Bool) {starts : List Start}
    (hne : starts ≠ []) :
    ∃ i s, Chosen limit stop isLast starts i s ∧
      nextStart limit stop after isLast starts =
        some ⟨after, s.costTo limit stop isLast (i = 0), s.rows + 1⟩ := by
  let candidate (i : Nat) (s : Start) : Start :=
    ⟨after, s.costTo limit stop isLast (i = 0), s.rows + 1⟩
  obtain ⟨first, rest, hcandidates⟩ : ∃ first rest, starts.mapIdx candidate = first :: rest :=
    List.exists_cons_of_ne_nil (by simpa using hne)
  obtain ⟨i, hi, hleast⟩ := exists_foldl_cheaper first rest
  rw [← hcandidates, List.getElem?_mapIdx, Option.map_eq_some_iff] at hi
  obtain ⟨s, hs, hchosen⟩ := hi
  have hnext : nextStart limit stop after isLast starts = some (candidate i s) := by
    rw [hchosen, nextStart]
    split
    · next hnil => exact absurd (hnil.symm.trans hcandidates) (List.cons_ne_nil first rest).symm
    · next t ts hcons =>
      obtain ⟨rfl, rfl⟩ := List.cons_eq_cons.1 (hcons.symm.trans hcandidates)
      rfl
  have hcandidate : ∀ (k : Nat) (t : Start), starts[k]? = some t →
      (candidate i s).cost ≤ (candidate k t).cost ∧
        (i < k → (candidate i s).cost < (candidate k t).cost) := by
    intro k t ht
    rw [hchosen]
    exact hleast k _ (by rw [← hcandidates, List.getElem?_mapIdx, ht, Option.map_some])
  exact ⟨i, s, ⟨hs, fun k t ht => (hcandidate k t ht).1, fun k t ht => (hcandidate k t ht).2⟩,
    hnext⟩

/-! ## Starts of rows -/

/-- The starts before and behind pieces, which are given last first. -/
def startsOf (limit : Nat) : List Piece → List Start
  | [] => [⟨0, 0, 0⟩]
  | p :: rs =>
    (nextStart limit (advance rs + p.width) (advance rs + p.width + p.space) false
      (startsOf limit rs)).toList ++ startsOf limit rs

theorem startsOf_ne_nil (limit : Nat) (rs : List Piece) : startsOf limit rs ≠ [] := by
  induction rs with
  | nil => simp [startsOf]
  | cons p rs ih => simp [startsOf, ih]

theorem exists_startsOf_cons (limit : Nat) (p : Piece) (rs : List Piece) :
    ∃ i s, Chosen limit (advance rs + p.width) false (startsOf limit rs) i s ∧
      startsOf limit (p :: rs) =
        ⟨advance rs + p.width + p.space, s.costTo limit (advance rs + p.width) false (i = 0),
          s.rows + 1⟩ :: startsOf limit rs := by
  obtain ⟨i, s, hchosen, hnext⟩ := exists_nextStart limit (advance rs + p.width)
    (advance rs + p.width + p.space) false (startsOf_ne_nil limit rs)
  refine ⟨i, s, hchosen, ?_⟩
  rw [startsOf, hnext]
  rfl

theorem rowsFrom_concat (limit : Nat) (rs qs : List Piece) (p : Piece) :
    rowsFrom limit (advance rs) (startsOf limit rs) (qs ++ [p]) =
      ((nextStart limit (advance (qs.reverse ++ rs) + p.width)
        (advance (qs.reverse ++ rs) + p.width + p.space) true
        (startsOf limit (qs.reverse ++ rs))).map Start.rows).getD 0 := by
  induction qs generalizing rs with
  | nil =>
    obtain ⟨i, s, -, hnext⟩ := exists_nextStart limit (advance rs + p.width)
      (advance rs + p.width + p.space) true (startsOf_ne_nil limit rs)
    simp [rowsFrom, hnext]
  | cons q qs ih =>
    obtain ⟨i, s, -, hnext⟩ := exists_nextStart limit (advance rs + q.width)
      (advance rs + q.width + q.space) false (startsOf_ne_nil limit rs)
    have hlater := ih (q :: rs)
    rw [startsOf, hnext, advance_cons, Nat.add_comm _ (advance rs), ← Nat.add_assoc] at hlater
    rw [List.cons_append, rowsFrom, show (qs ++ [p]).isEmpty = false by simp, hnext]
    simpa using hlater

theorem exists_leastRows (limit : Nat) (ps : List Piece) (p : Piece) :
    ∃ i s, Chosen limit (advance ps + p.width) true (startsOf limit ps.reverse) i s ∧
      leastRows limit (ps ++ [p]) = s.rows + 1 := by
  obtain ⟨i, s, hchosen, hnext⟩ := exists_nextStart limit (advance ps + p.width)
    (advance ps + p.width + p.space) true (startsOf_ne_nil limit ps.reverse)
  have hrows := rowsFrom_concat limit [] ps p
  rw [List.append_nil, advance_reverse, hnext] at hrows
  refine ⟨i, s, hchosen, (congrArg (max 1) hrows).trans ?_⟩
  show max 1 (s.rows + 1) = s.rows + 1
  omega

/-! ## Starts stand for settings -/

/-- A start behind pieces stands for a setting that costs least. -/
structure Best (limit : Nat) (isLast : Bool) (ps : List Piece) (s : Start) : Prop where
  before : s.before = advance ps
  attained : ∃ rows, Sets ps rows ∧ cost limit isLast rows = s.cost ∧ rows.length = s.rows
  least : ∀ rows, Sets ps rows → s.cost ≤ cost limit isLast rows

/-- The step: when all starts so far stand for cheapest settings, so does the next one. -/
theorem best_of_chosen {limit : Nat} {isLast : Bool} {rs : List Piece} {p : Piece} {i : Nat}
    {t : Start} (hlength : (startsOf limit rs).length = rs.length + 1)
    (hbest : ∀ (i : Nat) (t : Start), (startsOf limit rs)[i]? = some t →
      Best limit false (rs.drop i).reverse t)
    (hchosen : Chosen limit (advance rs + p.width) isLast (startsOf limit rs) i t) :
    Best limit isLast (rs.reverse ++ [p])
      ⟨advance rs + p.width + p.space, t.costTo limit (advance rs + p.width) isLast (i = 0),
        t.rows + 1⟩ := by
  -- a row from start `k` on holds the last `k` pieces and `p`
  have hrow : ∀ (k : Nat) (u : Start), (startsOf limit rs)[k]? = some u →
      u.costTo limit (advance rs + p.width) isLast (k = 0) =
        u.cost + rowCost limit (rowColumns ((rs.take k).reverse ++ [p])) isLast
          (((rs.take k).reverse ++ [p]).length = 1) := by
    intro k u hu
    have hk : k < rs.length + 1 := hlength ▸ (List.getElem?_eq_some_iff.1 hu).1
    have hsplit : advance (rs.take k) + advance (rs.drop k) = advance rs := by
      rw [← advance_append, List.take_append_drop]
    have hcolumns : advance rs + p.width - u.before =
        rowColumns ((rs.take k).reverse ++ [p]) := by
      rw [(hbest k u hu).before, rowColumns_concat, advance_reverse, advance_reverse]
      omega
    have halone : (((rs.take k).reverse ++ [p]).length = 1) ↔ k = 0 := by
      simp only [List.length_append, List.length_reverse, List.length_take, List.length_singleton]
      omega
    rw [Start.costTo, hcolumns, decide_eq_decide.2 halone]
  have hjoin : ∀ k, (rs.drop k).reverse ++ (rs.take k).reverse = rs.reverse := by
    intro k
    rw [← List.reverse_append, List.take_append_drop]
  refine ⟨?_, ?_, ?_⟩
  · show advance rs + p.width + p.space = _
    rw [advance_append, advance_reverse, advance_cons, advance_nil]
    omega
  · obtain ⟨rows, hsets, hcost, hrows⟩ := (hbest i t hchosen.get).attained
    have hset := hsets.concat (show (rs.take i).reverse ++ [p] ≠ [] by simp)
    rw [← List.append_assoc, hjoin] at hset
    refine ⟨_, hset, ?_, by simp [hrows]⟩
    rw [cost_concat, hcost]
    exact (hrow i t hchosen.get).symm
  · intro rows hsets
    obtain ⟨init, before, last, rfl, hpieces, hinit⟩ := hsets.exists_last
    have hrs : rs = last.reverse ++ before.reverse := by
      rw [← List.reverse_append, ← hpieces, List.reverse_reverse]
    have hlast : last.length < (startsOf limit rs).length := by
      rw [hlength, hrs, List.length_append, List.length_reverse]
      omega
    obtain ⟨u, hu⟩ : ∃ u, (startsOf limit rs)[last.length]? = some u :=
      ⟨_, List.getElem?_eq_getElem hlast⟩
    have hdrop : (rs.drop last.length).reverse = before := by
      rw [hrs, List.drop_left' (by simp), List.reverse_reverse]
    have htake : (rs.take last.length).reverse = last := by
      rw [hrs, List.take_left' (by simp), List.reverse_reverse]
    have hle := hchosen.le _ u hu
    rw [hrow _ u hu, htake] at hle
    have hu_least := (hbest _ u hu).least init (hdrop ▸ hinit)
    rw [cost_concat]
    exact Nat.le_trans hle (Nat.add_le_add_right hu_least _)

theorem best_of_mem_starts (limit : Nat) (rs : List Piece) :
    (startsOf limit rs).length = rs.length + 1 ∧
      ∀ (i : Nat) (s : Start), (startsOf limit rs)[i]? = some s →
        Best limit false (rs.drop i).reverse s := by
  induction rs with
  | nil =>
    refine ⟨rfl, fun i s hs => ?_⟩
    obtain ⟨rfl, rfl⟩ : i = 0 ∧ s = ⟨0, 0, 0⟩ := by
      cases i with
      | zero => simpa [startsOf, eq_comm] using hs
      | succ i => simp [startsOf] at hs
    exact ⟨rfl, ⟨[], sets_nil, rfl, rfl⟩, fun rows _ => Nat.zero_le _⟩
  | cons p rs ih =>
    obtain ⟨hlength, hbest⟩ := ih
    obtain ⟨i, t, hchosen, hstarts⟩ := exists_startsOf_cons limit p rs
    rw [hstarts]
    refine ⟨by simp [hlength], fun k s hs => ?_⟩
    cases k with
    | zero =>
      obtain rfl := Option.some.inj hs
      simpa using best_of_chosen hlength hbest hchosen
    | succ k => exact hbest k s hs

/-- The number that is found is the number of rows of a cheapest setting. A line without pieces
has a row all the same. -/
theorem exists_cheapest (limit : Nat) (ps : List Piece) :
    ∃ rows, Cheapest limit ps rows ∧ leastRows limit ps = max 1 rows.length := by
  rcases List.eq_nil_or_concat' ps with rfl | ⟨qs, p, rfl⟩
  · exact ⟨[], ⟨sets_nil, fun _ _ => Nat.zero_le _⟩, rfl⟩
  · obtain ⟨hlength, hbest⟩ := best_of_mem_starts limit qs.reverse
    obtain ⟨i, t, hchosen, hleast⟩ := exists_leastRows limit qs p
    rw [← advance_reverse qs] at hchosen
    have hlast := best_of_chosen hlength hbest hchosen
    rw [List.reverse_reverse] at hlast
    obtain ⟨rows, hsets, hcost, hrows⟩ := hlast.attained
    refine ⟨rows, ⟨hsets, fun others h => ?_⟩, ?_⟩
    · rw [hcost]
      exact hlast.least others h
    · rw [hleast, hrows]
      exact (Nat.max_eq_right (Nat.succ_le_succ (Nat.zero_le _))).symm

end GossipPanel.Text.Fill
