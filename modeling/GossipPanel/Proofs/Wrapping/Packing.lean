import GossipPanel.Proofs.Wrapping.Settings

/-!
# Rows that hold as much as fits

Filling every row with as many pieces as fit takes the fewest rows of all settings in which no row
is too wide. A cheapest setting is such a setting only where a gap never costs more than a row that
is too wide: up to 39 columns.

* `Packs`: filling the rows one after the other; `Packs.beside` and `Packs.below` are its two steps.
* `Packs.exists_fewest`: this takes the fewest rows.
* `Cheapest.fits`: up to 39 columns no row of a cheapest setting is too wide, so it takes at least
  as many rows.
-/

namespace GossipPanel.Text.Fill

/-- No row is too wide. -/
def Fits (limit : Nat) (rows : List (List Piece)) : Prop :=
  ∀ row ∈ rows, rowColumns row ≤ limit

/-- A setting of the pieces in which no row is too wide, of as few rows as there can be. -/
structure Fewest (limit : Nat) (ps : List Piece) (rows : List (List Piece)) : Prop where
  sets : Sets ps rows
  fits : Fits limit rows
  least : ∀ others, Sets ps others → Fits limit others → rows.length ≤ others.length

/-- The pieces fill `n` rows and `used` columns of the row after them. No setting that fits takes
less. -/
structure Packs (limit : Nat) (ps : List Piece) (n used : Nat) : Prop where
  attained : ∃ rows last, Sets ps (rows ++ [last]) ∧ Fits limit (rows ++ [last]) ∧
    rows.length = n ∧ rowColumns last = used
  least : ∀ rows last, Sets ps (rows ++ [last]) → Fits limit (rows ++ [last]) →
    n ≤ rows.length ∧ (rows.length = n → used ≤ rowColumns last)

variable {limit : Nat}

theorem Fits.of_append_left {rows more : List (List Piece)} (h : Fits limit (rows ++ more)) :
    Fits limit rows :=
  fun row hrow => h row (List.mem_append_left _ hrow)

theorem fits_concat {rows : List (List Piece)} {row : List Piece} :
    Fits limit (rows ++ [row]) ↔ Fits limit rows ∧ rowColumns row ≤ limit := by
  simp [Fits, or_imp, forall_and]

theorem rowColumns_snoc (ps : List Piece) (q p : Piece) :
    rowColumns (ps ++ [q] ++ [p]) = rowColumns (ps ++ [q]) + q.space + p.width := by
  rw [rowColumns_concat, rowColumns_concat, advance_append, advance_cons, advance_nil]
  omega

/-! ## Filling the rows -/

theorem packs_singleton {p : Piece} (hp : p.width ≤ limit) : Packs limit [p] 0 p.width := by
  have hfits : Fits limit ([] ++ [[p]]) := fits_concat.2 ⟨by simp [Fits], hp⟩
  refine ⟨⟨[], [p], sets_singleton (by simp), hfits, rfl, rfl⟩, fun rows last hsets _ => ?_⟩
  · obtain ⟨init, before, front, hrows, hpieces, -⟩ :=
      Sets.exists_last (show Sets ([] ++ [p]) (rows ++ [last]) from hsets)
    obtain ⟨rfl, rfl⟩ := List.append_inj' hrows rfl |>.imp id fun h => by simpa using h
    obtain ⟨-, rfl⟩ := List.append_eq_nil_iff.1 hpieces.symm
    exact ⟨Nat.zero_le _, fun _ => Nat.le_refl _⟩

/-- The setting of one piece more either has a row for it alone, or the piece stands behind the last
row of a setting of the others. -/
theorem Sets.concat_cases {ps : List Piece} {p : Piece} {rows : List (List Piece)}
    {last : List Piece} (h : Sets (ps ++ [p]) (rows ++ [last])) :
    (last = [p] ∧ Sets ps rows) ∨
      ∃ front q, last = front ++ [q] ++ [p] ∧ Sets ps (rows ++ [front ++ [q]]) := by
  obtain ⟨init, before, front, hrows, hpieces, hinit⟩ := h.exists_last
  obtain ⟨rfl, hlast⟩ := List.append_inj' hrows rfl
  obtain rfl : last = front ++ [p] := by simpa using hlast
  rcases List.eq_nil_or_concat' front with rfl | ⟨front, q, rfl⟩
  · left
    rw [hpieces, List.append_nil]
    exact ⟨rfl, hinit⟩
  · right
    refine ⟨front, q, rfl, ?_⟩
    rw [hpieces]
    exact hinit.concat (by simp)

variable {ps : List Piece} {p q : Piece} {n used : Nat}

theorem Sets.last_eq {rows : List (List Piece)} {front : List Piece} {r : Piece}
    (h : Sets (ps ++ [q]) (rows ++ [front ++ [r]])) : r = q := by
  have hflatten : rows.flatten ++ front ++ [r] = ps ++ [q] := by simpa using h.flatten
  simpa using (List.append_inj' hflatten rfl).2

theorem Packs.lt_length (h : Packs limit ps n used) {rows : List (List Piece)}
    (hsets : Sets ps rows) (hfits : Fits limit rows) : n < rows.length := by
  rcases List.eq_nil_or_concat' rows with rfl | ⟨init, row, rfl⟩
  · obtain ⟨others, last, hother, -⟩ := h.attained
    rw [show ps = [] from hsets.flatten.symm] at hother
    exact absurd hother.eq_nil (by simp)
  · have hmore := (h.least init row hsets hfits).1
    rw [List.length_append, List.length_singleton]
    omega

theorem Packs.beside (h : Packs limit (ps ++ [q]) n used)
    (hfits : used + q.space + p.width ≤ limit) :
    Packs limit (ps ++ [q] ++ [p]) n (used + q.space + p.width) := by
  obtain ⟨rows, last, hsets, hrows, hlength, hused⟩ := h.attained
  have hne : last ≠ [] := fun hnil => hsets.ne_nil (by simp [hnil])
  obtain ⟨front, r, rfl⟩ := List.eq_nil_or_concat' last |>.resolve_left hne
  obtain rfl := hsets.last_eq
  refine ⟨⟨rows, front ++ [r] ++ [p], ⟨?_, ?_⟩, ?_, hlength, ?_⟩, fun others last hother hfit => ?_⟩
  · have hflatten := hsets.flatten
    simp only [List.flatten_append, List.flatten_singleton] at hflatten ⊢
    rw [← List.append_assoc, hflatten]
  · have hrows_ne : [] ∉ rows := fun hmem => hsets.ne_nil (List.mem_append_left _ hmem)
    simpa using hrows_ne
  · rw [fits_concat, rowColumns_snoc, hused]
    exact ⟨hrows.of_append_left, hfits⟩
  · rw [rowColumns_snoc, hused]
  · obtain ⟨hothers, hlast⟩ := fits_concat.1 hfit
    rcases hother.concat_cases with ⟨rfl, halone⟩ | ⟨front', r', rfl, hbeside⟩
    · -- a setting with a row more
      have hmore := h.lt_length halone hothers
      exact ⟨by omega, fun heq => by omega⟩
    · obtain rfl := hbeside.last_eq
      rw [rowColumns_snoc] at hlast ⊢
      obtain ⟨hrows', hused'⟩ := h.least others _ hbeside
        (fits_concat.2 ⟨hothers, by omega⟩)
      exact ⟨hrows', fun heq => by have := hused' heq; omega⟩

theorem Packs.below (h : Packs limit (ps ++ [q]) n used) (hp : p.width ≤ limit)
    (hover : limit < used + q.space + p.width) :
    Packs limit (ps ++ [q] ++ [p]) (n + 1) p.width := by
  obtain ⟨rows, last, hsets, hrows, hlength, -⟩ := h.attained
  refine ⟨⟨rows ++ [last], [p], hsets.concat (by simp), fits_concat.2 ⟨hrows, hp⟩,
    by simp [hlength], rfl⟩, fun others last hother hfit => ?_⟩
  obtain ⟨hothers, hlast⟩ := fits_concat.1 hfit
  rcases hother.concat_cases with ⟨rfl, halone⟩ | ⟨front', r', rfl, hbeside⟩
  · exact ⟨h.lt_length halone hothers, fun _ => Nat.le_refl _⟩
  · -- with the piece in its last row, a setting of no more rows would be too wide
    obtain rfl := hbeside.last_eq
    rw [rowColumns_snoc] at hlast ⊢
    obtain ⟨hrows', hused'⟩ := h.least others _ hbeside (fits_concat.2 ⟨hothers, by omega⟩)
    have hmore : others.length ≠ n := fun heq => by
      have := hused' heq
      omega
    exact ⟨by omega, fun _ => by omega⟩

theorem Packs.exists_fewest (h : Packs limit ps n used) :
    ∃ rows, Fewest limit ps rows ∧ rows.length = n + 1 := by
  obtain ⟨rows, last, hsets, hfits, hlength, -⟩ := h.attained
  have hrows : (rows ++ [last]).length = n + 1 := by simp [hlength]
  refine ⟨rows ++ [last], ⟨hsets, hfits, fun others hother hfit => ?_⟩, hrows⟩
  rw [hrows]
  exact h.lt_length hother hfit

theorem fewest_nil : Fewest limit [] [] :=
  ⟨sets_nil, by simp [Fits], fun _ _ _ => Nat.zero_le _⟩

theorem Fewest.length_le_one {rows : List (List Piece)} (h : Fewest limit ps rows)
    (hfits : rowColumns ps ≤ limit) : rows.length ≤ 1 := by
  by_cases hne : ps = []
  · subst hne
    rw [h.sets.eq_nil]
    exact Nat.zero_le 1
  · exact h.least [ps] (sets_singleton hne) (by simpa [Fits] using hfits)

/-! ## Cheapest settings -/

/-- A piece that words of narrow characters have. -/
structure Piece.Narrow (limit : Nat) (p : Piece) : Prop where
  pos : 0 < p.width
  fits : p.width ≤ limit
  space_le : p.space ≤ 1

theorem advance_le_rowColumns {ps : List Piece} (h : ∀ p ∈ ps, p.Narrow limit) (hne : ps ≠ []) :
    0 < rowColumns ps ∧ advance ps ≤ rowColumns ps + 1 := by
  obtain ⟨init, p, rfl⟩ := List.eq_nil_or_concat' ps |>.resolve_left hne
  obtain ⟨hpos, -, hspace⟩ := h p (by simp)
  rw [rowColumns_concat, advance_append, advance_cons, advance_nil]
  omega

/-- Up to 39 columns it is cheaper to give the last piece of a row that is too wide a row of its
own. -/
theorem rowCost_split_lt (hlimit : limit ≤ 39) {ps : List Piece} (hps : ∀ p ∈ ps, p.Narrow limit)
    (hne : ps ≠ []) {p : Piece} (hp : p.Narrow limit) (hover : limit < rowColumns (ps ++ [p]))
    (isLast alone alone' alone'' : Bool) :
    rowCost limit (rowColumns ps) false alone + rowCost limit p.width isLast alone' <
      rowCost limit (rowColumns (ps ++ [p])) isLast alone'' := by
  obtain ⟨hpos, hadvance⟩ := advance_le_rowColumns hps hne
  obtain ⟨hwidth, hfits, -⟩ := hp
  rw [rowColumns_concat] at hover ⊢
  have hsquare : ∀ u, 0 < u → (limit - u) * (limit - u) ≤ 38 * (limit - u) :=
    fun u hu => Nat.mul_le_mul_right _ (by omega)
  have hfirst := hsquare (rowColumns ps) hpos
  have hsecond := hsquare p.width hwidth
  have hle := rowColumns_le_advance ps
  cases isLast with
  | true =>
    rw [rowCost_before, rowCost_last, rowCost_last]
    split <;> split <;> omega
  | false =>
    rw [rowCost_before, rowCost_before, rowCost_before]
    omega

theorem Cheapest.fits {rows : List (List Piece)} (h : Cheapest limit ps rows)
    (hlimit : limit ≤ 39) (hps : ∀ p ∈ ps, p.Narrow limit) : Fits limit rows := by
  intro row hrow
  refine Nat.le_of_not_lt fun hover => ?_
  obtain ⟨before, after, rfl⟩ := List.append_of_mem hrow
  have hpieces : ∀ p ∈ row, p.Narrow limit := by
    intro p hp
    refine hps p ?_
    rw [← h.sets.flatten]
    exact List.mem_flatten.2 ⟨row, hrow, hp⟩
  have hne : row ≠ [] := fun hnil => h.sets.ne_nil (hnil ▸ hrow)
  obtain ⟨front, p, rfl⟩ := List.eq_nil_or_concat' row |>.resolve_left hne
  have hp := hpieces p (by simp)
  have hfront : front ≠ [] := by
    rintro rfl
    exact absurd hp.fits (Nat.not_le_of_lt hover)
  have hsplit : Sets ps (before ++ [front, [p]] ++ after) := by
    refine ⟨by simpa using h.sets.flatten, fun hmem => ?_⟩
    have hothers : [] ∈ before ∨ [] ∈ after := by simpa [hfront] using hmem
    exact h.sets.ne_nil (by simpa using hothers)
  have hleast := h.least _ hsplit
  have hfront_narrow : ∀ q ∈ front, q.Narrow limit :=
    fun q hq => hpieces q (List.mem_append_left _ hq)
  have hless := fun isLast => rowCost_split_lt hlimit hfront_narrow hfront hp hover isLast
  rw [List.append_assoc, cost_append _ _ _ (by simp), cost_append _ _ _ (by simp)] at hleast
  by_cases hafter : after = []
  · have hlast := hless true (front.length = 1) true ((front ++ [p]).length = 1)
    subst hafter
    have hold : cost limit true [front ++ [p]] =
      rowCost limit (rowColumns (front ++ [p])) true ((front ++ [p]).length = 1) := rfl
    have hnew : cost limit true ([front, [p]] ++ []) =
      rowCost limit (rowColumns front) false (front.length = 1) +
        rowCost limit p.width true true := rfl
    omega
  · have hmiddle := hless false (front.length = 1) true ((front ++ [p]).length = 1)
    have hold := cost_cons limit true (front ++ [p]) hafter
    have hnew : cost limit true ([front, [p]] ++ after) =
        rowCost limit (rowColumns front) false (front.length = 1) +
          (rowCost limit p.width false true + cost limit true after) := by
      rw [List.cons_append, cost_cons _ _ _ (by simp), List.cons_append, List.nil_append,
        cost_cons _ _ _ hafter]
      rfl
    omega

/-- Up to 39 columns a cheapest setting takes no fewer rows than filling the rows. -/
theorem Fewest.length_le {fewest cheapest : List (List Piece)} (h : Fewest limit ps fewest)
    (hcheapest : Cheapest limit ps cheapest) (hlimit : limit ≤ 39)
    (hps : ∀ p ∈ ps, p.Narrow limit) : fewest.length ≤ cheapest.length :=
  h.least cheapest hcheapest.sets (hcheapest.fits hlimit hps)

end GossipPanel.Text.Fill
