import GossipPanel.Proofs.PaneActions
import GossipPanel.Proofs.Redrawing
import Mathlib.Data.List.Induction

/-!
# The cursor of a list

The rows of a list are made anew for every drawing, and there may be fewer of them each time. A list
remembers a selected row only and learns their number when it is drawn.

* `ListPane.Move`: what happens to a list. `ListPane.lastCount`: the number of rows that it has been
  told last.
* `ListPane.move_of_count?`: a drawing selects what learning the number of rows selects.
* `Event.target`: the row that an event means; `ListPane.snd_handle_of_some`: it is selected then.
* `ListPane.moveBy?`: the cursor moved by signed numbers of 64 bits, the ends of the list by
  distances longer than any list. `ListPane.Settled.moveBy?_eq`: where rows are not too many, no
  number leaves its range.
* `ListPane.settled_moves`: along every run the list is settled for the number told last.
* `list_cursor`: all of it, along every run.
-/

namespace GossipPanel.Display

open Panel Screen

/-! ## Runs -/

namespace ListPane

/-- What happens to a list. The peers, the routes and the results of a search are drawn from their
rows; each drawing first tells the list how many there are. -/
inductive Move where
  | sync (count : Nat)
  | handle (event : Event)
  | drawPeers (rows : List PeerRow) (focused : Bool) (width height : Nat)
  | drawRoutes (rows : List RouteRow) (focused : Bool) (width height : Nat)
  | drawSearch (session : Option Session) (focused : Bool) (width height : Nat)

/-- The number of rows that a move tells the list. -/
def Move.count? : Move → Option Nat
  | .sync count => some count
  | .handle _ => none
  | .drawPeers rows .. => some rows.length
  | .drawRoutes rows .. => some rows.length
  | .drawSearch session .. => some ((session.map (·.entries.length)).getD 0)

def move (p : ListPane) : Move → ListPane
  | .sync count => p.sync count
  | .handle event => (p.handle event).2
  | .drawPeers rows focused width height => (p.drawPeers rows focused width height).1
  | .drawRoutes rows focused width height => (p.drawRoutes rows focused width height).1
  | .drawSearch session focused width height => (p.drawSearch session focused width height).1

def moves (p : ListPane) (ms : List Move) : ListPane :=
  ms.foldl move p

/-- The numbers of rows that a run tells the list. -/
def counts (ms : List Move) : List Nat :=
  ms.filterMap Move.count?

/-- The number that a run has told last; 0 if it has told none. -/
def lastCount (ms : List Move) : Nat :=
  (counts ms).getLast?.getD 0

theorem moves_concat (p : ListPane) (ms : List Move) (last : Move) :
    p.moves (ms ++ [last]) = (p.moves ms).move last := by
  simp [moves]

theorem lastCount_concat (ms : List Move) (last : Move) :
    lastCount (ms ++ [last]) = last.count?.getD (lastCount ms) := by
  cases h : last.count? <;> simp [lastCount, counts, List.filterMap_append, h]

theorem lastCount_le {most : Nat} {ms : List Move} (h : ∀ count ∈ counts ms, count ≤ most) :
    lastCount ms ≤ most := by
  rw [lastCount]
  cases hlast : (counts ms).getLast? with
  | none => exact Nat.zero_le most
  | some count => exact h count (List.mem_of_getLast? hlast)

/-! ## Learning the number of rows -/

variable {p : ListPane} {n count i : Nat}

theorem cursor_sync_zero (p : ListPane) : (p.sync 0).cursor = none :=
  rfl

theorem cursor_sync_of_none (hcount : 0 < count) (hcursor : p.cursor = none) :
    (p.sync count).cursor = some 0 := by
  simp only [sync, if_neg (Nat.ne_of_gt hcount), hcursor, select]

theorem cursor_sync_of_some (hcount : 0 < count) (hcursor : p.cursor = some i) :
    (p.sync count).cursor = some (min i (count - 1)) := by
  simp only [sync, if_neg (Nat.ne_of_gt hcount), hcursor]
  split
  · next hle => rw [select, Nat.min_eq_right (by omega)]
  · next hlt => rw [Nat.min_eq_left (by omega)]

theorem Settled.cursor_drawItems {items : List (List Span)} (h : p.Settled items.length)
    (title : String) (focused : Bool) (width height : Nat) :
    (p.drawItems title items focused width height).1.cursor = p.cursor := by
  rw [ListPane.drawItems]
  split
  · rfl
  split
  · next hitems =>
    have hzero : items.length = 0 := by simpa using hitems
    exact (h.empty hzero).1.symm
  · next hitems =>
    have hpos : 0 < items.length := List.length_pos_iff.2 (by simpa using hitems)
    obtain ⟨i, hi, hcursor⟩ := h.chosen hpos
    show p.cursor.map (min · (items.length - 1)) = p.cursor
    rw [hcursor, Option.map_some, Nat.min_eq_left (by omega)]

theorem draw_sync {items : List (List Span)} (hcount : items.length = count) (p : ListPane)
    (title : String) (focused : Bool) (width height : Nat) :
    let drawn := ((p.sync count).drawItems title items focused width height).1
    drawn.Settled count ∧ drawn.cursor = (p.sync count).cursor := by
  subst hcount
  have hsettled := p.settled_sync items.length
  exact ⟨hsettled.drawItems title focused width height,
    hsettled.cursor_drawItems title focused width height⟩

/-- Whatever tells the list its number of rows settles it for them, and selects what learning the
number selects. -/
theorem move_of_count? {m : Move} (h : m.count? = some count) (p : ListPane) :
    (p.move m).Settled count ∧ (p.move m).cursor = (p.sync count).cursor := by
  cases m with
  | handle event => cases h
  | sync count' =>
    obtain rfl := Option.some.inj h
    exact ⟨p.settled_sync count', rfl⟩
  | drawPeers rows focused width height =>
    obtain rfl := Option.some.inj h
    exact draw_sync (List.length_map peerItem) p _ focused width height
  | drawRoutes rows focused width height =>
    obtain rfl := Option.some.inj h
    exact draw_sync (List.length_map routeItem) p _ focused width height
  | drawSearch session focused width height =>
    obtain rfl := Option.some.inj h
    cases session with
    | none => exact ⟨p.settled_sync 0, rfl⟩
    | some s =>
      rw [move, drawSearch]
      split
      · exact ⟨p.settled_sync s.entries.length, rfl⟩
      · exact draw_sync (List.length_map entryItem) p _ focused width height

end ListPane

/-! ## Events -/

/-- The row of a list with `count` rows that an event leads to from row `i`. -/
def Event.target (count i : Nat) : Event → Nat
  | .up | .scrollUp => i - 1
  | .down | .scrollDown => min (i + 1) (count - 1)
  | .home => 0
  | .end => count - 1
  | _ => i

theorem Event.target_lt {count i : Nat} (event : Event) (hi : i < count) :
    event.target count i < count := by
  have hlast : count - 1 < count := by omega
  cases event with
  | up | scrollUp => exact Nat.lt_of_le_of_lt (Nat.sub_le i 1) hi
  | down | scrollDown => exact Nat.lt_of_le_of_lt (Nat.min_le_right _ _) hlast
  | home => exact Nat.lt_of_le_of_lt (Nat.zero_le i) hi
  | «end» => exact hlast
  | _ => exact hi

namespace ListPane

variable {p : ListPane} {n i : Nat}

theorem snd_handle_char (p : ListPane) (c : Char) : (p.handle (.char c)).2 = p := by
  by_cases hc : c = 'd'
  · subst hc
    rfl
  · unfold ListPane.handle
    split <;> simp_all

theorem snd_handle_of_empty (hcount : p.count = 0) (event : Event) : (p.handle event).2 = p := by
  have hmove (target : Nat → Nat) : p.moveTo target = p := if_pos hcount
  cases event with
  | up | scrollUp => exact hmove (· - 1)
  | down | scrollDown => exact hmove (· + 1)
  | home => exact hmove fun _ => 0
  | «end» => exact hmove fun _ => p.count
  | char c => exact p.snd_handle_char c
  | _ => rfl

theorem snd_handle_of_some (hcursor : p.cursor = some i) (hi : i < p.count) (event : Event) :
    (p.handle event).2 = { p with cursor := some (event.target p.count i) } := by
  have hmove (target : Nat → Nat) :
      p.moveTo target = { p with cursor := some (min (target i) (p.count - 1)) } := by
    rw [moveTo, if_neg (by omega), hcursor]
    rfl
  have hstays : p = { p with cursor := some i } := by rw [← hcursor]
  cases event with
  | up | scrollUp =>
    refine (hmove (· - 1)).trans ?_
    rw [Nat.min_eq_left (by omega)]
    rfl
  | down | scrollDown => exact hmove (· + 1)
  | home =>
    refine (hmove fun _ => 0).trans ?_
    rw [Nat.min_eq_left (Nat.zero_le _)]
    rfl
  | «end» =>
    refine (hmove fun _ => p.count).trans ?_
    rw [Nat.min_eq_right (by omega)]
    rfl
  | char c => exact (p.snd_handle_char c).trans hstays
  | _ => exact hstays

theorem Settled.selected_or_empty (h : p.Settled n) :
    (n = 0 ∧ p.count = 0 ∧ p.cursor = none) ∨ ∃ i < n, p.count = n ∧ p.cursor = some i := by
  rcases Nat.eq_zero_or_pos n with hzero | hpos
  · exact .inl ⟨hzero, hzero ▸ h.knows, (h.empty hzero).1⟩
  · obtain ⟨i, hi, hcursor⟩ := h.chosen hpos
    exact .inr ⟨i, hi, h.knows, hcursor⟩

theorem Settled.handle (h : p.Settled n) (event : Event) : (p.handle event).2.Settled n := by
  obtain ⟨-, hcount, -⟩ | ⟨i, hi, rfl, hcursor⟩ := h.selected_or_empty
  · rwa [snd_handle_of_empty hcount]
  · rw [snd_handle_of_some hcursor hi]
    refine ⟨rfl, fun hzero => absurd hzero (by omega), fun _ => ⟨_, event.target_lt hi, rfl⟩⟩

theorem Settled.move (h : p.Settled n) (m : Move) : (p.move m).Settled (m.count?.getD n) := by
  cases hcount : m.count? with
  | some count => exact (move_of_count? hcount p).1
  | none =>
    cases m with
    | handle event => exact h.handle event
    | _ => cases hcount

/-- Along every run the list is settled for the number of rows that it has been told last. -/
theorem settled_moves (ms : List Move) : (({} : ListPane).moves ms).Settled (lastCount ms) := by
  induction ms using List.reverseRecOn with
  | nil => exact ⟨rfl, fun _ => ⟨rfl, rfl⟩, fun hpos => absurd rfl (Nat.ne_of_gt hpos)⟩
  | append_singleton ms last ih =>
    rw [moves_concat, lastCount_concat]
    exact ih.move last

theorem Settled.selected_eq (h : p.Settled n) : p.selected = p.cursor := by
  obtain ⟨-, -, hcursor⟩ | ⟨i, hi, rfl, hcursor⟩ := h.selected_or_empty
  · rw [selected, hcursor]
    rfl
  · rw [selected, hcursor, Option.filter_some, decide_eq_true hi]
    rfl

end ListPane

/-! ## Signed numbers -/

/-- A whole number, if it is a signed one of 64 bits. -/
def signed? (x : Int) : Option Int :=
  if Int64.minValue.toInt ≤ x ∧ x ≤ Int64.maxValue.toInt then some x else none

/-- As many rows as the distances to the ends of a list reach over. -/
def maxCount : Nat :=
  Nat.pow 2 62

/-- From wherever the cursor is, half the range of signed numbers leads to an end of the list. -/
def toStart : Int :=
  Int64.minValue.toInt / 2

def toEnd : Int :=
  Int64.maxValue.toInt / 2

theorem toStart_eq : toStart = -maxCount := by
  decide

theorem toEnd_eq : toEnd = maxCount - 1 := by
  decide

/-- The distance that an event moves the cursor by. -/
def Event.distance? : Event → Option Int
  | .up | .scrollUp => some (-1)
  | .down | .scrollDown => some 1
  | .home => some toStart
  | .end => some toEnd
  | _ => none

theorem signed?_eq {x : Int} (hmin : -maxCount ≤ x) (hmax : x < 2 * maxCount) :
    signed? x = some x := by
  have hleast : Int64.minValue.toInt ≤ -maxCount := by decide
  have hgreatest : Int64.maxValue.toInt = 2 * maxCount - 1 := by decide
  exact if_pos ⟨by omega, by omega⟩

/-- From the rows of a list that is not too long, every distance leads to a signed number, and the
row of the list that is nearest to it is the one that the event means. -/
theorem Event.target_of_distance? {event : Event} {distance : Int}
    (h : event.distance? = some distance) {count i : Nat} (hi : i < count)
    (hcount : count ≤ maxCount) :
    -maxCount ≤ i + distance ∧ i + distance < 2 * maxCount ∧
      (min (max (i + distance) 0) (count - 1)).toNat = event.target count i := by
  have hback := toStart_eq
  have hforth := toEnd_eq
  cases event with
  | up | scrollUp | down | scrollDown | home | «end» =>
    obtain rfl := Option.some.inj h
    simp only [Event.target]
    omega
  | _ => cases h

namespace ListPane

variable {p : ListPane} {n : Nat}

/-- Moves the cursor by a distance, but not past the ends of the list, by signed numbers; `none`
when one leaves their range. -/
def moveBy? (p : ListPane) (distance : Int) : Option ListPane :=
  if p.count = 0 then some p
  else do
    let current ← signed? (p.cursor.getD 0)
    let moved ← signed? (current + distance)
    let count ← signed? p.count
    let last ← signed? (count - 1)
    some (p.select (some (min (max moved 0) last).toNat))

theorem Settled.moveBy?_eq (h : p.Settled n) (hn : n ≤ maxCount) {event : Event} {distance : Int}
    (hdistance : event.distance? = some distance) :
    p.moveBy? distance = some (p.handle event).2 := by
  obtain ⟨-, hcount, -⟩ | ⟨i, hi, rfl, hcursor⟩ := h.selected_or_empty
  · rw [snd_handle_of_empty hcount]
    exact if_pos hcount
  · obtain ⟨hmin, hmax, htarget⟩ := Event.target_of_distance? hdistance hi hn
    have hcurrent : signed? (i : Int) = some (i : Int) := signed?_eq (by omega) (by omega)
    have hmoved : signed? (i + distance) = some (i + distance) := signed?_eq hmin hmax
    have hcount : signed? (p.count : Int) = some (p.count : Int) := signed?_eq (by omega) (by omega)
    have hlast : signed? ((p.count : Int) - 1) = some ((p.count : Int) - 1) :=
      signed?_eq (by omega) (by omega)
    rw [snd_handle_of_some hcursor hi, moveBy?, if_neg (by omega), hcursor, Option.getD_some]
    simp only [hcurrent, hmoved, hcount, hlast, Option.bind_eq_bind, Option.bind_some, htarget]
    rfl

end ListPane

/-- **The cursor of a list.** Along every run that tells the list its number of rows, by itself or
in a drawing, and in which events happen to it, let `n` be the number told last, 0 before the first.

* No row is selected exactly if `n` is 0; otherwise one of the `n` rows is.
* Up and Down lead to the rows next to it, as far as there are any, Home and End to the first row and
  to the last, and other events leave it. Signed numbers of 64 bits are enough for this, also for the
  distances that Home and End are made of.
* Whatever tells the list another number of rows selects the first row if there was none, the last
  row if the selected one is cut off, and otherwise leaves it.
* What is asked of a row is asked of the selected one, by Enter or by a key for deletion. -/
theorem list_cursor (ms : List ListPane.Move)
    (hcounts : ∀ count ∈ ListPane.counts ms, count ≤ maxCount) :
    let p := ({} : ListPane).moves ms
    let n := ListPane.lastCount ms
    (p.cursor = none ↔ n = 0) ∧ (∀ i, p.cursor = some i → i < n) ∧ p.selected = p.cursor ∧
      (∀ event, (p.handle event).2.cursor = p.cursor.map fun i => event.target n i) ∧
      (∀ event distance, event.distance? = some distance →
        p.moveBy? distance = some (p.handle event).2) ∧
      (∀ m count, m.count? = some count →
        let row := (p.move m).cursor
        (count = 0 → row = none) ∧
          (0 < count → n = 0 → row = some 0) ∧
          (∀ i, p.cursor = some i → 0 < count → count ≤ i → row = some (count - 1)) ∧
          (∀ i, p.cursor = some i → i < count → row = some i)) ∧
      ∀ event i,
        ((p.handle event).1 = some (.activate i) ↔ event = .submit ∧ p.cursor = some i) ∧
          ((p.handle event).1 = some (.delete i) ↔ event.isDeletion = true ∧ p.cursor = some i) := by
  intro p n
  have hsettled : p.Settled n := ListPane.settled_moves ms
  have hselected : p.selected = p.cursor := hsettled.selected_eq
  refine ⟨?_, ?_, hselected, fun event => ?_, fun event distance => ?_, fun m count hcount => ?_,
    fun event i => ?_⟩
  · obtain ⟨hzero, -, hcursor⟩ | ⟨i, hi, -, hcursor⟩ := hsettled.selected_or_empty
    · exact iff_of_true hcursor hzero
    · exact iff_of_false (by simp [hcursor]) (Nat.ne_of_gt (Nat.zero_lt_of_lt hi))
  · intro i hrow
    obtain ⟨-, -, hcursor⟩ | ⟨j, hj, -, hcursor⟩ := hsettled.selected_or_empty
    · cases hrow.symm.trans hcursor
    · obtain rfl := Option.some.inj (hrow.symm.trans hcursor)
      exact hj
  · obtain ⟨-, hcount, hcursor⟩ | ⟨i, hi, hcount, hcursor⟩ := hsettled.selected_or_empty
    · rw [ListPane.snd_handle_of_empty hcount, hcursor, Option.map_none]
    · rw [ListPane.snd_handle_of_some hcursor (hcount.symm ▸ hi), hcursor, Option.map_some, hcount]
  · exact hsettled.moveBy?_eq (ListPane.lastCount_le hcounts)
  · intro row
    have hrow : row = (p.sync count).cursor := (ListPane.move_of_count? hcount p).2
    rw [hrow]
    refine ⟨fun hzero => ?_, fun hpos hempty => ?_, fun i hcursor hpos hcut => ?_,
      fun i hcursor hi => ?_⟩
    · rw [hzero, ListPane.cursor_sync_zero]
    · exact ListPane.cursor_sync_of_none hpos ((hsettled.empty hempty).1)
    · rw [ListPane.cursor_sync_of_some hpos hcursor, Nat.min_eq_right (by omega)]
    · rw [ListPane.cursor_sync_of_some (by omega) hcursor, Nat.min_eq_left (by omega)]
  · rw [← hselected]
    exact ⟨ListPane.handle_eq_activate_iff, ListPane.handle_eq_delete_iff⟩

/-- Five rows with the last one selected, then a drawing of two: the second is selected. -/
theorem cursor_of_shrunk_list :
    let rows : List PeerRow := [⟨"a:1", .manual⟩, ⟨"b:2", .learned⟩]
    let ms : List ListPane.Move := [.sync 5, .handle .end, .drawPeers rows true 20 6]
    let p := ({} : ListPane).moves ms
    (∀ count ∈ ListPane.counts ms, count ≤ maxCount) ∧ p.cursor = some 1 ∧
      (p.handle .up).2.cursor = some 0 ∧ (p.handle .down).2.cursor = some 1 ∧
      p.moveBy? toStart = some (p.handle .home).2 ∧ (p.handle .delete).1 = some (.delete 1) ∧
      (p.move (.sync 0)).cursor = none := by
  intro rows ms p
  have hcounts : ∀ count ∈ ListPane.counts ms, count ≤ maxCount := by decide
  have hcursor : p.cursor = some 1 := by decide +kernel
  obtain ⟨-, -, -, htarget, hsigned, hrows, hrequest⟩ := list_cursor ms hcounts
  have hup := htarget .up
  have hdown := htarget .down
  rw [hcursor] at hup hdown
  exact ⟨hcounts, hcursor, hup, hdown, hsigned .home toStart rfl,
    (hrequest .delete 1).2.2 ⟨rfl, hcursor⟩, (hrows (.sync 0) 0 rfl).1 rfl⟩

end GossipPanel.Display
