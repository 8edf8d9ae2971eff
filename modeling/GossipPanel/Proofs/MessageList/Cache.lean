import GossipPanel.Proofs.MessageList.Layout
import Mathlib.Data.List.Induction

/-!
# A cache of heights that goes by fingerprints

A message list keeps the heights of its messages from one drawing to the next. It is enough to
remember a fingerprint of each message with its height: as long as messages that differ have
different fingerprints, the heights in the cache are those that every message would have if it were
measured anew.

* `MessageList.Move`: what happens to a message list.
* `Cache`: the heights, the bottom edges, the fingerprints and the width that they belong to.
* `Cache.update_ofLayout`: where the fingerprints tell the messages apart, a cache is updated like
  the layout that remembers the messages themselves; `Cache.moves_eq_ofLayout`: so along every run.
* `Layout.measured_moves`: along every run the heights are those that the messages need.
* `cached_heights_measured_anew`: what the cache and the layout hold after a drawing.
-/

namespace GossipPanel.Display

open Panel Text

namespace MessageList

/-- What happens to a message list. -/
inductive Move where
  | draw (rows : List MessageRow) (remark : String) (width height : Nat)
  | handle (event : Event)
  | pin

/-- The messages that are drawn. -/
def Move.rows : Move → List MessageRow
  | .draw rows _ _ _ => rows
  | _ => []

def move (m : MessageList) : Move → MessageList
  | .draw rows remark width height => (m.draw rows remark width height).1
  | .handle event => m.handle event
  | .pin => m.pin

def moves (m : MessageList) (moves : List Move) : MessageList :=
  moves.foldl move m

/-- The messages that are drawn along a run. -/
def drawn (moves : List Move) : List MessageRow :=
  moves.flatMap Move.rows

theorem moves_concat (m : MessageList) (ms : List Move) (last : Move) :
    m.moves (ms ++ [last]) = (m.moves ms).move last := by
  simp [moves]

theorem drawn_concat (ms : List Move) (last : Move) :
    drawn (ms ++ [last]) = drawn ms ++ last.rows := by
  simp [drawn]

theorem layout_draw (m : MessageList) (rows : List MessageRow) (remark : String)
    (width height : Nat) :
    (m.draw rows remark width height).1.layout =
      if rows.isEmpty then {} else m.layout.update rows (width - 1) := by
  rw [draw]
  split <;> rfl

theorem layout_handle (m : MessageList) (event : Event) : (m.handle event).layout = m.layout := by
  have hdown : ∀ rows, (m.down rows).layout = m.layout := by
    intro rows
    rw [down]
    split <;> rfl
  cases event with
  | scrollDown => exact hdown 1
  | pageDown => exact hdown m.page
  | _ => rfl

end MessageList

/-- The heights of messages, and the fingerprints of the messages that they belong to. -/
structure Cache (κ : Type) where
  heights : List Nat := []
  /-- The bottom edge of every message. -/
  bottoms : List Nat := []
  /-- The fingerprints of the messages that the heights belong to. -/
  keys : List κ := []
  /-- The width that the heights belong to. -/
  width : Nat := 0

namespace Cache

variable {κ : Type} [DecidableEq κ] (key : MessageRow → κ)

/-- The number of heights at the start that can be kept for messages with these fingerprints. -/
def reusable (c : Cache κ) (keys : List κ) (width : Nat) : Nat :=
  if c.width = width then
    (((c.keys.zip keys).take c.heights.length).takeWhile fun (old, new) => old = new).length
  else 0

/-- The cache for messages in a width; only what is new is measured. -/
def update (c : Cache κ) (rows : List MessageRow) (width : Nat) : Cache κ :=
  let n := c.reusable (rows.map key) width
  let heights := c.heights.take n ++ (rows.drop n).map (Layout.measure width)
  { heights, bottoms := Layout.bottomsFrom 0 heights, keys := rows.map key, width }

/-- The cache after a move; without messages it is emptied. -/
def move (c : Cache κ) : MessageList.Move → Cache κ
  | .draw rows _ width _ => if rows.isEmpty then {} else c.update key rows (width - 1)
  | _ => c

def moves (c : Cache κ) (moves : List MessageList.Move) : Cache κ :=
  moves.foldl (move key) c

theorem moves_concat (c : Cache κ) (ms : List MessageList.Move) (last : MessageList.Move) :
    c.moves key (ms ++ [last]) = (c.moves key ms).move key last := by
  simp [moves]

omit [DecidableEq κ] in
/-- The cache that stands for a layout. -/
def ofLayout (l : Layout) : Cache κ where
  heights := l.heights
  bottoms := l.bottoms
  keys := l.rows.map key
  width := l.width

/-- The fingerprints tell the messages apart. -/
def TellsApart (rows : List MessageRow) : Prop :=
  ∀ a ∈ rows, ∀ b ∈ rows, key a = key b → a = b

variable {key}

theorem unchanged_eq_take {olds rows : List MessageRow} (hkey : TellsApart key (olds ++ rows))
    (hs : List Nat) :
    Layout.unchanged olds hs rows =
      hs.take ((((olds.map key).zip (rows.map key)).take hs.length).takeWhile
        fun (old, new) => old = new).length := by
  induction olds generalizing hs rows with
  | nil => simp [Layout.unchanged]
  | cons old olds ih =>
    cases hs with
    | nil => simp [Layout.unchanged]
    | cons h hs =>
      cases rows with
      | nil => simp [Layout.unchanged]
      | cons row rows =>
        have hrest : TellsApart key (olds ++ rows) := fun a ha b hb =>
          hkey a (by simp at ha ⊢; tauto) b (by simp at hb ⊢; tauto)
        have hsame : key old = key row ↔ old = row :=
          ⟨hkey old (by simp) row (by simp), congrArg key⟩
        rw [Layout.unchanged, ih hrest hs]
        by_cases heq : old = row <;> simp [hsame, heq]

theorem update_ofLayout {l : Layout} {rows : List MessageRow}
    (hkey : TellsApart key (l.rows ++ rows)) (width : Nat) :
    (ofLayout key l).update key rows width = ofLayout key (l.update rows width) := by
  have hkept : l.heights.take ((ofLayout key l).reusable (rows.map key) width) =
      l.kept rows width := by
    by_cases hwidth : l.width = width
    · rw [Layout.kept, if_pos hwidth, unchanged_eq_take hkey, reusable,
        if_pos (show (ofLayout key l).width = width from hwidth)]
      rfl
    · rw [Layout.kept, if_neg hwidth, reusable,
        if_neg (show ¬(ofLayout key l).width = width from hwidth), List.take_zero]
  have hlength : (l.kept rows width).length = (ofLayout key l).reusable (rows.map key) width := by
    have hle : (ofLayout key l).reusable (rows.map key) width ≤ l.heights.length := by
      rw [reusable]
      split
      · exact Nat.le_trans (List.takeWhile_prefix _).length_le (List.length_take_le _ _)
      · exact Nat.zero_le _
    rw [← hkept, List.length_take, Nat.min_eq_left hle]
  have hheights : ((ofLayout key l).update key rows width).heights =
      (l.update rows width).heights :=
    calc ((ofLayout key l).update key rows width).heights
        = l.heights.take ((ofLayout key l).reusable (rows.map key) width) ++
            (rows.drop ((ofLayout key l).reusable (rows.map key) width)).map
              (Layout.measure width) := rfl
      _ = l.kept rows width ++
            (rows.drop (l.kept rows width).length).map (Layout.measure width) := by
          rw [hkept, hlength]
  exact congrArg
    (fun hs => (⟨hs, Layout.bottomsFrom 0 hs, rows.map key, width⟩ : Cache κ)) hheights

theorem rows_subset_drawn (ms : List MessageList.Move) :
    ∀ row ∈ (({} : MessageList).moves ms).layout.rows, row ∈ MessageList.drawn ms := by
  induction ms using List.reverseRecOn with
  | nil => nofun
  | append_singleton ms last ih =>
    intro row hrow
    rw [MessageList.moves_concat] at hrow
    rw [MessageList.drawn_concat, List.mem_append]
    cases last with
    | draw rows remark width height =>
      rw [MessageList.move, MessageList.layout_draw] at hrow
      split at hrow
      · exact absurd hrow List.not_mem_nil
      · exact .inr hrow
    | handle event =>
      rw [MessageList.move, MessageList.layout_handle] at hrow
      exact .inl (ih row hrow)
    | pin => exact .inl (ih row hrow)

/-- Along a run, the cache stands for the layout. -/
theorem moves_eq_ofLayout (ms : List MessageList.Move)
    (hkey : TellsApart key (MessageList.drawn ms)) :
    ({} : Cache κ).moves key ms = ofLayout key (({} : MessageList).moves ms).layout := by
  induction ms using List.reverseRecOn with
  | nil => rfl
  | append_singleton ms last ih =>
    rw [MessageList.drawn_concat] at hkey
    have hbefore : TellsApart key (MessageList.drawn ms) := fun a ha b hb =>
      hkey a (List.mem_append_left _ ha) b (List.mem_append_left _ hb)
    rw [moves_concat, MessageList.moves_concat, ih hbefore]
    cases last with
    | draw rows remark width height =>
      rw [move, MessageList.move, MessageList.layout_draw]
      split
      · rfl
      · refine update_ofLayout (fun a ha b hb => hkey a ?_ b ?_) (width - 1)
        · exact List.mem_append.2 ((List.mem_append.1 ha).imp_left (rows_subset_drawn ms a))
        · exact List.mem_append.2 ((List.mem_append.1 hb).imp_left (rows_subset_drawn ms b))
    | handle event => exact congrArg (ofLayout key) (MessageList.layout_handle _ event).symm
    | pin => rfl

end Cache

namespace Layout

theorem measured_moves (ms : List MessageList.Move) :
    (({} : MessageList).moves ms).layout.Measured := by
  induction ms using List.reverseRecOn with
  | nil => exact measured_empty
  | append_singleton ms last ih =>
    rw [MessageList.moves_concat]
    cases last with
    | draw rows remark width height =>
      rw [MessageList.move, MessageList.layout_draw]
      split
      · exact measured_empty
      · exact ih.update rows (width - 1)
    | handle event =>
      rw [MessageList.move, MessageList.layout_handle]
      exact ih
    | pin => exact ih

end Layout

/-- After a drawing, whatever a message list has gone through, the cache holds the heights of
measuring every message in the width of the content, and their sums up to the greatest row; it is
empty when there are no messages. It stands for the layout, as long as the fingerprints tell the
messages apart that have been drawn. -/
theorem cached_heights_measured_anew {κ : Type} [DecidableEq κ] (key : MessageRow → κ)
    (earlier : List MessageList.Move) (rows : List MessageRow) (remark : String)
    (width height : Nat)
    (hkey : Cache.TellsApart key (MessageList.drawn earlier ++ rows)) :
    let moves := earlier ++ [.draw rows remark width height]
    let cache := ({} : Cache κ).moves key moves
    let measured := rows.map (Layout.measure (width - 1))
    cache = Cache.ofLayout key (({} : MessageList).moves moves).layout ∧
      (rows = [] → cache = {}) ∧
      (rows ≠ [] →
        cache.heights = measured ∧
          cache.bottoms = (List.range rows.length).map (fun i =>
            min (sumColumns (measured.take (i + 1))) maxRow) ∧
          cache.keys = rows.map key ∧ cache.width = width - 1) := by
  intro moves cache measured
  have hlayout : (({} : MessageList).moves moves).layout =
      if rows.isEmpty then {}
      else (({} : MessageList).moves earlier).layout.update rows (width - 1) := by
    rw [MessageList.moves_concat]
    exact MessageList.layout_draw _ rows remark width height
  have hcache : cache = Cache.ofLayout key (({} : MessageList).moves moves).layout :=
    Cache.moves_eq_ofLayout moves (by rwa [MessageList.drawn_concat])
  refine ⟨hcache, fun hrows => ?_, fun hrows => ?_⟩
  · rw [hcache, hlayout, hrows]
    rfl
  · have hheights := (Layout.measured_moves earlier).heights_update rows (width - 1)
    rw [hcache, hlayout, if_neg (by simpa using hrows)]
    refine ⟨hheights, ?_, rfl, rfl⟩
    rw [Cache.ofLayout, Layout.bottoms_eq, Layout.length_heights_update]
    simp only [Layout.edge, hheights]
    rfl

/-- A message that has come in before the last one is measured, and the last one is again. -/
theorem inserted_message_measured :
    let row (seqId : UInt32) (content : String) : MessageRow :=
      ⟨"alice", "", seqId, "", content, "", false, false⟩
    let earlier : List MessageList.Move :=
      [.draw [row 0 "hello", row 2 "bye"] "" 40 10, .handle .pageUp]
    let rows := [row 0 "hello", row 1 "is anybody there", row 2 "bye"]
    Cache.TellsApart MessageRow.seqId (MessageList.drawn earlier ++ rows) ∧
      (({} : Cache UInt32).moves MessageRow.seqId
        (earlier ++ [.draw rows "" 40 10])).heights = rows.map (Layout.measure 39) := by
  intro row earlier rows
  have hapart : Cache.TellsApart MessageRow.seqId (MessageList.drawn earlier ++ rows) := by
    simp [Cache.TellsApart, MessageList.drawn, MessageList.Move.rows, earlier, rows, row]
  have hmeasured := cached_heights_measured_anew MessageRow.seqId earlier rows "" 40 10 hapart
  exact ⟨hapart, (hmeasured.2.2 (List.cons_ne_nil _ _)).1⟩

end GossipPanel.Display
