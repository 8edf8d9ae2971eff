import GossipPanel.Proofs.MessageList.Cache
import GossipPanel.Proofs.MessageList.Window

/-!
# The reading position of a message list

Where a list is scrolled to, whatever has been drawn, scrolled and pinned before.

* `MessageList.WellPlaced`: the offset does not lie past the one that shows the end, and a list that
  follows the newest message is at this offset. `WellPlaced.move`: every move keeps this.
* `MessageList.down_eq`: what moving down comes to, the greatest row being out of reach.
* `Layout.holds_update_append`: messages that come in behind the others leave these where they are;
  `WellPlaced.draw_append`: so a list that does not follow them stays where it is.
* `reading_position`: all of it, along every run.
-/

namespace GossipPanel.Display

open Panel Text

/-! ## Feeds that grow at their end -/

namespace Layout

variable {l : Layout}

theorem total_le (l : Layout) : l.total ≤ maxRow := by
  rw [total_eq]
  exact Nat.min_le_right _ _

theorem total_le_update_append (h : l.heights.length = l.rows.length) (more : List MessageRow) :
    l.total ≤ (l.update (l.rows ++ more) l.width).total := by
  rw [total_eq, total_eq, heights_update_append h, sumColumns_append]
  omega

theorem holds_update_append (h : l.heights.length = l.rows.length) (more : List MessageRow)
    {i : Nat} (hi : i < l.rows.length) (line : Nat) :
    (l.update (l.rows ++ more) l.width).Holds i line ↔ l.Holds i line := by
  have hheights := heights_update_append h more
  have hsame : (l.update (l.rows ++ more) l.width).heights[i]? = l.heights[i]? := by
    rw [hheights, List.getElem?_append_left (by omega)]
  have htop : (l.update (l.rows ++ more) l.width).top i = l.top i := by
    rw [top_eq, top_eq (by omega), edge, edge, hheights, List.take_append_of_le_length (by omega)]
    rw [hheights, List.length_append]
    omega
  rw [Holds, Holds, hsame, htop]

end Layout

namespace MessageList

/-- The list shows a part of its feed, and the end of it if it follows the newest message. -/
structure WellPlaced (m : MessageList) : Prop where
  offset_le : m.offset ≤ m.maxOffset
  at_end : m.stick = true → m.offset = m.maxOffset

/-- The move draws the list. -/
def Move.isDraw : Move → Bool
  | .draw .. => true
  | _ => false

variable {m : MessageList}

/-! ## Single moves -/

theorem maxOffset_le (m : MessageList) : m.maxOffset ≤ maxRow :=
  Nat.le_trans (Nat.sub_le _ _) m.layout.total_le

/-- Moving down stops at the end. The greatest row does not matter, no feed reaches over it. -/
theorem down_eq (m : MessageList) (rows : Nat) :
    m.down rows =
      { m with
        offset := min (m.offset + rows) m.maxOffset
        stick := m.stick || decide (m.maxOffset ≤ m.offset + rows) } := by
  have hmax := m.maxOffset_le
  let moved : MessageList := { m with offset := min (m.offset + rows) maxRow }
  have hsame : moved.maxOffset = m.maxOffset := rfl
  have hdown : m.down rows = if moved.maxOffset ≤ moved.offset then moved.pin else moved := rfl
  rw [hdown, hsame]
  by_cases hend : m.maxOffset ≤ m.offset + rows
  · have hreached : m.maxOffset ≤ moved.offset := Nat.le_min.2 ⟨hend, hmax⟩
    rw [if_pos hreached, Nat.min_eq_right hend, decide_eq_true hend, Bool.or_true]
    rfl
  · have hoffset : moved.offset = m.offset + rows := Nat.min_eq_left (by omega)
    rw [if_neg (by omega), Nat.min_eq_left (by omega), decide_eq_false hend, Bool.or_false,
      ← hoffset]

theorem viewport_handle (m : MessageList) (event : Event) :
    (m.handle event).viewport = m.viewport := by
  cases event with
  | scrollDown => rw [handle, down_eq]
  | pageDown => rw [handle, down_eq]
  | _ => rfl

theorem stick_draw (m : MessageList) (rows : List MessageRow) (remark : String)
    (width height : Nat) : (m.draw rows remark width height).1.stick = m.stick := by
  rw [draw]
  split <;> rfl

theorem hasUnseen_iff (m : MessageList) :
    m.hasUnseen = true ↔ m.stick = false ∧ m.offset + m.viewport < m.layout.total := by
  rw [hasUnseen, maxOffset, Bool.and_eq_true, Bool.not_eq_true', decide_eq_true_eq,
    Nat.lt_sub_iff_add_lt]

/-! ## Every move keeps a list well placed -/

theorem wellPlaced_pin (m : MessageList) : m.pin.WellPlaced :=
  ⟨Nat.le_refl _, fun _ => rfl⟩

theorem WellPlaced.up (h : m.WellPlaced) (rows : Nat) : (m.up rows).WellPlaced :=
  ⟨Nat.le_trans (Nat.sub_le _ _) h.offset_le, fun hstick => by cases hstick⟩

theorem WellPlaced.down_eq (h : m.WellPlaced) (rows : Nat) :
    m.down rows =
      { m with
        offset := min (m.offset + rows) m.maxOffset
        stick := decide (m.maxOffset ≤ m.offset + rows) } := by
  rw [MessageList.down_eq]
  cases hstick : m.stick with
  | false => rw [Bool.false_or]
  | true =>
    have hoffset := h.at_end hstick
    rw [Bool.true_or, decide_eq_true (by omega : m.maxOffset ≤ m.offset + rows)]

theorem WellPlaced.down (h : m.WellPlaced) (rows : Nat) : (m.down rows).WellPlaced := by
  rw [h.down_eq]
  exact ⟨Nat.min_le_right _ _, fun hend => Nat.min_eq_right (of_decide_eq_true hend)⟩

theorem WellPlaced.handle (h : m.WellPlaced) (event : Event) : (m.handle event).WellPlaced := by
  cases event with
  | scrollUp => exact h.up 1
  | pageUp => exact h.up m.page
  | scrollDown => exact h.down 1
  | pageDown => exact h.down m.page
  | _ => exact h

theorem wellPlaced_draw (m : MessageList) (rows : List MessageRow) (remark : String)
    (width height : Nat) : (m.draw rows remark width height).1.WellPlaced := by
  by_cases hrows : rows = []
  · subst hrows
    exact ⟨Nat.zero_le _, fun _ => (Nat.zero_sub m.viewport).symm⟩
  · rw [draw_fst m hrows]
    let arranged : MessageList :=
      { m with layout := m.layout.update rows (width - 1), viewport := height }
    have hmax : (m.arrange rows (width - 1) height).maxOffset = arranged.maxOffset := rfl
    have hoffset : (m.arrange rows (width - 1) height).offset =
        if m.stick then arranged.maxOffset else min m.offset arranged.maxOffset := rfl
    constructor
    · rw [hoffset, hmax]
      split
      · exact Nat.le_refl _
      · exact Nat.min_le_right _ _
    · intro hstick
      rw [hoffset, hmax]
      exact if_pos hstick

theorem WellPlaced.move (h : m.WellPlaced) (mv : Move) : (m.move mv).WellPlaced := by
  cases mv with
  | draw rows remark width height => exact wellPlaced_draw m rows remark width height
  | handle event => exact h.handle event
  | pin => exact wellPlaced_pin m

theorem wellPlaced_moves (ms : List Move) : (({} : MessageList).moves ms).WellPlaced := by
  induction ms using List.reverseRecOn with
  | nil => exact ⟨Nat.le_refl _, fun _ => rfl⟩
  | append_singleton ms last ih =>
    rw [moves_concat]
    exact ih.move last

/-! ## What has been drawn last -/

theorem layout_moves_of_quiet (m : MessageList) {quiet : List Move}
    (hquiet : ∀ mv ∈ quiet, mv.isDraw = false) :
    (m.moves quiet).layout = m.layout ∧ (m.moves quiet).viewport = m.viewport := by
  induction quiet using List.reverseRecOn with
  | nil => exact ⟨rfl, rfl⟩
  | append_singleton quiet last ih =>
    obtain ⟨hlayout, hviewport⟩ := ih fun mv hmv => hquiet mv (List.mem_append_left _ hmv)
    rw [moves_concat]
    cases last with
    | draw rows remark width height =>
      have hlast := hquiet (.draw rows remark width height) (by simp)
      exact absurd hlast (by simp [Move.isDraw])
    | handle event => exact ⟨(layout_handle _ event).trans hlayout,
        (viewport_handle _ event).trans hviewport⟩
    | pin => exact ⟨hlayout, hviewport⟩

/-- The list has its layout and its viewport from a drawing of these messages in this area. -/
def Drew (m : MessageList) (rows : List MessageRow) (width height : Nat) : Prop :=
  (rows = [] → m.layout = {}) ∧
    (rows ≠ [] → m.layout.rows = rows ∧ m.layout.width = width - 1 ∧
      m.layout.heights.length = rows.length ∧ m.viewport = height)

theorem drew_draw (m : MessageList) (rows : List MessageRow) (remark : String)
    (width height : Nat) : (m.draw rows remark width height).1.Drew rows width height := by
  rw [Drew, layout_draw]
  refine ⟨fun hrows => ?_, fun hrows => ?_⟩
  · exact if_pos (by simpa using hrows)
  · rw [if_neg (by simpa using hrows), draw_fst m hrows]
    exact ⟨rfl, rfl, Layout.length_heights_update _ _ _, rfl⟩

theorem drew_moves (m : MessageList) (earlier : List Move) (rows : List MessageRow)
    (remark : String) (width height : Nat) {quiet : List Move}
    (hquiet : ∀ mv ∈ quiet, mv.isDraw = false) :
    (m.moves (earlier ++ .draw rows remark width height :: quiet)).Drew rows width height := by
  let drawn := ((m.moves earlier).draw rows remark width height).1
  have hrun : m.moves (earlier ++ .draw rows remark width height :: quiet) = drawn.moves quiet := by
    rw [moves, List.foldl_append]
    rfl
  obtain ⟨hlayout, hviewport⟩ := layout_moves_of_quiet drawn hquiet
  rw [hrun, Drew, hlayout, hviewport]
  exact drew_draw _ rows remark width height

theorem Drew.heights_eq {rows : List MessageRow} {width height : Nat}
    (h : m.Drew rows width height) (hmeasured : m.layout.Measured) :
    m.layout.heights = rows.map (Layout.measure (width - 1)) := by
  by_cases hrows : rows = []
  · rw [h.1 hrows, hrows]
    rfl
  · obtain ⟨hlast, hwidth, -⟩ := h.2 hrows
    rw [← hlast, ← hwidth]
    exact hmeasured

/-- A drawing moves a list that does not follow new messages only if its feed has become too
short. -/
theorem offset_draw (hstick : m.stick = false) {rows : List MessageRow} (hrows : rows ≠ [])
    (remark : String) (width height : Nat) :
    (m.draw rows remark width height).1.offset =
      min m.offset ((m.layout.update rows (width - 1)).total - height) := by
  rw [draw_fst m hrows, arrange]
  simp only [hstick]
  rfl

/-- A list that does not follow new messages stays where it is when they come in, and the others
stay where they are. -/
theorem WellPlaced.draw_append (h : m.WellPlaced) {rows : List MessageRow} {width height : Nat}
    (hdrew : m.Drew rows width height) (hstick : m.stick = false) (more : List MessageRow)
    (remark : String) :
    let grown := (m.draw (rows ++ more) remark width height).1
    grown.offset = m.offset ∧
      ∀ i < rows.length, ∀ line, grown.layout.Holds i line ↔ m.layout.Holds i line := by
  intro grown
  by_cases hrows : rows = []
  · subst hrows
    have hoffset : m.offset = 0 := by
      have hle := h.offset_le
      rw [maxOffset, hdrew.1 rfl] at hle
      exact Nat.le_zero.1 (Nat.le_trans hle (Nat.sub_le 0 _))
    refine ⟨?_, fun i hi => absurd hi (Nat.not_lt_zero i)⟩
    cases more with
    | nil => exact hoffset.symm
    | cons row more =>
      show (m.draw (row :: more) remark width height).1.offset = m.offset
      rw [offset_draw hstick (List.cons_ne_nil _ _), hoffset, Nat.zero_min]
  · obtain ⟨hlast, hwidth, hlength, hviewport⟩ := hdrew.2 hrows
    have hmore : rows ++ more ≠ [] := by simp [hrows]
    have haligned : m.layout.heights.length = m.layout.rows.length := by rw [hlength, hlast]
    have hlayout : grown.layout = m.layout.update (m.layout.rows ++ more) m.layout.width := by
      rw [hlast, hwidth, show grown = _ from draw_fst m hmore remark width height]
      rfl
    constructor
    · have htotal := Layout.total_le_update_append haligned more
      have hle := h.offset_le
      rw [maxOffset, hviewport] at hle
      rw [hlast, hwidth] at htotal
      rw [show grown.offset = _ from offset_draw hstick hmore remark width height]
      omega
    · intro i hi line
      rw [hlayout]
      exact Layout.holds_update_append haligned more (by rwa [hlast]) line

end MessageList

/-- Along every run of drawings, scrolling and pinning, a list lies within its feed, and at the end
if it follows the newest message; it has rows below its viewport that it does not follow exactly if
it tells so. Moving up leaves the end, moving down stops there and follows again exactly if it gets
there. A drawing does not change whether the list follows.

The feed is that of the last drawing, with every message measured in the width of its content and
counted up to the greatest row; the viewport is as high as the area that was drawn last with
messages in it, and so is a page. If the list does not follow and messages come in behind those of
the last drawing in the same area, the offset stays and every message keeps its rows. -/
theorem reading_position (ms : List MessageList.Move) :
    let m := ({} : MessageList).moves ms
    m.layout.total = min (sumColumns m.layout.heights) maxRow ∧
      m.maxOffset = m.layout.total - m.viewport ∧
      m.offset ≤ m.maxOffset ∧
      (m.stick = true → m.offset = m.maxOffset) ∧
      (m.hasUnseen = true ↔ m.stick = false ∧ m.offset + m.viewport < m.layout.total) ∧
      (∀ event rows, (event, rows) ∈ [(Event.scrollUp, 1), (.pageUp, m.page)] →
        m.handle event = { m with offset := m.offset - rows, stick := false }) ∧
      (∀ event rows, (event, rows) ∈ [(Event.scrollDown, 1), (.pageDown, m.page)] →
        m.handle event =
          { m with
            offset := min (m.offset + rows) m.maxOffset
            stick := decide (m.maxOffset ≤ m.offset + rows) }) ∧
      (∀ rows remark width height,
        (m.draw rows remark width height).1.stick = m.stick) ∧
      ((∀ mv ∈ ms, mv.isDraw = false) → m.layout.heights = [] ∧ m.viewport = 0) ∧
      ∀ earlier quiet rows remark width height,
        ms = earlier ++ .draw rows remark width height :: quiet →
        (∀ mv ∈ quiet, mv.isDraw = false) →
          m.layout.heights = rows.map (Layout.measure (width - 1)) ∧
            (rows ≠ [] → m.viewport = height ∧ m.page = max height 1) ∧
            (m.stick = false → ∀ more remark',
              let grown := (m.draw (rows ++ more) remark' width height).1
              grown.offset = m.offset ∧
                ∀ i < rows.length, ∀ line,
                  grown.layout.Holds i line ↔ m.layout.Holds i line) := by
  intro m
  have hplaced : m.WellPlaced := MessageList.wellPlaced_moves ms
  refine ⟨Layout.total_eq _, rfl, hplaced.offset_le, hplaced.at_end, m.hasUnseen_iff, ?_, ?_,
    m.stick_draw, ?_, ?_⟩
  · intro event rows hevent
    simp only [List.mem_cons, Prod.mk.injEq, List.not_mem_nil, or_false] at hevent
    obtain ⟨rfl, rfl⟩ | ⟨rfl, rfl⟩ := hevent
    · rfl
    · rfl
  · intro event rows hevent
    simp only [List.mem_cons, Prod.mk.injEq, List.not_mem_nil, or_false] at hevent
    obtain ⟨rfl, rfl⟩ | ⟨rfl, rfl⟩ := hevent
    · exact hplaced.down_eq 1
    · exact hplaced.down_eq m.page
  · intro hquiet
    obtain ⟨hlayout, hviewport⟩ := MessageList.layout_moves_of_quiet {} hquiet
    exact ⟨congrArg Layout.heights hlayout, hviewport⟩
  · intro earlier quiet rows remark width height hms hquiet
    have hdrew : m.Drew rows width height := by
      rw [show m = ({} : MessageList).moves ms from rfl, hms]
      exact MessageList.drew_moves {} earlier rows remark width height hquiet
    refine ⟨hdrew.heights_eq (Layout.measured_moves ms), fun hrows => ?_, fun hstick more remark' =>
      hplaced.draw_append hdrew hstick more remark'⟩
    obtain ⟨-, -, -, hviewport⟩ := hdrew.2 hrows
    exact ⟨hviewport, by rw [MessageList.page, hviewport]⟩

end GossipPanel.Display
