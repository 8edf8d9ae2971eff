import GossipPanel.Proofs.MessageList.NearViewport

/-!
# The window of a feed

A message list draws the messages near its viewport only. What its viewport shows is nevertheless
what it would show of the whole feed, with every message drawn in its full height.

* `feedPicture`: the feed laid out in full; `stack_eq`: where there is room, a stack of messages is
  laid out in full.
* `Layout.covers_visible`: the messages near the viewport reach over it, or to the end of the feed.
* `MessageList.window_eq`: the window is the part of the feed from the offset on.
* `Layout.Holds`: which message a row of the feed belongs to; none if it is below the end of the
  feed (`Layout.exists_holds_iff`). `Layout.exists_shown`: above the end, the feed shows the one
  message that the row belongs to.
* `window_shows_feed`: the content columns of a list, row by row.
-/

namespace GossipPanel.Display

open Panel Screen Text

/-- Messages in their heights, one below the other. -/
def feedPicture (width : Nat) (feed : List (MessageRow × Nat)) : Picture :=
  feed.flatMap fun (row, h) => Bubble.draw row width h

namespace Bubble

@[simp]
theorem length_draw (row : MessageRow) (width height : Nat) :
    (draw row width height).length = height := by
  simp [draw]

theorem hasWidth_draw (row : MessageRow) (width height : Nat) :
    (draw row width height).HasWidth width :=
  (Frame.hasWidth_around _ _ _ _).overlay _ _ _

end Bubble

/-! ## The feed in full -/

theorem sumColumns_pos {hs : List Nat} (hne : hs ≠ []) (hpositive : ∀ h ∈ hs, 0 < h) :
    0 < sumColumns hs := by
  obtain ⟨h, rest, rfl⟩ := List.exists_cons_of_ne_nil hne
  have hh : 0 < h := hpositive h List.mem_cons_self
  rw [sumColumns]
  omega

section Feed

variable (width : Nat) (feed : List (MessageRow × Nat))

theorem hasWidth_feedPicture : (feedPicture width feed).HasWidth width := by
  intro line hline
  obtain ⟨⟨row, h⟩, -, hline⟩ := List.mem_flatMap.1 hline
  exact Bubble.hasWidth_draw row width h line hline

theorem length_feedPicture :
    (feedPicture width feed).length = sumColumns (feed.map Prod.snd) := by
  induction feed with
  | nil => rfl
  | cons shown feed ih =>
    rw [feedPicture] at ih ⊢
    simp [sumColumns, ih]

theorem feedPicture_append (above below : List (MessageRow × Nat)) :
    feedPicture width (above ++ below) = feedPicture width above ++ feedPicture width below :=
  List.flatMap_append

theorem MessageList.stack_eq (window y : Nat) (hpositive : ∀ shown ∈ feed, 0 < shown.2)
    (hroom : y + sumColumns (feed.map Prod.snd) ≤ window) :
    stack width window y feed = feedPicture width feed := by
  induction feed generalizing y with
  | nil => rfl
  | cons shown feed ih =>
    obtain ⟨hshown, hfeed⟩ := List.forall_mem_cons.1 hpositive
    rw [List.map_cons, sumColumns] at hroom
    have hheight : min shown.2 (window - y) = shown.2 := by omega
    have hrest := ih (y + shown.2) hfeed (by omega)
    rw [stack, hheight, if_neg (by omega), hrest]
    rfl

end Feed

/-- A picture need not be extended by what lies below the rows that are shown. -/
theorem fitRows_append {ground : Cell} {width height : Nat} {p : Picture} (below : Picture)
    (h : height ≤ p.length) :
    fitRows ground width height (p ++ below) = fitRows ground width height p := by
  rw [fitRows, fitRows, List.take_append_of_le_length h, List.length_append,
    Nat.sub_eq_zero_of_le h, Nat.sub_eq_zero_of_le (Nat.le_add_right_of_le h)]

/-! ## The messages near the viewport -/

namespace Layout

variable {l : Layout}

theorem edge_add (l : Layout) (i k : Nat) :
    l.edge (i + k) = l.edge i + sumColumns ((l.heights.drop i).take k) := by
  rw [edge, edge, List.take_add, sumColumns_append]

/-- The messages from `first` up to `stop` reach over a viewport, or to the end of the feed. -/
structure Covers (l : Layout) (offset height first stop : Nat) : Prop where
  first_le : first ≤ stop
  stop_le : stop ≤ l.heights.length
  above : l.edge first ≤ offset
  below : l.edge stop = sumColumns l.heights ∨ offset + height ≤ l.edge stop

theorem covers_visible {offset height : Nat} (htotal : sumColumns l.heights ≤ maxRow)
    (hheight : 0 < height) (hoffset : offset < sumColumns l.heights) :
    l.Covers offset height (l.visible offset height).1 (l.visible offset height).2 := by
  have hfirst_le := first_visible_le_length (l := l) offset height
  have hstop_le := stop_visible_le (l := l) offset height
  have hfirst {i : Nat} (hi : i < l.heights.length) := first_visible_le_iff offset height hi
  have hstop {i : Nat} (hi : i < l.heights.length) := lt_stop_visible_iff offset height hheight hi
  generalize (l.visible offset height).1 = first at *
  generalize (l.visible offset height).2 = stop at *
  have hlower (hlt : stop < l.heights.length) :
      min (offset + height + height / 2) maxRow ≤ l.edge stop := by
    have hends := mt (hstop hlt).2 (Nat.lt_irrefl stop)
    rwa [top_eq_edge htotal hstop_le, Nat.not_lt] at hends
  refine ⟨?_, hstop_le, ?_, ?_⟩
  · by_contra hlt
    have hrow : stop < l.heights.length := by omega
    have habove : ¬ offset - height / 2 < l.edge (stop + 1) :=
      top_eq_edge htotal hrow ▸ mt (hfirst hrow).2 hlt
    have hmono : l.edge stop ≤ l.edge (stop + 1) := edge_mono (Nat.le_succ stop)
    have := hlower hrow
    omega
  · cases first with
    | zero => exact Nat.zero_le offset
    | succ i =>
      have habove := mt (hfirst hfirst_le).2 (Nat.not_succ_le_self i)
      rw [top_eq_edge htotal hfirst_le] at habove
      omega
  · rcases Nat.lt_or_eq_of_le hstop_le with hlt | rfl
    · have := hlower hlt
      have hle : l.edge stop ≤ sumColumns l.heights := l.edge_le hstop_le
      omega
    · exact .inl l.edge_length

section Feed

variable {rows : List MessageRow} (hlength : l.heights.length = rows.length) (width : Nat)
include hlength

theorem drop_feedPicture (i : Nat) :
    (feedPicture width (rows.zip l.heights)).drop (l.edge i) =
      feedPicture width ((rows.zip l.heights).drop i) := by
  have habove : (feedPicture width ((rows.zip l.heights).take i)).length = l.edge i := by
    rw [length_feedPicture, List.map_take, List.map_snd_zip (Nat.le_of_eq hlength), edge]
  conv_lhs => rw [← List.take_append_drop i (rows.zip l.heights), feedPicture_append]
  exact List.drop_left' habove

theorem length_feedPicture_zip :
    (feedPicture width (rows.zip l.heights)).length = sumColumns l.heights := by
  rw [length_feedPicture, List.map_snd_zip (Nat.le_of_eq hlength)]

end Feed

/-- The messages from `first` up to `stop`, with their heights. -/
def between (l : Layout) (rows : List MessageRow) (first stop : Nat) : List (MessageRow × Nat) :=
  ((rows.zip l.heights).drop first).take (stop - first)

section Between

variable {rows : List MessageRow} (hlength : l.heights.length = rows.length) {first stop : Nat}
include hlength

theorem map_snd_between :
    (l.between rows first stop).map Prod.snd = (l.heights.drop first).take (stop - first) := by
  rw [between, List.map_take, List.map_drop, List.map_snd_zip (Nat.le_of_eq hlength)]

theorem length_feedPicture_between (width : Nat) (hfirst : first ≤ stop) :
    (feedPicture width (l.between rows first stop)).length = l.edge stop - l.edge first := by
  have hsum : l.edge stop =
      l.edge first + sumColumns ((l.heights.drop first).take (stop - first)) := by
    rw [← edge_add, Nat.add_sub_cancel' hfirst]
  rw [length_feedPicture, map_snd_between hlength, hsum, Nat.add_sub_cancel_left]

theorem drop_feedPicture_between (width : Nat) (hfirst : first ≤ stop) {offset : Nat}
    (habove : l.edge first ≤ offset) (hoffset : offset ≤ l.edge stop) :
    (feedPicture width (rows.zip l.heights)).drop offset =
      (feedPicture width (l.between rows first stop)).drop (offset - l.edge first) ++
        (feedPicture width (rows.zip l.heights)).drop (l.edge stop) := by
  have hsplit : (rows.zip l.heights).drop first =
      l.between rows first stop ++ (rows.zip l.heights).drop stop := by
    conv_lhs => rw [← List.take_append_drop (stop - first) ((rows.zip l.heights).drop first)]
    rw [between, List.drop_drop, Nat.add_sub_cancel' hfirst]
  have hreach : offset - l.edge first ≤
      (feedPicture width (l.between rows first stop)).length := by
    rw [length_feedPicture_between hlength width hfirst]
    omega
  conv_lhs => rw [← Nat.add_sub_cancel' habove, ← List.drop_drop]
  rw [drop_feedPicture hlength, drop_feedPicture hlength, hsplit, feedPicture_append,
    List.drop_append_of_le_length hreach]

end Between

/-! ## The message of a row -/

/-- A row of the feed belongs to a message. -/
def Holds (l : Layout) (i line : Nat) : Prop :=
  ∃ h, l.heights[i]? = some h ∧ l.top i ≤ line ∧ line < l.top i + h

section Holds

variable (htotal : sumColumns l.heights ≤ maxRow) {i j line : Nat}
include htotal

theorem holds_iff :
    l.Holds i line ↔ i < l.heights.length ∧ l.edge i ≤ line ∧ line < l.edge (i + 1) := by
  constructor
  · rintro ⟨h, hh, habove, hbelow⟩
    obtain ⟨hi, rfl⟩ := List.getElem?_eq_some_iff.1 hh
    rw [top_eq_edge htotal (Nat.le_of_lt hi)] at habove hbelow
    exact ⟨hi, habove, edge_succ hi ▸ hbelow⟩
  · rintro ⟨hi, habove, hbelow⟩
    refine ⟨l.heights[i], List.getElem?_eq_getElem hi, ?_, ?_⟩
    · rwa [top_eq_edge htotal (Nat.le_of_lt hi)]
    · rwa [top_eq_edge htotal (Nat.le_of_lt hi), ← edge_succ hi]

theorem exists_holds_iff : (∃ i, l.Holds i line) ↔ line < sumColumns l.heights := by
  constructor
  · rintro ⟨i, hi⟩
    obtain ⟨hi, -, hbelow⟩ := (holds_iff htotal).1 hi
    exact Nat.lt_of_lt_of_le hbelow (l.edge_le hi)
  · intro hline
    have hends {i : Nat} (hi : i < l.heights.length) :
        i < l.search (· ≤ line) ↔ l.edge (i + 1) ≤ line := by
      rw [lt_search_iff (falls_le line) hi, top_eq_edge htotal hi, decide_eq_true_eq]
    have hle : l.search (· ≤ line) ≤ l.heights.length := search_le (falls_le line) l
    generalize l.search (· ≤ line) = n at hends hle
    have habove : l.edge n ≤ line := by
      cases n with
      | zero => exact Nat.zero_le line
      | succ i => exact (hends hle).1 (Nat.lt_succ_self i)
    have hlt : n < l.heights.length := by
      refine Nat.lt_of_le_of_ne hle fun hend => ?_
      rw [hend, edge_length] at habove
      omega
    have hbelow : line < l.edge (n + 1) :=
      Nat.not_le.1 (mt (hends hlt).2 (Nat.lt_irrefl n))
    exact ⟨n, (holds_iff htotal).2 ⟨hlt, habove, hbelow⟩⟩

theorem Holds.unique (hi : l.Holds i line) (hj : l.Holds j line) : i = j := by
  obtain ⟨-, hi_above, hi_below⟩ := (holds_iff htotal).1 hi
  obtain ⟨-, hj_above, hj_below⟩ := (holds_iff htotal).1 hj
  rcases Nat.lt_trichotomy i j with hlt | heq | hgt
  · have := edge_mono (l := l) (show i + 1 ≤ j from hlt)
    omega
  · exact heq
  · have := edge_mono (l := l) (show j + 1 ≤ i from hgt)
    omega

theorem Holds.getElem?_feedPicture (hi : l.Holds i line) {rows : List MessageRow}
    (hlength : l.heights.length = rows.length) (width : Nat) :
    ∃ row h cells, rows[i]? = some row ∧ l.heights[i]? = some h ∧
      (Bubble.draw row width h)[line - l.top i]? = some cells ∧
      (feedPicture width (rows.zip l.heights))[line]? = some cells := by
  obtain ⟨hi, habove, hbelow⟩ := (holds_iff htotal).1 hi
  have hrow : i < rows.length := hlength ▸ hi
  have hzip : i < (rows.zip l.heights).length := by
    rw [List.length_zip]
    omega
  have hinside : line - l.edge i < (Bubble.draw rows[i] width l.heights[i]).length := by
    rw [edge_succ hi] at hbelow
    rw [Bubble.length_draw]
    omega
  have hdrop : (feedPicture width (rows.zip l.heights)).drop (l.edge i) =
      Bubble.draw rows[i] width l.heights[i] ++
        feedPicture width ((rows.zip l.heights).drop (i + 1)) := by
    rw [drop_feedPicture hlength, List.drop_eq_getElem_cons hzip, List.getElem_zip]
    rfl
  have hline : (feedPicture width (rows.zip l.heights))[line]? =
      (Bubble.draw rows[i] width l.heights[i])[line - l.edge i]? :=
    calc (feedPicture width (rows.zip l.heights))[line]?
        = ((feedPicture width (rows.zip l.heights)).drop (l.edge i))[line - l.edge i]? := by
          rw [List.getElem?_drop, Nat.add_sub_cancel' habove]
      _ = (Bubble.draw rows[i] width l.heights[i])[line - l.edge i]? := by
          rw [hdrop, List.getElem?_append_left hinside]
  rw [top_eq_edge htotal (Nat.le_of_lt hi), hline]
  exact ⟨rows[i], l.heights[i], _, List.getElem?_eq_getElem hrow, List.getElem?_eq_getElem hi,
    List.getElem?_eq_getElem hinside, List.getElem?_eq_getElem hinside⟩

theorem exists_shown (hline : line < sumColumns l.heights) {rows : List MessageRow}
    (hlength : l.heights.length = rows.length) (width : Nat) :
    ∃ i row h cells, (∀ j, l.Holds j line ↔ j = i) ∧
      rows[i]? = some row ∧ l.heights[i]? = some h ∧
      (Bubble.draw row width h)[line - l.top i]? = some cells ∧
      (feedPicture width (rows.zip l.heights))[line]? = some cells := by
  obtain ⟨i, hi⟩ := (exists_holds_iff htotal).2 hline
  obtain ⟨row, h, cells, hshown⟩ := hi.getElem?_feedPicture htotal hlength width
  exact ⟨i, row, h, cells, fun j => ⟨fun hj => hj.unique htotal hi, fun hj => hj ▸ hi⟩, hshown⟩

end Holds

end Layout

/-! ## The window -/

namespace MessageList

/-- The row of the feed at the top of the window. -/
def windowTop (m : MessageList) (height : Nat) : Nat :=
  m.layout.top (m.layout.visible m.offset height).1

def windowHeight (m : MessageList) (height : Nat) : Nat :=
  m.layout.top (m.layout.visible m.offset height).2 - m.windowTop height

variable {m : MessageList} {rows : List MessageRow} {width height : Nat}

section Window

variable (hlength : m.layout.heights.length = rows.length)
  (htotal : sumColumns m.layout.heights ≤ maxRow) (hheight : 0 < height)
  (hoffset : m.offset < sumColumns m.layout.heights)
include htotal hheight hoffset

/-- The window reaches so far down that a viewport at the offset lies in it, if one can. -/
theorem offset_in_window (hmax : m.offset ≤ sumColumns m.layout.heights - height) :
    m.offset - m.windowTop height ≤ m.windowHeight height - height := by
  obtain ⟨hfirst, hstop, habove, hbelow⟩ := Layout.covers_visible htotal hheight hoffset
  rw [windowHeight, windowTop, Layout.top_eq_edge htotal hstop,
    Layout.top_eq_edge htotal (Nat.le_trans hfirst hstop)]
  omega

include hlength

theorem window_eq (hpositive : ∀ h ∈ m.layout.heights, 0 < h)
    (hwindow : m.windowHeight height ≤ maxWindow) :
    m.window rows width height =
      fitRows (blank .plain) width height
        ((feedPicture width (rows.zip m.layout.heights)).drop m.offset) := by
  have hcovers := Layout.covers_visible htotal hheight hoffset
  rw [windowHeight, windowTop] at hwindow
  rw [window]
  generalize m.layout.visible m.offset height = range at *
  obtain ⟨first, stop⟩ := range
  obtain ⟨hfirst, hstop, habove, hbelow⟩ := hcovers
  dsimp only at hfirst hstop habove hbelow hwindow ⊢
  rw [Layout.top_eq_edge htotal hstop, Layout.top_eq_edge htotal (Nat.le_trans hfirst hstop)]
    at hwindow ⊢
  let shown := m.layout.between rows first stop
  have hsize : (feedPicture width shown).length = m.layout.edge stop - m.layout.edge first :=
    Layout.length_feedPicture_between hlength width hfirst
  have hstack : stack width (m.layout.edge stop - m.layout.edge first) 0 shown =
      feedPicture width shown := by
    refine stack_eq width shown _ 0 (fun pair hpair => hpositive pair.2 ?_) ?_
    · have hmem : pair.2 ∈ shown.map Prod.snd := List.mem_map_of_mem hpair
      rw [Layout.map_snd_between hlength] at hmem
      exact List.mem_of_mem_drop (List.mem_of_mem_take hmem)
    · exact Nat.le_of_eq (by rw [← hsize, length_feedPicture, Nat.zero_add])
  change fitRows _ _ _ ((stack width (min _ maxWindow) 0 shown).drop (min _ maxWindow)) = _
  rw [Nat.min_eq_left hwindow, Nat.min_eq_left (by omega), hstack,
    Layout.drop_feedPicture_between hlength width hfirst habove (by omega)]
  rcases hbelow with hend | hreach
  · have hnone : (feedPicture width (rows.zip m.layout.heights)).drop (m.layout.edge stop) = [] :=
      List.drop_eq_nil_of_le (Nat.le_of_eq (by rw [Layout.length_feedPicture_zip hlength, hend]))
    rw [hnone, List.append_nil]
  · rw [fitRows_append]
    rw [List.length_drop, hsize]
    omega

end Window

variable (m) (rows) (width height) in
theorem arrange_offset (htotal : sumColumns (m.layout.update rows width).heights ≤ maxRow) :
    (m.arrange rows width height).offset =
      if m.stick then sumColumns (m.layout.update rows width).heights - height
      else min m.offset (sumColumns (m.layout.update rows width).heights - height) := by
  rw [← Nat.min_eq_left htotal, ← Layout.total_eq]
  rfl

theorem arrange_offset_le (htotal : sumColumns (m.layout.update rows width).heights ≤ maxRow) :
    (m.arrange rows width height).offset ≤
      sumColumns (m.layout.update rows width).heights - height := by
  rw [arrange_offset m rows width height htotal]
  split
  · exact Nat.le_refl _
  · exact Nat.min_le_right _ _

theorem draw_fst (m : MessageList) (hrows : rows ≠ []) (remark : String) (width height : Nat) :
    (m.draw rows remark width height).1 = m.arrange rows (width - 1) height := by
  rw [draw, if_neg (by simpa using hrows)]

theorem content_draw (m : MessageList) (hrows : rows ≠ []) (remark : String) {width : Nat}
    (height : Nat)
    (hwidth : ((m.arrange rows (width - 1) height).window rows (width - 1) height).HasWidth
      (width - 1)) :
    (m.draw rows remark width height).2.map (List.take (width - 1)) =
      (m.arrange rows (width - 1) height).window rows (width - 1) height := by
  have hlength : ((m.arrange rows (width - 1) height).window rows (width - 1) height).length =
      height := length_fitRows _ _ _ _
  rw [draw, if_neg (by simpa using hrows)]
  dsimp only
  generalize m.arrange rows (width - 1) height = list at *
  split
  · rename_i hzero
    subst hzero
    have hempty : list.window rows 0 height = blankPicture (blank .plain) 0 height :=
      List.eq_replicate_iff.2 ⟨hlength, fun row hrow => List.length_eq_zero_iff.1 (hwidth row hrow)⟩
    rw [Nat.zero_sub, hempty]
    simp [blankPicture]
  · exact map_take_beside hwidth (by simp [hlength])

end MessageList

/-- Row by row, the content columns of a list show the feed from the offset on, every message in
its full height, as long as the feed is not higher than the greatest row and the window not higher
than the greatest window. The offset is that of the end of the feed, or is kept if it is before
that; a viewport of this offset lies in the window. Below the feed the columns are blank. -/
theorem window_shows_feed (m : MessageList) (rows : List MessageRow) (remark : String)
    (width height : Nat) (hrows : rows ≠ []) (hheight : 0 < height)
    (hpositive : ∀ h ∈ (m.layout.update rows (width - 1)).heights, 0 < h)
    (htotal : sumColumns (m.layout.update rows (width - 1)).heights < UInt32.size)
    (hwindow : (m.draw rows remark width height).1.windowHeight height ≤ maxWindow) :
    let list := (m.draw rows remark width height).1
    let content := (m.draw rows remark width height).2.map (List.take (width - 1))
    let heights := (m.layout.update rows (width - 1)).heights
    let total := sumColumns heights
    list.layout = m.layout.update rows (width - 1) ∧
      list.offset = (if m.stick then total - height else min m.offset (total - height)) ∧
      list.offset - list.windowTop height ≤ list.windowHeight height - height ∧
      content = fitRows (blank .plain) (width - 1) height
        ((feedPicture (width - 1) (rows.zip heights)).drop list.offset) ∧
      ∀ y < height,
        let line := list.offset + y
        (total ≤ line ↔ ¬∃ i, list.layout.Holds i line) ∧
          (total ≤ line → content[y]? = some (List.replicate (width - 1) (blank .plain))) ∧
          (line < total → ∃ i row h cells,
            (∀ j, list.layout.Holds j line ↔ j = i) ∧
              rows[i]? = some row ∧ heights[i]? = some h ∧
              (Bubble.draw row (width - 1) h)[line - list.layout.top i]? = some cells ∧
              content[y]? = some cells) := by
  intro list content heights total
  have hlist : list = m.arrange rows (width - 1) height := m.draw_fst hrows remark width height
  have hlayout : list.layout = m.layout.update rows (width - 1) := hlist ▸ rfl
  have hheights : list.layout.heights = heights := congrArg Layout.heights hlayout
  have hlength : list.layout.heights.length = rows.length :=
    hlayout ▸ Layout.length_heights_update m.layout rows (width - 1)
  have htotal_le : total ≤ maxRow := Nat.le_pred_of_lt htotal
  have hmax : sumColumns list.layout.heights ≤ maxRow := hheights ▸ htotal_le
  have htotal_pos : 0 < total := by
    refine sumColumns_pos ?_ hpositive
    rw [← List.length_pos_iff, Layout.length_heights_update]
    exact List.length_pos_iff.2 hrows
  have hoffset_le : list.offset ≤ total - height :=
    hlist ▸ MessageList.arrange_offset_le htotal_le
  have hoffset_lt : list.offset < sumColumns list.layout.heights := by
    rw [hheights]
    exact Nat.lt_of_le_of_lt hoffset_le (Nat.sub_lt htotal_pos hheight)
  have hwin : list.window rows (width - 1) height = fitRows (blank .plain) (width - 1) height
      ((feedPicture (width - 1) (rows.zip heights)).drop list.offset) := by
    rw [MessageList.window_eq hlength hmax hheight hoffset_lt (hheights ▸ hpositive) hwindow,
      hheights]
  have hcontent : content = fitRows (blank .plain) (width - 1) height
      ((feedPicture (width - 1) (rows.zip heights)).drop list.offset) := by
    rw [← hwin, hlist]
    refine m.content_draw hrows remark height ?_
    rw [← hlist, hwin]
    refine Picture.HasWidth.fitRows (fun row hrow => ?_) _ _
    exact hasWidth_feedPicture _ _ row (List.mem_of_mem_drop hrow)
  refine ⟨hlayout, ?_, ?_, hcontent, fun y hy => ?_⟩
  · rw [hlist, MessageList.arrange_offset m rows _ height htotal_le]
  · exact MessageList.offset_in_window hmax hheight hoffset_lt (hheights ▸ hoffset_le)
  intro line
  have hcells : content[y]? = some ((feedPicture (width - 1) (rows.zip heights))[line]?.getD
      (List.replicate (width - 1) (blank .plain))) := by
    rw [hcontent, getElem?_fitRows _ _ _ hy, List.getElem?_drop]
  refine ⟨?_, fun hbelow => ?_, fun habove => ?_⟩
  · rw [Layout.exists_holds_iff hmax, hheights, Nat.not_lt]
  · have hnone : (feedPicture (width - 1) (rows.zip heights))[line]? = none := by
      rw [List.getElem?_eq_none_iff, ← hheights, Layout.length_feedPicture_zip hlength, hheights]
      exact hbelow
    rw [hcells, hnone, Option.getD_none]
  · obtain ⟨i, row, h, cells, hholds, hrow, hh, hdrawn, hshown⟩ :=
      Layout.exists_shown hmax (by rwa [hheights]) hlength (width - 1)
    rw [hheights] at hh hshown
    exact ⟨i, row, h, cells, hholds, hrow, hh, hdrawn, by rw [hcells, hshown, Option.getD_some]⟩

/-- A list that does not follow its end shows three messages from the third row of the first on, as
far as its seven rows reach. -/
theorem window_shows_three_messages :
    let row (seqId : UInt32) (content : String) : MessageRow :=
      ⟨"alice", "", seqId, "", content, "", false, false⟩
    let rows := [row 0 "hello", row 1 "", row 2 "bye"]
    let m : MessageList := { offset := 2, stick := false }
    let content := (m.draw rows "" 20 7).2.map (List.take 19)
    (m.layout.update rows 19).heights = [4, 3, 4] ∧ (m.draw rows "" 20 7).1.offset = 2 ∧
      content = fitRows (blank .plain) 19 7 ((feedPicture 19 (rows.zip [4, 3, 4])).drop 2) ∧
      content.map (fun cells => String.join (cells.map Cell.symbol)) =
        ["│ seen  · id 0    │", "╰─────────────────╯",
          "╭alice────────────╮", "│ seen  · id 1    │", "╰─────────────────╯",
          "╭alice────────────╮", "│ bye             │"] := by
  intro row rows m content
  have hheights : (m.layout.update rows 19).heights = [4, 3, 4] := by decide
  have hpositive : ∀ h ∈ (m.layout.update rows 19).heights, 0 < h := by simp [hheights]
  have htotal : sumColumns (m.layout.update rows 19).heights < UInt32.size := by
    rw [hheights]
    decide
  have hwindow : (m.draw rows "" 20 7).1.windowHeight 7 ≤ maxWindow := by decide
  obtain ⟨-, hoffset, -, hcontent, -⟩ :=
    window_shows_feed m rows "" 20 7 (List.cons_ne_nil _ _) (by decide) hpositive htotal hwindow
  have hstart : (m.draw rows "" 20 7).1.offset = 2 := by
    rw [hoffset, hheights]
    decide
  rw [hstart, hheights] at hcontent
  refine ⟨hheights, hstart, hcontent, ?_⟩
  rw [show content = _ from hcontent]
  decide +kernel

end GossipPanel.Display
