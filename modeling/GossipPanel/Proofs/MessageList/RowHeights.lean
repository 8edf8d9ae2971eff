import GossipPanel.Proofs.MessageList.Cache
import GossipPanel.Proofs.Wrapping.Growth

/-!
# Heights of long messages

The height of a message is a number of 16 bits. It is the number of rows of the content and three
more as long as these are fewer than 65533; from there on it begins at 0 again.

* `Bubble.contentRows`: the rows of a content, without any bound. `contentRows_le_append`: text that
  is added behind a content takes no row away.
* `Bubble.toNat_height`: the height is the sum modulo 65536.
* `height_wraps_around`: which heights are right, and which feeds have no message without a row.
-/

namespace GossipPanel.Display

open Panel Text

namespace Bubble

/-- The rows of a content in a width. -/
def contentRows (content : String) (width : Nat) : Nat :=
  if (trim content.toList).isEmpty then 0
  else Fill.filledRows (width - sideColumns) (trim content.toList)

theorem toNat_height (row : MessageRow) {width : Nat} (h : sideColumns < width) :
    (height row width).toNat = (contentRows row.content width + 3) % 65536 := by
  have hinner : width - sideColumns ≠ 0 := by omega
  have hheight : height row width = UInt16.ofNat (contentRows row.content width) + extraRows := by
    rw [height, if_neg hinner]
    rfl
  rw [hheight, UInt16.toNat_add, UInt16.toNat_ofNat']
  show (contentRows row.content width % 65536 + 3) % 65536 = _
  omega

theorem toNat_height_of_narrow (row : MessageRow) {width : Nat} (h : width ≤ sideColumns) :
    (height row width).toNat = 1 := by
  rw [height, if_pos (by omega)]
  rfl

theorem contentRows_le_append (content more : String) (width : Nat) :
    contentRows content width ≤ contentRows (content ++ more) width := by
  rw [contentRows]
  split
  · exact Nat.zero_le _
  · next hne =>
    have hstart : trim content.toList <+: trim (content ++ more).toList := by
      rw [String.toList_append]
      exact trim_prefix_append (by simpa using hne) _
    have hmore : trim (content ++ more).toList ≠ [] := by
      intro hnil
      rw [hnil, List.prefix_nil] at hstart
      simp [hstart] at hne
    rw [contentRows, if_neg (by simpa using hmore)]
    exact Fill.filledRows_prefix_le hstart

/-- Two letters with so many line feeds between them. -/
def farApart (feeds : Nat) : String :=
  String.ofList ('a' :: List.replicate feeds '\n' ++ ['a'])

theorem filledRows_feeds (n : Nat) :
    Fill.filledRows 76 (List.replicate n '\n' ++ ['a']) = n + 1 := by
  induction n with
  | zero => rfl
  | succ n ih =>
    have hfirst := Fill.filledRows_append 76 [] (List.replicate n '\n' ++ ['a'])
    rw [ih] at hfirst
    rw [List.replicate_succ, List.cons_append]
    exact hfirst.trans (Nat.add_comm _ _)

theorem contentRows_farApart (feeds : Nat) : contentRows (farApart feeds) 80 = feeds + 1 := by
  have htrim : trim (farApart feeds).toList = 'a' :: List.replicate feeds '\n' ++ ['a'] := by
    rw [farApart, String.toList_ofList]
    refine trim_of_ends ?_ ?_
    · simp [show isBlank 'a' = false by decide]
    · simp [List.getLast?_cons, show isBlank 'a' = false by decide]
  rw [contentRows, htrim]
  cases feeds with
  | zero => rfl
  | succ n =>
    have hfirst := Fill.filledRows_append 76 ['a'] (List.replicate n '\n' ++ ['a'])
    rw [filledRows_feeds] at hfirst
    exact hfirst.trans (Nat.add_comm _ _)

end Bubble

/-- The height of a message is three more than the rows of its content, modulo 65536. It is this sum
up to the greatest height exactly if the rows of the content are fewer than 65533, or 65532 modulo
65536; there are messages without a height. As long as the contents stay below 65533 rows, heights
are three at least and do not fall when text is added, and no message of a feed is without a height,
whatever has been drawn before and however narrow the feed is. -/
theorem height_wraps_around (row : MessageRow) (width : Nat) (hwidth : 4 < width) :
    let rows := Bubble.contentRows row.content width
    let height := (Bubble.height row width).toNat
    height = (rows + 3) % 65536 ∧
      (height = min (rows + 3) 65535 ↔ rows < 65533 ∨ rows % 65536 = 65532) ∧
      (height = 0 ↔ rows % 65536 = 65533) ∧
      (rows < 65533 → 3 ≤ height) ∧
      (∀ more, let longer : MessageRow := { row with content := row.content ++ more }
        rows ≤ Bubble.contentRows longer.content width ∧
          (Bubble.contentRows longer.content width < 65533 →
            height ≤ (Bubble.height longer width).toNat)) ∧
      ∀ (ms : List MessageList.Move) (feed : List MessageRow) (remark : String) (w h : Nat),
        (∀ r ∈ feed, Bubble.contentRows r.content (w - 1) < 65533) →
          ∀ size ∈ (({} : MessageList).moves (ms ++ [.draw feed remark w h])).layout.heights,
            0 < size := by
  intro rows height
  have hheight : height = (rows + 3) % 65536 := Bubble.toNat_height row hwidth
  refine ⟨hheight, by omega, by omega, by omega, ?_, ?_⟩
  · intro more longer
    have hmore : rows ≤ Bubble.contentRows longer.content width :=
      Bubble.contentRows_le_append row.content more width
    have hlonger : (Bubble.height longer width).toNat = _ := Bubble.toNat_height longer hwidth
    exact ⟨hmore, by omega⟩
  · intro ms feed remark w h hfeed size hsize
    rw [MessageList.moves_concat, MessageList.move, MessageList.layout_draw] at hsize
    split at hsize
    · cases hsize
    · rw [(Layout.measured_moves ms).heights_update] at hsize
      obtain ⟨r, hr, rfl⟩ := List.mem_map.1 hsize
      rw [Layout.measure]
      rcases Nat.lt_or_ge Bubble.sideColumns (w - 1) with hwide | hnarrow
      · have hrows := hfeed r hr
        rw [Bubble.toNat_height r hwide]
        omega
      · rw [Bubble.toNat_height_of_narrow r hnarrow]
        exact Nat.one_pos

/-- Two lines and what is added behind them. -/
theorem height_of_growing_message :
    let row : MessageRow := ⟨"alice", "", 3, "", "to be\nor not", "", false, false⟩
    4 < 10 ∧ Bubble.contentRows row.content 10 = 2 ∧ (Bubble.height row 10).toNat = 5 ∧
      5 ≤ (Bubble.height { row with content := row.content ++ "\nto be" } 10).toNat := by
  intro row
  obtain ⟨hheight, -, -, -, hmore, -⟩ := height_wraps_around row 10 (by decide)
  have hrows : Bubble.contentRows row.content 10 = 2 := by decide +kernel
  rw [hrows] at hheight
  have hlonger := (hmore "\nto be").2 (by decide +kernel)
  exact ⟨by decide, hrows, hheight, Nat.le_trans (Nat.le_of_eq hheight.symm) hlonger⟩

/-- A message of 65536 rows is as high as one without content, and one of 65533 rows has no
height. -/
theorem height_of_endless_message :
    let row (feeds : Nat) : MessageRow :=
      ⟨"alice", "", 3, "", Bubble.farApart feeds, "", false, false⟩
    Bubble.contentRows (row 65535).content 80 = 65536 ∧
      (Bubble.height (row 65535) 80).toNat = 3 ∧
      (Bubble.height (row 65535) 80).toNat ≠ min (65536 + 3) 65535 ∧
      Bubble.contentRows (row 65532).content 80 = 65533 ∧
      (Bubble.height (row 65532) 80).toNat = 0 := by
  intro row
  have hrows : ∀ feeds, Bubble.contentRows (row feeds).content 80 = feeds + 1 :=
    fun feeds => Bubble.contentRows_farApart feeds
  have hheight : ∀ feeds, (Bubble.height (row feeds) 80).toNat = (feeds + 1 + 3) % 65536 := by
    intro feeds
    rw [Bubble.toNat_height (row feeds) (show Bubble.sideColumns < 80 by decide), hrows]
  exact ⟨hrows _, hheight _, by rw [hheight]; decide, hrows _, hheight _⟩

end GossipPanel.Display
