import GossipPanel.Screen.Picture
import GossipPanel.Text.Cluster
import GossipPanel.Text.Lines

/-!
# Styled lines

A line is a list of spans, each a text with a style. `paintSpans` draws a line over the cells of a
row: spans follow one another, each as far behind the one before as that one has columns, and a
character that does not fit into the row ends its span.
-/

namespace GossipPanel.Screen

open Text

/-- A text in one style. -/
structure Span where
  text : String
  style : Style := {}
  deriving DecidableEq, Repr

/-- The columns that a span takes. -/
def Span.width (s : Span) : Nat :=
  textWidth s.text.toList

/-- The clusters of a text that can be drawn: those without control characters. -/
def drawable (cs : List Char) : List (List Char) :=
  (clusters cs).filter fun cluster => !cluster.any isControl

/-- A row in which a span is drawn: the cells done, last first, and the cells ahead. -/
structure Painting where
  done : Row := []
  ahead : Row
  /-- A cluster has been drawn. -/
  started : Bool := false

namespace Painting

def row (p : Painting) : Row :=
  p.done.reverse ++ p.ahead

/-- Goes on by `w` cells. The first one holds the symbol, the others are emptied. -/
def advance (p : Painting) (w : Nat) : Painting :=
  match w, p.ahead with
  | w + 1, c :: ahead =>
    { p with done := List.replicate w (blank .plain) ++ c :: p.done, ahead := ahead.drop w }
  | _, _ => p

/-- Draws a cluster. The first one is written; while none had a width, others are put behind it in
the same cell; later on one without a width is put behind what the last cell done holds. -/
def put (p : Painting) (style : Style) (cluster : List Char) : Painting :=
  let symbol := String.ofList cluster
  let w := clusterWidth cluster
  if p.started && w == 0 && !p.done.isEmpty then
    { p with done := p.done.modifyHead (·.append symbol style) }
  else if p.started && p.done.isEmpty then
    { p with ahead := p.ahead.modifyHead (·.append symbol style) }.advance w
  else
    { p with started := true, ahead := p.ahead.modifyHead (·.write symbol style) }.advance w

/-- Draws clusters up to the first that does not fit. -/
def putAll (style : Style) (p : Painting) : List (List Char) → Painting
  | [] => p
  | cluster :: rest =>
    if p.ahead.length < clusterWidth cluster then p else putAll style (p.put style cluster) rest

end Painting

/-- Draws a span over a row. -/
def paintSpan (s : Span) (row : Row) : Row :=
  if row.isEmpty then [] else (Painting.putAll s.style { ahead := row } (drawable s.text.toList)).row

/-- Draws spans over a row, one after the other. A span without a width is left out. -/
def paintSpans (row : Row) : List Span → Row
  | [] => row
  | s :: spans =>
    if s.width = 0 then paintSpans row spans
    else
      let row := paintSpan s row
      row.take s.width ++ paintSpans (row.drop s.width) spans

/-- A text as one line: what stands on different lines of it is joined. -/
def lineSpans (style : Style) (text : String) : List Span :=
  (lines text.toList).map fun l => ⟨String.ofList l, style⟩

/-- The columns that a line takes. -/
def spansWidth (spans : List Span) : Nat :=
  sumColumns (spans.map Span.width)

/-! ## A row keeps its length -/

theorem Painting.length_row_advance (p : Painting) (w : Nat) (h : w ≤ p.ahead.length) :
    (p.advance w).row.length = p.row.length := by
  unfold advance
  split
  · rename_i w c ahead heq
    rw [heq, List.length_cons] at h
    simp only [row, heq, List.length_append, List.length_reverse, List.length_replicate,
      List.length_cons, List.length_drop]
    omega
  · rfl

theorem Painting.length_row_put (p : Painting) (style : Style) (cluster : List Char)
    (h : clusterWidth cluster ≤ p.ahead.length) :
    (p.put style cluster).row.length = p.row.length := by
  unfold put
  dsimp only
  split
  · simp [row]
  · split
    · rw [length_row_advance _ _ (by simpa using h)]
      simp [row]
    · rw [length_row_advance _ _ (by simpa using h)]
      simp [row]

theorem Painting.length_row_putAll (style : Style) (p : Painting) (cs : List (List Char)) :
    (putAll style p cs).row.length = p.row.length := by
  induction cs generalizing p with
  | nil => rfl
  | cons cluster rest ih =>
    rw [putAll]
    split
    · rfl
    · rename_i h
      rw [ih, length_row_put _ _ _ (by omega)]

@[simp]
theorem length_paintSpan (s : Span) (row : Row) : (paintSpan s row).length = row.length := by
  unfold paintSpan
  split
  · simp_all
  · rw [Painting.length_row_putAll]
    simp [Painting.row]

@[simp]
theorem length_paintSpans (row : Row) (spans : List Span) :
    (paintSpans row spans).length = row.length := by
  induction spans generalizing row with
  | nil => rfl
  | cons s spans ih =>
    rw [paintSpans]
    split
    · exact ih row
    · simp only [List.length_append, ih, List.length_take, List.length_drop, length_paintSpan]
      omega

end GossipPanel.Screen
