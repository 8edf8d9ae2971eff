import GossipPanel.Screen.Line

/-!
# Frames

A border around a picture, with a title in its top row. A frame of one row is its top row alone,
one of one column its left edge.
-/

namespace GossipPanel.Screen

structure BorderSet where
  topLeft : String
  topRight : String
  bottomLeft : String
  bottomRight : String
  horizontal : String := "─"
  vertical : String := "│"

def roundedBorder : BorderSet := ⟨"╭", "╮", "╰", "╯", "─", "│"⟩

def squareBorder : BorderSet := ⟨"┌", "┐", "└", "┘", "─", "│"⟩

/-- A frame without its contents. -/
structure Frame where
  border : BorderSet := roundedBorder
  style : Style := {}
  title : List Span := []
  /-- Put over the style of the border where the title stands. -/
  titleStyle : Style := {}

namespace Frame

/-- A row of a border: `left`, then `middle` repeated, then `right`. -/
def edge (style : Style) (left middle right : String) (width : Nat) : Row :=
  match width with
  | 0 => []
  | 1 => [⟨left, style⟩]
  | w + 2 => ⟨left, style⟩ :: List.replicate w ⟨middle, style⟩ ++ [⟨right, style⟩]

/-- The top row with the title from its second cell, up to the corner. -/
def top (f : Frame) (width : Nat) : Row :=
  let row := edge f.style f.border.topLeft f.border.horizontal f.border.topRight width
  let room := min (spansWidth f.title) (width - 2)
  let behind := row.drop 1
  row.take 1 ++ paintSpans (restyle f.titleStyle (behind.take room)) f.title ++ behind.drop room

def bottom (f : Frame) (width : Nat) : Row :=
  edge f.style f.border.bottomLeft f.border.horizontal f.border.bottomRight width

def side (f : Frame) (width : Nat) (contents : Row) : Row :=
  match width with
  | 0 => []
  | 1 => [⟨f.border.vertical, f.style⟩]
  | w + 2 =>
    ⟨f.border.vertical, f.style⟩ :: fit (blank .plain) w contents ++ [⟨f.border.vertical, f.style⟩]

/-- The frame around contents of `width - 2` columns and `height - 2` rows. -/
def around (f : Frame) (width height : Nat) (contents : Picture) : Picture :=
  match height with
  | 0 => []
  | 1 => [f.top width]
  | h + 2 =>
    f.top width :: (fitRows (blank .plain) (width - 2) h contents).map (f.side width) ++
      [f.bottom width]

@[simp]
theorem length_around (f : Frame) (width height : Nat) (contents : Picture) :
    (f.around width height contents).length = height := by
  match height with
  | 0 => rfl
  | 1 => rfl
  | h + 2 => simp [around]

@[simp]
theorem length_edge (style : Style) (left middle right : String) (width : Nat) :
    (edge style left middle right width).length = width := by
  match width with
  | 0 => rfl
  | 1 => rfl
  | w + 2 => simp [edge]

@[simp]
theorem length_top (f : Frame) (width : Nat) : (f.top width).length = width := by
  simp only [top, List.length_append, List.length_take, List.length_drop, length_edge,
    length_paintSpans, length_restyle]
  omega

@[simp]
theorem length_side (f : Frame) (width : Nat) (contents : Row) :
    (f.side width contents).length = width := by
  match width with
  | 0 => rfl
  | 1 => rfl
  | w + 2 => simp [side]

theorem hasWidth_around (f : Frame) (width height : Nat) (contents : Picture) :
    (f.around width height contents).HasWidth width := by
  match height with
  | 0 => nofun
  | 1 => simp [around, Picture.HasWidth]
  | h + 2 =>
    have hsides : Picture.HasWidth
        ((fitRows (blank .plain) (width - 2) h contents).map (f.side width)) width := by
      intro row hrow
      obtain ⟨contents, -, rfl⟩ := List.mem_map.1 hrow
      exact length_side f width contents
    refine List.forall_mem_cons.2 ⟨length_top f width, List.forall_mem_append.2 ⟨hsides, ?_⟩⟩
    simp [bottom]

end Frame

end GossipPanel.Screen
