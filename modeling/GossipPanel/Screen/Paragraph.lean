import GossipPanel.Screen.Line
import GossipPanel.Screen.Wrap

/-!
# Paragraphs

Texts drawn on a ground of one style. Without wrapping a row is cut at its width. With wrapping it
continues in the next one; a row whose last word does not fit reaches over what stands on its
right, so wrapped rows are overlays.
-/

namespace GossipPanel.Screen

open Text Wrap

/-- The glyphs of spans that can be drawn. -/
def glyphs (spans : List Span) : List (Glyph Style) :=
  spans.flatMap fun s => (drawable s.text.toList).map fun cluster => ⟨cluster, s.style⟩

/-- A glyph written on a row; the cells behind the first one stay as they are. -/
def Wrap.Glyph.marks (g : Glyph Style) : Overlay :=
  match g.width with
  | 0 => []
  | w + 1 => some ⟨String.ofList g.cluster, g.tag⟩ :: List.replicate w none

/-- Glyphs written on a row. -/
def glyphMarks (gs : List (Glyph Style)) : Overlay :=
  gs.flatMap Glyph.marks

/-- The glyphs of a row that is cut at a width; what is wider than the row is left out. -/
def cutGlyphs (width : Nat) (room : Nat) : List (Glyph Style) → List (Glyph Style)
  | [] => []
  | g :: gs =>
    if g.width > width then cutGlyphs width room gs
    else if g.width > room then []
    else g :: cutGlyphs width (room - g.width) gs

def textLines (text : String) : List String :=
  if text = "" then [""] else (lines text.toList).map String.ofList

/-- The lines of a text on a ground of one style, each in one row. -/
def paragraph (style : Style) (text : String) (width height : Nat) : Picture :=
  fitRows (blank style) width height <|
    (textLines text).map fun l =>
      Row.overlay (List.replicate width (blank style))
        (glyphMarks (cutGlyphs width width (glyphs [⟨l, {}⟩])))

def wrappedRows (width height : Nat) (lines : List (List Span)) : List (List (Glyph Style)) :=
  if width = 0 then []
  else (lines.flatMap fun spans => wrapLine width (glyphs spans)).take height

/-- A text in lines that continue in the next row, from the left edge. -/
def wrappedText (text : String) (width height : Nat) : List Overlay :=
  let lines := (textLines text).map fun l => [({ text := l } : Span)]
  (wrappedRows width height lines).map glyphMarks

/-- Lines that continue in the next row, each row in the middle of the width. -/
def centredLines (lines : List (List Span)) (width height : Nat) : List Overlay :=
  (wrappedRows width height lines).map fun gs =>
    List.replicate (width / 2 - widthOf gs / 2) none ++ glyphMarks gs

end GossipPanel.Screen
