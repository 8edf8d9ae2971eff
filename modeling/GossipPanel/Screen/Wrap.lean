import GossipPanel.Text.Blank
import GossipPanel.Text.Cluster

/-!
# Word wrap

`wrapLine` breaks one line of clusters into rows of a width. Rows break before words, words that
are too long break anywhere, and white space at a break is dropped.
-/

namespace GossipPanel.Screen.Wrap

open Text

/-- A cluster that separates words. A no-break space does not, a zero-width space does. -/
def isSeparator (cluster : List Char) : Bool :=
  cluster == ['\u200b'] || (cluster.all isBlank && cluster != ['\u00a0'])

/-- A cluster with its columns. `α` is whatever travels with it, such as a style. -/
structure Glyph (α : Type) where
  cluster : List Char
  tag : α
  deriving DecidableEq, Repr

namespace Glyph

variable {α : Type}

def width (g : Glyph α) : Nat :=
  clusterWidth g.cluster

/-- The glyph separates words. -/
def isSpace (g : Glyph α) : Bool :=
  isSeparator g.cluster

end Glyph

def widthOf {α : Type} (gs : List (Glyph α)) : Nat :=
  sumColumns (gs.map Glyph.width)

/-- A row in the making. -/
structure State (α : Type) where
  /-- The rows that are finished, last first. -/
  rows : List (List (Glyph α)) := []
  /-- The part of the row that is settled. -/
  line : List (Glyph α) := []
  /-- The white space between that part and the word. -/
  space : List (Glyph α) := []
  /-- The word that may still move to the next row. -/
  word : List (Glyph α) := []
  /-- The last glyph was no white space. -/
  afterWord : Bool := false

namespace State

variable {α : Type}

/-- Settles the word, and the white space before it unless the row starts with it. -/
def settle (s : State α) : State α :=
  { s with
    line := (if s.line.isEmpty then [] else s.line ++ s.space) ++ s.word
    space := []
    word := [] }

/-- White space without as much of its start as fits into `room` columns. -/
def dropFitting (room : Nat) : List (Glyph α) → List (Glyph α)
  | [] => []
  | g :: gs => if g.width ≤ room then dropFitting (room - g.width) gs else g :: gs

/-- Finishes the row; white space that would have fitted into it is dropped. -/
def breakRow (s : State α) (width : Nat) : State α :=
  { s with
    rows := s.line :: s.rows
    line := []
    space := dropFitting (width - widthOf s.line) s.space }

/-- Takes a glyph into the white space or the word. -/
def take (s : State α) (g : Glyph α) : State α :=
  if g.isSpace then { s with space := s.space ++ [g], afterWord := false }
  else { s with word := s.word ++ [g], afterWord := true }

/-- The word ends before `g`, or what would start a row has grown too wide for it. -/
def mustSettle (s : State α) (width : Nat) (g : Glyph α) : Bool :=
  (s.afterWord && g.isSpace) ||
    (s.line.isEmpty && (widthOf s.word + g.width > width || widthOf s.space + g.width > width))

/-- The row is full. -/
def mustBreak (s : State α) (width : Nat) (g : Glyph α) : Bool :=
  widthOf s.line ≥ width ||
    (g.width > 0 && widthOf s.line + widthOf s.space + widthOf s.word ≥ width)

def step (width : Nat) (s : State α) (g : Glyph α) : State α :=
  if g.width > width then s
  else
    let s := if s.mustSettle width g then s.settle else s
    if s.mustBreak width g then
      let s := s.breakRow width
      if g.isSpace && s.space.isEmpty then s else s.take g
    else s.take g

/-- The rows, after the last glyph. A line always has a row. -/
def finish (s : State α) : List (List (Glyph α)) :=
  let rows := if s.line.isEmpty && s.word.isEmpty && !s.space.isEmpty then [] :: s.rows else s.rows
  let line := (if s.line.isEmpty then [] else s.line ++ s.space) ++ s.word
  let rows := if line.isEmpty then rows else line :: rows
  if rows.isEmpty then [[]] else rows.reverse

end State

def wrapLine {α : Type} (width : Nat) (glyphs : List (Glyph α)) : List (List (Glyph α)) :=
  (glyphs.foldl (State.step width) {}).finish

end GossipPanel.Screen.Wrap
