import GossipPanel.Screen.Picture
import GossipPanel.Text.Cluster

/-!
# What a terminal shows

A wide character takes the place of the cells behind it: whatever a picture has there does not
reach the terminal. `shown` is the picture as the terminal shows it, where those cells are empty;
`rowText` and `styleRuns` describe a row of it.
-/

namespace GossipPanel.Screen

open Text

/-- The number of cells behind this one that its symbol covers. -/
def Cell.covered (c : Cell) : Nat :=
  clusterWidth c.symbol.toList - 1

/-- A row behind a symbol that covers `hidden` of its cells, and the number of cells that are
covered in the row below. -/
def shownRow (hidden : Nat) : Row → Row × Nat
  | [] => ([], hidden)
  | c :: row =>
    match hidden with
    | 0 =>
      let (row, hidden) := shownRow c.covered row
      (c :: row, hidden)
    | hidden + 1 =>
      let (row, hidden) := shownRow hidden row
      (blank .plain :: row, hidden)

/-- The rows of a picture when `hidden` cells of the first one are covered. -/
def shownFrom (hidden : Nat) : Picture → Picture
  | [] => []
  | row :: p =>
    let (row, hidden) := shownRow hidden row
    row :: shownFrom hidden p

/-- The picture as a terminal shows it. -/
def shown (p : Picture) : Picture :=
  shownFrom 0 p

/-- The symbols of a row, without `hidden` cells at its start. The columns of the text of a symbol
belong to it. -/
def rowSymbols (hidden : Nat) : Row → List Char
  | [] => []
  | c :: row =>
    match hidden with
    | 0 => c.symbol.toList ++ rowSymbols (textWidth c.symbol.toList - 1) row
    | hidden + 1 => rowSymbols hidden row

/-- The text of a row without the spaces at its end. -/
def rowText (row : Row) : String :=
  String.ofList ((rowSymbols 0 row).reverse.dropWhile (· = ' ')).reverse

/-- A cell in front of stretches of a row. -/
def addRun (style : Style) : List (Nat × Style) → List (Nat × Style)
  | [] => [(1, style)]
  | (n, s) :: runs => if s = style then (n + 1, s) :: runs else (1, style) :: (n, s) :: runs

/-- The lengths and styles of the stretches of one style in a row. -/
def styleRuns (row : Row) : List (Nat × Style) :=
  row.foldr (fun c runs => addRun c.style runs) []

end GossipPanel.Screen
