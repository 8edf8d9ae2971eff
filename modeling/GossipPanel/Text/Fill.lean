import GossipPanel.Text.Alphanumeric
import GossipPanel.Text.Bytes
import GossipPanel.Text.Lines
import GossipPanel.Text.Width

/-!
# Filling rows with words

How many rows a text takes when its words are set with the least total cost. A word may be broken
after a hyphen between letters or numbers, and anywhere when it is wider than a row.

* `pieces` are the parts of a line between which a row may end.
* `leastRows` sets pieces into rows: every row costs something, a row that is too wide much more,
  and a gap at the end of a row, except the last, its square.
* `filledRows` counts the rows of a text of several lines.
-/

namespace GossipPanel.Text.Fill

/-- The text after an escape sequence of a terminal, which starts with ESC. -/
def dropEscape : List Char → List Char
  | '[' :: cs => (cs.dropWhile fun c => !('@' ≤ c && c ≤ '~')).drop 1
  | ']' :: cs => dropCommand ']' cs
  | _ :: cs => cs
  | [] => []
where
  /-- The text after a command that ends with BEL, or with ESC and a backslash. -/
  dropCommand (last : Char) : List Char → List Char
    | [] => []
    | c :: cs => if c = '\x07' ∨ (c = '\\' ∧ last = '\x1b') then cs else dropCommand c cs

theorem length_dropCommand_le (last : Char) (cs : List Char) :
    (dropEscape.dropCommand last cs).length ≤ cs.length := by
  induction cs generalizing last with
  | nil => simp [dropEscape.dropCommand]
  | cons c cs ih =>
    rw [dropEscape.dropCommand]
    split
    · simp
    · have := ih c
      simp only [List.length_cons]
      omega

theorem length_dropEscape_le (cs : List Char) : (dropEscape cs).length ≤ cs.length := by
  unfold dropEscape
  split
  · rename_i cs
    have := (List.dropWhile_sublist (l := cs) fun c => !('@' ≤ c && c ≤ '~')).length_le
    simp only [List.length_drop, List.length_cons]
    omega
  · rename_i cs
    have := length_dropCommand_le ']' cs
    simp only [List.length_cons]
    omega
  · simp
  · simp

/-- The columns of the characters of a text, escape sequences left out. -/
def columns : List Char → List Nat
  | [] => []
  | c :: cs =>
    if c = '\x1b' then
      have := length_dropEscape_le cs
      columns (dropEscape cs)
    else charWidth c :: columns cs
termination_by cs => cs.length
decreasing_by all_goals simp only [List.length_cons]; omega

/-- The words of a line, each with the number of spaces after it. Only U+0020 separates words;
spaces at the start follow an empty word. -/
def spacedWords : List Char → List (List Char × Nat)
  | [] => []
  | c :: cs =>
    match spacedWords cs with
    | [] => if c = ' ' then [([], 1)] else [([c], 0)]
    | (w, n) :: rest =>
      if c = ' ' then
        if w.isEmpty then ([], n + 1) :: rest else ([], 1) :: (w, n) :: rest
      else (c :: w, n) :: rest

/-- The parts of a word: it may be broken after a hyphen between letters or numbers. `before` is
the character before the text, `part` the part begun, last character first. -/
def hyphenParts (before : Option Char) (part : List Char) : List Char → List (List Char)
  | [] => [part.reverse]
  | c :: cs =>
    if c = '-' && before.any isAlphanumeric && cs.head?.any isAlphanumeric then
      (c :: part).reverse :: hyphenParts (some c) [] cs
    else hyphenParts (some c) (c :: part) cs

/-- The widths of the pieces of a part that is too wide: as many characters as fit, again and
again; `used` columns are taken. -/
def cutColumns (limit used : Nat) : List Nat → List Nat
  | [] => [used]
  | w :: ws =>
    if 0 < used ∧ limit < used + w then used :: cutColumns limit w ws
    else cutColumns limit (used + w) ws

/-- A piece of a line: its width and the number of spaces after it. -/
structure Piece where
  width : Nat
  space : Nat := 0
  deriving DecidableEq, Repr

/-- The widths of the pieces of a part of a word. -/
def partWidths (limit : Nat) (part : List Char) : List Nat :=
  let ws := columns part
  if limit < sumColumns ws then cutColumns limit 0 ws else [sumColumns ws]

/-- The pieces with these widths, the last followed by spaces. -/
def piecesOf (space : Nat) : List Nat → List Piece
  | [] => []
  | [w] => [⟨w, space⟩]
  | w :: ws => ⟨w, 0⟩ :: piecesOf space ws

/-- The pieces of a line for rows of `limit` columns. -/
def pieces (limit : Nat) (line : List Char) : List Piece :=
  (spacedWords line).flatMap fun (word, space) =>
    piecesOf space ((hyphenParts none [] word).flatMap (partWidths limit))

/-- A place where a row may start: the columns before it, the least cost of the rows before it,
and their number. -/
structure Start where
  before : Nat
  cost : Nat
  rows : Nat
  deriving DecidableEq, Repr

/-- What a row of `used` columns costs. `isLast` tells that no row follows, `alone` that the row
is a single piece. -/
def rowCost (limit used : Nat) (isLast alone : Bool) : Nat :=
  1000 +
    if limit < used then (used - limit) * 2500
    else if !isLast then (limit - used) * (limit - used)
    else if alone && 4 * used < limit then 25
    else 0

/-- The cheaper start, the earlier one when both cost the same; `later` is considered first. -/
def cheaper (earlier later : Start) : Start :=
  if earlier.cost ≤ later.cost then earlier else later

/-- The start after a piece that ends at column `stop`, from the starts before it, last first. -/
def nextStart (limit stop after : Nat) (isLast : Bool) (starts : List Start) : Option Start :=
  let candidates := starts.mapIdx fun i s =>
    { before := after
      cost := s.cost + rowCost limit (stop - s.before) isLast (i = 0)
      rows := s.rows + 1 : Start }
  match candidates with
  | [] => none
  | s :: ss => some (ss.foldl (fun later earlier => cheaper earlier later) s)

/-- The number of rows for pieces, from the starts found so far, last first, `total` being the
columns of the pieces before. -/
def rowsFrom (limit total : Nat) (starts : List Start) : List Piece → Nat
  | [] => (starts.head?.map (·.rows)).getD 0
  | p :: ps =>
    let after := total + p.width + p.space
    match nextStart limit (total + p.width) after ps.isEmpty starts with
    | none => 0
    | some s => rowsFrom limit after (s :: starts) ps

/-- The number of rows that setting the pieces at the least cost takes. -/
def leastRows (limit : Nat) (ps : List Piece) : Nat :=
  max 1 (rowsFrom limit 0 [⟨0, 0, 0⟩] ps)

/-- The number of rows of a line: one if its bytes are fewer than the columns of a row. -/
def lineRows (limit : Nat) (line : List Char) : Nat :=
  if byteLength line < limit then 1 else leastRows limit (pieces limit line)

/-- The number of rows of a text. -/
def filledRows (limit : Nat) (cs : List Char) : Nat :=
  sumColumns ((splitOn '\n' cs).map (lineRows limit))

end GossipPanel.Text.Fill
