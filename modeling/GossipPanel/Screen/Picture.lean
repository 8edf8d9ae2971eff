import GossipPanel.Screen.Style

/-!
# Pictures

A picture is a list of rows, a row a list of cells. Pictures of parts of a screen are put beside
and above one another.

* `fit` cuts or extends a row to a width; `fitRows` does so with the rows of a picture.
* `beside` and `++` join pictures.
* An `Overlay` is written over cells that are there already; `Picture.overlay` writes one on each
  of several rows.
-/

namespace GossipPanel.Screen

structure Cell where
  symbol : String := " "
  style : Style := {}
  deriving DecidableEq, Repr

abbrev Row := List Cell

/-- Rows from top to bottom. -/
abbrev Picture := List Row

def blank (style : Style) : Cell := ⟨" ", style⟩

/-- A style put over a cell. -/
def Cell.restyle (style : Style) (c : Cell) : Cell :=
  { c with style := style.onto c.style }

/-- A symbol in a style written over a cell. -/
def Cell.write (symbol : String) (style : Style) (c : Cell) : Cell :=
  ⟨symbol, style.onto c.style⟩

/-- A symbol in a style written behind the one of a cell. -/
def Cell.append (symbol : String) (style : Style) (c : Cell) : Cell :=
  ⟨c.symbol ++ symbol, style.onto c.style⟩

/-- A picture without anything on it. -/
def blankPicture (ground : Cell) (width height : Nat) : Picture :=
  List.replicate height (List.replicate width ground)

/-- A row cut, or extended with the cell `ground`, to a width. -/
def fit (ground : Cell) (width : Nat) (row : Row) : Row :=
  row.take width ++ List.replicate (width - row.length) ground

/-- A picture cut, or extended with rows of the cell `ground`, to a height. -/
def fitRows (ground : Cell) (width height : Nat) (p : Picture) : Picture :=
  p.take height ++ blankPicture ground width (height - p.length)

/-- Two pictures of one height side by side. -/
def beside (left right : Picture) : Picture :=
  List.zipWith (· ++ ·) left right

/-- A style put over all cells of a row. -/
def restyle (style : Style) (row : Row) : Row :=
  row.map (Cell.restyle style)

/-- What is written on a row from a column on: a cell, or nothing. -/
abbrev Overlay := List (Option Cell)

/-- A row with an overlay on its first cells, as far as it reaches. -/
def Row.overlay : Row → Overlay → Row
  | [], _ => []
  | row, [] => row
  | c :: row, none :: marks => c :: overlay row marks
  | c :: row, some mark :: marks => c.write mark.symbol mark.style :: overlay row marks

/-- A picture with overlays on its first rows, each from column `x` on. -/
def Picture.overlayRows (x : Nat) : Picture → List Overlay → Picture
  | [], _ => []
  | p, [] => p
  | row :: p, marks :: rest => (row.take x ++ Row.overlay (row.drop x) marks) :: overlayRows x p rest

/-- A picture with overlays on its rows from row `y` on, each from column `x` on. -/
def Picture.overlay (x y : Nat) (p : Picture) (marks : List Overlay) : Picture :=
  p.take y ++ overlayRows x (p.drop y) marks

/-! ## Sizes -/

@[simp]
theorem length_blankPicture (ground : Cell) (width height : Nat) :
    (blankPicture ground width height).length = height := by
  simp [blankPicture]

@[simp]
theorem length_fit (ground : Cell) (width : Nat) (row : Row) :
    (fit ground width row).length = width := by
  simp [fit]
  omega

@[simp]
theorem length_fitRows (ground : Cell) (width height : Nat) (p : Picture) :
    (fitRows ground width height p).length = height := by
  simp [fitRows]
  omega

@[simp]
theorem length_restyle (style : Style) (row : Row) : (restyle style row).length = row.length := by
  simp [restyle]

@[simp]
theorem Row.length_overlay (row : Row) (marks : Overlay) :
    (Row.overlay row marks).length = row.length := by
  induction row generalizing marks with
  | nil => rfl
  | cons c row ih =>
    match marks with
    | [] => rfl
    | none :: marks => simp [overlay, ih]
    | some mark :: marks => simp [overlay, ih]

@[simp]
theorem Picture.length_overlayRows (x : Nat) (p : Picture) (marks : List Overlay) :
    (overlayRows x p marks).length = p.length := by
  induction p generalizing marks with
  | nil => rfl
  | cons row p ih =>
    match marks with
    | [] => rfl
    | m :: marks => simp [overlayRows, ih]

@[simp]
theorem Picture.length_overlay (x y : Nat) (p : Picture) (marks : List Overlay) :
    (overlay x y p marks).length = p.length := by
  simp [overlay]
  omega

/-- Every row has this width. -/
def Picture.HasWidth (p : Picture) (width : Nat) : Prop :=
  ∀ row ∈ p, row.length = width

theorem Picture.HasWidth.overlayRows {p : Picture} {width : Nat} (h : p.HasWidth width) (x : Nat)
    (marks : List Overlay) : (overlayRows x p marks).HasWidth width := by
  induction p generalizing marks with
  | nil => exact h
  | cons row p ih =>
    obtain ⟨hrow, hrest⟩ := List.forall_mem_cons.1 h
    match marks with
    | [] => exact h
    | m :: marks =>
      refine List.forall_mem_cons.2 ⟨?_, ih hrest marks⟩
      simp only [List.length_append, List.length_take, Row.length_overlay, List.length_drop]
      omega

theorem Picture.HasWidth.overlay {p : Picture} {width : Nat} (h : p.HasWidth width) (x y : Nat)
    (marks : List Overlay) : (overlay x y p marks).HasWidth width := by
  refine List.forall_mem_append.2 ⟨fun row hrow => h row (List.mem_of_mem_take hrow), ?_⟩
  exact HasWidth.overlayRows (fun row hrow => h row (List.mem_of_mem_drop hrow)) x marks

theorem Picture.HasWidth.fitRows {p : Picture} {width : Nat} (h : p.HasWidth width) (ground : Cell)
    (height : Nat) : (fitRows ground width height p).HasWidth width := by
  refine List.forall_mem_append.2 ⟨fun row hrow => h row (List.mem_of_mem_take hrow), ?_⟩
  intro row hrow
  simp [List.eq_of_mem_replicate hrow]

theorem map_take_beside {left : Picture} {width : Nat} (hwidth : left.HasWidth width)
    {right : Picture} (hlength : left.length = right.length) :
    (beside left right).map (List.take width) = left := by
  induction left generalizing right with
  | nil => rfl
  | cons row left ih =>
    obtain ⟨hrow, hleft⟩ := List.forall_mem_cons.1 hwidth
    cases right with
    | nil => exact absurd hlength (by simp)
    | cons other right =>
      have hrest := ih hleft (by simpa using hlength)
      rw [beside] at hrest ⊢
      rw [List.zipWith_cons_cons, List.map_cons, hrest, ← hrow, List.take_left]

theorem getElem?_fitRows (ground : Cell) (width : Nat) {height : Nat} (p : Picture) {y : Nat}
    (hy : y < height) :
    (fitRows ground width height p)[y]? = some (p[y]?.getD (List.replicate width ground)) := by
  rcases Nat.lt_or_ge y p.length with hlt | hge
  · have hlength : y < (p.take height).length := by
      rw [List.length_take]
      omega
    rw [fitRows, List.getElem?_append_left hlength, List.getElem?_take_of_lt hy,
      List.getElem?_eq_getElem hlt, Option.getD_some]
  · have hlength : (p.take height).length = p.length := by
      rw [List.length_take]
      omega
    have hroom : y - p.length < height - p.length := by omega
    rw [fitRows, List.getElem?_append_right (hlength ▸ hge), hlength, blankPicture,
      List.getElem?_replicate_of_lt hroom, List.getElem?_eq_none hge, Option.getD_none]

end GossipPanel.Screen
