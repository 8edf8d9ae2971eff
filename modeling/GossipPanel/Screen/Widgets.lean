import GossipPanel.Screen.Line

/-!
# Lists, tab strips and scroll bars

* `listOffset` decides which item of a list is the first one shown; `listRows` draws the items.
* `tabStrip` draws labels with dividers.
* `scrollBar` draws the place of a window in something longer.
-/

namespace GossipPanel.Screen

open Text

/-- The first item shown: the old one, moved as little as needed for the selected item to be among
the `rows` shown. An offset past the end is first lowered to the last item. -/
def listOffset (selected : Option Nat) (offset rows count : Nat) : Nat :=
  let offset := min offset (count - 1)
  match selected with
  | none => offset
  | some i => if i < offset then i else if offset + rows ≤ i then i + 1 - rows else offset

/-- The first item shown is found again: the selected one is among those shown from it on. -/
theorem listOffset_listOffset (selected : Option Nat) (offset : Nat) {rows count : Nat}
    (hrows : 0 < rows) (hselected : ∀ i, selected = some i → i < count) :
    listOffset selected (listOffset selected offset rows count) rows count =
      listOffset selected offset rows count := by
  cases selected with
  | none => simp [listOffset]
  | some i =>
    have hi := hselected i rfl
    simp only [listOffset]
    grind

/-- The items of a list from the offset on, the selected one highlighted over the whole width. -/
def listRows (items : List (List Span)) (selected : Option Nat) (offset : Nat) (highlight : Style)
    (width height : Nat) : Picture :=
  let rows := items.mapIdx fun i spans =>
    let row := paintSpans (List.replicate width (blank .plain)) spans
    if selected = some i then restyle highlight row else row
  fitRows (blank .plain) width height (rows.drop offset)

/-- A row whose front part has been labelled: that part, and the rest. -/
structure Labelled where
  front : Row := []
  rest : Row

namespace Labelled

/-- Writes clusters up to the first that does not fit. Those without a width are left out. -/
def putAll (l : Labelled) : List (List Char) → Labelled
  | [] => l
  | cluster :: more =>
    match clusterWidth cluster, l.rest with
    | 0, _ => putAll l more
    | w + 1, c :: rest =>
      if rest.length < w then l
      else
        putAll
          { front :=
              l.front ++ c.write (String.ofList cluster) {} :: List.replicate w (blank .plain)
            rest := rest.drop w }
          more
    | _, [] => l

/-- Writes a text; what stands on different lines of it is joined. -/
def put (l : Labelled) (text : String) : Labelled :=
  (lineSpans {} text).foldl (fun l s => l.putAll (drawable s.text.toList)) l

/-- Writes a text and puts a style over it. -/
def putStyled (l : Labelled) (style : Style) (text : String) : Labelled :=
  let written := { l with front := [] }.put text
  { written with front := l.front ++ restyle style written.front }

def row (l : Labelled) : Row :=
  l.front ++ l.rest

end Labelled

/-- Labels with a space on both sides and a divider between them, the selected one highlighted. -/
def tabStrip (base highlight : Style) (labels : List String) (selected width : Nat) : Row :=
  let pieces := labels.mapIdx fun i text =>
    (if i = 0 then [] else [(false, "│")]) ++ [(false, " "), (i == selected, text), (false, " ")]
  let ground : Labelled := { rest := List.replicate width (blank base) }
  (pieces.flatten.foldl
    (fun l (chosen, text) => if chosen then l.putStyled highlight text else l.put text) ground).row

/-- The symbols of a scroll bar for a window of `height` rows that starts at row `offset`, where
`maxOffset` is the last row that it can start at. Too low a bar shows nothing. -/
def scrollBar (offset maxOffset height : Nat) : List Cell :=
  let track := height - 2
  if track = 0 then List.replicate height (blank .plain)
  else
    let span := maxOffset + height
    let length := min track (max 1 ((height * track + span / 2) / span))
    let start := min ((offset * track + span / 2) / span) (track - length)
    let symbols :=
      ["▲"] ++ List.replicate start "║" ++ List.replicate length "█" ++
        List.replicate (track - start - length) "║" ++ ["▼"]
    symbols.map fun s => ⟨s, .plain⟩

@[simp]
theorem length_scrollBar (offset maxOffset height : Nat) :
    (scrollBar offset maxOffset height).length = height := by
  simp only [scrollBar]
  split
  · simp
  · simp only [List.length_map, List.length_append, List.length_replicate, List.length_cons,
      List.length_nil]
    omega

end GossipPanel.Screen
