import GossipPanel.Display.Event
import GossipPanel.Panel.Feed
import GossipPanel.Panel.Search
import GossipPanel.Screen.Frame
import GossipPanel.Screen.Paragraph
import GossipPanel.Screen.Widgets

/-!
# List panes

The peer list, the route list and the search results. Their rows are made anew for every drawing;
a pane remembers a selected row, the first row shown, and how many rows it saw last.
-/

namespace GossipPanel.Display

open Panel Screen

structure ListPane where
  /-- The selected row. -/
  cursor : Option Nat := none
  /-- The first row shown. -/
  offset : Nat := 0
  /-- Number of rows seen last. -/
  count : Nat := 0
  deriving DecidableEq, Repr

/-- What an event asks of a list. -/
inductive ListRequest where
  | activate (row : Nat)
  | delete (row : Nat)
  deriving DecidableEq, Repr

namespace ListPane

/-- Selects a row, or none; a list without selection is shown from its start. -/
def select (p : ListPane) (cursor : Option Nat) : ListPane :=
  { p with cursor, offset := if cursor.isNone then 0 else p.offset }

/-- Learns the number of rows and keeps the cursor on one of them. -/
def sync (p : ListPane) (count : Nat) : ListPane :=
  let p := { p with count }
  if count = 0 then p.select none
  else
    match p.cursor with
    | none => p.select (some 0)
    | some i => if count ≤ i then p.select (some (count - 1)) else p

/-- The selected row, if it exists. -/
def selected (p : ListPane) : Option Nat :=
  p.cursor.filter (· < p.count)

/-- Moves the cursor of a list that has rows. -/
def moveTo (p : ListPane) (target : Nat → Nat) : ListPane :=
  if p.count = 0 then p else p.select (some (min (target (p.cursor.getD 0)) (p.count - 1)))

def handle (p : ListPane) (event : Event) : Option ListRequest × ListPane :=
  match event with
  | .up | .scrollUp => (none, p.moveTo (· - 1))
  | .down | .scrollDown => (none, p.moveTo (· + 1))
  | .home => (none, p.moveTo fun _ => 0)
  | .end => (none, p.moveTo fun _ => p.count)
  | .submit => (p.selected.map .activate, p)
  | .delete | .char 'd' => (p.selected.map .delete, p)
  | _ => (none, p)

def frame (title : String) (focused : Bool) : Frame :=
  { style := .colored (if focused then .cyan else .darkGray), title := lineSpans {} title }

/-- The style of the selected row; it shows in the focused pane only. -/
def highlight (focused : Bool) : Style :=
  { reversed := focused }

/-- Draws items in a frame. A frame with no room inside leaves the list as it is. -/
def drawItems (p : ListPane) (title : String) (items : List (List Span)) (focused : Bool)
    (width height : Nat) : ListPane × Picture :=
  let f := frame title focused
  if width ≤ 2 ∨ height ≤ 2 then (p, f.around width height [])
  else if items.isEmpty then (p.select none, f.around width height [])
  else
    let cursor := p.cursor.map (min · (items.length - 1))
    let offset := listOffset cursor p.offset (height - 2) items.length
    ({ p with cursor, offset },
      f.around width height
        (listRows items cursor offset (highlight focused) (width - 2) (height - 2)))

def drawRemark (title text : String) (focused : Bool) (width height : Nat) : Picture :=
  (frame title focused).around width height
    (paragraph (.colored .darkGray) text (width - 2) (height - 2))

/-- The item of a peer: its address and its kind. -/
def peerItem (row : PeerRow) : List Span :=
  [⟨row.address, {}⟩, ⟨" " ++ row.kind.label, .colored .darkGray⟩]

def drawPeers (p : ListPane) (rows : List PeerRow) (focused : Bool) (width height : Nat) :
    ListPane × Picture :=
  (p.sync rows.length).drawItems s!"Peers ({rows.length})" (rows.map peerItem) focused width height

/-- The item of a route: a mark for an open conversation, the origin, the next hop. -/
def routeItem (row : RouteRow) : List Span :=
  [⟨if row.hasTab then "• " else "  ", .colored .cyan⟩, ⟨row.origin, { bold := true }⟩] ++
    if row.via = "" then [] else [⟨s!" ({row.via})", .colored .darkGray⟩]

def drawRoutes (p : ListPane) (rows : List RouteRow) (focused : Bool) (width height : Nat) :
    ListPane × Picture :=
  (p.sync rows.length).drawItems s!"Routes ({rows.length})" (rows.map routeItem) focused width
    height

def entryItem : Entry → List Span
  | .info text => [⟨text, .colored .darkGray⟩]
  | .downloadable name hash =>
    [⟨"⇩ ", .colored .green⟩, ⟨name, { bold := true }⟩, ⟨" " ++ hash, .colored .darkGray⟩]

/-- What is shown before the first search. -/
def searchHint : String :=
  "Type keywords (comma separated) and press Enter, or /search <keywords> [budget]."

/-- What is shown before the first result. -/
def searchStarted : String :=
  "Search started..."

def drawSearch (p : ListPane) (session : Option Session) (focused : Bool) (width height : Nat) :
    ListPane × Picture :=
  match session with
  | none => (p.sync 0, drawRemark "Search" searchHint focused width height)
  | some s =>
    let p := p.sync s.entries.length
    if s.entries.isEmpty && s.isRunning then
      (p, drawRemark s.title searchStarted focused width height)
    else p.drawItems s.title (s.entries.map entryItem) focused width height

end ListPane

end GossipPanel.Display
