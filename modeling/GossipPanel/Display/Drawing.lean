import GossipPanel.Display.State
import GossipPanel.Display.TabBar
import GossipPanel.Display.TitleBar

/-!
# The whole screen

Title bar, tab strip, body and input box from top to bottom. The body shows the active view beside
the peers and the routes, or, while the node does not answer, nothing but the reason.
-/

namespace GossipPanel.Display

open Panel Screen

/-- A screen as it is drawn. -/
structure Scene where
  picture : Picture
  /-- The column and the row of the cursor, when it is shown. -/
  cursor : Option (Nat × Nat)
  deriving DecidableEq, Repr

/-- Columns of the peers and the routes. -/
def sidebarWidth : Nat := 34

/-- Rows of the input box. -/
def inputHeight : Nat := 3

/-- Rows of the peers, two fifths of the body rounded to the nearest. -/
def peersHeight (body : Nat) : Nat :=
  (4 * body + 5) / 10

/-- What the user can do about a node that does not answer. -/
def reconnectHint : ReconnectPolicy → String
  | .auto => "Retrying on the next tick. Ctrl+R retries now."
  | .manual => "Press Ctrl+R to reconnect."

/-- The lines shown while the node does not answer. -/
def errorLines (reason : String) (policy : ReconnectPolicy) : List (List Span) :=
  [[⟨"Cannot reach the node", { color := some .red, bold := true }⟩],
    [],
    lineSpans {} reason,
    [],
    [⟨reconnectHint policy, .colored .darkGray⟩]]

/-- Draws the body while the node does not answer. -/
def drawError (reason : String) (policy : ReconnectPolicy) (width height : Nat) : Picture :=
  let frame : Frame := { border := squareBorder, title := [⟨"ERROR", {}⟩] }
  Picture.overlay 1 1 (frame.around width height [])
    (centredLines (errorLines reason policy) (width - 2) (height - 2))

/-- What is shown in place of messages. -/
def remark (app : App) : String :=
  match app.view with
  | .peer name =>
    if (app.conversations.get? name).any fun c => !c.loaded then "Loading conversation…"
    else "No private messages yet"
  | _ => "No messages yet"

namespace State

/-- Draws the messages of the active view. -/
def drawMessages (d : State) (app : App) (width height : Nat) : State × Picture :=
  let frame : Frame := { style := .colored .darkGray, title := lineSpans {} app.view.title }
  let rows := messageRows app.visibleMessages app.snapshot.identity
  let (list, picture) := (d.messageList app.view).draw rows (remark app) (width - 2) (height - 2)
  (d.setMessageList app.view list, frame.around width height picture)

def drawView (d : State) (app : App) (width height : Nat) : State × Picture :=
  match app.view with
  | .search =>
    let (search, picture) :=
      d.search.drawSearch app.search.session (d.focus = .search) width height
    ({ d with search }, picture)
  | _ => d.drawMessages app width height

/-- Draws the peers above the routes. -/
def drawSidebar (d : State) (app : App) (width height : Nat) : State × Picture :=
  let top := peersHeight height
  let (peers, above) :=
    d.peers.drawPeers (peerRows app.snapshot.peers) (d.focus = .peers) width top
  let (routes, below) :=
    d.routes.drawRoutes (routeRows app.snapshot.routes app.conversations.contains)
      (d.focus = .routes) width (height - top)
  ({ d with peers, routes }, above ++ below)

/-- Draws the body while the node answers. -/
def drawPanel (d : State) (app : App) (width height : Nat) : State × Picture :=
  let side := min sidebarWidth width
  let (d, main) := d.drawView app (width - side) height
  let (d, sidebar) := d.drawSidebar app side height
  (d, beside main sidebar)

def drawBody (d : State) (app : App) (width height : Nat) : State × Picture :=
  match app.connection with
  | .disconnected reason => (d, drawError reason app.reconnect width height)
  | _ => d.drawPanel app width height

/-- The title bar over a display. -/
def titleBar (d : State) (app : App) (url : String) : TitleBar :=
  { identity := app.snapshot.identity
    url
    connection := app.connection
    status := app.status
    unseen := d.hasUnseen app.view }

/-- Draws the whole screen for the node at `url`. What the display remembers of the drawing is
part of the result. -/
def draw (d : State) (app : App) (url : String) (width height : Nat) : State × Scene :=
  let top := min height 2
  let bottom := min inputHeight (height - 2)
  let body := height - 2 - bottom
  let (d, middle) := (d.forgetClosed app).drawBody app width body
  let (input, box, cursor) :=
    d.input.draw (InputBox.titleFor app.view app.sending) (d.focus = .input) width bottom
  ({ d with input },
    { picture :=
        fitRows (blank .plain) width height
          ([(d.titleBar app url).draw width, TabBar.draw app width] ++ middle ++ box)
      cursor := cursor.map fun (x, y) => (x, y + body + top) })

end State

end GossipPanel.Display
