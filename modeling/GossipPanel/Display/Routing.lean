import GossipPanel.Display.State
import GossipPanel.Panel.Action

/-!
# Where an event goes

Some events mean the same everywhere; every other one goes to the part of the screen that has the
focus. An event becomes at most one action. What is typed into a list goes to the input box, and
the focus with it.
-/

namespace GossipPanel.Display

open Panel

namespace State

/-- The scroll event that an event means to the messages above the input box. -/
def scrollOf? : Event → Option Event
  | .up | .scrollUp => some .scrollUp
  | .down | .scrollDown => some .scrollDown
  | .pageUp => some .pageUp
  | .pageDown => some .pageDown
  | _ => none

def inputEvent (d : State) (event : Event) : Option InputResult × State :=
  let (result, input) := d.input.handle event
  (result, { d with input })

/-- Types into the input box, which gets the focus. -/
def typeInto (d : State) (event : Event) : State :=
  ({ d with focus := .input }.inputEvent event).2

/-- A text that is typed or pasted; the letter `d` is a key of the lists. -/
def isTyping : Event → Bool
  | .char c => c != 'd'
  | .paste _ => true
  | _ => false

/-- An event while the input box has the focus. -/
def routeToInput (d : State) (app : App) (event : Event) : Option Action × State :=
  match scrollOf? event with
  | some scroll => (none, d.setMessageList app.view ((d.messageList app.view).handle scroll))
  | none =>
    match d.inputEvent event with
    | (some (.submit text), d) => (some (.submit text), d)
    | (_, d) => (none, d)

/-- An event while the peer list has the focus. -/
def routeToPeers (d : State) (app : App) (event : Event) : Option Action × State :=
  let (request, peers) := d.peers.handle event
  let action :=
    match request with
    | some (.delete i) => (peerRows app.snapshot.peers)[i]?.map fun row => .deletePeer row.address
    | _ => none
  (action, { d with peers })

/-- An event while the route list has the focus. -/
def routeToRoutes (d : State) (app : App) (event : Event) : Option Action × State :=
  let (request, routes) := d.routes.handle event
  let rows := routeRows app.snapshot.routes app.conversations.contains
  let action :=
    match request with
    | some (.activate i) => rows[i]?.map fun row => .selectPeer row.origin
    | some (.delete i) =>
      (rows[i]?.filter RouteRow.hasTab).map fun row => .closePeer row.origin
    | none => none
  (action, { d with routes })

/-- An event while the search results have the focus. -/
def routeToSearch (d : State) (app : App) (event : Event) : Option Action × State :=
  let (request, search) := d.search.handle event
  let action :=
    match request with
    | some (.activate i) =>
      ((app.search.session.bind (·.entries[i]?)).bind Entry.request?).map .downloadMatch
    | _ => none
  (action, { d with search })

/-- The search results keep the focus only while they are shown. -/
def settleFocus (d : State) (view : View) : State :=
  if d.focus = .search ∧ view ≠ .search then { d with focus := .input } else d

/-- An event for the part of the screen that has the focus. -/
def routeToFocus (d : State) (app : App) (event : Event) : Option Action × State :=
  let d := d.settleFocus app.view
  if d.focus ≠ .input && isTyping event then (none, d.typeInto event)
  else
    match d.focus with
    | .input => d.routeToInput app event
    | .peers => d.routeToPeers app event
    | .routes => d.routeToRoutes app event
    | .search => d.routeToSearch app event

/-- What an event does to the display, and the action it becomes. -/
def route (d : State) (app : App) (event : Event) : Option Action × State :=
  match event with
  | .resize => (none, d)
  | .forceQuit => (some .quit, d)
  | .refresh => (some .refresh, d)
  | .nextView => (some .nextView, d)
  | .closeTab => (some .closeActiveTab, d)
  | .focusNext => (none, { d with focus := d.focus.next app.view })
  | .focusPrev => (none, { d with focus := d.focus.previous app.view })
  | .escape => (none, { d with focus := .input })
  | _ => d.routeToFocus app event

/-! ## The search results have the focus in their view only -/

theorem view_of_focus_settleFocus {d : State} {view : View}
    (h : (d.settleFocus view).focus = .search) : view = .search := by
  unfold settleFocus at h
  split at h
  · simp at h
  · rename_i hn
    refine Classical.byContradiction fun hv => ?_
    exact hn ⟨h, hv⟩

theorem settleFocus_of_ne {d : State} (h : d.focus ≠ .search) (view : View) :
    d.settleFocus view = d := by
  simp [settleFocus, h]

theorem routeToFocus_of_input {d : State} (app : App) (h : d.focus = .input) (event : Event) :
    d.routeToFocus app event = d.routeToInput app event := by
  have hne : d.focus ≠ .search := by
    rw [h]
    decide
  simp [routeToFocus, settleFocus_of_ne hne, h]

end State

end GossipPanel.Display
