import GossipPanel.Panel.Conversations
import GossipPanel.Panel.Polling
import GossipPanel.Panel.Search

/-!
# State of the panel

What the panel knows of the node and of itself, apart from its screen. `update` is the only way to
change it.
-/

namespace GossipPanel.Panel

open Node

/-- What the body of the panel shows, and where text goes. -/
inductive View where
  | gossip
  | search
  | peer (name : String)
  deriving DecidableEq, Repr

def View.title : View → String
  | gossip => "Gossip"
  | search => "Search"
  | peer name => name

/-- The state of the panel. -/
structure App where
  /-- The last snapshot that was applied, replaced as a whole. -/
  snapshot : Snapshot := {}
  connection : Connection := .connecting
  polling : Polling := {}
  conversations : Conversations := {}
  search : Search := {}
  view : View := .gossip
  /-- A message is being sent. -/
  sending : Bool := false
  status : String := ""
  /-- Milliseconds between two ticks. -/
  pollInterval : UInt64 := 1000
  reconnect : ReconnectPolicy := .auto
  /-- Budget of searches that name none. -/
  defaultBudget : UInt32 := 0
  /-- Where downloaded files go. -/
  downloadDir : String := "_Downloads"
  deriving DecidableEq, Repr

namespace App

def hasPeer (app : App) (address : String) : Bool :=
  app.snapshot.peers.any (·.address == address)

/-- The views in the order of the tab strip. -/
def views (app : App) : List View :=
  .gossip :: .search :: app.conversations.tabs.map fun c => .peer c.peer

/-- The view after the active one, the first after the last. -/
def nextView (app : App) : View :=
  let views := app.views
  let current := if app.view ∈ views then views.idxOf app.view else 0
  views.getD ((current + 1) % views.length) .gossip

/-- The messages of the active view. -/
def visibleMessages (app : App) : List MessageRecord :=
  match app.view with
  | .gossip => app.snapshot.messages
  | .search => []
  | .peer name => ((app.conversations.get? name).map (·.messages)).getD []

end App

end GossipPanel.Panel
