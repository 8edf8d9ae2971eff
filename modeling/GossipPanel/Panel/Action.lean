import GossipPanel.Panel.State

/-!
# Actions, commands and effects

An action is anything that can happen to the panel. An effect is work that the panel asks for; its
outcome comes back as an action with the token that the work was given.
-/

namespace GossipPanel.Panel

open Node

/-- A request that changes the node or shares files. -/
inductive Command where
  | broadcast (content : String)
  | sendPrivate (message : PrivateMessage)
  /-- The node toggles; `adding` says which way it is expected to go. -/
  | togglePeer (address : String) (adding : Bool)
  | rename (name : String)
  | download (request : DownloadRequest) (dir : String)
  | upload (path : String)
  deriving DecidableEq, Repr

namespace Command

/-- What a command is called when it fails. -/
def label : Command → String
  | broadcast _ => "Broadcast"
  | sendPrivate m => s!"Message to {m.destination}"
  | togglePeer address true => s!"Adding peer {address}"
  | togglePeer address false => s!"Removing peer {address}"
  | rename name => s!"Rename to {name}"
  | download request _ => s!"Download of {request.name}"
  | upload path => s!"Upload of {path}"

def isMessage : Command → Bool
  | broadcast _ | sendPrivate _ => true
  | _ => false

/-- What is shown when a command has succeeded; `detail` is the saved path or the node's remark. -/
def successText (detail : String) : Command → String
  | broadcast _ => "Message sent"
  | sendPrivate m => s!"Message sent to {m.destination}"
  | togglePeer address true => s!"Added peer {address}"
  | togglePeer address false => s!"Removed peer {address}"
  | rename name => s!"Renamed to {name}"
  | download request _ => s!"Saved {request.name} to {detail}"
  | upload path => if detail = "" then s!"Shared {path}" else s!"Shared {path}: {detail}"

end Command

/-- Anything that can happen to the panel. A failed outcome carries its reason. -/
inductive Action where
  /-- The first action: starts the polling chain. -/
  | start
  | timerFired (timer : UInt64)
  /-- A refresh asked for by the user. -/
  | refresh
  | snapshotLoaded (generation : UInt64) (result : Except String Snapshot)
  | privateMessagesLoaded (peer : String) (ticket : Ticket)
      (result : Except String (List MessageRecord))
  | selectPeer (peer : String)
  | closePeer (peer : String)
  | closeActiveTab
  | showView (view : View)
  | nextView
  /-- A line from the input box. -/
  | submit (line : String)
  | addPeer (address : String)
  | deletePeer (address : String)
  | rename (name : String)
  | startSearch (keywords : String) (budget : UInt32)
  | searchChunk (session : UInt64) (chunk : String)
  | searchFinished (session : UInt64) (result : Except String Unit)
  | downloadMatch (request : DownloadRequest)
  | upload (path : String)
  | commandFinished (command : Command) (result : Except String String)
  | quit

/-- Work that the panel asks for. -/
inductive Effect where
  | fetchSnapshot (generation : UInt64)
  /-- Fires a timer after so many milliseconds. -/
  | scheduleTick (timer delay : UInt64)
  | refreshTab (peer : String) (ticket : Ticket)
  | startSearch (session : UInt64) (query : SearchQuery)
  | run (command : Command)
  /-- Shows the newest message again. -/
  | pinToBottom
  | quit
  deriving DecidableEq, Repr

end GossipPanel.Panel
