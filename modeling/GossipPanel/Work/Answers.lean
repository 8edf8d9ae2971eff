import GossipPanel.Node.Client

/-!
# What a node answers

`Answers` holds the outcome of every call that the panel makes to its node. A snapshot is four
calls in a fixed order; the first that fails ends it.
-/

namespace GossipPanel.Work

open Node

inductive Call where
  | identity
  | peers
  | messages
  | routes
  | privateMessages (peer : String)
  | broadcast (content : String)
  | sendPrivate (message : PrivateMessage)
  | togglePeer (address : String)
  | rename (name : String)
  | search (query : SearchQuery)
  | download (request : DownloadRequest)
  | upload (name contents : String)
  deriving DecidableEq, Repr

/-- The text of a search as it arrives, and how the stream ends; `none` when it never does. -/
structure Stream where
  texts : List String := []
  ending : Option (Except Failure Unit) := some (.ok ())

/-- The stream of an answer that arrives in chunks of bytes. -/
def Stream.ofChunks (chunks : List (List UInt8)) (ending : Except Failure Unit) : Stream :=
  { texts := Client.streamTexts chunks ending.isOk, ending := some ending }

/-- The outcome of every call to a node. -/
structure Answers where
  identity : Except Failure String := .ok ""
  peers : Except Failure (List PeerRecord) := .ok []
  messages : Except Failure (List MessageRecord) := .ok []
  routes : Except Failure (List RouteRecord) := .ok []
  privateMessages : String → Except Failure (List MessageRecord) := fun _ => .ok []
  broadcast : Except Failure Unit := .ok ()
  sendPrivate : Except Failure Unit := .ok ()
  togglePeer : Except Failure Unit := .ok ()
  rename : Except Failure Unit := .ok ()
  search : Stream := {}
  /-- The text of a file. -/
  download : Except Failure String := .ok ""
  /-- The node's remark on a shared file. -/
  upload : Except Failure String := .ok ""

namespace Answers

/-- The calls of a snapshot and their joint outcome. -/
def snapshot (node : Answers) : List Call × Except Failure Snapshot :=
  match node.identity with
  | .error e => ([.identity], .error e)
  | .ok identity =>
    match node.peers with
    | .error e => ([.identity, .peers], .error e)
    | .ok peers =>
      match node.messages with
      | .error e => ([.identity, .peers, .messages], .error e)
      | .ok messages =>
        ([.identity, .peers, .messages, .routes],
          node.routes.map fun routes => ⟨identity, peers, messages, routes⟩)

end Answers

end GossipPanel.Work
