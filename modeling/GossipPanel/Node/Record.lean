import GossipPanel.Text.Numeral

/-!
# What a gossip node reports and accepts

Records of peers, messages and routes, the snapshot made of them, and the bodies of requests.
-/

namespace GossipPanel.Node

/-- How the node learned about a peer. -/
inductive PeerKind where
  | manual | learned | shortCircuited
  deriving DecidableEq, Repr

namespace PeerKind

/-- The word shown for a kind. -/
def label : PeerKind → String
  | manual => "manual"
  | learned => "learned"
  | shortCircuited => "short-circuited"

/-- The number of a kind on the wire. -/
def toNat : PeerKind → Nat
  | manual => 0
  | learned => 1
  | shortCircuited => 2

/-- The kind with a number on the wire. -/
def ofNat? : Nat → Option PeerKind
  | 0 => some manual
  | 1 => some learned
  | 2 => some shortCircuited
  | _ => none

/-- The complaint about a number that is no kind. -/
def unknownMessage (n : Nat) : String :=
  s!"unknown peer type {n}"

theorem ofNat?_eq_some_iff {n : Nat} {k : PeerKind} : ofNat? n = some k ↔ n = k.toNat := by
  constructor
  · intro h
    unfold ofNat? at h
    split at h <;> cases h <;> rfl
  · rintro rfl
    cases k <;> rfl

end PeerKind

/-- A direct neighbour of the node. -/
structure PeerRecord where
  address : String
  kind : PeerKind
  deriving DecidableEq, Repr

/-- A message of the public feed or of a private conversation. -/
structure MessageRecord where
  fromNode : String
  fromAddress : String := ""
  content : String
  seqId : UInt32 := 0
  firstSeen : String := ""
  hash : String := ""
  deriving DecidableEq, Repr

/-- A known origin and the neighbour that routes to it. -/
structure RouteRecord where
  origin : String
  /-- Empty when the node reports origins only. -/
  nextHop : String := ""
  deriving DecidableEq, Repr

/-- The joint result of one synchronisation tick. -/
structure Snapshot where
  identity : String := ""
  peers : List PeerRecord := []
  messages : List MessageRecord := []
  routes : List RouteRecord := []
  deriving DecidableEq, Repr

structure PrivateMessage where
  destination : String
  content : String
  deriving DecidableEq, Repr

/-- A search to be started. A budget of zero lets the node grow it. -/
structure SearchQuery where
  keywords : String
  budget : UInt32
  deriving DecidableEq, Repr

/-- A file to be fetched. An empty peer means any peer that has it. -/
structure DownloadRequest where
  name : String
  hash : String
  peer : String := ""
  deriving DecidableEq, Repr

def DownloadRequest.text (r : DownloadRequest) : String :=
  if r.peer = "" then s!"{r.name} ({r.hash})" else s!"{r.name} ({r.hash}) from {r.peer}"

end GossipPanel.Node
