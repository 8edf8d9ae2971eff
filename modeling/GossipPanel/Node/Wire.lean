import GossipPanel.Json.Number
import GossipPanel.Json.Printer
import GossipPanel.Json.Reader
import GossipPanel.Node.Record

/-!
# Records in JSON

* `arrange? names v` gives the fields of a record in declaration order: of an object the members
  with those names, of an array its items.
* `decodePeer?`, `decodeMessage?`, `decodeRoute?` read one record, `decodeList?` a list of them.
* `encodePeer`, … write a record with every field.
-/

namespace GossipPanel.Node.Wire

open Json

/-- The member `name` of an object: absent, or its only value. Fails when it is repeated. -/
def member? (name : String) (members : List (Literal × Value)) : Option (Option Value) :=
  match members.filter (·.1 == some name) with
  | [] => some none
  | [(_, v)] => some (some v)
  | _ => none

/-- The fields called `names` of a record, in this order. A record is an object, whose other
members are skipped, or an array of its first fields. -/
def arrange? (names : List String) : Value → Option (List (Option Value))
  | .object members =>
    if members.all (·.1.isSome) then names.mapM (member? · members) else none
  | .array items =>
    if items.length ≤ names.length then
      some (items.map some ++ List.replicate (names.length - items.length) none)
    else none
  | _ => none

def text? : Value → Option String
  | .string s => s
  | _ => none

def required? (field : Option Value) : Option String :=
  field.bind text?

/-- A text that is empty when it is missing. -/
def optional? : Option Value → Option String
  | none => some ""
  | some v => text? v

/-- An unsigned number of 32 bits that is zero when it is missing. -/
def sequence? : Option Value → Option UInt32
  | none => some 0
  | some (.number n) => (n.nat?.filter (· < UInt32.size)).map UInt32.ofNat
  | some _ => none

def kind? : Option Value → Option PeerKind
  | some (.number n) => n.nat?.bind PeerKind.ofNat?
  | _ => none

def peerFields : List String :=
  ["Address", "Type"]

def decodePeer? (v : Value) : Option PeerRecord := do
  match ← arrange? peerFields v with
  | [address, kind] => return { address := ← required? address, kind := ← kind? kind }
  | _ => none

def messageFields : List String :=
  ["FromNode", "FromAddress", "Content", "SeqID", "FirstSeen", "Hash"]

def decodeMessage? (v : Value) : Option MessageRecord := do
  match ← arrange? messageFields v with
  | [fromNode, fromAddress, content, seqId, firstSeen, hash] =>
    return {
      fromNode := ← required? fromNode
      fromAddress := ← optional? fromAddress
      content := ← required? content
      seqId := ← sequence? seqId
      firstSeen := ← optional? firstSeen
      hash := ← optional? hash }
  | _ => none

mutual

/-- Every literal is well formed and every number finite. -/
def isReadable : Value → Bool
  | .null | .bool _ => true
  | .number n => n.isFinite
  | .string s => s.isSome
  | .array items => areReadable items
  | .object members => membersReadable members

/-- All items are readable. -/
def areReadable : List Value → Bool
  | [] => true
  | v :: vs => isReadable v && areReadable vs

def membersReadable : List (Literal × Value) → Bool
  | [] => true
  | (k, v) :: ms => k.isSome && isReadable v && membersReadable ms

end

mutual

/-- The number of arrays and objects inside one another. -/
def depth : Value → Nat
  | .array items => depthOfItems items + 1
  | .object members => depthOfMembers members + 1
  | _ => 0

def depthOfItems : List Value → Nat
  | [] => 0
  | v :: vs => max (depth v) (depthOfItems vs)

def depthOfMembers : List (Literal × Value) → Nat
  | [] => 0
  | (_, v) :: ms => max (depth v) (depthOfMembers ms)

end

/-- The deepest nesting of a route that is read. -/
def maxRouteDepth : Nat :=
  126

def routeFields : List String :=
  ["Origin", "Address"]

/-- A route: an object, or the origin alone as a text. Unlike the other records it is read whole,
so its unknown members have to be readable too. -/
def decodeRoute? (v : Value) : Option RouteRecord :=
  if isReadable v && depth v ≤ maxRouteDepth then
    match v with
    | .string s => s.map fun origin => { origin }
    | .object _ =>
      match arrange? routeFields v with
      | some [origin, address] => do
        return { origin := ← required? origin, nextHop := ← optional? address }
      | _ => none
    | _ => none
  else none

/-- A list of records: all of them, or nothing. -/
def decodeList? {α : Type} (decode : Value → Option α) : Value → Option (List α)
  | .array items => items.mapM decode
  | _ => none

/-! ## Texts -/

/-- The identity that a JSON text holds. -/
def identityOf? (cs : List Char) : Option String :=
  (parse? cs).bind text?

/-- The peers that a JSON text lists. -/
def peersOf? (cs : List Char) : Option (List PeerRecord) :=
  (parse? cs).bind (decodeList? decodePeer?)

/-- The messages that a JSON text lists. -/
def messagesOf? (cs : List Char) : Option (List MessageRecord) :=
  (parse? cs).bind (decodeList? decodeMessage?)

/-- The routes that a JSON text lists. -/
def routesOf? (cs : List Char) : Option (List RouteRecord) :=
  (parse? cs).bind (decodeList? decodeRoute?)

/-! ## Writing -/

def ofText (s : String) : Value :=
  .string (some s)

/-- A natural number as a value. -/
def ofNat (n : Nat) : Value :=
  .number (.ofNat n)

/-- An object with the given members. -/
def ofMembers (members : List (String × Value)) : Value :=
  .object (members.map fun (k, v) => (some k, v))

/-- A peer with every field. -/
def encodePeer (p : PeerRecord) : Value :=
  ofMembers [("Address", ofText p.address), ("Type", ofNat p.kind.toNat)]

/-- A message with every field. -/
def encodeMessage (m : MessageRecord) : Value :=
  ofMembers [
    ("FromNode", ofText m.fromNode), ("FromAddress", ofText m.fromAddress),
    ("Content", ofText m.content), ("SeqID", ofNat m.seqId.toNat),
    ("FirstSeen", ofText m.firstSeen), ("Hash", ofText m.hash)]

/-- A route with every field. -/
def encodeRoute (r : RouteRecord) : Value :=
  ofMembers [("Origin", ofText r.origin), ("Address", ofText r.nextHop)]

def encodeList {α : Type} (encode : α → Value) (records : List α) : Value :=
  .array (records.map encode)

/-- The body that sends a private message. -/
def encodePrivate (m : PrivateMessage) : Value :=
  ofMembers [("Destination", ofText m.destination), ("Content", ofText m.content)]

/-- The body that starts a search. -/
def encodeQuery (q : SearchQuery) : Value :=
  ofMembers [("Keywords", ofText q.keywords), ("Budget", ofNat q.budget.toNat)]

end GossipPanel.Node.Wire
