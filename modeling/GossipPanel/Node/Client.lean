import GossipPanel.Node.Failure
import GossipPanel.Node.Request
import GossipPanel.Text.Blank

/-!
# Talking to the node

An `Exchange` is what happens on the wire: the requests that reach the host, and the result that
the client makes of the answers. A status of 2xx is a success; every other one is a failure with
the trimmed text of the body. The text of a search arrives in chunks and is decoded as it comes.
-/

namespace GossipPanel.Node

open Text Wire

/-- An HTTP answer; the body arrives in chunks. -/
structure Reply where
  status : Nat
  chunks : List (List UInt8)
  deriving DecidableEq, Repr

def Reply.body (r : Reply) : List UInt8 :=
  r.chunks.flatten

/-- What a host does with a request. -/
inductive Treatment where
  | answers (reply : Reply)
  | hangs
  deriving DecidableEq, Repr

/-- The place where a node is expected. -/
inductive Host where
  /-- No connection can be made. -/
  | unreachable
  /-- A server takes every request. -/
  | serving (treat : Request → Treatment)

/-- The requests that reached the host, in order, and the result. -/
structure Exchange (α : Type) where
  requests : List Request
  result : Except Failure α

/-- The base URL of a client: slashes at the end do not count. -/
def baseUrl (url : String) : String :=
  String.ofList (url.toList.reverse.dropWhile (· = '/')).reverse

def isSuccess (status : Nat) : Bool :=
  200 ≤ status && status < 300

/-- The answer, if its status reports success. -/
def Reply.checked (r : Reply) : Except Failure Reply :=
  if isSuccess r.status then .ok r
  else .error (.status r.status (trimmed (Utf8.decodeLossy r.body)))

def Host.send {α : Type} (host : Host) (request : Request) (read : Reply → Except Failure α) :
    Exchange α :=
  match host with
  | .unreachable => ⟨[], .error (.network "no connection")⟩
  | .serving treat =>
    match treat request with
    | .hangs => ⟨[request], .error (.timeout "no answer")⟩
    | .answers reply => ⟨[request], reply.checked.bind read⟩

/-- The value of a JSON body. -/
def readJson {α : Type} (decode : List Char → Option α) (reply : Reply) : Except Failure α :=
  match (Utf8.decode? reply.body).bind fun s => decode s.toList with
  | some a => .ok a
  | none => .error (.malformed "unexpected JSON")

/-- The body does not matter. -/
def readNothing (_ : Reply) : Except Failure Unit :=
  .ok ()

namespace Client

/-- The node's name. -/
def identity (host : Host) : Exchange String :=
  host.send .identity (readJson identityOf?)

def peers (host : Host) : Exchange (List PeerRecord) :=
  host.send .peers (readJson peersOf?)

/-- The public feed. -/
def messages (host : Host) : Exchange (List MessageRecord) :=
  host.send .messages (readJson messagesOf?)

/-- The known origins. -/
def routes (host : Host) : Exchange (List RouteRecord) :=
  host.send .routes (readJson routesOf?)

def privateMessages (host : Host) (peer : String) : Exchange (List MessageRecord) :=
  host.send (.privateMessages peer) (readJson messagesOf?)

/-- All four parts of a snapshot; the first failure fails the whole. -/
def snapshot (host : Host) : Exchange Snapshot :=
  let i := identity host
  let p := peers host
  let m := messages host
  let r := routes host
  { requests := i.requests ++ p.requests ++ m.requests ++ r.requests
    result := do
      return {
        identity := ← i.result
        peers := ← p.result
        messages := ← m.result
        routes := ← r.result } }

/-- Sends a message to everyone. -/
def broadcast (host : Host) (content : String) : Exchange Unit :=
  host.send (.broadcast content) readNothing

def sendPrivate (host : Host) (m : PrivateMessage) : Exchange Unit :=
  host.send (.sendPrivate m) readNothing

/-- Adds or removes a peer. -/
def togglePeer (host : Host) (address : String) : Exchange Unit :=
  host.send (.togglePeer address) readNothing

def rename (host : Host) (name : String) : Exchange Unit :=
  host.send (.rename name) readNothing

/-- The texts that a stream of chunks delivers, none of them empty; what is left at the end
follows when the stream ends normally. -/
def streamTexts (chunks : List (List UInt8)) (ended : Bool) : List String :=
  let (texts, carry) := Utf8.Carry.pushAll {} chunks
  (texts ++ if ended then [carry.finish] else []).filter (· != "")

/-- Starts a search and takes its text as it arrives, unless the receiver has gone. -/
def search (host : Host) (q : SearchQuery) (listening : Bool) : Exchange (List String) :=
  host.send (.search q) fun reply =>
    let texts := streamTexts reply.chunks true
    if listening || texts.isEmpty then .ok texts else .error .channelClosed

/-- The contents of a file. -/
def download (host : Host) (r : DownloadRequest) : Exchange (List UInt8) :=
  host.send (.download r) fun reply => .ok reply.body

/-- Shares a file; the node answers with a remark. -/
def upload (host : Host) (boundary name : String) (contents : List UInt8) : Exchange String :=
  host.send (.upload boundary name contents) fun reply =>
    .ok (trimmed (Utf8.decodeLossy reply.body))

end Client

end GossipPanel.Node
