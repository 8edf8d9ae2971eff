import GossipPanel.Node.Form
import GossipPanel.Node.Wire

/-!
# Requests to the node

One HTTP request per operation of the node's control interface.
-/

namespace GossipPanel.Node

open Text Wire

/-- An HTTP request, without the address of its host. -/
structure Request where
  method : String
  path : String
  query : Option String := none
  contentType : Option String := none
  body : List UInt8 := []
  deriving DecidableEq, Repr

namespace Request

def get (path : String) : Request :=
  { method := "GET", path }

def postJson (path : String) (v : Json.Value) : Request :=
  { method := "POST", path, contentType := some "application/json", body := Utf8.encode v.text }

/-- The node's name. -/
def identity : Request := get "/id"

def peers : Request := get "/node"

/-- The public feed. -/
def messages : Request := get "/message"

/-- The known origins. -/
def routes : Request := get "/routes"

def privateMessages (peer : String) : Request :=
  { get "/privateMessage" with query := some (Form.encodePairs [("name", peer)]) }

/-- A message to everyone. -/
def broadcast (content : String) : Request :=
  postJson "/message" (ofText content)

def sendPrivate (m : PrivateMessage) : Request :=
  postJson "/privateMessage" (encodePrivate m)

/-- Adds a peer, or removes it when it is one already. -/
def togglePeer (address : String) : Request :=
  postJson "/node" (ofText address)

/-- A new name for the node. -/
def rename (name : String) : Request :=
  postJson "/id" (ofText name)

/-- A search, whose answer grows while the node finds more. -/
def search (q : SearchQuery) : Request :=
  postJson "/search" (encodeQuery q)

/-- A file of another peer. -/
def download (r : DownloadRequest) : Request :=
  { method := "POST", path := "/download"
    contentType := some "application/x-www-form-urlencoded"
    body := Utf8.encode <|
      Form.encodePairs [("fileName", r.name), ("fileHash", r.hash), ("filePeer", r.peer)] }

/-- A file to be shared. -/
def upload (boundary name : String) (contents : List UInt8) : Request :=
  { method := "POST", path := "/upload", contentType := some "multipart/form-data"
    body := Form.multipart boundary name contents }

/-- The target of a request to a host whose interface starts at `base`. -/
def target (r : Request) (base : String) : String :=
  base ++ r.path ++ match r.query with
    | none => ""
    | some q => "?" ++ q

end Request

end GossipPanel.Node
