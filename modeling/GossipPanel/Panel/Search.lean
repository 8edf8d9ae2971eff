import GossipPanel.Node.Record
import GossipPanel.Text.Bytes
import GossipPanel.Text.Numeral
import GossipPanel.Text.Lines

/-!
# Searching

A search is one answer of the node that grows. A session remembers how many bytes of it have been
turned into entries and reads only what is new. Sessions are numbered; what belongs to an older
one is ignored.

* `Entry.ofLine` reads one line of the answer.
* `Session.observe` reads the whole answer so far, `Session.push` the next chunk of it.
* `Search` numbers the sessions and holds the current one.
-/

namespace GossipPanel.Panel

open Node Text

/-- What a line begins with that offers a file. -/
def downloadableMark : String := "Downloadable match: "

/-- The entry at the end of a completed search. -/
def completedText : String := "Search completed"

/-- One line of results. -/
inductive Entry where
  | info (text : String)
  /-- A file that can be fetched. -/
  | downloadable (name hash : String)
  deriving DecidableEq, Repr

namespace Entry

/-- The entry of a line: a name and a hash after the mark, cut at the last colon, both non-empty;
any other line is kept as it is. -/
def ofLine (line : String) : Entry :=
  match (dropPrefix? downloadableMark.toList line.toList).bind (splitAtLast? ':') with
  | some (name, hash) =>
    if name.isEmpty || hash.isEmpty then .info line
    else .downloadable (String.ofList name) (String.ofList hash)
  | none => .info line

/-- The request that fetches the file of an entry. -/
def request? : Entry → Option DownloadRequest
  | info _ => none
  | downloadable name hash => some { name, hash }

def line : Entry → String
  | info text => text
  | downloadable name hash => downloadableMark ++ name ++ ":" ++ hash

end Entry

/-- The entries of the non-empty lines of a text. -/
def entriesOf (cs : List Char) : List Entry :=
  ((splitOn '\n' cs).filter (!·.isEmpty)).map fun line => .ofLine (String.ofList line)

theorem entriesOf_eq (cs : List Char) :
    entriesOf cs =
      ((cs.splitOn '\n').filter (!·.isEmpty)).map fun line => .ofLine (String.ofList line) := by
  rw [entriesOf, splitOn_eq]

/-- How far a search has come. -/
inductive Progress where
  | running
  | completed
  | failed (reason : String)
  deriving DecidableEq, Repr

/-- One search. -/
structure Session where
  id : UInt64
  keywords : String
  budget : UInt32
  entries : List Entry := []
  progress : Progress := .running
  /-- Bytes of the answer that have been turned into entries. -/
  consumed : Nat := 0
  /-- The chunks received, in one text. -/
  received : String := ""
  deriving DecidableEq, Repr

namespace Session

/-- The search has not ended. -/
def isRunning (s : Session) : Bool :=
  s.progress == .running

/-- Turns the unseen end of the answer into entries. An answer that is too short, or that has no
character boundary where reading has to go on, changes nothing. -/
def observe (s : Session) (answer : String) : Session :=
  if s.isRunning then
    match dropBytes? s.consumed answer.toList with
    | none => s
    | some unseen =>
      { s with consumed := answer.utf8ByteSize, entries := s.entries ++ entriesOf unseen }
  else s

/-- Appends a chunk to the answer and reads it. -/
def push (s : Session) (chunk : String) : Session :=
  if s.isRunning then
    let received := s.received ++ chunk
    { s.observe received with received }
  else s

/-- Ends the search after its last chunk. -/
def complete (s : Session) : Session :=
  if s.isRunning then
    { s with entries := s.entries ++ [.info completedText], progress := .completed }
  else s

/-- Ends the search with a failure; the entries stay. -/
def fail (s : Session) (reason : String) : Session :=
  if s.isRunning then { s with progress := .failed reason } else s

/-- The title shown over the results. -/
def title (s : Session) : String :=
  let budget := if s.budget = 0 then "auto" else decimal s.budget.toNat
  let progress :=
    match s.progress with
    | .running => "running"
    | .completed => "done"
    | .failed reason => "failed: " ++ reason
  "Search \"" ++ s.keywords ++ "\" · budget " ++ budget ++ " · " ++ progress

end Session

/-- The current search and the number of the latest one. -/
structure Search where
  session : Option Session := none
  lastId : UInt64 := 0
  deriving DecidableEq, Repr

namespace Search

/-- Starts a search in place of the current one. -/
def start (s : Search) (keywords : String) (budget : UInt32) : UInt64 × Search :=
  let id := s.lastId + 1
  (id, { session := some { id, keywords, budget }, lastId := id })

/-- The current session, if it has this number. -/
def current? (s : Search) (id : UInt64) : Option Session :=
  s.session.filter (·.id == id)

/-- Changes the current session; `none` when the number is not its own. -/
def modify? (s : Search) (id : UInt64) (f : Session → Session) : Option Search :=
  (s.current? id).map fun session => { s with session := some (f session) }

/-- Adds a chunk to the current session. -/
def push? (s : Search) (id : UInt64) (chunk : String) : Option Search :=
  s.modify? id (·.push chunk)

/-- Completes the current session. -/
def complete? (s : Search) (id : UInt64) : Option Search :=
  s.modify? id Session.complete

/-- Fails the current session. -/
def fail? (s : Search) (id : UInt64) (reason : String) : Option Search :=
  s.modify? id (·.fail reason)

end Search

/-! ## A finished session stays as it is -/

theorem Session.observe_of_not_running {s : Session} (h : s.isRunning = false) (answer : String) :
    s.observe answer = s := by
  simp [observe, h]

theorem Session.push_of_not_running {s : Session} (h : s.isRunning = false) (chunk : String) :
    s.push chunk = s := by
  simp [push, h]

theorem Session.complete_of_not_running {s : Session} (h : s.isRunning = false) :
    s.complete = s := by
  simp [complete, h]

theorem Session.fail_of_not_running {s : Session} (h : s.isRunning = false) (reason : String) :
    s.fail reason = s := by
  simp [fail, h]

end GossipPanel.Panel
