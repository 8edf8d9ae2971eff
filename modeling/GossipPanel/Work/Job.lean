import GossipPanel.Panel.Action
import GossipPanel.Text.Quoted
import GossipPanel.Work.Answers
import GossipPanel.Work.Files

/-!
# Jobs

Work for the node that an effect asks for. A job calls the node and reports what came of it as
actions. A command that moves a file does so after its call, or before it, in a second part.

* `Job.start` does what needs no file.
* `FilePart.finish` does the rest.
-/

namespace GossipPanel.Work

open Node Panel Text

/-- Work for the node. -/
inductive Job where
  | fetchSnapshot (generation : UInt64)
  | refreshTab (peer : String) (ticket : Ticket)
  | search (session : UInt64) (query : SearchQuery)
  | run (command : Command)
  deriving DecidableEq, Repr

def Job.isSearch : Job → Bool
  | search .. => true
  | _ => false

/-- The calls that were made and the actions that came of them, both in order. -/
structure Report where
  calls : List Call := []
  actions : List Action := []

namespace Report

/-- One report after another. -/
def append (r s : Report) : Report :=
  ⟨r.calls ++ s.calls, r.actions ++ s.actions⟩

instance : Append Report := ⟨append⟩

@[simp]
theorem empty_append (r : Report) : ({} : Report) ++ r = r := rfl

@[simp]
theorem append_empty (r : Report) : r ++ ({} : Report) = r := by
  change Report.mk (r.calls ++ []) (r.actions ++ []) = r
  rw [List.append_nil, List.append_nil]

end Report

/-- The second part of a command that moves a file. -/
inductive FilePart where
  | save (command : Command) (directory name text : String)
  /-- Reads a file and shares it. -/
  | share (command : Command) (path name : String)
  deriving DecidableEq, Repr

def finished (command : Command) (result : Except Failure String) : Action :=
  .commandFinished command (result.mapError Failure.message)

/-- The result of a call that gives nothing. -/
def silent (result : Except Failure Unit) : Except Failure String :=
  result.map fun _ => ""

/-- The actions of a search: one for each text, and one for the end of the stream. -/
def searchActions (session : UInt64) (stream : Stream) : List Action :=
  stream.texts.map (.searchChunk session) ++
    match stream.ending with
    | some ending => [.searchFinished session (ending.mapError Failure.message)]
    | none => []

/-- The first part of a command. A download whose name cannot be used, and an upload whose path
names no file, end here. -/
def startCommand (node : Answers) (command : Command) : Report × Option FilePart :=
  let ended (calls : List Call) (result : Except Failure String) : Report × Option FilePart :=
    (⟨calls, [finished command result]⟩, none)
  match command with
  | .broadcast content => ended [.broadcast content] (silent node.broadcast)
  | .sendPrivate message => ended [.sendPrivate message] (silent node.sendPrivate)
  | .togglePeer address _ => ended [.togglePeer address] (silent node.togglePeer)
  | .rename name => ended [.rename name] (silent node.rename)
  | .download request directory =>
    match node.download with
    | .error e => ended [.download request] (.error e)
    | .ok text =>
      match safeFileName? request.name with
      | none =>
        ended [.download request]
          (.error (.file s!"refusing to save file named {Quoted.quote request.name}"))
      | some name => (⟨[.download request], []⟩, some (.save command directory name text))
  | .upload path =>
    match fileName? path with
    | none => ended [] (.error (.file s!"{path} is not a file path"))
    | some name => ({}, some (.share command path name))

def Job.start (node : Answers) : Job → Report × Option FilePart
  | fetchSnapshot generation =>
    let (calls, result) := node.snapshot
    (⟨calls, [.snapshotLoaded generation (result.mapError Failure.message)]⟩, none)
  | refreshTab peer ticket =>
    (⟨[.privateMessages peer],
      [.privateMessagesLoaded peer ticket
        ((node.privateMessages peer).mapError Failure.message)]⟩, none)
  | search session query => (⟨[.search query], searchActions session node.search⟩, none)
  | run command => startCommand node command

def FilePart.finish (node : Answers) (files : Files) : FilePart → Report × Files
  | save command directory name text =>
    let (result, files) := files.save directory name text
    let saved := (result.mapError fun e => .file e.message).map fun _ => joinPath directory name
    (⟨[], [finished command saved]⟩, files)
  | share command path name =>
    match files.read path with
    | .error e => (⟨[], [finished command (.error (.file e.message))]⟩, files)
    | .ok text =>
      (⟨[.upload name text], [finished command (node.upload.map trimmed)]⟩, files)

end GossipPanel.Work
