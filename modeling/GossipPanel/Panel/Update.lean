import GossipPanel.Panel.Action
import GossipPanel.Panel.InputLine

/-!
# What an action does

`update` gives the next state and the effects of an action. An outcome whose token is stale
changes nothing and asks for nothing.
-/

namespace GossipPanel.Panel

open Node Text

namespace App

/-- The state with another status line. -/
def withStatus (app : App) (status : String) : App :=
  { app with status }

/-- Starts a tick now, or remembers the request while one is in flight. -/
def requestTick (app : App) : App × List Effect :=
  match app.polling.beginTick with
  | (some g, polling) => ({ app with polling }, [.fetchSnapshot g])
  | (none, polling) => ({ app with polling }, [])

/-- Refreshes the conversations with these peers that are open and not being refreshed. -/
def refreshTabs (app : App) : List String → App × List Effect
  | [] => (app, [])
  | peer :: peers =>
    match app.conversations.beginRefresh? peer with
    | none => app.refreshTabs peers
    | some (ticket, conversations) =>
      let (app, effects) := { app with conversations }.refreshTabs peers
      (app, .refreshTab peer ticket :: effects)

/-- A snapshot replaces the last one, and the conversations with its origins are refreshed. -/
def applySnapshot (app : App) (snapshot : Snapshot) : App × List Effect :=
  let status :=
    if app.connection = .connected then app.status else s!"Connected as {snapshot.identity}"
  { app with snapshot, connection := .connected, status }.refreshTabs
    (snapshot.routes.map RouteRecord.origin)

/-- The node did not answer a tick. -/
def loseConnection (app : App) (reason : String) : App :=
  { app with
    connection := .disconnected reason
    status :=
      match app.reconnect with
      | .auto => "Node unreachable, retrying"
      | .manual => "Node unreachable, press Ctrl+R to reconnect" }

/-- After a tick: the tick that was asked for meanwhile, else the next one after the interval. -/
def continuePolling (app : App) (succeeded : Bool) : App × List Effect :=
  let (requested, polling) := app.polling.takeRequest
  let app := { app with polling }
  if requested then app.requestTick
  else if succeeded || app.reconnect == .auto then
    let (timer, polling) := app.polling.armTimer
    ({ app with polling }, [.scheduleTick timer app.pollInterval])
  else (app, [])

/-- The outcome of a tick. -/
def snapshotLoaded (app : App) (generation : UInt64) (result : Except String Snapshot) :
    App × List Effect :=
  match app.polling.finish? generation with
  | none => (app, [])
  | some polling =>
    let app := { app with polling }
    match result with
    | .ok snapshot =>
      let (app, refreshes) := app.applySnapshot snapshot
      let (app, effects) := app.continuePolling true
      (app, refreshes ++ effects)
    | .error reason => (app.loseConnection reason).continuePolling false

/-- The outcome of a refresh of a conversation. -/
def privateMessagesLoaded (app : App) (peer : String) (ticket : Ticket)
    (result : Except String (List MessageRecord)) : App :=
  match result with
  | .ok messages =>
    match app.conversations.applyRefresh? peer ticket messages with
    | some conversations => { app with conversations }
    | none => app
  | .error reason =>
    match app.conversations.failRefresh? peer ticket with
    | some conversations =>
      { app with
        conversations, status := s!"Could not load messages with {peer}: {reason}" }
    | none => app

/-- Opens or shows the conversation with a peer. -/
def selectPeer (app : App) (peer : String) : App × List Effect :=
  let peer := trimmed peer
  if peer = "" then (app, [])
  else
    let created := !app.conversations.contains peer
    let app := { app with conversations := app.conversations.select peer, view := .peer peer }
    if created then app.refreshTabs [peer] else (app, [])

/-- Closes the conversation with a peer; its view gives way to the public feed. -/
def closePeer (app : App) (peer : String) : App :=
  if app.conversations.contains peer then
    { app with
      conversations := app.conversations.close peer
      view := if app.view = .peer peer then .gossip else app.view }
  else app

/-- Closes the conversation that is shown. -/
def closeActiveTab (app : App) : App :=
  match app.view with
  | .peer peer => app.closePeer peer
  | _ => app.withStatus "No conversation tab is active"

def showView (app : App) (view : View) : App :=
  match view with
  | .peer peer => if app.conversations.contains peer then { app with view } else app
  | _ => { app with view }

/-- Adds a peer. A present one is refused: the node would remove it. -/
def addPeer (app : App) (address : String) : App × List Effect :=
  if app.hasPeer address then (app.withStatus s!"{address} is already a peer", [])
  else (app.withStatus s!"Adding peer {address}...", [.run (.togglePeer address true)])

/-- Removes a peer. An absent one is refused: the node would add it. -/
def deletePeer (app : App) (address : String) : App × List Effect :=
  if app.hasPeer address then
    (app.withStatus s!"Removing peer {address}...", [.run (.togglePeer address false)])
  else (app.withStatus s!"{address} is not a peer", [])

def rename (app : App) (name : String) : App × List Effect :=
  (app.withStatus s!"Renaming to {name}...", [.run (.rename name)])

def startSearch (app : App) (keywords : String) (budget : UInt32) : App × List Effect :=
  let keywords := trimmed keywords
  if keywords = "" then (app.withStatus "Search needs at least one keyword", [])
  else
    let (id, search) := app.search.start keywords budget
    ({ app with search, view := .search, status := s!"Searching for {keywords}..." },
      [.startSearch id ⟨keywords, budget⟩])

/-- A chunk of a search's answer. -/
def searchChunk (app : App) (session : UInt64) (chunk : String) : App :=
  match app.search.push? session chunk with
  | some search => { app with search }
  | none => app

def searchFinished (app : App) (session : UInt64) (result : Except String Unit) : App :=
  match result with
  | .ok () =>
    match app.search.complete? session with
    | some search => { app with search, status := "Search completed" }
    | none => app
  | .error reason =>
    match app.search.fail? session reason with
    | some search => { app with search, status := s!"Search failed: {reason}" }
    | none => app

/-- Fetches a file into the download directory. -/
def download (app : App) (request : DownloadRequest) : App × List Effect :=
  (app.withStatus s!"Downloading {request.text}...", [.run (.download request app.downloadDir)])

/-- Shares a file. -/
def upload (app : App) (path : String) : App × List Effect :=
  (app.withStatus s!"Uploading {path}...", [.run (.upload path)])

def messageCommand (view : View) (text : String) : Command :=
  match view with
  | .peer peer => .sendPrivate ⟨peer, text⟩
  | _ => .broadcast text

/-- Plain text: keywords in the search view, else a message, one at a time. -/
def sendText (app : App) (text : String) : App × List Effect :=
  if allBlank text then (app, [])
  else if app.view = .search then app.startSearch text app.defaultBudget
  else if app.sending then (app.withStatus "Still sending the previous message", [])
  else
    ({ app with sending := true, status := "Sending..." }, [.run (messageCommand app.view text)])

/-- What a parsed line does. -/
def perform (app : App) : Input → App × List Effect
  | .send text => app.sendText text
  | .addPeer address => app.addPeer address
  | .removePeer address => app.deletePeer address
  | .rename name => app.rename name
  | .openTab peer => app.selectPeer peer
  | .closeTab => (app.closeActiveTab, [])
  | .search keywords budget => app.startSearch keywords (budget.getD app.defaultBudget)
  | .download request => app.download request
  | .upload path => app.upload path
  | .refresh => app.requestTick
  | .help => (app.withStatus helpText, [])
  | .quit => (app, [.quit])

/-- The status line for a refused line; an unknown command is answered with the help. -/
def refusalText : InputError → String
  | .unknownCommand name => s!"{(InputError.unknownCommand name).message}. {helpText}"
  | e => e.message

/-- A line from the input box. -/
def submit (app : App) (line : String) : App × List Effect :=
  if allBlank line then (app, [])
  else
    match Input.parse line with
    | .ok input => app.perform input
    | .error e => (app.withStatus (refusalText e), [])

/-- The outcome of a command. Every success is followed by a tick. -/
def commandFinished (app : App) (command : Command) (result : Except String String) :
    App × List Effect :=
  let app := if command.isMessage then { app with sending := false } else app
  match result with
  | .error reason => (app.withStatus s!"{command.label} failed: {reason}", [])
  | .ok detail =>
    let app := app.withStatus (command.successText detail)
    let pins := if command.isMessage then [Effect.pinToBottom] else []
    let (app, refreshes) :=
      match command with
      | .sendPrivate m => app.refreshTabs [m.destination]
      | _ => (app, [])
    let (app, ticks) := app.requestTick
    (app, pins ++ refreshes ++ ticks)

end App

/-- The state after an action, and the work it asks for. -/
def update (app : App) : Action → App × List Effect
  | .start | .refresh => app.requestTick
  | .timerFired timer =>
    match app.polling.fire? timer with
    | some polling => { app with polling }.requestTick
    | none => (app, [])
  | .snapshotLoaded generation result => app.snapshotLoaded generation result
  | .privateMessagesLoaded peer ticket result =>
    (app.privateMessagesLoaded peer ticket result, [])
  | .selectPeer peer => app.selectPeer peer
  | .closePeer peer => (app.closePeer peer, [])
  | .closeActiveTab => (app.closeActiveTab, [])
  | .showView view => (app.showView view, [])
  | .nextView => ({ app with view := app.nextView }, [])
  | .submit line => app.submit line
  | .addPeer address => app.addPeer address
  | .deletePeer address => app.deletePeer address
  | .rename name => app.rename name
  | .startSearch keywords budget => app.startSearch keywords budget
  | .searchChunk session chunk => (app.searchChunk session chunk, [])
  | .searchFinished session result => (app.searchFinished session result, [])
  | .downloadMatch request => app.download request
  | .upload path => app.upload path
  | .commandFinished command result => app.commandFinished command result
  | .quit => (app, [.quit])

end GossipPanel.Panel
