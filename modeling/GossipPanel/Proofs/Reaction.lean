import GossipPanel.Proofs.Run

/-!
# What an action does to the parts of the panel

The polling chain and the conversations are machines of their own. An action reaches each of them
as one event, and `update` does to the part what the machine does on that event.

* `Polling.react`, `Conversations.react`: the machines, with the work they ask for.
* `App.pollingEvent`, `App.conversationEvent`: what an action is to them.
* `App.accepted?`: the outcome of a tick that an action brings, if it is the tick in flight.
* `App.snapshotLoaded_ok` and its like: what each operation writes, in terms of the machines.
* `App.submit_cases`: a line is a text, does what another action does, or is answered in the status
  line.
* `update_reaction`: `update` is the reaction of every part to the action, and nothing else.
-/

namespace GossipPanel.Panel

open Node Text

/-! ## The polling chain as a machine -/

/-- What an action is to the polling chain. -/
inductive PollingEvent where
  | unrelated
  /-- A tick is asked for. -/
  | request
  | timer (timer : UInt64)
  /-- The outcome of a tick; `goOn` tells whether another one follows that nobody asked for. -/
  | outcome (generation : UInt64) (goOn : Bool)

namespace PollingEvent

@[simp]
def landed? : PollingEvent → Option UInt64
  | outcome generation _ => some generation
  | _ => none

@[simp]
def fired? : PollingEvent → Option UInt64
  | timer t => some t
  | _ => none

@[simp]
def isRequest : PollingEvent → Bool
  | request => true
  | _ => false

end PollingEvent

namespace Polling

def request (p : Polling) : Polling × List Effect :=
  (p.beginTick.2, p.beginTick.1.toList.map .fetchSnapshot)

/-- Goes on after a tick. -/
def proceed (interval : UInt64) (p : Polling) (goOn : Bool) : Polling × List Effect :=
  if p.requested then p.takeRequest.2.request
  else if goOn then
    (p.takeRequest.2.armTimer.2, [.scheduleTick p.takeRequest.2.armTimer.1 interval])
  else (p.takeRequest.2, [])

/-- The polling chain after an event, and the work it asks for. -/
def react (interval : UInt64) (p : Polling) : PollingEvent → Polling × List Effect
  | .unrelated => (p, [])
  | .request => p.request
  | .timer t => (p.fire? t).elim (p, []) request
  | .outcome g goOn => (p.finish? g).elim (p, []) (proceed interval · goOn)

end Polling

/-- A tick is asked for: at the start, by the user, or because a command has succeeded. -/
def Action.isRequest : Action → Bool
  | start | refresh | commandFinished _ (.ok _) => true
  | submit line =>
    match Input.parse line with
    | .ok .refresh => true
    | _ => false
  | _ => false

/-- What an action is to the polling chain. -/
def App.pollingEvent (app : App) : Action → PollingEvent
  | .timerFired t => .timer t
  | .snapshotLoaded g result => .outcome g (result.isOk || app.reconnect == .auto)
  | a => if a.isRequest then .request else .unrelated

section
variable (app : App) (a : Action)

theorem landed?_pollingEvent : (app.pollingEvent a).landed? = a.landed? := by
  unfold App.pollingEvent
  split
  · rfl
  · rfl
  · split <;> cases a <;> simp_all [PollingEvent.landed?, Action.landed?]

theorem isRequest_pollingEvent : (app.pollingEvent a).isRequest = a.isRequest := by
  unfold App.pollingEvent
  split
  · rfl
  · rfl
  · split <;> simp_all [PollingEvent.isRequest]

theorem fired?_pollingEvent : (app.pollingEvent a).fired? = a.fired? := by
  unfold App.pollingEvent
  split
  · rfl
  · rfl
  · split <;> cases a <;> simp_all [PollingEvent.fired?, Action.fired?]

end

/-! ## The conversations as a machine -/

/-- What an action is to the conversations. -/
inductive ConversationEvent where
  | unrelated
  /-- The listed peers have news. -/
  | refresh (peers : List String)
  | select (peer : String)
  | close (peer : String)
  | answer (peer : String) (ticket : Ticket) (result : Except String (List MessageRecord))

def ConversationEvent.refreshed? : ConversationEvent → Option (String × Ticket)
  | answer peer ticket _ => some (peer, ticket)
  | _ => none

namespace Conversations

/-- Starts a refresh of each listed conversation that is open and has none in flight. -/
def refreshAll (cs : Conversations) : List String → Conversations × List (String × Ticket)
  | [] => (cs, [])
  | peer :: peers =>
    match cs.beginRefresh? peer with
    | none => cs.refreshAll peers
    | some (ticket, cs) => ((cs.refreshAll peers).1, (peer, ticket) :: (cs.refreshAll peers).2)

def answer (cs : Conversations) (peer : String) (ticket : Ticket) :
    Except String (List MessageRecord) → Conversations
  | .ok messages => (cs.applyRefresh? peer ticket messages).getD cs
  | .error _ => (cs.failRefresh? peer ticket).getD cs

/-- The conversations after an event, and the refreshes they ask for. -/
def react (cs : Conversations) : ConversationEvent → Conversations × List (String × Ticket)
  | .unrelated => (cs, [])
  | .refresh peers => cs.refreshAll peers
  | .select peer =>
    if cs.contains peer then (cs, []) else (cs.select peer).refreshAll [peer]
  | .close peer => (cs.close peer, [])
  | .answer peer ticket result => (cs.answer peer ticket result, [])

end Conversations

namespace App

/-- The outcome of the tick in flight. -/
def accepted? (app : App) : Action → Option (UInt64 × Except String Snapshot)
  | .snapshotLoaded g result => if app.polling.inFlight = some g then some (g, result) else none
  | _ => none

/-- Opening the conversation with a peer whose name is typed with blanks around it. -/
def selectEvent (peer : String) : ConversationEvent :=
  if trimmed peer = "" then .unrelated else .select (trimmed peer)

def closeActiveEvent (app : App) : ConversationEvent :=
  match app.view with
  | .peer peer => .close peer
  | _ => .unrelated

def successEvent : Command → ConversationEvent
  | .sendPrivate m => .refresh [m.destination]
  | _ => .unrelated

/-- What an action is to the conversations. -/
def conversationEvent (app : App) : Action → ConversationEvent
  | .snapshotLoaded g (.ok snapshot) =>
    if app.polling.inFlight = some g then .refresh (snapshot.routes.map RouteRecord.origin)
    else .unrelated
  | .privateMessagesLoaded peer ticket result => .answer peer ticket result
  | .selectPeer peer => selectEvent peer
  | .closePeer peer => .close peer
  | .closeActiveTab => app.closeActiveEvent
  | .submit line =>
    match Input.parse line with
    | .ok (.openTab peer) => selectEvent peer
    | .ok .closeTab => app.closeActiveEvent
    | _ => .unrelated
  | .commandFinished command (.ok _) => successEvent command
  | _ => .unrelated

theorem refreshed?_selectEvent (peer : String) : (selectEvent peer).refreshed? = none := by
  unfold selectEvent
  split <;> rfl

theorem refreshed?_closeActiveEvent (app : App) : app.closeActiveEvent.refreshed? = none := by
  unfold closeActiveEvent
  split <;> rfl

theorem refreshed?_conversationEvent (app : App) (a : Action) :
    (app.conversationEvent a).refreshed? = a.refreshed? := by
  cases a with
  | snapshotLoaded g result =>
    cases result with
    | ok snapshot =>
      rw [conversationEvent]
      split <;> rfl
    | error reason => rfl
  | submit line =>
    rw [conversationEvent]
    split
    · exact refreshed?_selectEvent _
    · exact refreshed?_closeActiveEvent app
    · rfl
  | selectPeer peer => exact refreshed?_selectEvent peer
  | closeActiveTab => exact refreshed?_closeActiveEvent app
  | commandFinished command result => cases result <;> cases command <;> rfl
  | _ => rfl

end App

/-! ## What each operation writes -/

namespace App

variable (app : App)

def refreshEffects (issued : List (String × Ticket)) : List Effect :=
  issued.map fun r => .refreshTab r.1 r.2

theorem requestTick_eq :
    app.requestTick = ({ app with polling := app.polling.request.1 }, app.polling.request.2) := by
  cases h : app.polling.beginTick with
  | mk g polling => cases g <;> simp [requestTick, Polling.request, h]

theorem refreshTabs_eq (peers : List String) :
    app.refreshTabs peers =
      ({ app with conversations := (app.conversations.refreshAll peers).1 },
        refreshEffects (app.conversations.refreshAll peers).2) := by
  induction peers generalizing app with
  | nil => rfl
  | cons peer peers ih =>
    rw [refreshTabs, Conversations.refreshAll]
    cases app.conversations.beginRefresh? peer with
    | none => exact ih app
    | some r => simp [ih, refreshEffects]

theorem continuePolling_eq (succeeded : Bool) :
    app.continuePolling succeeded =
      ({ app with
          polling :=
            (app.polling.proceed app.pollInterval (succeeded || app.reconnect == .auto)).1 },
        (app.polling.proceed app.pollInterval (succeeded || app.reconnect == .auto)).2) := by
  simp only [continuePolling, Polling.proceed, Polling.takeRequest, requestTick_eq]
  split
  · rfl
  · split <;> rfl

theorem selectPeer_eq (peer : String) :
    app.selectPeer peer =
      ({ app with
          conversations := (app.conversations.react (selectEvent peer)).1
          view := if trimmed peer = "" then app.view else .peer (trimmed peer) },
        refreshEffects (app.conversations.react (selectEvent peer)).2) := by
  by_cases hblank : trimmed peer = ""
  · simp [selectPeer, selectEvent, hblank, Conversations.react, refreshEffects]
  · by_cases hopen : app.conversations.contains (trimmed peer) = true
    · simp [selectPeer, selectEvent, hblank, hopen, Conversations.react, refreshEffects,
        Conversations.select_of_contains]
    · simp [selectPeer, selectEvent, hblank, hopen, Conversations.react, refreshTabs_eq]

theorem closePeer_eq (peer : String) :
    app.closePeer peer =
      { app with
        conversations := app.conversations.close peer
        view := (app.closePeer peer).view } := by
  by_cases hopen : app.conversations.contains peer = true
  · simp [closePeer, hopen]
  · have hclosed : app.conversations.contains peer = false := by simpa using hopen
    simp [closePeer, hclosed, Conversations.close_of_not_contains]

theorem closeActiveTab_eq :
    app.closeActiveTab =
      { app with
        conversations := (app.conversations.react app.closeActiveEvent).1
        view := app.closeActiveTab.view
        status := app.closeActiveTab.status } := by
  cases hview : app.view with
  | peer peer =>
    simp only [closeActiveTab, closeActiveEvent, hview, Conversations.react]
    rw [closePeer_eq]
  | gossip => simp [closeActiveTab, closeActiveEvent, hview, Conversations.react, withStatus]
  | search => simp [closeActiveTab, closeActiveEvent, hview, Conversations.react, withStatus]

theorem privateMessagesLoaded_eq (peer : String) (ticket : Ticket)
    (result : Except String (List MessageRecord)) :
    app.privateMessagesLoaded peer ticket result =
      { app with
        conversations := app.conversations.answer peer ticket result
        status := (app.privateMessagesLoaded peer ticket result).status } := by
  cases result with
  | ok messages =>
    rw [privateMessagesLoaded, Conversations.answer]
    cases app.conversations.applyRefresh? peer ticket messages <;> simp
  | error reason =>
    rw [privateMessagesLoaded, Conversations.answer]
    cases app.conversations.failRefresh? peer ticket <;> simp

theorem snapshotLoaded_of_stale {g : UInt64} (h : app.polling.inFlight ≠ some g)
    (result : Except String Snapshot) : app.snapshotLoaded g result = (app, []) := by
  simp [snapshotLoaded, Polling.finish?, h]

theorem privateMessagesLoaded_of_stale {peer : String} {ticket : Ticket}
    (h : app.conversations.isCurrent peer ticket = false)
    (result : Except String (List MessageRecord)) :
    app.privateMessagesLoaded peer ticket result = app := by
  cases result <;>
    simp [privateMessagesLoaded, Conversations.applyRefresh?, Conversations.failRefresh?, h]

theorem snapshotLoaded_ok {g : UInt64} (h : app.polling.inFlight = some g) (snapshot : Snapshot) :
    app.snapshotLoaded g (.ok snapshot) =
      ({ app with
          snapshot
          connection := .connected
          conversations :=
            (app.conversations.refreshAll (snapshot.routes.map RouteRecord.origin)).1
          polling := (app.polling.react app.pollInterval (.outcome g true)).1
          status := (app.applySnapshot snapshot).1.status },
        refreshEffects (app.conversations.refreshAll (snapshot.routes.map RouteRecord.origin)).2 ++
          (app.polling.react app.pollInterval (.outcome g true)).2) := by
  simp [snapshotLoaded, Polling.finish?, h, applySnapshot, refreshTabs_eq, continuePolling_eq,
    Polling.react]

theorem snapshotLoaded_error {g : UInt64} (h : app.polling.inFlight = some g) (reason : String) :
    app.snapshotLoaded g (.error reason) =
      ({ app with
          connection := .disconnected reason
          polling :=
            (app.polling.react app.pollInterval (.outcome g (app.reconnect == .auto))).1
          status := (app.loseConnection reason).status },
        (app.polling.react app.pollInterval (.outcome g (app.reconnect == .auto))).2) := by
  simp [snapshotLoaded, Polling.finish?, h, loseConnection, continuePolling_eq, Polling.react]

theorem submit_of_ok {line : String} {input : Input} (h : Input.parse line = .ok input) :
    app.submit line = app.perform input := by
  by_cases hblank : allBlank line = true
  · obtain ⟨text, htext, hparse⟩ := Input.parse_of_allBlank hblank
    obtain rfl : Input.send text = input := Except.ok.inj (hparse.symm.trans h)
    rw [submit, if_pos hblank]
    exact (if_pos htext).symm
  · rw [submit, if_neg hblank, h]

theorem submit_of_error {line : String} {e : InputError} (h : Input.parse line = .error e) :
    app.submit line = (app.withStatus (refusalText e), []) := by
  have hblank : ¬allBlank line = true := by
    intro hblank
    obtain ⟨text, -, hparse⟩ := Input.parse_of_allBlank hblank
    rw [hparse] at h
    cases h
  rw [submit, if_neg hblank, h]

/-- The action that a line stands for, if it is not a text or a call for help. -/
def actionOf? : Input → Option Action
  | .send _ | .help => none
  | .addPeer address => some (.addPeer address)
  | .removePeer address => some (.deletePeer address)
  | .rename name => some (.rename name)
  | .openTab peer => some (.selectPeer peer)
  | .closeTab => some .closeActiveTab
  | .search keywords budget => some (.startSearch keywords (budget.getD app.defaultBudget))
  | .download request => some (.downloadMatch request)
  | .upload path => some (.upload path)
  | .refresh => some .refresh
  | .quit => some .quit

def StandsFor (line : String) (a : Action) : Prop :=
  ∃ input, Input.parse line = .ok input ∧ app.actionOf? input = some a

/-- The line is answered in the status line, and that is all. -/
def IsNotice (line : String) : Prop :=
  Input.parse line = .ok .help ∨ ∃ e, Input.parse line = .error e

theorem submit_cases (line : String) :
    (∃ text, Input.parse line = .ok (.send text) ∧ app.submit line = app.sendText text) ∨
      (∃ a, app.StandsFor line a ∧ app.submit line = update app a) ∨
      ∃ status, IsNotice line ∧ app.submit line = (app.withStatus status, []) := by
  cases hparse : Input.parse line with
  | error e => exact .inr (.inr ⟨_, .inr ⟨e, hparse⟩, app.submit_of_error hparse⟩)
  | ok input =>
    have hsubmit := app.submit_of_ok hparse
    cases haction : app.actionOf? input with
    | some a =>
      refine .inr (.inl ⟨a, ⟨input, hparse, haction⟩, hsubmit.trans ?_⟩)
      cases input <;> cases haction <;> rfl
    | none =>
      cases input with
      | send text => exact .inl ⟨text, rfl, hsubmit⟩
      | help => exact .inr (.inr ⟨_, .inl hparse, hsubmit⟩)
      | _ => cases haction

section
variable {app} {line : String} {a : Action}

theorem StandsFor.ne_submit (h : app.StandsFor line a) (other : String) : a ≠ .submit other := by
  obtain ⟨input, -, haction⟩ := h
  cases input <;> cases haction <;> simp

theorem StandsFor.conversationEvent (h : app.StandsFor line a) :
    app.conversationEvent (.submit line) = app.conversationEvent a := by
  obtain ⟨input, hparse, haction⟩ := h
  rw [App.conversationEvent, hparse]
  cases input <;> cases haction <;> rfl

theorem StandsFor.pollingEvent (h : app.StandsFor line a) :
    app.pollingEvent (.submit line) = app.pollingEvent a := by
  obtain ⟨input, hparse, haction⟩ := h
  cases input <;> cases haction <;> simp [App.pollingEvent, Action.isRequest, hparse]

theorem StandsFor.accepted? (h : app.StandsFor line a) :
    app.accepted? (.submit line) = app.accepted? a := by
  obtain ⟨input, -, haction⟩ := h
  cases input <;> cases haction <;> rfl

theorem IsNotice.conversationEvent (h : IsNotice line) :
    app.conversationEvent (.submit line) = .unrelated := by
  obtain hparse | ⟨e, hparse⟩ := h <;> rw [App.conversationEvent, hparse]

theorem IsNotice.pollingEvent (h : IsNotice line) :
    app.pollingEvent (.submit line) = .unrelated := by
  obtain hparse | ⟨e, hparse⟩ := h <;> simp [App.pollingEvent, Action.isRequest, hparse]

end

def pinEffects (command : Command) : List Effect :=
  if command.isMessage then [.pinToBottom] else []

theorem commandFinished_ok (command : Command) (detail : String) :
    app.commandFinished command (.ok detail) =
      ({ app with
          sending := if command.isMessage then false else app.sending
          status := command.successText detail
          conversations := (app.conversations.react (successEvent command)).1
          polling := app.polling.request.1 },
        pinEffects command ++
          refreshEffects (app.conversations.react (successEvent command)).2 ++
            app.polling.request.2) := by
  cases command <;> simp [commandFinished, Command.isMessage, withStatus, refreshTabs_eq,
    requestTick_eq, successEvent, pinEffects, Conversations.react, refreshEffects]

end App

/-! ## What `update` does to the parts -/

def Effect.isPolling : Effect → Bool
  | fetchSnapshot _ | scheduleTick _ _ => true
  | _ => false

theorem Effect.isPolling_of_fetch? {e : Effect} {g : UInt64} (h : e.fetch? = some g) :
    e.isPolling = true := by
  cases e <;> first | rfl | cases h

theorem Effect.isPolling_of_timer? {e : Effect} {t : UInt64} (h : e.timer? = some t) :
    e.isPolling = true := by
  cases e <;> first | rfl | cases h

theorem Effect.isPolling_of_schedule? {e : Effect} {t : UInt64 × UInt64}
    (h : e.schedule? = some t) : e.isPolling = true := by
  cases e <;> first | rfl | cases h

def Connection.ofOutcome : Except String Snapshot → Connection
  | .ok _ => connected
  | .error reason => disconnected reason

/-- The parts of the panel after an action, and the work that they ask for. -/
structure Reaction (app : App) (a : Action) (r : App × List Effect) : Prop where
  polling : r.1.polling = (app.polling.react app.pollInterval (app.pollingEvent a)).1
  pollingWork :
    r.2.filter Effect.isPolling = (app.polling.react app.pollInterval (app.pollingEvent a)).2
  conversations : r.1.conversations = (app.conversations.react (app.conversationEvent a)).1
  refreshes :
    r.2.filterMap Effect.refresh? = (app.conversations.react (app.conversationEvent a)).2
  snapshot :
    r.1.snapshot = ((app.accepted? a).bind fun o => o.2.toOption).getD app.snapshot
  connection :
    r.1.connection = ((app.accepted? a).map fun o => .ofOutcome o.2).getD app.connection
  pollInterval : r.1.pollInterval = app.pollInterval
  reconnect : r.1.reconnect = app.reconnect

section
variable (app : App) (issued : List (String × Ticket))

theorem filterMap_refreshEffects_eq_nil {β : Type} {work : Effect → Option β}
    (h : ∀ peer ticket, work (.refreshTab peer ticket) = none) :
    (App.refreshEffects issued).filterMap work = [] := by
  refine List.filterMap_eq_nil_iff.2 fun e he => ?_
  obtain ⟨r, -, rfl⟩ := List.mem_map.1 he
  exact h r.1 r.2

@[simp]
theorem filter_isPolling_refreshEffects :
    (App.refreshEffects issued).filter Effect.isPolling = [] := by
  refine List.filter_eq_nil_iff.2 fun e he => ?_
  obtain ⟨r, -, rfl⟩ := List.mem_map.1 he
  simp [Effect.isPolling]

@[simp]
theorem filterMap_refresh_refreshEffects :
    (App.refreshEffects issued).filterMap Effect.refresh? = issued := by
  induction issued with
  | nil => rfl
  | cons r issued ih => simpa [App.refreshEffects, Effect.refresh?] using ih

theorem Polling.isPolling_of_mem_request {p : Polling} {e : Effect} (he : e ∈ p.request.2) :
    e.isPolling = true := by
  obtain ⟨g, -, rfl⟩ := List.mem_map.1 he
  rfl

theorem Polling.isPolling_of_mem_react {p : Polling} {interval : UInt64} {event : PollingEvent}
    {e : Effect} (he : e ∈ (p.react interval event).2) : e.isPolling = true := by
  cases event with
  | unrelated => simp [react] at he
  | request => exact isPolling_of_mem_request he
  | timer t =>
    rw [react] at he
    cases hf : p.fire? t with
    | none => simp [hf] at he
    | some q => exact isPolling_of_mem_request (by simpa [hf] using he)
  | outcome g goOn =>
    rw [react] at he
    cases hf : p.finish? g with
    | none => simp [hf] at he
    | some q =>
      simp only [hf, Option.elim_some, proceed] at he
      split at he
      · exact isPolling_of_mem_request he
      · split at he
        · rw [List.mem_singleton.1 he]
          rfl
        · simp at he

@[simp]
theorem filter_isPolling_react (p : Polling) (interval : UInt64) (event : PollingEvent) :
    (p.react interval event).2.filter Effect.isPolling = (p.react interval event).2 :=
  List.filter_eq_self.2 fun _ he => Polling.isPolling_of_mem_react he

theorem Polling.filterMap_react_eq_nil {β : Type} {work : Effect → Option β}
    (h : ∀ e, e.isPolling = true → work e = none) (p : Polling) (interval : UInt64)
    (event : PollingEvent) : (p.react interval event).2.filterMap work = [] :=
  List.filterMap_eq_nil_iff.2 fun e he => h e (isPolling_of_mem_react he)

@[simp]
theorem filterMap_refresh_react (p : Polling) (interval : UInt64) (event : PollingEvent) :
    (p.react interval event).2.filterMap Effect.refresh? = [] := by
  refine Polling.filterMap_react_eq_nil (fun e he => ?_) p interval event
  cases e <;> first | rfl | cases he

end

/-- Whatever kind of polling work is counted, the chain alone asks for it. -/
theorem Reaction.filterMap_pollingWork {β : Type} {work : Effect → Option β} {app : App}
    {a : Action} {r : App × List Effect} (hr : Reaction app a r)
    (hwork : ∀ {e b}, work e = some b → e.isPolling = true) :
    r.2.filterMap work =
      (app.polling.react app.pollInterval (app.pollingEvent a)).2.filterMap work := by
  have hfun : (fun e => if e.isPolling = true then work e else none) = work := by
    funext e
    cases hw : work e with
    | none => simp
    | some b => simp [hwork hw]
  rw [← hr.pollingWork, List.filterMap_filter, hfun]

/-- The result leaves the parts alone and asks for none of their work. -/
structure Aside (app : App) (r : App × List Effect) : Prop where
  polling : r.1.polling = app.polling
  conversations : r.1.conversations = app.conversations
  snapshot : r.1.snapshot = app.snapshot
  connection : r.1.connection = app.connection
  pollInterval : r.1.pollInterval = app.pollInterval
  reconnect : r.1.reconnect = app.reconnect
  noPolling : r.2.filter Effect.isPolling = []
  noRefresh : r.2.filterMap Effect.refresh? = []

namespace App

variable (app : App)

theorem aside_nil : Aside app (app, []) :=
  ⟨rfl, rfl, rfl, rfl, rfl, rfl, rfl, rfl⟩

theorem aside_withStatus (status : String) : Aside app (app.withStatus status, []) :=
  ⟨rfl, rfl, rfl, rfl, rfl, rfl, rfl, rfl⟩

theorem aside_run (status : String) (command : Command) :
    Aside app (app.withStatus status, [.run command]) :=
  ⟨rfl, rfl, rfl, rfl, rfl, rfl, rfl, rfl⟩

theorem aside_addPeer (address : String) : Aside app (app.addPeer address) := by
  rw [addPeer]
  split
  · exact app.aside_withStatus _
  · exact app.aside_run _ _

theorem aside_deletePeer (address : String) : Aside app (app.deletePeer address) := by
  rw [deletePeer]
  split
  · exact app.aside_run _ _
  · exact app.aside_withStatus _

theorem aside_startSearch (keywords : String) (budget : UInt32) :
    Aside app (app.startSearch keywords budget) := by
  unfold startSearch
  dsimp only
  split
  · exact app.aside_withStatus _
  · exact ⟨rfl, rfl, rfl, rfl, rfl, rfl, rfl, rfl⟩

theorem aside_sendText (text : String) : Aside app (app.sendText text) := by
  unfold sendText
  split
  · exact app.aside_nil
  · split
    · exact app.aside_startSearch _ _
    · split
      · exact app.aside_withStatus _
      · exact ⟨rfl, rfl, rfl, rfl, rfl, rfl, rfl, rfl⟩

theorem aside_showView (view : View) : Aside app (app.showView view, []) := by
  unfold showView
  split
  · split
    · exact ⟨rfl, rfl, rfl, rfl, rfl, rfl, rfl, rfl⟩
    · exact app.aside_nil
  · exact ⟨rfl, rfl, rfl, rfl, rfl, rfl, rfl, rfl⟩

theorem aside_searchChunk (session : UInt64) (chunk : String) :
    Aside app (app.searchChunk session chunk, []) := by
  unfold searchChunk
  split <;> exact ⟨rfl, rfl, rfl, rfl, rfl, rfl, rfl, rfl⟩

theorem aside_searchFinished (session : UInt64) (result : Except String Unit) :
    Aside app (app.searchFinished session result, []) := by
  unfold searchFinished
  split <;> split <;> exact ⟨rfl, rfl, rfl, rfl, rfl, rfl, rfl, rfl⟩

end App

section
variable {app : App} {a : Action} {r : App × List Effect}

theorem Aside.reaction (h : Aside app r) (hp : app.pollingEvent a = .unrelated)
    (hc : app.conversationEvent a = .unrelated) (ha : app.accepted? a = none) :
    Reaction app a r where
  polling := by rw [hp]; exact h.polling
  pollingWork := by rw [hp]; exact h.noPolling
  conversations := by rw [hc]; exact h.conversations
  refreshes := by rw [hc]; exact h.noRefresh
  snapshot := by rw [ha]; exact h.snapshot
  connection := by rw [ha]; exact h.connection
  pollInterval := h.pollInterval
  reconnect := h.reconnect

theorem reaction_requestTick (hp : app.pollingEvent a = .request)
    (hc : app.conversationEvent a = .unrelated) (ha : app.accepted? a = none) :
    Reaction app a app.requestTick where
  polling := by rw [hp, App.requestTick_eq]; rfl
  pollingWork := by
    rw [hp, App.requestTick_eq]
    exact filter_isPolling_react app.polling app.pollInterval .request
  conversations := by rw [hc, App.requestTick_eq]; rfl
  refreshes := by
    rw [hc, App.requestTick_eq]
    exact filterMap_refresh_react app.polling app.pollInterval .request
  snapshot := by rw [ha, App.requestTick_eq]; rfl
  connection := by rw [ha, App.requestTick_eq]; rfl
  pollInterval := by rw [App.requestTick_eq]
  reconnect := by rw [App.requestTick_eq]

theorem reaction_selectPeer (peer : String) :
    Reaction app (.selectPeer peer) (app.selectPeer peer) := by
  rw [App.selectPeer_eq]
  exact ⟨rfl, filter_isPolling_refreshEffects _, rfl, filterMap_refresh_refreshEffects _, rfl, rfl,
    rfl, rfl⟩

theorem reaction_closeActiveTab : Reaction app .closeActiveTab (app.closeActiveTab, []) := by
  have hnone : (app.conversations.react app.closeActiveEvent).2 = [] := by
    rw [App.closeActiveEvent]
    split <;> rfl
  rw [App.closeActiveTab_eq]
  exact ⟨rfl, rfl, rfl, hnone.symm, rfl, rfl, rfl, rfl⟩

theorem reaction_timerFired (t : UInt64) :
    Reaction app (.timerFired t) (update app (.timerFired t)) := by
  cases hf : app.polling.fire? t with
  | none =>
    have hupdate : update app (.timerFired t) = (app, []) := by simp [update, hf]
    have hreact : app.polling.react app.pollInterval (.timer t) = (app.polling, []) := by
      simp [Polling.react, hf]
    rw [hupdate]
    exact ⟨by rw [App.pollingEvent, hreact], by rw [App.pollingEvent, hreact]; rfl, rfl, rfl, rfl,
      rfl, rfl, rfl⟩
  | some q =>
    have hreact : app.polling.react app.pollInterval (.timer t) = q.request := by
      simp [Polling.react, hf]
    have hwork := filter_isPolling_react app.polling app.pollInterval (.timer t)
    have hquiet := filterMap_refresh_react app.polling app.pollInterval (.timer t)
    rw [hreact] at hwork hquiet
    have hupdate : update app (.timerFired t) =
        ({ app with polling := q.request.1 }, q.request.2) := by
      simp [update, hf, App.requestTick_eq]
    rw [hupdate]
    exact ⟨by rw [App.pollingEvent, hreact], by rw [App.pollingEvent, hreact, hwork], rfl, hquiet,
      rfl, rfl, rfl, rfl⟩

theorem reaction_snapshotLoaded (g : UInt64) (result : Except String Snapshot) :
    Reaction app (.snapshotLoaded g result) (app.snapshotLoaded g result) := by
  by_cases hg : app.polling.inFlight = some g
  · cases result with
    | ok snapshot =>
      rw [App.snapshotLoaded_ok app hg]
      constructor <;> simp [App.pollingEvent, App.conversationEvent, App.accepted?, hg,
        Conversations.react, Connection.ofOutcome, Except.isOk, Except.toBool, Except.toOption]
    | error reason =>
      rw [App.snapshotLoaded_error app hg]
      constructor <;> simp [App.pollingEvent, App.conversationEvent, App.accepted?, hg,
        Conversations.react, Connection.ofOutcome, Except.isOk, Except.toBool, Except.toOption]
  · rw [App.snapshotLoaded_of_stale app hg]
    cases result <;> constructor <;> simp [App.pollingEvent, App.conversationEvent, App.accepted?,
      hg, Conversations.react, Polling.react, Polling.finish?]

theorem reaction_privateMessagesLoaded (peer : String) (ticket : Ticket)
    (result : Except String (List MessageRecord)) :
    Reaction app (.privateMessagesLoaded peer ticket result)
      (app.privateMessagesLoaded peer ticket result, []) := by
  rw [App.privateMessagesLoaded_eq]
  exact ⟨rfl, rfl, rfl, rfl, rfl, rfl, rfl, rfl⟩

theorem reaction_closePeer (peer : String) :
    Reaction app (.closePeer peer) (app.closePeer peer, []) := by
  rw [App.closePeer_eq]
  exact ⟨rfl, rfl, rfl, rfl, rfl, rfl, rfl, rfl⟩

theorem reaction_commandFinished (command : Command) (result : Except String String) :
    Reaction app (.commandFinished command result) (app.commandFinished command result) := by
  cases result with
  | error reason =>
    cases command <;> exact Aside.reaction ⟨rfl, rfl, rfl, rfl, rfl, rfl, rfl, rfl⟩ rfl rfl rfl
  | ok detail =>
    have hwork := filter_isPolling_react app.polling app.pollInterval .request
    have hquiet := filterMap_refresh_react app.polling app.pollInterval .request
    rw [Polling.react] at hwork hquiet
    have hpin : (App.pinEffects command).filter Effect.isPolling = [] ∧
        (App.pinEffects command).filterMap Effect.refresh? = [] := by
      cases command <;> exact ⟨rfl, rfl⟩
    rw [App.commandFinished_ok]
    refine ⟨rfl, ?_, rfl, ?_, rfl, rfl, rfl, rfl⟩
    · rw [List.filter_append, List.filter_append, hpin.1, filter_isPolling_refreshEffects, hwork]
      rfl
    · rw [List.filterMap_append, List.filterMap_append, hpin.2, filterMap_refresh_refreshEffects,
        hquiet, List.nil_append, List.append_nil]
      rfl

theorem Reaction.of_standsFor {line : String} (h : Reaction app a r)
    (hline : app.StandsFor line a) : Reaction app (.submit line) r where
  polling := by rw [hline.pollingEvent]; exact h.polling
  pollingWork := by rw [hline.pollingEvent]; exact h.pollingWork
  conversations := by rw [hline.conversationEvent]; exact h.conversations
  refreshes := by rw [hline.conversationEvent]; exact h.refreshes
  snapshot := by rw [hline.accepted?]; exact h.snapshot
  connection := by rw [hline.accepted?]; exact h.connection
  pollInterval := h.pollInterval
  reconnect := h.reconnect

theorem reaction_of_ne_submit (hline : ∀ line, a ≠ .submit line) :
    Reaction app a (update app a) := by
  cases a with
  | start => exact reaction_requestTick rfl rfl rfl
  | refresh => exact reaction_requestTick rfl rfl rfl
  | timerFired t => exact reaction_timerFired t
  | snapshotLoaded g result => exact reaction_snapshotLoaded g result
  | privateMessagesLoaded peer ticket result =>
    exact reaction_privateMessagesLoaded peer ticket result
  | selectPeer peer => exact reaction_selectPeer peer
  | closePeer peer => exact reaction_closePeer peer
  | closeActiveTab => exact reaction_closeActiveTab
  | showView view => exact (app.aside_showView view).reaction rfl rfl rfl
  | nextView => exact Aside.reaction ⟨rfl, rfl, rfl, rfl, rfl, rfl, rfl, rfl⟩ rfl rfl rfl
  | submit line => exact absurd rfl (hline line)
  | addPeer address => exact (app.aside_addPeer address).reaction rfl rfl rfl
  | deletePeer address => exact (app.aside_deletePeer address).reaction rfl rfl rfl
  | rename name => exact (app.aside_run _ _).reaction rfl rfl rfl
  | startSearch keywords budget =>
    exact (app.aside_startSearch keywords budget).reaction rfl rfl rfl
  | searchChunk session chunk => exact (app.aside_searchChunk session chunk).reaction rfl rfl rfl
  | searchFinished session result =>
    exact (app.aside_searchFinished session result).reaction rfl rfl rfl
  | downloadMatch request => exact (app.aside_run _ _).reaction rfl rfl rfl
  | upload path => exact (app.aside_run _ _).reaction rfl rfl rfl
  | commandFinished command result => exact reaction_commandFinished command result
  | quit => exact Aside.reaction ⟨rfl, rfl, rfl, rfl, rfl, rfl, rfl, rfl⟩ rfl rfl rfl

end

/-- What an action does to the parts of the panel. A line does what the action does that it stands
for. -/
theorem update_reaction (app : App) (a : Action) : Reaction app a (update app a) := by
  cases a with
  | submit line =>
    rw [update]
    obtain ⟨text, hparse, hsubmit⟩ | ⟨a, hline, hsubmit⟩ | ⟨status, hline, hsubmit⟩ :=
      app.submit_cases line
    · rw [hsubmit]
      refine (app.aside_sendText text).reaction ?_ ?_ rfl
      · simp [App.pollingEvent, Action.isRequest, hparse]
      · rw [App.conversationEvent, hparse]
    · rw [hsubmit]
      exact (reaction_of_ne_submit hline.ne_submit).of_standsFor hline
    · rw [hsubmit]
      exact (app.aside_withStatus status).reaction hline.pollingEvent hline.conversationEvent rfl
  | _ => exact reaction_of_ne_submit (by simp)

end GossipPanel.Panel
