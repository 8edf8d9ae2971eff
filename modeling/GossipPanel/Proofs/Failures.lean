import GossipPanel.Proofs.ActiveView
import GossipPanel.Proofs.SearchSession

/-!
# Failures lose no data

A failure reaches the panel as a tick, a refresh, a search or a command that ended with an error,
or as a line that cannot be read. Each of the five writes the status line and the one mark that
says what has ended.

* `Conversation.failedBy`, `Session.failedBy`: a tab and a session after a failure.
* `App.failedTick?`: the failure of the tick in flight, the only one after which work is asked for.
* `App.FailureStep`: everything that a failure does; `update_failureStep` has one case for each of
  the five.
* `failures_lose_nothing`: what all of them leave alone after every run.
-/

namespace GossipPanel.Panel

open Node Text

/-- The action brings an error, or a line that cannot be read. -/
def Action.isFailure : Action → Bool
  | snapshotLoaded _ (.error _) | privateMessagesLoaded _ _ (.error _)
  | searchFinished _ (.error _) | commandFinished _ (.error _) => true
  | submit line => !(Input.parse line).isOk
  | _ => false

/-- The tab after a failure: a refresh of its own that failed is over. -/
def Conversation.failedBy (c : Conversation) : Action → Conversation
  | .privateMessagesLoaded peer ticket (.error _) =>
    if c.peer = peer ∧ c.ticket = ticket then { c with refreshing := false } else c
  | _ => c

/-- The session after a failure: if it is running and its own search failed, it has failed. -/
def Session.failedBy (s : Session) : Action → Session
  | .searchFinished id (.error reason) =>
    if s.id = id ∧ s.isRunning = true then { s with progress := .failed reason } else s
  | _ => s

namespace App

/-- Why the tick in flight has failed. -/
def failedTick? (app : App) (a : Action) : Option String :=
  match app.accepted? a with
  | some (_, .error reason) => some reason
  | _ => none

/-- The work that follows a failed tick: the tick that was asked for meanwhile, else the next one
after the interval, unless polling waits for the user. -/
def workAfterFailedTick (app : App) : List Effect :=
  if app.polling.requested then [.fetchSnapshot (app.polling.generation + 1)]
  else if app.reconnect = .auto then [.scheduleTick (app.polling.lastTimer + 1) app.pollInterval]
  else []

/-- All that a failure does. -/
structure FailureStep (app : App) (a : Action) (r : App × List Effect) : Prop where
  /-- The snapshot, the view and the settings are not written. -/
  rest : r.1 =
    { app with
      connection := r.1.connection
      polling := r.1.polling
      conversations := r.1.conversations
      search := r.1.search
      sending := r.1.sending
      status := r.1.status }
  conversations : r.1.conversations =
    { app.conversations with tabs := app.conversations.tabs.map (·.failedBy a) }
  search : r.1.search = { app.search with session := app.search.session.map (·.failedBy a) }
  sending : r.1.sending = (app.sending && !a.finished?.any Command.isMessage)
  noTick : app.failedTick? a = none →
    r.1.connection = app.connection ∧ r.1.polling = app.polling ∧ r.2 = []
  tick : ∀ reason, app.failedTick? a = some reason →
    r.1.connection = .disconnected reason ∧ r.2 = app.workAfterFailedTick

end App

/-! ## Tabs and sessions that are not concerned -/

theorem Conversations.map_failedBy_of_ne {a : Action} (cs : Conversations)
    (ha : ∀ c : Conversation, c.failedBy a = c) :
    { cs with tabs := cs.tabs.map (·.failedBy a) } = cs := by
  simp [ha]

/-- A refresh that failed ends for the tab that it was for. Peers have one tab each, so no other
tab is touched. -/
theorem Conversations.answer_error {cs : Conversations} (hpeers : (cs.tabs.map (·.peer)).Nodup)
    (peer : String) (ticket : Ticket) (reason : String) :
    cs.answer peer ticket (.error reason) =
      { cs with
        tabs := cs.tabs.map (·.failedBy (.privateMessagesLoaded peer ticket (.error reason))) } := by
  have hcurrent : ∀ c ∈ cs.tabs, c.peer = peer →
      (cs.isCurrent peer ticket = true ↔ c.ticket = ticket) := by
    rintro c hc rfl
    simp [isCurrent, get?_eq_of_nodup hpeers hc]
  rw [answer_eq, modify]
  split
  · rename_i hcur
    congr 1
    refine List.map_congr_left fun c hc => ?_
    by_cases hpeer : c.peer = peer
    · have hticket := (hcurrent c hc hpeer).1 hcur
      simp [Conversation.failedBy, settled, hpeer, hticket]
    · simp [Conversation.failedBy, hpeer]
  · rename_i hcur
    have hkeep : ∀ c ∈ cs.tabs,
        c.failedBy (.privateMessagesLoaded peer ticket (.error reason)) = c := by
      intro c hc
      refine if_neg fun h => ?_
      exact hcur ((hcurrent c hc h.1).2 h.2)
    rw [List.map_congr_left hkeep, List.map_id']

/-! ## Each failure -/

namespace App

variable {app : App}

theorem failureStep_note {a : Action} (htick : app.failedTick? a = none)
    (htabs : ∀ c : Conversation, c.failedBy a = c) (hsession : ∀ s : Session, s.failedBy a = s)
    (status : String) :
    FailureStep app a
      ({ app with sending := app.sending && !a.finished?.any Command.isMessage, status }, []) where
  rest := rfl
  conversations := (app.conversations.map_failedBy_of_ne htabs).symm
  search := by simp [hsession]
  sending := rfl
  noTick _ := ⟨rfl, rfl, rfl⟩
  tick reason h := by simp [htick] at h

theorem workAfterFailedTick_eq {g : UInt64} (hg : app.polling.inFlight = some g) :
    (app.polling.react app.pollInterval (.outcome g (app.reconnect == .auto))).2 =
      app.workAfterFailedTick := by
  rw [workAfterFailedTick]
  by_cases hrequested : app.polling.requested = true
  · simp [Polling.react, Polling.finish?, hg, Polling.proceed, hrequested, Polling.takeRequest,
      Polling.request, Polling.beginTick]
  · by_cases hauto : app.reconnect = .auto
    · simp [Polling.react, Polling.finish?, hg, Polling.proceed, hrequested, hauto,
        Polling.takeRequest, Polling.armTimer]
    · simp [Polling.react, Polling.finish?, hg, Polling.proceed, hrequested, hauto]

theorem failureStep_snapshotLoaded (g : UInt64) (reason : String) :
    FailureStep app (.snapshotLoaded g (.error reason))
      (app.snapshotLoaded g (.error reason)) := by
  by_cases hg : app.polling.inFlight = some g
  · have htick : app.failedTick? (.snapshotLoaded g (.error reason)) = some reason := by
      simp [failedTick?, accepted?, hg]
    rw [snapshotLoaded_error app hg]
    refine ⟨rfl, (app.conversations.map_failedBy_of_ne fun _ => rfl).symm, ?_, ?_, ?_, ?_⟩
    · simp [Session.failedBy]
    · simp [Action.finished?]
    · simp [htick]
    · intro reason' h
      obtain rfl := Option.some.inj (htick.symm.trans h)
      exact ⟨rfl, workAfterFailedTick_eq hg⟩
  · have hstale : app.failedTick? (.snapshotLoaded g (.error reason)) = none := by
      simp [failedTick?, accepted?, hg]
    rw [snapshotLoaded_of_stale app hg]
    have hstep := failureStep_note hstale (fun _ => rfl) (fun _ => rfl) app.status
    simpa [Action.finished?] using hstep

theorem failureStep_privateMessagesLoaded
    (hpeers : (app.conversations.tabs.map (·.peer)).Nodup) (peer : String) (ticket : Ticket)
    (reason : String) :
    FailureStep app (.privateMessagesLoaded peer ticket (.error reason))
      (app.privateMessagesLoaded peer ticket (.error reason), []) := by
  rw [privateMessagesLoaded_eq, Conversations.answer_error hpeers]
  refine ⟨rfl, rfl, ?_, ?_, fun _ => ⟨rfl, rfl, rfl⟩, fun reason' h => ?_⟩
  · simp [Session.failedBy]
  · simp [Action.finished?]
  · cases h

theorem failureStep_searchFinished (id : UInt64) (reason : String) :
    FailureStep app (.searchFinished id (.error reason))
      (app.searchFinished id (.error reason), []) := by
  have hsearch : (app.search.finish? id (.error reason)).getD app.search =
      { app.search with
        session := app.search.session.map (·.failedBy (.searchFinished id (.error reason))) } := by
    rw [Search.finish?, Search.fail?, Search.getD_modify?]
    congr 2
    funext session
    by_cases hid : session.id = id <;> simp [Session.failedBy, Session.fail, hid]
  rw [searchFinished_eq, hsearch]
  refine ⟨rfl, ?_, rfl, ?_, fun _ => ⟨rfl, rfl, rfl⟩, fun reason' h => ?_⟩
  · exact (app.conversations.map_failedBy_of_ne fun _ => rfl).symm
  · simp [Action.finished?]
  · cases h

theorem failureStep_commandFinished (command : Command) (reason : String) :
    FailureStep app (.commandFinished command (.error reason))
      (app.commandFinished command (.error reason)) := by
  have hnone : app.failedTick? (.commandFinished command (.error reason)) = none := rfl
  have hstep := failureStep_note hnone (fun _ => rfl) (fun _ => rfl)
    s!"{command.label} failed: {reason}"
  have hresult : app.commandFinished command (.error reason) =
      ({ app with
          sending := app.sending && !command.isMessage
          status := s!"{command.label} failed: {reason}" }, []) := by
    cases command <;> simp [commandFinished, Command.isMessage, withStatus]
  rw [hresult]
  exact hstep

theorem failureStep_submit {line : String} {e : InputError} (h : Input.parse line = .error e) :
    FailureStep app (.submit line) (app.submit line) := by
  rw [submit_of_error app h]
  have hnone : app.failedTick? (.submit line) = none := rfl
  have hstep := failureStep_note hnone (fun _ => rfl) (fun _ => rfl) (refusalText e)
  simpa [Action.finished?, withStatus] using hstep

/-- What `update` does on a failure, if no two tabs have the same peer. -/
theorem update_failureStep (hpeers : (app.conversations.tabs.map (·.peer)).Nodup) {a : Action}
    (ha : a.isFailure = true) : FailureStep app a (update app a) := by
  cases a with
  | snapshotLoaded g result =>
    cases result with
    | ok snapshot => cases ha
    | error reason => exact failureStep_snapshotLoaded g reason
  | privateMessagesLoaded peer ticket result =>
    cases result with
    | ok messages => cases ha
    | error reason => exact failureStep_privateMessagesLoaded hpeers peer ticket reason
  | searchFinished id result =>
    cases result with
    | ok done => cases ha
    | error reason => exact failureStep_searchFinished id reason
  | commandFinished command result =>
    cases result with
    | ok detail => cases ha
    | error reason => exact failureStep_commandFinished command reason
  | submit line =>
    cases hparse : Input.parse line with
    | ok input => simp [Action.isFailure, hparse, Except.isOk, Except.toBool] at ha
    | error e => exact failureStep_submit hparse
  | _ => cases ha

end App

/-! ## What no failure touches -/

theorem Conversation.stopped_failedBy (c : Conversation) (a : Action) :
    { c.failedBy a with refreshing := false } = { c with refreshing := false } := by
  unfold failedBy
  split
  · split <;> rfl
  · rfl

theorem Session.running_failedBy (s : Session) (a : Action) :
    { s.failedBy a with progress := .running } = { s with progress := .running } := by
  unfold failedBy
  split
  · split <;> rfl
  · rfl

/-- **Failures lose no data.** After every run, an action that brings an error or a line that
cannot be read

* keeps the snapshot, the view, the tabs in their order and all that they hold but their marks of
  a refresh, and the session of the search but its progress;
* writes nothing but the connection, the tokens of polling, those marks, that progress, the mark
  that a message is being sent, and the status line: the connection and the tokens if it is the
  failure of the tick in flight, the mark of the tab whose latest refresh it ends, the progress of
  the running session that it ends, the mark of sending if it ends a message;
* asks for no work, but for the next tick or its timer after the failure of the tick in flight. -/
theorem failures_lose_nothing (s : Settings.Resolved) (actions : List Action) {a : Action}
    (ha : a.isFailure = true) :
    let app := (history s actions).app
    let next := (update app a).1
    let work := (update app a).2
    (next.snapshot = app.snapshot ∧ next.view = app.view ∧
        next.conversations.tabs.map (fun c => { c with refreshing := false }) =
          app.conversations.tabs.map (fun c => { c with refreshing := false }) ∧
        next.search.session.map (fun s => { s with progress := .running }) =
          app.search.session.map (fun s => { s with progress := .running })) ∧
      (next =
          { app with
            connection := next.connection
            polling := next.polling
            conversations :=
              { app.conversations with tabs := app.conversations.tabs.map (·.failedBy a) }
            search := { app.search with session := app.search.session.map (·.failedBy a) }
            sending := app.sending && !a.finished?.any Command.isMessage
            status := next.status } ∧
        (app.failedTick? a = none →
          next.connection = app.connection ∧ next.polling = app.polling)) ∧
      (app.failedTick? a = none → work = []) ∧
      ∀ reason, app.failedTick? a = some reason →
        next.connection = .disconnected reason ∧ work = app.workAfterFailedTick := by
  intro app next work
  have hstep : App.FailureStep app a (next, work) :=
    App.update_failureStep (nodup_peers_history s actions) ha
  have hrest := hstep.rest
  have hsnapshot := congrArg App.snapshot hrest
  have hview := congrArg App.view hrest
  refine ⟨⟨hsnapshot, hview, ?_, ?_⟩, ⟨?_, fun h => ?_⟩, fun h => (hstep.noTick h).2.2,
    hstep.tick⟩
  · rw [show next.conversations = _ from hstep.conversations, List.map_map]
    exact List.map_congr_left fun c _ => c.stopped_failedBy a
  · rw [show next.search = _ from hstep.search, Option.map_map]
    congr 1
    funext session
    exact session.running_failedBy a
  · rw [← hstep.conversations, ← hstep.search, ← hstep.sending]
    exact hrest
  · exact ⟨(hstep.noTick h).1, (hstep.noTick h).2.1⟩

/-- A tick fails while a conversation is open, a search runs and a refresh has been asked for. -/
theorem data_after_failed_tick :
    let actions := [.selectPeer "bob",
      .privateMessagesLoaded "bob" ⟨2, 1⟩ (.ok [{ fromNode := "bob", content := "hi" }]),
      .startSearch "a" 0, .searchChunk 1 "x", .start, .refresh]
    let after := update (history {} actions).app (.snapshotLoaded 1 (.error "gone"))
    after.1.conversations.tabs.map (fun c => { c with refreshing := false }) =
        [{ peer := "bob", ordinal := 2, messages := [{ fromNode := "bob", content := "hi" }]
           loaded := true, generation := 1 }] ∧
      after.1.connection = .disconnected "gone" ∧ after.2 = [.fetchSnapshot 2] := by
  intro actions after
  have hfailure : (Action.snapshotLoaded 1 (.error "gone")).isFailure = true := rfl
  obtain ⟨⟨-, -, htabs, -⟩, -, -, htick⟩ := failures_lose_nothing {} actions hfailure
  obtain ⟨hconnection, hwork⟩ := htick "gone" (by decide)
  exact ⟨htabs.trans (by decide), hconnection, hwork.trans (by decide)⟩

end GossipPanel.Panel
