import GossipPanel.Proofs.Reaction

/-!
# Commands

Which commands an action asks for, and what it does to the flag that a message is being sent.

* `History.commands`: the commands that are pending; `command_reports` counts them along a run.
* `App.CommandStep`: everything that an action can do to the commands and to the flag.
* `update_commandStep`: `update` does one of these things.
-/

namespace GossipPanel.Panel

open Node Text

def Effect.command? : Effect → Option Command
  | run command => some command
  | _ => none

def Action.finished? : Action → Option Command
  | commandFinished command _ => some command
  | _ => none

theorem command_reports : Reports Effect.command? Action.finished? where
  answers_iff {a e c} hw := by
    cases e <;> cases hw
    cases a <;> simp [Action.answers, Action.finished?]
  work_of_answers {a e c} ho hae := by
    cases a <;> cases ho
    cases e <;> simp_all [Action.answers, Effect.command?]

namespace History

/-- The commands that have not finished. -/
def commands (h : History) : List Command :=
  h.pending.filterMap Effect.command?

theorem commands_step (h : History) (a : Action) :
    (h.step a).commands =
      eraseAnswered h.commands a.finished? ++ (update h.app a).2.filterMap Effect.command? :=
  command_reports.filterMap_pending_step h a

end History

/-- Commands only finish that are pending. -/
def AnswersCommands (h : History) (a : Action) : Prop :=
  ∀ c ∈ a.finished?, c ∈ h.commands

instance (h : History) (a : Action) : Decidable (AnswersCommands h a) :=
  Option.decidableForallMem a.finished?

namespace App

def isToggle : Command → Bool
  | .togglePeer _ _ => true
  | _ => false

/-- What an action can do to the flag that a message is being sent, and the commands that it asks
for: at most one, a message only while none is being sent, and a toggle only as the last snapshot
allows. -/
inductive CommandStep (app : App) : Action → Bool → List Command → Prop where
  | finished {command : Command} {result : Except String String} :
      CommandStep app (.commandFinished command result) (app.sending && !command.isMessage) []
  | quiet {a : Action} (ha : a.finished? = none) : CommandStep app a app.sending []
  | message {a : Action} {command : Command} (ha : a.finished? = none)
      (hidle : app.sending = false) (hmessage : command.isMessage = true) :
      CommandStep app a true [command]
  | toggle {a : Action} {address : String} (ha : a.finished? = none) :
      CommandStep app a app.sending [.togglePeer address (!app.hasPeer address)]
  | other {a : Action} {command : Command} (ha : a.finished? = none)
      (hmessage : command.isMessage = false) (htoggle : isToggle command = false) :
      CommandStep app a app.sending [command]

/-! ## Work that is no command -/

theorem filterMap_command_refreshEffects (issued : List (String × Ticket)) :
    (refreshEffects issued).filterMap Effect.command? = [] :=
  filterMap_refreshEffects_eq_nil issued fun _ _ => rfl

theorem filterMap_command_react (p : Polling) (interval : UInt64) (event : PollingEvent) :
    (p.react interval event).2.filterMap Effect.command? = [] := by
  refine Polling.filterMap_react_eq_nil (fun e he => ?_) p interval event
  cases e <;> first | rfl | cases he

theorem filterMap_command_request (p : Polling) :
    p.request.2.filterMap Effect.command? = [] :=
  filterMap_command_react p 0 .request

theorem filterMap_command_pinEffects (command : Command) :
    (pinEffects command).filterMap Effect.command? = [] := by
  cases command <;> rfl

/-! ## Each operation -/

variable {app : App} {a : Action}

/-- The step is one for the result of an operation. -/
def Commands (app : App) (a : Action) (r : App × List Effect) : Prop :=
  CommandStep app a r.1.sending (r.2.filterMap Effect.command?)

theorem commands_quiet {r : App × List Effect} (ha : a.finished? = none)
    (hsending : r.1.sending = app.sending) (hnone : r.2.filterMap Effect.command? = []) :
    Commands app a r := by
  rw [Commands, hsending, hnone]
  exact .quiet ha

theorem commands_requestTick (ha : a.finished? = none) : Commands app a app.requestTick := by
  rw [requestTick_eq]
  exact commands_quiet ha rfl (filterMap_command_request _)

theorem commands_timerFired (t : UInt64) :
    Commands app (.timerFired t) (update app (.timerFired t)) := by
  cases hf : app.polling.fire? t with
  | none =>
    have hupdate : update app (.timerFired t) = (app, []) := by simp [update, hf]
    rw [hupdate]
    exact commands_quiet rfl rfl rfl
  | some q =>
    have hupdate : update app (.timerFired t) =
        ({ app with polling := q.request.1 }, q.request.2) := by
      simp [update, hf, requestTick_eq]
    rw [hupdate]
    exact commands_quiet rfl rfl (filterMap_command_request _)

theorem commands_snapshotLoaded (g : UInt64) (result : Except String Snapshot) :
    Commands app (.snapshotLoaded g result) (app.snapshotLoaded g result) := by
  by_cases hg : app.polling.inFlight = some g
  · cases result with
    | ok snapshot =>
      rw [snapshotLoaded_ok app hg]
      refine commands_quiet rfl rfl ?_
      rw [List.filterMap_append, filterMap_command_refreshEffects, filterMap_command_react]
      rfl
    | error reason =>
      rw [snapshotLoaded_error app hg]
      exact commands_quiet rfl rfl (filterMap_command_react _ _ _)
  · rw [snapshotLoaded_of_stale app hg]
    exact commands_quiet rfl rfl rfl

theorem commands_addPeer (ha : a.finished? = none) (address : String) :
    Commands app a (app.addPeer address) := by
  rw [addPeer]
  cases hpeer : app.hasPeer address with
  | true => exact commands_quiet ha rfl rfl
  | false =>
    have htoggle : CommandStep app a app.sending [.togglePeer address (!app.hasPeer address)] :=
      .toggle ha
    rw [hpeer] at htoggle
    exact htoggle

theorem commands_deletePeer (ha : a.finished? = none) (address : String) :
    Commands app a (app.deletePeer address) := by
  rw [deletePeer]
  cases hpeer : app.hasPeer address with
  | false => exact commands_quiet ha rfl rfl
  | true =>
    have htoggle : CommandStep app a app.sending [.togglePeer address (!app.hasPeer address)] :=
      .toggle ha
    rw [hpeer] at htoggle
    exact htoggle

theorem commands_startSearch (ha : a.finished? = none) (keywords : String) (budget : UInt32) :
    Commands app a (app.startSearch keywords budget) := by
  unfold startSearch
  dsimp only
  split <;> exact commands_quiet ha rfl rfl

theorem isMessage_messageCommand (view : View) (text : String) :
    (messageCommand view text).isMessage = true := by
  cases view <;> rfl

theorem commands_sendText (ha : a.finished? = none) (text : String) :
    Commands app a (app.sendText text) := by
  unfold sendText
  split
  · exact commands_quiet ha rfl rfl
  · split
    · exact commands_startSearch ha _ _
    · split
      · exact commands_quiet ha rfl rfl
      · rename_i hidle
        exact .message ha (by simpa using hidle) (isMessage_messageCommand _ _)

theorem commands_showView (view : View) :
    Commands app (.showView view) (app.showView view, []) := by
  unfold showView
  split
  · split <;> exact commands_quiet rfl rfl rfl
  · exact commands_quiet rfl rfl rfl

theorem commands_searchChunk (session : UInt64) (chunk : String) :
    Commands app (.searchChunk session chunk) (app.searchChunk session chunk, []) := by
  unfold searchChunk
  split <;> exact commands_quiet rfl rfl rfl

theorem commands_searchFinished (session : UInt64) (result : Except String Unit) :
    Commands app (.searchFinished session result) (app.searchFinished session result, []) := by
  unfold searchFinished
  split <;> split <;> exact commands_quiet rfl rfl rfl

theorem commands_commandFinished (command : Command) (result : Except String String) :
    Commands app (.commandFinished command result) (app.commandFinished command result) := by
  have hfinished : CommandStep app (.commandFinished command result)
      (app.sending && !command.isMessage) [] := .finished
  cases result with
  | error reason =>
    have hsending : (app.commandFinished command (.error reason)).1.sending =
        (app.sending && !command.isMessage) := by
      cases command <;> simp [commandFinished, Command.isMessage, withStatus]
    rw [Commands, hsending]
    exact hfinished
  | ok detail =>
    have hsending : (if command.isMessage then false else app.sending) =
        (app.sending && !command.isMessage) := by
      cases command.isMessage <;> simp
    rw [Commands, commandFinished_ok, List.filterMap_append, List.filterMap_append,
      filterMap_command_pinEffects, filterMap_command_refreshEffects, filterMap_command_request]
    exact hsending ▸ hfinished

theorem commands_of_ne_submit (hline : ∀ line, a ≠ .submit line) :
    Commands app a (update app a) := by
  cases a with
  | start => exact commands_requestTick rfl
  | refresh => exact commands_requestTick rfl
  | timerFired t => exact commands_timerFired t
  | snapshotLoaded g result => exact commands_snapshotLoaded g result
  | privateMessagesLoaded peer ticket result =>
    rw [update, privateMessagesLoaded_eq]
    exact commands_quiet rfl rfl rfl
  | selectPeer peer =>
    rw [update, selectPeer_eq]
    exact commands_quiet rfl rfl (filterMap_command_refreshEffects _)
  | closePeer peer =>
    rw [update, closePeer_eq]
    exact commands_quiet rfl rfl rfl
  | closeActiveTab =>
    rw [update, closeActiveTab_eq]
    exact commands_quiet rfl rfl rfl
  | showView view => exact commands_showView view
  | nextView => exact commands_quiet rfl rfl rfl
  | submit line => exact absurd rfl (hline line)
  | addPeer address => exact commands_addPeer rfl address
  | deletePeer address => exact commands_deletePeer rfl address
  | rename name => exact .other rfl rfl rfl
  | startSearch keywords budget => exact commands_startSearch rfl keywords budget
  | searchChunk session chunk => exact commands_searchChunk session chunk
  | searchFinished session result => exact commands_searchFinished session result
  | downloadMatch request => exact .other rfl rfl rfl
  | upload path => exact .other rfl rfl rfl
  | commandFinished command result => exact commands_commandFinished command result
  | quit => exact commands_quiet rfl rfl rfl

theorem StandsFor.finished? {line : String} (h : app.StandsFor line a) : a.finished? = none := by
  obtain ⟨input, -, haction⟩ := h
  cases input <;> cases haction <;> rfl

theorem CommandStep.of_not_finished {b : Action} {sending : Bool} {commands : List Command}
    (h : CommandStep app a sending commands) (ha : a.finished? = none) (hb : b.finished? = none) :
    CommandStep app b sending commands := by
  cases h with
  | finished => cases ha
  | quiet => exact .quiet hb
  | message _ hidle hmessage => exact .message hb hidle hmessage
  | toggle => exact .toggle hb
  | other _ hmessage htoggle => exact .other hb hmessage htoggle

end App

/-- What `update` does to the flag and to the commands. -/
theorem update_commandStep (app : App) (a : Action) :
    app.CommandStep a (update app a).1.sending ((update app a).2.filterMap Effect.command?) := by
  show App.Commands app a (update app a)
  cases a with
  | submit line =>
    rw [update]
    obtain ⟨text, -, hsubmit⟩ | ⟨a, hline, hsubmit⟩ | ⟨status, -, hsubmit⟩ := app.submit_cases line
    · rw [hsubmit]
      exact App.commands_sendText rfl text
    · rw [hsubmit]
      exact (App.commands_of_ne_submit hline.ne_submit).of_not_finished hline.finished? rfl
    · rw [hsubmit]
      exact App.commands_quiet rfl rfl rfl
  | _ => exact App.commands_of_ne_submit (by simp)

end GossipPanel.Panel
