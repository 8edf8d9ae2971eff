import GossipPanel.Proofs.ActiveView
import GossipPanel.Proofs.SearchSession
import GossipPanel.Proofs.StaleCompletions

/-!
# Search and synchronisation do not interfere

What the node reports about a search reaches the search and the status line only, and what it
reports about anything else reaches neither the search, nor the view, nor which conversations are
open.

* `Covers cover hidden`: `cover` forgets a part of the panel. Hidden actions write to that part
  only, and no other action reads it.
* `Covers.run`, `Covers.work`: hidden actions can be left out of a run.
* `App.withoutSearch`: forgets the session of the search and the status line; `covers_search`.
* `App.outline`: forgets all but the search, the view and the names of the open conversations;
  `covers_node`.
* `search_and_node_independent`: the two for whole runs.
-/

namespace GossipPanel.Panel

open Node Text

namespace Action

/-- The action reports on a search. -/
def isSearchReport (a : Action) : Bool :=
  a.session?.isSome

/-- The action reports on a tick, a timer, a refresh of a conversation or a command. -/
def isNodeReport : Action → Bool
  | snapshotLoaded _ _ | timerFired _ | privateMessagesLoaded _ _ _ | commandFinished _ _ => true
  | _ => false

end Action

/-! ## Leaving out hidden actions -/

/-- Hidden actions write only to what `cover` forgets, and the others do not read it. -/
structure Covers (cover : App → App) (hidden : Action → Bool) : Prop where
  update_hidden : ∀ app {a}, hidden a = true → cover (update app a).1 = cover app
  update_shown : ∀ app {a}, hidden a = false →
    cover (update app a).1 = cover (update (cover app) a).1

namespace History

/-- What those actions of a run ask for that are not hidden. -/
def workBesides (hidden : Action → Bool) (h : History) (actions : List Action) :
    List (List Effect) :=
  ((h.moments actions).filter fun m => !hidden m.2).map fun m => (update m.1.app m.2).2

end History

namespace Covers

variable {cover : App → App} {hidden : Action → Bool} {h h' : History}

theorem step_shown (hc : Covers cover hidden) (happ : cover h.app = cover h'.app) {a : Action}
    (ha : hidden a = false) : cover (h.step a).app = cover (h'.step a).app := by
  calc cover (update h.app a).1
      = cover (update (cover h.app) a).1 := hc.update_shown h.app ha
    _ = cover (update (cover h'.app) a).1 := by rw [happ]
    _ = cover (update h'.app a).1 := (hc.update_shown h'.app ha).symm

theorem step_hidden (hc : Covers cover hidden) (happ : cover h.app = cover h'.app) {a : Action}
    (ha : hidden a = true) : cover (h.step a).app = cover h'.app :=
  (hc.update_hidden h.app ha).trans happ

/-- Runs from states that look alike end in states that look alike, also without the hidden
actions. -/
theorem run (hc : Covers cover hidden) (happ : cover h.app = cover h'.app)
    (actions : List Action) :
    cover (h.run actions).app = cover (h'.run (actions.filter fun a => !hidden a)).app := by
  induction actions generalizing h h' with
  | nil => exact happ
  | cons a actions ih =>
    cases ha : hidden a with
    | true =>
      rw [List.filter_cons_of_neg (by simp [ha])]
      exact ih (hc.step_hidden happ ha)
    | false =>
      rw [List.filter_cons_of_pos (by simp [ha])]
      exact ih (hc.step_shown happ ha)

theorem work (hc : Covers cover hidden)
    (hwork : ∀ app {a}, hidden a = false → (update app a).2 = (update (cover app) a).2)
    (happ : cover h.app = cover h'.app) (actions : List Action) :
    h.workBesides hidden actions = h'.work (actions.filter fun a => !hidden a) := by
  induction actions generalizing h h' with
  | nil => rfl
  | cons a actions ih =>
    cases ha : hidden a with
    | true =>
      have hrest := ih (hc.step_hidden happ ha)
      rw [List.filter_cons_of_neg (by simp [ha]), ← hrest]
      simp [History.workBesides, History.moments, ha]
    | false =>
      have hrest := ih (hc.step_shown happ ha)
      have hfirst : (update h.app a).2 = (update h'.app a).2 := by
        rw [hwork h.app ha, happ, ← hwork h'.app ha]
      rw [List.filter_cons_of_pos (by simp [ha])]
      simpa [History.workBesides, History.moments, History.work, ha, hfirst] using hrest

end Covers

namespace App

/-! ## Without the search -/

/-- The panel without the session of the search and the status line. The number of the latest
search stays: the next search gets the one after it. -/
def withoutSearch (app : App) : App :=
  { app with search := { lastId := app.search.lastId }, status := "" }

/-- The results differ in the search and the status line only. -/
def SameBesidesSearch (r r' : App × List Effect) : Prop :=
  r.1.withoutSearch = r'.1.withoutSearch ∧ r.2 = r'.2

variable (app : App)

theorem requestTick_withoutSearch :
    SameBesidesSearch app.requestTick app.withoutSearch.requestTick := by
  rw [requestTick_eq, requestTick_eq]
  exact ⟨rfl, rfl⟩

theorem timerFired_withoutSearch (t : UInt64) :
    SameBesidesSearch (update app (.timerFired t)) (update app.withoutSearch (.timerFired t)) := by
  have hsame : app.withoutSearch.polling = app.polling := rfl
  rw [update, update, hsame]
  cases app.polling.fire? t with
  | none => exact ⟨rfl, rfl⟩
  | some polling => exact requestTick_withoutSearch { app with polling }

theorem snapshotLoaded_withoutSearch (g : UInt64) (result : Except String Snapshot) :
    SameBesidesSearch (app.snapshotLoaded g result) (app.withoutSearch.snapshotLoaded g result) := by
  by_cases hg : app.polling.inFlight = some g
  · cases result with
    | ok snapshot =>
      rw [snapshotLoaded_ok app hg, snapshotLoaded_ok app.withoutSearch hg]
      exact ⟨rfl, rfl⟩
    | error reason =>
      rw [snapshotLoaded_error app hg, snapshotLoaded_error app.withoutSearch hg]
      exact ⟨rfl, rfl⟩
  · rw [snapshotLoaded_of_stale app hg, snapshotLoaded_of_stale app.withoutSearch hg]
    exact ⟨rfl, rfl⟩

theorem selectPeer_withoutSearch (peer : String) :
    SameBesidesSearch (app.selectPeer peer) (app.withoutSearch.selectPeer peer) := by
  rw [selectPeer_eq, selectPeer_eq]
  exact ⟨rfl, rfl⟩

theorem closePeer_withoutSearch (peer : String) :
    SameBesidesSearch (app.closePeer peer, []) (app.withoutSearch.closePeer peer, []) := by
  have hsame : app.withoutSearch.conversations.contains peer = app.conversations.contains peer :=
    rfl
  rw [closePeer, closePeer, hsame]
  split <;> exact ⟨rfl, rfl⟩

theorem closeActiveTab_withoutSearch :
    SameBesidesSearch (app.closeActiveTab, []) (app.withoutSearch.closeActiveTab, []) := by
  have hview : app.withoutSearch.view = app.view := rfl
  rw [closeActiveTab, closeActiveTab, hview]
  cases app.view with
  | peer name => exact closePeer_withoutSearch app name
  | _ => exact ⟨rfl, rfl⟩

theorem showView_withoutSearch (view : View) :
    SameBesidesSearch (app.showView view, []) (app.withoutSearch.showView view, []) := by
  cases view with
  | peer name =>
    have hsame : app.withoutSearch.conversations.contains name = app.conversations.contains name :=
      rfl
    rw [showView, showView, hsame]
    split <;> exact ⟨rfl, rfl⟩
  | _ => exact ⟨rfl, rfl⟩

theorem addPeer_withoutSearch (address : String) :
    SameBesidesSearch (app.addPeer address) (app.withoutSearch.addPeer address) := by
  have hsame : app.withoutSearch.hasPeer address = app.hasPeer address := rfl
  rw [addPeer, addPeer, hsame]
  split <;> exact ⟨rfl, rfl⟩

theorem deletePeer_withoutSearch (address : String) :
    SameBesidesSearch (app.deletePeer address) (app.withoutSearch.deletePeer address) := by
  have hsame : app.withoutSearch.hasPeer address = app.hasPeer address := rfl
  rw [deletePeer, deletePeer, hsame]
  split <;> exact ⟨rfl, rfl⟩

theorem startSearch_withoutSearch (keywords : String) (budget : UInt32) :
    SameBesidesSearch (app.startSearch keywords budget)
      (app.withoutSearch.startSearch keywords budget) := by
  unfold startSearch
  dsimp only
  split <;> exact ⟨rfl, rfl⟩

theorem sendText_withoutSearch (text : String) :
    SameBesidesSearch (app.sendText text) (app.withoutSearch.sendText text) := by
  have hview : app.withoutSearch.view = app.view := rfl
  have hsending : app.withoutSearch.sending = app.sending := rfl
  rw [sendText, sendText, hview, hsending]
  split
  · exact ⟨rfl, rfl⟩
  · split
    · exact startSearch_withoutSearch app text app.defaultBudget
    · split <;> exact ⟨rfl, rfl⟩

theorem commandFinished_withoutSearch (command : Command) (result : Except String String) :
    SameBesidesSearch (app.commandFinished command result)
      (app.withoutSearch.commandFinished command result) := by
  cases result with
  | error reason => cases command <;> exact ⟨rfl, rfl⟩
  | ok detail =>
    rw [commandFinished_ok, commandFinished_ok]
    exact ⟨rfl, rfl⟩

theorem privateMessagesLoaded_withoutSearch (peer : String) (ticket : Ticket)
    (result : Except String (List MessageRecord)) :
    SameBesidesSearch (app.privateMessagesLoaded peer ticket result, [])
      (app.withoutSearch.privateMessagesLoaded peer ticket result, []) := by
  rw [privateMessagesLoaded_eq app, privateMessagesLoaded_eq app.withoutSearch]
  exact ⟨rfl, rfl⟩

theorem perform_withoutSearch (input : Input) :
    SameBesidesSearch (app.perform input) (app.withoutSearch.perform input) := by
  cases input with
  | send text => exact app.sendText_withoutSearch text
  | addPeer address => exact app.addPeer_withoutSearch address
  | removePeer address => exact app.deletePeer_withoutSearch address
  | openTab peer => exact app.selectPeer_withoutSearch peer
  | closeTab => exact app.closeActiveTab_withoutSearch
  | search keywords budget =>
    exact app.startSearch_withoutSearch keywords (budget.getD app.defaultBudget)
  | refresh => exact app.requestTick_withoutSearch
  | _ => exact ⟨rfl, rfl⟩

theorem submit_withoutSearch (line : String) :
    SameBesidesSearch (app.submit line) (app.withoutSearch.submit line) := by
  cases hparse : Input.parse line with
  | ok input =>
    rw [submit_of_ok app hparse, submit_of_ok app.withoutSearch hparse]
    exact app.perform_withoutSearch input
  | error e =>
    rw [submit_of_error app hparse, submit_of_error app.withoutSearch hparse]
    exact ⟨rfl, rfl⟩

theorem update_withoutSearch {a : Action} (ha : a.isSearchReport = false) :
    SameBesidesSearch (update app a) (update app.withoutSearch a) := by
  cases a with
  | start => exact app.requestTick_withoutSearch
  | refresh => exact app.requestTick_withoutSearch
  | timerFired t => exact app.timerFired_withoutSearch t
  | snapshotLoaded g result => exact app.snapshotLoaded_withoutSearch g result
  | privateMessagesLoaded peer ticket result =>
    exact app.privateMessagesLoaded_withoutSearch peer ticket result
  | selectPeer peer => exact app.selectPeer_withoutSearch peer
  | closePeer peer => exact app.closePeer_withoutSearch peer
  | closeActiveTab => exact app.closeActiveTab_withoutSearch
  | showView view => exact app.showView_withoutSearch view
  | submit line => exact app.submit_withoutSearch line
  | addPeer address => exact app.addPeer_withoutSearch address
  | deletePeer address => exact app.deletePeer_withoutSearch address
  | startSearch keywords budget => exact app.startSearch_withoutSearch keywords budget
  | searchChunk session chunk => cases ha
  | searchFinished session result => cases ha
  | commandFinished command result => exact app.commandFinished_withoutSearch command result
  | _ => exact ⟨rfl, rfl⟩

theorem withoutSearch_update_report {a : Action} (ha : a.isSearchReport = true) :
    (update app a).1.withoutSearch = app.withoutSearch := by
  cases a with
  | searchChunk session text =>
    rw [update, searchChunk_eq, Search.push?, Search.getD_modify?]
    rfl
  | searchFinished session result =>
    rw [update, searchFinished_eq]
    cases result with
    | ok done =>
      rw [Search.finish?, Search.complete?, Search.getD_modify?]
      rfl
    | error reason =>
      rw [Search.finish?, Search.fail?, Search.getD_modify?]
      rfl
  | _ => cases ha

theorem covers_search : Covers withoutSearch Action.isSearchReport where
  update_hidden app _ ha := app.withoutSearch_update_report ha
  update_shown app _ ha := (app.update_withoutSearch ha).1

/-! ## Without the node -/

end App

namespace Conversations

/-- The open conversations without what the node has told about them. -/
def outline (cs : Conversations) : Conversations :=
  { tabs := cs.keys.map fun k => { peer := k.1, ordinal := k.2 }, nextOrdinal := cs.nextOrdinal }

variable {cs cs' : Conversations} {c : TabCall} {calls : List TabCall}

@[simp]
theorem keys_outline (cs : Conversations) : cs.outline.keys = cs.keys := by
  simp [keys, outline, Function.comp_def]

theorem outline_eq_iff :
    cs.outline = cs'.outline ↔ cs.keys = cs'.keys ∧ cs.nextOrdinal = cs'.nextOrdinal := by
  constructor
  · intro h
    have hnext : cs.outline.nextOrdinal = cs'.outline.nextOrdinal := congrArg _ h
    exact ⟨by rw [← keys_outline cs, h, keys_outline], hnext⟩
  · rintro ⟨hkeys, hnext⟩
    rw [outline, outline, hkeys, hnext]

@[simp]
theorem outline_outline (cs : Conversations) : cs.outline.outline = cs.outline :=
  outline_eq_iff.2 ⟨keys_outline cs, rfl⟩

@[simp]
theorem contains_outline (cs : Conversations) (peer : String) :
    cs.outline.contains peer = cs.contains peer := by
  rw [Bool.eq_iff_iff, contains_iff_mem_keys, contains_iff_mem_keys, keys_outline]

theorem created?_outline (cs : Conversations) (c : TabCall) :
    cs.outline.created? c = cs.created? c := by
  cases c with
  | select peer =>
    rw [created?, created?, contains_outline]
    rfl
  | _ => rfl

theorem outline_call (cs : Conversations) (c : TabCall) :
    (cs.call c).outline = (cs.outline.call c).outline := by
  refine outline_eq_iff.2 ⟨?_, ?_⟩
  · rw [keys_call, keys_call, keys_outline, created?_outline]
  · rw [nextOrdinal_call, nextOrdinal_call, created?_outline]
    rfl

theorem outline_callAll (h : cs.outline = cs'.outline) (calls : List TabCall) :
    (cs.callAll calls).outline = (cs'.callAll calls).outline := by
  induction calls generalizing cs cs' with
  | nil => exact h
  | cons c calls ih => exact ih (by rw [outline_call cs, outline_call cs', h])

theorem outline_call_of_quiet (hselect : ∀ peer, c ≠ .select peer)
    (hclose : ∀ peer, c ≠ .close peer) : (cs.call c).outline = cs.outline := by
  have hnone : cs.created? c = none := by
    cases c with
    | select peer => exact absurd rfl (hselect peer)
    | _ => rfl
  refine outline_eq_iff.2 ⟨?_, ?_⟩
  · rw [keys_call, hnone]
    simp [hclose]
  · rw [nextOrdinal_call, hnone]
    rfl

theorem outline_callAll_of_quiet
    (hquiet : ∀ c ∈ calls, (∀ peer, c ≠ .select peer) ∧ ∀ peer, c ≠ .close peer) :
    (cs.callAll calls).outline = cs.outline := by
  induction calls generalizing cs with
  | nil => rfl
  | cons c calls ih =>
    obtain ⟨⟨hselect, hclose⟩, hrest⟩ := List.forall_mem_cons.1 hquiet
    exact (ih hrest).trans (outline_call_of_quiet hselect hclose)

theorem outline_refreshAll (cs : Conversations) (peers : List String) :
    (cs.refreshAll peers).1.outline = cs.outline := by
  rw [refreshAll_eq_callAll]
  exact outline_callAll_of_quiet (by simp)

theorem outline_answer (cs : Conversations) (peer : String) (ticket : Ticket)
    (result : Except String (List MessageRecord)) :
    (cs.answer peer ticket result).outline = cs.outline := by
  show (cs.react (.answer peer ticket result)).1.outline = cs.outline
  rw [react_eq_callAll]
  refine outline_callAll_of_quiet ?_
  cases result <;> simp [calls]

theorem outline_react (cs : Conversations) (event : ConversationEvent) :
    (cs.react event).1.outline = (cs.outline.react event).1.outline := by
  have hcalls : cs.outline.calls event = cs.calls event := by
    cases event with
    | select peer => rw [calls, calls, contains_outline]
    | answer peer ticket result => cases result <;> rfl
    | _ => rfl
  rw [react_eq_callAll, react_eq_callAll, hcalls]
  exact outline_callAll cs.outline_outline.symm _

theorem outline_close (cs : Conversations) (peer : String) :
    (cs.close peer).outline = (cs.outline.close peer).outline :=
  cs.outline_call (.close peer)

end Conversations

namespace App

/-- The search, the view and which conversations are open, with the budget of searches that name
none. -/
def outline (app : App) : App :=
  { conversations := app.conversations.outline
    search := app.search
    view := app.view
    defaultBudget := app.defaultBudget }

variable (app : App)

theorem views_outline : app.outline.views = app.views := by
  simp [views, outline, Conversations.outline, Conversations.keys, Function.comp_def]

theorem nextView_outline : app.outline.nextView = app.nextView := by
  rw [nextView, nextView, views_outline]
  rfl

theorem outline_outline : app.outline.outline = app.outline := by
  simp only [outline, Conversations.outline_outline]

theorem outline_requestTick : app.requestTick.1.outline = app.outline := by
  rw [requestTick_eq]
  rfl

theorem outline_selectPeer (peer : String) :
    (app.selectPeer peer).1.outline = (app.outline.selectPeer peer).1.outline := by
  rw [selectPeer_eq, selectPeer_eq]
  simp only [outline, app.conversations.outline_react (selectEvent peer)]

theorem outline_closePeer (peer : String) :
    (app.closePeer peer).outline = (app.outline.closePeer peer).outline := by
  have hcontains : app.outline.conversations.contains peer = app.conversations.contains peer :=
    app.conversations.contains_outline peer
  rw [closePeer, closePeer, hcontains]
  split
  · simp only [outline, app.conversations.outline_close peer]
    rfl
  · exact app.outline_outline.symm

theorem outline_closeActiveTab :
    app.closeActiveTab.outline = app.outline.closeActiveTab.outline := by
  have hview : app.outline.view = app.view := rfl
  rw [closeActiveTab, closeActiveTab, hview]
  cases app.view with
  | peer name => exact app.outline_closePeer name
  | _ => exact app.outline_outline.symm

theorem outline_showView (view : View) :
    (app.showView view).outline = (app.outline.showView view).outline := by
  cases view with
  | peer name =>
    have hcontains : app.outline.conversations.contains name = app.conversations.contains name :=
      app.conversations.contains_outline name
    rw [showView, showView, hcontains]
    split
    · simp only [outline, Conversations.outline_outline]
    · exact app.outline_outline.symm
  | _ => simp only [showView, outline, Conversations.outline_outline]

theorem outline_addPeer (address : String) : (app.addPeer address).1.outline = app.outline := by
  rw [addPeer]
  split <;> rfl

theorem outline_deletePeer (address : String) :
    (app.deletePeer address).1.outline = app.outline := by
  rw [deletePeer]
  split <;> rfl

theorem outline_startSearch (keywords : String) (budget : UInt32) :
    (app.startSearch keywords budget).1.outline =
      (app.outline.startSearch keywords budget).1.outline := by
  unfold startSearch
  dsimp only
  split <;> simp only [withStatus, outline, Conversations.outline_outline]

theorem outline_sendText_of_ne (hview : app.view ≠ .search) (text : String) :
    (app.sendText text).1.outline = app.outline := by
  rw [sendText, if_neg hview]
  split
  · rfl
  · split <;> rfl

theorem outline_sendText (text : String) :
    (app.sendText text).1.outline = (app.outline.sendText text).1.outline := by
  by_cases hview : app.view = .search
  · have hview' : app.outline.view = .search := hview
    rw [sendText, sendText, if_pos hview, if_pos hview']
    split
    · exact app.outline_outline.symm
    · exact app.outline_startSearch text app.defaultBudget
  · -- a message is written to no part that is left
    have hview' : app.outline.view ≠ .search := hview
    rw [app.outline_sendText_of_ne hview, app.outline.outline_sendText_of_ne hview',
      outline_outline]

theorem outline_commandFinished (command : Command) (result : Except String String) :
    (app.commandFinished command result).1.outline = app.outline := by
  cases result with
  | error reason => cases command <;> rfl
  | ok detail =>
    rw [commandFinished_ok]
    cases command with
    | sendPrivate m =>
      simp only [outline, successEvent, Conversations.react, Conversations.outline_refreshAll]
    | _ => rfl

theorem outline_perform (input : Input) :
    (app.perform input).1.outline = (app.outline.perform input).1.outline := by
  cases input with
  | send text => exact app.outline_sendText text
  | addPeer address =>
    rw [perform, perform, outline_addPeer, outline_addPeer, outline_outline]
  | removePeer address =>
    rw [perform, perform, outline_deletePeer, outline_deletePeer, outline_outline]
  | openTab peer => exact app.outline_selectPeer peer
  | closeTab => exact app.outline_closeActiveTab
  | search keywords budget =>
    exact app.outline_startSearch keywords (budget.getD app.defaultBudget)
  | refresh => rw [perform, perform, outline_requestTick, outline_requestTick, outline_outline]
  | _ => exact app.outline_outline.symm

theorem outline_submit (line : String) :
    (app.submit line).1.outline = (app.outline.submit line).1.outline := by
  cases hparse : Input.parse line with
  | ok input =>
    rw [submit_of_ok app hparse, submit_of_ok app.outline hparse]
    exact app.outline_perform input
  | error e =>
    rw [submit_of_error app hparse, submit_of_error app.outline hparse]
    exact app.outline_outline.symm

theorem outline_update {a : Action} (ha : a.isNodeReport = false) :
    (update app a).1.outline = (update app.outline a).1.outline := by
  cases a with
  | start => rw [update, update, outline_requestTick, outline_requestTick, outline_outline]
  | refresh => rw [update, update, outline_requestTick, outline_requestTick, outline_outline]
  | timerFired t => cases ha
  | snapshotLoaded g result => cases ha
  | privateMessagesLoaded peer ticket result => cases ha
  | selectPeer peer => exact app.outline_selectPeer peer
  | closePeer peer => exact app.outline_closePeer peer
  | closeActiveTab => exact app.outline_closeActiveTab
  | showView view => exact app.outline_showView view
  | nextView =>
    show outline { app with view := app.nextView } =
      outline { app.outline with view := app.outline.nextView }
    rw [nextView_outline]
    simp only [outline, Conversations.outline_outline]
  | submit line => exact app.outline_submit line
  | addPeer address =>
    rw [update, update, outline_addPeer, outline_addPeer, outline_outline]
  | deletePeer address =>
    rw [update, update, outline_deletePeer, outline_deletePeer, outline_outline]
  | startSearch keywords budget => exact app.outline_startSearch keywords budget
  | searchChunk session text =>
    rw [update, update, searchChunk_eq, searchChunk_eq]
    simp only [outline, Conversations.outline_outline]
  | searchFinished session result =>
    rw [update, update, searchFinished_eq app, searchFinished_eq app.outline]
    simp only [outline, Conversations.outline_outline]
  | commandFinished command result => cases ha
  | _ => exact app.outline_outline.symm

theorem outline_update_report {a : Action} (ha : a.isNodeReport = true) :
    (update app a).1.outline = app.outline := by
  cases a with
  | timerFired t =>
    rw [update]
    cases app.polling.fire? t with
    | none => rfl
    | some polling => exact outline_requestTick { app with polling }
  | snapshotLoaded g result =>
    rw [update]
    by_cases hg : app.polling.inFlight = some g
    · cases result with
      | ok snapshot =>
        rw [snapshotLoaded_ok app hg]
        simp only [outline, Conversations.outline_refreshAll]
      | error reason =>
        rw [snapshotLoaded_error app hg]
        rfl
    · rw [snapshotLoaded_of_stale app hg]
  | privateMessagesLoaded peer ticket result =>
    rw [update, privateMessagesLoaded_eq]
    simp only [outline, Conversations.outline_answer]
  | commandFinished command result => exact app.outline_commandFinished command result
  | _ => cases ha

theorem covers_node : Covers outline Action.isNodeReport where
  update_hidden app _ ha := app.outline_update_report ha
  update_shown app _ ha := app.outline_update ha

end App

/-! ## Runs -/

/-- **Search and synchronisation do not interfere.** For every run from every state:

* without the reports on searches, every other action asks for the same, and the run ends in a
  state that differs in the search and the status line only;
* without the reports on ticks, timers, refreshes and commands, the run ends with the same search,
  the same view and the same open conversations in the same order. -/
theorem search_and_node_independent (h : History) (actions : List Action) :
    let unsearched := actions.filter fun a => !a.isSearchReport
    let unreported := actions.filter fun a => !a.isNodeReport
    (h.workBesides Action.isSearchReport actions = h.work unsearched ∧
        (h.run actions).app =
          { (h.run unsearched).app with
            search := (h.run actions).app.search
            status := (h.run actions).app.status }) ∧
      (h.run actions).app.search = (h.run unreported).app.search ∧
        (h.run actions).app.view = (h.run unreported).app.view ∧
        (h.run actions).app.conversations.tabs.map Conversation.peer =
          (h.run unreported).app.conversations.tabs.map Conversation.peer := by
  intro unsearched unreported
  constructor
  · have hwork := App.covers_search.work (h := h) (fun app _ ha => (app.update_withoutSearch ha).2)
      rfl actions
    have hend := App.covers_search.run (h := h) rfl actions
    refine ⟨hwork, ?_⟩
    exact congrArg
      (fun app : App =>
        { app with
          search := (h.run actions).app.search
          status := (h.run actions).app.status }) hend
  · have hend := App.covers_node.run (h := h) rfl actions
    have hsearch := congrArg App.search hend
    have hview := congrArg App.view hend
    have hkeys := (Conversations.outline_eq_iff.1 (congrArg App.conversations hend)).1
    refine ⟨hsearch, hview, ?_⟩
    simpa [Conversations.keys, Function.comp_def] using congrArg (List.map Prod.fst) hkeys

end GossipPanel.Panel
