import GossipPanel.Proofs.Reaction

/-!
# What an action does to the search

The search is a machine of its own, like the polling chain and the conversations: an action reaches
it as one event.

* `Search.react`: the machine, with the search that it asks the node for.
* `App.searchEvent`: what an action is to it. Text starts a search in the search view only.
* `update_searchStep`: `update` does to the search what the machine does, and asks the node for a
  search when the machine does, and only then.
-/

namespace GossipPanel.Panel

open Node Text

inductive SearchEvent where
  | unrelated
  | start (keywords : String) (budget : UInt32)
  | chunk (session : UInt64) (text : String)
  | finish (session : UInt64) (result : Except String Unit)

namespace Search

/-- Ends the current session, if it has this number. -/
def finish? (s : Search) (id : UInt64) : Except String Unit → Option Search
  | .ok () => s.complete? id
  | .error reason => s.fail? id reason

/-- The search after an event, and the session and the query that it asks the node for. -/
def react (s : Search) : SearchEvent → Search × Option (UInt64 × SearchQuery)
  | .unrelated => (s, none)
  | .start keywords budget =>
    ((s.start keywords budget).2, some ((s.start keywords budget).1, ⟨keywords, budget⟩))
  | .chunk id text => ((s.push? id text).getD s, none)
  | .finish id result => ((s.finish? id result).getD s, none)

end Search

def Effect.search? : Effect → Option (UInt64 × SearchQuery)
  | startSearch session query => some (session, query)
  | _ => none

namespace App

/-- Searching for keywords that are typed with blanks around them. -/
def startEvent (keywords : String) (budget : UInt32) : SearchEvent :=
  if trimmed keywords = "" then .unrelated else .start (trimmed keywords) budget

/-- What an action is to the search. -/
def searchEvent (app : App) : Action → SearchEvent
  | .startSearch keywords budget => startEvent keywords budget
  | .searchChunk session text => .chunk session text
  | .searchFinished session result => .finish session result
  | .submit line =>
    match Input.parse line with
    | .ok (.search keywords budget) => startEvent keywords (budget.getD app.defaultBudget)
    | .ok (.send text) =>
      if ¬allBlank text ∧ app.view = .search then startEvent text app.defaultBudget
      else .unrelated
    | _ => .unrelated
  | _ => .unrelated

theorem searchChunk_eq (app : App) (session : UInt64) (text : String) :
    app.searchChunk session text =
      { app with search := (app.search.push? session text).getD app.search } := by
  rw [searchChunk]
  cases app.search.push? session text <;> rfl

theorem searchFinished_eq (app : App) (session : UInt64) (result : Except String Unit) :
    app.searchFinished session result =
      { app with
        search := (app.search.finish? session result).getD app.search
        status := (app.searchFinished session result).status } := by
  cases result with
  | ok done =>
    rw [searchFinished, Search.finish?]
    cases app.search.complete? session <;> rfl
  | error reason =>
    rw [searchFinished, Search.finish?]
    cases app.search.fail? session reason <;> rfl

/-- The result of an operation that is `event` to the search. -/
structure SearchStep (app : App) (event : SearchEvent) (r : App × List Effect) : Prop where
  search : r.1.search = (app.search.react event).1
  started : r.2.filterMap Effect.search? = (app.search.react event).2.toList

variable {app : App} {event : SearchEvent} {r : App × List Effect}

/-! ## Each operation -/

theorem searchStep_aside (hsearch : r.1.search = app.search)
    (hnone : r.2.filterMap Effect.search? = []) : SearchStep app .unrelated r :=
  ⟨hsearch, hnone⟩

theorem filterMap_search_refreshEffects (issued : List (String × Ticket)) :
    (refreshEffects issued).filterMap Effect.search? = [] :=
  filterMap_refreshEffects_eq_nil issued fun _ _ => rfl

theorem filterMap_search_react (p : Polling) (interval : UInt64) (event : PollingEvent) :
    (p.react interval event).2.filterMap Effect.search? = [] := by
  refine Polling.filterMap_react_eq_nil (fun e he => ?_) p interval event
  cases e <;> first | rfl | cases he

theorem filterMap_search_request (p : Polling) : p.request.2.filterMap Effect.search? = [] :=
  filterMap_search_react p 0 .request

theorem searchStep_withStatus (status : String) :
    SearchStep app .unrelated (app.withStatus status, []) :=
  searchStep_aside rfl rfl

theorem searchStep_run (status : String) (command : Command) :
    SearchStep app .unrelated (app.withStatus status, [.run command]) :=
  searchStep_aside rfl rfl

theorem searchStep_requestTick : SearchStep app .unrelated app.requestTick := by
  rw [requestTick_eq]
  exact searchStep_aside rfl (filterMap_search_request _)

theorem searchStep_timerFired (t : UInt64) :
    SearchStep app .unrelated (update app (.timerFired t)) := by
  rw [update]
  cases app.polling.fire? t with
  | none => exact searchStep_aside rfl rfl
  | some polling =>
    dsimp only
    rw [requestTick_eq]
    exact searchStep_aside rfl (filterMap_search_request _)

theorem searchStep_snapshotLoaded (g : UInt64) (result : Except String Snapshot) :
    SearchStep app .unrelated (app.snapshotLoaded g result) := by
  by_cases hg : app.polling.inFlight = some g
  · cases result with
    | ok snapshot =>
      rw [snapshotLoaded_ok app hg]
      refine searchStep_aside rfl ?_
      simp [filterMap_search_refreshEffects, filterMap_search_react]
    | error reason =>
      rw [snapshotLoaded_error app hg]
      exact searchStep_aside rfl (filterMap_search_react _ _ _)
  · rw [snapshotLoaded_of_stale app hg]
    exact searchStep_aside rfl rfl

theorem searchStep_privateMessagesLoaded (peer : String) (ticket : Ticket)
    (result : Except String (List MessageRecord)) :
    SearchStep app .unrelated (app.privateMessagesLoaded peer ticket result, []) := by
  rw [privateMessagesLoaded_eq]
  exact searchStep_aside rfl rfl

theorem searchStep_selectPeer (peer : String) :
    SearchStep app .unrelated (app.selectPeer peer) := by
  rw [selectPeer_eq]
  exact searchStep_aside rfl (filterMap_search_refreshEffects _)

theorem searchStep_closePeer (peer : String) :
    SearchStep app .unrelated (app.closePeer peer, []) := by
  rw [closePeer_eq]
  exact searchStep_aside rfl rfl

theorem searchStep_closeActiveTab : SearchStep app .unrelated (app.closeActiveTab, []) := by
  rw [closeActiveTab_eq]
  exact searchStep_aside rfl rfl

theorem searchStep_showView (view : View) :
    SearchStep app .unrelated (app.showView view, []) := by
  unfold showView
  split
  · split <;> exact searchStep_aside rfl rfl
  · exact searchStep_aside rfl rfl

theorem searchStep_addPeer (address : String) :
    SearchStep app .unrelated (app.addPeer address) := by
  rw [addPeer]
  split
  · exact searchStep_withStatus _
  · exact searchStep_run _ _

theorem searchStep_deletePeer (address : String) :
    SearchStep app .unrelated (app.deletePeer address) := by
  rw [deletePeer]
  split
  · exact searchStep_run _ _
  · exact searchStep_withStatus _

theorem searchStep_startSearch (keywords : String) (budget : UInt32) :
    SearchStep app (startEvent keywords budget) (app.startSearch keywords budget) := by
  unfold startSearch
  dsimp only
  by_cases hblank : trimmed keywords = ""
  · rw [startEvent, if_pos hblank, if_pos hblank]
    exact searchStep_withStatus _
  · rw [startEvent, if_neg hblank, if_neg hblank]
    exact ⟨rfl, rfl⟩

theorem searchStep_searchChunk (session : UInt64) (text : String) :
    SearchStep app (.chunk session text) (app.searchChunk session text, []) := by
  rw [searchChunk_eq]
  exact ⟨rfl, rfl⟩

theorem searchStep_searchFinished (session : UInt64) (result : Except String Unit) :
    SearchStep app (.finish session result) (app.searchFinished session result, []) := by
  rw [searchFinished_eq]
  exact ⟨rfl, rfl⟩

theorem searchStep_sendText (text : String) :
    SearchStep app
      (if ¬allBlank text ∧ app.view = .search then startEvent text app.defaultBudget
        else .unrelated)
      (app.sendText text) := by
  unfold sendText
  by_cases hblank : allBlank text = true
  · rw [if_pos hblank, if_neg (by simp [hblank])]
    exact searchStep_aside rfl rfl
  · by_cases hview : app.view = .search
    · rw [if_neg hblank, if_pos hview, if_pos ⟨hblank, hview⟩]
      exact searchStep_startSearch text app.defaultBudget
    · rw [if_neg hblank, if_neg hview, if_neg (by simp [hview])]
      split
      · exact searchStep_withStatus _
      · exact searchStep_aside rfl rfl

theorem searchStep_commandFinished (command : Command) (result : Except String String) :
    SearchStep app .unrelated (app.commandFinished command result) := by
  cases result with
  | error reason => cases command <;> exact searchStep_aside rfl rfl
  | ok detail =>
    rw [commandFinished_ok]
    refine searchStep_aside rfl ?_
    have hpin : (pinEffects command).filterMap Effect.search? = [] := by
      cases command <;> rfl
    simp [hpin, filterMap_search_refreshEffects, filterMap_search_request]

theorem searchStep_of_ne_submit {a : Action} (hline : ∀ line, a ≠ .submit line) :
    SearchStep app (app.searchEvent a) (update app a) := by
  cases a with
  | start => exact searchStep_requestTick
  | refresh => exact searchStep_requestTick
  | timerFired t => exact searchStep_timerFired t
  | snapshotLoaded g result => exact searchStep_snapshotLoaded g result
  | privateMessagesLoaded peer ticket result =>
    exact searchStep_privateMessagesLoaded peer ticket result
  | selectPeer peer => exact searchStep_selectPeer peer
  | closePeer peer => exact searchStep_closePeer peer
  | closeActiveTab => exact searchStep_closeActiveTab
  | showView view => exact searchStep_showView view
  | nextView => exact searchStep_aside rfl rfl
  | submit line => exact absurd rfl (hline line)
  | addPeer address => exact searchStep_addPeer address
  | deletePeer address => exact searchStep_deletePeer address
  | rename name => exact searchStep_run _ _
  | startSearch keywords budget => exact searchStep_startSearch keywords budget
  | searchChunk session text => exact searchStep_searchChunk session text
  | searchFinished session result => exact searchStep_searchFinished session result
  | downloadMatch request => exact searchStep_run _ _
  | upload path => exact searchStep_run _ _
  | commandFinished command result => exact searchStep_commandFinished command result
  | quit => exact searchStep_aside rfl rfl

theorem StandsFor.searchEvent {line : String} {a : Action} (h : app.StandsFor line a) :
    app.searchEvent (.submit line) = app.searchEvent a := by
  obtain ⟨input, hparse, haction⟩ := h
  rw [App.searchEvent, hparse]
  cases input <;> cases haction <;> rfl

theorem IsNotice.searchEvent {line : String} (h : IsNotice line) :
    app.searchEvent (.submit line) = .unrelated := by
  obtain hparse | ⟨e, hparse⟩ := h <;> rw [App.searchEvent, hparse]

end App

theorem update_searchStep (app : App) (a : Action) :
    app.SearchStep (app.searchEvent a) (update app a) := by
  cases a with
  | submit line =>
    rw [update]
    obtain ⟨text, hparse, hsubmit⟩ | ⟨a, hline, hsubmit⟩ | ⟨status, hline, hsubmit⟩ :=
      app.submit_cases line
    · rw [hsubmit, App.searchEvent, hparse]
      exact App.searchStep_sendText text
    · rw [hsubmit, hline.searchEvent]
      exact App.searchStep_of_ne_submit hline.ne_submit
    · rw [hsubmit, hline.searchEvent]
      exact App.searchStep_withStatus status
  | _ => exact App.searchStep_of_ne_submit (by simp)

end GossipPanel.Panel
