import GossipPanel.Proofs.Commands
import GossipPanel.Proofs.TabStore

/-!
# The active view exists

A conversation that is shown is open, and messages go to open conversations only.

* `react_eq_callAll`: what happens to the conversations is a run of calls to their store, so
  `contains_react_iff` says which conversations are open after an event.
* `ViewStep`: what an operation does to the view, and to whom it writes.
* `update_viewStep`: an action shows a conversation only if it is open afterwards, and writes only
  to the peer of the active view.
* `active_view_exists`: along every run the active view is there, and every open conversation has
  a name with no blank around it.
-/

namespace GossipPanel.Panel

open Node Text

/-! ## Open conversations after an event -/

namespace Conversations

variable {cs : Conversations} {peer : String} {event : ConversationEvent}

theorem refreshAll_eq_callAll (cs : Conversations) (peers : List String) :
    (cs.refreshAll peers).1 = cs.callAll (peers.map .beginRefresh) := by
  induction peers generalizing cs with
  | nil => rfl
  | cons peer peers ih =>
    rw [refreshAll, List.map_cons, callAll, List.foldl_cons, call]
    cases cs.beginRefresh? peer with
    | none => exact ih cs
    | some b => exact ih b.2

/-- The calls to the store of tabs that an event makes. -/
def calls (cs : Conversations) : ConversationEvent → List TabCall
  | .unrelated => []
  | .refresh peers => peers.map .beginRefresh
  | .select peer => if cs.contains peer then [] else [.select peer, .beginRefresh peer]
  | .close peer => [.close peer]
  | .answer peer ticket (.ok messages) => [.applyRefresh peer ticket messages]
  | .answer peer ticket (.error _) => [.failRefresh peer ticket]

theorem react_eq_callAll (cs : Conversations) (event : ConversationEvent) :
    (cs.react event).1 = cs.callAll (cs.calls event) := by
  cases event with
  | unrelated => rfl
  | refresh peers => exact refreshAll_eq_callAll cs peers
  | select peer =>
    rw [react, calls]
    by_cases hopen : cs.contains peer = true
    · rw [if_pos hopen, if_pos hopen]
      rfl
    · rw [if_neg hopen, if_neg hopen]
      exact refreshAll_eq_callAll (cs.select peer) [peer]
  | close peer => rfl
  | answer peer ticket result => cases result <;> rfl

theorem contains_callAll_of_quiet {calls : List TabCall}
    (hquiet : ∀ c ∈ calls, c ≠ .select peer ∧ c ≠ .close peer) :
    (cs.callAll calls).contains peer = true ↔ cs.contains peer = true := by
  induction calls generalizing cs with
  | nil => rfl
  | cons c calls ih =>
    obtain ⟨⟨hselect, hclose⟩, hrest⟩ := List.forall_mem_cons.1 hquiet
    have hcall : (cs.call c).contains peer = true ↔ cs.contains peer = true := by
      simp [contains_call_iff, hselect, hclose]
    exact (ih hrest).trans hcall

theorem contains_react_iff :
    (cs.react event).1.contains peer = true ↔
      event = .select peer ∨ (cs.contains peer = true ∧ event ≠ .close peer) := by
  rw [react_eq_callAll]
  cases event with
  | unrelated => simp [calls, callAll]
  | refresh peers =>
    rw [calls, contains_callAll_of_quiet (by simp)]
    simp
  | select other =>
    rw [calls]
    by_cases hopen : cs.contains other = true
    · rw [if_pos hopen]
      simp only [callAll, List.foldl_nil, ConversationEvent.select.injEq, ne_eq, reduceCtorEq,
        not_false_eq_true, and_true, iff_or_self]
      rintro rfl
      exact hopen
    · rw [if_neg hopen]
      show ((cs.call (.select other)).callAll [.beginRefresh other]).contains peer = true ↔ _
      rw [contains_callAll_of_quiet (by simp), contains_call_iff]
      simp
  | close other =>
    show (cs.call (.close other)).contains peer = true ↔ _
    simp [contains_call_iff]
  | answer other ticket result =>
    have hquiet : ∀ c ∈ cs.calls (.answer other ticket result),
        c ≠ .select peer ∧ c ≠ .close peer := by
      cases result <;> simp [calls]
    rw [contains_callAll_of_quiet hquiet]
    simp

end Conversations

/-! ## Names of conversations -/

/-- The name is there, and begins and ends with no blank. -/
def IsTabName (name : String) : Prop :=
  name ≠ "" ∧ (∀ c ∈ name.toList.head?, isBlank c = false) ∧
    ∀ c ∈ name.toList.getLast?, isBlank c = false

theorem isTabName_of_selectEvent {typed name : String}
    (h : App.selectEvent typed = .select name) : IsTabName name := by
  by_cases hblank : trimmed typed = ""
  · rw [App.selectEvent, if_pos hblank] at h
    cases h
  · rw [App.selectEvent, if_neg hblank] at h
    obtain rfl := ConversationEvent.select.inj h
    have hends := isBlank_ends_trim typed.toList
    rw [IsTabName, trimmed, String.toList_ofList]
    exact ⟨hblank, hends⟩

namespace App

theorem closeActiveEvent_ne_select (app : App) (name : String) :
    app.closeActiveEvent ≠ .select name := by
  rw [closeActiveEvent]
  split <;> simp

theorem isTabName_of_conversationEvent {app : App} {a : Action} {name : String}
    (h : app.conversationEvent a = .select name) : IsTabName name := by
  cases a with
  | selectPeer typed => exact isTabName_of_selectEvent h
  | closeActiveTab => exact absurd h (closeActiveEvent_ne_select app name)
  | submit line =>
    rw [conversationEvent] at h
    split at h
    · exact isTabName_of_selectEvent h
    · exact absurd h (closeActiveEvent_ne_select app name)
    · cases h
  | snapshotLoaded g result =>
    cases result with
    | ok snapshot =>
      rw [conversationEvent] at h
      split at h <;> cases h
    | error reason => cases h
  | commandFinished command result =>
    cases result with
    | ok detail => cases command <;> cases h
    | error reason => cases h
  | _ => cases h

/-! ## What an operation does to the view -/

/-- The conversation that is shown is open. -/
def ShowsOpen (app : App) : Prop :=
  ∀ name, app.view = .peer name → app.conversations.contains name = true

/-- The result of an operation that is `event` to the conversations shows a conversation only if it
is open after that event, and writes only to the peer that was shown, with the conversations left
alone. -/
structure ViewStep (app : App) (event : ConversationEvent) (r : App × List Effect) : Prop where
  shown : ∀ name, r.1.view = .peer name →
    event = .select name ∨ (app.conversations.contains name = true ∧ event ≠ .close name)
  addressed : ∀ m, .sendPrivate m ∈ r.2.filterMap Effect.command? →
    app.view = .peer m.destination ∧ event = .unrelated

variable {app : App} {event : ConversationEvent} {r : App × List Effect}

theorem viewStep_of_no_peer (hview : ∀ name, r.1.view ≠ .peer name)
    (hnone : ∀ m, .sendPrivate m ∉ r.2.filterMap Effect.command?) : ViewStep app event r where
  shown name h := absurd h (hview name)
  addressed m hm := absurd hm (hnone m)

theorem viewStep_of_view_eq (hopen : app.ShowsOpen) (hview : r.1.view = app.view)
    (hclose : ∀ name, event ≠ .close name)
    (hnone : ∀ m, .sendPrivate m ∉ r.2.filterMap Effect.command?) : ViewStep app event r where
  shown name h := .inr ⟨hopen name (hview ▸ h), hclose name⟩
  addressed m hm := absurd hm (hnone m)

theorem viewStep_withStatus (hopen : app.ShowsOpen) (status : String) :
    ViewStep app .unrelated (app.withStatus status, []) :=
  viewStep_of_view_eq hopen rfl (by simp) (by simp)

theorem viewStep_run (hopen : app.ShowsOpen) (status : String) {command : Command}
    (hcommand : ∀ m, command ≠ .sendPrivate m) :
    ViewStep app .unrelated (app.withStatus status, [.run command]) :=
  viewStep_of_view_eq hopen rfl (by simp) fun m => by
    simpa [Effect.command?] using (hcommand m).symm

theorem viewStep_requestTick (hopen : app.ShowsOpen) :
    ViewStep app .unrelated app.requestTick := by
  rw [requestTick_eq]
  apply viewStep_of_view_eq hopen rfl (by simp)
  simp [filterMap_command_request]

theorem viewStep_timerFired (hopen : app.ShowsOpen) (t : UInt64) :
    ViewStep app .unrelated (update app (.timerFired t)) := by
  rw [update]
  cases app.polling.fire? t with
  | none => exact viewStep_of_view_eq hopen rfl (by simp) (by simp)
  | some polling =>
    have hopen' : ShowsOpen { app with polling } := hopen
    have hstep := viewStep_requestTick hopen'
    exact ⟨hstep.shown, hstep.addressed⟩

theorem viewStep_snapshotLoaded (hopen : app.ShowsOpen) (g : UInt64)
    (result : Except String Snapshot) :
    ViewStep app (app.conversationEvent (.snapshotLoaded g result))
      (app.snapshotLoaded g result) := by
  have hclose : ∀ name, app.conversationEvent (.snapshotLoaded g result) ≠ .close name := by
    intro name
    cases result with
    | ok snapshot =>
      rw [conversationEvent]
      split <;> simp
    | error reason => simp [conversationEvent]
  by_cases hg : app.polling.inFlight = some g
  · cases result with
    | ok snapshot =>
      rw [snapshotLoaded_ok app hg]
      apply viewStep_of_view_eq hopen rfl hclose
      simp [filterMap_command_refreshEffects, filterMap_command_react]
    | error reason =>
      rw [snapshotLoaded_error app hg]
      apply viewStep_of_view_eq hopen rfl hclose
      simp [filterMap_command_react]
  · rw [snapshotLoaded_of_stale app hg]
    exact viewStep_of_view_eq hopen rfl hclose (by simp)

theorem viewStep_privateMessagesLoaded (hopen : app.ShowsOpen) (peer : String) (ticket : Ticket)
    (result : Except String (List MessageRecord)) :
    ViewStep app (.answer peer ticket result)
      (app.privateMessagesLoaded peer ticket result, []) := by
  rw [privateMessagesLoaded_eq]
  exact viewStep_of_view_eq hopen rfl (by simp) (by simp)

theorem viewStep_selectPeer (hopen : app.ShowsOpen) (typed : String) :
    ViewStep app (selectEvent typed) (app.selectPeer typed) := by
  have hclose : ∀ name, selectEvent typed ≠ .close name := by
    intro name
    rw [selectEvent]
    split <;> simp
  rw [selectPeer_eq]
  by_cases hblank : trimmed typed = ""
  · apply viewStep_of_view_eq hopen (if_pos hblank) hclose
    simp [filterMap_command_refreshEffects]
  · refine ⟨fun name hname => .inl ?_, by simp [filterMap_command_refreshEffects]⟩
    have hshown : View.peer (trimmed typed) = .peer name := by
      rw [← hname]
      exact (if_neg hblank).symm
    rw [selectEvent, if_neg hblank, View.peer.inj hshown]

theorem viewStep_closePeer (hopen : app.ShowsOpen) (peer : String) :
    ViewStep app (.close peer) (app.closePeer peer, []) := by
  refine ⟨fun name hname => .inr ?_, by simp⟩
  rw [closePeer] at hname
  by_cases hcontains : app.conversations.contains peer = true
  · rw [if_pos hcontains] at hname
    -- only the active conversation gives its place to the feed when it is closed
    by_cases hactive : app.view = .peer peer
    · simp [hactive] at hname
    · have hname' : app.view = .peer name := by simpa [hactive] using hname
      refine ⟨hopen name hname', fun heq => hactive ?_⟩
      rw [hname', ConversationEvent.close.inj heq]
  · rw [if_neg hcontains] at hname
    have hname' := hopen name hname
    refine ⟨hname', fun heq => hcontains ?_⟩
    rwa [ConversationEvent.close.inj heq]

theorem viewStep_closeActiveTab (hopen : app.ShowsOpen) :
    ViewStep app app.closeActiveEvent (app.closeActiveTab, []) := by
  cases hview : app.view with
  | peer name =>
    rw [closeActiveTab, closeActiveEvent, hview]
    exact viewStep_closePeer hopen name
  | _ =>
    rw [closeActiveTab, closeActiveEvent, hview]
    exact viewStep_withStatus hopen _

theorem viewStep_showView (hopen : app.ShowsOpen) (view : View) :
    ViewStep app .unrelated (app.showView view, []) := by
  cases view with
  | gossip => exact viewStep_of_no_peer (by simp [showView]) (by simp)
  | search => exact viewStep_of_no_peer (by simp [showView]) (by simp)
  | peer peer =>
    rw [showView]
    by_cases hcontains : app.conversations.contains peer = true
    · rw [if_pos hcontains]
      refine ⟨fun name hname => .inr ⟨?_, by simp⟩, by simp⟩
      rwa [← View.peer.inj hname]
    · rw [if_neg hcontains]
      exact viewStep_of_view_eq hopen rfl (by simp) (by simp)

theorem nextView_mem_views (app : App) : app.nextView ∈ app.views := by
  have hpos : 0 < app.views.length := by simp [views]
  have hlt := Nat.mod_lt ((if app.view ∈ app.views then app.views.idxOf app.view else 0) + 1) hpos
  rw [nextView, List.getD_eq_getElem?_getD, List.getElem?_eq_getElem hlt]
  exact List.getElem_mem hlt

theorem viewStep_nextView (app : App) :
    ViewStep app .unrelated ({ app with view := app.nextView }, []) := by
  refine ⟨fun name hname => .inr ⟨?_, by simp⟩, by simp⟩
  have hmem := nextView_mem_views app
  rw [show app.nextView = .peer name from hname] at hmem
  rw [Conversations.contains_iff]
  simpa [views] using hmem

theorem viewStep_addPeer (hopen : app.ShowsOpen) (address : String) :
    ViewStep app .unrelated (app.addPeer address) := by
  rw [addPeer]
  split
  · exact viewStep_withStatus hopen _
  · exact viewStep_run hopen _ (by simp)

theorem viewStep_deletePeer (hopen : app.ShowsOpen) (address : String) :
    ViewStep app .unrelated (app.deletePeer address) := by
  rw [deletePeer]
  split
  · exact viewStep_run hopen _ (by simp)
  · exact viewStep_withStatus hopen _

theorem viewStep_startSearch (hopen : app.ShowsOpen) (keywords : String) (budget : UInt32) :
    ViewStep app .unrelated (app.startSearch keywords budget) := by
  unfold startSearch
  dsimp only
  split
  · exact viewStep_withStatus hopen _
  · exact viewStep_of_no_peer (by simp) (by simp [Effect.command?])

theorem viewStep_sendText (hopen : app.ShowsOpen) (text : String) :
    ViewStep app .unrelated (app.sendText text) := by
  unfold sendText
  split
  · exact viewStep_of_view_eq hopen rfl (by simp) (by simp)
  · split
    · exact viewStep_startSearch hopen _ _
    · split
      · exact viewStep_withStatus hopen _
      · refine ⟨fun name hname => .inr ⟨hopen name hname, by simp⟩, fun m hm => ⟨?_, rfl⟩⟩
        have hcommand : Command.sendPrivate m = messageCommand app.view text := by
          simpa [Effect.command?] using hm
        cases hview : app.view with
        | gossip => simp [messageCommand, hview] at hcommand
        | search => simp [messageCommand, hview] at hcommand
        | peer name =>
          rw [hview] at hcommand
          rw [Command.sendPrivate.inj hcommand]

theorem viewStep_commandFinished (hopen : app.ShowsOpen) (command : Command)
    (result : Except String String) :
    ViewStep app (app.conversationEvent (.commandFinished command result))
      (app.commandFinished command result) := by
  cases result with
  | error reason =>
    have hview : (app.commandFinished command (.error reason)).1.view = app.view := by
      cases command <;> rfl
    exact viewStep_of_view_eq hopen hview (by simp [conversationEvent]) (by simp [commandFinished])
  | ok detail =>
    rw [commandFinished_ok]
    apply viewStep_of_view_eq hopen rfl
    · cases command <;> simp [conversationEvent, successEvent]
    · simp [filterMap_command_pinEffects, filterMap_command_refreshEffects,
        filterMap_command_request]

theorem viewStep_of_ne_submit (hopen : app.ShowsOpen) {a : Action}
    (hline : ∀ line, a ≠ .submit line) :
    ViewStep app (app.conversationEvent a) (update app a) := by
  cases a with
  | start => exact viewStep_requestTick hopen
  | refresh => exact viewStep_requestTick hopen
  | timerFired t => exact viewStep_timerFired hopen t
  | snapshotLoaded g result => exact viewStep_snapshotLoaded hopen g result
  | privateMessagesLoaded peer ticket result =>
    exact viewStep_privateMessagesLoaded hopen peer ticket result
  | selectPeer peer => exact viewStep_selectPeer hopen peer
  | closePeer peer => exact viewStep_closePeer hopen peer
  | closeActiveTab => exact viewStep_closeActiveTab hopen
  | showView view => exact viewStep_showView hopen view
  | nextView => exact viewStep_nextView app
  | submit line => exact absurd rfl (hline line)
  | addPeer address => exact viewStep_addPeer hopen address
  | deletePeer address => exact viewStep_deletePeer hopen address
  | rename name => exact viewStep_run hopen _ (by simp)
  | startSearch keywords budget => exact viewStep_startSearch hopen keywords budget
  | searchChunk session chunk =>
    have hview : (app.searchChunk session chunk).view = app.view := by
      rw [searchChunk]
      split <;> rfl
    exact viewStep_of_view_eq hopen hview (by simp [conversationEvent]) (by simp [update])
  | searchFinished session result =>
    have hview : (app.searchFinished session result).view = app.view := by
      unfold searchFinished
      split <;> split <;> rfl
    exact viewStep_of_view_eq hopen hview (by simp [conversationEvent]) (by simp [update])
  | downloadMatch request => exact viewStep_run hopen _ (by simp)
  | upload path => exact viewStep_run hopen _ (by simp)
  | commandFinished command result => exact viewStep_commandFinished hopen command result
  | quit =>
    exact viewStep_of_view_eq hopen rfl (by simp [conversationEvent])
      (by simp [update, Effect.command?])

/-- What an action does to the view, and to whom it writes. -/
theorem update_viewStep (hopen : app.ShowsOpen) (a : Action) :
    ViewStep app (app.conversationEvent a) (update app a) := by
  cases a with
  | submit line =>
    rw [update]
    obtain ⟨text, hparse, hsubmit⟩ | ⟨a, hline, hsubmit⟩ | ⟨status, hline, hsubmit⟩ :=
      app.submit_cases line
    · rw [hsubmit, conversationEvent, hparse]
      exact viewStep_sendText hopen text
    · rw [hsubmit, hline.conversationEvent]
      exact viewStep_of_ne_submit hopen hline.ne_submit
    · rw [hsubmit, hline.conversationEvent]
      exact viewStep_withStatus hopen status
  | _ => exact viewStep_of_ne_submit hopen (by simp)

end App

/-! ## Runs -/

theorem conversations_history (s : Settings.Resolved) (actions : List Action) :
    ∃ calls, (history s actions).app.conversations = Conversations.callAll {} calls := by
  refine History.run_invariant
    (fun h => ∃ calls, h.app.conversations = Conversations.callAll {} calls) ?_ ⟨[], rfl⟩ actions
  rintro h a ⟨calls, hcalls⟩
  refine ⟨calls ++ h.app.conversations.calls (h.app.conversationEvent a), ?_⟩
  show (update h.app a).1.conversations = _
  rw [(update_reaction h.app a).conversations, Conversations.react_eq_callAll,
    Conversations.callAll, Conversations.callAll, List.foldl_append, hcalls]
  rfl

theorem nodup_peers_history (s : Settings.Resolved) (actions : List Action) :
    ((history s actions).app.conversations.tabs.map (·.peer)).Nodup := by
  obtain ⟨calls, hcalls⟩ := conversations_history s actions
  rw [hcalls]
  exact Conversations.nodup_peers calls

/-- The conversation that is shown is open, and every open one has the name of a tab. -/
structure App.Sighted (app : App) : Prop where
  showsOpen : app.ShowsOpen
  named : ∀ name, app.conversations.contains name = true → IsTabName name

theorem sighted_update {app : App} (h : app.Sighted) (a : Action) : (update app a).1.Sighted := by
  have hopen : ∀ name, (update app a).1.conversations.contains name = true ↔
      app.conversationEvent a = .select name ∨
        (app.conversations.contains name = true ∧ app.conversationEvent a ≠ .close name) := by
    intro name
    rw [(update_reaction app a).conversations, Conversations.contains_react_iff]
  constructor
  · intro name hname
    exact (hopen name).2 ((App.update_viewStep h.showsOpen a).shown name hname)
  · intro name hname
    obtain hselect | ⟨hbefore, -⟩ := (hopen name).1 hname
    · exact App.isTabName_of_conversationEvent hselect
    · exact h.named name hbefore

theorem sighted_history (s : Settings.Resolved) (actions : List Action) :
    (history s actions).app.Sighted := by
  refine History.run_invariant (fun h => h.app.Sighted) (fun h a => (sighted_update · a)) ?_ actions
  constructor
  · intro name h
    cases h
  · intro name h
    cases h

/-- **The active view exists.** After every run of the panel a conversation that is shown is open,
and its messages are the ones on view; every open conversation has a name that is not empty and has
no blank at either end; and a private message that an action asks for goes to the peer of the
active view, whose conversation is open and stays so. -/
theorem active_view_exists (s : Settings.Resolved) (actions : List Action) :
    let app := (history s actions).app
    (∀ name, app.view = .peer name → ∃ t ∈ app.conversations.tabs,
        t.peer = name ∧ app.conversations.get? name = some t ∧
          app.visibleMessages = t.messages) ∧
      (∀ t ∈ app.conversations.tabs, t.peer ≠ "" ∧
        (∀ c ∈ t.peer.toList.head?, isBlank c = false) ∧
        ∀ c ∈ t.peer.toList.getLast?, isBlank c = false) ∧
      ∀ a m, .run (.sendPrivate m) ∈ (update app a).2 →
        app.view = .peer m.destination ∧
          app.conversations.contains m.destination = true ∧
          (update app a).1.conversations = app.conversations := by
  intro app
  have hsighted : app.Sighted := sighted_history s actions
  refine ⟨fun name hview => ?_, fun t ht => ?_, fun a m hm => ?_⟩
  · have hcontains := hsighted.showsOpen name hview
    cases hget : app.conversations.get? name with
    | none =>
      obtain ⟨t, ht, hpeer⟩ := Conversations.contains_iff.1 hcontains
      exact absurd hpeer (Conversations.get?_eq_none_iff.1 hget t ht)
    | some t =>
      obtain ⟨ht, hpeer⟩ := Conversations.mem_of_get? hget
      refine ⟨t, ht, hpeer, rfl, ?_⟩
      simp [App.visibleMessages, hview, hget]
  · exact hsighted.named t.peer (Conversations.contains_iff.2 ⟨t, ht, rfl⟩)
  · have hstep := App.update_viewStep hsighted.showsOpen a
    have hcommand : .sendPrivate m ∈ (update app a).2.filterMap Effect.command? :=
      List.mem_filterMap.2 ⟨_, hm, rfl⟩
    obtain ⟨hview, hevent⟩ := hstep.addressed m hcommand
    refine ⟨hview, hsighted.showsOpen _ hview, ?_⟩
    rw [(update_reaction app a).conversations, hevent]
    rfl

end GossipPanel.Panel
