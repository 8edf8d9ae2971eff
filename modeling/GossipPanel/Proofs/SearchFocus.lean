import GossipPanel.Proofs.FocusedFrames
import GossipPanel.Proofs.Independence
import GossipPanel.Proofs.Moves
import GossipPanel.Proofs.PaneActions

/-!
# The focus of search results that are not shown

The view changes without the focus. So the results of a search keep the focus when their view is
left, until an event settles it; a screen that is drawn meanwhile shows no part as the one that has
the focus.

* `Event.keepsFocus`: the events that do not settle the focus. `State.view_of_focus_route`: after
  every other one the results have the focus in their view only.
* `Station.Strays`, `Station.Leaves`: the focus is where nothing is shown; the move after which it
  is. `Station.leaves_cases`: what such a move is.
* `Station.strays_moves_iff`: the runs after which the focus has strayed.
* `search_focus_outlives_view`: these runs, and what is drawn after every run.
-/

namespace GossipPanel

open Display Panel Screen Work

namespace Panel

/-! ## Views -/

theorem view_update_report {app : App} {a : Action}
    (ha : a.isNodeReport = true ∨ a.isSearchReport = true) : (update app a).1.view = app.view := by
  cases ha with
  | inl hnode => exact congrArg (·.view) (app.outline_update_report hnode)
  | inr hsearch => exact congrArg (·.view) (app.withoutSearch_update_report hsearch)

end Panel

namespace Display

/-! ## The focus after an event -/

/-- The event does not settle the focus: it means the same everywhere and is not about the focus. -/
def Event.keepsFocus : Event → Bool
  | .resize | .forceQuit | .refresh | .nextView | .closeTab => true
  | _ => false

namespace State

variable {d : State} {app : App} {event : Event}

theorem route_of_keepsFocus (h : event.keepsFocus = true) :
    d.route app event = (event.shortcut?, d) := by
  cases event <;> first | rfl | cases h

theorem focus_routeToInput (hfocus : d.focus = .input) :
    (d.routeToInput app event).2.focus = .input := by
  rw [routeToInput]
  cases scrollOf? event with
  | some scroll => exact hfocus
  | none =>
    have hinput : (d.inputEvent event).2.focus = .input := hfocus
    generalize d.inputEvent event = r at hinput ⊢
    obtain ⟨_ | (text | _), e⟩ := r <;> exact hinput

theorem focus_routeToFocus (h : (d.routeToFocus app event).2.focus = .search) :
    d.focus = .search ∧ app.view = .search := by
  rw [routeToFocus] at h
  have hview : (d.settleFocus app.view).focus = .search → app.view = .search :=
    view_of_focus_settleFocus
  have hsettled : (d.settleFocus app.view).focus = .search → d.focus = .search := by
    unfold settleFocus
    split <;> simp
  generalize d.settleFocus app.view = e at h hview hsettled
  split at h
  · cases h
  · split at h
    · rename_i hfocus
      rw [focus_routeToInput hfocus] at h
      cases h
    · rename_i hfocus
      cases hfocus.symm.trans h
    · rename_i hfocus
      cases hfocus.symm.trans h
    · rename_i hfocus
      exact ⟨hsettled hfocus, hview hfocus⟩

theorem view_of_advance {view : View} {steps : Nat} {f : Focus}
    (h : f.advance view steps = .search) : view = .search := by
  have hpos : 0 < (Focus.order view).length := by cases view <;> exact Nat.zero_lt_succ _
  have hmem : f.advance view steps ∈ Focus.order view := by
    rw [Focus.advance, List.getD_eq_getElem?_getD, List.getElem?_eq_getElem (Nat.mod_lt _ hpos)]
    exact List.getElem_mem _
  exact Focus.mem_order_iff.1 hmem h

theorem view_update_of_search (hfocus : d.focus = .search) (hview : app.view = .search)
    {action : Action} (haction : (d.route app event).1 = some action) :
    (update app action).1.view = .search ∨ event = .nextView := by
  have hlist : d.ListFocused app := ⟨by simp [hfocus], fun _ => hview⟩
  obtain hshortcut | hpane := (route_of_listFocused hlist).1 haction
  · cases event with
    | forceQuit =>
      cases hshortcut
      exact .inl hview
    | refresh =>
      cases hshortcut
      exact .inl ((congrArg (·.view) app.outline_requestTick).trans hview)
    | nextView => exact .inr rfl
    | closeTab =>
      cases hshortcut
      rw [update, App.closeActiveTab, hview]
      exact .inl hview
    | _ => cases hshortcut
  · cases hpane with
    | downloadMatch => exact .inl hview
    | deletePeer _ hother => cases hfocus.symm.trans hother
    | closePeer _ hother => cases hfocus.symm.trans hother
    | selectPeer hother => cases hfocus.symm.trans hother

/-- After an event that settles the focus, the results have it in their view only, and the action
of the event does not leave the view. -/
theorem view_of_focus_route (h : event.keepsFocus = false)
    (hfocus : (d.route app event).2.focus = .search) :
    app.view = .search ∧
      ∀ action, (d.route app event).1 = some action → (update app action).1.view = .search := by
  cases event with
  | resize | forceQuit | refresh | nextView | closeTab => cases h
  | focusNext | focusPrev => exact ⟨view_of_advance hfocus, nofun⟩
  | escape => cases hfocus
  | _ =>
    obtain ⟨hbefore, hview⟩ := focus_routeToFocus hfocus
    exact ⟨hview, fun action haction =>
      (view_update_of_search hbefore hview haction).resolve_right nofun⟩

end State

end Display

namespace Work

/-! ## Moves -/

/-- The move is an event that settles the focus. -/
def Move.settlesFocus : Move → Bool
  | .handle event => !event.keepsFocus
  | _ => false

namespace Station

variable {s : Station} {m : Move}

/-- The results of a search have the focus although they are not shown. -/
def Strays (s : Station) : Prop :=
  s.display.focus = .search ∧ s.app.view ≠ .search

instance (s : Station) : Decidable s.Strays :=
  inferInstanceAs (Decidable (_ ∧ _))

/-- The results of a search have the focus where they are shown, and the move leaves their view. -/
structure Leaves (s : Station) (m : Move) : Prop where
  focus : s.display.focus = .search
  view : s.app.view = .search
  leaves : (s.move m).app.view ≠ .search

theorem focus_execute (s : Station) (e : Effect) :
    (s.execute e).display.focus = s.display.focus := by
  cases e <;> rfl

theorem focus_foldl_execute (s : Station) (effects : List Effect) :
    (effects.foldl execute s).display.focus = s.display.focus := by
  induction effects generalizing s with
  | nil => rfl
  | cons e effects ih => exact (ih (s.execute e)).trans (focus_execute s e)

theorem focus_dispatch (s : Station) (a : Action) :
    (s.dispatch a).2.display.focus = s.display.focus :=
  focus_foldl_execute { s with app := (update s.app a).1 } _

theorem focus_handle (s : Station) (event : Event) :
    (s.handle event).2.display.focus = (s.display.route s.app event).2.focus := by
  rw [handle]
  generalize s.display.route s.app event = r
  obtain ⟨_ | action, display⟩ := r
  · rfl
  · exact focus_dispatch { s with display } action

theorem view_handle {event : Event} {view : View} (hview : s.app.view = view)
    (haction : ∀ action, (s.display.route s.app event).1 = some action →
      (update s.app action).1.view = view) : (s.handle event).2.app.view = view := by
  rw [handle]
  generalize s.display.route s.app event = r at haction ⊢
  obtain ⟨_ | action, display⟩ := r
  · exact hview
  · exact (congrArg (·.view) (app_dispatch { s with display } action)).trans (haction action rfl)

theorem focus_draw (s : Station) (width height : Nat) :
    (s.draw width height).2.display.focus = s.display.focus :=
  State.focus_drawBody (d := s.display.forgetClosed s.app)

theorem focus_move_of_not_settlesFocus (h : m.settlesFocus = false) :
    (s.move m).display.focus = s.display.focus := by
  cases m with
  | dispatch a => exact focus_dispatch s a
  | handle event =>
    have hkeeps : event.keepsFocus = true := by simpa [Move.settlesFocus] using h
    rw [move, focus_handle, State.route_of_keepsFocus hkeeps]
  | draw width height => exact focus_draw s width height

theorem not_strays_of_settlesFocus (h : m.settlesFocus = true) : ¬(s.move m).Strays := by
  rintro ⟨hfocus, hview⟩
  cases m with
  | dispatch a => cases h
  | draw width height => cases h
  | handle event =>
    have hsettles : event.keepsFocus = false := by simpa [Move.settlesFocus] using h
    rw [move, focus_handle] at hfocus
    obtain ⟨hbefore, haction⟩ := State.view_of_focus_route hsettles hfocus
    exact hview (view_handle hbefore haction)

theorem leaves_cases (h : s.Leaves m) :
    m = .handle .nextView ∨
      ∃ a, m = .dispatch a ∧ a.isNodeReport = false ∧ a.isSearchReport = false := by
  obtain ⟨hfocus, hview, hleaves⟩ := h
  cases m with
  | dispatch a =>
    rw [move, app_dispatch] at hleaves
    have hreport : ¬(a.isNodeReport = true ∨ a.isSearchReport = true) := fun hreport =>
      hleaves ((view_update_report hreport).trans hview)
    simp only [not_or, Bool.not_eq_true] at hreport
    exact .inr ⟨a, rfl, hreport⟩
  | handle event =>
    by_cases hnext : event = .nextView
    · exact .inl (congrArg _ hnext)
    · refine absurd (view_handle hview fun action haction => ?_) hleaves
      exact (State.view_update_of_search hfocus hview haction).resolve_right hnext
  | draw width height => exact absurd hview hleaves

theorem not_settlesFocus_of_leaves (h : s.Leaves m) : m.settlesFocus = false := by
  obtain rfl | ⟨a, rfl, -⟩ := leaves_cases h <;> rfl

/-! ## Runs -/

theorem focus_moves_of_not_settlesFocus {moves : List Move}
    (h : ∀ m ∈ moves, m.settlesFocus = false) :
    (s.moves moves).display.focus = s.display.focus := by
  induction moves using List.reverseRecOn with
  | nil => rfl
  | append_singleton moves m ih =>
    obtain ⟨hmoves, hlast⟩ := List.forall_mem_append.1 h
    rw [moves_concat, focus_move_of_not_settlesFocus (hlast m (List.mem_singleton_self m))]
    exact ih hmoves

/-- The focus has strayed exactly if another view is shown and the last move that left the view of
the results, while these had the focus, has not been followed by an event that settles it. -/
theorem strays_moves_iff (hstart : ¬s.Strays) (moves : List Move) :
    (s.moves moves).Strays ↔ (s.moves moves).app.view ≠ .search ∧
      ∃ before m after, moves = before ++ m :: after ∧ (s.moves before).Leaves m ∧
        ∀ later ∈ after, later.settlesFocus = false := by
  constructor
  · intro h
    refine ⟨h.2, ?_⟩
    induction moves using List.reverseRecOn with
    | nil => exact absurd h hstart
    | append_singleton moves m ih =>
      rw [moves_concat] at h
      have hkeeps : m.settlesFocus = false := by
        cases hsettles : m.settlesFocus with
        | false => rfl
        | true => exact absurd h (not_strays_of_settlesFocus hsettles)
      have hfocus : (s.moves moves).display.focus = .search :=
        (focus_move_of_not_settlesFocus hkeeps).symm.trans h.1
      -- Either the last move left the view, or the focus had strayed before it.
      by_cases hview : (s.moves moves).app.view = .search
      · exact ⟨moves, m, [], rfl, ⟨hfocus, hview, h.2⟩, nofun⟩
      · obtain ⟨before, first, after, rfl, hleaves, hafter⟩ := ih ⟨hfocus, hview⟩
        refine ⟨before, first, after ++ [m], by simp, hleaves, ?_⟩
        exact List.forall_mem_append.2 ⟨hafter, by simpa using hkeeps⟩
  · rintro ⟨hview, before, m, after, rfl, hleaves, hafter⟩
    refine ⟨?_, hview⟩
    have hmoves : s.moves (before ++ m :: after) = ((s.moves before).move m).moves after := by
      simp [Station.moves]
    rw [hmoves, focus_moves_of_not_settlesFocus hafter,
      focus_move_of_not_settlesFocus (not_settlesFocus_of_leaves hleaves)]
    exact hleaves.focus

/-! ## What is drawn -/

theorem focus_mem_order_iff (s : Station) :
    s.display.focus ∈ Focus.order s.app.view ↔ ¬s.Strays := by
  rw [Focus.mem_order_iff, Strays, not_and, not_not]

/-- A panel at its start, with nothing shown yet. -/
def new (settings : Settings.Resolved) (url : String) : Station :=
  { app := Settings.initialApp settings, url }

end Station

end Work

/-- **The focus of the results outlives their view.** After every run from the start of a panel,
through any actions, events and drawings:

* the results of a search have the focus without being shown exactly if another view is shown and
  no event has settled the focus since their view was left while they had it;
* it was left so by the event that goes on to the next view, or by an action that is not a report
  of the node;
* a screen that shows the panel, of any size, has a bright frame around the part that has the focus
  and dark frames around the other parts, as far as it has room for them. So it shows exactly one
  part as the one that has the focus, or none and no cursor if the focus has strayed. -/
theorem search_focus_outlives_view (settings : Settings.Resolved) (url : String)
    (moves : List Work.Move) :
    let start := Station.new settings url
    let s := start.moves moves
    (s.Strays ↔ s.app.view ≠ .search ∧
        ∃ before m after, moves = before ++ m :: after ∧ (start.moves before).Leaves m ∧
          ∀ later ∈ after, later.settlesFocus = false) ∧
      (∀ before m, (start.moves before).Leaves m → m = .handle .nextView ∨
        ∃ a, m = .dispatch a ∧ a.isNodeReport = false ∧ a.isSearchReport = false) ∧
      ((∀ reason, s.app.connection ≠ .disconnected reason) → ∀ width height,
        let scene := (s.draw width height).1
        let corner := corner? s.app.view width height
        let shown := highlighted s.app.view width height scene.picture
        (∀ f x y, corner f = some (x, y) →
            cellAt? scene.picture x y = some ⟨"╭", .colored (f.color (s.display.focus = f))⟩) ∧
          scene.cursor.isSome = decide (s.display.focus = .input) ∧
          (s.Strays → shown = [] ∧ scene.cursor = none) ∧
          (¬s.Strays → shown = [s.display.focus].filter fun f => (corner f).isSome)) := by
  intro start s
  have hstart : ¬start.Strays := fun h => nomatch h.1
  refine ⟨Station.strays_moves_iff hstart moves, fun before m => Station.leaves_cases, ?_⟩
  intro hworking width height scene corner shown
  have hshown : shown = _ := s.display.highlighted_draw hworking s.url width height
  have hcursor := s.display.isSome_cursor_draw s.app s.url width height
  refine ⟨fun f x y => State.cellAt?_draw hworking s.url, hcursor, fun hstrays => ⟨?_, ?_⟩,
    fun hstays => ?_⟩
  · rw [hshown, if_neg fun hmem => s.focus_mem_order_iff.1 hmem hstrays]
  · rw [hstrays.1] at hcursor
    exact Option.isNone_iff_eq_none.1 (Option.isSome_eq_false_iff.1 hcursor)
  · rw [hshown, if_pos (s.focus_mem_order_iff.2 hstays)]

/-- The results of a search have got the focus in their view. -/
def searchingStation : Station :=
  (Station.new {} "").moves [.handle .nextView, .handle .focusNext]

/-- The results have the focus, and the feed is shown. A screen with room for every part shows none
of them as the one that has the focus, and no cursor. -/
theorem screen_without_focus :
    let s := searchingStation.move (.handle .nextView)
    let scene := (s.draw 80 24).1
    s.display.focus = .search ∧ s.app.view = .gossip ∧ s.app.connection = .connecting ∧
      (∀ f ∈ Focus.order s.app.view, (corner? s.app.view 80 24 f).isSome = true) ∧
      highlighted s.app.view 80 24 scene.picture = [] ∧ scene.cursor = none := by
  intro s scene
  have hfocus : s.display.focus = .search := by decide
  have hview : s.app.view = .gossip := by decide
  have hconnection : s.app.connection = .connecting := by decide
  have hmem : s.display.focus ∉ Focus.order s.app.view := by decide
  have hcursor : scene.cursor.isSome = false :=
    (s.display.isSome_cursor_draw s.app s.url 80 24).trans (by decide)
  refine ⟨hfocus, hview, hconnection, ?_, ?_, ?_⟩
  · exact fun f => isSome_corner? (by decide) (by decide)
  · have hworking : ∀ reason, s.app.connection ≠ .disconnected reason := by simp [hconnection]
    exact (s.display.highlighted_draw hworking s.url 80 24).trans (if_neg hmem)
  · exact Option.isNone_iff_eq_none.1 (Option.isSome_eq_false_iff.1 hcursor)

/-- Before their view is left the results are the part that is highlighted; afterwards the focus has
strayed. -/
theorem results_highlighted_in_their_view :
    (∀ reason, searchingStation.app.connection ≠ .disconnected reason) ∧
      highlighted searchingStation.app.view 80 24 (searchingStation.draw 80 24).1.picture =
        [.search] ∧
      ((Station.new {} "").moves
        [.handle .nextView, .handle .focusNext, .handle .nextView]).Strays := by
  have hworking : ∀ reason, searchingStation.app.connection ≠ .disconnected reason := by
    simp [show searchingStation.app.connection = .connecting by decide]
  have hstays : ¬searchingStation.Strays := by decide
  refine ⟨hworking, ?_, ?_⟩
  · obtain ⟨-, -, hdrawn⟩ :=
      search_focus_outlives_view {} "" [.handle .nextView, .handle .focusNext]
    obtain ⟨-, -, -, hshown⟩ := hdrawn hworking 80 24
    exact (hshown hstays).trans (by decide)
  · obtain ⟨hiff, -⟩ := search_focus_outlives_view {} ""
      [.handle .nextView, .handle .focusNext, .handle .nextView]
    exact hiff.2 ⟨by decide, [.handle .nextView, .handle .focusNext], .handle .nextView, [], rfl,
      ⟨by decide, by decide, by decide⟩, nofun⟩

end GossipPanel
