import GossipPanel.Work.Station
import Mathlib.Data.List.Induction

/-!
# Runs of a panel at work

A panel at work goes through actions, events and drawings.

* `Move`, `Station.moves`: a run of them.
* `Station.app_dispatch`, `Station.messageList?_dispatch`: what the effects of an action leave alone.
* `messageList?_route`, `messageList?_draw`: an event and a drawing change the message list of the
  active view; a drawing also forgets the lists of closed conversations.
* `list_kept_while_hidden`: along every run, a conversation that is not shown keeps its place.
-/

namespace GossipPanel

open Display Panel

/-! ## Message lists under events and drawings -/

namespace Display.State

variable {d e : State} {app : App} {view : View}

theorem messageList?_congr (h : e.messageLists = d.messageLists) (view : View) :
    e.messageList? view = d.messageList? view := by
  rw [messageList?, messageList?, h]

theorem messageLists_settleFocus (d : State) (view : View) :
    (d.settleFocus view).messageLists = d.messageLists := by
  rw [settleFocus]
  split <;> rfl

theorem messageList?_routeToInput (hview : view ≠ app.view) (event : Event) :
    (d.routeToInput app event).2.messageList? view = d.messageList? view := by
  rw [routeToInput]
  cases scrollOf? event with
  | some scroll => exact messageList?_setMessageList_ne d hview _
  | none =>
    have hinput : (d.inputEvent event).2.messageLists = d.messageLists := rfl
    generalize d.inputEvent event = r at hinput ⊢
    obtain ⟨_ | request, e⟩ := r
    · exact messageList?_congr hinput view
    · cases request <;> exact messageList?_congr hinput view

theorem messageList?_routeToFocus (hview : view ≠ app.view) (event : Event) :
    (d.routeToFocus app event).2.messageList? view = d.messageList? view := by
  have hsettle := messageList?_congr (messageLists_settleFocus d app.view) view
  rw [← hsettle, routeToFocus]
  generalize d.settleFocus app.view = d'
  split
  · exact messageList?_congr rfl view
  · cases d'.focus with
    | input => exact messageList?_routeToInput hview event
    | peers => exact messageList?_congr rfl view
    | routes => exact messageList?_congr rfl view
    | search => exact messageList?_congr rfl view

theorem messageList?_route (hview : view ≠ app.view) (event : Event) :
    (d.route app event).2.messageList? view = d.messageList? view := by
  have hfocus := messageList?_routeToFocus (d := d) hview event
  cases event with
  | resize => rfl
  | forceQuit => rfl
  | refresh => rfl
  | nextView => rfl
  | closeTab => rfl
  | focusNext => exact messageList?_congr rfl view
  | focusPrev => exact messageList?_congr rfl view
  | escape => exact messageList?_congr rfl view
  | _ => exact hfocus

theorem messageList?_forgetClosed
    (hopen : ∀ name, view = .peer name → app.conversations.contains name = true) :
    (d.forgetClosed app).messageList? view = d.messageList? view := by
  rw [messageList?, messageList?, forgetClosed]
  refine lookup_filter_of_keeps (fun list => ?_) d.messageLists
  cases view with
  | peer name => exact hopen name rfl
  | _ => rfl

theorem messageList?_drawBody (hview : view ≠ app.view) (width height : Nat) :
    (d.drawBody app width height).1.messageList? view = d.messageList? view := by
  have hdrawView : (d.drawView app (width - min sidebarWidth width) height).1.messageList? view =
      d.messageList? view := by
    rw [drawView]
    split
    · exact messageList?_congr rfl view
    · exact messageList?_setMessageList_ne d hview _
  rw [drawBody]
  split
  · rfl
  · rw [← hdrawView]
    exact messageList?_congr rfl view

theorem messageList?_draw (hview : view ≠ app.view)
    (hopen : ∀ name, view = .peer name → app.conversations.contains name = true) (url : String)
    (width height : Nat) :
    (d.draw app url width height).1.messageList? view = d.messageList? view := by
  calc (d.draw app url width height).1.messageList? view
      = ((d.forgetClosed app).drawBody app width
          (height - 2 - min inputHeight (height - 2))).1.messageList? view :=
        messageList?_congr rfl view
    _ = (d.forgetClosed app).messageList? view := messageList?_drawBody hview _ _
    _ = d.messageList? view := messageList?_forgetClosed hopen

end Display.State

/-! ## Moves -/

/-- What a panel at work goes through. -/
inductive Work.Move where
  | dispatch (action : Action)
  | handle (event : Event)
  | draw (width height : Nat)

namespace Work.Station

variable {s : Station} {view : View}

def move (s : Station) : Move → Station
  | .dispatch action => (s.dispatch action).2
  | .handle event => (s.handle event).2
  | .draw width height => (s.draw width height).2

def moves (s : Station) (moves : List Move) : Station :=
  moves.foldl move s

theorem moves_concat (s : Station) (moves : List Move) (m : Move) :
    s.moves (moves ++ [m]) = (s.moves moves).move m := by
  simp [Station.moves]

theorem app_execute (s : Station) (e : Effect) : (s.execute e).app = s.app := by
  cases e <;> rfl

theorem messageList?_execute (hview : view ≠ s.app.view) (e : Effect) :
    (s.execute e).display.messageList? view = s.display.messageList? view := by
  cases e with
  | pinToBottom => exact State.messageList?_setMessageList_ne s.display hview _
  | _ => exact State.messageList?_congr rfl view

theorem app_foldl_execute (s : Station) (effects : List Effect) :
    (effects.foldl execute s).app = s.app := by
  induction effects generalizing s with
  | nil => rfl
  | cons e effects ih => exact (ih (s.execute e)).trans (app_execute s e)

theorem messageList?_foldl_execute (hview : view ≠ s.app.view) (effects : List Effect) :
    (effects.foldl execute s).display.messageList? view = s.display.messageList? view := by
  induction effects generalizing s with
  | nil => rfl
  | cons e effects ih =>
    have hnext : view ≠ (s.execute e).app.view := by rwa [app_execute]
    exact (ih hnext).trans (messageList?_execute hview e)

@[simp]
theorem app_dispatch (s : Station) (a : Action) : (s.dispatch a).2.app = (update s.app a).1 :=
  app_foldl_execute _ _

theorem messageList?_dispatch {a : Action} (hview : view ≠ (s.dispatch a).2.app.view) :
    (s.dispatch a).2.display.messageList? view = s.display.messageList? view := by
  rw [app_dispatch] at hview
  exact messageList?_foldl_execute (s := { s with app := (update s.app a).1 }) hview _

theorem messageList?_move {m : Move} (hbefore : view ≠ s.app.view)
    (hafter : view ≠ (s.move m).app.view)
    (hopen : ∀ name, view = .peer name → s.app.conversations.contains name = true) :
    (s.move m).display.messageList? view = s.display.messageList? view := by
  cases m with
  | dispatch action => exact messageList?_dispatch hafter
  | handle event =>
    have hroute := State.messageList?_route (d := s.display) hbefore event
    rw [move, handle] at hafter ⊢
    generalize s.display.route s.app event = r at hafter hroute ⊢
    obtain ⟨_ | action, display⟩ := r
    · exact hroute
    · exact (messageList?_dispatch hafter).trans hroute
  | draw width height => exact State.messageList?_draw hbefore hopen s.url width height

/-- Along a run, the list of a conversation that stays open and is never shown does not change. -/
theorem list_kept_while_hidden (s : Station) (moves : List Move) (view : View)
    (hhidden : ∀ earlier, earlier <+: moves → view ≠ (s.moves earlier).app.view)
    (hopen : ∀ name, view = .peer name → ∀ earlier, earlier <+: moves →
      (s.moves earlier).app.conversations.contains name = true) :
    (s.moves moves).display.messageList? view = s.display.messageList? view := by
  induction moves using List.reverseRecOn with
  | nil => rfl
  | append_singleton moves m ih =>
    have hlonger : ∀ {earlier}, earlier <+: moves → earlier <+: moves ++ [m] :=
      fun h => h.trans (List.prefix_append moves [m])
    have hrest := ih (fun earlier h => hhidden earlier (hlonger h))
      fun name hname earlier h => hopen name hname earlier (hlonger h)
    have hlast := hhidden _ (List.prefix_refl (moves ++ [m]))
    rw [moves_concat] at hlast ⊢
    rw [← hrest]
    exact messageList?_move (hhidden moves (hlonger List.prefix_rfl)) hlast
      fun name hname => hopen name hname moves (hlonger List.prefix_rfl)

end Work.Station

end GossipPanel
