import GossipPanel.Proofs.Moves
import GossipPanel.Proofs.Reaction
import GossipPanel.Settings.Basic

/-!
# Which message list a sent message pins

When a message has been sent, a message list shows its end again. The effect that asks for this
names no view: it is carried out on the view that is active when the command finishes, which need
not be the one that the message was written in.

* `Command.home?`: the view of the conversation that a message belongs to.
* `MessageList.place`, `MessageList.AtEnd`: how far a list is scrolled; pinning a list changes its
  place unless it follows its end already (`place_pin_eq_iff`).
* `Station.display_finished`: what a finished message does to the display.
* `finished_message_pins_active_view`: the message's own list is the one that is pinned if its view
  is active by then, and else only where there was nothing to pin.
-/

namespace GossipPanel

open Panel

/-- The view of the conversation that a message belongs to. -/
def Panel.Command.home? : Command → Option View
  | .broadcast _ => some .gossip
  | .sendPrivate m => some (.peer m.destination)
  | _ => none

theorem Panel.Command.isMessage_of_home? {command : Command} {home : View}
    (h : command.home? = some home) : command.isMessage = true := by
  cases command <;> first | rfl | cases h

/-! ## The place of a list -/

namespace Display.MessageList

variable {m : MessageList}

/-- How far the list is scrolled, and whether it follows its end. -/
def place (m : MessageList) : Nat × Bool :=
  (m.offset, m.stick)

/-- The list shows its end and follows it. -/
def AtEnd (m : MessageList) : Prop :=
  m.stick = true ∧ m.offset = m.maxOffset

instance (m : MessageList) : Decidable m.AtEnd :=
  inferInstanceAs (Decidable (_ ∧ _))

theorem atEnd_default : AtEnd {} := by
  decide

theorem place_pin_eq_iff : m.pin.place = m.place ↔ m.AtEnd := by
  simp only [place, pin, AtEnd, Prod.mk.injEq]
  constructor
  · rintro ⟨hoffset, hstick⟩
    exact ⟨hstick.symm, hoffset.symm⟩
  · rintro ⟨hstick, hoffset⟩
    exact ⟨hoffset.symm, hstick.symm⟩

theorem pin_eq_self_iff : m.pin = m ↔ m.AtEnd := by
  constructor
  · intro h
    exact place_pin_eq_iff.1 (congrArg place h)
  · rintro ⟨hstick, hoffset⟩
    rw [pin, ← hstick, ← hoffset]

end Display.MessageList

namespace Display.State

variable (d : State)

theorem messageList?_pin (active view : View) :
    (d.pin active).messageList? view =
      if view = active then some (d.messageList active).pin else d.messageList? view := by
  by_cases hview : view = active
  · rw [if_pos hview, hview, pin, messageList?_setMessageList_self]
  · rw [if_neg hview, pin, messageList?_setMessageList_ne d hview]

theorem messageList_pin (active view : View) :
    (d.pin active).messageList view =
      if view = active then (d.messageList active).pin else d.messageList view := by
  rw [messageList, messageList?_pin]
  split <;> rfl

variable {d}

theorem place_pin_of_atEnd {active : View} (hend : (d.messageList active).AtEnd) (view : View) :
    ((d.pin active).messageList view).place = (d.messageList view).place := by
  rw [messageList_pin]
  by_cases hview : view = active
  · rw [if_pos hview, hview]
    exact MessageList.place_pin_eq_iff.2 hend
  · rw [if_neg hview]

theorem atEnd_messageList_iff {view : View} :
    (d.messageList view).AtEnd ↔ ∀ list, d.messageList? view = some list → list.AtEnd := by
  rw [messageList]
  cases d.messageList? view with
  | none => simp [MessageList.atEnd_default]
  | some list => simp

end Display.State

/-! ## A finished message -/

namespace Work.Station

/-- The node or a timer does the work; the display has no part in it. -/
def isRemote : Effect → Bool
  | .fetchSnapshot _ | .scheduleTick .. | .refreshTab .. | .run _ => true
  | _ => false

theorem display_execute_of_isRemote (s : Station) {e : Effect} (he : isRemote e = true) :
    (s.execute e).display = s.display := by
  cases e <;> first | rfl | cases he

theorem display_foldl_execute (s : Station) {effects : List Effect}
    (hremote : ∀ e ∈ effects, isRemote e = true) :
    (effects.foldl execute s).display = s.display := by
  induction effects generalizing s with
  | nil => rfl
  | cons e effects ih =>
    obtain ⟨he, hrest⟩ := List.forall_mem_cons.1 hremote
    have hone := display_execute_of_isRemote s he
    exact (ih (s.execute e) hrest).trans hone

theorem display_finished (s : Station) {command : Command} (hmessage : command.isMessage = true)
    (detail : String) :
    (s.dispatch (.commandFinished command (.ok detail))).2.display = s.display.pin s.app.view := by
  have hpin : App.pinEffects command = [.pinToBottom] := if_pos hmessage
  have hremote : ∀ e ∈ App.refreshEffects
        (s.app.conversations.react (App.successEvent command)).2 ++ s.app.polling.request.2,
      isRemote e = true := by
    intro e he
    rcases List.mem_append.1 he with hrefresh | hrequest
    · obtain ⟨r, -, rfl⟩ := List.mem_map.1 hrefresh
      rfl
    · obtain ⟨g, -, rfl⟩ := List.mem_map.1 hrequest
      rfl
  rw [dispatch, update, App.commandFinished_ok, hpin, List.append_assoc]
  exact display_foldl_execute _ hremote

/-- A message is finished as it should be: the list of its own view, if it has one, is pinned, and
every other list keeps its place. -/
def RepinsOnly (home : View) (before after : Display.State) : Prop :=
  (∀ list, before.messageList? home = some list → after.messageList? home = some list.pin) ∧
    ∀ view, view ≠ home → (after.messageList view).place = (before.messageList view).place

theorem repinsOnly_pin_iff (d : Display.State) (home active : View) :
    RepinsOnly home d (d.pin active) ↔
      active = home ∨ ((d.messageList active).AtEnd ∧ (d.messageList home).AtEnd) := by
  by_cases hactive : active = home
  · simp only [hactive, true_or, iff_true]
    constructor
    · intro list hlist
      rw [d.messageList?_pin, if_pos rfl, Display.State.messageList, hlist]
      rfl
    · intro view hview
      rw [d.messageList_pin, if_neg hview]
  · have hhome : home ≠ active := fun h => hactive h.symm
    have hkept : (d.pin active).messageList? home = d.messageList? home := by
      rw [d.messageList?_pin, if_neg hhome]
    rw [or_iff_right hactive, @Display.State.atEnd_messageList_iff d home]
    constructor
    · rintro ⟨hown, hothers⟩
      refine ⟨?_, fun list hlist => ?_⟩
      · have hplace := hothers active hactive
        rw [d.messageList_pin, if_pos rfl] at hplace
        exact Display.MessageList.place_pin_eq_iff.1 hplace
      · have hpinned := hown list hlist
        rw [hkept, hlist] at hpinned
        exact Display.MessageList.pin_eq_self_iff.1 (Option.some.inj hpinned).symm
    · rintro ⟨hend, hownEnd⟩
      refine ⟨fun list hlist => ?_, fun view _ => Display.State.place_pin_of_atEnd hend view⟩
      rw [hkept, hlist, Display.MessageList.pin_eq_self_iff.2 (hownEnd list hlist)]

end Work.Station

open Work

/-- **A finished message pins the list of the active view.** In every state, when a message has
been sent, the list of the view that is active by then is pinned, and every other list stays
exactly as it is. So it is the message's own list alone that is pinned, exactly when its view is
active, or when both lists follow their ends already. -/
theorem finished_message_pins_active_view (s : Station) (command : Command) (detail : String)
    (home : View) (hhome : command.home? = some home) :
    let before := s.display
    let after := (s.dispatch (.commandFinished command (.ok detail))).2.display
    (∀ view, after.messageList? view =
        if view = s.app.view then some (before.messageList view).pin
        else before.messageList? view) ∧
      (Station.RepinsOnly home before after ↔
        s.app.view = home ∨
          ((before.messageList s.app.view).AtEnd ∧ (before.messageList home).AtEnd)) := by
  intro before after
  have hafter : after = before.pin s.app.view :=
    Station.display_finished s (Command.isMessage_of_home? hhome) detail
  constructor
  · intro view
    rw [hafter, before.messageList?_pin]
    by_cases hview : view = s.app.view
    · rw [if_pos hview, if_pos hview, hview]
    · rw [if_neg hview, if_neg hview]
  · rw [hafter]
    exact Station.repinsOnly_pin_iff before home s.app.view

/-- A message to the feed is being sent; the feed and the conversation with bob, which is active by
now, have been scrolled up. -/
def scrolledStation : Station :=
  Station.moves { app := Settings.initialApp {}, url := "" }
    [.dispatch (.selectPeer "bob"), .dispatch (.showView .gossip), .dispatch (.submit "hi"),
      .handle .pageUp, .dispatch (.showView (.peer "bob")), .handle .scrollUp]

theorem broadcast_pins_other_conversation :
    let before := scrolledStation.display
    let after := (scrolledStation.dispatch (.commandFinished (.broadcast "hi") (.ok ""))).2.display
    scrolledStation.app.sending = true ∧
      before.messageList? .gossip = some { stick := false } ∧
      after.messageList? .gossip = some { stick := false } ∧
      before.messageList? (.peer "bob") = some { stick := false } ∧
      after.messageList? (.peer "bob") = some { stick := true } ∧
      ¬Station.RepinsOnly .gossip before after := by
  intro before after
  have hgossip : before.messageList? .gossip = some { stick := false } := by decide
  have hkept : after.messageList? .gossip = some { stick := false } := by decide
  refine ⟨by decide, hgossip, hkept, by decide, by decide, fun hrepins => ?_⟩
  have hpinned := hrepins.1 _ hgossip
  rw [hkept] at hpinned
  exact absurd hpinned (by decide)

/-- Back in the feed the message pins its own list, and bob's conversation keeps its place. -/
theorem broadcast_pins_feed_when_shown :
    let s := scrolledStation.move (.dispatch (.showView .gossip))
    let after := (s.dispatch (.commandFinished (.broadcast "hi") (.ok ""))).2.display
    Command.home? (.broadcast "hi") = some .gossip ∧ s.app.view = .gossip ∧
      Station.RepinsOnly .gossip s.display after := by
  intro s after
  have hview : s.app.view = .gossip := by decide
  obtain ⟨-, hiff⟩ := finished_message_pins_active_view s (.broadcast "hi") "" .gossip rfl
  exact ⟨rfl, hview, hiff.2 (.inl hview)⟩

end GossipPanel
