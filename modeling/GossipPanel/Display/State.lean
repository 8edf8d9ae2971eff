import GossipPanel.Display.InputBox
import GossipPanel.Display.ListPane
import GossipPanel.Display.MessageList

/-!
# State of the display

Where the keys go, what has been typed, and how far every list is scrolled. Every view keeps its
own message list, so that a conversation is found again where it was left.
-/

namespace GossipPanel.Display

open Panel

/-- The part of the screen that gets the keys. -/
inductive Focus where
  | input
  | peers
  | routes
  /-- The results of a search; only the search view has them. -/
  | search
  deriving DecidableEq, Repr

namespace Focus

/-- The parts that can have the focus in a view, in the order of cycling. -/
def order : View → List Focus
  | .search => [input, search, peers, routes]
  | _ => [input, peers, routes]

/-- The part that gets the focus next; `steps` counts from the present one. -/
def advance (view : View) (steps : Nat) (f : Focus) : Focus :=
  let order := order view
  let current := if f ∈ order then order.idxOf f else 0
  order.getD ((current + steps) % order.length) input

/-- The part after the present one, the first after the last. -/
def next (view : View) (f : Focus) : Focus :=
  f.advance view 1

/-- The part before the present one, the last before the first. -/
def previous (view : View) (f : Focus) : Focus :=
  f.advance view ((order view).length - 1)

end Focus

structure State where
  /-- The message lists of the views that have been shown or scrolled. -/
  messageLists : List (View × MessageList) := []
  input : InputBox := {}
  peers : ListPane := {}
  routes : ListPane := {}
  search : ListPane := {}
  focus : Focus := .input
  deriving DecidableEq, Repr

namespace State

def messageList? (d : State) (view : View) : Option MessageList :=
  d.messageLists.lookup view

/-- The message list of a view; a new one if it has none. -/
def messageList (d : State) (view : View) : MessageList :=
  (d.messageList? view).getD {}

def setMessageList (d : State) (view : View) (list : MessageList) : State :=
  { d with messageLists := (view, list) :: d.messageLists.filter (·.1 != view) }

/-- Rows lie below the viewport of the view's list. -/
def hasUnseen (d : State) (view : View) : Bool :=
  (d.messageList? view).any (·.hasUnseen)

/-- Forgets the message lists of conversations that have been closed. -/
def forgetClosed (d : State) (app : App) : State :=
  { d with
    messageLists := d.messageLists.filter fun (view, _) =>
      match view with
      | .peer name => app.conversations.contains name
      | _ => true }

/-- The list of a view shows the newest message again. -/
def pin (d : State) (view : View) : State :=
  d.setMessageList view (d.messageList view).pin

/-! ## Message lists are kept per view -/

@[simp]
theorem messageList?_setMessageList_self (d : State) (view : View) (list : MessageList) :
    (d.setMessageList view list).messageList? view = some list := by
  simp [setMessageList, messageList?]

theorem lookup_filter_of_keeps {view : View} {keep : View × MessageList → Bool}
    (h : ∀ list, keep (view, list) = true) (lists : List (View × MessageList)) :
    (lists.filter keep).lookup view = lists.lookup view := by
  induction lists with
  | nil => rfl
  | cons entry lists ih =>
    obtain ⟨v, list⟩ := entry
    by_cases hv : view = v
    · subst hv
      rw [List.filter_cons_of_pos (h list)]
      simp
    · have hne : (view == v) = false := by simp [hv]
      rw [List.filter_cons]
      split <;> simp [List.lookup_cons, hne, ih]

theorem lookup_filter_ne {view other : View} (h : other ≠ view)
    (lists : List (View × MessageList)) :
    (lists.filter (·.1 != view)).lookup other = lists.lookup other :=
  lookup_filter_of_keeps (fun _ => by simp [h]) lists

theorem messageList?_setMessageList_ne (d : State) {view other : View} (h : other ≠ view)
    (list : MessageList) :
    (d.setMessageList view list).messageList? other = d.messageList? other := by
  have hne : (other == view) = false := by simp [h]
  simp [setMessageList, messageList?, List.lookup_cons, hne, lookup_filter_ne h]

end State

end GossipPanel.Display
