import GossipPanel.Node.Record

/-!
# Conversations

One tab per peer, in the order of their creation. A tab has an ordinal that is never used again,
and a refresh of its messages carries a ticket, so that an answer for a tab that has been closed
since changes nothing.
-/

namespace GossipPanel.Panel

open Node

/-- The ordinal of the public feed; the tabs of peers count up from the next one. -/
def feedOrdinal : UInt64 := 1

/-- Identifies one refresh of one tab. -/
structure Ticket where
  tab : UInt64
  generation : UInt64
  deriving DecidableEq, Repr

structure Conversation where
  peer : String
  ordinal : UInt64
  messages : List MessageRecord := []
  /-- A refresh has succeeded. -/
  loaded : Bool := false
  /-- Generation of the latest refresh. -/
  generation : UInt64 := 0
  refreshing : Bool := false
  deriving DecidableEq, Repr

/-- The ticket of the latest refresh. -/
def Conversation.ticket (c : Conversation) : Ticket :=
  ⟨c.ordinal, c.generation⟩

/-- The open conversations, oldest first. -/
structure Conversations where
  tabs : List Conversation := []
  nextOrdinal : UInt64 := feedOrdinal + 1
  deriving DecidableEq, Repr

namespace Conversations

def get? (cs : Conversations) (peer : String) : Option Conversation :=
  cs.tabs.find? (·.peer == peer)

/-- A tab for the peer is open. -/
def contains (cs : Conversations) (peer : String) : Bool :=
  cs.tabs.any (·.peer == peer)

/-- Opens a tab for a peer that has none. -/
def select (cs : Conversations) (peer : String) : Conversations :=
  if cs.contains peer then cs
  else
    { tabs := cs.tabs ++ [{ peer, ordinal := cs.nextOrdinal }]
      nextOrdinal := cs.nextOrdinal + 1 }

def close (cs : Conversations) (peer : String) : Conversations :=
  { cs with tabs := cs.tabs.filter (·.peer != peer) }

/-- Changes the tab of a peer. -/
def modify (cs : Conversations) (peer : String) (f : Conversation → Conversation) :
    Conversations :=
  { cs with tabs := cs.tabs.map fun c => if c.peer == peer then f c else c }

/-- Starts a refresh of an open tab that has none in flight. -/
def beginRefresh? (cs : Conversations) (peer : String) : Option (Ticket × Conversations) :=
  match cs.get? peer with
  | none => none
  | some c =>
    if c.refreshing then none
    else some (⟨c.ordinal, c.generation + 1⟩,
      cs.modify peer fun c => { c with generation := c.generation + 1, refreshing := true })

/-- The ticket belongs to the latest refresh of the open tab of the peer. -/
def isCurrent (cs : Conversations) (peer : String) (ticket : Ticket) : Bool :=
  (cs.get? peer).any (·.ticket == ticket)

/-- Replaces the messages of a tab; `none` when the ticket is stale. -/
def applyRefresh? (cs : Conversations) (peer : String) (ticket : Ticket)
    (messages : List MessageRecord) : Option Conversations :=
  if cs.isCurrent peer ticket then
    some (cs.modify peer fun c => { c with messages, loaded := true, refreshing := false })
  else none

/-- Ends a refresh that failed; `none` when the ticket is stale. -/
def failRefresh? (cs : Conversations) (peer : String) (ticket : Ticket) : Option Conversations :=
  if cs.isCurrent peer ticket then
    some (cs.modify peer fun c => { c with refreshing := false })
  else none

/-! ## Membership -/

theorem contains_iff {cs : Conversations} {peer : String} :
    cs.contains peer = true ↔ ∃ c ∈ cs.tabs, c.peer = peer := by
  simp [contains]

theorem ne_of_contains_eq_false {cs : Conversations} {peer : String}
    (h : cs.contains peer = false) : ∀ c ∈ cs.tabs, c.peer ≠ peer := by
  simpa [contains] using h

@[simp]
theorem contains_close (cs : Conversations) (peer : String) :
    (cs.close peer).contains peer = false := by
  simp [contains, close]

theorem select_of_contains {cs : Conversations} {peer : String} (h : cs.contains peer = true) :
    cs.select peer = cs := by
  simp [select, h]

theorem close_of_not_contains {cs : Conversations} {peer : String}
    (h : cs.contains peer = false) : cs.close peer = cs := by
  have h' : ∀ c ∈ cs.tabs, (c.peer != peer) = true := by simpa [contains, bne] using h
  unfold close
  rw [List.filter_eq_self.2 h']

/-! ## Tabs -/

@[simp]
theorem nextOrdinal_modify (cs : Conversations) (peer : String) (f : Conversation → Conversation) :
    (cs.modify peer f).nextOrdinal = cs.nextOrdinal := rfl

theorem mem_close {cs : Conversations} {peer : String} {c : Conversation} :
    c ∈ (cs.close peer).tabs ↔ c ∈ cs.tabs ∧ c.peer ≠ peer := by
  simp [close]

theorem mem_modify {cs : Conversations} {peer : String} {f : Conversation → Conversation}
    {d : Conversation} :
    d ∈ (cs.modify peer f).tabs ↔
      (∃ c ∈ cs.tabs, c.peer = peer ∧ f c = d) ∨ (d ∈ cs.tabs ∧ d.peer ≠ peer) := by
  simp only [modify, List.mem_map, beq_iff_eq]
  constructor
  · rintro ⟨c, hc, hd⟩
    split at hd
    · rename_i hpeer
      exact .inl ⟨c, hc, hpeer, hd⟩
    · rename_i hpeer
      exact .inr (hd ▸ ⟨hc, hpeer⟩)
  · rintro (⟨c, hc, hpeer, hd⟩ | ⟨hd, hpeer⟩)
    · exact ⟨c, hc, by rw [if_pos hpeer, hd]⟩
    · exact ⟨d, hd, by rw [if_neg hpeer]⟩

theorem map_modify {β : Type} {g : Conversation → β} {f : Conversation → Conversation}
    (hf : ∀ c, g (f c) = g c) (cs : Conversations) (peer : String) :
    (cs.modify peer f).tabs.map g = cs.tabs.map g := by
  simp only [modify, List.map_map, List.map_inj_left, Function.comp_apply]
  intro c _
  split
  · exact hf c
  · rfl

theorem mem_of_get? {cs : Conversations} {peer : String} {c : Conversation}
    (h : cs.get? peer = some c) : c ∈ cs.tabs ∧ c.peer = peer :=
  ⟨List.mem_of_find?_eq_some h, by simpa using List.find?_some h⟩

theorem get?_eq_none_iff {cs : Conversations} {peer : String} :
    cs.get? peer = none ↔ ∀ c ∈ cs.tabs, c.peer ≠ peer := by
  simp [get?]

theorem exists_get?_of_contains {cs : Conversations} {peer : String}
    (h : cs.contains peer = true) : ∃ c, cs.get? peer = some c := by
  obtain ⟨c, hc, hpeer⟩ := contains_iff.1 h
  refine Option.ne_none_iff_exists'.1 fun hnone => ?_
  exact get?_eq_none_iff.1 hnone c hc hpeer

end Conversations

end GossipPanel.Panel
