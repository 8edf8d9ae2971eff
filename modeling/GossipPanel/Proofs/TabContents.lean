import GossipPanel.Proofs.Tickets

/-!
# Contents of the tabs

What a tab shows comes from the answers to its own tickets, and from nothing else.

* `Conversations.Told`: the messages are those of the last success among the answers to the tickets
  of the tab, and these answers came in the order of the tickets.
* `Conversations.Contents.react`: every event keeps this for every open tab.
* `Conversations.Gone.react`: an incarnation that has been closed is never open again.
-/

namespace GossipPanel.Panel

open Node

/-- The outcome of a refresh that was pending when it came. -/
structure RefreshAnswer where
  refresh : String × Ticket
  result : Except String (List MessageRecord)

/-- The outcome of a refresh, if this is pending. -/
def RefreshAnswer.ofPending? (pending : List (String × Ticket)) (refresh : String × Ticket)
    (result : Except String (List MessageRecord)) : Option RefreshAnswer :=
  if refresh ∈ pending then some ⟨refresh, result⟩ else none

namespace Conversations

/-- The answers to the tickets of one incarnation of a tab. -/
def answersOf (ordinal : UInt64) (answers : List RefreshAnswer) : List RefreshAnswer :=
  answers.filter (·.refresh.2.tab == ordinal)

/-- The tab shows what the answers to its tickets have brought. -/
structure Told (c : Conversation) (own : List RefreshAnswer) : Prop where
  messages : c.messages = ((own.filterMap (·.result.toOption)).getLast?).getD []
  loaded : c.loaded = own.any (·.result.isOk)
  increasing : (own.map (·.refresh.2.generation)).Pairwise (· < ·)
  /-- The ticket in flight is newer than every answered one. -/
  answered : ∀ r ∈ own, r.refresh.2.generation ≤ c.generation ∧
    (c.refreshing = true → r.refresh.2.generation < c.generation)

/-- The open tabs against the answers so far. -/
structure Contents (cs : Conversations) (issued : List (String × Ticket))
    (answers : List RefreshAnswer) : Prop where
  told : ∀ c ∈ cs.tabs, Told c (answersOf c.ordinal answers)
  answers_issued : ∀ r ∈ answers, r.refresh ∈ issued

/-- The outcome that an event brings, if its refresh is pending. -/
def answer? (pending : List (String × Ticket)) : ConversationEvent → Option RefreshAnswer
  | .answer peer ticket result => RefreshAnswer.ofPending? pending (peer, ticket) result
  | _ => none

variable {cs : Conversations} {c : Conversation} {peer : String} {ticket : Ticket}
  {issued pending : List (String × Ticket)} {answers : List RefreshAnswer}

theorem contents_empty : Contents {} [] [] where
  told := nofun
  answers_issued := nofun

theorem answersOf_concat (ordinal : UInt64) (answers : List RefreshAnswer) (r : RefreshAnswer) :
    answersOf ordinal (answers ++ [r]) =
      answersOf ordinal answers ++ if r.refresh.2.tab = ordinal then [r] else [] := by
  by_cases h : r.refresh.2.tab = ordinal <;> simp [answersOf, h]

theorem told_new (ordinal : UInt64) (h : answersOf ordinal answers = []) :
    Told (opened cs peer) (answersOf ordinal answers) := by
  rw [h]
  exact ⟨rfl, rfl, List.Pairwise.nil, nofun⟩

theorem Told.begun {own : List RefreshAnswer} (h : Told c own)
    (hnext : c.generation < c.generation + 1) : Told (begun c) own where
  messages := h.messages
  loaded := h.loaded
  increasing := h.increasing
  answered r hr := by
    have hlt : r.refresh.2.generation < c.generation + 1 :=
      UInt64.lt_of_le_of_lt (h.answered r hr).1 hnext
    exact ⟨UInt64.le_of_lt hlt, fun _ => hlt⟩

theorem Told.settled {own : List RefreshAnswer} (h : Told c own) (hbusy : c.refreshing = true)
    (result : Except String (List MessageRecord)) :
    Told (settled result c) (own ++ [⟨(c.peer, c.ticket), result⟩]) where
  messages := by
    rw [List.filterMap_append]
    cases result with
    | ok messages => simp [Conversations.settled, Except.toOption]
    | error reason => simpa [Conversations.settled, Except.toOption] using h.messages
  loaded := by
    rw [List.any_append]
    cases result with
    | ok messages => simp [Conversations.settled, Except.isOk, Except.toBool]
    | error reason => simpa [Conversations.settled, Except.isOk, Except.toBool] using h.loaded
  increasing := by
    rw [List.map_append, List.pairwise_append]
    refine ⟨h.increasing, List.pairwise_singleton _ _, fun g hg g' hg' => ?_⟩
    obtain ⟨r, hr, rfl⟩ := List.mem_map.1 hg
    rw [List.mem_singleton.1 hg']
    exact (h.answered r hr).2 hbusy
  answered r hr := by
    rw [settled_generation, settled_refreshing]
    refine ⟨?_, fun h => by cases h⟩
    rcases mem_concat.1 hr with hr | rfl
    · exact (h.answered r hr).1
    · exact UInt64.le_refl _

theorem Contents.begin (ht : Contents cs issued answers) (hl : Ledger cs issued' pending)
    (hc : c ∈ cs.tabs) (hroom : issued'.length + 3 < UInt64.size) :
    Contents (cs.modify c.peer begun) issued answers where
  told d hd := by
    rcases (hl.mem_modify_iff hc).1 hd with rfl | ⟨hd, -⟩
    · exact (ht.told c hc).begun (lt_add_one (hl.generation_le c hc) (by omega))
    · exact ht.told d hd
  answers_issued := ht.answers_issued

theorem Contents.open (ht : Contents cs issued answers) (hl : Ledger cs issued pending) :
    Contents { tabs := cs.tabs ++ [opened cs peer], nextOrdinal := cs.nextOrdinal + 1 } issued
      answers where
  told d hd := by
    rcases mem_concat.1 hd with hd | rfl
    · exact ht.told d hd
    · refine told_new _ (List.filter_eq_nil_iff.2 fun r hr heq => ?_)
      have hbelow := hl.issued_below r.refresh (ht.answers_issued r hr)
      rw [eq_of_beq heq] at hbelow
      exact absurd hbelow (UInt64.lt_irrefl _)
  answers_issued := ht.answers_issued

theorem Contents.answer (ht : Contents cs issued answers) (hl : Ledger cs issued pending)
    (hr : (peer, ticket) ∈ pending) (result : Except String (List MessageRecord)) :
    Contents (cs.answer peer ticket result) issued (answers ++ [⟨(peer, ticket), result⟩]) where
  told d hd := by
    rw [answersOf_concat]
    rcases hl.answer_cases peer ticket result with ⟨c, hc, heq, hanswer⟩ | ⟨hstale, hanswer⟩
    · rw [hanswer] at hd
      obtain ⟨rfl, rfl⟩ := Prod.mk.inj heq
      rcases (hl.mem_modify_iff hc).1 hd with rfl | ⟨hd, hne⟩
      · have hbusy : c.refreshing = true := (hl.eq_current hc hr rfl).2
        have hown : (RefreshAnswer.mk (c.peer, c.ticket) result).refresh.2.tab = c.ordinal := rfl
        rw [settled_ordinal, if_pos hown]
        exact (ht.told c hc).settled hbusy result
      · have hother : c.ticket.tab ≠ d.ordinal := fun heq =>
          hne (hl.eq_of_ordinal hd hc heq.symm)
        rw [if_neg hother, List.append_nil]
        exact ht.told d hd
    · rw [hanswer] at hd
      have hother : ticket.tab ≠ d.ordinal := fun heq => hstale d hd (hl.eq_current hd hr heq).1
      rw [if_neg hother, List.append_nil]
      exact ht.told d hd
  answers_issued r hr' := by
    rcases mem_concat.1 hr' with hr' | rfl
    · exact ht.answers_issued r hr'
    · exact hl.pending_issued _ hr

theorem Contents.mono (ht : Contents cs issued answers) (new : List (String × Ticket)) :
    Contents cs (issued ++ new) answers where
  told := ht.told
  answers_issued r hr := List.mem_append_left _ (ht.answers_issued r hr)

/-- **Every event keeps the contents**, as long as no refresh is answered twice and the counters do
not wrap around. -/
theorem Contents.react (ht : Contents cs issued answers) (hl : Ledger cs issued pending)
    (event : ConversationEvent) (honce : ∀ r ∈ event.refreshed?, r ∈ issued → r ∈ pending)
    (hfew : (issued ++ (cs.react event).2).length + 2 < UInt64.size) :
    Contents (cs.react event).1 (issued ++ (cs.react event).2)
      (answers ++ (answer? pending event).toList) := by
  refine Contents.mono ?_ _
  cases event with
  | unrelated => simpa [Conversations.react, answer?] using ht
  | refresh peers =>
    have hkept := (hl.refreshAll (Contents · issued answers)
      (fun hl' hc hroom ht' => ht'.begin hl' hc hroom) ht peers hfew).2
    simpa [Conversations.react, answer?] using hkept
  | select peer =>
    cases hopen : cs.contains peer with
    | true => simpa [Conversations.react, hopen, answer?] using ht
    | false =>
      rw [react_select_of_closed hopen]
      simpa [answer?] using ht.open hl
  | close peer =>
    have hkept : Contents (cs.close peer) issued answers :=
      ⟨fun c hc => ht.told c (mem_close.1 hc).1, ht.answers_issued⟩
    simpa [Conversations.react, answer?] using hkept
  | answer peer ticket result =>
    by_cases hr : (peer, ticket) ∈ pending
    · simpa [Conversations.react, answer?, RefreshAnswer.ofPending?, hr] using
        ht.answer hl hr result
    · -- the ticket was never issued, so it is the ticket of no tab
      have hissued : (peer, ticket) ∉ issued := fun h => hr (honce _ rfl h)
      rcases hl.answer_cases peer ticket result with ⟨c, hc, heq, -⟩ | ⟨-, hanswer⟩
      · exact absurd (heq ▸ hl.current c hc) hissued
      · simpa [Conversations.react, answer?, RefreshAnswer.ofPending?, hr, hanswer] using ht

/-! ## Closed incarnations -/

/-- The incarnation has been open and is closed. -/
structure Gone (ordinal : UInt64) (cs : Conversations) : Prop where
  below : ordinal < cs.nextOrdinal
  closed : ∀ c ∈ cs.tabs, c.ordinal ≠ ordinal

/-- **A closed incarnation stays closed**: a tab that opens again is another incarnation. -/
theorem Gone.react {ordinal : UInt64} (hg : Gone ordinal cs) (hl : Ledger cs issued pending)
    (event : ConversationEvent) (hfew : (issued ++ (cs.react event).2).length + 2 < UInt64.size) :
    Gone ordinal (cs.react event).1 := by
  cases event with
  | unrelated => exact hg
  | refresh peers =>
    refine (hl.refreshAll (Gone ordinal) (fun {cs _ _ c} hl' hc _ hg' => ?_) hg peers hfew).2
    refine ⟨hg'.below, fun d hd => ?_⟩
    rcases (hl'.mem_modify_iff hc).1 hd with rfl | ⟨hd, -⟩
    · exact hg'.closed c hc
    · exact hg'.closed d hd
  | select peer =>
    cases hopen : cs.contains peer with
    | true => simpa [Conversations.react, hopen] using hg
    | false =>
      rw [react_select_of_closed hopen] at hfew ⊢
      rw [List.length_append, List.length_singleton] at hfew
      have hlt : cs.nextOrdinal < cs.nextOrdinal + 1 :=
        lt_add_one hl.nextOrdinal_le (by omega)
      refine ⟨UInt64.lt_trans hg.below hlt, fun d hd => ?_⟩
      rcases mem_concat.1 hd with hd | rfl
      · exact hg.closed d hd
      · exact fun heq => absurd hg.below (heq ▸ UInt64.lt_irrefl _)
  | close peer => exact ⟨hg.below, fun c hc => hg.closed c (mem_close.1 hc).1⟩
  | answer peer ticket result =>
    rw [Conversations.react]
    rcases hl.answer_cases peer ticket result with ⟨c, hc, -, hanswer⟩ | ⟨-, hanswer⟩
    · rw [hanswer]
      refine ⟨hg.below, fun d hd => ?_⟩
      rcases (hl.mem_modify_iff hc).1 hd with rfl | ⟨hd, -⟩
      · rw [settled_ordinal]
        exact hg.closed c hc
      · exact hg.closed d hd
    · rw [hanswer]
      exact hg

theorem Gone.isCurrent_eq_false {ordinal : UInt64} (hg : Gone ordinal cs) (hd : Distinct cs)
    (peer : String) (htab : ticket.tab = ordinal) : cs.isCurrent peer ticket = false := by
  rw [Bool.eq_false_iff]
  intro hcur
  obtain ⟨c, hc, -, rfl⟩ := hd.isCurrent_iff.1 hcur
  exact hg.closed c hc htab

end Conversations

end GossipPanel.Panel
