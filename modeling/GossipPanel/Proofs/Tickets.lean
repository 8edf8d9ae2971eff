import GossipPanel.Proofs.Reaction
import Mathlib.Data.List.Nodup

/-!
# Tickets of conversation refreshes

The open tabs against the tickets that have been issued and those that are pending.

* `Conversations.Distinct`: no two tabs share a peer or an ordinal.
* `Conversations.Ledger`: no ticket is issued twice; a tab is being refreshed exactly when one of
  its tickets is pending, and that one is its current ticket.
* `Conversations.Ledger.react`: every event keeps the ledger, as long as no refresh is answered
  twice and the counters do not wrap around.
-/

namespace GossipPanel.Panel

open Node

namespace Conversations

/-! ## Distinct tabs -/

/-- No two tabs share a peer or an ordinal, and their ordinals will not be given again. -/
structure Distinct (cs : Conversations) : Prop where
  peers : (cs.tabs.map (·.peer)).Nodup
  ordinals : (cs.tabs.map (·.ordinal)).Nodup
  below : ∀ c ∈ cs.tabs, c.ordinal < cs.nextOrdinal

variable {cs : Conversations} {c d : Conversation} {peer : String} {ticket : Ticket}
  {f : Conversation → Conversation}

theorem Distinct.eq_of_peer (hd : Distinct cs) (hc : c ∈ cs.tabs) (hd' : d ∈ cs.tabs)
    (hpeer : c.peer = d.peer) : c = d :=
  List.inj_on_of_nodup_map hd.peers hc hd' hpeer

theorem Distinct.eq_of_ordinal (hd : Distinct cs) (hc : c ∈ cs.tabs) (hd' : d ∈ cs.tabs)
    (hordinal : c.ordinal = d.ordinal) : c = d :=
  List.inj_on_of_nodup_map hd.ordinals hc hd' hordinal

theorem get?_eq_of_nodup (hpeers : (cs.tabs.map (·.peer)).Nodup) (hc : c ∈ cs.tabs) :
    cs.get? c.peer = some c := by
  cases hget : cs.get? c.peer with
  | none => exact absurd rfl (get?_eq_none_iff.1 hget c hc)
  | some d =>
    obtain ⟨hmem, hpeer⟩ := mem_of_get? hget
    rw [List.inj_on_of_nodup_map hpeers hmem hc hpeer]

theorem Distinct.get?_eq (hd : Distinct cs) (hc : c ∈ cs.tabs) : cs.get? c.peer = some c :=
  get?_eq_of_nodup hd.peers hc

theorem Distinct.isCurrent_iff (hd : Distinct cs) :
    cs.isCurrent peer ticket = true ↔ ∃ c ∈ cs.tabs, c.peer = peer ∧ c.ticket = ticket := by
  rw [isCurrent]
  constructor
  · intro h
    cases hget : cs.get? peer with
    | none => simp [hget] at h
    | some c =>
      obtain ⟨hc, hpeer⟩ := mem_of_get? hget
      exact ⟨c, hc, hpeer, by simpa [hget] using h⟩
  · rintro ⟨c, hc, rfl, rfl⟩
    simp [hd.get?_eq hc]

theorem Distinct.mem_modify_iff (hd : Distinct cs) (hc : c ∈ cs.tabs) :
    d ∈ (cs.modify c.peer f).tabs ↔ d = f c ∨ (d ∈ cs.tabs ∧ d ≠ c) := by
  rw [mem_modify]
  constructor
  · rintro (⟨c', hc', hpeer, rfl⟩ | ⟨hmem, hpeer⟩)
    · exact .inl (by rw [hd.eq_of_peer hc' hc hpeer])
    · exact .inr ⟨hmem, fun heq => hpeer (heq ▸ rfl)⟩
  · rintro (rfl | ⟨hmem, hne⟩)
    · exact .inl ⟨c, hc, rfl, rfl⟩
    · exact .inr ⟨hmem, fun hpeer => hne (hd.eq_of_peer hmem hc hpeer)⟩

theorem Distinct.modify (hd : Distinct cs) (hc : c ∈ cs.tabs) (hpeer : ∀ c, (f c).peer = c.peer)
    (hordinal : ∀ c, (f c).ordinal = c.ordinal) : Distinct (cs.modify c.peer f) where
  peers := by rw [map_modify hpeer]; exact hd.peers
  ordinals := by rw [map_modify hordinal]; exact hd.ordinals
  below d hmem := by
    rcases (hd.mem_modify_iff hc).1 hmem with rfl | ⟨hmem, -⟩
    · rw [hordinal]
      exact hd.below c hc
    · exact hd.below d hmem

theorem Distinct.close (hd : Distinct cs) (peer : String) : Distinct (cs.close peer) where
  peers := hd.peers.sublist (List.filter_sublist.map _)
  ordinals := hd.ordinals.sublist (List.filter_sublist.map _)
  below d hmem := hd.below d (mem_close.1 hmem).1

/-! ## The ledger of tickets -/

/-- The tickets of one incarnation of a tab. -/
def ticketsOf (ordinal : UInt64) (tickets : List (String × Ticket)) : List (String × Ticket) :=
  tickets.filter (·.2.tab == ordinal)

/-- The open tabs against the tickets issued so far and those that are pending. -/
structure Ledger (cs : Conversations) (issued pending : List (String × Ticket)) : Prop
    extends Distinct cs where
  issued_nodup : (issued.map Prod.snd).Nodup
  issued_below : ∀ r ∈ issued, r.2.tab < cs.nextOrdinal
  /-- A tab's tickets carry its peer and count up to its generation. -/
  issued_own : ∀ c ∈ cs.tabs, ∀ r ∈ issued, r.2.tab = c.ordinal →
    r.1 = c.peer ∧ r.2.generation ≤ c.generation
  current : ∀ c ∈ cs.tabs, (c.peer, c.ticket) ∈ issued
  pending_issued : ∀ r ∈ pending, r ∈ issued
  /-- A tab is being refreshed exactly when a ticket of it is pending, its current one. -/
  pending_own : ∀ c ∈ cs.tabs,
    ticketsOf c.ordinal pending = if c.refreshing then [(c.peer, c.ticket)] else []
  nextOrdinal_le : cs.nextOrdinal.toNat ≤ issued.length + 2
  generation_le : ∀ c ∈ cs.tabs, c.generation.toNat ≤ issued.length

theorem ledger_empty : Ledger {} [] [] where
  peers := List.nodup_nil
  ordinals := List.nodup_nil
  below := nofun
  issued_nodup := List.nodup_nil
  issued_below := nofun
  issued_own := nofun
  current := nofun
  pending_issued := nofun
  pending_own := nofun
  nextOrdinal_le := by decide
  generation_le := nofun

variable {issued pending : List (String × Ticket)}

theorem ticketsOf_concat (ordinal : UInt64) (tickets : List (String × Ticket))
    (r : String × Ticket) :
    ticketsOf ordinal (tickets ++ [r]) =
      ticketsOf ordinal tickets ++ if r.2.tab = ordinal then [r] else [] := by
  by_cases h : r.2.tab = ordinal <;> simp [ticketsOf, h]

theorem ticketsOf_erase (ordinal : UInt64) (tickets : List (String × Ticket))
    (r : String × Ticket) :
    ticketsOf ordinal (tickets.erase r) = (ticketsOf ordinal tickets).erase r := by
  rw [ticketsOf, ticketsOf, List.erase_filter]

theorem toNat_add_one {n : UInt64} {k : Nat} (hk : n.toNat ≤ k) (hsize : k + 1 < UInt64.size) :
    (n + 1).toNat = n.toNat + 1 := by
  have hsize' : n.toNat + 1 < 2 ^ 64 := Nat.lt_of_le_of_lt (Nat.succ_le_succ hk) hsize
  rw [UInt64.toNat_add, UInt64.toNat_one, Nat.mod_eq_of_lt hsize']

theorem lt_add_one {n : UInt64} {k : Nat} (hk : n.toNat ≤ k) (hsize : k + 1 < UInt64.size) :
    n < n + 1 := by
  rw [UInt64.lt_iff_toNat_lt, toNat_add_one hk hsize]
  exact Nat.lt_succ_self _

theorem mem_concat {α : Type} {l : List α} {a b : α} : b ∈ l ++ [a] ↔ b ∈ l ∨ b = a := by
  rw [List.mem_append, List.mem_singleton]

theorem nodup_concat {α : Type} {l : List α} {a : α} (hl : l.Nodup) (ha : a ∉ l) :
    (l ++ [a]).Nodup := by
  rw [← List.concat_eq_append]
  exact List.Nodup.concat ha hl

theorem mem_concat_of_mem {α : Type} {l l' : List α} {a : α} (h : ∀ b ∈ l, b ∈ l') :
    ∀ b ∈ l ++ [a], b ∈ l' ++ [a] := by
  intro b hb
  exact mem_concat.2 ((mem_concat.1 hb).imp_left (h b))

def begun (c : Conversation) : Conversation :=
  { c with generation := c.generation + 1, refreshing := true }

theorem Ledger.begin (hl : Ledger cs issued pending) (hc : c ∈ cs.tabs)
    (hidle : c.refreshing = false) (hfew : issued.length + 3 < UInt64.size) :
    Ledger (cs.modify c.peer begun) (issued ++ [(c.peer, (begun c).ticket)])
      (pending ++ [(c.peer, (begun c).ticket)]) := by
  have hd := hl.toDistinct
  have hnext : c.generation < c.generation + 1 := lt_add_one (hl.generation_le c hc) (by omega)
  -- the tickets of the tab so far are older than the new one
  have hnew : (begun c).ticket ∉ issued.map Prod.snd := by
    intro hmem
    obtain ⟨r, hr, heq⟩ := List.mem_map.1 hmem
    have hgen := (hl.issued_own c hc r hr (by rw [heq]; rfl)).2
    rw [heq] at hgen
    exact absurd hnext (UInt64.not_lt.2 hgen)
  have hother : ∀ d ∈ cs.tabs, d ≠ c → c.ordinal ≠ d.ordinal := fun d hd' hne heq =>
    hne (hd.eq_of_ordinal hd' hc heq.symm)
  refine ⟨hd.modify hc (fun _ => rfl) fun _ => rfl, ?_, ?_, ?_, ?_,
    mem_concat_of_mem hl.pending_issued, ?_, ?_, ?_⟩
  · -- no ticket is issued twice
    rw [List.map_append, List.map_singleton]
    exact nodup_concat hl.issued_nodup hnew
  · intro r hr
    rcases mem_concat.1 hr with hr | rfl
    · exact hl.issued_below r hr
    · exact hl.below c hc
  · intro d hd' r hr hown
    rcases (hd.mem_modify_iff hc).1 hd' with rfl | ⟨hd', hne⟩
    · rcases mem_concat.1 hr with hr | rfl
      · obtain ⟨hpeer, hgen⟩ := hl.issued_own c hc r hr hown
        exact ⟨hpeer, UInt64.le_trans hgen (UInt64.le_of_lt hnext)⟩
      · exact ⟨rfl, UInt64.le_refl _⟩
    · rcases mem_concat.1 hr with hr | rfl
      · exact hl.issued_own d hd' r hr hown
      · exact absurd hown (hother d hd' hne)
  · intro d hd'
    rcases (hd.mem_modify_iff hc).1 hd' with rfl | ⟨hd', hne⟩
    · exact mem_concat.2 (.inr rfl)
    · exact mem_concat.2 (.inl (hl.current d hd'))
  · intro d hd'
    rw [ticketsOf_concat]
    rcases (hd.mem_modify_iff hc).1 hd' with rfl | ⟨hd', hne⟩
    · have hnone : ticketsOf c.ordinal pending = [] := by simpa [hidle] using hl.pending_own c hc
      rw [show (begun c).ordinal = c.ordinal from rfl, hnone]
      simp [begun, Conversation.ticket]
    · have htab : (begun c).ticket.tab ≠ d.ordinal := hother d hd' hne
      rw [hl.pending_own d hd', if_neg htab, List.append_nil]
  · have hle := hl.nextOrdinal_le
    simp only [nextOrdinal_modify, List.length_append, List.length_singleton]
    omega
  · intro d hd'
    rw [List.length_append, List.length_singleton]
    rcases (hd.mem_modify_iff hc).1 hd' with rfl | ⟨hd', -⟩
    · rw [begun, toNat_add_one (hl.generation_le c hc) (by omega)]
      exact Nat.succ_le_succ (hl.generation_le c hc)
    · exact Nat.le_succ_of_le (hl.generation_le d hd')

/-- The tab that opens for a peer, with its first refresh in flight. -/
def opened (cs : Conversations) (peer : String) : Conversation :=
  { peer, ordinal := cs.nextOrdinal, generation := 1, refreshing := true }

theorem Ledger.open (hl : Ledger cs issued pending) (hclosed : ∀ c ∈ cs.tabs, c.peer ≠ peer)
    (hfew : issued.length + 3 < UInt64.size) :
    Ledger { tabs := cs.tabs ++ [opened cs peer], nextOrdinal := cs.nextOrdinal + 1 }
      (issued ++ [(peer, (opened cs peer).ticket)])
      (pending ++ [(peer, (opened cs peer).ticket)]) := by
  have hnext : (cs.nextOrdinal + 1).toNat = cs.nextOrdinal.toNat + 1 :=
    toNat_add_one hl.nextOrdinal_le (by omega)
  have hlt : cs.nextOrdinal < cs.nextOrdinal + 1 := lt_add_one hl.nextOrdinal_le (by omega)
  have hbelow : ∀ c ∈ cs.tabs, c.ordinal ≠ cs.nextOrdinal := fun c hc heq =>
    absurd (heq ▸ hl.below c hc) (UInt64.lt_irrefl _)
  have hissued : ∀ r ∈ issued, r.2.tab ≠ cs.nextOrdinal := fun r hr heq =>
    absurd (heq ▸ hl.issued_below r hr) (UInt64.lt_irrefl _)
  refine ⟨⟨?_, ?_, ?_⟩, ?_, ?_, ?_, ?_, mem_concat_of_mem hl.pending_issued, ?_, ?_, ?_⟩
  · rw [List.map_append, List.map_singleton]
    refine nodup_concat hl.peers fun hmem => ?_
    obtain ⟨c, hc, hpeer⟩ := List.mem_map.1 hmem
    exact hclosed c hc hpeer
  · rw [List.map_append, List.map_singleton]
    refine nodup_concat hl.ordinals fun hmem => ?_
    obtain ⟨c, hc, hordinal⟩ := List.mem_map.1 hmem
    exact hbelow c hc hordinal
  · intro d hd
    rcases mem_concat.1 hd with hd | rfl
    · exact UInt64.lt_trans (hl.below d hd) hlt
    · exact hlt
  · rw [List.map_append, List.map_singleton]
    refine nodup_concat hl.issued_nodup fun hmem => ?_
    obtain ⟨r, hr, hticket⟩ := List.mem_map.1 hmem
    exact hissued r hr (by rw [hticket]; rfl)
  · intro r hr
    rcases mem_concat.1 hr with hr | rfl
    · exact UInt64.lt_trans (hl.issued_below r hr) hlt
    · exact hlt
  · intro d hd r hr hown
    rcases mem_concat.1 hd with hd | rfl
    · rcases mem_concat.1 hr with hr | rfl
      · exact hl.issued_own d hd r hr hown
      · exact absurd hown.symm (hbelow d hd)
    · rcases mem_concat.1 hr with hr | rfl
      · exact absurd hown (hissued r hr)
      · exact ⟨rfl, UInt64.le_refl _⟩
  · intro d hd
    rcases mem_concat.1 hd with hd | rfl
    · exact mem_concat.2 (.inl (hl.current d hd))
    · exact mem_concat.2 (.inr rfl)
  · intro d hd
    rw [ticketsOf_concat]
    rcases mem_concat.1 hd with hd | rfl
    · have htab : (opened cs peer).ticket.tab ≠ d.ordinal := fun heq => hbelow d hd heq.symm
      rw [hl.pending_own d hd, if_neg htab, List.append_nil]
    · have hnone : ticketsOf cs.nextOrdinal pending = [] := by
        refine List.filter_eq_nil_iff.2 fun r hr heq => ?_
        exact hissued r (hl.pending_issued r hr) (eq_of_beq heq)
      rw [show (opened cs peer).ordinal = cs.nextOrdinal from rfl, hnone]
      simp [opened, Conversation.ticket]
  · rw [List.length_append, List.length_singleton, hnext]
    exact Nat.succ_le_succ hl.nextOrdinal_le
  · intro d hd
    rw [List.length_append, List.length_singleton]
    rcases mem_concat.1 hd with hd | rfl
    · exact Nat.le_succ_of_le (hl.generation_le d hd)
    · exact Nat.succ_le_succ (Nat.zero_le _)

theorem Ledger.close (hl : Ledger cs issued pending) (peer : String) :
    Ledger (cs.close peer) issued pending where
  toDistinct := hl.toDistinct.close peer
  issued_nodup := hl.issued_nodup
  issued_below := hl.issued_below
  issued_own c hc := hl.issued_own c (mem_close.1 hc).1
  current c hc := hl.current c (mem_close.1 hc).1
  pending_issued := hl.pending_issued
  pending_own c hc := hl.pending_own c (mem_close.1 hc).1
  nextOrdinal_le := hl.nextOrdinal_le
  generation_le c hc := hl.generation_le c (mem_close.1 hc).1

/-! ### Answers -/

def settled (result : Except String (List MessageRecord)) (c : Conversation) : Conversation :=
  match result with
  | .ok messages => { c with messages, loaded := true, refreshing := false }
  | .error _ => { c with refreshing := false }

theorem answer_eq (cs : Conversations) (peer : String) (ticket : Ticket)
    (result : Except String (List MessageRecord)) :
    cs.answer peer ticket result =
      if cs.isCurrent peer ticket then cs.modify peer (settled result) else cs := by
  cases result with
  | ok messages =>
    rw [answer, applyRefresh?]
    split <;> rfl
  | error reason =>
    rw [answer, failRefresh?]
    split <;> rfl

@[simp]
theorem settled_peer (result : Except String (List MessageRecord)) (c : Conversation) :
    (settled result c).peer = c.peer := by
  cases result <;> rfl

@[simp]
theorem settled_ordinal (result : Except String (List MessageRecord)) (c : Conversation) :
    (settled result c).ordinal = c.ordinal := by
  cases result <;> rfl

@[simp]
theorem settled_generation (result : Except String (List MessageRecord)) (c : Conversation) :
    (settled result c).generation = c.generation := by
  cases result <;> rfl

@[simp]
theorem settled_ticket (result : Except String (List MessageRecord)) (c : Conversation) :
    (settled result c).ticket = c.ticket := by
  cases result <;> rfl

@[simp]
theorem settled_refreshing (result : Except String (List MessageRecord)) (c : Conversation) :
    (settled result c).refreshing = false := by
  cases result <;> rfl

/-- A pending ticket of an open tab is the current one, and the tab is being refreshed. -/
theorem Ledger.eq_current (hl : Ledger cs issued pending) (hc : c ∈ cs.tabs) {r : String × Ticket}
    (hr : r ∈ pending) (hown : r.2.tab = c.ordinal) :
    r = (c.peer, c.ticket) ∧ c.refreshing = true := by
  have hmem : r ∈ ticketsOf c.ordinal pending := List.mem_filter.2 ⟨hr, beq_iff_eq.2 hown⟩
  rw [hl.pending_own c hc] at hmem
  cases hbusy : c.refreshing with
  | true =>
    rw [hbusy] at hmem
    exact ⟨List.mem_singleton.1 hmem, rfl⟩
  | false =>
    rw [hbusy] at hmem
    cases hmem

theorem Ledger.drop (hl : Ledger cs issued pending) {r : String × Ticket}
    (hstale : ∀ c ∈ cs.tabs, r ≠ (c.peer, c.ticket)) : Ledger cs issued (pending.erase r) where
  toDistinct := hl.toDistinct
  issued_nodup := hl.issued_nodup
  issued_below := hl.issued_below
  issued_own := hl.issued_own
  current := hl.current
  pending_issued q hq := hl.pending_issued q (List.mem_of_mem_erase hq)
  pending_own c hc := by
    rw [ticketsOf_erase, List.erase_of_not_mem, hl.pending_own c hc]
    intro hmem
    obtain ⟨hr, hown⟩ := List.mem_filter.1 hmem
    exact hstale c hc (hl.eq_current hc hr (eq_of_beq hown)).1
  nextOrdinal_le := hl.nextOrdinal_le
  generation_le := hl.generation_le

theorem Ledger.settle (hl : Ledger cs issued pending) (hc : c ∈ cs.tabs)
    (hr : (c.peer, c.ticket) ∈ pending) (result : Except String (List MessageRecord)) :
    Ledger (cs.modify c.peer (settled result)) issued (pending.erase (c.peer, c.ticket)) := by
  have hd := hl.toDistinct
  refine ⟨hd.modify hc (settled_peer result) (settled_ordinal result), hl.issued_nodup,
    hl.issued_below, fun d hd' => ?_, fun d hd' => ?_,
    fun q hq => hl.pending_issued q (List.mem_of_mem_erase hq), fun d hd' => ?_,
    hl.nextOrdinal_le, fun d hd' => ?_⟩
  · rcases (hd.mem_modify_iff hc).1 hd' with rfl | ⟨hd', -⟩
    · simpa using hl.issued_own c hc
    · exact hl.issued_own d hd'
  · rcases (hd.mem_modify_iff hc).1 hd' with rfl | ⟨hd', -⟩
    · simpa using hl.current c hc
    · exact hl.current d hd'
  · rw [ticketsOf_erase]
    rcases (hd.mem_modify_iff hc).1 hd' with rfl | ⟨hd', hne⟩
    · have hbusy : c.refreshing = true := (hl.eq_current hc hr rfl).2
      rw [settled_ordinal, hl.pending_own c hc, hbusy]
      simp
    · rw [List.erase_of_not_mem, hl.pending_own d hd']
      intro hmem
      have hown : c.ordinal = d.ordinal := eq_of_beq (List.mem_filter.1 hmem).2
      exact hne (hd.eq_of_ordinal hd' hc hown.symm)
  · rcases (hd.mem_modify_iff hc).1 hd' with rfl | ⟨hd', -⟩
    · simpa using hl.generation_le c hc
    · exact hl.generation_le d hd'

/-- An answer either releases the tab whose current ticket it carries, or changes no tab. -/
theorem Ledger.answer_cases (hl : Ledger cs issued pending) (peer : String) (ticket : Ticket)
    (result : Except String (List MessageRecord)) :
    (∃ c ∈ cs.tabs, (peer, ticket) = (c.peer, c.ticket) ∧
        cs.answer peer ticket result = cs.modify c.peer (settled result)) ∨
      ((∀ c ∈ cs.tabs, (peer, ticket) ≠ (c.peer, c.ticket)) ∧
        cs.answer peer ticket result = cs) := by
  rw [answer_eq]
  by_cases hcur : cs.isCurrent peer ticket = true
  · obtain ⟨c, hc, rfl, rfl⟩ := hl.isCurrent_iff.1 hcur
    exact .inl ⟨c, hc, rfl, by rw [if_pos hcur]⟩
  · refine .inr ⟨fun c hc heq => hcur ?_, by rw [if_neg hcur]⟩
    obtain ⟨hpeer, hticket⟩ := Prod.mk.inj heq
    exact hl.isCurrent_iff.2 ⟨c, hc, hpeer.symm, hticket.symm⟩

theorem Ledger.answer (hl : Ledger cs issued pending)
    (honce : (peer, ticket) ∈ issued → (peer, ticket) ∈ pending)
    (result : Except String (List MessageRecord)) :
    Ledger (cs.answer peer ticket result) issued (pending.erase (peer, ticket)) := by
  rcases hl.answer_cases peer ticket result with ⟨c, hc, heq, hanswer⟩ | ⟨hstale, hanswer⟩
  · rw [hanswer, heq]
    exact hl.settle hc (heq ▸ honce (heq ▸ hl.current c hc)) result
  · rw [hanswer]
    exact hl.drop hstale

/-! ### Events -/

theorem beginRefresh?_eq_some {cs' : Conversations}
    (h : cs.beginRefresh? peer = some (ticket, cs')) :
    ∃ c ∈ cs.tabs, c.peer = peer ∧ c.refreshing = false ∧ ticket = (begun c).ticket ∧
      cs' = cs.modify peer begun := by
  rw [beginRefresh?] at h
  cases hget : cs.get? peer with
  | none => simp [hget] at h
  | some c =>
    obtain ⟨hc, hpeer⟩ := mem_of_get? hget
    cases hbusy : c.refreshing with
    | true => simp [hget, hbusy] at h
    | false =>
      simp only [hget, hbusy, Bool.false_eq_true, if_false, Option.some.injEq, Prod.mk.injEq] at h
      exact ⟨c, hc, hpeer, hbusy, h.1.symm, h.2.symm⟩

theorem Ledger.refreshAll (Inv : Conversations → Prop)
    (hbegin : ∀ {cs issued pending c}, Ledger cs issued pending → c ∈ cs.tabs →
      issued.length + 3 < UInt64.size → Inv cs → Inv (cs.modify c.peer begun))
    (hl : Ledger cs issued pending) (hinv : Inv cs) (peers : List String)
    (hfew : (issued ++ (cs.refreshAll peers).2).length + 2 < UInt64.size) :
    Ledger (cs.refreshAll peers).1 (issued ++ (cs.refreshAll peers).2)
        (pending ++ (cs.refreshAll peers).2) ∧
      Inv (cs.refreshAll peers).1 := by
  induction peers generalizing cs issued pending with
  | nil => simpa [Conversations.refreshAll] using ⟨hl, hinv⟩
  | cons peer peers ih =>
    cases hb : cs.beginRefresh? peer with
    | none =>
      have hskip : cs.refreshAll (peer :: peers) = cs.refreshAll peers := by
        simp [Conversations.refreshAll, hb]
      rw [hskip] at hfew ⊢
      exact ih hl hinv hfew
    | some b =>
      obtain ⟨ticket, cs'⟩ := b
      obtain ⟨c, hc, rfl, hidle, rfl, rfl⟩ := beginRefresh?_eq_some hb
      have hstart : cs.refreshAll (c.peer :: peers) =
          (((cs.modify c.peer begun).refreshAll peers).1,
            (c.peer, (begun c).ticket) :: ((cs.modify c.peer begun).refreshAll peers).2) := by
        simp [Conversations.refreshAll, hb]
      rw [hstart, List.append_cons] at hfew
      rw [hstart, List.append_cons issued, List.append_cons pending]
      have hroom : issued.length + 3 < UInt64.size := by
        simp only [List.length_append, List.length_singleton] at hfew
        omega
      exact ih (hl.begin hc hidle hroom) (hbegin hl hc hroom hinv) hfew

theorem react_select_of_closed (hclosed : cs.contains peer = false) :
    cs.react (.select peer) =
      ({ tabs := cs.tabs ++ [opened cs peer], nextOrdinal := cs.nextOrdinal + 1 },
        [(peer, (opened cs peer).ticket)]) := by
  have hne := ne_of_contains_eq_false hclosed
  have hselect : cs.select peer =
      { tabs := cs.tabs ++ [{ peer, ordinal := cs.nextOrdinal }]
        nextOrdinal := cs.nextOrdinal + 1 } := by
    simp [Conversations.select, hclosed]
  have hget : (cs.select peer).get? peer = some { peer, ordinal := cs.nextOrdinal } := by
    have hnone : cs.tabs.find? (·.peer == peer) = none := by simpa using hne
    simp [hselect, get?, hnone]
  have hkeep : cs.tabs.map (fun c => if c.peer = peer then begun c else c) = cs.tabs := by
    refine (List.map_congr_left fun c hc => ?_).trans (List.map_id cs.tabs)
    rw [if_neg (hne c hc)]
    rfl
  rw [react, hclosed, if_neg (by decide), refreshAll, beginRefresh?, hget]
  simp [hselect, modify, refreshAll, opened, Conversation.ticket]
  exact hkeep

/-- **Every event keeps the ledger**, as long as no refresh is answered twice and the counters do
not wrap around. -/
theorem Ledger.react (hl : Ledger cs issued pending) (event : ConversationEvent)
    (honce : ∀ r ∈ event.refreshed?, r ∈ issued → r ∈ pending)
    (hfew : (issued ++ (cs.react event).2).length + 2 < UInt64.size) :
    Ledger (cs.react event).1 (issued ++ (cs.react event).2)
      (eraseAnswered pending event.refreshed? ++ (cs.react event).2) := by
  cases event with
  | unrelated => simpa [Conversations.react, ConversationEvent.refreshed?] using hl
  | refresh peers =>
    simp only [Conversations.react, ConversationEvent.refreshed?, eraseAnswered_none] at hfew ⊢
    exact (hl.refreshAll (fun _ => True) (fun _ _ _ _ => trivial) trivial peers hfew).1
  | select peer =>
    cases hopen : cs.contains peer with
    | true => simpa [Conversations.react, hopen, ConversationEvent.refreshed?] using hl
    | false =>
      rw [react_select_of_closed hopen] at hfew ⊢
      have hclosed : ∀ c ∈ cs.tabs, c.peer ≠ peer := ne_of_contains_eq_false hopen
      exact hl.open hclosed (by simpa using hfew)
  | close peer =>
    simpa [Conversations.react, ConversationEvent.refreshed?] using hl.close peer
  | answer peer ticket result =>
    simpa [Conversations.react, ConversationEvent.refreshed?] using hl.answer (honce _ rfl) result

end Conversations

end GossipPanel.Panel
