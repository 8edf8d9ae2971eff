import GossipPanel.Proofs.PollingChain
import GossipPanel.Proofs.Tickets

/-!
# The store of tabs

The store by itself, under any sequence of calls to it.

* `Conversations.CallStep`: a call opens a tab, closes one, or changes what one of them holds.
* `Conversations.keys`: the peer and the ordinal of every open tab. The tabs that a run creates
  have ordinals that count up (`numbered_created`), and the open ones are among them, in their
  order (`keys_sublist_created`).
* `contains_callAll_iff`: the open tabs are those that were selected and not closed since.
* `tab_store_keeps_order`: all this of a store after any run, with what each call leaves alone.
-/

namespace GossipPanel.Panel

open Node

/-- A call to the store of tabs. -/
inductive TabCall where
  | select (peer : String)
  | close (peer : String)
  | beginRefresh (peer : String)
  | applyRefresh (peer : String) (ticket : Ticket) (messages : List MessageRecord)
  | failRefresh (peer : String) (ticket : Ticket)
  deriving DecidableEq

def TabCall.peer : TabCall → String
  | select peer | close peer | beginRefresh peer | applyRefresh peer _ _ | failRefresh peer _ => peer

namespace Conversations

def call (cs : Conversations) : TabCall → Conversations
  | .select peer => cs.select peer
  | .close peer => cs.close peer
  | .beginRefresh peer => ((cs.beginRefresh? peer).map Prod.snd).getD cs
  | .applyRefresh peer ticket messages => (cs.applyRefresh? peer ticket messages).getD cs
  | .failRefresh peer ticket => (cs.failRefresh? peer ticket).getD cs

def callAll (cs : Conversations) (calls : List TabCall) : Conversations :=
  calls.foldl call cs

/-- The peer and the ordinal of the tab that a call creates. -/
def created? (cs : Conversations) : TabCall → Option (String × UInt64)
  | .select peer => if cs.contains peer then none else some (peer, cs.nextOrdinal)
  | _ => none

/-- The peers and the ordinals of the tabs that a run of calls creates, oldest first. -/
def created (cs : Conversations) : List TabCall → List (String × UInt64)
  | [] => []
  | c :: calls => (cs.created? c).toList ++ (cs.call c).created calls

/-- The peer and the ordinal of every open tab, oldest first. -/
def keys (cs : Conversations) : List (String × UInt64) :=
  cs.tabs.map fun c => (c.peer, c.ordinal)

/-- The store with one more tab, which has not been refreshed yet. -/
def extended (cs : Conversations) (peer : String) : Conversations :=
  { tabs := cs.tabs ++ [{ peer, ordinal := cs.nextOrdinal }], nextOrdinal := cs.nextOrdinal + 1 }

/-- What a call does to the store, and the tab that it creates. -/
inductive CallStep (cs : Conversations) :
    TabCall → Conversations → Option (String × UInt64) → Prop where
  | opens {peer : String} (hclosed : cs.contains peer = false) :
      CallStep cs (.select peer) (cs.extended peer) (some (peer, cs.nextOrdinal))
  | closes {peer : String} : CallStep cs (.close peer) (cs.close peer) none
  /-- The call changes at most what the tab of its peer holds. -/
  | changes {c : TabCall} {f : Conversation → Conversation}
      (hselect : ∀ peer, c = .select peer → cs.contains peer = true)
      (hclose : ∀ peer, c ≠ .close peer)
      (hpeer : ∀ t, (f t).peer = t.peer) (hordinal : ∀ t, (f t).ordinal = t.ordinal) :
      CallStep cs c (cs.modify c.peer f) none

variable {cs : Conversations} {c : TabCall} {peer : String} {calls : List TabCall}

/-! ## One call -/

theorem modify_id (cs : Conversations) (peer : String) : cs.modify peer id = cs := by
  simp [modify]

theorem answer_step (result : Except String (List MessageRecord)) {ticket : Ticket}
    (hcall : cs.call c = cs.answer c.peer ticket result) (hselect : ∀ peer, c ≠ .select peer)
    (hclose : ∀ peer, c ≠ .close peer) : CallStep cs c (cs.call c) none := by
  have hopen : ∀ peer, c = .select peer → cs.contains peer = true :=
    fun peer heq => absurd heq (hselect peer)
  rw [hcall, answer_eq]
  split
  · exact .changes hopen hclose (settled_peer result) (settled_ordinal result)
  · have hkeep : CallStep cs c (cs.modify c.peer id) none :=
      .changes hopen hclose (fun _ => rfl) fun _ => rfl
    rwa [modify_id] at hkeep

theorem call_step (cs : Conversations) (c : TabCall) :
    CallStep cs c (cs.call c) (cs.created? c) := by
  cases c with
  | select peer =>
    rw [call, created?, select]
    cases hopen : cs.contains peer with
    | false => exact .opens hopen
    | true =>
      have hkeep : CallStep cs (.select peer) (cs.modify peer id) none := by
        refine .changes (fun other heq => ?_) (by simp) (fun _ => rfl) fun _ => rfl
        rwa [← TabCall.select.inj heq]
      rwa [modify_id] at hkeep
  | close peer => exact .closes
  | beginRefresh peer =>
    have hchange : ∀ f : Conversation → Conversation, (∀ t, (f t).peer = t.peer) →
        (∀ t, (f t).ordinal = t.ordinal) →
        CallStep cs (.beginRefresh peer) (cs.modify peer f) none :=
      fun f hpeer hordinal =>
        .changes (c := .beginRefresh peer) (by simp) (by simp) hpeer hordinal
    rw [call]
    cases hbegin : cs.beginRefresh? peer with
    | none =>
      have hkeep := hchange id (fun _ => rfl) fun _ => rfl
      rwa [modify_id] at hkeep
    | some b =>
      obtain ⟨ticket, cs'⟩ := b
      obtain ⟨-, -, -, -, -, rfl⟩ := beginRefresh?_eq_some hbegin
      exact hchange begun (fun _ => rfl) fun _ => rfl
  | applyRefresh peer ticket messages =>
    exact answer_step (.ok messages) rfl (by simp) (by simp)
  | failRefresh peer ticket => exact answer_step (.error "") rfl (by simp) (by simp)

theorem keys_call (cs : Conversations) (c : TabCall) :
    (cs.call c).keys =
      cs.keys.filter (fun k => c ≠ .close k.1) ++ (cs.created? c).toList := by
  have hstep := call_step cs c
  generalize cs.call c = cs', cs.created? c = new at hstep ⊢
  cases hstep with
  | opens => simp [keys, extended]
  | @closes peer =>
    simp only [close, keys, List.filter_map, Option.toList_none, List.append_nil]
    congr 1
    refine List.filter_congr fun t _ => ?_
    simp [bne, Bool.beq_eq_decide_eq, eq_comm]
  | changes _ hclose hpeer hordinal =>
    have hsame : (cs.modify c.peer _).keys = cs.keys :=
      map_modify (fun t => Prod.ext (hpeer t) (hordinal t)) cs c.peer
    simp [hsame, hclose]

theorem nextOrdinal_call (cs : Conversations) (c : TabCall) :
    (cs.call c).nextOrdinal =
      if (cs.created? c).isSome then cs.nextOrdinal + 1 else cs.nextOrdinal := by
  have hstep := call_step cs c
  generalize cs.call c = cs', cs.created? c = new at hstep ⊢
  cases hstep <;> rfl

theorem created?_eq_some_iff {new : String × UInt64} :
    cs.created? c = some new ↔
      c = .select new.1 ∧ cs.contains new.1 = false ∧ new.2 = cs.nextOrdinal := by
  obtain ⟨peer, ordinal⟩ := new
  cases c with
  | select other =>
    rw [created?]
    cases hopen : cs.contains other with
    | true =>
      constructor
      · intro h
        cases h
      · rintro ⟨heq, hclosed, -⟩
        rw [← TabCall.select.inj heq, hopen] at hclosed
        cases hclosed
    | false =>
      constructor
      · intro h
        obtain ⟨rfl, rfl⟩ := Prod.mk.inj (Option.some.inj h)
        exact ⟨rfl, hopen, rfl⟩
      · rintro ⟨heq, -, rfl⟩
        rw [TabCall.select.inj heq]
        rfl
  | _ => simp [created?]

theorem contains_iff_mem_keys : cs.contains peer = true ↔ ∃ ordinal, (peer, ordinal) ∈ cs.keys := by
  rw [contains_iff, keys]
  constructor
  · rintro ⟨t, ht, rfl⟩
    exact ⟨t.ordinal, List.mem_map_of_mem ht⟩
  · rintro ⟨ordinal, hmem⟩
    obtain ⟨t, ht, heq⟩ := List.mem_map.1 hmem
    exact ⟨t, ht, (Prod.mk.inj heq).1⟩

theorem contains_call_iff :
    (cs.call c).contains peer = true ↔
      c = .select peer ∨ (cs.contains peer = true ∧ c ≠ .close peer) := by
  have hstep := call_step cs c
  generalize cs.call c = cs', cs.created? c = new at hstep ⊢
  cases hstep with
  | @opens other hclosed =>
    simp only [contains_iff, extended, List.mem_append, List.mem_singleton]
    constructor
    · rintro ⟨t, ht | rfl, rfl⟩
      · exact .inr ⟨⟨t, ht, rfl⟩, nofun⟩
      · exact .inl rfl
    · rintro (heq | ⟨⟨t, ht, rfl⟩, -⟩)
      · exact ⟨_, .inr rfl, TabCall.select.inj heq⟩
      · exact ⟨t, .inl ht, rfl⟩
  | @closes other =>
    simp only [contains_iff, mem_close]
    constructor
    · rintro ⟨t, ⟨ht, hne⟩, rfl⟩
      exact .inr ⟨⟨t, ht, rfl⟩, fun heq => hne (TabCall.close.inj heq).symm⟩
    · rintro (heq | ⟨⟨t, ht, rfl⟩, hne⟩)
      · cases heq
      · exact ⟨t, ⟨ht, fun heq => hne (heq ▸ rfl)⟩, rfl⟩
  | changes hselect hclose hpeer hordinal =>
    have hsame : (cs.modify c.peer _).keys = cs.keys :=
      map_modify (fun t => Prod.ext (hpeer t) (hordinal t)) cs c.peer
    rw [contains_iff_mem_keys, hsame, ← contains_iff_mem_keys]
    constructor
    · exact fun hopen => .inr ⟨hopen, hclose peer⟩
    · rintro (heq | ⟨hopen, -⟩)
      · exact hselect peer heq
      · exact hopen

theorem get?_extended (hclosed : cs.contains peer = false) :
    (cs.extended peer).get? peer = some { peer, ordinal := cs.nextOrdinal } := by
  have hnone : cs.tabs.find? (·.peer == peer) = none := by
    simpa using ne_of_contains_eq_false hclosed
  simp [get?, extended, hnone]

theorem get?_extended_of_ne {other : String} (hne : other ≠ peer) :
    (cs.extended other).get? peer = cs.get? peer := by
  have hother : (other == peer) = false := by simpa using hne
  simp [get?, extended, hother]

theorem get?_close_of_ne {other : String} (hne : other ≠ peer) :
    (cs.close other).get? peer = cs.get? peer := by
  have hkeep : ∀ t : Conversation,
      decide ((t.peer != other) = true ∧ (t.peer == peer) = true) = (t.peer == peer) := by
    intro t
    by_cases ht : t.peer = peer
    · have hne' : peer ≠ other := hne.symm
      simp [ht, hne']
    · simp [ht]
  rw [get?, get?, close, List.find?_filter]
  simp only [hkeep]

theorem get?_modify {other : String} {f : Conversation → Conversation}
    (hf : ∀ t, (f t).peer = t.peer) :
    (cs.modify other f).get? peer =
      (cs.get? peer).map fun t => if t.peer == other then f t else t := by
  have hsame : ∀ t : Conversation,
      ((if t.peer == other then f t else t).peer == peer) = (t.peer == peer) := by
    intro t
    split
    · rw [hf]
    · rfl
  rw [get?, get?, modify, List.find?_map]
  simp only [Function.comp_def, hsame]

theorem get?_modify_self {f : Conversation → Conversation} (hf : ∀ t, (f t).peer = t.peer) :
    (cs.modify peer f).get? peer = (cs.get? peer).map f := by
  rw [get?_modify hf]
  refine Option.map_congr fun t ht => ?_
  simp [(mem_of_get? ht).2]

theorem get?_modify_of_ne {other : String} {f : Conversation → Conversation}
    (hf : ∀ t, (f t).peer = t.peer) (hne : other ≠ peer) :
    (cs.modify other f).get? peer = cs.get? peer := by
  rw [get?_modify hf]
  refine (Option.map_congr fun t ht => ?_).trans Option.map_id_apply
  simp [(mem_of_get? ht).2, hne.symm]

theorem get?_call_of_ne (hne : c.peer ≠ peer) : (cs.call c).get? peer = cs.get? peer := by
  have hstep := call_step cs c
  generalize cs.call c = cs', cs.created? c = new at hstep ⊢
  cases hstep with
  | opens => exact get?_extended_of_ne hne
  | closes => exact get?_close_of_ne hne
  | changes _ _ hpeer => exact get?_modify_of_ne hpeer hne

/-! ## A run of calls -/

theorem callAll_concat (cs : Conversations) (calls : List TabCall) (c : TabCall) :
    cs.callAll (calls ++ [c]) = (cs.callAll calls).call c := by
  simp [callAll]

theorem created_concat (cs : Conversations) (calls : List TabCall) (c : TabCall) :
    cs.created (calls ++ [c]) = cs.created calls ++ ((cs.callAll calls).created? c).toList := by
  induction calls generalizing cs with
  | nil => simp [created, callAll]
  | cons d calls ih =>
    have hrest := ih (cs.call d)
    rw [List.cons_append, created, hrest, created, List.append_assoc]
    rfl

theorem keys_sublist_created (calls : List TabCall) :
    (callAll {} calls).keys.Sublist (created {} calls) := by
  induction calls using List.reverseRecOn with
  | nil => exact List.Sublist.refl _
  | append_singleton calls c ih =>
    rw [callAll_concat, created_concat, keys_call]
    have hkept : ((callAll {} calls).keys.filter (fun k => c ≠ .close k.1)).Sublist
        (created {} calls) := List.filter_sublist.trans ih
    exact hkept.append (List.Sublist.refl _)

/-- The feed has the first ordinal, the tabs have the next ones, and the one after these is free. -/
theorem numbered_created (calls : List TabCall) :
    Numbered (feedOrdinal :: (created {} calls).map Prod.snd ++ [(callAll {} calls).nextOrdinal])
      (callAll {} calls).nextOrdinal := by
  induction calls using List.reverseRecOn with
  | nil => exact ⟨by decide, by decide⟩
  | append_singleton calls c ih =>
    rw [callAll_concat, created_concat, nextOrdinal_call, List.map_append]
    cases hnew : (callAll {} calls).created? c with
    | none => simpa using ih
    | some new =>
      obtain ⟨-, -, hordinal⟩ := created?_eq_some_iff.1 hnew
      have hconcat := ih.concat
      simpa [hordinal] using hconcat

theorem nodup_peers (calls : List TabCall) : ((callAll {} calls).tabs.map (·.peer)).Nodup := by
  have hmap : ∀ cs : Conversations, cs.tabs.map (·.peer) = cs.keys.map Prod.fst := by
    intro cs
    simp [keys]
  rw [hmap]
  induction calls using List.reverseRecOn with
  | nil => exact List.nodup_nil
  | append_singleton calls c ih =>
    rw [callAll_concat, keys_call, List.map_append]
    have hkept : (((callAll {} calls).keys.filter (fun k => c ≠ .close k.1)).map Prod.fst).Nodup :=
      ih.sublist (List.filter_sublist.map _)
    cases hnew : (callAll {} calls).created? c with
    | none => simpa using hkept
    | some new =>
      obtain ⟨-, hclosed, -⟩ := created?_eq_some_iff.1 hnew
      refine nodup_concat hkept fun hmem => ?_
      obtain ⟨k, hk, heq⟩ := List.mem_map.1 hmem
      have hopen : (callAll {} calls).contains new.1 = true :=
        contains_iff_mem_keys.2 ⟨k.2, heq ▸ (List.mem_filter.1 hk).1⟩
      rw [hclosed] at hopen
      cases hopen

/-- The last call that opens or closes a tab of the peer opens one. -/
def SelectedSince (peer : String) (calls : List TabCall) : Prop :=
  ∃ earlier later, calls = earlier ++ .select peer :: later ∧ .close peer ∉ later

theorem selectedSince_concat :
    SelectedSince peer (calls ++ [c]) ↔
      c = .select peer ∨ (SelectedSince peer calls ∧ c ≠ .close peer) := by
  constructor
  · rintro ⟨earlier, later, heq, hlater⟩
    obtain rfl | ⟨front, d, rfl⟩ := later.eq_nil_or_concat'
    · exact .inl (by simpa using (List.append_inj' heq rfl).2)
    · rw [← List.cons_append, ← List.append_assoc] at heq
      obtain ⟨hfront, hlast⟩ := List.append_inj' heq rfl
      obtain rfl : c = d := by simpa using hlast
      rw [List.mem_append, List.mem_singleton, not_or] at hlater
      exact .inr ⟨⟨earlier, front, hfront, hlater.1⟩, fun h => hlater.2 h.symm⟩
  · rintro (rfl | ⟨⟨earlier, later, rfl, hlater⟩, hne⟩)
    · exact ⟨calls, [], rfl, nofun⟩
    · refine ⟨earlier, later ++ [c], by simp, ?_⟩
      rw [List.mem_append, List.mem_singleton, not_or]
      exact ⟨hlater, hne.symm⟩

theorem contains_callAll_iff (peer : String) (calls : List TabCall) :
    (callAll {} calls).contains peer = true ↔ SelectedSince peer calls := by
  induction calls using List.reverseRecOn with
  | nil => simp [SelectedSince, callAll, contains]
  | append_singleton calls c ih => rw [callAll_concat, contains_call_iff, ih, selectedSince_concat]

/-- Tabs in the order of their ordinals. -/
def byOrdinal (tabs : List Conversation) : List Conversation :=
  tabs.mergeSort fun s t => decide (s.ordinal ≤ t.ordinal)

theorem byOrdinal_eq {tabs values : List Conversation}
    (hsorted : tabs.Pairwise (·.ordinal < ·.ordinal)) (hperm : values.Perm tabs) :
    byOrdinal values = tabs := by
  have hle : tabs.Pairwise fun s t => decide (s.ordinal ≤ t.ordinal) = true :=
    hsorted.imp fun hlt => by simpa using UInt64.le_of_lt hlt
  have hsort : (byOrdinal values).Pairwise fun s t => decide (s.ordinal ≤ t.ordinal) = true := by
    apply List.pairwise_mergeSort
    · intro s t u hst htu
      simp only [decide_eq_true_eq] at hst htu ⊢
      exact UInt64.le_trans hst htu
    · intro s t
      simpa using UInt64.le_total s.ordinal t.ordinal
  have hperm' : (byOrdinal values).Perm tabs := (List.mergeSort_perm _ _).trans hperm
  refine hperm'.eq_of_pairwise (fun s t hs ht hst hts => ?_) hsort hle
  have heq : s.ordinal = t.ordinal := by
    simp only [decide_eq_true_eq] at hst hts
    exact UInt64.le_antisymm hst hts
  exact List.inj_on_of_nodup_map
    (List.pairwise_map.2 (hsorted.imp fun hlt heq => absurd (heq ▸ hlt) (UInt64.lt_irrefl _)))
    (hperm'.mem_iff.1 hs) ht heq

end Conversations

open Conversations

/-- **The store keeps its tabs in the order of their creation.** After any run of calls to a new
store:

* every tab is found under the name of its peer, and under no other;
* a peer has a tab exactly when it was selected and not closed since;
* the tabs created so far have the ordinals 2, 3, 4, …, and the open ones are among them, in the
  order of their creation;
* before the counter wraps around, these ordinals and the next one increase, so each is that of one
  tab only; and sorting the open tabs by ordinal gives them in that order, however they are listed;
* selecting an open peer changes nothing, a peer that is closed and selected again has an empty tab
  with the next ordinal, and no call changes the tab of another peer. -/
theorem tab_store_keeps_order (calls : List TabCall) :
    let store := callAll {} calls
    let created := created {} calls
    (∀ peer t, store.get? peer = some t ↔ t ∈ store.tabs ∧ t.peer = peer) ∧
      (∀ peer, store.contains peer = true ↔
        ∃ earlier later, calls = earlier ++ .select peer :: later ∧ .close peer ∉ later) ∧
      created.map Prod.snd = (List.range created.length).map (fun k => .ofNat (k + 2)) ∧
      (store.tabs.map fun t => (t.peer, t.ordinal)).Sublist created ∧
      (created.length + 2 < UInt64.size →
        (created.map Prod.snd ++ [store.nextOrdinal]).Pairwise (· < ·) ∧
          (∀ t ∈ store.tabs, t.ordinal < store.nextOrdinal) ∧
          store.tabs.Pairwise (·.ordinal < ·.ordinal) ∧
          ∀ values, values.Perm store.tabs → byOrdinal values = store.tabs) ∧
      (∀ peer, store.contains peer = true → store.select peer = store) ∧
      (∀ peer, ((store.close peer).select peer).get? peer =
        some { peer, ordinal := store.nextOrdinal, messages := [], loaded := false,
               generation := 0, refreshing := false }) ∧
      ∀ c peer, c.peer ≠ peer → (store.call c).get? peer = store.get? peer := by
  intro store created
  have hnumbered : Numbered (feedOrdinal :: created.map Prod.snd ++ [store.nextOrdinal])
      store.nextOrdinal := numbered_created calls
  have hsub : store.keys.Sublist created := keys_sublist_created calls
  refine ⟨fun peer t => ⟨mem_of_get?, ?_⟩, fun peer => contains_callAll_iff peer calls, ?_, hsub,
    fun hfew => ?_, fun peer => select_of_contains, fun peer => ?_, fun c peer => get?_call_of_ne⟩
  · rintro ⟨ht, rfl⟩
    exact get?_eq_of_nodup (nodup_peers calls) ht
  · -- the first token belongs to the feed and the last one to no tab yet
    have htokens := hnumbered.1
    have hlength : (feedOrdinal :: created.map Prod.snd ++ [store.nextOrdinal]).length =
        created.length + 1 + 1 := by simp
    rw [hlength, firstTokens, List.range_succ, List.map_append] at htokens
    have hfront := (List.append_inj' htokens rfl).1
    rw [List.range_succ_eq_map, List.map_cons, List.map_map] at hfront
    exact (List.cons.inj hfront).2
  · have hlength : (feedOrdinal :: created.map Prod.snd ++ [store.nextOrdinal]).length <
        UInt64.size := by simpa using hfew
    have hincreasing := (List.pairwise_cons.1 (hnumbered.pairwise_lt hlength)).2
    obtain ⟨hordinals, -, hbelow⟩ := List.pairwise_append.1 hincreasing
    have hopen : (store.tabs.map (·.ordinal)).Sublist (created.map Prod.snd) := by
      simpa [keys, Function.comp_def] using hsub.map Prod.snd
    have hsorted : store.tabs.Pairwise (·.ordinal < ·.ordinal) :=
      List.pairwise_map.1 (hordinals.sublist hopen)
    refine ⟨hincreasing, fun t ht => ?_, hsorted, fun values => byOrdinal_eq hsorted⟩
    exact hbelow _ (hopen.subset (List.mem_map_of_mem ht)) _ (List.mem_singleton_self _)
  · have hclosed : (store.close peer).contains peer = false := contains_close store peer
    have hselect : (store.close peer).select peer = (store.close peer).extended peer := by
      rw [select, hclosed]
      rfl
    rw [hselect, get?_extended hclosed]
    rfl

end GossipPanel.Panel
