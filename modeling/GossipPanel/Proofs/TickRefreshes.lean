import GossipPanel.Proofs.ActiveView
import GossipPanel.Proofs.RefreshRequests

/-!
# Refreshes after a tick

A snapshot lists the origins that the node routes to. The open conversations among them are
refreshed, each once, however often its origin is listed.

* `Conversations.due?`: the ticket of the refresh that an open tab may begin.
* `Conversations.refreshAll_snd`, `refreshAll_fst`: walking through a list of peers, tab by tab, is
  one change of all tabs at once; a tab that has begun a refresh is not due when its peer comes
  again.
* `update_snapshot_eq`: all that an accepted snapshot asks for, and what becomes of the tabs.
* `tick_refreshes_listed_tabs`: this after every run.
-/

namespace GossipPanel.Panel

open Node

/-! ## Lists without repetitions -/

theorem eraseDups_filter {α : Type} [BEq α] [LawfulBEq α] (p : α → Bool) :
    ∀ l : List α, (l.filter p).eraseDups = l.eraseDups.filter p
  | [] => rfl
  | a :: l => by
    have hrest := eraseDups_filter p (l.filter fun b => !b == a)
    rw [List.eraseDups_cons]
    by_cases ha : p a = true
    · rw [List.filter_cons_of_pos ha, List.filter_cons_of_pos ha, List.eraseDups_cons, ← hrest,
        List.filter_comm]
    · have hkeep : (l.filter fun b => !b == a).filter p = l.filter p := by
        rw [List.filter_filter]
        refine List.filter_congr fun b _ => ?_
        by_cases hb : b = a <;> simp [hb, ha]
      rw [List.filter_cons_of_neg ha, List.filter_cons_of_neg ha, ← hrest, hkeep]
termination_by l => l.length
decreasing_by exact Nat.lt_succ_of_le (List.length_filter_le _ _)

theorem filterMap_eraseDups_cons {α β : Type} [BEq α] [LawfulBEq α] (f : α → Option β) (a : α)
    (l : List α) :
    (a :: l).eraseDups.filterMap f =
      (f a).toList ++ (l.eraseDups.filter fun b => !b == a).filterMap f := by
  rw [List.eraseDups_cons, eraseDups_filter]
  cases h : f a <;> simp [h]

theorem filterMap_filter_ne {α β : Type} [BEq α] [LawfulBEq α] {f f' : α → Option β} {a : α}
    (hself : f' a = none) (hother : ∀ b, b ≠ a → f' b = f b) (l : List α) :
    (l.filter fun b => !b == a).filterMap f = l.filterMap f' := by
  rw [List.filterMap_filter]
  refine List.filterMap_congr fun b _ => ?_
  by_cases hb : b = a
  · simp [hb, hself]
  · simp [hb, hother b hb]

/-! ## Refreshes that are due -/

namespace Conversations

variable {cs : Conversations} {peer : String}

/-- The next refresh for a peer, if its tab is open and not being refreshed. -/
def due? (cs : Conversations) (peer : String) : Option (String × Ticket) :=
  (cs.get? peer).bind fun t =>
    if t.refreshing then none else some (peer, ⟨t.ordinal, t.generation + 1⟩)

theorem due?_eq_some_iff (hpeers : (cs.tabs.map (·.peer)).Nodup) {r : String × Ticket} :
    cs.due? peer = some r ↔
      ∃ t ∈ cs.tabs, t.peer = peer ∧ t.refreshing = false ∧
        r = (peer, ⟨t.ordinal, t.generation + 1⟩) := by
  rw [due?, Option.bind_eq_some_iff]
  constructor
  · rintro ⟨t, hget, hdue⟩
    obtain ⟨ht, hpeer⟩ := mem_of_get? hget
    cases hbusy : t.refreshing with
    | true => simp [hbusy] at hdue
    | false => exact ⟨t, ht, hpeer, hbusy, by simpa [hbusy, eq_comm] using hdue⟩
  · rintro ⟨t, ht, rfl, hidle, rfl⟩
    exact ⟨t, get?_eq_of_nodup hpeers ht, by simp [hidle]⟩

theorem beginRefresh?_eq (cs : Conversations) (peer : String) :
    cs.beginRefresh? peer = (cs.due? peer).map fun r => (r.2, cs.modify peer begun) := by
  rw [beginRefresh?, due?]
  cases cs.get? peer with
  | none => rfl
  | some t =>
    cases ht : t.refreshing
    · simp only [ht, Option.bind_some, Bool.false_eq_true, if_false, Option.map_some]
      rfl
    · simp [ht]

theorem fst_of_due? {r : String × Ticket} (h : cs.due? peer = some r) : r.1 = peer := by
  obtain ⟨t, -, hdue⟩ := Option.bind_eq_some_iff.1 h
  split at hdue
  · cases hdue
  · cases hdue
    rfl

theorem begun_peer (t : Conversation) : (begun t).peer = t.peer := rfl

theorem due?_modify_self : (cs.modify peer begun).due? peer = none := by
  rw [due?, get?_modify_self begun_peer]
  cases cs.get? peer <;> rfl

theorem due?_modify_of_ne {other : String} (hne : other ≠ peer) :
    (cs.modify other begun).due? peer = cs.due? peer := by
  rw [due?, due?, get?_modify_of_ne begun_peer hne]

/-- The refreshes that are asked for, in the order in which their peers are first listed. -/
theorem refreshAll_snd (cs : Conversations) (peers : List String) :
    (cs.refreshAll peers).2 = peers.eraseDups.filterMap cs.due? := by
  induction peers generalizing cs with
  | nil => rfl
  | cons peer peers ih =>
    rw [refreshAll, beginRefresh?_eq, filterMap_eraseDups_cons]
    cases hdue : cs.due? peer with
    | none =>
      rw [filterMap_filter_ne hdue fun _ _ => rfl]
      exact ih cs
    | some r =>
      have hr : (peer, r.2) = r := by rw [← fst_of_due? hdue]
      rw [filterMap_filter_ne due?_modify_self fun _ hne => due?_modify_of_ne hne.symm, ← ih, ← hr]
      rfl

/-- The tab after the tabs of all these peers have been asked to begin a refresh. -/
def refreshedFor (peers : List String) (t : Conversation) : Conversation :=
  if t.peer ∈ peers ∧ t.refreshing = false then begun t else t

theorem refreshedFor_cons_of_due? (peers : List String)
    (hpeers : (cs.tabs.map (·.peer)).Nodup) {r : String × Ticket} (hdue : cs.due? peer = some r)
    {t : Conversation} (ht : t ∈ cs.tabs) :
    refreshedFor (peer :: peers) t =
      refreshedFor peers (if t.peer == peer then begun t else t) := by
  by_cases hpeer : t.peer = peer
  · -- the tab has begun its refresh, so its peer does not count when it comes again
    obtain ⟨t', ht', hpeer', hidle, -⟩ := (due?_eq_some_iff hpeers).1 hdue
    obtain rfl : t' = t := List.inj_on_of_nodup_map hpeers ht' ht (hpeer'.trans hpeer.symm)
    simp [refreshedFor, hpeer, hidle, begun]
  · simp [refreshedFor, hpeer]

theorem refreshedFor_cons_of_not_due? (peers : List String)
    (hpeers : (cs.tabs.map (·.peer)).Nodup) (hdue : cs.due? peer = none) {t : Conversation}
    (ht : t ∈ cs.tabs) :
    refreshedFor (peer :: peers) t = refreshedFor peers t := by
  by_cases hpeer : t.peer = peer
  · have hbusy : t.refreshing = true := by
      by_contra hidle
      have hnext := (due?_eq_some_iff hpeers).2 ⟨t, ht, hpeer, by simpa using hidle, rfl⟩
      rw [hdue] at hnext
      cases hnext
    simp [refreshedFor, hbusy]
  · simp [refreshedFor, hpeer]

theorem refreshAll_fst (hpeers : (cs.tabs.map (·.peer)).Nodup) (peers : List String) :
    (cs.refreshAll peers).1 = { cs with tabs := cs.tabs.map (refreshedFor peers) } := by
  induction peers generalizing cs with
  | nil =>
    have hkeep : cs.tabs.map (refreshedFor []) = cs.tabs :=
      (List.map_congr_left fun t _ => by simp [refreshedFor]).trans (List.map_id' cs.tabs)
    rw [hkeep]
    rfl
  | cons peer peers ih =>
    rw [refreshAll, beginRefresh?_eq]
    cases hdue : cs.due? peer with
    | none =>
      have hsame := List.map_congr_left fun t ht =>
        refreshedFor_cons_of_not_due? peers hpeers hdue ht
      rw [hsame]
      exact ih hpeers
    | some r =>
      have hpeers' : ((cs.modify peer begun).tabs.map (·.peer)).Nodup := by
        rwa [map_modify begun_peer]
      have hsame := List.map_congr_left fun t ht =>
        refreshedFor_cons_of_due? peers hpeers hdue ht
      rw [hsame]
      refine (ih hpeers').trans ?_
      simp [modify, Function.comp_def]

end Conversations

/-! ## An accepted snapshot -/

section
variable {app : App} {g : UInt64}

theorem react_succeeded (hp : app.polling.Sound) (hg : app.polling.inFlight = some g) :
    (app.polling.react app.pollInterval (.outcome g true)).2 =
      [if app.polling.requested then .fetchSnapshot (g + 1)
        else .scheduleTick (app.polling.lastTimer + 1) app.pollInterval] := by
  rw [(Polling.react_step hp app.pollInterval (.outcome g true)).follow hg, ← hp.latest g hg]
  cases app.polling.requested <;> rfl

theorem update_snapshot_eq (hp : app.polling.Sound)
    (hpeers : (app.conversations.tabs.map (·.peer)).Nodup) (hg : app.polling.inFlight = some g)
    (snapshot : Snapshot) :
    let origins := snapshot.routes.map RouteRecord.origin
    let r := update app (.snapshotLoaded g (.ok snapshot))
    r.2 = App.refreshEffects (origins.eraseDups.filterMap app.conversations.due?) ++
        [if app.polling.requested then .fetchSnapshot (g + 1)
          else .scheduleTick (app.polling.lastTimer + 1) app.pollInterval] ∧
      r.1.conversations =
        { app.conversations with
          tabs := app.conversations.tabs.map (Conversations.refreshedFor origins) } := by
  intro origins r
  have hr : r = _ := App.snapshotLoaded_ok app hg snapshot
  constructor
  · rw [hr, ← react_succeeded hp hg, ← Conversations.refreshAll_snd]
  · rw [hr]
    exact Conversations.refreshAll_fst hpeers origins

end

open Conversations in
/-- **A tick that succeeds refreshes the listed conversations.** After every run, a snapshot that
is accepted asks for this work, in this order, and for no other:

* one refresh for each origin of its own routes that has an open tab with no refresh in flight, in
  the order in which the origins are first listed, with the next ticket of that tab;
* the tick that was asked for meanwhile, or else the next timer.

The tabs of these refreshes are being refreshed from then on, and keep what they show; every other
tab stays as it is. -/
theorem tick_refreshes_listed_tabs (s : Settings.Resolved) (actions : List Action) {g : UInt64}
    (hg : (history s actions).app.polling.inFlight = some g) (snapshot : Snapshot) :
    let app := (history s actions).app
    let origins := snapshot.routes.map RouteRecord.origin
    let r := update app (.snapshotLoaded g (.ok snapshot))
    r.2 = (origins.eraseDups.filterMap app.conversations.due?).map
            (fun (peer, ticket) => .refreshTab peer ticket) ++
          [if app.polling.requested then .fetchSnapshot (g + 1)
            else .scheduleTick (app.polling.lastTimer + 1) app.pollInterval] ∧
      (∀ origin refresh, app.conversations.due? origin = some refresh ↔
        ∃ t ∈ app.conversations.tabs, t.peer = origin ∧ t.refreshing = false ∧
          refresh = (origin, ⟨t.ordinal, t.generation + 1⟩)) ∧
      r.1.conversations = { app.conversations with
        tabs := app.conversations.tabs.map fun t =>
          if t.peer ∈ origins ∧ t.refreshing = false then
            { t with generation := t.generation + 1, refreshing := true }
          else t } := by
  intro app origins r
  have hpeers := nodup_peers_history s actions
  obtain ⟨hwork, htabs⟩ := update_snapshot_eq (History.sound_history s actions) hpeers hg snapshot
  exact ⟨hwork, fun origin refresh => due?_eq_some_iff hpeers, htabs⟩

/-- Of the origins of a snapshot one is listed twice, one has a tab that is being refreshed, and one
has no tab. -/
theorem tick_refreshes_one_of_three_origins :
    let actions := [.start, .selectPeer "bob", .selectPeer "amy",
      .privateMessagesLoaded "bob" ⟨2, 1⟩ (.ok [])]
    let snapshot : Snapshot := { routes := [⟨"zoe", ""⟩, ⟨"bob", ""⟩, ⟨"amy", ""⟩, ⟨"bob", "x"⟩] }
    let app := (history {} actions).app
    app.polling.inFlight = some 1 ∧
      (update app (.snapshotLoaded 1 (.ok snapshot))).2 =
        [.refreshTab "bob" ⟨2, 2⟩, .scheduleTick 1 1000] := by
  intro actions snapshot app
  have hg : app.polling.inFlight = some 1 := by decide
  obtain ⟨hwork, -, -⟩ := tick_refreshes_listed_tabs {} actions hg snapshot
  refine ⟨hg, hwork.trans ?_⟩
  decide +kernel

end GossipPanel.Panel
