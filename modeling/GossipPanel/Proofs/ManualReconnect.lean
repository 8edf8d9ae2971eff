import GossipPanel.Proofs.RefreshRequests

/-!
# Polling under the manual policy

A tick that fails under the manual policy is the last one until somebody asks for another.

* `Polling.Suspended`: no tick is in flight, no timer is armed and no request is remembered.
  Requests apart, no event changes such a chain or makes it ask for work (`Step.suspended`).
* `History.duringTick`: the actions since the latest tick began. While it is in flight, a request
  is remembered iff one is among them (`requested_iff`).
* `History.Lost`: the panel after such a failure; `Lost.step` carries it over one action, and
  `Lost.run` over all actions that are no requests.
* `manual_policy_suspends_polling`: from the failure on nothing is fetched and no timer armed, and
  the first request fetches a snapshot at once.
-/

namespace GossipPanel.Panel

open Node

/-! ## A chain at rest -/

namespace Polling

/-- Nothing that could start a tick is outstanding. -/
structure Suspended (p : Polling) : Prop where
  idle : p.inFlight = none
  disarmed : p.armed = none
  unrequested : p.requested = false

variable {p : Polling} {interval : UInt64} {event : PollingEvent} {r : Polling × List Effect}
  {g : UInt64}

theorem Suspended.sound (hp : p.Suspended) : p.Sound :=
  sound_of_idle hp.idle hp.unrequested

/-- Timers and outcomes find nothing to act on, so only a request can go on. -/
theorem Step.suspended (hs : Step interval p event r) (hp : p.Suspended)
    (hquiet : event.isRequest = false) : r = (p, []) := by
  cases hs with
  | unrelated => rfl
  | staleTimer => rfl
  | staleOutcome => rfl
  | remember => cases hquiet
  | begin => cases hquiet
  | fire hidle ht => exact absurd (hp.disarmed.symm.trans ht) nofun
  | again hg => exact absurd (hp.idle.symm.trans hg) nofun
  | rest hg => exact absurd (hp.idle.symm.trans hg) nofun
  | stop hg => exact absurd (hp.idle.symm.trans hg) nofun

theorem Step.work_of_inFlight (hs : Step interval p event r) (hg : p.inFlight = some g)
    (hne : event.landed? ≠ some g) : r.2 = [] := by
  cases hs with
  | unrelated => rfl
  | staleTimer => rfl
  | staleOutcome => rfl
  | remember => rfl
  | begin hidle => exact absurd (hidle.symm.trans hg) nofun
  | fire hidle => exact absurd (hidle.symm.trans hg) nofun
  | again hg' => exact absurd (hg'.symm.trans hg) hne
  | rest hg' => exact absurd (hg'.symm.trans hg) hne
  | stop hg' => exact absurd (hg'.symm.trans hg) hne

end Polling

/-! ## The actions during a tick -/

namespace History

/-- The action asks for a snapshot. -/
def beginsTick (m : History × Action) : Bool :=
  (update m.1.app m.2).2.any fun e => e.fetch?.isSome

/-- The actions of a run since the last one that began a tick. -/
def duringTick (h : History) (actions : List Action) : List Action :=
  ((h.moments actions).reverse.takeWhile (!beginsTick ·)).reverse.map Prod.snd

variable {h : History} {a : Action} {g : UInt64}

theorem duringTick_concat (h : History) (actions : List Action) (a : Action) :
    h.duringTick (actions ++ [a]) =
      if beginsTick (h.run actions, a) then [] else h.duringTick actions ++ [a] := by
  rw [duringTick, moments_concat, List.reverse_append, List.reverse_singleton,
    List.singleton_append, List.takeWhile_cons]
  cases beginsTick (h.run actions, a) <;> simp [duringTick]

theorem beginsTick_eq_false (hp : h.app.polling.Sound) (hg : h.app.polling.inFlight = some g)
    (hne : a.landed? ≠ some g) : beginsTick (h, a) = false := by
  have hnone : (update h.app a).2.filter Effect.isPolling = [] := by
    rw [← landed?_pollingEvent h.app a] at hne
    rw [(update_reaction h.app a).pollingWork]
    exact (react_step hp a).work_of_inFlight hg hne
  rw [beginsTick, List.any_eq_false]
  intro e he hfetch
  obtain ⟨g', hg'⟩ := Option.isSome_iff_exists.1 hfetch
  exact List.filter_eq_nil_iff.1 hnone e he (Effect.isPolling_of_fetch? hg')

theorem requested_iff (s : Settings.Resolved) (actions : List Action)
    (hg : (history s actions).app.polling.inFlight = some g) :
    (history s actions).app.polling.requested =
      ((start s).duringTick actions).any Action.isRequest := by
  induction actions using List.reverseRecOn with
  | nil => cases hg
  | append_singleton actions a ih =>
    have hp := sound_history s actions
    rw [duringTick_concat, run_start]
    rw [history_concat] at hg ⊢
    have hafter := hg
    rw [polling_step] at hafter
    rcases (react_step hp a).began hafter with ⟨hbefore, hne⟩ | ⟨htick, rfl⟩
    · -- the tick goes on, and `a` is the last action during it
      rw [landed?_pollingEvent] at hne
      rw [(step_during hp hbefore hne).2, ih hbefore, beginsTick_eq_false hp hbefore hne]
      simp
    · have hmem := mem_update_of_tick htick
      have hbegins : beginsTick (history s actions, a) = true :=
        List.any_eq_true.2 ⟨_, hmem, rfl⟩
      rw [(step_of_fetch hp hmem).2, hbegins]
      rfl

/-! ## After the failure -/

/-- Polling is suspended after a failure; `work` is all that it has ever asked for. -/
structure Lost (reason : String) (snapshot : Snapshot) (work : List Effect) (h : History) :
    Prop where
  suspended : h.app.polling.Suspended
  connection : h.app.connection = .disconnected reason
  snapshot : h.app.snapshot = snapshot
  work : h.emitted.filter Effect.isPolling = work

variable {reason : String} {snapshot : Snapshot} {work : List Effect}

theorem filter_isPolling_step (h : History) (a : Action) :
    (h.step a).emitted.filter Effect.isPolling =
      h.emitted.filter Effect.isPolling ++
        (h.app.polling.react h.app.pollInterval (h.app.pollingEvent a)).2 := by
  rw [← (update_reaction h.app a).pollingWork]
  exact List.filter_append _ _

theorem Lost.step (hl : h.Lost reason snapshot work) (ha : a.isRequest = false) :
    (h.step a).Lost reason snapshot work := by
  have hr := update_reaction h.app a
  have hnone := accepted?_of_idle hl.suspended.idle a
  have hquiet : (h.app.pollingEvent a).isRequest = false :=
    (isRequest_pollingEvent h.app a).trans ha
  have hsame := (react_step hl.suspended.sound a).suspended hl.suspended hquiet
  constructor
  · rw [polling_step, hsame]
    exact hl.suspended
  · show (update h.app a).1.connection = _
    rw [hr.connection, hnone]
    exact hl.connection
  · show (update h.app a).1.snapshot = _
    rw [hr.snapshot, hnone]
    exact hl.snapshot
  · rw [filter_isPolling_step, hsame, List.append_nil]
    exact hl.work

theorem Lost.run (hl : h.Lost reason snapshot work) {actions : List Action}
    (hquiet : ∀ a ∈ actions, a.isRequest = false) :
    (h.run actions).Lost reason snapshot work := by
  induction actions generalizing h with
  | nil => exact hl
  | cons a actions ih =>
    rw [run_cons]
    exact ih (hl.step (hquiet a List.mem_cons_self)) fun b hb =>
      hquiet b (List.mem_cons_of_mem a hb)

theorem lost_of_failed (hp : h.app.polling.Sound) (hmanual : h.app.reconnect = .manual)
    (hg : h.app.polling.inFlight = some g) (hreq : h.app.polling.requested = false)
    (reason : String) :
    (h.step (.snapshotLoaded g (.error reason))).Lost reason h.app.snapshot
      (h.emitted.filter Effect.isPolling) := by
  have hr := update_reaction h.app (.snapshotLoaded g (.error reason))
  have haccepted : h.app.accepted? (.snapshotLoaded g (.error reason)) =
      some (g, .error reason) := if_pos hg
  have hreact : h.app.polling.react h.app.pollInterval
      (h.app.pollingEvent (.snapshotLoaded g (.error reason))) =
      ({ h.app.polling with inFlight := none }, []) := by
    rw [react_landed hp hg, hreq, hmanual]
    rfl
  constructor
  · rw [polling_step, hreact]
    exact ⟨rfl, hp.exclusive g hg, hreq⟩
  · show (update h.app _).1.connection = _
    rw [hr.connection, haccepted]
    rfl
  · show (update h.app _).1.snapshot = _
    rw [hr.snapshot, haccepted]
    rfl
  · rw [filter_isPolling_step, hreact, List.append_nil]

theorem Lost.fetch_of_request (hl : h.Lost reason snapshot work) (ha : a.isRequest = true) :
    (update h.app a).2.filter Effect.isPolling =
      [.fetchSnapshot (h.app.polling.generation + 1)] := by
  rw [(update_reaction h.app a).pollingWork]
  exact work_of_idle hl.suspended.idle ha

end History

/-- **Manual reconnect suspends polling.** Let a tick fail under the manual policy, and let nobody
have asked for a tick during it. Whatever happens afterwards, short of a request for a tick:

* all polling work ever asked for is what had been asked for before the failure, so no snapshot is
  fetched and no timer armed;
* the connection stays lost for the same reason, and the last snapshot stays in place;
* the first request asks for a snapshot at once. -/
theorem manual_policy_suspends_polling (s : Settings.Resolved) (actions later : List Action)
    (g : UInt64) (reason : String)
    (hmanual : (history s actions).app.reconnect = .manual)
    (hflight : (history s actions).app.polling.inFlight = some g)
    (hduring : ∀ a ∈ (History.start s).duringTick actions, a.isRequest = false)
    (hlater : ∀ a ∈ later, a.isRequest = false) :
    let before := history s actions
    let h := before.run (.snapshotLoaded g (.error reason) :: later)
    h.emitted.filter Effect.isPolling = before.emitted.filter Effect.isPolling ∧
      h.app.connection = .disconnected reason ∧
      h.app.snapshot = before.app.snapshot ∧
      ∀ a, a.isRequest = true →
        (update h.app a).2.filter Effect.isPolling =
          [.fetchSnapshot (h.app.polling.generation + 1)] := by
  intro before h
  have hunrequested : before.app.polling.requested = false := by
    rw [History.requested_iff s actions hflight, List.any_eq_false]
    exact fun a ha => Bool.eq_false_iff.1 (hduring a ha)
  have hfailed := History.lost_of_failed (History.sound_history s actions) hmanual hflight
    hunrequested reason
  have hlost : h.Lost reason before.app.snapshot (before.emitted.filter Effect.isPolling) :=
    hfailed.run hlater
  exact ⟨hlost.work, hlost.connection, hlost.snapshot, fun a ha => hlost.fetch_of_request ha⟩

/-- The second tick fails; the timer of the first, a late snapshot and a failed command change
nothing, and `/reconnect` polls again. -/
theorem reconnect_after_lost_node :
    let s : Settings.Resolved := { reconnect := .manual }
    let actions : List Action := [.start, .snapshotLoaded 1 (.ok { identity := "me" }),
      .timerFired 1]
    let later : List Action := [.timerFired 1, .snapshotLoaded 1 (.ok {}),
      .commandFinished (.rename "you") (.error "down"), .submit "hello"]
    let h := (history s actions).run (.snapshotLoaded 2 (.error "refused") :: later)
    h.app.connection = .disconnected "refused" ∧ h.app.snapshot.identity = "me" ∧
      (update h.app (.submit "/reconnect")).2 = [.fetchSnapshot 3] := by
  intro s actions later h
  obtain ⟨-, hconnection, hsnapshot, hrequest⟩ := manual_policy_suspends_polling s actions later 2
    "refused" (by decide) (by decide) (by decide) (by decide)
  refine ⟨hconnection, (congrArg Snapshot.identity hsnapshot).trans (by decide), ?_⟩
  have hpolling := hrequest (.submit "/reconnect") (by decide)
  exact (List.filter_eq_self.2 (by decide)).symm.trans (hpolling.trans (by decide))

end GossipPanel.Panel
