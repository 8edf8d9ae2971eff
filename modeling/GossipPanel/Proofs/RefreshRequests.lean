import GossipPanel.Proofs.PollingChain

/-!
# Requests for a tick

No request is lost and none is multiplied.

* `Polling.Step.inFlight_keep`: until the tick in flight lands, requests are only remembered.
* `History.tick_began`: every tick in flight began at some action of the run.
* `History.run_during`: what is remembered is whether a request has come since then.
* `requests_neither_lost_nor_multiplied`: the work after a tick is exactly one further tick when
  there was a request during it, and none but the next timer otherwise.
-/

namespace GossipPanel.Panel

open Node

namespace Polling

variable {p : Polling} {interval : UInt64} {event : PollingEvent} {r : Polling × List Effect}
  {g : UInt64}

theorem Step.inFlight_keep (hs : Step interval p event r) (hg : p.inFlight = some g)
    (hne : event.landed? ≠ some g) :
    r.1.inFlight = some g ∧ r.1.requested = (p.requested || event.isRequest) := by
  cases hs with
  | unrelated => exact ⟨hg, by simp [PollingEvent.isRequest]⟩
  | staleTimer => exact ⟨hg, by simp [PollingEvent.isRequest]⟩
  | staleOutcome => exact ⟨hg, by simp [PollingEvent.isRequest]⟩
  | remember => exact ⟨hg, by simp [PollingEvent.isRequest]⟩
  | begin hidle => simp [hidle] at hg
  | fire hidle => simp [hidle] at hg
  | again hg' => exact absurd (hg'.symm.trans hg) hne
  | rest hg' => exact absurd (hg'.symm.trans hg) hne
  | stop hg' => exact absurd (hg'.symm.trans hg) hne

theorem Step.began (hs : Step interval p event r) (hg : r.1.inFlight = some g) :
    (p.inFlight = some g ∧ event.landed? ≠ some g) ∨ (r = p.tick ∧ g = p.generation + 1) := by
  cases hs with
  | unrelated => exact .inl ⟨hg, by simp⟩
  | staleTimer => exact .inl ⟨hg, by simp⟩
  | staleOutcome hne =>
    refine .inl ⟨hg, fun heq => hne ?_⟩
    rw [hg, ← heq]
    rfl
  | remember => exact .inl ⟨hg, by simp⟩
  | begin => exact .inr ⟨rfl, (Option.some.inj hg).symm⟩
  | fire => exact .inr ⟨rfl, (Option.some.inj hg).symm⟩
  | again => exact .inr ⟨rfl, (Option.some.inj hg).symm⟩
  | rest => cases hg
  | stop => cases hg

theorem Step.of_fetch (hs : Step interval p event r) (hmem : .fetchSnapshot g ∈ r.2) :
    r = p.tick ∧ g = p.generation + 1 := by
  cases hs with
  | unrelated => cases hmem
  | staleTimer => cases hmem
  | staleOutcome => cases hmem
  | remember => cases hmem
  | begin => exact ⟨rfl, by simpa [tick] using hmem⟩
  | fire => exact ⟨rfl, by simpa [tick] using hmem⟩
  | again => exact ⟨rfl, by simpa [tick] using hmem⟩
  | rest => simp [Polling.rest] at hmem
  | stop => cases hmem

theorem Step.follow {goOn : Bool} (hs : Step interval p (.outcome g goOn) r)
    (hg : p.inFlight = some g) :
    r = if p.requested then p.tick
      else if goOn then p.rest interval
      else ({ p with inFlight := none }, []) := by
  cases hs with
  | staleOutcome hne => exact absurd hg hne
  | again _ hreq => simp [hreq]
  | rest _ hreq => simp [hreq]
  | stop _ hreq => simp [hreq]

end Polling

namespace History

variable {h : History} {a : Action} {g : UInt64}

theorem react_step (hp : h.app.polling.Sound) (a : Action) :
    h.app.polling.Step h.app.pollInterval (h.app.pollingEvent a)
      (h.app.polling.react h.app.pollInterval (h.app.pollingEvent a)) :=
  Polling.react_step hp _ _

theorem step_during (hp : h.app.polling.Sound) (hg : h.app.polling.inFlight = some g)
    (hne : a.landed? ≠ some g) :
    (h.step a).app.polling.inFlight = some g ∧
      (h.step a).app.polling.requested = (h.app.polling.requested || a.isRequest) := by
  rw [← landed?_pollingEvent h.app a] at hne
  obtain ⟨hflight, hreq⟩ := (react_step hp a).inFlight_keep hg hne
  rw [polling_step, ← isRequest_pollingEvent h.app a]
  exact ⟨hflight, hreq⟩

theorem mem_update_of_tick
    (ht : h.app.polling.react h.app.pollInterval (h.app.pollingEvent a) = h.app.polling.tick) :
    .fetchSnapshot (h.app.polling.generation + 1) ∈ (update h.app a).2 := by
  have hwork := (update_reaction h.app a).pollingWork
  rw [ht] at hwork
  have hmem : .fetchSnapshot (h.app.polling.generation + 1) ∈
      (update h.app a).2.filter Effect.isPolling := by
    rw [hwork]
    exact List.mem_singleton_self _
  exact (List.mem_filter.1 hmem).1

theorem step_of_fetch (hp : h.app.polling.Sound)
    (hmem : .fetchSnapshot g ∈ (update h.app a).2) :
    (h.step a).app.polling.inFlight = some g ∧ (h.step a).app.polling.requested = false := by
  have hwork := (update_reaction h.app a).pollingWork
  have hmem' : .fetchSnapshot g ∈
      (h.app.polling.react h.app.pollInterval (h.app.pollingEvent a)).2 := by
    rw [← hwork]
    exact List.mem_filter.2 ⟨hmem, rfl⟩
  obtain ⟨htick, rfl⟩ := (react_step hp a).of_fetch hmem'
  rw [polling_step, htick]
  exact ⟨rfl, rfl⟩

theorem landed?_ne (ha : ∀ result, a ≠ .snapshotLoaded g result) : a.landed? ≠ some g := by
  intro heq
  cases a <;> cases heq
  exact ha _ rfl

/-- While a tick is in flight, exactly the requests during it are remembered. -/
theorem run_during (hp : h.app.polling.Sound) (hg : h.app.polling.inFlight = some g)
    {during : List Action} (hduring : ∀ result, .snapshotLoaded g result ∉ during) :
    (h.run during).app.polling.inFlight = some g ∧
      (h.run during).app.polling.requested =
        (h.app.polling.requested || during.any Action.isRequest) := by
  induction during generalizing h with
  | nil => exact ⟨hg, by simp⟩
  | cons a during ih =>
    have hne : a.landed? ≠ some g := landed?_ne fun result heq =>
      hduring result (heq ▸ List.mem_cons_self)
    obtain ⟨hflight, hreq⟩ := step_during hp hg hne
    obtain ⟨hflight', hreq'⟩ := ih (sound_step hp a) hflight fun result hmem =>
      hduring result (List.mem_cons_of_mem a hmem)
    refine ⟨hflight', ?_⟩
    rw [run_cons, hreq', hreq, List.any_cons, Bool.or_assoc]

theorem tick_began (s : Settings.Resolved) (actions : List Action)
    (hg : (history s actions).app.polling.inFlight = some g) :
    ∃ earlier first during, actions = earlier ++ first :: during ∧
      .fetchSnapshot g ∈ (update (history s earlier).app first).2 ∧
      ∀ result, .snapshotLoaded g result ∉ during := by
  induction actions using List.reverseRecOn with
  | nil => cases hg
  | append_singleton actions a ih =>
    rw [history_concat, polling_step] at hg
    rcases (react_step (sound_history s actions) a).began hg with ⟨hbefore, hne⟩ | ⟨htick, rfl⟩
    · -- the tick goes on: `a` is one more action during it
      obtain ⟨earlier, first, during, rfl, hfirst, hduring⟩ := ih hbefore
      rw [landed?_pollingEvent] at hne
      refine ⟨earlier, first, during ++ [a], by simp, hfirst, fun result hmem => ?_⟩
      rcases List.mem_append.1 hmem with hmem | hmem
      · exact hduring result hmem
      · rw [← List.mem_singleton.1 hmem] at hne
        exact hne rfl
    · -- the tick begins with `a`
      exact ⟨actions, a, [], rfl, mem_update_of_tick htick, by simp⟩

theorem fetch_of_requested (hp : h.app.polling.Sound) (hg : h.app.polling.inFlight = some g)
    (hreq : h.app.polling.requested = true) {later : List Action}
    (hlands : ∃ result, .snapshotLoaded g result ∈ later) :
    .fetchSnapshot (g + 1) ∈ (h.run later).emitted := by
  induction later generalizing h with
  | nil =>
    obtain ⟨result, hmem⟩ := hlands
    cases hmem
  | cons a later ih =>
    by_cases hne : a.landed? = some g
    · obtain ⟨goOn, hevent⟩ : ∃ goOn, h.app.pollingEvent a = .outcome g goOn := by
        cases a <;> cases hne
        exact ⟨_, rfl⟩
      have hstep := react_step hp a
      rw [hevent] at hstep
      have htick := hstep.follow hg
      rw [hreq, if_pos rfl, ← hevent] at htick
      have hmem := mem_update_of_tick htick
      rw [hp.latest g hg] at hmem
      exact mem_emitted_run (List.mem_append_right _ hmem) later
    · obtain ⟨hflight, hreq'⟩ := step_during hp hg hne
      refine ih (sound_step hp a) hflight (by rw [hreq', hreq]; rfl) ?_
      obtain ⟨result, hmem⟩ := hlands
      rcases List.mem_cons.1 hmem with rfl | hmem
      · exact absurd rfl hne
      · exact ⟨result, hmem⟩

end History

section
variable {app : App} {a : Action} {g : UInt64}

theorem work_of_idle (hidle : app.polling.inFlight = none) (ha : a.isRequest = true) :
    (app.polling.react app.pollInterval (app.pollingEvent a)).2 =
      [.fetchSnapshot (app.polling.generation + 1)] := by
  have hevent : app.pollingEvent a = .request := by
    have hreq := isRequest_pollingEvent app a
    rw [ha] at hreq
    cases hev : app.pollingEvent a <;> rw [hev] at hreq <;> first | rfl | cases hreq
  rw [hevent, Polling.react, Polling.request_of_idle hidle]
  rfl

theorem fetches_of_idle (hidle : app.polling.inFlight = none) (ha : a.isRequest = true) :
    (update app a).2.filterMap Effect.fetch? = [app.polling.generation + 1] := by
  rw [(update_reaction app a).filterMap_pollingWork Effect.isPolling_of_fetch?,
    work_of_idle hidle ha]
  rfl

theorem react_landed (hp : app.polling.Sound) (hg : app.polling.inFlight = some g)
    (result : Except String Snapshot) :
    app.polling.react app.pollInterval (app.pollingEvent (.snapshotLoaded g result)) =
      if app.polling.requested then app.polling.tick
      else if result.isOk || app.reconnect == .auto then app.polling.rest app.pollInterval
      else ({ app.polling with inFlight := none }, []) :=
  (Polling.react_step hp _ (.outcome g _)).follow hg

theorem work_of_landed (hp : app.polling.Sound) (hg : app.polling.inFlight = some g)
    (result : Except String Snapshot) :
    let r := update app (.snapshotLoaded g result)
    if app.polling.requested then
      r.2.filterMap Effect.fetch? = [g + 1] ∧ r.2.filterMap Effect.schedule? = []
    else if result.isOk || app.reconnect == .auto then
      r.2.filterMap Effect.fetch? = [] ∧
        r.2.filterMap Effect.schedule? = [(app.polling.lastTimer + 1, app.pollInterval)] ∧
        r.1.polling.armed = some (app.polling.lastTimer + 1)
    else r.2.filterMap Effect.fetch? = [] ∧ r.2.filterMap Effect.schedule? = [] := by
  have hr := update_reaction app (.snapshotLoaded g result)
  have hfetch := hr.filterMap_pollingWork Effect.isPolling_of_fetch?
  have hschedule := hr.filterMap_pollingWork Effect.isPolling_of_schedule?
  have hpolling := hr.polling
  have hlatest : app.polling.generation = g := hp.latest g hg
  rw [react_landed hp hg result] at hfetch hschedule hpolling
  simp only [hfetch, hschedule, hpolling]
  cases app.polling.requested with
  | true => exact ⟨by rw [← hlatest]; rfl, rfl⟩
  | false =>
    cases result.isOk || app.reconnect == .auto with
    | true => exact ⟨rfl, rfl, rfl⟩
    | false => exact ⟨rfl, rfl⟩

theorem fetch_after_command (hp : app.polling.Sound) (command : Command) (detail : String)
    {later : List Action}
    (hlands : ∀ g, app.polling.inFlight = some g → ∃ result, .snapshotLoaded g result ∈ later) :
    .fetchSnapshot (app.polling.generation + 1) ∈
      (({ app } : History).run (.commandFinished command (.ok detail) :: later)).emitted := by
  have hrequest : (Action.commandFinished command (.ok detail)).isRequest = true := rfl
  have hp' : ({ app } : History).app.polling.Sound := hp
  cases hflight : app.polling.inFlight with
  | none =>
    have hwork := fetches_of_idle hflight hrequest
    have hmem : .fetchSnapshot (app.polling.generation + 1) ∈
        (update app (.commandFinished command (.ok detail))).2 := by
      rw [← Effect.mem_filterMap_fetch, hwork]
      exact List.mem_singleton_self _
    exact History.mem_emitted_run (List.mem_append_right _ hmem) later
  | some g =>
    have hne : (Action.commandFinished command (.ok detail)).landed? ≠ some g := nofun
    obtain ⟨hflight', hreq⟩ := History.step_during hp' hflight hne
    rw [hp.latest g hflight]
    refine History.fetch_of_requested (History.sound_step hp' _) hflight' ?_ (hlands g hflight)
    rw [hreq, hrequest, Bool.or_true]

end

/-- **No request for a tick is lost or multiplied.** At every moment of every run:

* a request is remembered only while a tick is in flight;
* a tick in flight began at some action and has not landed since;
* the work after the outcome of a tick depends on the actions during it: with a request among them
  it is exactly one more tick and no timer; without one it is no tick, and the next timer unless
  the tick failed under the manual policy;
* a request while no tick is in flight starts one at once;
* so a command that succeeds is followed by a tick that begins after it, once the tick in flight
  lands. -/
theorem requests_neither_lost_nor_multiplied (s : Settings.Resolved) (actions : List Action) :
    let app := (history s actions).app
    (app.polling.requested = true → app.polling.isFetching = true) ∧
      (∀ g, app.polling.inFlight = some g →
        ∃ earlier first during, actions = earlier ++ first :: during ∧
          .fetchSnapshot g ∈ (update (history s earlier).app first).2 ∧
          ∀ result, .snapshotLoaded g result ∉ during) ∧
      (∀ g earlier first during, actions = earlier ++ first :: during →
        .fetchSnapshot g ∈ (update (history s earlier).app first).2 →
        (∀ result, .snapshotLoaded g result ∉ during) →
        app.polling.inFlight = some g ∧
        ∀ result,
          let r := update app (.snapshotLoaded g result)
          if during.any Action.isRequest then
            r.2.filterMap Effect.fetch? = [g + 1] ∧ r.2.filterMap Effect.schedule? = []
          else if result.isOk || app.reconnect == .auto then
            r.2.filterMap Effect.fetch? = [] ∧
              r.2.filterMap Effect.schedule? = [(app.polling.lastTimer + 1, app.pollInterval)] ∧
              r.1.polling.armed = some (app.polling.lastTimer + 1)
          else r.2.filterMap Effect.fetch? = [] ∧ r.2.filterMap Effect.schedule? = []) ∧
      (∀ a, a.isRequest = true → app.polling.inFlight = none →
        (update app a).2.filterMap Effect.fetch? = [app.polling.generation + 1]) ∧
      ∀ command detail later,
        (∀ g, app.polling.inFlight = some g → ∃ result, .snapshotLoaded g result ∈ later) →
        .fetchSnapshot (app.polling.generation + 1) ∈
          (({ app } : History).run (.commandFinished command (.ok detail) :: later)).emitted := by
  intro app
  have hp : app.polling.Sound := History.sound_history s actions
  refine ⟨hp.requested, fun g hg => History.tick_began s actions hg, ?_,
    fun a ha hidle => fetches_of_idle hidle ha, fun command detail later hlands =>
      fetch_after_command hp command detail hlands⟩
  intro g earlier first during hactions hfirst hduring
  have hp' := History.sound_history s earlier
  obtain ⟨hflight, hnone⟩ := History.step_of_fetch hp' hfirst
  obtain ⟨hflight', hreq⟩ := History.run_during (History.sound_step hp' first) hflight hduring
  have hrun : history s actions = ((history s earlier).step first).run during := by
    rw [hactions, history_append, History.run_cons]
  rw [← hrun] at hflight' hreq
  rw [hnone, Bool.false_or] at hreq
  refine ⟨hflight', fun result => ?_⟩
  rw [← hreq]
  exact work_of_landed hp hflight' result

end GossipPanel.Panel
