import GossipPanel.Proofs.Reaction

/-!
# The polling chain

Exactly one chain of ticks and timers is alive.

* `Polling.Step`: everything that an event can do to the chain; `react_step` says that nothing else
  happens.
* `Polling.Sound`: what the tokens satisfy in every reachable state.
* `Numbered`: ticks and timers count up from 1, so fewer than 2^64 of them are pairwise different.
* `Polling.Chain`: the tokens against the pending work, when outcomes only answer pending work.
* `one_polling_chain`: ticks never overlap, a tick and a timer never coexist, and polling stops
  only under the manual policy, after a failure.
-/

namespace GossipPanel.Panel

open Node Text

namespace Polling

/-! ## Steps of the chain -/

def tick (p : Polling) : Polling × List Effect :=
  ({ p with
      generation := p.generation + 1, inFlight := some (p.generation + 1), armed := none,
      requested := false },
    [.fetchSnapshot (p.generation + 1)])

/-- The tick in flight has ended and the next timer is armed. -/
def rest (interval : UInt64) (p : Polling) : Polling × List Effect :=
  ({ p with inFlight := none, lastTimer := p.lastTimer + 1, armed := some (p.lastTimer + 1) },
    [.scheduleTick (p.lastTimer + 1) interval])

/-- What an event does to the chain. -/
inductive Step (interval : UInt64) (p : Polling) : PollingEvent → Polling × List Effect → Prop where
  | unrelated : Step interval p .unrelated (p, [])
  /-- Only the timer armed last counts. -/
  | staleTimer {t : UInt64} (ht : p.armed ≠ some t) : Step interval p (.timer t) (p, [])
  /-- Only the tick in flight counts. -/
  | staleOutcome {g : UInt64} {goOn : Bool} (hg : p.inFlight ≠ some g) :
      Step interval p (.outcome g goOn) (p, [])
  | remember {g : UInt64} (hg : p.inFlight = some g) :
      Step interval p .request ({ p with requested := true }, [])
  | begin (hidle : p.inFlight = none) : Step interval p .request p.tick
  | fire {t : UInt64} (hidle : p.inFlight = none) (ht : p.armed = some t) :
      Step interval p (.timer t) p.tick
  /-- The remembered request runs right after the tick. -/
  | again {g : UInt64} {goOn : Bool} (hg : p.inFlight = some g) (hreq : p.requested = true) :
      Step interval p (.outcome g goOn) p.tick
  | rest {g : UInt64} (hg : p.inFlight = some g) (hreq : p.requested = false) :
      Step interval p (.outcome g true) (p.rest interval)
  | stop {g : UInt64} (hg : p.inFlight = some g) (hreq : p.requested = false) :
      Step interval p (.outcome g false) ({ p with inFlight := none }, [])

/-- What the tokens satisfy in every reachable state. -/
structure Sound (p : Polling) : Prop where
  latest : ∀ g, p.inFlight = some g → p.generation = g
  exclusive : ∀ g, p.inFlight = some g → p.armed = none
  requested : p.requested = true → p.isFetching = true

variable {p : Polling} {interval : UInt64} {event : PollingEvent} {g : UInt64}

theorem request_of_idle (h : p.inFlight = none) : p.request = p.tick := by
  simp [request, beginTick_of_idle h, tick]

theorem request_of_inFlight (h : p.inFlight = some g) :
    p.request = ({ p with requested := true }, []) := by
  simp [request, beginTick_of_inFlight h]

theorem idle_of_armed (hp : Sound p) {t : UInt64} (ht : p.armed = some t) : p.inFlight = none := by
  cases hf : p.inFlight with
  | none => rfl
  | some g => simp [hp.exclusive g hf] at ht

theorem react_step (hp : Sound p) (interval : UInt64) (event : PollingEvent) :
    Step interval p event (p.react interval event) := by
  cases event with
  | unrelated => exact .unrelated
  | request =>
    rw [react]
    cases hf : p.inFlight with
    | none => rw [request_of_idle hf]; exact .begin hf
    | some g => rw [request_of_inFlight hf]; exact .remember hf
  | timer t =>
    by_cases ht : p.armed = some t
    · have hidle := idle_of_armed hp ht
      have hreact : p.react interval (.timer t) = p.tick := by
        simp [react, fire?, ht, request_of_idle, hidle, tick]
      rw [hreact]
      exact .fire hidle ht
    · have hreact : p.react interval (.timer t) = (p, []) := by simp [react, fire?, ht]
      rw [hreact]
      exact .staleTimer ht
  | outcome g goOn =>
    by_cases hg : p.inFlight = some g
    · cases hreq : p.requested with
      | true =>
        have hreact : p.react interval (.outcome g goOn) = p.tick := by
          simp [react, finish?, hg, proceed, hreq, takeRequest, request_of_idle, tick]
        rw [hreact]
        exact .again hg hreq
      | false =>
        cases goOn with
        | true =>
          have hreact : p.react interval (.outcome g true) = p.rest interval := by
            simp [react, finish?, hg, proceed, hreq, takeRequest, armTimer, Polling.rest]
          rw [hreact]
          exact .rest hg hreq
        | false =>
          have hreact : p.react interval (.outcome g false) =
              ({ p with inFlight := none }, []) := by
            simp [react, finish?, hg, proceed, hreq, takeRequest]
          rw [hreact]
          exact .stop hg hreq
    · have hreact : p.react interval (.outcome g goOn) = (p, []) := by simp [react, finish?, hg]
      rw [hreact]
      exact .staleOutcome hg

theorem sound_tick (p : Polling) : Sound p.tick.1 where
  latest g hg := Option.some.inj hg
  exclusive _ _ := rfl
  requested h := by cases h

theorem sound_of_idle (hidle : p.inFlight = none) (hreq : p.requested = false) : Sound p where
  latest g hg := by simp [hidle] at hg
  exclusive g hg := by simp [hidle] at hg
  requested h := by simp [hreq] at h

theorem Step.sound {r : Polling × List Effect} (hp : Sound p) (hs : Step interval p event r) :
    Sound r.1 := by
  cases hs with
  | unrelated => exact hp
  | staleTimer => exact hp
  | staleOutcome => exact hp
  | remember hg => exact ⟨hp.latest, hp.exclusive, fun _ => by simp [isFetching, hg]⟩
  | begin => exact sound_tick p
  | fire => exact sound_tick p
  | again => exact sound_tick p
  | rest _ hreq => exact sound_of_idle rfl hreq
  | stop _ hreq => exact sound_of_idle rfl hreq

end Polling

/-! ## Tokens count up -/

/-- The first tokens of a counter. -/
def firstTokens (n : Nat) : List UInt64 :=
  (List.range n).map fun k => .ofNat (k + 1)

/-- The tokens are the first ones of a counter that stands at `last`. -/
def Numbered (tokens : List UInt64) (last : UInt64) : Prop :=
  tokens = firstTokens tokens.length ∧ last = .ofNat tokens.length

namespace Numbered

variable {tokens : List UInt64} {last : UInt64}

theorem nil : Numbered [] 0 :=
  ⟨rfl, rfl⟩

theorem concat (h : Numbered tokens last) : Numbered (tokens ++ [last + 1]) (last + 1) := by
  obtain ⟨htokens, hlast⟩ := h
  have hnext : last + 1 = .ofNat (tokens.length + 1) := by rw [hlast]; simp
  refine ⟨?_, by rw [hnext]; simp⟩
  rw [hnext, List.length_append, List.length_singleton, firstTokens, List.range_succ,
    List.map_append, List.map_singleton]
  congr 1

theorem pairwise_lt (h : Numbered tokens last) (hlen : tokens.length < UInt64.size) :
    tokens.Pairwise (· < ·) := by
  rw [h.1, firstTokens, List.pairwise_map]
  refine List.pairwise_lt_range.imp_of_mem fun {j k} _ hk hjk => ?_
  have hk' := List.mem_range.1 hk
  rw [UInt64.lt_iff_toNat_lt, UInt64.toNat_ofNat_of_lt' (by omega),
    UInt64.toNat_ofNat_of_lt' (by omega)]
  omega

theorem nodup (h : Numbered tokens last) (hlen : tokens.length < UInt64.size) : tokens.Nodup :=
  (h.pairwise_lt hlen).imp fun hlt heq => absurd (heq ▸ hlt) (UInt64.lt_irrefl _)

end Numbered

namespace Polling

variable {p : Polling} {interval : UInt64} {event : PollingEvent} {r : Polling × List Effect}

theorem Step.numbered_fetches {tokens : List UInt64} (hs : Step interval p event r)
    (h : Numbered tokens p.generation) :
    Numbered (tokens ++ r.2.filterMap Effect.fetch?) r.1.generation := by
  cases hs with
  | begin => exact h.concat
  | fire => exact h.concat
  | again => exact h.concat
  | _ => simpa [List.filterMap_cons, Effect.fetch?, Polling.rest] using h

theorem Step.numbered_timers {tokens : List UInt64} (hs : Step interval p event r)
    (h : Numbered tokens p.lastTimer) :
    Numbered (tokens ++ r.2.filterMap Effect.timer?) r.1.lastTimer := by
  cases hs with
  | rest => exact h.concat
  | _ => simpa [List.filterMap_cons, Effect.timer?, tick] using h

/-! ## The tokens against the pending work -/

/-- The tick in flight is the only pending one, and the armed timer is a pending one. -/
structure Chain (p : Polling) (fetches timers : List UInt64) : Prop where
  fetches_eq : fetches = p.inFlight.toList
  armed_mem : ∀ t, p.armed = some t → t ∈ timers

theorem chain_tick (p : Polling) (timers : List UInt64) :
    Chain p.tick.1 ([] ++ p.tick.2.filterMap Effect.fetch?)
      (timers ++ p.tick.2.filterMap Effect.timer?) :=
  ⟨rfl, nofun⟩

/-- Whatever an event does, the tokens stay in step with the pending work, as long as the outcome
of a tick answers a pending one. -/
theorem Step.chain {fetches timers : List UInt64} (hs : Step interval p event r)
    (hc : Chain p fetches timers) (hpending : ∀ g, event.landed? = some g → g ∈ fetches) :
    Chain r.1 (eraseAnswered fetches event.landed? ++ r.2.filterMap Effect.fetch?)
      (eraseAnswered timers event.fired? ++ r.2.filterMap Effect.timer?) := by
  obtain ⟨hfetches, harmed⟩ := hc
  have herase : ∀ g, p.inFlight = some g → fetches.erase g = [] := by
    intro g hg
    rw [hfetches, hg]
    simp
  cases hs with
  | unrelated => exact ⟨by simpa using hfetches, by simpa using harmed⟩
  | @staleTimer t ht =>
    refine ⟨by simpa using hfetches, fun t' ht' => ?_⟩
    have hne : t' ≠ t := fun heq => ht (heq ▸ ht')
    simpa using (List.mem_erase_of_ne hne).2 (harmed t' ht')
  | staleOutcome hne =>
    have hmem := hpending _ rfl
    rw [hfetches, Option.mem_toList] at hmem
    exact absurd hmem hne
  | remember hg => exact ⟨by simpa using hfetches, by simpa using harmed⟩
  | begin hidle =>
    rw [hidle] at hfetches
    rw [hfetches]
    exact chain_tick p _
  | fire hidle ht =>
    rw [hidle] at hfetches
    rw [hfetches]
    exact chain_tick p _
  | again hg hreq =>
    rw [PollingEvent.landed?, eraseAnswered_some, herase _ hg]
    exact chain_tick p _
  | rest hg hreq =>
    rw [PollingEvent.landed?, eraseAnswered_some, herase _ hg]
    refine ⟨rfl, fun t ht => ?_⟩
    obtain rfl : p.lastTimer + 1 = t := Option.some.inj ht
    simp [Polling.rest, Effect.timer?]
  | stop hg hreq =>
    rw [PollingEvent.landed?, eraseAnswered_some, herase _ hg]
    exact ⟨rfl, by simpa using harmed⟩

/-- The chain comes to rest without a timer only when a tick ends after which nothing follows. -/
theorem Step.stopped (hs : Step interval p event r) (hidle : r.1.inFlight = none)
    (harmed : r.1.armed = none) :
    (p.inFlight = none ∧ p.armed = none) ∨ ∃ g, p.inFlight = some g ∧ event = .outcome g false := by
  cases hs with
  | unrelated => exact .inl ⟨hidle, harmed⟩
  | staleTimer => exact .inl ⟨hidle, harmed⟩
  | staleOutcome => exact .inl ⟨hidle, harmed⟩
  | remember => exact .inl ⟨hidle, harmed⟩
  | begin => cases hidle
  | fire => cases hidle
  | again => cases hidle
  | rest => cases harmed
  | stop hg => exact .inr ⟨_, hg, rfl⟩

end Polling

/-! ## The chain in a run -/

theorem eq_error_of_pollingEvent {app : App} {a : Action} {g : UInt64}
    (h : app.pollingEvent a = .outcome g false) :
    (∃ reason, a = .snapshotLoaded g (.error reason)) ∧ app.reconnect = .manual := by
  unfold App.pollingEvent at h
  split at h
  · cases h
  · rename_i g' result
    obtain ⟨rfl, hgoOn⟩ := PollingEvent.outcome.inj h
    obtain ⟨herror, hpolicy⟩ := Bool.or_eq_false_iff.1 hgoOn
    constructor
    · cases result with
      | ok snapshot => cases herror
      | error reason => exact ⟨reason, rfl⟩
    · cases hreconnect : app.reconnect with
      | auto => simp [hreconnect] at hpolicy
      | manual => rfl
  · split at h <;> cases h

/-- Snapshots and timers only come as answers to pending work. -/
def AnswersPolling (h : History) (a : Action) : Prop :=
  (∀ g ∈ a.landed?, g ∈ h.fetches) ∧ ∀ t ∈ a.fired?, t ∈ h.timers

instance (h : History) (a : Action) : Decidable (AnswersPolling h a) :=
  @instDecidableAnd _ _ (Option.decidableForallMem a.landed?) (Option.decidableForallMem a.fired?)

namespace History

variable {h : History} {a : Action}

theorem polling_step (h : History) (a : Action) :
    (h.step a).app.polling =
      (h.app.polling.react h.app.pollInterval (h.app.pollingEvent a)).1 :=
  (update_reaction h.app a).polling

theorem fetches_step (h : History) (a : Action) :
    (h.step a).fetches =
      eraseAnswered h.fetches a.landed? ++
        (h.app.polling.react h.app.pollInterval (h.app.pollingEvent a)).2.filterMap
          Effect.fetch? := by
  rw [← (update_reaction h.app a).filterMap_pollingWork Effect.isPolling_of_fetch?]
  exact fetch_reports.filterMap_pending_step h a

theorem timers_step (h : History) (a : Action) :
    (h.step a).timers =
      eraseAnswered h.timers a.fired? ++
        (h.app.polling.react h.app.pollInterval (h.app.pollingEvent a)).2.filterMap
          Effect.timer? := by
  rw [← (update_reaction h.app a).filterMap_pollingWork Effect.isPolling_of_timer?]
  exact timer_reports.filterMap_pending_step h a

theorem sound_step (hp : h.app.polling.Sound) (a : Action) : (h.step a).app.polling.Sound := by
  rw [polling_step]
  exact (Polling.react_step hp _ _).sound hp

theorem sound_history (s : Settings.Resolved) (actions : List Action) :
    (history s actions).app.polling.Sound := by
  refine run_invariant (fun h => h.app.polling.Sound) (fun h a hp => sound_step hp a) ?_ actions
  exact ⟨nofun, nofun, nofun⟩

theorem numbered_fetches (s : Settings.Resolved) (actions : List Action) :
    Numbered ((history s actions).emitted.filterMap Effect.fetch?)
      (history s actions).app.polling.generation := by
  induction actions using List.reverseRecOn with
  | nil => exact Numbered.nil
  | append_singleton actions a ih =>
    have hwork := (update_reaction (history s actions).app a).filterMap_pollingWork
      Effect.isPolling_of_fetch?
    rw [history_concat, polling_step, step, List.filterMap_append, hwork]
    exact (Polling.react_step (sound_history s actions) _ _).numbered_fetches ih

theorem numbered_timers (s : Settings.Resolved) (actions : List Action) :
    Numbered ((history s actions).emitted.filterMap Effect.timer?)
      (history s actions).app.polling.lastTimer := by
  induction actions using List.reverseRecOn with
  | nil => exact Numbered.nil
  | append_singleton actions a ih =>
    have hwork := (update_reaction (history s actions).app a).filterMap_pollingWork
      Effect.isPolling_of_timer?
    rw [history_concat, polling_step, step, List.filterMap_append, hwork]
    exact (Polling.react_step (sound_history s actions) _ _).numbered_timers ih

theorem chain_step (hp : h.app.polling.Sound) (hc : h.app.polling.Chain h.fetches h.timers)
    (hrule : AnswersPolling h a) :
    (h.step a).app.polling.Chain (h.step a).fetches (h.step a).timers := by
  have hpending : ∀ g, (h.app.pollingEvent a).landed? = some g → g ∈ h.fetches := by
    intro g hg
    rw [landed?_pollingEvent] at hg
    exact hrule.1 g hg
  rw [polling_step, fetches_step, timers_step, ← landed?_pollingEvent h.app a,
    ← fired?_pollingEvent h.app a]
  exact (Polling.react_step hp _ _).chain hc hpending

/-- Polling has stopped only after a failure, and only under the manual policy. -/
def NeverStalls (h : History) : Prop :=
  h.app.polling.inFlight = none → h.app.polling.armed = none →
    h.app.reconnect = .manual ∧ h.app.connection.isDisconnected = true

theorem accepted?_of_idle {app : App} (hidle : app.polling.inFlight = none) (a : Action) :
    app.accepted? a = none := by
  cases a <;> simp [App.accepted?, hidle]

theorem neverStalls_step (hp : h.app.polling.Sound) (hn : h.NeverStalls) (a : Action) :
    (h.step a).NeverStalls := by
  intro hidle harmed
  have hr := update_reaction h.app a
  have hpolicy : (h.step a).app.reconnect = h.app.reconnect := hr.reconnect
  have hconnection : (h.step a).app.connection =
      ((h.app.accepted? a).map fun o => .ofOutcome o.2).getD h.app.connection := hr.connection
  rw [polling_step] at hidle harmed
  rw [hpolicy, hconnection]
  rcases (Polling.react_step hp _ _).stopped hidle harmed with ⟨hidle', harmed'⟩ | ⟨g, hg, hevent⟩
  · -- nothing was in flight: the connection is what it was
    rw [accepted?_of_idle hidle']
    exact hn hidle' harmed'
  · obtain ⟨⟨reason, rfl⟩, hmanual⟩ := eq_error_of_pollingEvent hevent
    exact ⟨hmanual, by simp [App.accepted?, hg, Connection.ofOutcome, Connection.isDisconnected]⟩

/-- After `start` the chain is alive, and it stays so while outcomes only answer pending work. -/
theorem chain_of_start (s : Settings.Resolved) (actions : List Action)
    (hanswers : (start s).Admits AnswersPolling (.start :: actions)) :
    (history s (.start :: actions)).app.polling.Chain (history s (.start :: actions)).fetches
        (history s (.start :: actions)).timers ∧
      (history s (.start :: actions)).NeverStalls := by
  obtain ⟨hstart, hrest⟩ := admits_cons.1 hanswers
  have hsound : (start s).app.polling.Sound := sound_history s []
  have hchain := chain_step hsound ⟨rfl, nofun⟩ hstart
  have hstalls : ((start s).step .start).NeverStalls := fun hidle _ => by cases hidle
  have hkept := run_induction
    (fun h => h.app.polling.Sound ∧ h.app.polling.Chain h.fetches h.timers ∧ h.NeverStalls)
    (fun h a hrule ⟨hp, hc, hn⟩ =>
      ⟨sound_step hp a, chain_step hp hc hrule, neverStalls_step hp hn a⟩)
    ⟨sound_step hsound .start, hchain, hstalls⟩ hrest
  exact hkept.2

end History

/-- **Exactly one polling chain.** In a run that begins with `start`, and in which snapshots and
timers only answer pending work:

* the pending ticks are the tick in flight, if there is one;
* a tick in flight and an armed timer never coexist; the armed timer is pending, no two pending
  timers are the same, and firing one that is not armed does nothing;
* with neither a tick nor a timer the policy is manual and the last tick failed. -/
theorem one_polling_chain (s : Settings.Resolved) (actions : List Action)
    (hanswers : (History.start s).Admits AnswersPolling (.start :: actions))
    (htimers : ((history s (.start :: actions)).emitted.filterMap Effect.timer?).length <
      UInt64.size) :
    let h := history s (.start :: actions)
    h.fetches = h.app.polling.inFlight.toList ∧
      (∀ g, h.app.polling.inFlight = some g → h.app.polling.armed = none) ∧
      (∀ t, h.app.polling.armed = some t → t ∈ h.timers) ∧
      h.timers.Nodup ∧
      (∀ t ∈ h.timers, h.app.polling.armed ≠ some t →
        update h.app (.timerFired t) = (h.app, [])) ∧
      (h.app.polling.inFlight = none → h.app.polling.armed = none →
        h.app.reconnect = .manual ∧ h.app.connection.isDisconnected = true) := by
  intro h
  have hsound : h.app.polling.Sound := History.sound_history s _
  have hkept : h.app.polling.Chain h.fetches h.timers ∧ h.NeverStalls :=
    History.chain_of_start s actions hanswers
  obtain ⟨⟨hfetches, harmed⟩, hstalls⟩ := hkept
  have hnodup : h.timers.Nodup := by
    have hsub : h.timers.Sublist (h.emitted.filterMap Effect.timer?) :=
      (History.pending_sublist_emitted s _).filterMap _
    exact hsub.nodup ((History.numbered_timers s _).nodup htimers)
  refine ⟨hfetches, hsound.exclusive, harmed, hnodup, fun t _ hne => ?_, hstalls⟩
  simp [update, Polling.fire?, hne]

/-- A refresh during the pause overtakes the armed timer, which then fires in vain. -/
theorem stale_timer_after_refresh :
    let h := history {} [.start, .snapshotLoaded 1 (.ok {}), .refresh]
    h.fetches = [2] ∧ h.timers = [1] ∧ update h.app (.timerFired 1) = (h.app, []) := by
  intro h
  have hchain := one_polling_chain {} [.snapshotLoaded 1 (.ok {}), .refresh] (by decide) (by decide)
  obtain ⟨hfetches, -, -, -, hstale, -⟩ := hchain
  exact ⟨hfetches, by decide, hstale 1 (by decide) (by decide)⟩

end GossipPanel.Panel
