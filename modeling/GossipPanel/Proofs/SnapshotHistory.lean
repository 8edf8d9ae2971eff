import GossipPanel.Proofs.PollingChain

/-!
# Where the snapshot comes from

The snapshot on show is one that the node sent as a whole, and the latest that was accepted.

* `History.accepted`: the outcomes of ticks that a run has accepted, oldest first.
* `Polling.Step.accepted_sublist`: a tick is accepted at most once, and no older one after it.
* `snapshot_of_last_accepted`: snapshot and connection are those of the last accepted outcomes.
-/

namespace GossipPanel.Panel

open Node

/-- The outcomes of ticks that a run accepts, oldest first, each with its generation. -/
def History.accepted (h : History) (actions : List Action) :
    List (UInt64 × Except String Snapshot) :=
  (h.moments actions).filterMap fun m => m.1.app.accepted? m.2

theorem History.accepted_concat (s : Settings.Resolved) (actions : List Action) (a : Action) :
    (start s).accepted (actions ++ [a]) =
      (start s).accepted actions ++ ((history s actions).app.accepted? a).toList := by
  cases ho : (history s actions).app.accepted? a <;>
    simp [accepted, moments_concat, run_start, ho]

/-! ## Generations are accepted in the order of the ticks -/

/-- The generation that an event makes the chain accept. -/
def Polling.acceptedBy (p : Polling) (event : PollingEvent) : Option UInt64 :=
  if event.landed? = p.inFlight then p.inFlight else none

theorem Polling.acceptedBy_of_not_landed {p : Polling} {event : PollingEvent}
    (h : event.landed? = none) : p.acceptedBy event = none := by
  rw [acceptedBy, h]
  split
  · rename_i hidle
    exact hidle.symm
  · rfl

theorem map_accepted? (app : App) (a : Action) :
    (app.accepted? a).map Prod.fst = app.polling.acceptedBy (app.pollingEvent a) := by
  by_cases ha : a.landed? = none
  · rw [Polling.acceptedBy_of_not_landed ((landed?_pollingEvent app a).trans ha)]
    cases a <;> first | rfl | cases ha
  · rw [Polling.acceptedBy, landed?_pollingEvent]
    cases a <;> first | exact absurd rfl ha | skip
    rename_i g result
    by_cases hg : app.polling.inFlight = some g
    · simp [App.accepted?, Action.landed?, hg]
    · simp [App.accepted?, Action.landed?, hg, Ne.symm hg]

namespace Polling

variable {p : Polling} {interval : UInt64} {event : PollingEvent} {r : Polling × List Effect}

theorem Step.accepted_sublist {accepted began : List UInt64} (hs : Step interval p event r)
    (h : (accepted ++ p.inFlight.toList).Sublist began) :
    (accepted ++ (p.acceptedBy event).toList ++ r.1.inFlight.toList).Sublist
      (began ++ r.2.filterMap Effect.fetch?) := by
  -- without an accepted outcome the list of accepted ticks stays as it is
  have hnone : event.landed? = none → accepted ++ (p.acceptedBy event).toList = accepted := by
    intro hlanded
    rw [acceptedBy_of_not_landed hlanded, Option.toList_none, List.append_nil]
  have hsome : event.landed? = p.inFlight →
      (accepted ++ (p.acceptedBy event).toList).Sublist began := by
    intro hlanded
    rw [acceptedBy, if_pos hlanded]
    exact h
  cases hs with
  | unrelated => rw [hnone rfl]; simpa using h
  | staleTimer => rw [hnone rfl]; simpa using h
  | staleOutcome hne =>
    rw [acceptedBy, PollingEvent.landed?, if_neg (Ne.symm hne)]
    simpa using h
  | remember => rw [hnone rfl]; simpa using h
  | begin hidle =>
    rw [hidle, Option.toList_none, List.append_nil] at h
    rw [hnone rfl]
    exact h.append (List.Sublist.refl _)
  | fire hidle =>
    rw [hidle, Option.toList_none, List.append_nil] at h
    rw [hnone rfl]
    exact h.append (List.Sublist.refl _)
  | again hg => exact (hsome hg.symm).append (List.Sublist.refl _)
  | rest hg => simpa [Polling.rest, List.filterMap_cons, Effect.fetch?] using hsome hg.symm
  | stop hg => simpa using hsome hg.symm

end Polling

theorem History.accepted_sublist (s : Settings.Resolved) (actions : List Action) :
    (((start s).accepted actions).map Prod.fst ++
        (history s actions).app.polling.inFlight.toList).Sublist
      ((history s actions).emitted.filterMap Effect.fetch?) := by
  induction actions using List.reverseRecOn with
  | nil => exact List.Sublist.refl _
  | append_singleton actions a ih =>
    have hp := sound_history s actions
    have hwork := (update_reaction (history s actions).app a).filterMap_pollingWork
      Effect.isPolling_of_fetch?
    have hmap : ((start s).accepted (actions ++ [a])).map Prod.fst =
        ((start s).accepted actions).map Prod.fst ++
          ((history s actions).app.polling.acceptedBy
            ((history s actions).app.pollingEvent a)).toList := by
      rw [accepted_concat, List.map_append, ← map_accepted?, Option.toList_map]
    rw [hmap, history_concat, polling_step, step, List.filterMap_append, hwork]
    exact (Polling.react_step hp _ _).accepted_sublist ih

/-! ## The snapshot on show -/

theorem History.snapshot_history (s : Settings.Resolved) (actions : List Action) :
    (history s actions).app.snapshot =
      ((((start s).accepted actions).filterMap fun o => o.2.toOption).getLast?).getD {} := by
  induction actions using List.reverseRecOn with
  | nil => rfl
  | append_singleton actions a ih =>
    rw [history_concat, step, (update_reaction _ a).snapshot, ih, accepted_concat,
      List.filterMap_append]
    cases (history s actions).app.accepted? a with
    | none => simp
    | some outcome =>
      obtain ⟨g, result⟩ := outcome
      cases result <;> simp [Except.toOption]

theorem History.connection_history (s : Settings.Resolved) (actions : List Action) :
    (history s actions).app.connection =
      ((((start s).accepted actions).getLast?).map fun o => .ofOutcome o.2).getD .connecting := by
  induction actions using List.reverseRecOn with
  | nil => rfl
  | append_singleton actions a ih =>
    rw [history_concat, step, (update_reaction _ a).connection, ih, accepted_concat]
    cases (history s actions).app.accepted? a <;> simp

/-- **The snapshot is the last accepted one.** After any run, whatever outcomes have arrived:

* the identity, the peers, the messages and the routes are together those of the last snapshot
  that was accepted, and empty before the first;
* the connection is that of the last accepted outcome, and `connecting` before the first;
* the accepted outcomes belong to different ticks, in the order in which these began, so their
  generations increase while the counter has not wrapped around. -/
theorem snapshot_of_last_accepted (s : Settings.Resolved) (actions : List Action) :
    let h := history s actions
    let outcomes := (History.start s).accepted actions
    h.app.snapshot = ((outcomes.filterMap fun o => o.2.toOption).getLast?).getD {} ∧
      h.app.connection =
        (match outcomes.getLast? with
        | none => .connecting
        | some (_, .ok _) => .connected
        | some (_, .error reason) => .disconnected reason) ∧
      (outcomes.map Prod.fst).Sublist (h.emitted.filterMap Effect.fetch?) ∧
      ((h.emitted.filterMap Effect.fetch?).length < UInt64.size →
        (outcomes.map Prod.fst).Pairwise (· < ·)) := by
  intro h outcomes
  have hsub : (outcomes.map Prod.fst).Sublist (h.emitted.filterMap Effect.fetch?) :=
    (List.sublist_append_left _ _).trans (History.accepted_sublist s actions)
  refine ⟨History.snapshot_history s actions, ?_, hsub, fun hticks => ?_⟩
  · rw [History.connection_history]
    show (Option.map _ outcomes.getLast?).getD _ = _
    rcases outcomes.getLast? with - | ⟨g, result⟩
    · rfl
    · cases result <;> rfl
  · exact ((History.numbered_fetches s actions).pairwise_lt hticks).sublist hsub

end GossipPanel.Panel
