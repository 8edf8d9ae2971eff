import GossipPanel.Proofs.Reaction

/-!
# Stale completions

Whatever the panel asks for is answered under a token, and only the token that counts at that
moment is heard.

* `App.isStale`: the action reports under a token that does not count (any more).
* `App.update_of_isStale`: it changes nothing and asks for nothing, whatever it carries.
* `PaddedRun`: a run in which some of the actions are marked as inserted.
* `stale_completions_invisible`: runs that differ by stale insertions end in the same state, and
  their other actions ask for the same.
-/

namespace GossipPanel.Panel

open Node

/-- The action reports on work whose token does not count: another timer than the armed one, a
tick that is not in flight, a refresh that is not the latest of an open tab of the peer, or a
search that is not the current one. -/
def App.isStale (app : App) : Action → Bool
  | .timerFired t => app.polling.armed != some t
  | .snapshotLoaded g _ => app.polling.inFlight != some g
  | .privateMessagesLoaded peer ticket _ =>
    app.conversations.tabs.all fun c =>
      !(c.peer == peer && c.ordinal == ticket.tab && c.generation == ticket.generation)
  | .searchChunk id _ | .searchFinished id _ => app.search.session.all (·.id != id)
  | _ => false

/-! ## One stale completion -/

theorem Conversations.isCurrent_eq_false {cs : Conversations} {peer : String} {ticket : Ticket}
    (h : ∀ c ∈ cs.tabs, c.peer = peer → c.ordinal = ticket.tab → c.generation ≠ ticket.generation) :
    cs.isCurrent peer ticket = false := by
  cases hget : cs.get? peer with
  | none => simp [isCurrent, hget]
  | some c =>
    obtain ⟨hc, hpeer⟩ := mem_of_get? hget
    have hne : c.ticket ≠ ticket := by
      rintro rfl
      exact h c hc hpeer rfl rfl
    simp [isCurrent, hget, hne]

theorem Search.modify?_eq_none {s : Search} {id : UInt64} (h : s.session.all (·.id != id) = true)
    (f : Session → Session) : s.modify? id f = none := by
  cases hs : s.session with
  | none => simp [modify?, current?, hs]
  | some session =>
    have hne : session.id ≠ id := by simpa [hs] using h
    simp [modify?, current?, hs, hne]

namespace App

variable {app : App}

theorem searchFinished_of_stale {id : UInt64}
    (h : app.search.session.all (·.id != id) = true) (result : Except String Unit) :
    app.searchFinished id result = app := by
  have hnone := Search.modify?_eq_none h
  cases result <;> simp [searchFinished, Search.complete?, Search.fail?, hnone]

theorem update_of_isStale {a : Action} (h : app.isStale a = true) : update app a = (app, []) := by
  cases a with
  | timerFired t =>
    have hne : app.polling.armed ≠ some t := by simpa [isStale] using h
    simp [update, Polling.fire?, hne]
  | snapshotLoaded g result =>
    have hne : app.polling.inFlight ≠ some g := by simpa [isStale] using h
    rw [update, snapshotLoaded_of_stale app hne]
  | privateMessagesLoaded peer ticket result =>
    have hcur : app.conversations.isCurrent peer ticket = false := by
      apply Conversations.isCurrent_eq_false
      intro c hc hpeer hordinal hgeneration
      have hno := List.all_eq_true.1 h c hc
      simp [hpeer, hordinal, hgeneration] at hno
    rw [update, privateMessagesLoaded_of_stale app hcur]
  | searchChunk id chunk =>
    have hnone : ∀ f, app.search.modify? id f = none := Search.modify?_eq_none h
    simp [update, searchChunk, Search.push?, hnone]
  | searchFinished id result => rw [update, searchFinished_of_stale h]
  | _ => cases h

end App

/-! ## Runs with insertions -/

/-- The actions of a run, each with a mark that tells whether it has been inserted. -/
abbrev PaddedRun := List (Action × Bool)

namespace PaddedRun

def actions (run : PaddedRun) : List Action :=
  run.map Prod.fst

/-- The run without what has been inserted. -/
def kept (run : PaddedRun) : List Action :=
  (run.filter (!·.2)).map Prod.fst

/-- The run in which nothing has been inserted. -/
def ofActions (actions : List Action) : PaddedRun :=
  actions.map (·, false)

end PaddedRun

namespace History

/-- What each action of a run asks for. -/
def work (h : History) (actions : List Action) : List (List Effect) :=
  (h.moments actions).map fun m => (update m.1.app m.2).2

/-- The moments of a run, each with the mark of its action. -/
def markedMoments (h : History) : PaddedRun → List ((History × Action) × Bool)
  | [] => []
  | (a, inserted) :: run => ((h, a), inserted) :: (h.step a).markedMoments run

/-- Everything that has been inserted is stale when it comes. -/
def PadsStale (h : History) (run : PaddedRun) : Prop :=
  ∀ m ∈ h.markedMoments run, m.2 = true → m.1.1.app.isStale m.1.2 = true

instance (h : History) (run : PaddedRun) : Decidable (h.PadsStale run) :=
  inferInstanceAs (Decidable (∀ m ∈ h.markedMoments run, m.2 = true → _))

/-- What each action asks for that has not been inserted. -/
def keptWork (h : History) (run : PaddedRun) : List (List Effect) :=
  ((h.markedMoments run).filter (!·.2)).map fun m => (update m.1.1.app m.1.2).2

variable {h h' : History} {run : PaddedRun} {a : Action} {inserted : Bool}

theorem padsStale_cons :
    h.PadsStale ((a, inserted) :: run) ↔
      (inserted = true → h.app.isStale a = true) ∧ (h.step a).PadsStale run := by
  simp [PadsStale, markedMoments]

theorem app_step_of_isStale (ha : h.app.isStale a = true) : (h.step a).app = h.app := by
  rw [step, App.update_of_isStale ha]

/-- A run with stale insertions does what the run without them does. What is pending may differ,
since a stale completion may be the answer to some work. -/
theorem run_of_padsStale (hpads : h.PadsStale run) (happ : h.app = h'.app) :
    (h.run run.actions).app = (h'.run run.kept).app ∧ h.keptWork run = h'.work run.kept := by
  induction run generalizing h h' with
  | nil => exact ⟨happ, rfl⟩
  | cons entry run ih =>
    obtain ⟨a, inserted⟩ := entry
    obtain ⟨ha, hrest⟩ := padsStale_cons.1 hpads
    cases inserted with
    | true => exact ih hrest ((app_step_of_isStale (ha rfl)).trans happ)
    | false =>
      have hstep : (h.step a).app = (h'.step a).app := by rw [step, step, happ]
      obtain ⟨hend, hwork⟩ := ih hrest hstep
      have hfirst : (update h.app a).2 = (update h'.app a).2 := by rw [happ]
      exact ⟨hend, congrArg₂ List.cons hfirst hwork⟩

end History

/-- **Stale completions are invisible.** At every moment:

* a completion whose token does not count changes nothing at all and asks for nothing;
* two runs from there that are the same but for stale completions inserted into them end in the
  same state, and each of their common actions asks for the same in both. -/
theorem stale_completions_invisible (h : History) :
    (∀ a, h.app.isStale a = true → update h.app a = (h.app, [])) ∧
      ∀ run₁ run₂ : PaddedRun, h.PadsStale run₁ → h.PadsStale run₂ → run₁.kept = run₂.kept →
        (h.run run₁.actions).app = (h.run run₂.actions).app ∧
          h.keptWork run₁ = h.keptWork run₂ := by
  refine ⟨fun a => App.update_of_isStale, fun run₁ run₂ hpads₁ hpads₂ hkept => ?_⟩
  obtain ⟨hend₁, hwork₁⟩ := History.run_of_padsStale hpads₁ (rfl : h.app = h.app)
  obtain ⟨hend₂, hwork₂⟩ := History.run_of_padsStale hpads₂ (rfl : h.app = h.app)
  constructor
  · rw [hend₁, hend₂, hkept]
  · rw [hwork₁, hwork₂, hkept]

/-- After a refresh overtook the armed timer and a new search replaced the first, what still comes
from the old ones is not seen. -/
theorem late_completions_after_refresh :
    let h := history {} [.start, .snapshotLoaded 1 (.ok {}), .startSearch "a" 0, .refresh,
      .startSearch "b" 0]
    let late : PaddedRun := [(.timerFired 1, true), (.snapshotLoaded 1 (.error "gone"), true),
      (.searchChunk 2 "x", false), (.searchFinished 1 (.ok ()), true),
      (.snapshotLoaded 2 (.ok {}), false)]
    (h.run late.actions).app =
        (h.run [.searchChunk 2 "x", .snapshotLoaded 2 (.ok {})]).app ∧
      h.keptWork late = [[], [.scheduleTick 2 1000]] := by
  intro h late
  have hpads : h.PadsStale late := by decide
  have hplain : h.PadsStale (.ofActions late.kept) := by decide
  have hsame := (stale_completions_invisible h).2 late (.ofActions late.kept) hpads hplain rfl
  obtain ⟨hend, hwork⟩ := hsame
  exact ⟨hend, hwork.trans (by decide)⟩

end GossipPanel.Panel
