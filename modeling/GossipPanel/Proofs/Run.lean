import GossipPanel.Panel.Update
import GossipPanel.Settings.Basic
import Mathlib.Data.List.Induction

/-!
# Runs of the panel

A run applies `update` to one action after the other. A `History` is the panel at some moment of a
run, with the work that it has asked for so far and the part of that work which is unanswered.

* `Effect.fetch?`, `Action.landed?` and their like: the numbers of the work of one kind, and of the
  outcomes that report on it; `Action.answers` says which outcome reports on which work.
* `History.run`, `History.moments`: the end of a run, and the moments at which its actions come.
* `History.Admits rule`: every action of a run keeps to `rule` at its moment. The rules say which
  outcomes may arrive; they are what the world outside the panel promises.
* `History.run_induction`: what every admitted action keeps, every admitted run keeps.
* `Reports`: for one kind of work, the pending part after an action (`filterMap_pending_step`).
-/

namespace GossipPanel.Panel

open Node

/-! ## Work and its outcomes -/

namespace Effect

def fetch? : Effect → Option UInt64
  | fetchSnapshot generation => some generation
  | _ => none

def timer? : Effect → Option UInt64
  | scheduleTick timer _ => some timer
  | _ => none

def schedule? : Effect → Option (UInt64 × UInt64)
  | scheduleTick timer delay => some (timer, delay)
  | _ => none

def refresh? : Effect → Option (String × Ticket)
  | refreshTab peer ticket => some (peer, ticket)
  | _ => none

theorem mem_filterMap_fetch {g : UInt64} {effects : List Effect} :
    g ∈ effects.filterMap fetch? ↔ fetchSnapshot g ∈ effects := by
  rw [List.mem_filterMap]
  constructor
  · rintro ⟨e, he, hg⟩
    cases e <;> cases hg
    exact he
  · exact fun he => ⟨_, he, rfl⟩

end Effect

namespace Action

def landed? : Action → Option UInt64
  | snapshotLoaded generation _ => some generation
  | _ => none

def fired? : Action → Option UInt64
  | timerFired timer => some timer
  | _ => none

def refreshed? : Action → Option (String × Ticket)
  | privateMessagesLoaded peer ticket _ => some (peer, ticket)
  | _ => none

/-- The action reports the outcome of the work. -/
def answers : Action → Effect → Bool
  | snapshotLoaded g _, .fetchSnapshot g' => g == g'
  | timerFired t, .scheduleTick t' _ => t == t'
  | privateMessagesLoaded p k _, .refreshTab p' k' => p == p' && k == k'
  | searchFinished s _, .startSearch s' _ => s == s'
  | commandFinished c _, .run c' => c == c'
  | _, _ => false

end Action

/-! ## Histories -/

/-- The panel at a moment of a run. -/
structure History where
  app : App
  /-- All work asked for so far, oldest first. -/
  emitted : List Effect := []
  /-- The work that no action has answered. -/
  pending : List Effect := []

namespace History

def step (h : History) (a : Action) : History :=
  { app := (update h.app a).1
    emitted := h.emitted ++ (update h.app a).2
    pending := h.pending.eraseP a.answers ++ (update h.app a).2 }

/-- The moment at the end of a run. -/
def run (h : History) (actions : List Action) : History :=
  actions.foldl step h

/-- The actions of a run, each with the moment at which it comes. -/
def moments (h : History) : List Action → List (History × Action)
  | [] => []
  | a :: actions => (h, a) :: (h.step a).moments actions

/-- Every action of a run keeps to a rule at its moment. -/
def Admits (rule : History → Action → Prop) (h : History) (actions : List Action) : Prop :=
  ∀ m ∈ h.moments actions, rule m.1 m.2

instance (rule : History → Action → Prop) [∀ h a, Decidable (rule h a)] (h : History)
    (actions : List Action) : Decidable (h.Admits rule actions) :=
  inferInstanceAs (Decidable (∀ m ∈ h.moments actions, rule m.1 m.2))

def fetches (h : History) : List UInt64 :=
  h.pending.filterMap Effect.fetch?

def timers (h : History) : List UInt64 :=
  h.pending.filterMap Effect.timer?

def refreshes (h : History) : List (String × Ticket) :=
  h.pending.filterMap Effect.refresh?

/-- The panel at its start, when nothing has been asked for. -/
def start (s : Settings.Resolved) : History :=
  { app := Settings.initialApp s }

end History

/-- The moment after a run from the start. -/
def history (s : Settings.Resolved) (actions : List Action) : History :=
  (History.start s).run actions

namespace History

variable {h : History} {actions : List Action} {a : Action} {rule : History → Action → Prop}

@[simp]
theorem run_nil (h : History) : h.run [] = h := rfl

@[simp]
theorem run_cons (h : History) (a : Action) (actions : List Action) :
    h.run (a :: actions) = (h.step a).run actions := rfl

theorem run_append (h : History) (actions later : List Action) :
    h.run (actions ++ later) = (h.run actions).run later := by
  simp [run]

theorem run_concat (h : History) (actions : List Action) (a : Action) :
    h.run (actions ++ [a]) = (h.run actions).step a := by
  simp [run]

theorem moments_append (h : History) (actions later : List Action) :
    h.moments (actions ++ later) = h.moments actions ++ (h.run actions).moments later := by
  induction actions generalizing h with
  | nil => rfl
  | cons b actions ih => simp [moments, ih]

theorem moments_concat (h : History) (actions : List Action) (a : Action) :
    h.moments (actions ++ [a]) = h.moments actions ++ [(h.run actions, a)] :=
  moments_append h actions [a]

theorem admits_cons :
    h.Admits rule (a :: actions) ↔ rule h a ∧ (h.step a).Admits rule actions := by
  simp [Admits, moments]

theorem admits_append {later : List Action} :
    h.Admits rule (actions ++ later) ↔
      h.Admits rule actions ∧ (h.run actions).Admits rule later := by
  simp only [Admits, moments_append, List.mem_append]
  constructor
  · exact fun hall => ⟨fun m hm => hall m (.inl hm), fun m hm => hall m (.inr hm)⟩
  · rintro ⟨hall, hlater⟩ m (hm | hm)
    · exact hall m hm
    · exact hlater m hm

theorem admits_concat :
    h.Admits rule (actions ++ [a]) ↔ h.Admits rule actions ∧ rule (h.run actions) a := by
  rw [admits_append]
  simp [Admits, moments]

theorem run_induction (Inv : History → Prop)
    (hstep : ∀ h a, rule h a → Inv h → Inv (h.step a)) (h0 : Inv h)
    (hrun : h.Admits rule actions) : Inv (h.run actions) := by
  induction actions generalizing h with
  | nil => exact h0
  | cons a actions ih =>
    obtain ⟨ha, hrest⟩ := admits_cons.1 hrun
    exact ih (hstep h a ha h0) hrest

theorem run_invariant (Inv : History → Prop) (hstep : ∀ h a, Inv h → Inv (h.step a))
    (h0 : Inv h) (actions : List Action) : Inv (h.run actions) := by
  have hall : h.Admits (fun _ _ => True) actions := fun _ _ => trivial
  exact run_induction Inv (fun h a _ => hstep h a) h0 hall

theorem mem_emitted_run {e : Effect} (he : e ∈ h.emitted) (actions : List Action) :
    e ∈ (h.run actions).emitted :=
  run_invariant (fun h => e ∈ h.emitted) (fun _ _ he => List.mem_append_left _ he) he actions

theorem pending_sublist_emitted (s : Settings.Resolved) (actions : List Action) :
    (history s actions).pending.Sublist (history s actions).emitted := by
  refine run_invariant (fun h => h.pending.Sublist h.emitted) ?_ (List.Sublist.refl _) actions
  intro h a hsub
  exact (List.eraseP_sublist.trans hsub).append (List.Sublist.refl _)

end History

theorem History.run_start (s : Settings.Resolved) (actions : List Action) :
    (start s).run actions = history s actions := rfl

theorem history_concat (s : Settings.Resolved) (actions : List Action) (a : Action) :
    history s (actions ++ [a]) = (history s actions).step a :=
  History.run_concat _ _ _

theorem history_append (s : Settings.Resolved) (actions later : List Action) :
    history s (actions ++ later) = (history s actions).run later :=
  History.run_append _ _ _

/-! ## The pending work of one kind -/

variable {β : Type} [BEq β] {work : Effect → Option β} {outcome : Action → Option β}

/-- The list without the first occurrence of what has been answered, if anything has. -/
def eraseAnswered (l : List β) : Option β → List β
  | none => l
  | some b => l.erase b

@[simp] theorem eraseAnswered_none (l : List β) : eraseAnswered l none = l := rfl
@[simp] theorem eraseAnswered_some (l : List β) (b : β) :
    eraseAnswered l (some b) = l.erase b := rfl

/-- The outcomes of one kind are the answers to the work of one kind. -/
structure Reports (work : Effect → Option β) (outcome : Action → Option β) : Prop where
  answers_iff : ∀ {a e b}, work e = some b → (a.answers e = true ↔ outcome a = some b)
  work_of_answers : ∀ {a e b}, outcome a = some b → a.answers e = true → work e = some b

variable [LawfulBEq β]

theorem Reports.filterMap_eraseP (hr : Reports work outcome) (a : Action) (l : List Effect) :
    (l.eraseP a.answers).filterMap work = eraseAnswered (l.filterMap work) (outcome a) := by
  induction l with
  | nil => cases outcome a <;> simp
  | cons e l ih =>
    by_cases hae : a.answers e = true
    · -- `e` is the first answered work: it goes, and so does its number if it is of this kind
      rw [List.eraseP_cons_of_pos hae]
      cases hw : work e with
      | none =>
        cases ho : outcome a with
        | none => simp [hw]
        | some b => simp [hr.work_of_answers ho hae] at hw
      | some b => simp [hw, (hr.answers_iff hw).1 hae]
    · rw [List.eraseP_cons_of_neg hae]
      cases hw : work e with
      | none => simpa [hw] using ih
      | some b =>
        have hne : outcome a ≠ some b := fun ho => hae ((hr.answers_iff hw).2 ho)
        rw [List.filterMap_cons_some hw, List.filterMap_cons_some hw, ih]
        cases ho : outcome a with
        | none => rfl
        | some c =>
          have hbc : ¬ (b == c) = true := fun hbc => hne (by rw [ho, eq_of_beq hbc])
          simp [List.erase_cons_tail hbc]

/-- An action takes away the pending work that it answers and adds what it asks for. -/
theorem Reports.filterMap_pending_step (hr : Reports work outcome) (h : History) (a : Action) :
    (h.step a).pending.filterMap work =
      eraseAnswered (h.pending.filterMap work) (outcome a) ++
        (update h.app a).2.filterMap work := by
  simp [History.step, hr.filterMap_eraseP]

theorem fetch_reports : Reports Effect.fetch? Action.landed? where
  answers_iff {a e b} hw := by
    cases e <;> cases hw
    cases a <;> simp [Action.answers, Action.landed?]
  work_of_answers {a e b} ho hae := by
    cases a <;> cases ho
    cases e <;> simp_all [Action.answers, Effect.fetch?]

theorem timer_reports : Reports Effect.timer? Action.fired? where
  answers_iff {a e b} hw := by
    cases e <;> cases hw
    cases a <;> simp [Action.answers, Action.fired?]
  work_of_answers {a e b} ho hae := by
    cases a <;> cases ho
    cases e <;> simp_all [Action.answers, Effect.timer?]

theorem refresh_reports : Reports Effect.refresh? Action.refreshed? where
  answers_iff {a e b} hw := by
    cases e <;> cases hw
    cases a <;> simp [Action.answers, Action.refreshed?, Prod.ext_iff]
  work_of_answers {a e b} ho hae := by
    cases a <;> cases ho
    cases e <;> simp_all [Action.answers, Effect.refresh?]

end GossipPanel.Panel
