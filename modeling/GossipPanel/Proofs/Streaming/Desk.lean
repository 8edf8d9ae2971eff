import GossipPanel.Proofs.PollingChain
import GossipPanel.Proofs.SearchReaction
import GossipPanel.Proofs.Streaming.Task

/-!
# Searches at work beside the panel

The panel takes the actions of its user at once. What its jobs report waits in a queue, and the
panel takes one report after the other. Every search is a task that goes on step by step; a later
search cancels the task of the one before, which may still go on for a while until it disappears.

* `Desk`, `Desk.move`: the panel, its queue and its tasks, and everything that can happen next. A
  move that cannot be made changes nothing, so every list of moves is an interleaving.
* `Desk.account`: all the reports of a search, taken, waiting or still to come.
* `Delivery`: nothing of the account of the current search is ever lost, and of the others only
  what was still to come; the session of the panel has heard what it has taken for it.
* `delivery_run`: this holds along every run, as long as the number of searches does not wrap.
-/

namespace GossipPanel.Work

open Node Panel Text

/-- The panel with the searches that it has started. -/
structure Desk where
  app : App
  /-- Reports that the panel has not taken yet, oldest first. -/
  queue : List Action := []
  tasks : UInt64 → Option SearchTask := fun _ => none
  /-- The searches that have been started, oldest first. -/
  searches : List (UInt64 × SearchQuery) := []
  /-- The reports that the panel has taken, oldest first. -/
  taken : List Action := []

/-- What can happen at a desk. The user and the other jobs report nothing of a search. -/
inductive Desk.Move where
  /-- The user does something. -/
  | act (a : Action)
  /-- Another job reports. -/
  | post (a : Action)
  /-- The panel takes the oldest report. -/
  | take
  | read (session : UInt64)
  | forward (session : UInt64)
  | finish (session : UInt64)
  /-- The task of a search disappears that has been cancelled. -/
  | drop (session : UInt64)

/-- The reports of one search. -/
def reports (session : UInt64) (actions : List Action) : List Action :=
  actions.filter (·.session? == some session)

namespace Desk

/-- The search that no later one has cancelled. -/
def current? (d : Desk) : Option UInt64 :=
  d.searches.getLast?.map Prod.fst

def setTask (d : Desk) (session : UInt64) (t : Option SearchTask) : Desk :=
  { d with tasks := Function.update d.tasks session t }

/-- Starts the task of a search; `node` holds what the node answers. -/
def beginSearch (node : UInt64 → Body) (d : Desk) (search : UInt64 × SearchQuery) : Desk :=
  { d.setTask search.1 (some (.begin (node search.1))) with searches := d.searches ++ [search] }

/-- Applies an action and starts the searches that it asks for. -/
def dispatch (node : UInt64 → Body) (d : Desk) (a : Action) : Desk :=
  ((update d.app a).2.filterMap Effect.search?).foldl (beginSearch node)
    { d with app := (update d.app a).1 }

def move (node : UInt64 → Body) (d : Desk) : Move → Desk
  | .act a => if a.session?.isNone then d.dispatch node a else d
  | .post a => if a.session?.isNone then { d with queue := d.queue ++ [a] } else d
  | .take =>
    match d.queue with
    | [] => d
    | a :: queue => { d with queue, taken := d.taken ++ [a] }.dispatch node a
  | .read session =>
    match d.tasks session with
    | none => d
    | some t => d.setTask session (some t.readOn)
  | .forward session =>
    match (d.tasks session).bind (·.forward? session) with
    | none => d
    | some (a, t) => { d.setTask session (some t) with queue := d.queue ++ [a] }
  | .finish session =>
    match (d.tasks session).bind (·.finish? session) with
    | none => d
    | some a => { d.setTask session none with queue := d.queue ++ [a] }
  | .drop session => if d.current? = some session then d else d.setTask session none

def run (node : UInt64 → Body) (d : Desk) (moves : List Move) : Desk :=
  moves.foldl (move node) d

/-- The panel at its start. -/
def start (s : Settings.Resolved) : Desk :=
  { app := Settings.initialApp s }

/-- The reports of a search that the task has still to make. -/
def toCome (d : Desk) (session : UInt64) : List Action :=
  (d.tasks session).elim [] (SearchTask.remaining session)

/-- All the reports of a search: those taken, those that wait, and those still to come. -/
def account (d : Desk) (session : UInt64) : List Action :=
  reports session d.taken ++ (reports session d.queue ++ d.toCome session)

end Desk

/-- All the reports of a search whose answer is `body`. -/
def fullAccount (session : UInt64) (body : Body) : List Action :=
  searchActions session (Stream.ofChunks body.chunks body.ending)

/-- What holds along a run. -/
structure Delivery (node : UInt64 → Body) (d : Desk) : Prop where
  numbered : Numbered (d.searches.map Prod.fst) d.app.search.lastId
  /-- There is nothing of a search that has not been started. -/
  unstarted : ∀ session, session ∉ d.searches.map Prod.fst →
    d.tasks session = none ∧ d.account session = []
  /-- Of a search that has been started, at most the last reports are lost. -/
  account_isPrefix : ∀ session, d.account session <+: fullAccount session (node session)
  /-- Of the current search nothing is lost. -/
  account_current : ∀ session, d.current? = some session →
    d.account session = fullAccount session (node session)
  /-- The session of the panel is the current one, and it has heard what has been taken for it. -/
  session_eq : d.app.search.session =
    d.searches.getLast?.map fun search =>
      (reports search.1 d.taken).foldl Session.hear (freshSession search)

section
variable {node : UInt64 → Body} {d e : Desk} {session : UInt64} {a : Action}

/-! ## Reports -/

theorem reports_append (session : UInt64) (as bs : List Action) :
    reports session (as ++ bs) = reports session as ++ reports session bs :=
  List.filter_append ..

theorem reports_cons (session : UInt64) (a : Action) (as : List Action) :
    reports session (a :: as) = reports session [a] ++ reports session as :=
  reports_append session [a] as

theorem reports_singleton_of_eq (ha : a.session? = some session) : reports session [a] = [a] := by
  simp [reports, ha]

theorem reports_singleton_of_ne (ha : a.session? ≠ some session) : reports session [a] = [] := by
  simp [reports, ha]

/-! ## Moves of a task -/

@[simp]
theorem tasks_setTask_self (d : Desk) (session : UInt64) (t : Option SearchTask) :
    (d.setTask session t).tasks session = t := by
  simp [Desk.setTask]

theorem tasks_setTask_of_ne {other : UInt64} (hne : other ≠ session) (t : Option SearchTask) :
    (d.setTask session t).tasks other = d.tasks other := by
  simp [Desk.setTask, hne]

theorem session?_of_mem_toCome (ha : a ∈ d.toCome session) : a.session? = some session := by
  rw [Desk.toCome] at ha
  cases ht : d.tasks session with
  | none => simp [ht] at ha
  | some t =>
    rw [ht] at ha
    exact SearchTask.session?_of_mem_remaining ha

theorem toCome_setTask_self (d : Desk) (session : UInt64) (t : Option SearchTask) :
    (d.setTask session t).toCome session = t.elim [] (SearchTask.remaining session) := by
  rw [Desk.toCome, tasks_setTask_self]

theorem toCome_setTask_of_ne {other : UInt64} (hne : other ≠ session) (t : Option SearchTask) :
    (d.setTask session t).toCome other = d.toCome other := by
  rw [Desk.toCome, Desk.toCome, tasks_setTask_of_ne hne]

theorem account_report {t : Option SearchTask}
    (hnext : d.toCome session = a :: t.elim [] (SearchTask.remaining session)) (other : UInt64) :
    Desk.account { d.setTask session t with queue := d.queue ++ [a] } other = d.account other := by
  have ha : a.session? = some session :=
    session?_of_mem_toCome (hnext ▸ List.mem_cons_self)
  have haccount : Desk.account { d.setTask session t with queue := d.queue ++ [a] } other =
      reports other d.taken ++
        (reports other (d.queue ++ [a]) ++ (d.setTask session t).toCome other) := rfl
  rw [haccount, reports_append]
  by_cases hother : other = session
  · subst hother
    rw [reports_singleton_of_eq ha, toCome_setTask_self, List.append_assoc, List.singleton_append,
      ← hnext]
    rfl
  · have hne : a.session? ≠ some other := by
      rw [ha]
      exact fun h => hother (Option.some.inj h).symm
    rw [reports_singleton_of_ne hne, toCome_setTask_of_ne hother, List.append_nil]
    rfl

theorem account_read {t : SearchTask} (ht : d.tasks session = some t) (other : UInt64) :
    (d.setTask session (some t.readOn)).account other = d.account other := by
  have hcome : (d.setTask session (some t.readOn)).toCome other = d.toCome other := by
    by_cases hother : other = session
    · subst hother
      rw [toCome_setTask_self, Desk.toCome, ht]
      exact SearchTask.remaining_readOn other t
    · exact toCome_setTask_of_ne hother _
  rw [Desk.account, hcome]
  rfl

theorem account_drop_of_ne {other : UInt64} (hne : other ≠ session) :
    (d.setTask session none).account other = d.account other := by
  rw [Desk.account, toCome_setTask_of_ne hne]
  rfl

theorem account_drop_isPrefix (d : Desk) (session other : UInt64) :
    (d.setTask session none).account other <+: d.account other := by
  by_cases hother : other = session
  · subst hother
    have haccount : (d.setTask other none).account other =
        reports other d.taken ++ reports other d.queue := by
      rw [Desk.account, toCome_setTask_self]
      exact congrArg _ (List.append_nil _)
    rw [haccount, Desk.account, ← List.append_assoc]
    exact List.prefix_append ..
  · have hkeep : (d.setTask session none).account other = d.account other :=
      account_drop_of_ne hother
    exact hkeep ▸ List.prefix_rfl

theorem account_beginSearch_self {query : SearchQuery} (hnone : d.account session = []) :
    (d.beginSearch node (session, query)).account session = fullAccount session (node session) := by
  rw [Desk.account, List.append_eq_nil_iff, List.append_eq_nil_iff] at hnone
  obtain ⟨htaken, hqueue, -⟩ := hnone
  have hcome : (d.beginSearch node (session, query)).toCome session =
      fullAccount session (node session) :=
    toCome_setTask_self d session _
  show reports session d.taken ++ (reports session d.queue ++ _) = _
  rw [htaken, hqueue, hcome]
  rfl

theorem account_beginSearch_of_ne {query : SearchQuery} {other : UInt64} (hne : other ≠ session) :
    (d.beginSearch node (session, query)).account other = d.account other := by
  have hcome : (d.beginSearch node (session, query)).toCome other = d.toCome other :=
    toCome_setTask_of_ne hne _
  rw [Desk.account, hcome]
  rfl

/-! ## One move -/

theorem Delivery.of_account (h : Delivery node d) (hsearches : e.searches = d.searches)
    (hlast : e.app.search.lastId = d.app.search.lastId)
    (htasks : ∀ session, d.tasks session = none → e.tasks session = none)
    (haccount : ∀ session, e.account session = d.account session)
    (hsession : e.app.search.session = d.searches.getLast?.map fun search =>
      (reports search.1 e.taken).foldl Session.hear (freshSession search)) : Delivery node e where
  numbered := by
    rw [hsearches, hlast]
    exact h.numbered
  unstarted session hnot := by
    rw [hsearches] at hnot
    rw [haccount]
    exact ⟨htasks session (h.unstarted session hnot).1, (h.unstarted session hnot).2⟩
  account_isPrefix session := by
    rw [haccount]
    exact h.account_isPrefix session
  account_current session hcurrent := by
    rw [Desk.current?, hsearches] at hcurrent
    rw [haccount]
    exact h.account_current session hcurrent
  session_eq := by
    rw [hsearches]
    exact hsession

theorem tasks_setTask_of_none {t : SearchTask} (ht : d.tasks session = some t)
    (u : Option SearchTask) (other : UInt64) (hnone : d.tasks other = none) :
    (d.setTask session u).tasks other = none := by
  have hother : other ≠ session := by
    rintro rfl
    rw [ht] at hnone
    cases hnone
  rwa [tasks_setTask_of_ne hother]

theorem dispatch_cases (node : UInt64 → Body) (d : Desk) (a : Action) :
    (∃ query, a.session? = none ∧
      d.dispatch node a = Desk.beginSearch node { d with app := (update d.app a).1 }
        (d.app.search.lastId + 1, query) ∧
      (update d.app a).1.search =
        { session := some (freshSession (d.app.search.lastId + 1, query))
          lastId := d.app.search.lastId + 1 }) ∨
      (d.dispatch node a = { d with app := (update d.app a).1 } ∧
        (update d.app a).1.search.lastId = d.app.search.lastId ∧
        (update d.app a).1.search.session = d.app.search.session.map fun session =>
          if a.session? = some session.id then session.hear a else session) := by
  obtain ⟨query, ha, hstarted, hsearch⟩ | ⟨hnone, hlast, hsession⟩ := update_search_cases d.app a
  · refine .inl ⟨query, ha, ?_, hsearch⟩
    rw [Desk.dispatch, hstarted]
    rfl
  · refine .inr ⟨?_, hlast, hsession⟩
    rw [Desk.dispatch, hnone]
    rfl

theorem Delivery.hear (h : Delivery node d) (hsearches : e.searches = d.searches)
    (htasks : e.tasks = d.tasks) (haccount : ∀ session, e.account session = d.account session)
    (htaken : ∀ session, reports session e.taken = reports session d.taken ++ reports session [a])
    (hlast : e.app.search.lastId = d.app.search.lastId)
    (hsession : e.app.search.session = d.app.search.session.map fun session =>
      if a.session? = some session.id then session.hear a else session) : Delivery node e := by
  refine h.of_account hsearches hlast (fun session hnone => by rwa [htasks]) haccount ?_
  rw [hsession, h.session_eq, Option.map_map]
  congr 1
  funext search
  rw [Function.comp_apply, Session.id_hearAll, htaken, List.foldl_append]
  by_cases ha : a.session? = some search.1
  · rw [reports_singleton_of_eq ha]
    exact if_pos ha
  · rw [reports_singleton_of_ne ha]
    exact if_neg ha

theorem Delivery.next_unused (h : Delivery node d) (hfew : d.searches.length + 1 < UInt64.size) :
    d.app.search.lastId + 1 ∉ d.searches.map Prod.fst := by
  have hnumbered : Numbered (d.searches.map Prod.fst ++ [d.app.search.lastId + 1])
      (d.app.search.lastId + 1) := h.numbered.concat
  have hnodup := hnumbered.nodup (by simpa using hfew)
  intro hmem
  exact (List.nodup_append.1 hnodup).2.2 _ hmem _ (List.mem_singleton.2 rfl) rfl

/-- An action that starts a search: there is nothing of the new search but its task, and all other
accounts are closed. -/
theorem Delivery.begin (h : Delivery node d) {query : SearchQuery}
    (hsearches : e.searches = d.searches) (htasks : e.tasks = d.tasks)
    (haccount : ∀ session, e.account session = d.account session)
    (hsearch : e.app.search =
      { session := some (freshSession (d.app.search.lastId + 1, query))
        lastId := d.app.search.lastId + 1 })
    (hfew : d.searches.length + 1 < UInt64.size) :
    Delivery node (e.beginSearch node (d.app.search.lastId + 1, query)) := by
  have hnew := h.next_unused hfew
  have hnumbered : Numbered (d.searches.map Prod.fst ++ [d.app.search.lastId + 1])
      (d.app.search.lastId + 1) := h.numbered.concat
  generalize d.app.search.lastId + 1 = new at hsearch hnumbered hnew ⊢
  -- nothing of the new search has been taken, waits or is still to come
  have hnone : e.account new = [] := by
    rw [haccount]
    exact (h.unstarted new hnew).2
  have htaken : reports new e.taken = [] := by
    rw [Desk.account] at hnone
    exact (List.append_eq_nil_iff.1 hnone).1
  have hself : (e.beginSearch node (new, query)).account new = fullAccount new (node new) :=
    account_beginSearch_self hnone
  have hothers : ∀ session, session ≠ new →
      (e.beginSearch node (new, query)).account session = d.account session :=
    fun session hne => (account_beginSearch_of_ne hne).trans (haccount session)
  have hmap : (e.beginSearch node (new, query)).searches.map Prod.fst =
      d.searches.map Prod.fst ++ [new] := by
    rw [← hsearches]
    exact List.map_append ..
  have hlast : (e.beginSearch node (new, query)).searches.getLast? = some (new, query) :=
    List.getLast?_concat
  constructor
  · rw [hmap]
    exact hsearch ▸ hnumbered
  · intro session hnot
    rw [hmap, List.mem_append, List.mem_singleton, not_or] at hnot
    rw [hothers session hnot.2]
    obtain ⟨htask, hempty⟩ := h.unstarted session hnot.1
    have hsame : (e.beginSearch node (new, query)).tasks session = e.tasks session :=
      tasks_setTask_of_ne hnot.2 _
    exact ⟨by rw [hsame, htasks, htask], hempty⟩
  · intro session
    by_cases hsession : session = new
    · subst hsession
      exact hself ▸ List.prefix_rfl
    · rw [hothers session hsession]
      exact h.account_isPrefix session
  · intro session hcurrent
    rw [Desk.current?, hlast] at hcurrent
    obtain rfl := Option.some.inj hcurrent
    exact hself
  · rw [hlast]
    show e.app.search.session = some ((reports new e.taken).foldl Session.hear _)
    rw [htaken, hsearch]
    rfl

theorem Delivery.drop (h : Delivery node d) (hold : d.current? ≠ some session) :
    Delivery node (d.setTask session none) where
  numbered := h.numbered
  unstarted other hnot := by
    obtain ⟨htask, hempty⟩ := h.unstarted other hnot
    constructor
    · by_cases hother : other = session
      · rw [hother, tasks_setTask_self]
      · rwa [tasks_setTask_of_ne hother]
    · have hle := account_drop_isPrefix d session other
      rw [hempty] at hle
      exact List.prefix_nil.1 hle
  account_isPrefix other := (account_drop_isPrefix d session other).trans (h.account_isPrefix other)
  account_current other hcurrent := by
    have hother : other ≠ session := by
      rintro rfl
      exact hold hcurrent
    rw [account_drop_of_ne hother]
    exact h.account_current other hcurrent
  session_eq := h.session_eq

theorem Delivery.dispatch (h : Delivery node d) (happ : e.app = d.app)
    (hsearches : e.searches = d.searches) (htasks : e.tasks = d.tasks)
    (haccount : ∀ session, e.account session = d.account session)
    (htaken : ∀ session, reports session e.taken = reports session d.taken ++ reports session [a])
    (hfew : (e.dispatch node a).searches.length < UInt64.size) :
    Delivery node (e.dispatch node a) := by
  obtain ⟨query, -, hdispatch, hsearch⟩ | ⟨hdispatch, hlast, hsession⟩ := dispatch_cases node e a
  · rw [hdispatch] at hfew ⊢
    rw [happ] at hsearch hfew ⊢
    have hlength : d.searches.length + 1 < UInt64.size := by
      rw [← hsearches]
      simpa [Desk.beginSearch] using hfew
    exact Delivery.begin (e := { e with app := (update d.app a).1 }) h hsearches htasks haccount
      hsearch hlength
  · rw [hdispatch]
    rw [happ] at hlast hsession ⊢
    exact Delivery.hear (e := { e with app := (update d.app a).1 }) h hsearches htasks haccount
      htaken hlast hsession

theorem searches_dispatch (node : UInt64 → Body) (d : Desk) (a : Action) :
    d.searches <+: (d.dispatch node a).searches := by
  obtain ⟨query, -, hdispatch, -⟩ | ⟨hdispatch, -, -⟩ := dispatch_cases node d a
  · exact hdispatch ▸ List.prefix_append ..
  · exact hdispatch ▸ List.prefix_rfl

/-- What a move does, if anything. -/
inductive Desk.Step (node : UInt64 → Body) (d : Desk) : Desk.Move → Desk → Prop where
  | idle {m : Desk.Move} : Step node d m d
  | act {a : Action} (ha : a.session? = none) : Step node d (.act a) (d.dispatch node a)
  | post {a : Action} (ha : a.session? = none) :
      Step node d (.post a) { d with queue := d.queue ++ [a] }
  | take {a : Action} {queue : List Action} (hqueue : d.queue = a :: queue) :
      Step node d .take (Desk.dispatch node { d with queue, taken := d.taken ++ [a] } a)
  | read {session : UInt64} {t : SearchTask} (ht : d.tasks session = some t) :
      Step node d (.read session) (d.setTask session (some t.readOn))
  | forward {session : UInt64} {t u : SearchTask} {a : Action} (ht : d.tasks session = some t)
      (hforward : t.forward? session = some (a, u)) :
      Step node d (.forward session)
        { d.setTask session (some u) with queue := d.queue ++ [a] }
  | finish {session : UInt64} {t : SearchTask} {a : Action} (ht : d.tasks session = some t)
      (hfinish : t.finish? session = some a) :
      Step node d (.finish session) { d.setTask session none with queue := d.queue ++ [a] }
  | drop {session : UInt64} (hold : d.current? ≠ some session) :
      Step node d (.drop session) (d.setTask session none)

theorem move_step (node : UInt64 → Body) (d : Desk) (m : Desk.Move) :
    d.Step node m (d.move node m) := by
  cases m with
  | act a =>
    rw [Desk.move]
    by_cases ha : a.session?.isNone = true
    · rw [if_pos ha]
      exact .act (Option.isNone_iff_eq_none.1 ha)
    · rw [if_neg ha]
      exact .idle
  | post a =>
    rw [Desk.move]
    by_cases ha : a.session?.isNone = true
    · rw [if_pos ha]
      exact .post (Option.isNone_iff_eq_none.1 ha)
    · rw [if_neg ha]
      exact .idle
  | take =>
    rw [Desk.move]
    cases hqueue : d.queue with
    | nil => exact .idle
    | cons a queue => exact .take hqueue
  | read session =>
    rw [Desk.move]
    cases ht : d.tasks session with
    | none => exact .idle
    | some t => exact .read ht
  | forward session =>
    rw [Desk.move]
    cases hbind : (d.tasks session).bind (·.forward? session) with
    | none => exact .idle
    | some report =>
      obtain ⟨t, ht, hforward⟩ := Option.bind_eq_some_iff.1 hbind
      exact .forward ht hforward
  | finish session =>
    rw [Desk.move]
    cases hbind : (d.tasks session).bind (·.finish? session) with
    | none => exact .idle
    | some a =>
      obtain ⟨t, ht, hfinish⟩ := Option.bind_eq_some_iff.1 hbind
      exact .finish ht hfinish
  | drop session =>
    rw [Desk.move]
    by_cases hcurrent : d.current? = some session
    · rw [if_pos hcurrent]
      exact .idle
    · rw [if_neg hcurrent]
      exact .drop hcurrent

theorem searches_move (node : UInt64 → Body) (d : Desk) (m : Desk.Move) :
    d.searches <+: (d.move node m).searches := by
  have hstep := move_step node d m
  generalize d.move node m = e at hstep ⊢
  cases hstep with
  | act => exact searches_dispatch node d _
  | @take a queue => exact searches_dispatch node { d with queue, taken := d.taken ++ [a] } a
  | _ => exact List.prefix_rfl

theorem reports_of_session?_none (ha : a.session? = none) (session : UInt64) :
    reports session [a] = [] := by
  apply reports_singleton_of_ne
  simp [ha]

theorem delivery_move (h : Delivery node d) (m : Desk.Move)
    (hfew : (d.move node m).searches.length < UInt64.size) : Delivery node (d.move node m) := by
  have hstep := move_step node d m
  generalize d.move node m = e at hstep hfew ⊢
  cases hstep with
  | idle => exact h
  | act ha =>
    refine h.dispatch rfl rfl rfl (fun _ => rfl) (fun session => ?_) hfew
    rw [reports_of_session?_none ha, List.append_nil]
  | post ha =>
    refine h.of_account rfl rfl (fun _ => id) (fun session => ?_) h.session_eq
    rw [Desk.account, reports_append, reports_of_session?_none ha, List.append_nil]
    rfl
  | @take a queue hqueue =>
    refine h.dispatch rfl rfl rfl (fun session => ?_) (fun session => reports_append ..) hfew
    rw [Desk.account, Desk.account, hqueue, reports_append, reports_cons session a queue,
      List.append_assoc, List.append_assoc]
    rfl
  | read ht =>
    exact h.of_account rfl rfl (tasks_setTask_of_none ht _) (account_read ht) h.session_eq
  | forward ht hforward =>
    refine h.of_account rfl rfl (tasks_setTask_of_none ht _) (account_report ?_) h.session_eq
    rw [Desk.toCome, ht]
    exact SearchTask.remaining_forward hforward
  | finish ht hfinish =>
    refine h.of_account rfl rfl (tasks_setTask_of_none ht _) (account_report ?_) h.session_eq
    rw [Desk.toCome, ht]
    exact SearchTask.remaining_finish hfinish
  | drop hold => exact h.drop hold

/-! ## Runs -/

theorem run_concat (node : UInt64 → Body) (d : Desk) (moves : List Desk.Move) (m : Desk.Move) :
    d.run node (moves ++ [m]) = (d.run node moves).move node m := by
  simp [Desk.run]

theorem delivery_start (node : UInt64 → Body) (s : Settings.Resolved) :
    Delivery node (Desk.start s) where
  numbered := Numbered.nil
  unstarted _ _ := ⟨rfl, rfl⟩
  account_isPrefix _ := List.nil_prefix
  account_current _ hcurrent := by cases hcurrent
  session_eq := rfl

/-- Nothing is lost along a run, before the numbers of searches wrap around. -/
theorem delivery_run (h : Delivery node d) (moves : List Desk.Move)
    (hfew : (d.run node moves).searches.length < UInt64.size) : Delivery node (d.run node moves) := by
  induction moves using List.reverseRecOn with
  | nil => exact h
  | append_singleton moves m ih =>
    rw [run_concat] at hfew ⊢
    have hle := (searches_move node (d.run node moves) m).length_le
    exact delivery_move (ih (by omega)) m hfew

end

end GossipPanel.Work
