import GossipPanel.Proofs.StaleCompletions
import GossipPanel.Proofs.Streaming.Desk
import Mathlib.Data.List.Nodup
import Mathlib.Order.Monotone.Basic

/-!
# Every report of a search arrives

* `Fair`: a schedule that lets both loops of a search, its end and the panel have their turn again
  and again.
* `exists_task_ended`: the task of the current search ends, because each of its steps leaves less to
  do and it is never stuck.
* `exists_queue_cleared`: then the panel gets to the last report of the search in its queue.
* `search_stream_delivered`: whatever happens in between, the panel receives the reports of a search
  in their order, all of them as long as no later search is started, and the first of them
  otherwise; then they change nothing any more.
-/

namespace GossipPanel.Work

open Node Panel Text

namespace Desk

/-- The desk after the first moves of a schedule that never ends. -/
def after (node : UInt64 → Body) (d : Desk) (schedule : Nat → Move) : Nat → Desk
  | 0 => d
  | n + 1 => (d.after node schedule n).move node (schedule n)

def taskWork (d : Desk) (session : UInt64) : Nat :=
  (d.tasks session).elim 0 SearchTask.work

end Desk

/-- The loops of a search, its end and the panel have their turn again and again. -/
structure Fair (session : UInt64) (schedule : Nat → Desk.Move) : Prop where
  read : ∀ n, ∃ m, n ≤ m ∧ schedule m = .read session
  forward : ∀ n, ∃ m, n ≤ m ∧ schedule m = .forward session
  finish : ∀ n, ∃ m, n ≤ m ∧ schedule m = .finish session
  take : ∀ n, ∃ m, n ≤ m ∧ schedule m = .take

/-- The number of reports up to the last one of a search. -/
def depth (session : UInt64) : List Action → Nat
  | [] => 0
  | a :: queue =>
    if depth session queue = 0 ∧ a.session? ≠ some session then 0 else depth session queue + 1

section
variable {node : UInt64 → Body} {d : Desk} {session : UInt64} {a : Action} {queue : List Action}

/-! ## The queue -/

theorem depth_concat (ha : a.session? ≠ some session) (queue : List Action) :
    depth session (queue ++ [a]) = depth session queue := by
  induction queue with
  | nil => simp [depth, ha]
  | cons b queue ih => simp only [List.cons_append, depth, ih]

theorem depth_tail_le : depth session queue ≤ depth session (a :: queue) := by
  rw [depth]
  split <;> omega

theorem depth_tail_lt (h : 0 < depth session (a :: queue)) :
    depth session queue < depth session (a :: queue) := by
  rw [depth] at h ⊢
  by_cases hlast : depth session queue = 0 ∧ a.session? ≠ some session
  · rw [if_pos hlast] at h
    omega
  · rw [if_neg hlast]
    omega

theorem reports_eq_nil_of_depth (h : depth session queue = 0) : reports session queue = [] := by
  induction queue with
  | nil => rfl
  | cons a queue ih =>
    rw [depth] at h
    by_cases hlast : depth session queue = 0 ∧ a.session? ≠ some session
    · rw [reports_cons session a queue, reports_singleton_of_ne hlast.2, ih hlast.1]
      rfl
    · rw [if_neg hlast] at h
      omega

/-! ## What a move does while no search is started -/

theorem dispatch_of_no_search (h : (d.dispatch node a).searches = d.searches) :
    (d.dispatch node a).tasks = d.tasks ∧ (d.dispatch node a).queue = d.queue := by
  obtain ⟨query, -, hdispatch, -⟩ | ⟨hdispatch, -, -⟩ := dispatch_cases node d a
  · have hlength := congrArg List.length h
    rw [hdispatch] at hlength
    simp [Desk.beginSearch] at hlength
  · rw [hdispatch]
    exact ⟨rfl, rfl⟩

theorem taken_of_no_search
    (h : (Desk.dispatch node { d with queue, taken := d.taken ++ [a] } a).searches = d.searches) :
    (Desk.dispatch node { d with queue, taken := d.taken ++ [a] } a).tasks = d.tasks ∧
      (Desk.dispatch node { d with queue, taken := d.taken ++ [a] } a).queue = queue :=
  dispatch_of_no_search h

/-- A move leaves the task of the current search as it is, or brings it nearer to its end. -/
theorem tasks_eq_or_taskWork_lt (hcurrent : d.current? = some session) (m : Desk.Move)
    (hsame : (d.move node m).searches = d.searches) :
    (d.move node m).tasks session = d.tasks session ∨
      (d.move node m).taskWork session < d.taskWork session := by
  have hstep := move_step node d m
  generalize d.move node m = e at hstep hsame ⊢
  cases hstep with
  | idle => exact .inl rfl
  | act ha => exact .inl (congrFun (dispatch_of_no_search hsame).1 session)
  | post ha => exact .inl rfl
  | @take a queue hqueue =>
    exact .inl (congrFun (taken_of_no_search hsame).1 session)
  | @read other t ht =>
    by_cases hother : session = other
    · subst hother
      rw [Desk.taskWork, Desk.taskWork, tasks_setTask_self, ht]
      exact t.readOn_eq_or_work_lt.imp (congrArg some) id
    · exact .inl (tasks_setTask_of_ne hother _)
  | @forward other t u a ht hforward =>
    by_cases hother : session = other
    · subst hother
      right
      show (d.setTask session (some u)).taskWork session < _
      rw [Desk.taskWork, Desk.taskWork, tasks_setTask_self, ht]
      exact SearchTask.work_forward hforward
    · exact .inl (tasks_setTask_of_ne hother _)
  | @finish other t a ht hfinish =>
    by_cases hother : session = other
    · subst hother
      right
      show (d.setTask session none).taskWork session < _
      rw [Desk.taskWork, Desk.taskWork, tasks_setTask_self, ht]
      exact Nat.succ_pos _
    · exact .inl (tasks_setTask_of_ne hother _)
  | @drop other hold =>
    have hother : session ≠ other := by
      rintro rfl
      exact hold hcurrent
    exact .inl (tasks_setTask_of_ne hother _)

theorem taskWork_move_le (hcurrent : d.current? = some session) (m : Desk.Move)
    (hsame : (d.move node m).searches = d.searches) :
    (d.move node m).taskWork session ≤ d.taskWork session := by
  obtain heq | hlt := tasks_eq_or_taskWork_lt hcurrent m hsame
  · rw [Desk.taskWork, heq]
    exact Nat.le_refl _
  · exact Nat.le_of_lt hlt

theorem taskWork_eq_zero_iff : d.taskWork session = 0 ↔ d.tasks session = none := by
  rw [Desk.taskWork]
  cases d.tasks session with
  | none => simp
  | some t => simp [SearchTask.work]

/-- When the task of a search has ended, nothing more of it comes into the queue. -/
theorem depth_move_le (hended : d.tasks session = none) (m : Desk.Move)
    (hsame : (d.move node m).searches = d.searches) :
    depth session (d.move node m).queue ≤ depth session d.queue := by
  have hstep := move_step node d m
  generalize d.move node m = e at hstep hsame ⊢
  have hpost : ∀ {other : UInt64} {t : SearchTask} {a : Action}, d.tasks other = some t →
      a.session? = some other → depth session (d.queue ++ [a]) ≤ depth session d.queue := by
    intro other t a ht ha
    refine Nat.le_of_eq (depth_concat ?_ d.queue)
    rw [ha]
    intro heq
    rw [Option.some.inj heq, hended] at ht
    cases ht
  cases hstep with
  | act ha => exact Nat.le_of_eq (congrArg (depth session) (dispatch_of_no_search hsame).2)
  | post ha => exact Nat.le_of_eq (depth_concat (by simp [ha]) d.queue)
  | @take a queue hqueue =>
    rw [(taken_of_no_search hsame).2, hqueue]
    exact depth_tail_le
  | forward ht hforward => exact hpost ht (SearchTask.session?_of_forward hforward)
  | finish ht hfinish => exact hpost ht (SearchTask.session?_of_finish hfinish)
  | _ => exact Nat.le_refl _

theorem depth_take_lt (hpos : 0 < depth session d.queue)
    (hsame : (d.move node .take).searches = d.searches) :
    depth session (d.move node .take).queue < depth session d.queue := by
  cases hqueue : d.queue with
  | nil => simp [hqueue, depth] at hpos
  | cons a queue =>
    have hmove : d.move node .take =
        Desk.dispatch node { d with queue, taken := d.taken ++ [a] } a := by
      simp [Desk.move, hqueue]
    rw [hmove] at hsame ⊢
    rw [(taken_of_no_search hsame).2]
    exact depth_tail_lt (hqueue ▸ hpos)

end

/-! ## Schedules -/

theorem exists_eq_zero {f : Nat → Nat} (h : ∀ n, 0 < f n → ∃ m, n ≤ m ∧ f m < f n) (n : Nat) :
    ∃ m, n ≤ m ∧ f m = 0 := by
  generalize hk : f n = k
  induction k using Nat.strongRecOn generalizing n with
  | ind k ih =>
    by_cases hzero : k = 0
    · exact ⟨n, Nat.le_refl n, by omega⟩
    · obtain ⟨m, hnm, hless⟩ := h n (by omega)
      obtain ⟨l, hml, hl⟩ := ih (f m) (by omega) m rfl
      exact ⟨l, by omega, hl⟩

section
variable {node : UInt64 → Body} {d : Desk} {session : UInt64} {schedule : Nat → Desk.Move}

/-- No search is started along the schedule. -/
def NoLaterSearch (node : UInt64 → Body) (d : Desk) (schedule : Nat → Desk.Move) : Prop :=
  ∀ n, (d.after node schedule n).searches = d.searches

theorem current?_after (hcurrent : d.current? = some session)
    (hstill : NoLaterSearch node d schedule) (n : Nat) :
    (d.after node schedule n).current? = some session := by
  rw [Desk.current?, hstill n]
  exact hcurrent

theorem searches_succ (hstill : NoLaterSearch node d schedule) (n : Nat) :
    ((d.after node schedule n).move node (schedule n)).searches =
      (d.after node schedule n).searches :=
  (hstill (n + 1)).trans (hstill n).symm

theorem delivery_after (h : Delivery node d) (hfew : d.searches.length < UInt64.size)
    (hstill : NoLaterSearch node d schedule) (n : Nat) :
    Delivery node (d.after node schedule n) := by
  induction n with
  | zero => exact h
  | succ n ih =>
    refine delivery_move ih (schedule n) ?_
    rw [searches_succ hstill n, hstill n]
    exact hfew

theorem taskWork_succ_le (hcurrent : d.current? = some session)
    (hstill : NoLaterSearch node d schedule) (n : Nat) :
    (d.after node schedule (n + 1)).taskWork session ≤ (d.after node schedule n).taskWork session :=
  taskWork_move_le (current?_after hcurrent hstill n) (schedule n) (searches_succ hstill n)

theorem tasks_eq_or_taskWork_lt_after (hcurrent : d.current? = some session)
    (hstill : NoLaterSearch node d schedule) {n m : Nat} (hnm : n ≤ m) :
    (d.after node schedule m).tasks session = (d.after node schedule n).tasks session ∨
      (d.after node schedule m).taskWork session < (d.after node schedule n).taskWork session := by
  induction hnm with
  | refl => exact .inl rfl
  | @step m hnm ih =>
    have hle := taskWork_succ_le hcurrent hstill m
    obtain hsame | hless := ih
    · obtain heq | hlt := tasks_eq_or_taskWork_lt (current?_after hcurrent hstill m) (schedule m)
        (searches_succ hstill m)
      · exact .inl (heq.trans hsame)
      · right
        have hwork : (d.after node schedule m).taskWork session =
            (d.after node schedule n).taskWork session := by
          rw [Desk.taskWork, Desk.taskWork, hsame]
        exact hwork ▸ hlt
    · exact .inr (Nat.lt_of_le_of_lt hle hless)

/-- The task of the current search gets nearer to its end: one of its steps can be made, and has its
turn. -/
theorem taskWork_progress (hcurrent : d.current? = some session) (hfair : Fair session schedule)
    (hstill : NoLaterSearch node d schedule) (n : Nat)
    (hpos : 0 < (d.after node schedule n).taskWork session) :
    ∃ m, n ≤ m ∧
      (d.after node schedule m).taskWork session < (d.after node schedule n).taskWork session := by
  cases ht : (d.after node schedule n).tasks session with
  | none =>
    rw [taskWork_eq_zero_iff.2 ht] at hpos
    omega
  | some t =>
    have hwork : (d.after node schedule n).taskWork session = t.work := by
      rw [Desk.taskWork, ht]
      rfl
    -- a move that has its turn while the task is still the same one
    have hturn : ∀ {move : Desk.Move}, (∃ m, n ≤ m ∧ schedule m = move) →
        (∀ e : Desk, e.tasks session = some t → (e.move node move).taskWork session < t.work) →
        ∃ m, n ≤ m ∧ (d.after node schedule m).taskWork session <
          (d.after node schedule n).taskWork session := by
      rintro move ⟨m, hnm, rfl⟩ hless
      obtain hsame | hlt := tasks_eq_or_taskWork_lt_after hcurrent hstill hnm
      · exact ⟨m + 1, by omega, hwork ▸ hless _ (hsame.trans ht)⟩
      · exact ⟨m, hnm, hlt⟩
    obtain hread | hforward | hfinish := t.exists_step session
    · refine hturn (hfair.read n) fun e he => ?_
      simpa [Desk.move, he, Desk.taskWork, tasks_setTask_self] using hread
    · obtain ⟨⟨a, u⟩, hau⟩ := Option.isSome_iff_exists.1 hforward
      refine hturn (hfair.forward n) fun e he => ?_
      have hless := SearchTask.work_forward hau
      simpa [Desk.move, he, hau, Desk.taskWork, Desk.setTask] using hless
    · obtain ⟨a, ha⟩ := Option.isSome_iff_exists.1 hfinish
      refine hturn (hfair.finish n) fun e he => ?_
      simp [Desk.move, he, ha, Desk.taskWork, Desk.setTask, SearchTask.work]

theorem exists_task_ended (hcurrent : d.current? = some session) (hfair : Fair session schedule)
    (hstill : NoLaterSearch node d schedule) :
    ∃ n, (d.after node schedule n).tasks session = none := by
  obtain ⟨n, -, hn⟩ := exists_eq_zero (taskWork_progress hcurrent hfair hstill) 0
  exact ⟨n, taskWork_eq_zero_iff.1 hn⟩

theorem task_stays_ended (hcurrent : d.current? = some session)
    (hstill : NoLaterSearch node d schedule) {n m : Nat} (hnm : n ≤ m)
    (hended : (d.after node schedule n).tasks session = none) :
    (d.after node schedule m).tasks session = none := by
  obtain hsame | hless := tasks_eq_or_taskWork_lt_after hcurrent hstill hnm
  · exact hsame.trans hended
  · rw [taskWork_eq_zero_iff.2 hended] at hless
    omega

theorem exists_queue_cleared (hcurrent : d.current? = some session) (hfair : Fair session schedule)
    (hstill : NoLaterSearch node d schedule) {n : Nat}
    (hended : (d.after node schedule n).tasks session = none) :
    ∃ m, n ≤ m ∧ depth session (d.after node schedule m).queue = 0 := by
  have hstays : ∀ m, n ≤ m → (d.after node schedule m).tasks session = none :=
    fun m hnm => task_stays_ended hcurrent hstill hnm hended
  let left := fun k => depth session (d.after node schedule (n + k)).queue
  have hanti : Antitone left := antitone_nat_of_succ_le fun k =>
    depth_move_le (hstays (n + k) (by omega)) (schedule (n + k)) (searches_succ hstill (n + k))
  have hprogress : ∀ k, 0 < left k → ∃ m, k ≤ m ∧ left m < left k := by
    intro k hk
    obtain ⟨m, hm, hturn⟩ := hfair.take (n + k)
    obtain ⟨l, rfl⟩ := Nat.exists_eq_add_of_le (Nat.le_trans (Nat.le_add_right n k) hm)
    have hl : k ≤ l := by omega
    -- at its turn the panel has a report to take, unless none of the search is left by then
    by_cases hempty : left l = 0
    · exact ⟨l, hl, by omega⟩
    · have hle : left l ≤ left k := hanti hl
      have hless : left (l + 1) < left l := by
        have hsame := searches_succ hstill (n + l)
        have hpos : 0 < depth session (d.after node schedule (n + l)).queue := by
          show 0 < left l
          omega
        show depth session ((d.after node schedule (n + l)).move node (schedule (n + l))).queue <
          depth session (d.after node schedule (n + l)).queue
        rw [hturn] at hsame ⊢
        exact depth_take_lt hpos hsame
      exact ⟨l + 1, by omega, by omega⟩
  obtain ⟨k, -, hk⟩ := exists_eq_zero hprogress 0
  exact ⟨n + k, by omega, hk⟩

theorem exists_all_received (h : Delivery node d) (hcurrent : d.current? = some session)
    (hfew : d.searches.length < UInt64.size) (hfair : Fair session schedule)
    (hstill : NoLaterSearch node d schedule) :
    ∃ n, reports session (d.after node schedule n).taken = fullAccount session (node session) := by
  obtain ⟨n, hended⟩ := exists_task_ended hcurrent hfair hstill
  obtain ⟨m, hnm, hdepth⟩ := exists_queue_cleared hcurrent hfair hstill hended
  have hended' := task_stays_ended hcurrent hstill hnm hended
  have hdelivery := delivery_after h hfew hstill m
  have haccount := hdelivery.account_current session (current?_after hcurrent hstill m)
  refine ⟨m, ?_⟩
  rw [← haccount, Desk.account, reports_eq_nil_of_depth hdepth, Desk.toCome, hended']
  simp

end

/-! ## Taking turns -/

/-- A search and the panel take turns. -/
def roundRobin (session : UInt64) (n : Nat) : Desk.Move :=
  match n % 4 with
  | 0 => .read session
  | 1 => .forward session
  | 2 => .finish session
  | _ => .take

theorem fair_roundRobin (session : UInt64) : Fair session (roundRobin session) where
  read n := ⟨4 * n, by omega, by simp [roundRobin]⟩
  forward n := ⟨4 * n + 1, by omega, by simp [roundRobin]⟩
  finish n := ⟨4 * n + 2, by omega, by simp [roundRobin]⟩
  take n := ⟨4 * n + 3, by omega, by simp [roundRobin]⟩

section
variable {node : UInt64 → Body} {d : Desk}

/-- The user and the other jobs are quiet. -/
def Desk.Move.isQuiet : Desk.Move → Bool
  | .act _ | .post _ => false
  | _ => true

theorem searches_move_of_quiet (node : UInt64 → Body)
    (hqueue : ∀ a ∈ d.queue, a.session?.isSome = true) {m : Desk.Move} (hquiet : m.isQuiet = true) :
    (∀ a ∈ (d.move node m).queue, a.session?.isSome = true) ∧
      (d.move node m).searches = d.searches := by
  have hstep := move_step node d m
  generalize d.move node m = e at hstep ⊢
  have hpost : ∀ {a : Action} {session : UInt64}, a.session? = some session →
      ∀ b ∈ d.queue ++ [a], b.session?.isSome = true := by
    intro a session ha b hb
    obtain hb | rfl := by simpa using hb
    · exact hqueue b hb
    · rw [ha]
      rfl
  cases hstep with
  | act => cases hquiet
  | post => cases hquiet
  | @take a queue heq =>
    rw [heq, List.forall_mem_cons] at hqueue
    obtain ⟨query, hnone, -⟩ | ⟨hdispatch, -, -⟩ :=
      dispatch_cases node { d with queue, taken := d.taken ++ [a] } a
    · rw [hnone] at hqueue
      cases hqueue.1
    · rw [hdispatch]
      exact ⟨hqueue.2, rfl⟩
  | forward ht hforward => exact ⟨hpost (SearchTask.session?_of_forward hforward), rfl⟩
  | finish ht hfinish => exact ⟨hpost (SearchTask.session?_of_finish hfinish), rfl⟩
  | _ => exact ⟨hqueue, rfl⟩

theorem noLaterSearch_roundRobin (hqueue : ∀ a ∈ d.queue, a.session?.isSome = true)
    (session : UInt64) : NoLaterSearch node d (roundRobin session) := by
  have hquiet : ∀ n, (roundRobin session n).isQuiet = true := by
    intro n
    rw [roundRobin]
    split <;> rfl
  have hall : ∀ n, (∀ a ∈ (d.after node (roundRobin session) n).queue, a.session?.isSome = true) ∧
      (d.after node (roundRobin session) n).searches = d.searches := by
    intro n
    induction n with
    | zero => exact ⟨hqueue, rfl⟩
    | succ n ih =>
      obtain ⟨hreports, hsame⟩ := searches_move_of_quiet node ih.1 (hquiet n)
      exact ⟨hreports, hsame.trans ih.2⟩
  exact fun n => (hall n).2

end

/-! ## The session at the end, and after a later search -/

section
variable {node : UInt64 → Body} {d : Desk} {id : UInt64} {query : SearchQuery}

theorem session_of_current (h : Delivery node d) (hlast : d.searches.getLast? = some (id, query)) :
    d.app.search.session =
      some ((reports id d.taken).foldl Session.hear (freshSession (id, query))) := by
  rw [h.session_eq, hlast]
  rfl

theorem session_of_all_received (h : Delivery node d)
    (hlast : d.searches.getLast? = some (id, query))
    (hall : reports id d.taken = fullAccount id (node id)) :
    d.app.search.session =
      some (((freshSession (id, query)).extendedAll
        (Client.streamTexts (node id).chunks (node id).ending.isOk)).endedBy (node id).ending) := by
  have hheard := Session.hear_searchActions rfl (readAll_freshSession (id, query)) id
    (Client.streamTexts (node id).chunks (node id).ending.isOk) (node id).ending
  rw [session_of_current h hlast, hall, ← hheard]
  rfl

theorem session_of_cancelled (h : Delivery node d) (hfew : d.searches.length < UInt64.size)
    (hstarted : (id, query) ∈ d.searches) (hlast : d.searches.getLast? ≠ some (id, query)) :
    ∃ session, d.app.search.session = some session ∧ session.id ≠ id := by
  have hnodup : (d.searches.map Prod.fst).Nodup := h.numbered.nodup (by simpa using hfew)
  have hne : d.searches ≠ [] := List.ne_nil_of_mem hstarted
  have hlater : d.searches.getLast? = some (d.searches.getLast hne) :=
    List.getLast?_eq_some_getLast hne
  refine ⟨_, by rw [h.session_eq, hlater]; rfl, ?_⟩
  rw [Session.id_hearAll]
  intro hid
  have hsame : d.searches.getLast hne = (id, query) :=
    List.inj_on_of_nodup_map hnodup (List.getLast_mem hne) hstarted hid
  rw [hlater, hsame] at hlast
  exact hlast rfl

theorem update_report_of_cancelled (h : Delivery node d) (hfew : d.searches.length < UInt64.size)
    (hstarted : (id, query) ∈ d.searches) (hlast : d.searches.getLast? ≠ some (id, query))
    {a : Action} (ha : a.session? = some id) : update d.app a = (d.app, []) := by
  obtain ⟨session, hsession, hne⟩ := session_of_cancelled h hfew hstarted hlast
  apply App.update_of_isStale
  cases a with
  | searchChunk other text =>
    obtain rfl := Option.some.inj ha
    simp [App.isStale, hsession, hne]
  | searchFinished other result =>
    obtain rfl := Option.some.inj ha
    simp [App.isStale, hsession, hne]
  | _ => cases ha

end

/-- **A search is delivered from end to end.** Take any run of the panel with its user, its other
jobs and the searches that it has started, where the node answers every search with any chunks of
bytes, and then ends or fails. For a search that has been started:

* its reports are the texts that decoding the chunks gives, none of them empty, and then one end;
  joined, the texts are what the decoder gave, with its rest if the answer came to an end;
* what the panel has received of them is a beginning of that list;
* as long as no later search has been started, the session has heard what has been received, and
  nothing else; when all has been received, it has counted the bytes of all texts, has an entry for
  every non-empty line of every text, and one more if the answer came to an end, and tells how it
  ended; and all will be received, if everything that takes part has its turn again and again;
* once a later search has been started, the reports change nothing. -/
theorem search_stream_delivered (s : Settings.Resolved) (node : UInt64 → Body)
    (moves : List Desk.Move)
    (hfew : ((Desk.start s).run node moves).searches.length < UInt64.size) (id : UInt64)
    (query : SearchQuery) (hstarted : (id, query) ∈ ((Desk.start s).run node moves).searches) :
    let d := (Desk.start s).run node moves
    let body := node id
    let pushed := Utf8.Carry.pushAll {} body.chunks
    let texts := Client.streamTexts body.chunks body.ending.isOk
    let answer := searchActions id (Stream.ofChunks body.chunks body.ending)
    let received := d.taken.filter (·.session? == some id)
    answer = texts.map (.searchChunk id) ++
        [.searchFinished id (body.ending.mapError Failure.message)] ∧
      "" ∉ texts ∧
      String.join texts =
        String.join pushed.1 ++ (if body.ending.isOk then pushed.2.finish else "") ∧
      received <+: answer ∧
      (d.searches.getLast? = some (id, query) →
        d.app.search.session =
            some (received.foldl Session.hear
              { id, keywords := query.keywords, budget := query.budget }) ∧
          (received = answer → ∃ session, d.app.search.session = some session ∧
            session.id = id ∧ session.keywords = query.keywords ∧
            session.budget = query.budget ∧
            session.consumed = (String.join texts).utf8ByteSize ∧
            session.entries = texts.flatMap (fun text =>
                ((text.toList.splitOn '\n').filter (!·.isEmpty)).map fun line =>
                  Entry.ofLine (String.ofList line)) ++
              (if body.ending.isOk then [.info completedText] else []) ∧
            (body.ending.isOk → session.progress = .completed) ∧
            ∀ e, body.ending = .error e → session.progress = .failed e.message) ∧
          ∀ schedule, Fair id schedule →
            (∀ n, (d.after node schedule n).searches = d.searches) →
            ∃ n, (d.after node schedule n).taken.filter (·.session? == some id) = answer) ∧
      (d.searches.getLast? ≠ some (id, query) →
        ∀ a, a.session? = some id → update d.app a = (d.app, [])) := by
  intro d body pushed texts answer received
  have hdelivery : Delivery node d := delivery_run (delivery_start node s) moves hfew
  refine ⟨rfl, empty_not_mem_streamTexts body.chunks body.ending.isOk,
    join_streamTexts body.chunks body.ending.isOk, ?_, fun hlast => ⟨?_, ?_, ?_⟩,
    fun hlast a ha => update_report_of_cancelled hdelivery hfew hstarted hlast ha⟩
  · have haccount := hdelivery.account_isPrefix id
    exact (List.prefix_append received _).trans haccount
  · exact session_of_current hdelivery hlast
  · intro hall
    have hsession : d.app.search.session =
        some (((freshSession (id, query)).extendedAll texts).endedBy body.ending) :=
      session_of_all_received hdelivery hlast hall
    refine ⟨_, hsession, ?_⟩
    simp only [← entriesOf_eq]
    cases hending : body.ending with
    | ok done =>
      simp [Session.endedBy, Session.extendedAll, freshSession, Except.isOk, Except.toBool]
    | error e =>
      simp [Session.endedBy, Session.extendedAll, freshSession, Except.isOk, Except.toBool]
  · intro schedule hfair hstill
    have hcurrent : d.current? = some id := by
      rw [Desk.current?, hlast]
      rfl
    exact exists_all_received hdelivery hcurrent hfew hfair hstill

/-- A node that answers every search with one line. -/
def oneLine : UInt64 → Body :=
  fun _ => { chunks := [[0x68, 0x69, 0x0a]], ending := .ok () }

/-- A second search is started when the end of the first one waits in the queue. -/
def cancelledSearch : List Desk.Move :=
  [.act (.startSearch "cat" 0), .read 1, .read 1, .forward 1, .take, .read 1, .finish 1,
    .act (.startSearch "dog" 2)]

/-- A search that is over before another one is started. -/
def completedSearch : List Desk.Move :=
  [.act (.startSearch "cat" 0), .read 1, .read 1, .forward 1, .take, .read 1, .finish 1, .take]

/-- The line and the end arrive when the search and the panel take turns, and are the entries of the
session then. When a second search has been started, the end that still waits changes nothing. -/
theorem one_line_delivered :
    (∃ n, (((Desk.start {}).run oneLine [.act (.startSearch "cat" 0)]).after oneLine (roundRobin 1)
        n).taken.filter (·.session? == some 1) =
      [.searchChunk 1 "hi\n", .searchFinished 1 (.ok ())]) ∧
      (∃ session, ((Desk.start {}).run oneLine completedSearch).app.search.session = some session ∧
        session.entries = [.info "hi", .info "Search completed"] ∧ session.consumed = 3 ∧
        session.progress = .completed) ∧
      ((Desk.start {}).run oneLine cancelledSearch).queue.map Action.session? = [some 1] ∧
      update ((Desk.start {}).run oneLine cancelledSearch).app (.searchFinished 1 (.ok ())) =
        (((Desk.start {}).run oneLine cancelledSearch).app, []) := by
  have htexts : Client.streamTexts [[0x68, 0x69, 0x0a]] true = ["hi\n"] := by decide +kernel
  have hanswer : searchActions 1 (Stream.ofChunks (oneLine 1).chunks (oneLine 1).ending) =
      [.searchChunk 1 "hi\n", .searchFinished 1 (.ok ())] := by
    show (Client.streamTexts [[0x68, 0x69, 0x0a]] true).map (Action.searchChunk 1) ++ _ = _
    rw [htexts]
    rfl
  refine ⟨?_, ?_, by decide +kernel, ?_⟩
  · have hall := search_stream_delivered {} oneLine [.act (.startSearch "cat" 0)]
      (by decide +kernel) 1 ⟨"cat", 0⟩ (by decide +kernel)
    obtain ⟨-, -, -, -, hcurrent, -⟩ := hall
    obtain ⟨-, -, harrives⟩ := hcurrent (by decide +kernel)
    rw [← hanswer]
    exact harrives (roundRobin 1) (fair_roundRobin 1) (noLaterSearch_roundRobin (by decide +kernel) 1)
  · have hall := search_stream_delivered {} oneLine completedSearch (by decide +kernel) 1 ⟨"cat", 0⟩
      (by decide +kernel)
    obtain ⟨-, -, -, hbeginning, hcurrent, -⟩ := hall
    obtain ⟨-, hreceived, -⟩ := hcurrent (by decide +kernel)
    rw [hanswer] at hbeginning hreceived
    obtain ⟨session, hsession, -, -, -, hconsumed, hentries, hprogress, -⟩ :=
      hreceived (hbeginning.eq_of_length (by decide +kernel))
    change _ = (Client.streamTexts [[0x68, 0x69, 0x0a]] true).flatMap _ ++ _ at hentries
    change _ = (String.join (Client.streamTexts [[0x68, 0x69, 0x0a]] true)).utf8ByteSize
      at hconsumed
    rw [htexts] at hentries hconsumed
    exact ⟨session, hsession, hentries.trans (by decide +kernel), hconsumed, hprogress rfl⟩
  · have hall := search_stream_delivered {} oneLine cancelledSearch (by decide +kernel) 1 ⟨"cat", 0⟩
      (by decide +kernel)
    obtain ⟨-, -, -, -, -, hlater⟩ := hall
    exact hlater (by decide +kernel) _ rfl

end GossipPanel.Work
