import GossipPanel.Proofs.Search.Observation

/-!
# The life of a search session

A search goes through sessions, each of which begins with a start, ends once, and is replaced by
the next start.

* `Search.reactAll`: a run of the search.
* `numbered_reactAll`: the sessions of a run have the numbers 1, 2, 3, …; `modify?_eq_none_iff`:
  under any other number than the latest the search is not heard.
* `reactAll_of_quiet`: between two starts a run is what happens to one session.
* `session_lifecycle`: a session from its start to the next one.
-/

namespace GossipPanel.Panel

open Text

namespace SearchEvent

def isStart : SearchEvent → Bool
  | start .. => true
  | _ => false

/-- The text of a chunk for the session of this number. -/
def text? (id : UInt64) : SearchEvent → Option String
  | chunk session text => if session = id then some text else none
  | _ => none

/-- What an event does to a session, and the number of that session. -/
def report? : SearchEvent → Option (UInt64 × SessionCall)
  | chunk session text => some (session, .push text)
  | finish session (.ok ()) => some (session, .complete)
  | finish session (.error reason) => some (session, .fail reason)
  | _ => none

/-- What an event does to the session of this number. -/
def call? (id : UInt64) (e : SearchEvent) : Option SessionCall :=
  (e.report?.filter (·.1 == id)).map Prod.snd

theorem call?_finish (id : UInt64) (result : Except String Unit) :
    (finish id result).call? id =
      some (match result with | .ok () => .complete | .error reason => .fail reason) := by
  cases result <;> simp [call?, report?, Option.filter]

theorem filterMap_call? {id : UInt64} {events : List SearchEvent}
    (h : ∀ result, finish id result ∉ events) :
    events.filterMap (call? id) = (events.filterMap (text? id)).map .push := by
  rw [List.map_filterMap]
  refine List.filterMap_congr fun e he => ?_
  cases e with
  | unrelated => rfl
  | start keywords budget => rfl
  | chunk session text =>
    by_cases hid : session = id <;> simp [call?, report?, text?, Option.filter, hid]
  | finish session result =>
    have hid : session ≠ id := fun hid => h result (hid ▸ he)
    cases result <;> simp [call?, report?, text?, Option.filter, hid]

end SearchEvent

namespace Session

variable {s : Session}

theorem id_call (s : Session) (c : SessionCall) : (s.call c).id = s.id := by
  cases c with
  | observe answer => exact s.id_observe answer
  | push chunk => exact s.id_hear (.searchChunk s.id chunk)
  | complete => exact s.id_hear (.searchFinished s.id (.ok ()))
  | fail reason => exact s.id_hear (.searchFinished s.id (.error reason))

/-- The session after an event. -/
def heed (s : Session) (e : SearchEvent) : Session :=
  (e.call? s.id).elim s s.call

@[simp]
theorem id_heed (s : Session) (e : SearchEvent) : (s.heed e).id = s.id := by
  rw [heed]
  cases e.call? s.id with
  | none => rfl
  | some c => exact s.id_call c

theorem callAll_heed (s : Session) (e : SearchEvent) (events : List SearchEvent) :
    (s.heed e).callAll (events.filterMap (SearchEvent.call? s.id)) =
      s.callAll ((e :: events).filterMap (SearchEvent.call? s.id)) := by
  rw [List.filterMap_cons, heed]
  cases e.call? s.id <;> rfl

theorem callAll_pushes (hrunning : s.isRunning = true) (hread : s.ReadAll) (texts : List String) :
    s.callAll (texts.map .push) = s.extendedAll texts := by
  rw [callAll, List.foldl_map]
  exact pushAll_of_running hrunning hread texts

end Session

namespace Search

variable {s : Search} {id : UInt64} {e : SearchEvent} {events : List SearchEvent}

/-- The search after a run of events. -/
def reactAll (s : Search) (events : List SearchEvent) : Search :=
  events.foldl (fun s e => (s.react e).1) s

theorem reactAll_append (s : Search) (events later : List SearchEvent) :
    s.reactAll (events ++ later) = (s.reactAll events).reactAll later :=
  List.foldl_append

theorem reactAll_cons (s : Search) (e : SearchEvent) (events : List SearchEvent) :
    s.reactAll (e :: events) = (s.react e).1.reactAll events := rfl

theorem reactAll_concat (s : Search) (events : List SearchEvent) (e : SearchEvent) :
    s.reactAll (events ++ [e]) = ((s.reactAll events).react e).1 :=
  s.reactAll_append events [e]

theorem modify?_eq_none_iff {f : Session → Session} :
    s.modify? id f = none ↔ s.session.map (·.id) ≠ some id := by
  cases hs : s.session with
  | none => simp [modify?, current?, hs]
  | some session => by_cases hid : session.id = id <;> simp [modify?, current?, hs, hid]

/-! ## Between two starts -/

theorem react_of_report? (s : Search) {c : SessionCall} (h : e.report? = some (id, c)) :
    (s.react e).1 =
      { s with session := s.session.map fun session =>
          if session.id = id then session.call c else session } := by
  cases e with
  | unrelated => cases h
  | start keywords budget => cases h
  | chunk session text =>
    cases h
    exact congrArg Prod.fst (s.react_chunk id text)
  | finish session result =>
    cases result with
    | ok done =>
      cases h
      exact congrArg Prod.fst (s.react_finish_ok id)
    | error reason =>
      cases h
      exact congrArg Prod.fst (s.react_finish_error id reason)

theorem react_of_not_start (s : Search) (he : e.isStart = false) :
    (s.react e).1 = { s with session := s.session.map (·.heed e) } := by
  cases hreport : e.report? with
  | none =>
    have hsame : (s.react e).1 = s := by
      cases e with
      | unrelated => rfl
      | start keywords budget => cases he
      | chunk session text => cases hreport
      | finish session result => cases result <;> cases hreport
    rw [hsame]
    simp [Session.heed, SearchEvent.call?, hreport]
  | some report =>
    obtain ⟨id, c⟩ := report
    have hheed : ∀ session : Session,
        session.heed e = if session.id = id then session.call c else session := by
      intro session
      by_cases hid : session.id = id
      · simp [Session.heed, SearchEvent.call?, hreport, Option.filter, hid]
      · simp [Session.heed, SearchEvent.call?, hreport, Option.filter, hid, Ne.symm hid]
    rw [s.react_of_report? hreport]
    simp only [hheed]

/-- Between two starts a run is what happens to one session. -/
theorem reactAll_of_quiet (s : Search) (h : ∀ e ∈ events, e.isStart = false) :
    s.reactAll events =
      { s with session := s.session.map fun session =>
          session.callAll (events.filterMap (SearchEvent.call? session.id)) } := by
  induction events generalizing s with
  | nil => simp [reactAll, Session.callAll]
  | cons e events ih =>
    have hrest := ih (s.react e).1 fun e' he' => h e' (List.mem_cons_of_mem e he')
    rw [reactAll_cons, hrest, s.react_of_not_start (h e List.mem_cons_self)]
    simp only [Option.map_map, Function.comp_def, Session.id_heed, Session.callAll_heed]

theorem reactAll_open {session : Session} (hs : s.session = some session)
    (hrunning : session.isRunning = true) (hread : session.ReadAll)
    (hquiet : ∀ e ∈ events, e.isStart = false)
    (hopen : ∀ result, .finish session.id result ∉ events) :
    (s.reactAll events).session =
      some (session.extendedAll (events.filterMap (SearchEvent.text? session.id))) := by
  rw [reactAll_of_quiet s hquiet, hs]
  refine congrArg some ?_
  dsimp only
  rw [SearchEvent.filterMap_call? hopen, Session.callAll_pushes hrunning hread]

theorem reactAll_finished {session : Session} (hs : s.session = some session)
    (hrunning : session.isRunning = true) (result : Except String Unit)
    (hquiet : ∀ e ∈ events, e.isStart = false) :
    (s.reactAll (.finish session.id result :: events)).session =
      some (match result with
        | .ok () => session.complete
        | .error reason => session.fail reason) := by
  have hall : ∀ e ∈ .finish session.id result :: events, SearchEvent.isStart e = false := by
    rintro e (_ | ⟨_, he⟩)
    · rfl
    · exact hquiet e he
  rw [reactAll_of_quiet s hall, hs]
  refine congrArg some ?_
  dsimp only
  rw [List.filterMap_cons, SearchEvent.call?_finish]
  cases result with
  | ok done =>
    have hended : session.complete.isRunning = false := by
      rw [Session.complete, if_pos hrunning]
      rfl
    exact Session.callAll_of_not_running hended _
  | error reason =>
    have hended : (session.fail reason).isRunning = false := by
      rw [Session.fail, if_pos hrunning]
      rfl
    exact Session.callAll_of_not_running hended _

/-! ## Numbers -/

theorem numbered_reactAll (events : List SearchEvent) :
    let started := events.countP SearchEvent.isStart
    (reactAll {} events).lastId = .ofNat started ∧
      (reactAll {} events).session.map (·.id) =
        if started = 0 then none else some (.ofNat started) := by
  intro started
  induction events using List.reverseRecOn with
  | nil => exact ⟨rfl, rfl⟩
  | append_singleton events e ih =>
    obtain ⟨hlast, hsession⟩ := ih
    have hstarted : started = events.countP SearchEvent.isStart + if e.isStart then 1 else 0 := by
      rw [← List.countP_singleton, ← List.countP_append]
    rw [reactAll_concat, hstarted]
    cases hstart : e.isStart with
    | false =>
      rw [react_of_not_start _ hstart]
      refine ⟨hlast, ?_⟩
      simpa only [Option.map_map, Function.comp_def, Session.id_heed, Bool.false_eq_true,
        if_false, Nat.add_zero] using hsession
    | true =>
      cases e with
      | start keywords budget =>
        have hnext : (reactAll {} events).lastId + 1 =
            .ofNat (events.countP SearchEvent.isStart + 1) := by
          rw [hlast, UInt64.ofNat_add]
          rfl
        simp [react, start, hnext]
      | _ => cases hstart

theorem modify?_eq_none_of_superseded (events : List SearchEvent) {started : Nat}
    (hstarted : events.countP SearchEvent.isStart = started)
    (hid : ¬(0 < started ∧ id = .ofNat started)) (f : Session → Session) :
    (reactAll {} events).modify? id f = none := by
  rw [modify?_eq_none_iff, (numbered_reactAll events).2, hstarted]
  split
  · nofun
  · next hne => exact fun h => hid ⟨Nat.pos_of_ne_zero hne, (Option.some.inj h).symm⟩

end Search

open Search Session

/-- **The life of a search session.** After any run of a new search in which so many sessions have
been started:

* the next start gives the next number, and puts an empty running session in place of the last one;
* under any other number than that of the latest start the search is not heard, and nothing
  changes; under this number it is heard;
* a session that has been started is running, with the entries of the chunks that carry its number,
  until it is finished for the first time; it then gets its last entry or the reason of its failure,
  and stays as it is until the next start, whatever is done to it. -/
theorem session_lifecycle (events : List SearchEvent) :
    let search := reactAll {} events
    let started := events.countP SearchEvent.isStart
    (∀ keywords budget,
      let id := UInt64.ofNat (started + 1)
      search.start keywords budget =
        (id, { session := some { id, keywords, budget, entries := [], progress := .running,
                                 consumed := 0, received := "" }
               lastId := id })) ∧
      (∀ id, ¬(0 < started ∧ id = .ofNat started) → ∀ text reason,
        search.push? id text = none ∧ search.complete? id = none ∧
          search.fail? id reason = none ∧ (search.react (.chunk id text)).1 = search ∧
          ∀ result, (search.react (.finish id result)).1 = search) ∧
      (0 < started → ∀ text reason,
        (search.push? (.ofNat started) text).isSome = true ∧
          (search.complete? (.ofNat started)).isSome = true ∧
          (search.fail? (.ofNat started) reason).isSome = true) ∧
      ∀ keywords budget during, (∀ e ∈ during, e.isStart = false) →
        let id := UInt64.ofNat (started + 1)
        (∀ result, .finish id result ∉ during) →
          let run := events ++ .start keywords budget :: during
          let texts := during.filterMap (SearchEvent.text? id)
          let current : Session :=
            { id, keywords, budget, progress := .running
              entries := texts.flatMap fun text => entriesOf text.toList
              consumed := (String.join texts).utf8ByteSize
              received := String.join texts }
          (reactAll {} run).session = some current ∧
            ∀ result later, (∀ e ∈ later, e.isStart = false) →
              (reactAll {} (run ++ .finish id result :: later)).session = some (match result with
                | .ok () => { current with
                    entries := current.entries ++ [.info "Search completed"]
                    progress := .completed }
                | .error reason => { current with progress := .failed reason }) := by
  intro search started
  obtain ⟨hlast, hsession⟩ := numbered_reactAll events
  have hstart : ∀ keywords budget, search.start keywords budget =
      (.ofNat (started + 1), { session := some { id := .ofNat (started + 1), keywords, budget }
                               lastId := .ofNat (started + 1) }) := by
    intro keywords budget
    have hnext : search.lastId + 1 = .ofNat (started + 1) := by
      rw [hlast, UInt64.ofNat_add]
      rfl
    rw [start, hnext]
  refine ⟨hstart, fun id hid text reason => ?_, fun hpos text reason => ?_, ?_⟩
  · have hnone := modify?_eq_none_of_superseded events rfl hid
    refine ⟨hnone _, hnone _, hnone _, ?_, fun result => ?_⟩
    · rw [react, push?, hnone, Option.getD_none]
    · cases result with
      | ok done => exact congrArg (Option.getD · search) (hnone Session.complete)
      | error reason => exact congrArg (Option.getD · search) (hnone (·.fail reason))
  · have hheard : ∀ f, (search.modify? (.ofNat started) f).isSome = true := by
      intro f
      rw [Option.isSome_iff_ne_none, Ne, modify?_eq_none_iff, hsession,
        if_neg (Nat.pos_iff_ne_zero.1 hpos)]
      exact not_not_intro rfl
    exact ⟨hheard _, hheard _, hheard _⟩
  · intro keywords budget during hquiet id hopen run texts current
    let new : Session := { id, keywords, budget }
    have hnew : (search.react (.start keywords budget)).1.session = some new := by
      rw [react, hstart]
    have hcurrent : new.extendedAll texts = current := by
      simp [extendedAll, new, current]
    have hrun : (reactAll {} run).session = some current := by
      rw [reactAll_append, reactAll_cons, ← hcurrent]
      exact reactAll_open hnew rfl rfl hquiet hopen
    refine ⟨hrun, fun result later hlater => ?_⟩
    rw [reactAll_append]
    have hfinished := reactAll_finished hrun rfl result hlater
    cases result with
    | ok done => exact hfinished
    | error reason => exact hfinished

end GossipPanel.Panel
