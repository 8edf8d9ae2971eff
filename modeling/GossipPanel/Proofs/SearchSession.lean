import GossipPanel.Proofs.SearchReaction
import GossipPanel.Work.Job

/-!
# What a session makes of a stream

A session that is running reads every chunk as a text of its own: what it has received so far is
what it has turned into entries (`Session.ReadAll`), so a chunk is never refused and never read
twice.

* `Session.observe_append`: an answer is read behind its first part, which has been read already;
  `Session.push_of_running`: what a chunk adds to a running session.
* `Session.hear`: what a report of its search does to a session; `hear_searchActions` is the
  session after all the reports of a stream.
* `update_search_cases`: an action starts a search, or the current session hears it if it is a
  report of its search.
-/

namespace GossipPanel.Panel

open Node Text Work

/-- The search that a report belongs to. -/
def Action.session? : Action → Option UInt64
  | searchChunk session _ | searchFinished session _ => some session
  | _ => none

namespace Session

variable {s : Session}

/-- All that has been received has been turned into entries. -/
def ReadAll (s : Session) : Prop :=
  s.consumed = s.received.utf8ByteSize

def extended (s : Session) (text : String) : Session :=
  { s with
    entries := s.entries ++ entriesOf text.toList
    consumed := s.consumed + text.utf8ByteSize
    received := s.received ++ text }

theorem observe_append (hrunning : s.isRunning = true) {seen : String}
    (hseen : seen.utf8ByteSize = s.consumed) (unseen : String) :
    s.observe (seen ++ unseen) =
      { s with
        consumed := (seen ++ unseen).utf8ByteSize
        entries := s.entries ++ entriesOf unseen.toList } := by
  have hdrop : dropBytes? s.consumed (seen ++ unseen).toList = some unseen.toList := by
    rw [← hseen, ← byteLength_toList, String.toList_append]
    exact dropBytes?_byteLength seen.toList unseen.toList
  rw [observe, if_pos hrunning, hdrop]

/-- A chunk is read as the end of all that has been received. -/
theorem push_eq_observe (hrunning : s.isRunning = true) (chunk : String) :
    s.push chunk = { s.observe (s.received ++ chunk) with received := s.received ++ chunk } := by
  rw [push, if_pos hrunning]

theorem push_of_running (hrunning : s.isRunning = true) (hread : s.ReadAll) (text : String) :
    s.push text = s.extended text := by
  have hsize : (s.received ++ text).utf8ByteSize = s.consumed + text.utf8ByteSize := by
    rw [hread, String.utf8ByteSize_append]
  rw [push_eq_observe hrunning, observe_append hrunning hread.symm, hsize, extended]

theorem readAll_extended (hread : s.ReadAll) (text : String) : (s.extended text).ReadAll := by
  have hconsumed : s.consumed = s.received.utf8ByteSize := hread
  simp only [ReadAll, extended, String.utf8ByteSize_append, hconsumed]

/-- What a report of its search does to a session. -/
def hear (s : Session) : Action → Session
  | .searchChunk _ text => s.push text
  | .searchFinished _ (.ok ()) => s.complete
  | .searchFinished _ (.error reason) => s.fail reason
  | _ => s

theorem id_observe (s : Session) (answer : String) : (s.observe answer).id = s.id := by
  unfold observe
  split
  · split <;> rfl
  · rfl

@[simp]
theorem id_hear (s : Session) (a : Action) : (s.hear a).id = s.id := by
  have hpush : ∀ text, (s.push text).id = s.id := by
    intro text
    rw [push]
    split
    · exact s.id_observe (s.received ++ text)
    · rfl
  have hcomplete : s.complete.id = s.id := by
    rw [complete]
    split <;> rfl
  have hfail : ∀ reason, (s.fail reason).id = s.id := by
    intro reason
    rw [fail]
    split <;> rfl
  cases a with
  | searchChunk session text => exact hpush text
  | searchFinished session result =>
    cases result with
    | ok done => exact hcomplete
    | error reason => exact hfail reason
  | _ => rfl

theorem id_hearAll (s : Session) (reports : List Action) : (reports.foldl hear s).id = s.id := by
  induction reports generalizing s with
  | nil => rfl
  | cons a reports ih => rw [List.foldl_cons, ih, id_hear]

/-- A running session with some more texts. -/
def extendedAll (s : Session) (texts : List String) : Session :=
  { s with
    entries := s.entries ++ texts.flatMap fun text => entriesOf text.toList
    consumed := s.consumed + (String.join texts).utf8ByteSize
    received := s.received ++ String.join texts }

theorem hear_searchChunks (hrunning : s.isRunning = true) (hread : s.ReadAll) (session : UInt64)
    (texts : List String) :
    (texts.map (Action.searchChunk session)).foldl hear s = s.extendedAll texts := by
  induction texts generalizing s with
  | nil => simp [extendedAll]
  | cons text texts ih =>
    have hpush : s.hear (.searchChunk session text) = s.extended text :=
      push_of_running hrunning hread text
    have hrest := ih (s := s.extended text) hrunning (readAll_extended hread text)
    rw [List.map_cons, List.foldl_cons, hpush, hrest]
    simp [extended, extendedAll, List.append_assoc, Nat.add_assoc, String.append_assoc]

/-- How a session ends with its stream. -/
def endedBy (s : Session) : Except Failure Unit → Session
  | .ok () => { s with entries := s.entries ++ [.info completedText], progress := .completed }
  | .error e => { s with progress := .failed e.message }

theorem hear_searchActions (hrunning : s.isRunning = true) (hread : s.ReadAll) (session : UInt64)
    (texts : List String) (ending : Except Failure Unit) :
    (searchActions session ⟨texts, some ending⟩).foldl hear s =
      (s.extendedAll texts).endedBy ending := by
  have hstill : (s.extendedAll texts).isRunning = true := hrunning
  rw [searchActions, List.foldl_append, hear_searchChunks hrunning hread, List.foldl_cons,
    List.foldl_nil]
  cases ending with
  | ok done => exact if_pos hstill
  | error e => exact if_pos hstill

end Session

/-! ## The search after an action -/

def freshSession (search : UInt64 × SearchQuery) : Session :=
  { id := search.1, keywords := search.2.keywords, budget := search.2.budget }

theorem readAll_freshSession (search : UInt64 × SearchQuery) : (freshSession search).ReadAll := by
  rfl

theorem Search.getD_modify? (s : Search) (id : UInt64) (f : Session → Session) :
    (s.modify? id f).getD s =
      { s with session := s.session.map fun session =>
          if session.id = id then f session else session } := by
  obtain ⟨session, lastId⟩ := s
  cases session with
  | none => rfl
  | some session =>
    by_cases hid : session.id = id
    · simp [modify?, current?, Option.filter, hid]
    · simp [modify?, current?, Option.filter, hid]

theorem Search.react_chunk (s : Search) (id : UInt64) (text : String) :
    s.react (.chunk id text) =
      ({ s with session := s.session.map fun session =>
          if session.id = id then session.push text else session }, none) := by
  rw [react, push?, getD_modify?]

theorem Search.react_finish_ok (s : Search) (id : UInt64) :
    s.react (.finish id (.ok ())) =
      ({ s with session := s.session.map fun session =>
          if session.id = id then session.complete else session }, none) := by
  rw [react, finish?, complete?, getD_modify?]

theorem Search.react_finish_error (s : Search) (id : UInt64) (reason : String) :
    s.react (.finish id (.error reason)) =
      ({ s with session := s.session.map fun session =>
          if session.id = id then session.fail reason else session }, none) := by
  rw [react, finish?, fail?, getD_modify?]

theorem Search.react_of_session? (s : Search) (app : App) {a : Action} {id : UInt64}
    (ha : a.session? = some id) :
    s.react (app.searchEvent a) =
      ({ s with session := s.session.map fun session =>
          if session.id = id then session.hear a else session }, none) := by
  cases a with
  | searchChunk session text =>
    obtain rfl := Option.some.inj ha
    exact s.react_chunk session text
  | searchFinished session result =>
    obtain rfl := Option.some.inj ha
    cases result with
    | ok done => exact s.react_finish_ok session
    | error reason => exact s.react_finish_error session reason
  | _ => cases ha

theorem App.startEvent_cases (keywords : String) (budget : UInt32) :
    startEvent keywords budget = .unrelated ∨
      ∃ keywords' budget', startEvent keywords budget = .start keywords' budget' := by
  rw [startEvent]
  split
  · exact .inl rfl
  · exact .inr ⟨_, _, rfl⟩

theorem App.searchEvent_cases (app : App) {a : Action} (ha : a.session? = none) :
    app.searchEvent a = .unrelated ∨
      ∃ keywords budget, app.searchEvent a = .start keywords budget := by
  cases a with
  | searchChunk session text => cases ha
  | searchFinished session result => cases ha
  | startSearch keywords budget => exact startEvent_cases keywords budget
  | submit line =>
    rw [searchEvent]
    split
    · exact startEvent_cases _ _
    · split
      · exact startEvent_cases _ _
      · exact .inl rfl
    · exact .inl rfl
  | _ => exact .inl rfl

/-- An action starts a search, under the next number, or it starts none, and the current session
hears it if it is a report of its search. -/
theorem update_search_cases (app : App) (a : Action) :
    (∃ query, a.session? = none ∧
      (update app a).2.filterMap Effect.search? = [(app.search.lastId + 1, query)] ∧
      (update app a).1.search =
        { session := some (freshSession (app.search.lastId + 1, query))
          lastId := app.search.lastId + 1 }) ∨
      ((update app a).2.filterMap Effect.search? = [] ∧
        (update app a).1.search.lastId = app.search.lastId ∧
        (update app a).1.search.session = app.search.session.map fun session =>
          if a.session? = some session.id then session.hear a else session) := by
  obtain ⟨hsearch, hstarted⟩ := update_searchStep app a
  cases ha : a.session? with
  | some id =>
    rw [app.search.react_of_session? app ha] at hsearch hstarted
    have hcomm : ∀ session : Session, (some id = some session.id) = (session.id = id) := by
      intro session
      rw [Option.some.injEq]
      exact propext eq_comm
    refine .inr ⟨hstarted, ?_, ?_⟩
    · rw [hsearch]
    · simp only [hsearch, hcomm]
  | none =>
    obtain hevent | ⟨keywords, budget, hevent⟩ := app.searchEvent_cases ha
    · rw [hevent] at hsearch hstarted
      refine .inr ⟨hstarted, ?_, ?_⟩
      · rw [hsearch]
        rfl
      · simp [hsearch, Search.react]
    · rw [hevent] at hsearch hstarted
      exact .inl ⟨⟨keywords, budget⟩, rfl, hstarted, hsearch⟩

end GossipPanel.Panel
