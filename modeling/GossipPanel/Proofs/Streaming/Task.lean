import GossipPanel.Proofs.SearchSession

/-!
# The task of a search

A search is a task of two loops. The client reads the answer of the node and hands its texts over
through a channel of limited size; the forwarding loop takes them out of the channel and reports
them. When both are done, the end of the search is reported.

* `SearchTask.readOn`, `forward?`, `finish?`: the steps of a task, one for each loop and the last.
* `SearchTask.remaining`: the reports that are still to come. For a task that begins they are the
  `searchActions` of the whole answer, and every report is the first of them.
* `SearchTask.work`: bounds the steps that are left; `exists_step` says that a task is never stuck.
-/

namespace GossipPanel.Work

open Node Panel Text

/-- What a node sends in answer to a search: chunks of bytes, and then the end of the answer or a
failure of the transport. -/
structure Body where
  chunks : List (List UInt8)
  ending : Except Failure Unit

/-- The number of texts that the channel of a search holds. -/
def channelCapacity : Nat := 100

/-- How far the client is with an answer. -/
inductive Reader where
  /-- Waits for the next chunk. -/
  | reads (chunks : List (List UInt8)) (carry : Utf8.Carry)
  /-- Waits for room in the channel. -/
  | offers (text : String) (next : Reader)
  | ended (result : Except Failure Unit)

/-- The client with a text at hand; an empty one is not handed over. -/
def Reader.offering (text : String) (next : Reader) : Reader :=
  if text = "" then next else offers text next

structure SearchTask where
  /-- How the answer is going to end. -/
  ending : Except Failure Unit
  reader : Reader
  /-- The texts that the client has handed over, oldest first. -/
  channel : List String := []

namespace SearchTask

def begin (body : Body) : SearchTask :=
  { ending := body.ending, reader := .reads body.chunks {} }

/-- The client after the last chunk. What the decoder holds back is lost if the transport fails. -/
def endReader (ending : Except Failure Unit) (carry : Utf8.Carry) : Reader :=
  match ending with
  | .ok () => .offering carry.finish (.ended (.ok ()))
  | .error e => .ended (.error e)

/-- A step of the client; it waits while the channel is full. -/
def readOn (t : SearchTask) : SearchTask :=
  match t.reader with
  | .reads (chunk :: chunks) carry =>
    { t with reader := .offering (carry.push chunk).1 (.reads chunks (carry.push chunk).2) }
  | .reads [] carry => { t with reader := endReader t.ending carry }
  | .offers text next =>
    if t.channel.length < channelCapacity then
      { t with reader := next, channel := t.channel ++ [text] }
    else t
  | .ended _ => t

/-- A step of the forwarding loop: the oldest text of the channel is reported. -/
def forward? (session : UInt64) (t : SearchTask) : Option (Action × SearchTask) :=
  match t.channel with
  | [] => none
  | text :: channel => some (.searchChunk session text, { t with channel })

/-- The last report: the client is done, and the channel is empty. -/
def finish? (session : UInt64) (t : SearchTask) : Option Action :=
  match t.reader, t.channel with
  | .ended result, [] => some (.searchFinished session (result.mapError Failure.message))
  | _, _ => none

end SearchTask

/-! ## The reports to come -/

/-- The texts that a decoder gives for the rest of an answer, none of them empty. -/
def textsFrom (carry : Utf8.Carry) (chunks : List (List UInt8)) (ended : Bool) : List String :=
  ((carry.pushAll chunks).1 ++ if ended then [(carry.pushAll chunks).2.finish] else []).filter
    (· != "")

theorem streamTexts_eq (chunks : List (List UInt8)) (ended : Bool) :
    Client.streamTexts chunks ended = textsFrom {} chunks ended := rfl

theorem textsFrom_cons (carry : Utf8.Carry) (chunk : List UInt8) (chunks : List (List UInt8))
    (ended : Bool) :
    textsFrom carry (chunk :: chunks) ended =
      [(carry.push chunk).1].filter (· != "") ++ textsFrom (carry.push chunk).2 chunks ended := by
  rw [textsFrom, textsFrom, ← List.filter_append]
  rfl

theorem join_filter_ne_empty (texts : List String) :
    String.join (texts.filter (· != "")) = String.join texts := by
  induction texts with
  | nil => rfl
  | cons text texts ih =>
    by_cases htext : text = ""
    · simp [htext, ih]
    · simp [htext, ih]

theorem join_streamTexts (chunks : List (List UInt8)) (ended : Bool) :
    String.join (Client.streamTexts chunks ended) =
      String.join (Utf8.Carry.pushAll {} chunks).1 ++
        if ended then (Utf8.Carry.pushAll {} chunks).2.finish else "" := by
  rw [streamTexts_eq, textsFrom, join_filter_ne_empty]
  cases ended <;> simp [String.join_append]

theorem empty_not_mem_streamTexts (chunks : List (List UInt8)) (ended : Bool) :
    "" ∉ Client.streamTexts chunks ended := by
  rw [streamTexts_eq, textsFrom, List.mem_filter]
  simp

/-- What is left of the stream for a client. -/
def Reader.stream (ending : Except Failure Unit) : Reader → Stream
  | reads chunks carry => ⟨textsFrom carry chunks ending.isOk, some ending⟩
  | offers text next => ⟨text :: (next.stream ending).texts, (next.stream ending).ending⟩
  | ended result => ⟨[], some result⟩

theorem Reader.stream_offering (ending : Except Failure Unit) (text : String) (next : Reader) :
    (Reader.offering text next).stream ending =
      ⟨[text].filter (· != "") ++ (next.stream ending).texts, (next.stream ending).ending⟩ := by
  by_cases htext : text = ""
  · rw [offering, if_pos htext]
    simp [htext]
  · rw [offering, if_neg htext]
    simp [htext, stream]

namespace SearchTask

variable {t u : SearchTask} {session : UInt64} {a : Action}

/-- The reports that are still to come. -/
def remaining (session : UInt64) (t : SearchTask) : List Action :=
  searchActions session
    ⟨t.channel ++ (t.reader.stream t.ending).texts, (t.reader.stream t.ending).ending⟩

theorem stream_endReader (ending : Except Failure Unit) (carry : Utf8.Carry) :
    (endReader ending carry).stream ending = (Reader.reads [] carry).stream ending := by
  cases ending with
  | ok done =>
    rw [endReader, Reader.stream_offering]
    simp [Reader.stream, textsFrom, Utf8.Carry.pushAll, Except.isOk, Except.toBool]
  | error e => rfl

/-- The client neither loses a text nor hands one over twice. -/
theorem remaining_readOn (session : UInt64) (t : SearchTask) :
    t.readOn.remaining session = t.remaining session := by
  obtain ⟨ending, reader, channel⟩ := t
  cases reader with
  | reads chunks carry =>
    cases chunks with
    | nil => simp only [readOn, remaining, stream_endReader]
    | cons chunk chunks =>
      simp only [readOn, remaining, Reader.stream_offering, Reader.stream, textsFrom_cons]
  | offers text next =>
    by_cases hroom : channel.length < channelCapacity
    · simp [readOn, remaining, hroom, Reader.stream]
    · simp [readOn, hroom]
  | ended result => rfl

theorem remaining_forward (h : t.forward? session = some (a, u)) :
    t.remaining session = a :: u.remaining session := by
  obtain ⟨ending, reader, channel⟩ := t
  cases channel with
  | nil => cases h
  | cons text channel =>
    obtain ⟨rfl, rfl⟩ := Prod.mk.inj (Option.some.inj h)
    rfl

theorem remaining_finish (h : t.finish? session = some a) : t.remaining session = [a] := by
  obtain ⟨ending, reader, channel⟩ := t
  cases reader with
  | ended result =>
    cases channel with
    | nil =>
      obtain rfl := Option.some.inj h
      rfl
    | cons text channel => cases h
  | reads chunks carry => cases h
  | offers text next => cases h

theorem session?_of_mem_remaining (ha : a ∈ t.remaining session) : a.session? = some session := by
  rw [remaining, searchActions, List.mem_append] at ha
  rcases ha with ha | ha
  · obtain ⟨text, -, rfl⟩ := List.mem_map.1 ha
    rfl
  · cases hending : (t.reader.stream t.ending).ending with
    | none => simp [hending] at ha
    | some ending =>
      obtain rfl : a = _ := by simpa [hending] using ha
      rfl

theorem session?_of_forward (h : t.forward? session = some (a, u)) : a.session? = some session := by
  apply session?_of_mem_remaining (t := t)
  rw [remaining_forward h]
  exact List.mem_cons_self

theorem session?_of_finish (h : t.finish? session = some a) : a.session? = some session := by
  apply session?_of_mem_remaining (t := t)
  rw [remaining_finish h]
  exact List.mem_cons_self

end SearchTask

/-! ## The steps that are left -/

def Reader.work : Reader → Nat
  | reads chunks _ => 3 * chunks.length + 3
  | offers _ next => next.work + 2
  | ended _ => 0

theorem Reader.work_offering_le (text : String) (next : Reader) :
    (Reader.offering text next).work ≤ next.work + 2 := by
  rw [offering]
  split
  · omega
  · exact Nat.le_refl _

namespace SearchTask

variable {t u : SearchTask} {session : UInt64} {a : Action}

/-- Every chunk takes one step of the client to read, one to hand over and one of the forwarding
loop, at most; so does the end; and one more step finishes the task. -/
def work (t : SearchTask) : Nat :=
  t.reader.work + t.channel.length + 1

theorem work_endReader (ending : Except Failure Unit) (carry : Utf8.Carry) :
    (endReader ending carry).work ≤ 2 := by
  cases ending with
  | ok done => exact Reader.work_offering_le _ _
  | error e => exact Nat.zero_le _

theorem work_readOn_of_reads {ending : Except Failure Unit} {chunks : List (List UInt8)}
    {carry : Utf8.Carry} {channel : List String} :
    (readOn ⟨ending, .reads chunks carry, channel⟩).work <
      work ⟨ending, .reads chunks carry, channel⟩ := by
  cases chunks with
  | nil =>
    have hend := work_endReader ending carry
    simp only [readOn, work, Reader.work, List.length_nil]
    omega
  | cons chunk chunks =>
    have hoffer := Reader.work_offering_le (carry.push chunk).1
      (.reads chunks (carry.push chunk).2)
    simp only [readOn, work, Reader.work, List.length_cons] at hoffer ⊢
    omega

theorem work_readOn_of_offers {ending : Except Failure Unit} {text : String} {next : Reader}
    {channel : List String} (hroom : channel.length < channelCapacity) :
    (readOn ⟨ending, .offers text next, channel⟩).work <
      work ⟨ending, .offers text next, channel⟩ := by
  simp only [readOn, if_pos hroom, work, Reader.work, List.length_append, List.length_singleton]
  omega

theorem readOn_eq_or_work_lt (t : SearchTask) : t.readOn = t ∨ t.readOn.work < t.work := by
  obtain ⟨ending, reader, channel⟩ := t
  cases reader with
  | reads chunks carry => exact .inr work_readOn_of_reads
  | offers text next =>
    by_cases hroom : channel.length < channelCapacity
    · exact .inr (work_readOn_of_offers hroom)
    · exact .inl (if_neg hroom)
  | ended result => exact .inl rfl

theorem work_forward (h : t.forward? session = some (a, u)) : u.work < t.work := by
  obtain ⟨ending, reader, channel⟩ := t
  cases channel with
  | nil => cases h
  | cons text channel =>
    obtain ⟨rfl, rfl⟩ := Prod.mk.inj (Option.some.inj h)
    simp only [work, List.length_cons]
    omega

/-- A task is never stuck: a text in the channel can be reported; if there is none, the client has
something to read or room for what it has read, or it is done and the end can be reported. -/
theorem exists_step (session : UInt64) (t : SearchTask) :
    t.readOn.work < t.work ∨ (t.forward? session).isSome = true ∨
      (t.finish? session).isSome = true := by
  obtain ⟨ending, reader, channel⟩ := t
  cases channel with
  | cons text channel => exact .inr (.inl rfl)
  | nil =>
    cases reader with
    | ended result => exact .inr (.inr rfl)
    | reads chunks carry => exact .inl work_readOn_of_reads
    | offers text next => exact .inl (work_readOn_of_offers (by decide))

end SearchTask

end GossipPanel.Work
