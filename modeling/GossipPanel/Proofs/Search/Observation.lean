import GossipPanel.Proofs.SearchSession
import Mathlib.Data.List.Infix

/-!
# Reading an answer that grows

A session reads an answer from where it stopped, whether it is shown the whole answer so far or
receives it chunk by chunk.

* `Session.call`: what can be done to a session; `Session.Grows`: what no call undoes.
* `Session.observe_cases`: an answer is read behind its first part, which has been read already, or
  it is refused.
* `Shown`: the answers that a stream shows, all of it after each chunk, with any of them again.
* `observation_is_incremental`: the chunks of a stream and the answers that it shows are read alike,
  and what has been read is never read again or lost.
-/

namespace GossipPanel.Panel

open Text

/-- What can be done to a session. -/
inductive SessionCall where
  | observe (answer : String)
  | push (chunk : String)
  | complete
  | fail (reason : String)
  deriving DecidableEq, Repr

namespace Session

variable {s : Session} {answer seen unseen chunk : String} {chunks : List String}

def call (s : Session) : SessionCall → Session
  | .observe answer => s.observe answer
  | .push chunk => s.push chunk
  | .complete => s.complete
  | .fail reason => s.fail reason

def callAll (s : Session) (calls : List SessionCall) : Session :=
  calls.foldl call s

/-! ## One answer -/

theorem isValid_iff {n : Nat} :
    String.Pos.Raw.IsValid answer ⟨n⟩ ↔
      ∃ seen unseen, answer = seen ++ unseen ∧ seen.utf8ByteSize = n := by
  rw [String.Pos.Raw.isValid_iff_exists_append]
  constructor
  · rintro ⟨seen, unseen, rfl, hn⟩
    exact ⟨seen, unseen, rfl, (congrArg String.Pos.Raw.byteIdx hn).symm⟩
  · rintro ⟨seen, unseen, rfl, rfl⟩
    exact ⟨seen, unseen, rfl, rfl⟩

theorem observe_of_not_isValid (h : ¬String.Pos.Raw.IsValid answer ⟨s.consumed⟩) :
    s.observe answer = s := by
  rw [observe]
  split
  · cases hdrop : dropBytes? s.consumed answer.toList with
    | none => rfl
    | some unseen =>
      obtain ⟨seen, hseen, hsize⟩ := dropBytes?_eq_some_iff.1 hdrop
      refine absurd (isValid_iff.2 ⟨String.ofList seen, String.ofList unseen, ?_, ?_⟩) h
      · rw [← String.ofList_append, ← hseen, String.ofList_toList]
      · rw [byteLength_ofList, hsize]
  · rfl

theorem not_isValid_of_lt {n : Nat} (h : answer.utf8ByteSize < n) :
    ¬String.Pos.Raw.IsValid answer ⟨n⟩ := by
  rw [isValid_iff]
  rintro ⟨seen, unseen, rfl, rfl⟩
  rw [String.utf8ByteSize_append] at h
  omega

theorem observe_cases (hrunning : s.isRunning = true) (answer : String) :
    (∃ seen unseen, answer = seen ++ unseen ∧ seen.utf8ByteSize = s.consumed ∧
        s.observe answer =
          { s with
            consumed := answer.utf8ByteSize
            entries := s.entries ++ entriesOf unseen.toList }) ∨
      s.observe answer = s := by
  by_cases hvalid : String.Pos.Raw.IsValid answer ⟨s.consumed⟩
  · obtain ⟨seen, unseen, rfl, hseen⟩ := isValid_iff.1 hvalid
    exact .inl ⟨seen, unseen, rfl, hseen, observe_append hrunning hseen unseen⟩
  · exact .inr (observe_of_not_isValid hvalid)

/-! ## What no call undoes -/

/-- Nothing that has been read is read again or lost. -/
structure Grows (s t : Session) : Prop where
  consumed : s.consumed ≤ t.consumed
  entries : s.entries <+: t.entries

theorem Grows.refl (s : Session) : s.Grows s :=
  ⟨le_refl _, List.prefix_refl _⟩

theorem Grows.trans {t u : Session} (h : s.Grows t) (h' : t.Grows u) : s.Grows u :=
  ⟨h.consumed.trans h'.consumed, h.entries.trans h'.entries⟩

theorem grows_observe (s : Session) (answer : String) : s.Grows (s.observe answer) := by
  cases hrunning : s.isRunning with
  | false =>
    rw [observe_of_not_running hrunning]
    exact .refl s
  | true =>
    obtain ⟨seen, unseen, rfl, hseen, hobserve⟩ | hobserve := observe_cases hrunning answer
    · rw [hobserve]
      refine ⟨?_, List.prefix_append ..⟩
      simp only [String.utf8ByteSize_append]
      omega
    · rw [hobserve]
      exact .refl s

theorem call_of_not_running (h : s.isRunning = false) (c : SessionCall) : s.call c = s := by
  cases c with
  | observe answer => exact observe_of_not_running h answer
  | push chunk => exact push_of_not_running h chunk
  | complete => exact complete_of_not_running h
  | fail reason => exact fail_of_not_running h reason

theorem grows_call (s : Session) (c : SessionCall) : s.Grows (s.call c) := by
  cases hrunning : s.isRunning with
  | false =>
    rw [call_of_not_running hrunning]
    exact .refl s
  | true =>
    cases c with
    | observe answer => exact grows_observe s answer
    | push chunk =>
      obtain ⟨hconsumed, hentries⟩ := grows_observe s (s.received ++ chunk)
      rw [call, push_eq_observe hrunning]
      exact ⟨hconsumed, hentries⟩
    | complete =>
      rw [call, complete, if_pos hrunning]
      exact ⟨le_refl _, List.prefix_append ..⟩
    | fail reason =>
      rw [call, fail, if_pos hrunning]
      exact ⟨le_refl _, List.prefix_refl _⟩

theorem grows_callAll (s : Session) (calls : List SessionCall) : s.Grows (s.callAll calls) := by
  induction calls generalizing s with
  | nil => exact .refl s
  | cons c calls ih => exact (s.grows_call c).trans (ih (s.call c))

theorem callAll_of_not_running (h : s.isRunning = false) (calls : List SessionCall) :
    s.callAll calls = s := by
  induction calls with
  | nil => rfl
  | cons c calls ih =>
    have hcall : s.callAll (c :: calls) = (s.call c).callAll calls := rfl
    rw [hcall, call_of_not_running h, ih]

/-! ## The chunks of a stream -/

theorem pushAll_of_running (hrunning : s.isRunning = true) (hread : s.ReadAll)
    (chunks : List String) : chunks.foldl push s = s.extendedAll chunks := by
  rw [← hear_searchChunks hrunning hread s.id, List.foldl_map]
  rfl

end Session

/-- The answers that a stream shows which arrives in these chunks: all of it after each chunk, and
any answer that has been shown once more. -/
inductive Shown : List String → List String → Prop
  | none : Shown [] []
  | next {chunks answers : List String} (chunk : String) (h : Shown chunks answers) :
      Shown (chunks ++ [chunk]) (answers ++ [String.join (chunks ++ [chunk])])
  | again {chunks answers : List String} {answer : String} (h : Shown chunks answers)
      (hshown : answer ∈ answers) : Shown chunks (answers ++ [answer])

theorem shown_inits (chunks : List String) :
    Shown chunks (chunks.inits.tail.map String.join) := by
  induction chunks using List.reverseRecOn with
  | nil => exact .none
  | append_singleton chunks chunk ih =>
    have hinits : (chunks ++ [chunk]).inits = chunks.inits ++ [chunks ++ [chunk]] := by
      simp [List.inits_append]
    have hne : chunks.inits ≠ [] := by cases chunks <;> simp
    rw [hinits, List.tail_append_of_ne_nil hne, List.map_append]
    exact ih.next chunk

theorem Shown.isPrefix {chunks answers : List String} (h : Shown chunks answers) :
    ∀ answer ∈ answers, ∃ rest, String.join chunks = answer ++ rest := by
  induction h with
  | none => nofun
  | @next chunks answers chunk h ih =>
    intro answer hanswer
    obtain hanswer | rfl := List.mem_append.1 hanswer |>.imp_right List.mem_singleton.1
    · obtain ⟨rest, hrest⟩ := ih answer hanswer
      exact ⟨rest ++ chunk, by simp [String.join_append, hrest, String.append_assoc]⟩
    · exact ⟨"", String.append_empty.symm⟩
  | again h hshown ih =>
    intro answer hanswer
    obtain hanswer | rfl := List.mem_append.1 hanswer |>.imp_right List.mem_singleton.1
    · exact ih answer hanswer
    · exact ih answer hshown

namespace Session

variable {s : Session} {answers chunks : List String}

theorem observe_of_isPrefix {answer rest : String}
    (h : s.consumed = (answer ++ rest).utf8ByteSize) : s.observe answer = s := by
  cases hrunning : s.isRunning with
  | false => exact observe_of_not_running hrunning answer
  | true =>
    rw [String.utf8ByteSize_append] at h
    by_cases hrest : rest.utf8ByteSize = 0
    · have hsize : answer.utf8ByteSize = s.consumed := by omega
      have hobserve := observe_append hrunning hsize ""
      rw [String.append_empty] at hobserve
      rw [hobserve, hsize]
      simp [entriesOf, splitOn]
    · exact observe_of_not_isValid (not_isValid_of_lt (by omega))

/-- What a session has read when it has been shown the answers of a stream. -/
def shown (s : Session) (chunks : List String) : Session :=
  { s with
    entries := s.entries ++ chunks.flatMap fun chunk => entriesOf chunk.toList
    consumed := (String.join chunks).utf8ByteSize }

theorem observeAll_of_shown (hrunning : s.isRunning = true) (hstart : s.consumed = 0)
    (h : Shown chunks answers) : answers.foldl observe s = s.shown chunks := by
  induction h with
  | none => simp [shown, ← hstart]
  | @next chunks answers chunk h ih =>
    have hstill : (s.shown chunks).isRunning = true := hrunning
    have hjoin : String.join (chunks ++ [chunk]) = String.join chunks ++ chunk := by
      simp [String.join_append]
    have hobserve : (s.shown chunks).observe (String.join chunks ++ chunk) =
        s.shown (chunks ++ [chunk]) := by
      rw [observe_append hstill rfl]
      simp [shown, hjoin, List.append_assoc]
    rw [List.foldl_append, ih, List.foldl_cons, List.foldl_nil, hjoin, hobserve]
  | @again chunks answers answer h hshown ih =>
    obtain ⟨rest, hrest⟩ := h.isPrefix answer hshown
    have hread : (s.shown chunks).consumed = (answer ++ rest).utf8ByteSize := by
      rw [← hrest]
      rfl
    rw [List.foldl_append, ih, List.foldl_cons, List.foldl_nil, observe_of_isPrefix hread]

end Session

open Session

/-- **What a session reads of a growing answer.**

* A new session reads the chunks that it receives like the answers that the stream shows, each once
  or several times: its entries are those of the non-empty lines of every chunk, in order.
* A running session reads an answer that has a character boundary where reading has to go on, behind
  that boundary and up to its end, and likewise all that it has received when a chunk arrives.
* An answer that is too short, or that has no character boundary there, changes nothing.
* Whatever is done to a session, it never goes back in the answer, and its entries stay. -/
theorem observation_is_incremental :
    (∀ (id : UInt64) (keywords : String) (budget : UInt32) (chunks : List String),
      let new : Session := { id, keywords, budget }
      let pushed := chunks.foldl push new
      pushed.entries = (chunks.flatMap fun chunk =>
          ((chunk.toList.splitOn '\n').filter (!·.isEmpty)).map fun line =>
            Entry.ofLine (String.ofList line)) ∧
        pushed.consumed = (String.join chunks).utf8ByteSize ∧ pushed.progress = .running ∧
        Shown chunks (chunks.inits.tail.map String.join) ∧
        ∀ answers, Shown chunks answers →
          let observed := answers.foldl observe new
          observed.entries = pushed.entries ∧ observed.consumed = pushed.consumed ∧
            observed.progress = pushed.progress) ∧
      (∀ (s : Session) (answer : String), s.isRunning = true →
        String.Pos.Raw.IsValid answer ⟨s.consumed⟩ →
          ∃ seen unseen, answer = seen ++ unseen ∧ seen.utf8ByteSize = s.consumed ∧
            s.observe answer =
              { s with
                consumed := answer.utf8ByteSize
                entries := s.entries ++ entriesOf unseen.toList }) ∧
      (∀ (s : Session) (chunk : String), s.isRunning = true →
        s.push chunk =
          { s.observe (s.received ++ chunk) with received := s.received ++ chunk }) ∧
      (∀ (s : Session) (answer : String),
        answer.utf8ByteSize < s.consumed ∨ ¬String.Pos.Raw.IsValid answer ⟨s.consumed⟩ →
          s.observe answer = s) ∧
      ∀ (s : Session) (calls : List SessionCall),
        s.consumed ≤ (s.callAll calls).consumed ∧ s.entries <+: (s.callAll calls).entries := by
  refine ⟨fun id keywords budget chunks => ?_, fun s answer hrunning hvalid => ?_,
    fun s chunk hrunning => push_eq_observe hrunning chunk, fun s answer hrefused => ?_,
    fun s calls => ⟨(s.grows_callAll calls).consumed, (s.grows_callAll calls).entries⟩⟩
  · intro new pushed
    have hread : new.ReadAll := rfl
    have hpushed : pushed = new.extendedAll chunks := pushAll_of_running rfl hread chunks
    refine ⟨?_, ?_, by rw [hpushed]; rfl, shown_inits chunks, fun answers hanswers => ?_⟩
    · simp only [hpushed, extendedAll, ← entriesOf_eq]
      rfl
    · rw [hpushed]
      exact Nat.zero_add _
    · intro observed
      have hobserved : observed = new.shown chunks := observeAll_of_shown rfl rfl hanswers
      rw [hobserved, hpushed]
      exact ⟨rfl, (Nat.zero_add _).symm, rfl⟩
  · obtain ⟨seen, unseen, rfl, hseen⟩ := isValid_iff.1 hvalid
    exact ⟨seen, unseen, rfl, hseen, observe_append hrunning hseen unseen⟩
  · exact observe_of_not_isValid (hrefused.elim not_isValid_of_lt id)

end GossipPanel.Panel
