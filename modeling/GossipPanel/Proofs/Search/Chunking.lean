import GossipPanel.Proofs.Search.Entries
import GossipPanel.Proofs.Search.Lifecycle

/-!
# Cutting an answer into chunks

The lines of an entry's text are those of one chunk: a cut inside a line makes two entries of it.
No text is lost, repeated or invented by this, and a cut beside a line feed changes nothing.

* `join_line_entriesOf`: the entries of a text give back the text without its line feeds.
* `entriesOf_append`: a text that is cut beside a line feed has the entries of both its parts.
* `readAll_reactAll`: a session of a search has read all that it has received.
* `chunking_keeps_text`: this for all chunks that a running session receives.
-/

namespace GossipPanel.Panel

open Text

/-! ## The text of an entry -/

theorem map_line_entriesOf (cs : List Char) :
    (entriesOf cs).map Entry.line =
      ((splitOn '\n' cs).filter (!·.isEmpty)).map String.ofList := by
  rw [entriesOf, List.map_map]
  exact List.map_congr_left fun line _ => Entry.line_ofLine (String.ofList line)

theorem join_line_entriesOf (cs : List Char) :
    String.join ((entriesOf cs).map Entry.line) = String.ofList (cs.filter (· != '\n')) := by
  rw [map_line_entriesOf, ← flatten_splitOn, ← List.flatten_filter_not_isEmpty,
    ← String.toList_inj, String.toList_join, String.toList_ofList, List.flatMap_map]
  simp [List.flatMap_id']

theorem line_ne_empty_of_mem_entriesOf {cs : List Char} {e : Entry} (h : e ∈ entriesOf cs) :
    e.line ≠ "" := by
  have hline : e.line ∈ (entriesOf cs).map Entry.line := List.mem_map_of_mem h
  rw [map_line_entriesOf] at hline
  obtain ⟨line, hmem, hline⟩ := List.mem_map.1 hline
  have hne : line ≠ [] := by simpa using (List.mem_filter.1 hmem).2
  rw [← hline]
  simpa using hne

/-! ## Cuts -/

@[simp]
theorem entriesOf_nil : entriesOf [] = [] := by
  simp [entriesOf, splitOn]

theorem entriesOf_append_feed (as bs : List Char) :
    entriesOf (as ++ '\n' :: bs) = entriesOf as ++ entriesOf bs := by
  simp only [entriesOf_eq, List.splitOn_append_cons_self, List.filter_append, List.map_append]

/-- A text that is cut beside a line feed, or at one of its ends, has the entries of both parts. -/
theorem entriesOf_append {as bs : List Char}
    (h : (∀ c ∈ as.getLast?, c = '\n') ∨ ∀ c ∈ bs.head?, c = '\n') :
    entriesOf (as ++ bs) = entriesOf as ++ entriesOf bs := by
  obtain h | h := h
  · obtain rfl | ⟨front, c, rfl⟩ := as.eq_nil_or_concat'
    · simp
    · obtain rfl : c = '\n' := h c (by simp)
      have hfront : entriesOf (front ++ ['\n']) = entriesOf front := by
        simpa using entriesOf_append_feed front []
      rw [List.append_assoc, List.singleton_append, entriesOf_append_feed, hfront]
  · cases bs with
    | nil => simp
    | cons c rest =>
      obtain rfl : c = '\n' := h c rfl
      have hrest : entriesOf ('\n' :: rest) = entriesOf rest := by
        simpa using entriesOf_append_feed [] rest
      rw [entriesOf_append_feed, hrest]

/-- Every cut between two chunks stands beside a line feed, or at an end of the text. -/
def CutAtLines (chunks : List String) : Prop :=
  ∀ before after, chunks = before ++ after →
    (∀ c ∈ (String.join before).toList.getLast?, c = '\n') ∨
      ∀ c ∈ (String.join after).toList.head?, c = '\n'

theorem cutAtLines_iff {chunks : List String} :
    CutAtLines chunks ↔ ∀ k < chunks.length,
      (String.join (chunks.take k)).toList.getLast?.all (· == '\n') ∨
        (String.join (chunks.drop k)).toList.head?.all (· == '\n') := by
  simp only [Option.all_eq_true, beq_iff_eq]
  constructor
  · intro h k _
    exact h (chunks.take k) (chunks.drop k) (List.take_append_drop k chunks).symm
  · rintro h before after rfl
    by_cases hk : before.length < (before ++ after).length
    · simpa using h before.length hk
    · have hafter : after = [] := by simpa using hk
      exact .inr (by simp [hafter])

instance (chunks : List String) : Decidable (CutAtLines chunks) :=
  decidable_of_iff _ cutAtLines_iff.symm

theorem CutAtLines.tail {chunk : String} {chunks : List String} (h : CutAtLines (chunk :: chunks)) :
    CutAtLines chunks := by
  rintro before after rfl
  refine (h (chunk :: before) after rfl).imp_left fun hlast c hc => hlast c ?_
  rw [String.join_cons, String.toList_append]
  exact List.mem_getLast?_append_of_mem_getLast? hc

theorem join_line_chunks (chunks : List String) :
    String.join ((chunks.flatMap fun chunk => entriesOf chunk.toList).map Entry.line) =
      String.ofList ((String.join chunks).toList.filter (· != '\n')) := by
  induction chunks with
  | nil => rfl
  | cons chunk chunks ih =>
    rw [List.flatMap_cons, List.map_append, String.join_append, join_line_entriesOf, ih,
      String.join_cons, String.toList_append, List.filter_append, String.ofList_append]

theorem CutAtLines.flatMap_entriesOf {chunks : List String} (h : CutAtLines chunks) :
    (chunks.flatMap fun chunk => entriesOf chunk.toList) =
      entriesOf (String.join chunks).toList := by
  induction chunks with
  | nil => simp
  | cons chunk chunks ih =>
    have hcut := h [chunk] chunks rfl
    rw [String.join_cons, String.join_nil, String.append_empty] at hcut
    rw [List.flatMap_cons, ih h.tail, String.join_cons, String.toList_append, entriesOf_append hcut]

/-! ## The sessions of a search -/

theorem Session.readAll_call {s : Session} (h : s.ReadAll) {c : SessionCall}
    (hc : ∀ answer, c ≠ .observe answer) : (s.call c).ReadAll := by
  cases hrunning : s.isRunning with
  | false => rwa [call_of_not_running hrunning]
  | true =>
    cases c with
    | observe answer => exact absurd rfl (hc answer)
    | push chunk =>
      rw [call, push_of_running hrunning h]
      exact readAll_extended h chunk
    | complete =>
      rw [call, complete, if_pos hrunning]
      exact h
    | fail reason =>
      rw [call, fail, if_pos hrunning]
      exact h

theorem SearchEvent.call?_ne_observe {e : SearchEvent} {id : UInt64} {c : SessionCall}
    (h : e.call? id = some c) (answer : String) : c ≠ .observe answer := by
  rintro rfl
  obtain ⟨report, hreport, hobserve⟩ := Option.map_eq_some_iff.1 h
  have hreport := (Option.filter_eq_some_iff.1 hreport).1
  cases e with
  | unrelated => cases hreport
  | start keywords budget => cases hreport
  | chunk session text =>
    cases hreport
    cases hobserve
  | finish session result =>
    cases result <;>
      · cases hreport
        cases hobserve

theorem Session.readAll_heed {s : Session} (h : s.ReadAll) (e : SearchEvent) :
    (s.heed e).ReadAll := by
  rw [heed]
  cases hcall : e.call? s.id with
  | none => exact h
  | some c => exact readAll_call h (SearchEvent.call?_ne_observe hcall)

theorem readAll_reactAll (events : List SearchEvent) :
    ∀ s ∈ (Search.reactAll {} events).session, s.ReadAll := by
  induction events using List.reverseRecOn with
  | nil => nofun
  | append_singleton events e ih =>
    rw [Search.reactAll_concat]
    cases hstart : e.isStart with
    | false =>
      rw [Search.react_of_not_start _ hstart]
      intro s hs
      obtain ⟨before, hbefore, rfl⟩ := Option.map_eq_some_iff.1 hs
      exact Session.readAll_heed (ih before hbefore) e
    | true =>
      cases e with
      | start keywords budget =>
        rintro s ⟨⟩
        rfl
      | _ => cases hstart

open Session

/-- **No text of an answer is lost, repeated or invented by cutting it into chunks.** Let a search
have a running session, and let the session receive an answer in chunks.

* The text of the entries that it adds, one after the other, is the answer without its line feeds,
  and no entry is without a text.
* If every cut stands beside a line feed or at an end of the answer, the session is as if it had
  received the answer at once, so all ways to cut it like this give the same entries. -/
theorem chunking_keeps_text (events : List SearchEvent) (s : Session)
    (hs : (Search.reactAll {} events).session = some s) (hrunning : s.isRunning = true)
    (chunks : List String) :
    let pushed := chunks.foldl push s
    let answer := String.join chunks
    (∃ added, pushed.entries = s.entries ++ added ∧
      String.join (added.map Entry.line) = String.ofList (answer.toList.filter (· != '\n')) ∧
      ∀ e ∈ added, e.line ≠ "") ∧
      (CutAtLines chunks → pushed = s.push answer) ∧
      ∀ others, String.join others = answer → CutAtLines chunks → CutAtLines others →
        (others.foldl push s).entries = pushed.entries := by
  intro pushed answer
  have hread : s.ReadAll := readAll_reactAll events s hs
  have hpushed : pushed = s.extendedAll chunks := pushAll_of_running hrunning hread chunks
  have hwhole : ∀ others, CutAtLines others →
      others.foldl push s = s.push (String.join others) := by
    intro others hothers
    rw [pushAll_of_running hrunning hread, push_of_running hrunning hread, extendedAll, extended,
      hothers.flatMap_entriesOf]
  refine ⟨⟨chunks.flatMap fun chunk => entriesOf chunk.toList, by rw [hpushed]; rfl,
    join_line_chunks chunks, fun e he => ?_⟩, hwhole chunks, fun others hothers hcut hcut' => ?_⟩
  · obtain ⟨chunk, -, he⟩ := List.mem_flatMap.1 he
    exact line_ne_empty_of_mem_entriesOf he
  · rw [hwhole others hcut', hothers]
    exact congrArg Session.entries (hwhole chunks hcut).symm

/-- A session that has an entry receives a file and its own line feeds in two ways. -/
theorem file_cut_before_and_after_feed :
    let s : Session := { id := 1, keywords := "k", budget := 0, entries := [.info "x"],
                         consumed := 2, received := "x\n" }
    let chunks := ["a\n", "Downloadable match: f:0", "\n"]
    let others := ["a", "\nDownloadable match: f:0\n"]
    (Search.reactAll {} [.start "k" 0, .chunk 1 "x\n"]).session = some s ∧ s.isRunning = true ∧
      CutAtLines chunks ∧ CutAtLines others ∧
      (others.foldl push s).entries = (chunks.foldl push s).entries ∧
      (chunks.foldl push s).entries = [.info "x", .info "a", .downloadable "f" "0"] := by
  intro s chunks others
  have hs : (Search.reactAll {} [.start "k" 0, .chunk 1 "x\n"]).session = some s := by
    decide +kernel
  have hchunks : CutAtLines chunks := by decide +kernel
  have hothers : CutAtLines others := by decide +kernel
  obtain ⟨-, -, hsame⟩ := chunking_keeps_text _ s hs (by decide) chunks
  exact ⟨hs, by decide, hchunks, hothers, hsame others (by decide +kernel) hchunks hothers,
    by decide +kernel⟩

end GossipPanel.Panel
