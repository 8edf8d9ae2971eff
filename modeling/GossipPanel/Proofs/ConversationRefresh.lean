import GossipPanel.Proofs.TabContents

/-!
# Refreshes of conversations

The protocol between the tabs and the work that fetches their messages, over whole runs.

* `AnswersRefreshOnce`: what the world promises, at most one outcome for each refresh.
* `History.kept_history`: the ledger of tickets and the contents of the tabs along a run.
* `History.gone_history`: a tab that is closed at a moment of a run stays closed.
* `conversation_refresh_protocol`: tickets are never reused, an answer always frees its tab, tabs
  show the last answer to their own tickets, and late answers change nothing.
-/

namespace GossipPanel.Panel

open Node Conversations

namespace History

def issued (h : History) : List (String × Ticket) :=
  h.emitted.filterMap Effect.refresh?

/-- The outcome of a pending refresh that an action brings. -/
def refreshAnswer? (h : History) : Action → Option RefreshAnswer
  | .privateMessagesLoaded peer ticket result =>
    RefreshAnswer.ofPending? h.refreshes (peer, ticket) result
  | _ => none

/-- The outcomes of refreshes along a run, oldest first. -/
def refreshAnswers (h : History) (actions : List Action) : List RefreshAnswer :=
  (h.moments actions).filterMap fun m => m.1.refreshAnswer? m.2

end History

/-- No refresh is answered twice. -/
def AnswersRefreshOnce (h : History) (a : Action) : Prop :=
  ∀ r ∈ a.refreshed?, r ∈ h.issued → r ∈ h.refreshes

instance (h : History) (a : Action) : Decidable (AnswersRefreshOnce h a) :=
  inferInstanceAs (Decidable (∀ r ∈ a.refreshed?, r ∈ h.issued → r ∈ h.refreshes))

namespace History

variable {h : History} {a : Action}

theorem conversations_step (h : History) (a : Action) :
    (h.step a).app.conversations = (h.app.conversations.react (h.app.conversationEvent a)).1 :=
  (update_reaction h.app a).conversations

theorem issued_step (h : History) (a : Action) :
    (h.step a).issued =
      h.issued ++ (h.app.conversations.react (h.app.conversationEvent a)).2 := by
  rw [issued, step, List.filterMap_append, (update_reaction h.app a).refreshes]
  rfl

theorem refreshes_step (h : History) (a : Action) :
    (h.step a).refreshes =
      eraseAnswered h.refreshes (h.app.conversationEvent a).refreshed? ++
        (h.app.conversations.react (h.app.conversationEvent a)).2 := by
  rw [App.refreshed?_conversationEvent, ← (update_reaction h.app a).refreshes]
  exact refresh_reports.filterMap_pending_step h a

theorem answer?_conversationEvent (h : History) (a : Action) :
    answer? h.refreshes (h.app.conversationEvent a) = h.refreshAnswer? a := by
  by_cases ha : a.refreshed? = none
  · have hevent : (h.app.conversationEvent a).refreshed? = none :=
      (App.refreshed?_conversationEvent h.app a).trans ha
    have hnone : answer? h.refreshes (h.app.conversationEvent a) = none := by
      cases hev : h.app.conversationEvent a <;>
        first | rfl | simp [hev, ConversationEvent.refreshed?] at hevent
    rw [hnone]
    cases a <;> first | rfl | cases ha
  · cases a <;> first | rfl | exact absurd rfl ha

theorem refreshAnswers_concat (s : Settings.Resolved) (actions : List Action) (a : Action) :
    (start s).refreshAnswers (actions ++ [a]) =
      (start s).refreshAnswers actions ++ ((history s actions).refreshAnswer? a).toList := by
  cases ho : (history s actions).refreshAnswer? a <;>
    simp [refreshAnswers, moments_concat, run_start, ho]

theorem length_issued_le (s : Settings.Resolved) (actions later : List Action) :
    (history s actions).issued.length ≤ (history s (actions ++ later)).issued.length := by
  rw [history_append]
  refine run_invariant (fun h => (history s actions).issued.length ≤ h.issued.length) ?_
    (Nat.le_refl _) later
  intro h a hle
  rw [issued_step, List.length_append]
  omega

theorem kept_history (s : Settings.Resolved) (actions : List Action)
    (honce : (start s).Admits AnswersRefreshOnce actions)
    (hfew : (history s actions).issued.length + 2 < UInt64.size) :
    Ledger (history s actions).app.conversations (history s actions).issued
        (history s actions).refreshes ∧
      Contents (history s actions).app.conversations (history s actions).issued
        ((start s).refreshAnswers actions) := by
  induction actions using List.reverseRecOn with
  | nil => exact ⟨ledger_empty, contents_empty⟩
  | append_singleton actions a ih =>
    obtain ⟨hbefore, ha⟩ := admits_concat.1 honce
    have hle := length_issued_le s actions [a]
    obtain ⟨hl, ht⟩ := ih hbefore (by omega)
    have hanswer : ∀ r ∈ ((history s actions).app.conversationEvent a).refreshed?,
        r ∈ (history s actions).issued → r ∈ (history s actions).refreshes := by
      rw [App.refreshed?_conversationEvent]
      exact ha
    rw [history_concat, issued_step] at hfew
    rw [history_concat, conversations_step, issued_step, refreshes_step, refreshAnswers_concat,
      ← answer?_conversationEvent]
    exact ⟨hl.react _ hanswer hfew, ht.react hl _ hanswer hfew⟩

theorem gone_history (s : Settings.Resolved) (earlier later : List Action)
    (honce : (start s).Admits AnswersRefreshOnce (earlier ++ later))
    (hfew : (history s (earlier ++ later)).issued.length + 2 < UInt64.size) {ordinal : UInt64}
    (hg : Gone ordinal (history s earlier).app.conversations) :
    Gone ordinal (history s (earlier ++ later)).app.conversations := by
  induction later using List.reverseRecOn with
  | nil => rwa [List.append_nil]
  | append_singleton later a ih =>
    rw [← List.append_assoc] at honce hfew ⊢
    obtain ⟨hbefore, -⟩ := admits_concat.1 honce
    have hle := length_issued_le s (earlier ++ later) [a]
    have hfew' : (history s (earlier ++ later)).issued.length + 2 < UInt64.size := by omega
    obtain ⟨hl, -⟩ := kept_history s (earlier ++ later) hbefore hfew'
    rw [history_concat, issued_step] at hfew
    rw [history_concat, conversations_step]
    exact (ih hbefore hfew').react hl _ hfew

end History

theorem update_of_stale {app : App} {peer : String} {ticket : Ticket}
    (h : app.conversations.isCurrent peer ticket = false)
    (result : Except String (List MessageRecord)) :
    update app (.privateMessagesLoaded peer ticket result) = (app, []) := by
  rw [update, App.privateMessagesLoaded_of_stale app h]

theorem get?_update_of_current {app : App} {c : Conversation} (hd : Distinct app.conversations)
    (hc : c ∈ app.conversations.tabs) (result : Except String (List MessageRecord)) :
    (update app (.privateMessagesLoaded c.peer c.ticket result)).1.conversations.get? c.peer =
      some (settled result c) := by
  have hcur : app.conversations.isCurrent c.peer c.ticket = true :=
    hd.isCurrent_iff.2 ⟨c, hc, rfl, rfl⟩
  have hupdate : (update app (.privateMessagesLoaded c.peer c.ticket result)).1.conversations =
      app.conversations.modify c.peer (settled result) := by
    rw [(update_reaction app _).conversations]
    exact (answer_eq _ _ _ _).trans (if_pos hcur)
  have hd' : Distinct (app.conversations.modify c.peer (settled result)) :=
    hd.modify hc (settled_peer result) (settled_ordinal result)
  have hget := hd'.get?_eq ((hd.mem_modify_iff hc).2 (.inl rfl))
  rw [settled_peer] at hget
  rw [hupdate, hget]

/-- **Conversations are refreshed one ticket at a time.** After a run in which no refresh is
answered twice, and before the counters wrap around:

* no ticket has been issued twice;
* an open tab is being refreshed exactly when one of its tickets is pending, its current one; the
  answer to it frees the tab, and a free tab can be refreshed again, with its next ticket;
* an open tab shows the messages of the last success among the answers to its own tickets, and
  these came in the order of the tickets;
* once a tab is closed, answers to its tickets change nothing, even if its peer has a new tab. -/
theorem conversation_refresh_protocol (s : Settings.Resolved) (actions : List Action)
    (honce : (History.start s).Admits AnswersRefreshOnce actions)
    (hfew : (history s actions).issued.length + 2 < UInt64.size) :
    let h := history s actions
    let conversations := h.app.conversations
    (h.issued.map Prod.snd).Nodup ∧
      (∀ c ∈ conversations.tabs,
        ticketsOf c.ordinal h.refreshes = (if c.refreshing then [(c.peer, c.ticket)] else []) ∧
        (∀ result,
          let r := update h.app (.privateMessagesLoaded c.peer c.ticket result)
          ∃ d, r.1.conversations.get? c.peer = some d ∧ d.ordinal = c.ordinal ∧
            d.refreshing = false) ∧
        (c.refreshing = false →
          (conversations.beginRefresh? c.peer).map Prod.fst =
            some ⟨c.ordinal, c.generation + 1⟩)) ∧
      (∀ c ∈ conversations.tabs,
        let own := answersOf c.ordinal ((History.start s).refreshAnswers actions)
        c.messages = ((own.filterMap (·.result.toOption)).getLast?).getD [] ∧
        c.loaded = own.any (·.result.isOk) ∧
        (own.map (·.refresh.2.generation)).Pairwise (· < ·)) ∧
      ∀ earlier later, actions = earlier ++ later →
        ∀ r ∈ (history s earlier).issued,
          (∀ c ∈ (history s earlier).app.conversations.tabs, c.ordinal ≠ r.2.tab) →
          ∀ result, update h.app (.privateMessagesLoaded r.1 r.2 result) = (h.app, []) := by
  intro h conversations
  obtain ⟨hl, ht⟩ := History.kept_history s actions honce hfew
  refine ⟨hl.issued_nodup, fun c hc => ⟨hl.pending_own c hc, fun result => ?_, fun hidle => ?_⟩,
    fun c hc => ?_, ?_⟩
  · exact ⟨settled result c, get?_update_of_current hl.toDistinct hc result,
      settled_ordinal result c, settled_refreshing result c⟩
  · have hget : conversations.get? c.peer = some c := hl.get?_eq hc
    simp [beginRefresh?, hget, hidle]
  · obtain ⟨hmessages, hloaded, hincreasing, -⟩ := ht.told c hc
    exact ⟨hmessages, hloaded, hincreasing⟩
  · rintro earlier later rfl r hr hclosed result
    have hle := History.length_issued_le s earlier later
    have hearlier := (History.admits_append.1 honce).1
    obtain ⟨hl', -⟩ := History.kept_history s earlier hearlier (by omega)
    have hgone : Gone r.2.tab (history s earlier).app.conversations :=
      ⟨hl'.issued_below r hr, hclosed⟩
    have hgone' := History.gone_history s earlier later honce hfew hgone
    exact update_of_stale (hgone'.isCurrent_eq_false hl.toDistinct r.1 rfl) result

/-- An answer that comes after its tab has been closed does not reach the new tab of the peer. -/
theorem late_answer_after_reopening :
    let h := history {} [.selectPeer "bob", .closePeer "bob", .selectPeer "bob"]
    h.refreshes = [("bob", ⟨2, 1⟩), ("bob", ⟨3, 1⟩)] ∧
      update h.app (.privateMessagesLoaded "bob" ⟨2, 1⟩ (.ok [])) = (h.app, []) := by
  intro h
  have hprotocol := conversation_refresh_protocol {}
    [.selectPeer "bob", .closePeer "bob", .selectPeer "bob"] (by decide) (by decide)
  obtain ⟨-, -, -, hlate⟩ := hprotocol
  refine ⟨by decide, ?_⟩
  exact hlate [.selectPeer "bob", .closePeer "bob"] [.selectPeer "bob"] rfl ("bob", ⟨2, 1⟩)
    (by decide) (by decide) (.ok [])

end GossipPanel.Panel
