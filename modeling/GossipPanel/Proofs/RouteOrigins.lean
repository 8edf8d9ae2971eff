import GossipPanel.Display.Routing
import GossipPanel.Proofs.InputLine.Words
import GossipPanel.Proofs.TickRefreshes

/-!
# Conversations with listed origins

The route list opens a conversation under the trimmed name of an origin. Its mark, the closing and
the refreshes look for the conversation under the name as it is listed.

* `isTabName_iff`: the names of tabs are those that trimming leaves as they are.
* `Conversations.contains_of_mem_react`: a refresh is asked for open conversations only.
* `Served`: what can be expected of an origin once its row has been activated.
* `served_iff_trimmed`: exactly the origins that are their own trimmed names are served, and no
  other one ever has a conversation.
-/

namespace GossipPanel.Panel

open Display Node Text

/-! ## Names -/

theorem trimmed_of_isTabName {name : String} (h : IsTabName name) : trimmed name = name := by
  obtain ⟨hne, hends⟩ := h
  have htight : IsTight name.toList := ⟨by simpa using hne, hends⟩
  have hblanks : IsBlanks [] := nofun
  have htrim := trim_of_enclosed hblanks htight hblanks
  rw [List.nil_append, List.append_nil] at htrim
  rw [trimmed, htrim, String.ofList_toList]

theorem isTabName_trimmed {typed : String} (hne : trimmed typed ≠ "") :
    IsTabName (trimmed typed) :=
  isTabName_of_selectEvent (if_neg hne)

theorem isTabName_iff {name : String} : IsTabName name ↔ name ≠ "" ∧ trimmed name = name := by
  constructor
  · exact fun h => ⟨h.1, trimmed_of_isTabName h⟩
  · rintro ⟨hne, htrim⟩
    rw [← htrim] at hne ⊢
    exact isTabName_trimmed hne

/-! ## Refreshes and open conversations -/

namespace Conversations

variable {cs : Conversations} {event : ConversationEvent} {r : String × Ticket}

theorem contains_of_due? {peer : String} (h : cs.due? peer = some r) :
    cs.contains r.1 = true := by
  rw [fst_of_due? h]
  obtain ⟨t, hget, -⟩ := Option.bind_eq_some_iff.1 h
  obtain ⟨ht, hpeer⟩ := mem_of_get? hget
  exact contains_iff.2 ⟨t, ht, hpeer⟩

theorem contains_of_mem_refreshAll {peers : List String} (h : r ∈ (cs.refreshAll peers).2) :
    cs.contains r.1 = true := by
  rw [refreshAll_snd, List.mem_filterMap] at h
  obtain ⟨peer, -, hdue⟩ := h
  exact contains_of_due? hdue

theorem contains_of_mem_react (h : r ∈ (cs.react event).2) :
    (cs.react event).1.contains r.1 = true := by
  rw [contains_react_iff]
  cases event with
  | refresh peers => exact .inr ⟨contains_of_mem_refreshAll h, by simp⟩
  | select peer =>
    rw [react] at h
    split at h
    · cases h
    · have hopen : (cs.call (.select peer)).contains r.1 = true := contains_of_mem_refreshAll h
      obtain hselect | ⟨hbefore, -⟩ := contains_call_iff.1 hopen
      · exact .inl (by rw [TabCall.select.inj hselect])
      · exact .inr ⟨hbefore, by simp⟩
  | _ => cases h

end Conversations

/-! ## Refreshes that are asked for -/

section
variable {app : App} {peer : String} {ticket : Ticket}

theorem mem_refreshTab_update {a : Action} :
    .refreshTab peer ticket ∈ (update app a).2 ↔
      (peer, ticket) ∈ (app.conversations.react (app.conversationEvent a)).2 := by
  rw [← (update_reaction app a).refreshes, List.mem_filterMap]
  constructor
  · exact fun hmem => ⟨_, hmem, rfl⟩
  · rintro ⟨e, he, hrefresh⟩
    cases e <;> cases hrefresh
    exact he

theorem mem_refreshTab_update_snapshot {g : UInt64} (hg : app.polling.inFlight = some g)
    (snapshot : Snapshot) :
    .refreshTab peer ticket ∈ (update app (.snapshotLoaded g (.ok snapshot))).2 ↔
      peer ∈ snapshot.routes.map RouteRecord.origin ∧
        app.conversations.due? peer = some (peer, ticket) := by
  have hevent : app.conversationEvent (.snapshotLoaded g (.ok snapshot)) =
      .refresh (snapshot.routes.map RouteRecord.origin) := if_pos hg
  rw [mem_refreshTab_update, hevent, Conversations.react, Conversations.refreshAll_snd,
    List.mem_filterMap]
  simp only [List.mem_eraseDups]
  constructor
  · rintro ⟨origin, horigin, hdue⟩
    obtain rfl : peer = origin := Conversations.fst_of_due? hdue
    exact ⟨horigin, hdue⟩
  · rintro ⟨hlisted, hdue⟩
    exact ⟨peer, hlisted, hdue⟩

end

/-! ## Served origins -/

/-- What can be expected of an origin at the moment after its row has been activated. -/
structure Served (h : History) (origin : String) : Prop where
  opened : h.app.conversations.contains origin = true
  shown : h.app.view = .peer origin
  /-- Its one row is marked as having a conversation. -/
  marked : ∃ row,
    (routeRows h.app.snapshot.routes h.app.conversations.contains).filter (·.origin == origin) =
      [row] ∧ row.hasTab = true
  /-- Closing its conversation takes away this one and leads back to the feed. -/
  closes : let closed := (update h.app (.closePeer origin)).1
    closed.conversations.contains origin = false ∧ closed.view = .gossip ∧
      ∀ other, other ≠ origin → closed.conversations.get? other = h.app.conversations.get? other
  /-- Whenever its conversation is open later on, an accepted snapshot that lists it asks for a
  refresh, unless one is in flight. -/
  refreshed : ∀ later, let app := (h.run later).app
    app.conversations.contains origin = true →
      ∃ t, app.conversations.get? origin = some t ∧
        ∀ g snapshot, app.polling.inFlight = some g →
          origin ∈ snapshot.routes.map RouteRecord.origin → ∀ ticket,
            .refreshTab origin ticket ∈ (update app (.snapshotLoaded g (.ok snapshot))).2 ↔
              t.refreshing = false ∧ ticket = ⟨t.ordinal, t.generation + 1⟩

/-- What becomes of an origin that has no conversation. -/
structure Unserved (h : History) (origin : String) : Prop where
  closed : h.app.conversations.contains origin = false
  hidden : h.app.view ≠ .peer origin
  unmarked : ∀ row ∈ routeRows h.app.snapshot.routes h.app.conversations.contains,
    row.origin = origin → row.hasTab = false
  nothingToClose : update h.app (.closePeer origin) = (h.app, [])
  /-- No action asks for a refresh of it. -/
  stale : ∀ a ticket, .refreshTab origin ticket ∉ (update h.app a).2

theorem served_of_shown {h : History} {origin : String}
    (hopen : h.app.conversations.contains origin = true) (hview : h.app.view = .peer origin)
    (hlisted : origin ∈ h.app.snapshot.routes.map RouteRecord.origin) : Served h origin where
  opened := hopen
  shown := hview
  marked := by
    obtain ⟨via, hrow⟩ := filter_routeRows hlisted h.app.conversations.contains
    exact ⟨_, hrow, hopen⟩
  closes := by
    have hclose : (update h.app (.closePeer origin)).1 =
        { h.app with conversations := h.app.conversations.close origin, view := .gossip } := by
      simp [update, App.closePeer, hopen, hview]
    rw [hclose]
    exact ⟨Conversations.contains_close _ _, rfl,
      fun other hne => Conversations.get?_close_of_ne hne.symm⟩
  refreshed := by
    intro later app hopen
    obtain ⟨t, hget⟩ := Conversations.exists_get?_of_contains hopen
    refine ⟨t, hget, fun g snapshot hg hlisted ticket => ?_⟩
    rw [mem_refreshTab_update_snapshot hg, Conversations.due?, hget, Option.bind_some]
    cases t.refreshing <;> simp [hlisted, eq_comm]

/-- No run ever serves an origin that is not its own trimmed name. -/
theorem unserved_history (s : Settings.Resolved) (actions : List Action) {origin : String}
    (htrim : trimmed origin ≠ origin) : Unserved (history s actions) origin := by
  have hclosed : ∀ actions, (history s actions).app.conversations.contains origin = false := by
    intro actions
    by_contra hopen
    rw [Bool.not_eq_false] at hopen
    exact htrim (isTabName_iff.1 ((sighted_history s actions).named origin hopen)).2
  refine ⟨hclosed actions, fun hview => ?_, fun row hrow horigin => ?_, ?_, fun a ticket hmem => ?_⟩
  · have hopen := (sighted_history s actions).showsOpen origin hview
    rw [hclosed] at hopen
    cases hopen
  · obtain ⟨r, -, rfl⟩ := List.mem_map.1 hrow
    rw [← hclosed actions, ← horigin]
  · rw [update, App.closePeer, hclosed]
    rfl
  · have hopen := Conversations.contains_of_mem_react (mem_refreshTab_update.1 hmem)
    rw [← (update_reaction _ a).conversations] at hopen
    have hnone := hclosed (actions ++ [a])
    rw [history_concat] at hnone
    exact absurd (hopen.symm.trans hnone) (by decide)

/-- **An origin is served exactly if trimming leaves its name as it is.** After every run, let the
row of a listed origin be activated:

* the action is the selection of that origin, and the listed routes stay;
* the origin is served from then on exactly if it is its own trimmed name;
* if it is not, the conversation that is opened and shown is one with its trimmed name, or none if
  it is blank, and whatever happens later, the origin has no conversation: its row is not marked,
  closing it does nothing, and nothing asks for a refresh of it. -/
theorem served_iff_trimmed (s : Settings.Resolved) (actions : List Action) {origin : String}
    (hlisted : origin ∈ (history s actions).app.snapshot.routes.map RouteRecord.origin)
    (hne : origin ≠ "") :
    let h := history s actions
    let after := h.step (.selectPeer origin)
    (∀ (d : Display.State) (i : Nat) (row : RouteRow), d.routes.selected = some i →
        (routeRows h.app.snapshot.routes h.app.conversations.contains)[i]? = some row →
        row.origin = origin →
        d.routeToRoutes h.app .submit = (some (.selectPeer origin), d)) ∧
      after.app.snapshot = h.app.snapshot ∧
      (Served after origin ↔ trimmed origin = origin) ∧
      (trimmed origin ≠ origin →
        (if trimmed origin = "" then update h.app (.selectPeer origin) = (h.app, [])
          else after.app.view = .peer (trimmed origin) ∧
            after.app.conversations.contains (trimmed origin) = true) ∧
          ∀ later, Unserved (after.run later) origin) := by
  intro h after
  have hafter : ∀ later, after.run later = history s (actions ++ .selectPeer origin :: later) :=
    fun later => (history_append s actions (.selectPeer origin :: later)).symm
  have hselect : after.app = (h.app.selectPeer origin).1 := rfl
  have hsnapshot : after.app.snapshot = h.app.snapshot := by
    rw [hselect, App.selectPeer_eq]
  -- what is opened and shown has the trimmed name
  have hopened : trimmed origin ≠ "" → after.app.view = .peer (trimmed origin) ∧
      after.app.conversations.contains (trimmed origin) = true := by
    intro hname
    rw [hselect, App.selectPeer_eq]
    refine ⟨if_neg hname, ?_⟩
    show (h.app.conversations.react (App.selectEvent origin)).1.contains (trimmed origin) = true
    rw [Conversations.contains_react_iff, App.selectEvent, if_neg hname]
    exact .inl rfl
  refine ⟨fun d i row hi hrow horigin => ?_, hsnapshot, ⟨fun hserved => ?_, fun htrim => ?_⟩,
    fun htrim => ⟨?_, fun later => ?_⟩⟩
  · simp [State.routeToRoutes, ListPane.handle, hi, hrow, horigin]
  · by_contra htrim
    have hnone := (unserved_history s (actions ++ [.selectPeer origin]) htrim).closed
    rw [← hafter] at hnone
    exact absurd (hserved.opened.symm.trans hnone) (by decide)
  · obtain ⟨hview, hopen⟩ := hopened (by rwa [htrim])
    rw [htrim] at hview hopen
    exact served_of_shown hopen hview (by rwa [hsnapshot])
  · split
    · next hblank =>
      rw [update, App.selectPeer, hblank]
      rfl
    · next hname => exact hopened hname
  · rw [hafter]
    exact unserved_history s _ htrim

/-- Blanks inside a name do no harm, nor does a second record for the origin, or an origin whose
name differs in a blank before it. -/
theorem bob_smith_served :
    let routes : List RouteRecord := [⟨"bob smith", "x"⟩, ⟨" bob smith", ""⟩, ⟨"bob smith", ""⟩]
    let h := history {} [.start, .snapshotLoaded 1 (.ok { routes })]
    "bob smith" ∈ h.app.snapshot.routes.map RouteRecord.origin ∧ "bob smith" ≠ "" ∧
      Served (h.step (.selectPeer "bob smith")) "bob smith" := by
  intro routes h
  have hlisted : "bob smith" ∈ h.app.snapshot.routes.map RouteRecord.origin := by decide
  obtain ⟨-, -, hserved, -⟩ := served_iff_trimmed {} _ hlisted (by decide)
  exact ⟨hlisted, by decide, hserved.2 (by decide)⟩

/-- The row of an origin with a blank before its name opens the conversation with another name, and
the origin is left without one. -/
theorem blank_before_bob_not_served :
    let snapshot : Snapshot := { routes := [⟨" bob", ""⟩] }
    let h := history {} [.start, .snapshotLoaded 1 (.ok snapshot)]
    let after := h.step (.selectPeer " bob")
    let next := (after.step (.timerFired 1)).app
    " bob" ∈ h.app.snapshot.routes.map RouteRecord.origin ∧ " bob" ≠ "" ∧
      ¬ Served after " bob" ∧ after.app.conversations.contains " bob" = false ∧
      after.app.view = .peer "bob" ∧ update after.app (.closePeer " bob") = (after.app, []) ∧
      next.polling.inFlight = some 2 ∧
      (update next (.snapshotLoaded 2 (.ok snapshot))).2 = [.scheduleTick 2 1000] := by
  intro snapshot h after next
  have hclosed : after.app.conversations.contains " bob" = false := by decide
  refine ⟨by decide, by decide, fun hserved => ?_, hclosed, by decide, by decide, by decide,
    by decide⟩
  exact absurd (hserved.opened.symm.trans hclosed) (by decide)

end GossipPanel.Panel
