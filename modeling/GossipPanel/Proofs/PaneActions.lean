import GossipPanel.Display.Routing
import GossipPanel.Panel.Update
import Mathlib.Data.List.Nodup

/-!
# Actions of the lists

What a key does while a list has the focus is about the selected row as it is now, and can be done.
Nothing is assumed about the lists: their cursors may be left over from other rows.

* `ListPane.fst_handle`: what an event asks of a list.
* `PaneAction`: the actions about a selected row. `State.route_of_listFocused`: while a list has the
  focus, an event becomes a shortcut or one of these, and nothing else.
* `deletePeer_of_row`, `closesTab_of_contains`: what the panel does with them.
* `pane_actions_applicable`: both together.
-/

namespace GossipPanel

open Display Panel Node

/-! ## What an event asks of a list -/

namespace Display

/-- A key that asks for the deletion of the selected row. -/
def Event.isDeletion : Event → Bool
  | .delete => true
  | .char c => c == 'd'
  | _ => false

/-- The action of an event that means the same everywhere. -/
def Event.shortcut? : Event → Option Action
  | .forceQuit => some .quit
  | .refresh => some .refresh
  | .nextView => some .nextView
  | .closeTab => some .closeActiveTab
  | _ => none

/-- The actions that have nothing to do with a list: those of shortcuts, and lines. -/
def isGeneral : Action → Bool
  | .quit | .refresh | .nextView | .closeActiveTab | .submit _ => true
  | _ => false

theorem isGeneral_of_shortcut? {event : Event} {action : Action}
    (h : event.shortcut? = some action) : isGeneral action = true := by
  cases event with
  | forceQuit | refresh | nextView | closeTab => cases h; rfl
  | _ => cases h

namespace ListPane

theorem fst_handle (p : ListPane) (event : Event) :
    (p.handle event).1 =
      if event = .submit then p.selected.map .activate
      else if event.isDeletion then p.selected.map .delete
      else none := by
  cases event with
  | char c =>
    by_cases hc : c = 'd'
    · subst hc
      rfl
    · have hnone : (p.handle (.char c)).1 = none := by
        unfold ListPane.handle
        split <;> simp_all
      rw [hnone]
      simp [Event.isDeletion, hc]
  | _ => rfl

variable {p : ListPane} {event : Event} {i : Nat}

theorem handle_eq_activate_iff :
    (p.handle event).1 = some (.activate i) ↔ event = .submit ∧ p.selected = some i := by
  rw [fst_handle]
  split
  · simp [*]
  · split <;> simp [*]

theorem handle_eq_delete_iff :
    (p.handle event).1 = some (.delete i) ↔ event.isDeletion = true ∧ p.selected = some i := by
  rw [fst_handle]
  split
  · simp [*, Event.isDeletion]
  · split <;> simp [*]

end ListPane

/-! ## What becomes of it -/

/-- The actions about the selected row of the list that has the focus. -/
inductive PaneAction (app : App) (d : State) : Event → Action → Prop where
  | deletePeer {event : Event} {i : Nat} {row : PeerRow} (hkey : event.isDeletion = true)
      (hfocus : d.focus = .peers) (hselected : d.peers.selected = some i)
      (hrow : (peerRows app.snapshot.peers)[i]? = some row) :
      PaneAction app d event (.deletePeer row.address)
  | closePeer {event : Event} {i : Nat} {row : RouteRow} (hkey : event.isDeletion = true)
      (hfocus : d.focus = .routes) (hselected : d.routes.selected = some i)
      (hrow : (routeRows app.snapshot.routes app.conversations.contains)[i]? = some row)
      (htab : row.hasTab = true) : PaneAction app d event (.closePeer row.origin)
  | selectPeer {i : Nat} {row : RouteRow} (hfocus : d.focus = .routes)
      (hselected : d.routes.selected = some i)
      (hrow : (routeRows app.snapshot.routes app.conversations.contains)[i]? = some row) :
      PaneAction app d .submit (.selectPeer row.origin)
  | downloadMatch {i : Nat} {session : Session} {name hash : String} (hfocus : d.focus = .search)
      (hselected : d.search.selected = some i) (hsession : app.search.session = some session)
      (hentry : session.entries[i]? = some (.downloadable name hash)) :
      PaneAction app d .submit (.downloadMatch { name, hash })

namespace State

variable {app : App} {d : State} {event : Event} {action : Action}

/-- A list has the focus, the search results in their view only. -/
def ListFocused (d : State) (app : App) : Prop :=
  d.focus ≠ .input ∧ (d.focus = .search → app.view = .search)

theorem fst_routeToPeers_iff (hfocus : d.focus = .peers) :
    (d.routeToPeers app event).1 = some action ↔ PaneAction app d event action := by
  rw [routeToPeers]
  obtain ⟨⟨request, peers⟩, hhandle⟩ : ∃ r, d.peers.handle event = r := ⟨_, rfl⟩
  have hrequest : (d.peers.handle event).1 = request := congrArg Prod.fst hhandle
  rw [hhandle]
  constructor
  · intro h
    obtain _ | (i | i) := request
    · cases h
    · cases h
    · obtain ⟨hkey, hselected⟩ := ListPane.handle_eq_delete_iff.1 hrequest
      obtain ⟨row, hrow, rfl⟩ := Option.map_eq_some_iff.1 h
      exact .deletePeer hkey hfocus hselected hrow
  · intro h
    cases h with
    | deletePeer hkey _ hselected hrow =>
      obtain rfl := hrequest.symm.trans (ListPane.handle_eq_delete_iff.2 ⟨hkey, hselected⟩)
      exact Option.map_eq_some_iff.2 ⟨_, hrow, rfl⟩
    | closePeer _ hother => cases hfocus.symm.trans hother
    | selectPeer hother => cases hfocus.symm.trans hother
    | downloadMatch hother => cases hfocus.symm.trans hother

theorem fst_routeToRoutes_iff (hfocus : d.focus = .routes) :
    (d.routeToRoutes app event).1 = some action ↔ PaneAction app d event action := by
  rw [routeToRoutes]
  obtain ⟨⟨request, routes⟩, hhandle⟩ : ∃ r, d.routes.handle event = r := ⟨_, rfl⟩
  have hrequest : (d.routes.handle event).1 = request := congrArg Prod.fst hhandle
  rw [hhandle]
  constructor
  · intro h
    obtain _ | (i | i) := request
    · cases h
    · obtain ⟨rfl, hselected⟩ := ListPane.handle_eq_activate_iff.1 hrequest
      obtain ⟨row, hrow, rfl⟩ := Option.map_eq_some_iff.1 h
      exact .selectPeer hfocus hselected hrow
    · obtain ⟨hkey, hselected⟩ := ListPane.handle_eq_delete_iff.1 hrequest
      obtain ⟨row, hfilter, rfl⟩ := Option.map_eq_some_iff.1 h
      obtain ⟨hrow, htab⟩ := Option.filter_eq_some_iff.1 hfilter
      exact .closePeer hkey hfocus hselected hrow htab
  · intro h
    cases h with
    | deletePeer _ hother => cases hfocus.symm.trans hother
    | closePeer hkey _ hselected hrow htab =>
      obtain rfl := hrequest.symm.trans (ListPane.handle_eq_delete_iff.2 ⟨hkey, hselected⟩)
      exact Option.map_eq_some_iff.2 ⟨_, Option.filter_eq_some_iff.2 ⟨hrow, htab⟩, rfl⟩
    | selectPeer _ hselected hrow =>
      obtain rfl := hrequest.symm.trans (ListPane.handle_eq_activate_iff.2 ⟨rfl, hselected⟩)
      exact Option.map_eq_some_iff.2 ⟨_, hrow, rfl⟩
    | downloadMatch hother => cases hfocus.symm.trans hother

theorem fst_routeToSearch_iff (hfocus : d.focus = .search) :
    (d.routeToSearch app event).1 = some action ↔ PaneAction app d event action := by
  rw [routeToSearch]
  obtain ⟨⟨request, search⟩, hhandle⟩ : ∃ r, d.search.handle event = r := ⟨_, rfl⟩
  have hrequest : (d.search.handle event).1 = request := congrArg Prod.fst hhandle
  rw [hhandle]
  constructor
  · intro h
    obtain _ | (i | i) := request
    · cases h
    · obtain ⟨rfl, hselected⟩ := ListPane.handle_eq_activate_iff.1 hrequest
      obtain ⟨request, hbind, rfl⟩ := Option.map_eq_some_iff.1 h
      obtain ⟨entry, hfound, hoffers⟩ := Option.bind_eq_some_iff.1 hbind
      obtain ⟨session, hsession, hentry⟩ := Option.bind_eq_some_iff.1 hfound
      cases entry with
      | info text => cases hoffers
      | downloadable name hash =>
        obtain rfl := Option.some.inj hoffers
        exact .downloadMatch hfocus hselected hsession hentry
    · cases h
  · intro h
    cases h with
    | deletePeer _ hother => cases hfocus.symm.trans hother
    | closePeer _ hother => cases hfocus.symm.trans hother
    | selectPeer hother => cases hfocus.symm.trans hother
    | downloadMatch _ hselected hsession hentry =>
      obtain rfl := hrequest.symm.trans (ListPane.handle_eq_activate_iff.2 ⟨rfl, hselected⟩)
      have hfound : (app.search.session.bind (·.entries[_]?)) = some (Entry.downloadable _ _) :=
        Option.bind_eq_some_iff.2 ⟨_, hsession, hentry⟩
      exact Option.map_eq_some_iff.2 ⟨_, Option.bind_eq_some_iff.2 ⟨_, hfound, rfl⟩, rfl⟩

theorem not_isTyping_of_paneAction (h : PaneAction app d event action) :
    isTyping event = false := by
  have hdeletion : event.isDeletion = true → isTyping event = false := by
    intro hkey
    cases event with
    | char c => simpa [isTyping, Event.isDeletion] using hkey
    | delete => rfl
    | _ => cases hkey
  cases h with
  | deletePeer hkey => exact hdeletion hkey
  | closePeer hkey => exact hdeletion hkey
  | selectPeer => rfl
  | downloadMatch => rfl

theorem fst_routeToFocus_iff (hlist : d.ListFocused app) :
    (d.routeToFocus app event).1 = some action ↔ PaneAction app d event action := by
  obtain ⟨hinput, hview⟩ := hlist
  have hsettled : d.settleFocus app.view = d := if_neg fun h => h.2 (hview h.1)
  rw [routeToFocus, hsettled]
  cases htyping : isTyping event with
  | true =>
    have hnone : ¬PaneAction app d event action := fun h => by
      rw [not_isTyping_of_paneAction h] at htyping
      cases htyping
    simp [hinput, hnone]
  | false =>
    simp only [Bool.and_false, Bool.false_eq_true, if_false]
    cases hfocus : d.focus with
    | input => exact absurd hfocus hinput
    | peers => exact fst_routeToPeers_iff hfocus
    | routes => exact fst_routeToRoutes_iff hfocus
    | search => exact fst_routeToSearch_iff hfocus

theorem paneAction_key (h : PaneAction app d event action) :
    event.isDeletion = true ∨ event = .submit := by
  cases h with
  | deletePeer hkey => exact .inl hkey
  | closePeer hkey => exact .inl hkey
  | selectPeer => exact .inr rfl
  | downloadMatch => exact .inr rfl

theorem route_of_listFocused (hlist : d.ListFocused app) :
    (d.route app event).1 = some action ↔
      event.shortcut? = some action ∨ PaneAction app d event action := by
  have hfocus : (d.routeToFocus app event).1 = some action ↔ PaneAction app d event action :=
    fst_routeToFocus_iff hlist
  have hno (hkey : event.isDeletion = false) (hsubmit : event ≠ .submit) :
      ¬PaneAction app d event action := fun h => by
    obtain hdeletion | hevent := paneAction_key h
    · rw [hkey] at hdeletion
      cases hdeletion
    · exact hsubmit hevent
  cases event with
  | forceQuit | refresh | nextView | closeTab | resize | focusNext | focusPrev | escape =>
    exact (or_iff_left (hno rfl nofun)).symm
  | _ => exact hfocus.trans (or_iff_right nofun).symm

theorem focus_settleFocus (h : ¬d.ListFocused app) : (d.settleFocus app.view).focus = .input := by
  unfold settleFocus
  split
  · rfl
  · rename_i hstays
    refine Classical.byContradiction fun hinput => h ⟨hinput, fun hsearch => ?_⟩
    exact Classical.byContradiction fun hview => hstays ⟨hsearch, hview⟩

theorem submit_of_routeToInput (h : (d.routeToInput app event).1 = some action) :
    ∃ text, action = .submit text := by
  rw [routeToInput] at h
  cases hscroll : scrollOf? event with
  | some scroll =>
    rw [hscroll] at h
    cases h
  | none =>
    rw [hscroll] at h
    generalize d.inputEvent event = r at h
    obtain ⟨_ | (text | _), e⟩ := r
    · cases h
    · exact ⟨text, (Option.some.inj h).symm⟩
    · cases h

theorem route_of_not_listFocused (hlist : ¬d.ListFocused app)
    (h : (d.route app event).1 = some action) :
    event.shortcut? = some action ∨ ∃ text, action = .submit text := by
  have hinput := focus_settleFocus hlist
  have hfocus : (d.routeToFocus app event).1 = some action → ∃ text, action = .submit text := by
    intro hroute
    have hsettled : d.routeToFocus app event = (d.settleFocus app.view).routeToInput app event := by
      simp [routeToFocus, hinput]
    rw [hsettled] at hroute
    exact submit_of_routeToInput hroute
  cases event with
  | forceQuit | refresh | nextView | closeTab | resize | focusNext | focusPrev | escape =>
    exact .inl h
  | _ => exact .inr (hfocus h)

theorem paneAction_of_route (hgeneral : isGeneral action = false)
    (h : (d.route app event).1 = some action) :
    PaneAction app d event action ∧ d.ListFocused app := by
  have hshortcut : event.shortcut? ≠ some action := fun hglobal => by
    rw [isGeneral_of_shortcut? hglobal] at hgeneral
    cases hgeneral
  by_cases hlist : d.ListFocused app
  · exact ⟨((route_of_listFocused hlist).1 h).resolve_left hshortcut, hlist⟩
  · obtain ⟨text, rfl⟩ := (route_of_not_listFocused hlist h).resolve_left hshortcut
    cases hgeneral

end State

end Display

/-! ## What the panel does with it -/

namespace Panel

variable {app : App} {i : Nat}

theorem deletePeer_of_row {row : PeerRow} (hrow : (peerRows app.snapshot.peers)[i]? = some row) :
    update app (.deletePeer row.address) =
      (app.withStatus s!"Removing peer {row.address}...",
        [.run (.togglePeer row.address false)]) := by
  obtain ⟨peer, hpeer, rfl⟩ := List.mem_map.1 (List.mem_of_getElem? hrow)
  have hlisted : app.hasPeer peer.address = true :=
    List.any_eq_true.2 ⟨peer, mem_of_mem_canonical hpeer, beq_self_eq_true _⟩
  exact if_pos hlisted

section
variable {row : RouteRow}
  (hrow : (routeRows app.snapshot.routes app.conversations.contains)[i]? = some row)

include hrow in
theorem origin_mem_of_row : row.origin ∈ app.snapshot.routes.map RouteRecord.origin := by
  obtain ⟨route, hroute, rfl⟩ := List.mem_map.1 (List.mem_of_getElem? hrow)
  exact List.mem_map_of_mem (mem_of_mem_canonical hroute)

include hrow in
theorem hasTab_of_row : row.hasTab = app.conversations.contains row.origin := by
  obtain ⟨route, hroute, rfl⟩ := List.mem_map.1 (List.mem_of_getElem? hrow)
  rfl

end

/-- Closing a tab takes away this tab and no other one; nothing is asked for, and the view gives way
to the feed if it was that of the tab. -/
structure ClosesTab (app : App) (peer : String) : Prop where
  update_eq : update app (.closePeer peer) =
    ({ app with
        conversations := { app.conversations with
          tabs := app.conversations.tabs.filter (·.peer != peer) }
        view := if app.view = .peer peer then .gossip else app.view }, [])
  /-- No peer has two tabs in a panel at work: the tabs before and behind it are left. -/
  one : (app.conversations.tabs.map (·.peer)).Nodup →
    ∃ before tab behind, app.conversations.tabs = before ++ tab :: behind ∧ tab.peer = peer ∧
      app.conversations.tabs.filter (·.peer != peer) = before ++ behind

theorem closesTab_of_contains {peer : String} (hopen : app.conversations.contains peer = true) :
    ClosesTab app peer where
  update_eq := by
    show (app.closePeer peer, []) = _
    rw [App.closePeer, if_pos hopen]
    rfl
  one := by
    intro hnodup
    obtain ⟨tab, htab, rfl⟩ := Conversations.contains_iff.1 hopen
    obtain ⟨before, behind, htabs⟩ := List.append_of_mem htab
    rw [htabs, List.map_append, List.map_cons] at hnodup
    have hfresh := List.nodup_middle.1 hnodup
    rw [← List.map_append, List.nodup_cons] at hfresh
    have hothers : ∀ t ∈ before ++ behind, (t.peer != tab.peer) = true := by
      intro t ht
      exact bne_iff_ne.2 fun hpeer => hfresh.1 (hpeer ▸ List.mem_map_of_mem ht)
    refine ⟨before, tab, behind, htabs, rfl, ?_⟩
    rw [htabs, List.filter_append, List.filter_cons_of_neg (by simp), ← List.filter_append]
    exact List.filter_eq_self.2 hothers

end Panel

/-- **What a key does in a list can be done, and is about the selected row.** In every state of the
panel and of the display, also where the rows have changed since they were drawn:

* the removal of a peer comes of the selected row of the peer list, and the panel asks the node for
  it; it is never refused;
* the closing of a tab comes of the selected row of the route list, whose tab is open, and takes
  away this tab only;
* the selection of a peer comes of the selected row of the route list, and its origin is listed;
* a download comes of the selected entry of the search that is shown, and asks for its file from
  any peer;
* while a list has the focus, the search results in their view, an event becomes a shortcut or one
  of these four about an existing row, and always one of these four if the row offers it. -/
theorem pane_actions_applicable (app : App) (d : Display.State) (event : Event) :
    let action := (d.route app event).1
    let routes := routeRows app.snapshot.routes app.conversations.contains
    (∀ address, action = some (.deletePeer address) →
        d.focus = .peers ∧ ∃ i row, d.peers.selected = some i ∧
          (peerRows app.snapshot.peers)[i]? = some row ∧ row.address = address ∧
          update app (.deletePeer address) =
            (app.withStatus s!"Removing peer {address}...", [.run (.togglePeer address false)])) ∧
      (∀ origin, action = some (.closePeer origin) →
        d.focus = .routes ∧ ∃ i row, d.routes.selected = some i ∧ routes[i]? = some row ∧
          row.origin = origin ∧ app.conversations.contains origin = true ∧
          ClosesTab app origin) ∧
      (∀ origin, action = some (.selectPeer origin) →
        d.focus = .routes ∧ ∃ i row, d.routes.selected = some i ∧ routes[i]? = some row ∧
          row.origin = origin ∧ origin ∈ app.snapshot.routes.map RouteRecord.origin) ∧
      (∀ request, action = some (.downloadMatch request) →
        d.focus = .search ∧ app.view = .search ∧
          ∃ i session, d.search.selected = some i ∧ app.search.session = some session ∧
            session.entries[i]? = some (.downloadable request.name request.hash) ∧
            request.peer = "") ∧
      (d.ListFocused app → ∀ a, action = some a ↔
        event.shortcut? = some a ∨ PaneAction app d event a) := by
  intro action routes
  refine ⟨fun address h => ?_, fun origin h => ?_, fun origin h => ?_, fun request h => ?_,
    fun hlist a => State.route_of_listFocused hlist⟩
  · obtain ⟨hpane, -⟩ := State.paneAction_of_route rfl h
    cases hpane with
    | deletePeer _ hfocus hselected hrow =>
      exact ⟨hfocus, _, _, hselected, hrow, rfl, deletePeer_of_row hrow⟩
  · obtain ⟨hpane, -⟩ := State.paneAction_of_route rfl h
    cases hpane with
    | closePeer _ hfocus hselected hrow htab =>
      have hopen := (hasTab_of_row hrow).symm.trans htab
      exact ⟨hfocus, _, _, hselected, hrow, rfl, hopen, closesTab_of_contains hopen⟩
  · obtain ⟨hpane, -⟩ := State.paneAction_of_route rfl h
    cases hpane with
    | selectPeer hfocus hselected hrow =>
      exact ⟨hfocus, _, _, hselected, hrow, rfl, origin_mem_of_row hrow⟩
  · obtain ⟨hpane, hlist⟩ := State.paneAction_of_route rfl h
    cases hpane with
    | downloadMatch hfocus hselected hsession hentry =>
      exact ⟨hfocus, hlist.2 hfocus, _, _, hselected, hsession, hentry, rfl⟩

/-- The only listed route has a tab. Deleting the row under the cursor closes it; a cursor that is
left over from the third of three rows does nothing. -/
theorem delete_closes_tab_under_cursor :
    let app : App := {
      snapshot := { routes := [{ origin := "bob" }] }
      conversations := { tabs := [{ peer := "bob", ordinal := 2 }] } }
    let d : Display.State := { routes := { cursor := some 0, count := 1 }, focus := .routes }
    let stale : Display.State := { routes := { cursor := some 2, count := 3 }, focus := .routes }
    d.ListFocused app ∧ stale.ListFocused app ∧
      (d.route app .delete).1 = some (.closePeer "bob") ∧ ClosesTab app "bob" ∧
      (stale.route app .delete).1 = none := by
  intro app d stale
  have hlist : d.ListFocused app := ⟨by decide, by decide⟩
  have hstale : stale.ListFocused app := ⟨by decide, by decide⟩
  have hrows : routeRows app.snapshot.routes app.conversations.contains = [⟨"bob", "", true⟩] := by
    simp [app, routeRows, canonical, firstByKey, viaText, Conversations.contains]
  obtain ⟨-, hclose, -, -, hiff⟩ := pane_actions_applicable app d .delete
  have hrow : (routeRows app.snapshot.routes app.conversations.contains)[0]? =
      some ⟨"bob", "", true⟩ := by rw [hrows]; rfl
  have haction : (d.route app .delete).1 = some (.closePeer "bob") :=
    (hiff hlist _).2 (.inr (.closePeer rfl rfl rfl hrow rfl))
  obtain ⟨-, i, row, -, -, -, -, hcloses⟩ := hclose "bob" haction
  refine ⟨hlist, hstale, haction, hcloses, ?_⟩
  obtain ⟨-, -, -, -, hiff⟩ := pane_actions_applicable app stale .delete
  refine Option.eq_none_iff_forall_ne_some.2 fun a ha => ?_
  obtain hshortcut | hpane := (hiff hstale a).1 ha
  · cases hshortcut
  · cases hpane with
    | deletePeer _ hfocus => cases hfocus
    | closePeer _ _ hselected hrow =>
      obtain rfl := Option.some.inj hselected
      rw [hrows] at hrow
      cases hrow

end GossipPanel
