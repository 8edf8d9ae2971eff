import GossipPanel.Display.Drawing
import GossipPanel.Proofs.MessageList.Layout

/-!
# Drawing a second time

The display remembers what it needs to know of a drawing: heights, offsets, cursors. A drawing
leaves everything where a second drawing would put it, so that a second one shows the same screen
and changes nothing.

* `Settles`: a drawing that a second one does not change. `MessageList.settles_draw`,
  `ListPane.settles_drawItems` and `InputBox.settles_draw`: the parts of the screen settle.
* `ListPane.Settled`: the cursor is on one of the rows; a pane that is settled for its rows does not
  change when it learns of their number again.
* `State.settles_drawMessages`: the list of a conversation that has been closed is forgotten before
  every drawing and drawn anew; every other list is found again.
* `redrawing_changes_nothing`: the whole screen, in every state of the display.
-/

namespace GossipPanel.Display

open Panel Screen

/-- A second drawing shows the same as the first and changes nothing any more. -/
def Settles {σ β : Type} (draw : σ → σ × β) : Prop :=
  ∀ s, draw (draw s).1 = draw s

/-! ## Message lists -/

namespace MessageList

theorem arrange_arrange (m : MessageList) (rows : List MessageRow) (width height : Nat) :
    (m.arrange rows width height).arrange rows width height = m.arrange rows width height := by
  obtain ⟨offset, layout, stick, viewport⟩ := m
  cases stick with
  | true => simp [arrange, maxOffset, Layout.update_update]
  | false => simp [arrange, maxOffset, Layout.update_update]

theorem settles_draw (rows : List MessageRow) (remark : String) (width height : Nat) :
    Settles fun m : MessageList => m.draw rows remark width height := by
  intro m
  by_cases hrows : rows.isEmpty
  · simp only [draw, if_pos hrows]
  · simp only [draw, if_neg hrows, arrange_arrange]

end MessageList

/-! ## List panes -/

namespace ListPane

/-- The pane knows the number of its rows, and its cursor is on one of them. -/
structure Settled (p : ListPane) (count : Nat) : Prop where
  knows : p.count = count
  empty : count = 0 → p.cursor = none ∧ p.offset = 0
  chosen : 0 < count → ∃ i < count, p.cursor = some i

theorem settled_sync (p : ListPane) (count : Nat) : (p.sync count).Settled count := by
  rw [sync]
  split
  · rename_i hcount
    exact ⟨rfl, fun _ => ⟨rfl, rfl⟩, fun hpos => absurd hcount (Nat.ne_of_gt hpos)⟩
  · rename_i hcount
    have hpos : 0 < count := Nat.pos_of_ne_zero hcount
    cases hcursor : p.cursor with
    | none => exact ⟨rfl, fun h => absurd h hcount, fun _ => ⟨0, hpos, rfl⟩⟩
    | some i =>
      by_cases hi : count ≤ i
      · simp only [if_pos hi]
        exact ⟨rfl, fun h => absurd h hcount, fun _ => ⟨count - 1, by omega, rfl⟩⟩
      · simp only [if_neg hi]
        exact ⟨rfl, fun h => absurd h hcount, fun _ => ⟨i, by omega, rfl⟩⟩

theorem Settled.sync_eq {p : ListPane} {count : Nat} (h : p.Settled count) : p.sync count = p := by
  obtain ⟨cursor, offset, seen⟩ := p
  obtain ⟨hknows, hempty, hchosen⟩ := h
  dsimp only at hknows hempty hchosen
  rcases Nat.eq_zero_or_pos count with hzero | hpos
  · obtain ⟨rfl, rfl⟩ := hempty hzero
    simp [sync, select, hzero, hknows]
  · obtain ⟨i, hi, rfl⟩ := hchosen hpos
    simp [sync, Nat.ne_of_gt hpos, Nat.not_le_of_lt hi, hknows]

theorem Settled.drawItems {p : ListPane} {items : List (List Span)} (h : p.Settled items.length)
    (title : String) (focused : Bool) (width height : Nat) :
    (p.drawItems title items focused width height).1.Settled items.length := by
  rw [ListPane.drawItems]
  split
  · exact h
  split
  · rename_i hitems
    have hzero : items.length = 0 := by simpa using hitems
    exact ⟨h.knows, fun _ => ⟨rfl, rfl⟩, fun hpos => absurd hzero (Nat.ne_of_gt hpos)⟩
  · rename_i hitems
    have hpos : 0 < items.length := List.length_pos_iff.2 (by simpa using hitems)
    obtain ⟨i, hi, hcursor⟩ := h.chosen hpos
    refine ⟨h.knows, fun hzero => absurd hzero (Nat.ne_of_gt hpos), fun _ => ⟨i, hi, ?_⟩⟩
    have hmin : min i (items.length - 1) = i := by omega
    rw [hcursor, Option.map_some, hmin]

theorem settles_drawItems (title : String) (items : List (List Span)) (focused : Bool)
    (width height : Nat) :
    Settles fun p : ListPane => p.drawItems title items focused width height := by
  intro p
  by_cases hroom : width ≤ 2 ∨ height ≤ 2
  · simp only [drawItems, if_pos hroom]
  by_cases hitems : items.isEmpty
  · simp only [drawItems, if_neg hroom, if_pos hitems]
    rfl
  let cursor := p.cursor.map (min · (items.length - 1))
  have hcursor : cursor.map (min · (items.length - 1)) = cursor := by
    rw [Option.map_map]
    congr 1
    funext i
    exact Nat.min_eq_left (Nat.min_le_right _ _)
  have hshown (i : Nat) (hi : cursor = some i) : i < items.length := by
    obtain ⟨j, -, rfl⟩ := Option.map_eq_some_iff.1 hi
    have hpos : 0 < items.length := List.length_pos_iff.2 (by simpa using hitems)
    omega
  have hoffset := listOffset_listOffset cursor p.offset (show 0 < height - 2 by omega) hshown
  simp only [drawItems, if_neg hroom, if_neg hitems]
  rw [hcursor, hoffset]

theorem settles_drawItems_sync (title : String) {items : List (List Span)} {count : Nat}
    (hcount : items.length = count) (focused : Bool) (width height : Nat) :
    Settles fun p : ListPane => (p.sync count).drawItems title items focused width height := by
  subst hcount
  intro p
  have hsettled : ((p.sync items.length).drawItems title items focused width height).1.Settled
      items.length := (settled_sync p items.length).drawItems title focused width height
  dsimp only
  rw [hsettled.sync_eq]
  exact settles_drawItems title items focused width height (p.sync items.length)

theorem settles_drawPeers (rows : List PeerRow) (focused : Bool) (width height : Nat) :
    Settles fun p : ListPane => p.drawPeers rows focused width height :=
  settles_drawItems_sync _ (List.length_map peerItem) focused width height

theorem settles_drawRoutes (rows : List RouteRow) (focused : Bool) (width height : Nat) :
    Settles fun p : ListPane => p.drawRoutes rows focused width height :=
  settles_drawItems_sync _ (List.length_map routeItem) focused width height

theorem settles_drawSearch (session : Option Session) (focused : Bool) (width height : Nat) :
    Settles fun p : ListPane => p.drawSearch session focused width height := by
  intro p
  cases session with
  | none => simp only [drawSearch, (settled_sync p 0).sync_eq]
  | some s =>
    by_cases hstarted : (s.entries.isEmpty && s.isRunning) = true
    · simp only [drawSearch, if_pos hstarted, (settled_sync p s.entries.length).sync_eq]
    · simp only [drawSearch, if_neg hstarted]
      exact settles_drawItems_sync _ (List.length_map entryItem) focused width height p

end ListPane

/-! ## The input box -/

namespace InputBox

theorem updateScroll_updateScroll (b : InputBox) (width : Nat) :
    (b.updateScroll width).updateScroll width = b.updateScroll width := by
  rcases Nat.eq_zero_or_pos width with hzero | hpos
  · simp only [updateScroll, if_pos hzero]
  · obtain ⟨hscroll, hcovers⟩ := b.updateScroll_covers hpos
    exact updateScroll_of_covers hpos hscroll hcovers

theorem settles_draw (title : String) (focused : Bool) (width height : Nat) :
    Settles fun b : InputBox => b.draw title focused width height := by
  intro b
  simp only [draw, updateScroll_updateScroll]

end InputBox

/-! ## The screen -/

namespace State

variable (d : State) (app : App)

theorem forgetClosed_forgetClosed : (d.forgetClosed app).forgetClosed app = d.forgetClosed app := by
  simp [forgetClosed, List.filter_filter]

theorem setMessageList_setMessageList (view : View) (list other : MessageList) :
    (d.setMessageList view other).setMessageList view list = d.setMessageList view list := by
  simp [setMessageList, List.filter_filter]

/-- The view of a list is not that of a conversation that has been closed. -/
def isOpen (view : View) : Bool :=
  match view with
  | .peer name => app.conversations.contains name
  | _ => true

theorem messageLists_forgetClosed :
    (d.forgetClosed app).messageLists = d.messageLists.filter fun entry => isOpen app entry.1 :=
  rfl

theorem messageLists_setMessageList (view : View) (list : MessageList) :
    (d.setMessageList view list).messageLists =
      (view, list) :: d.messageLists.filter (·.1 != view) :=
  rfl

theorem forgetClosed_setMessageList_of_open {view : View} (hopen : isOpen app view = true)
    (list : MessageList) :
    ((d.forgetClosed app).setMessageList view list).forgetClosed app =
      (d.forgetClosed app).setMessageList view list := by
  have hlists : (((d.forgetClosed app).setMessageList view list).forgetClosed app).messageLists =
      ((d.forgetClosed app).setMessageList view list).messageLists := by
    rw [messageLists_forgetClosed, messageLists_setMessageList, messageLists_forgetClosed,
      List.filter_cons_of_pos (by exact hopen), List.filter_filter, List.filter_filter,
      List.filter_filter]
    refine congrArg ((view, list) :: ·) (List.filter_congr fun entry _ => ?_)
    simp [Bool.and_comm]
  exact congrArg (fun messageLists => { d with messageLists }) hlists

theorem forgetClosed_setMessageList_of_closed {view : View} (hclosed : isOpen app view = false)
    (list : MessageList) :
    ((d.forgetClosed app).setMessageList view list).forgetClosed app = d.forgetClosed app := by
  have hlists : (((d.forgetClosed app).setMessageList view list).forgetClosed app).messageLists =
      (d.forgetClosed app).messageLists := by
    rw [messageLists_forgetClosed, messageLists_setMessageList, messageLists_forgetClosed,
      List.filter_cons_of_neg (by simp [hclosed]), List.filter_filter, List.filter_filter]
    refine List.filter_congr fun entry _ => ?_
    have hne : isOpen app entry.1 = true → entry.1 ≠ view := by
      rintro hentry rfl
      exact absurd hentry (by simp [hclosed])
    cases hentry : isOpen app entry.1 with
    | true => simp [hne hentry]
    | false => rfl
  exact congrArg (fun messageLists => { d with messageLists }) hlists

theorem settles_drawMessages (width height : Nat) :
    Settles fun d : State => (d.forgetClosed app).drawMessages app width height := by
  intro d
  let kept := d.forgetClosed app
  let rows := messageRows app.visibleMessages app.snapshot.identity
  let drawn := (kept.messageList app.view).draw rows (remark app) (width - 2) (height - 2)
  let once := kept.setMessageList app.view drawn.1
  change (once.forgetClosed app).drawMessages app width height =
    kept.drawMessages app width height
  cases hopen : isOpen app app.view with
  | true =>
    have hlist : once.messageList app.view = drawn.1 := by
      rw [messageList, messageList?_setMessageList_self, Option.getD_some]
    have hagain : (once.messageList app.view).draw rows (remark app) (width - 2) (height - 2) =
        drawn := by
      rw [hlist]
      exact MessageList.settles_draw rows (remark app) _ _ (kept.messageList app.view)
    rw [forgetClosed_setMessageList_of_open d app hopen]
    calc once.drawMessages app width height
        = (once.setMessageList app.view drawn.1, _) := by rw [drawMessages, hagain]
      _ = kept.drawMessages app width height := by
        rw [setMessageList_setMessageList]
        rfl
  | false => rw [forgetClosed_setMessageList_of_closed d app hopen]

theorem settles_drawSidebar (width height : Nat) :
    Settles fun d : State => d.drawSidebar app width height := by
  intro d
  let drawPeers (p : ListPane) :=
    p.drawPeers (peerRows app.snapshot.peers) (d.focus = .peers) width (peersHeight height)
  let drawRoutes (p : ListPane) :=
    p.drawRoutes (routeRows app.snapshot.routes app.conversations.contains) (d.focus = .routes)
      width (height - peersHeight height)
  let peers := drawPeers d.peers
  let routes := drawRoutes d.routes
  have hpeers : drawPeers peers.1 = peers := ListPane.settles_drawPeers _ _ _ _ d.peers
  have hroutes : drawRoutes routes.1 = routes := ListPane.settles_drawRoutes _ _ _ _ d.routes
  calc (d.drawSidebar app width height).1.drawSidebar app width height
      = ({ d with peers := (drawPeers peers.1).1, routes := (drawRoutes routes.1).1 },
          (drawPeers peers.1).2 ++ (drawRoutes routes.1).2) := rfl
    _ = d.drawSidebar app width height := by
        rw [hpeers, hroutes]
        rfl

theorem settles_drawView (width height : Nat) :
    Settles fun d : State => (d.forgetClosed app).drawView app width height := by
  cases hview : app.view with
  | search =>
    intro d
    let drawSearch (p : ListPane) :=
      p.drawSearch app.search.session (d.focus = .search) width height
    let search := drawSearch d.search
    have hsearch : drawSearch search.1 = search := ListPane.settles_drawSearch _ _ _ _ d.search
    have hdrawView (e : State) (hfocus : e.focus = d.focus) : e.drawView app width height =
        ({ e with search := (drawSearch e.search).1 }, (drawSearch e.search).2) := by
      rw [drawView, hview, hfocus]
    calc (((d.forgetClosed app).drawView app width height).1.forgetClosed app).drawView app width
          height
        = ({ (d.forgetClosed app).forgetClosed app with search := (drawSearch search.1).1 },
            (drawSearch search.1).2) := by
          rw [hdrawView (d.forgetClosed app) rfl]
          exact hdrawView _ rfl
      _ = (d.forgetClosed app).drawView app width height := by
          rw [hsearch, forgetClosed_forgetClosed, hdrawView (d.forgetClosed app) rfl]
          rfl
  | _ =>
    have hdrawView : (fun d : State => (d.forgetClosed app).drawView app width height) =
        fun d => (d.forgetClosed app).drawMessages app width height := by
      funext d
      rw [drawView, hview]
    rw [hdrawView]
    exact settles_drawMessages app width height

-- A drawing of one part takes the others as they are: by the next two lemmas, a part that has been
-- drawn may stand where the one before stood.

theorem drawView_withSidebar (peers routes : ListPane) (width height : Nat) :
    ({ d with peers, routes } : State).drawView app width height =
      ({ (d.drawView app width height).1 with peers, routes },
        (d.drawView app width height).2) := by
  rw [drawView, drawView]
  cases app.view <;> rfl

theorem drawBody_withInput (input : InputBox) (width height : Nat) :
    ({ d with input } : State).drawBody app width height =
      ({ (d.drawBody app width height).1 with input }, (d.drawBody app width height).2) := by
  rw [drawBody, drawBody]
  cases app.connection with
  | disconnected reason => rfl
  | _ =>
    dsimp only
    rw [drawPanel, drawPanel, drawView, drawView]
    cases app.view <;> rfl

theorem settles_drawPanel (width height : Nat) :
    Settles fun d : State => (d.forgetClosed app).drawPanel app width height := by
  intro d
  let side := min sidebarWidth width
  let main := (d.forgetClosed app).drawView app (width - side) height
  let panel := main.1.drawSidebar app side height
  have hmain : (panel.1.forgetClosed app).drawView app (width - side) height =
      (panel.1, main.2) := by
    have hview : (main.1.forgetClosed app).drawView app (width - side) height = main :=
      settles_drawView app _ _ d
    calc (panel.1.forgetClosed app).drawView app (width - side) height
        = ({ main.1.forgetClosed app with peers := panel.1.peers, routes := panel.1.routes } :
            State).drawView app (width - side) height := rfl
      _ = (panel.1, main.2) := by
          rw [drawView_withSidebar, hview]
          rfl
  have hpanel : panel.1.drawSidebar app side height = panel := settles_drawSidebar app _ _ main.1
  calc (panel.1.forgetClosed app).drawPanel app width height
      = ((panel.1.drawSidebar app side height).1,
          beside main.2 (panel.1.drawSidebar app side height).2) := by rw [drawPanel, hmain]
    _ = (d.forgetClosed app).drawPanel app width height := by
        rw [hpanel]
        rfl

theorem settles_drawBody (width height : Nat) :
    Settles fun d : State => (d.forgetClosed app).drawBody app width height := by
  cases hconnection : app.connection with
  | disconnected reason =>
    intro d
    simp only [drawBody, hconnection, forgetClosed_forgetClosed]
  | _ =>
    have hdrawBody : (fun d : State => (d.forgetClosed app).drawBody app width height) =
        fun d => (d.forgetClosed app).drawPanel app width height := by
      funext d
      rw [drawBody, hconnection]
    rw [hdrawBody]
    exact settles_drawPanel app width height

/-- A display and its screen, when the body and the input box have been drawn. -/
def assemble (url : String) (width height : Nat) (middle : Picture)
    (drawn : InputBox × Picture × Option (Nat × Nat)) : State × Scene :=
  let top := min height 2
  let body := height - 2 - min inputHeight (height - 2)
  ({ d with input := drawn.1 },
    { picture :=
        fitRows (blank .plain) width height
          ([(d.titleBar app url).draw width, TabBar.draw app width] ++ middle ++ drawn.2.1)
      cursor := drawn.2.2.map fun (x, y) => (x, y + body + top) })

theorem draw_of_drawBody {url : String} {width height : Nat} {main : State × Picture}
    (h : (d.forgetClosed app).drawBody app width (height - 2 - min inputHeight (height - 2)) =
      main) :
    d.draw app url width height =
      main.1.assemble app url width height main.2
        (main.1.input.draw (InputBox.titleFor app.view app.sending) (main.1.focus = .input) width
          (min inputHeight (height - 2))) := by
  rw [← h]
  rfl

end State

/-- A second drawing of the same contents on a screen of the same size shows the same, and leaves
the display as the first one left it: every list is where it was and follows its end if it did,
every cursor is on its row, and the text of the input box is shown from the same column on. -/
theorem redrawing_changes_nothing (d : State) (app : App) (url : String) (width height : Nat) :
    let (drawn, scene) := d.draw app url width height
    drawn.draw app url width height = (drawn, scene) := by
  let bottom := min inputHeight (height - 2)
  let main := (d.forgetClosed app).drawBody app width (height - 2 - bottom)
  let box := main.1.input.draw (InputBox.titleFor app.view app.sending) (main.1.focus = .input)
    width bottom
  let drawn : State := { main.1 with input := box.1 }
  have hmain : (drawn.forgetClosed app).drawBody app width (height - 2 - bottom) =
      (drawn, main.2) := by
    have hagain : (main.1.forgetClosed app).drawBody app width (height - 2 - bottom) = main :=
      State.settles_drawBody app _ _ d
    calc (drawn.forgetClosed app).drawBody app width (height - 2 - bottom)
        = ({ main.1.forgetClosed app with input := box.1 } : State).drawBody app width
            (height - 2 - bottom) := rfl
      _ = (drawn, main.2) := by rw [State.drawBody_withInput, hagain]
  have hbox : drawn.input.draw (InputBox.titleFor app.view app.sending) (drawn.focus = .input) width
      bottom = box := InputBox.settles_draw _ _ _ _ main.1.input
  calc drawn.draw app url width height
      = drawn.assemble app url width height main.2
          (drawn.input.draw (InputBox.titleFor app.view app.sending) (drawn.focus = .input) width
            bottom) := State.draw_of_drawBody drawn app hmain
    _ = drawn.assemble app url width height main.2 box := by rw [hbox]
    _ = d.draw app url width height := rfl

end GossipPanel.Display
