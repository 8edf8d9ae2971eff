import GossipPanel.Display.Drawing

/-!
# How a screen shows the focus

Every part that can have the focus stands in a frame, which is bright while the part has the focus
and dark gray otherwise. A frame is told by the cell in its upper left corner.

* `Framed`: a picture in a frame of a colour, whatever its title and its contents.
  `cellAt?_of_framed`: its corner. The drawings of the parts are framed.
* `corner?`: where the corners are on a screen, as far as it has room for them.
* `State.cellAt?_draw`: the colours of the corners on a screen that shows the panel.
* `highlighted`: the parts that a screen shows as the one that has the focus.
  `State.highlighted_draw`: it is the part that has the focus, if the view has it.
-/

namespace GossipPanel.Screen

/-! ## Cells -/

/-- The cell of a picture in a column and a row. -/
def cellAt? (p : Picture) (x y : Nat) : Option Cell :=
  p[y]?.bind (·[x]?)

theorem cellAt?_append (above below : Picture) (x y : Nat) :
    cellAt? (above ++ below) x y =
      if y < above.length then cellAt? above x y else cellAt? below x (y - above.length) := by
  rw [cellAt?, List.getElem?_append]
  split <;> rfl

theorem cellAt?_fitRows (ground : Cell) (width : Nat) {height y : Nat} {p : Picture}
    (hheight : y < height) (hy : y < p.length) (x : Nat) :
    cellAt? (fitRows ground width height p) x y = cellAt? p x y := by
  rw [cellAt?, cellAt?, getElem?_fitRows ground width p hheight, List.getElem?_eq_getElem hy,
    Option.getD_some]

theorem cellAt?_beside {left right : Picture} {width : Nat} (hwidth : left.HasWidth width)
    (hlength : left.length = right.length) (x y : Nat) :
    cellAt? (beside left right) x y =
      if x < width then cellAt? left x y else cellAt? right (x - width) y := by
  rcases Nat.lt_or_ge y left.length with hlt | hge
  · have hrow : left[y].length = width := hwidth _ (List.getElem_mem hlt)
    have hother : y < right.length := hlength ▸ hlt
    simp only [cellAt?, beside, List.getElem?_zipWith, List.getElem?_eq_getElem hlt,
      List.getElem?_eq_getElem hother, Option.bind_some]
    rw [List.getElem?_append, hrow]
  · have hboth : (beside left right).length ≤ y := by
      rw [beside, List.length_zipWith]
      omega
    simp only [cellAt?, List.getElem?_eq_none hboth, List.getElem?_eq_none hge,
      List.getElem?_eq_none (hlength ▸ hge), Option.bind_none, ite_self]

/-! ## Frames -/

/-- A picture of this size in a frame of a colour. -/
def Framed (color : Color) (width height : Nat) (p : Picture) : Prop :=
  ∃ title contents, p = Frame.around { style := .colored color, title } width height contents

section
variable {color : Color} {width height : Nat} {p : Picture}

theorem length_of_framed (h : Framed color width height p) : p.length = height := by
  obtain ⟨title, contents, rfl⟩ := h
  exact Frame.length_around _ width height contents

theorem hasWidth_of_framed (h : Framed color width height p) : p.HasWidth width := by
  obtain ⟨title, contents, rfl⟩ := h
  exact Frame.hasWidth_around _ width height contents

theorem Frame.getElem?_top_zero (f : Frame) (hwidth : 0 < width) :
    (f.top width)[0]? = some ⟨f.border.topLeft, f.style⟩ := by
  obtain ⟨w, rfl⟩ := Nat.exists_eq_succ_of_ne_zero (Nat.ne_of_gt hwidth)
  cases w <;> rfl

theorem cellAt?_of_framed (h : Framed color width height p) (hwidth : 0 < width)
    (hheight : 0 < height) : cellAt? p 0 0 = some ⟨"╭", .colored color⟩ := by
  obtain ⟨title, contents, rfl⟩ := h
  obtain ⟨k, rfl⟩ := Nat.exists_eq_succ_of_ne_zero (Nat.ne_of_gt hheight)
  cases k <;> exact Frame.getElem?_top_zero _ hwidth

end

end GossipPanel.Screen

namespace GossipPanel.Display

open Panel Screen

/-! ## The parts of the screen -/

/-- The colour of the frame of a list, which has the focus or not. -/
def ListPane.color (focused : Bool) : Color :=
  if focused then .cyan else .darkGray

/-- The colour of the frame of a part. -/
def Focus.color (f : Focus) (focused : Bool) : Color :=
  match f with
  | .input => if focused then .green else .darkGray
  | _ => ListPane.color focused

namespace ListPane

variable {p : ListPane} {width height : Nat}

theorem framed_around (title : String) (focused : Bool) (contents : Picture) :
    Framed (color focused) width height ((frame title focused).around width height contents) :=
  ⟨lineSpans {} title, contents, rfl⟩

theorem framed_drawItems (title : String) (items : List (List Span)) (focused : Bool) :
    Framed (color focused) width height (p.drawItems title items focused width height).2 := by
  rw [drawItems]
  split
  · exact framed_around title focused _
  · split <;> exact framed_around title focused _

theorem framed_drawSearch (session : Option Session) (focused : Bool) :
    Framed (color focused) width height (p.drawSearch session focused width height).2 := by
  cases session with
  | none => exact framed_around _ focused _
  | some s =>
    rw [drawSearch]
    split
    · exact framed_around _ focused _
    · exact framed_drawItems _ _ focused

end ListPane

theorem InputBox.framed_draw (b : InputBox) (title : String) (focused : Bool) (width height : Nat) :
    Framed (Focus.input.color focused) width height (b.draw title focused width height).2.1 :=
  ⟨lineSpans {} title, _, rfl⟩

namespace State

variable {d : State} {app : App} {width height : Nat}

/-- The colour of the frame of the view: that of the search results, or of messages. -/
def viewColor (d : State) (app : App) : Color :=
  if app.view = .search then Focus.search.color (d.focus = .search) else .darkGray

theorem framed_drawView :
    Framed (d.viewColor app) width height (d.drawView app width height).2 := by
  rw [drawView, viewColor]
  cases app.view with
  | search => exact ListPane.framed_drawSearch _ _
  | _ => exact ⟨_, _, rfl⟩

theorem focus_drawView : (d.drawView app width height).1.focus = d.focus := by
  rw [drawView]
  cases app.view <;> rfl

theorem exists_parts_of_drawSidebar (d : State) (app : App) (width height : Nat) :
    ∃ above below, (d.drawSidebar app width height).2 = above ++ below ∧
      Framed (Focus.peers.color (d.focus = .peers)) width (peersHeight height) above ∧
      Framed (Focus.routes.color (d.focus = .routes)) width (height - peersHeight height) below :=
  ⟨_, _, rfl, ListPane.framed_drawItems _ _ _, ListPane.framed_drawItems _ _ _⟩

theorem exists_parts_of_drawPanel (d : State) (app : App) (width height : Nat) :
    ∃ main above below, (d.drawPanel app width height).2 = beside main (above ++ below) ∧
      Framed (d.viewColor app) (width - min sidebarWidth width) height main ∧
      Framed (Focus.peers.color (d.focus = .peers)) (min sidebarWidth width) (peersHeight height)
        above ∧
      Framed (Focus.routes.color (d.focus = .routes)) (min sidebarWidth width)
        (height - peersHeight height) below := by
  let viewed := d.drawView app (width - min sidebarWidth width) height
  obtain ⟨above, below, hsidebar, habove, hbelow⟩ :=
    exists_parts_of_drawSidebar viewed.1 app (min sidebarWidth width) height
  have hfocus : viewed.1.focus = d.focus := focus_drawView
  rw [hfocus] at habove hbelow
  exact ⟨viewed.2, above, below, congrArg (beside viewed.2) hsidebar, framed_drawView, habove,
    hbelow⟩

theorem focus_drawBody : (d.drawBody app width height).1.focus = d.focus := by
  rw [drawBody]
  cases app.connection with
  | disconnected reason => rfl
  | _ => exact focus_drawView

end State

/-! ## The corners -/

/-- Rows of the body on a screen of this height. -/
def bodyHeight (height : Nat) : Nat :=
  height - 2 - min inputHeight (height - 2)

/-- The upper left corner of a part on a screen of this size, if the view has the part and the
screen has room for it. -/
def corner? (view : View) (width height : Nat) : Focus → Option (Nat × Nat)
  | .input => if 0 < width ∧ 2 < height then some (0, 2 + bodyHeight height) else none
  | .search =>
    if view = .search ∧ sidebarWidth < width ∧ 0 < bodyHeight height then some (0, 2) else none
  | .peers =>
    if 0 < width ∧ 0 < peersHeight (bodyHeight height) then
      some (width - min sidebarWidth width, 2)
    else none
  | .routes =>
    if 0 < width ∧ peersHeight (bodyHeight height) < bodyHeight height then
      some (width - min sidebarWidth width, 2 + peersHeight (bodyHeight height))
    else none

theorem peersHeight_le (body : Nat) : peersHeight body ≤ body := by
  unfold peersHeight
  omega

theorem isSome_corner? {view : View} {width height : Nat} (hwidth : sidebarWidth < width)
    (hheight : 7 ≤ height) {f : Focus} (hf : f ∈ Focus.order view) :
    (corner? view width height f).isSome = true := by
  have hpos : 0 < width := Nat.zero_lt_of_lt hwidth
  have hbody : 2 ≤ bodyHeight height := by
    unfold bodyHeight inputHeight
    omega
  have hpeers : 0 < peersHeight (bodyHeight height) := by
    unfold peersHeight
    omega
  have hroutes : peersHeight (bodyHeight height) < bodyHeight height := by
    unfold peersHeight
    omega
  cases f with
  | input => simp [corner?, hpos, show 2 < height by omega]
  | search =>
    have hview : view = .search := by
      cases view <;> first | rfl | simp [Focus.order] at hf
    simp [corner?, hview, hwidth, show 0 < bodyHeight height by omega]
  | peers => simp [corner?, hpos, hpeers]
  | routes => simp [corner?, hpos, hroutes]

namespace State

variable {d : State} {app : App} {width height : Nat}

theorem exists_parts_of_draw (hworking : ∀ reason, app.connection ≠ .disconnected reason)
    (d : State) (url : String) (width height : Nat) :
    ∃ bars main above below box,
      (d.draw app url width height).2.picture =
        fitRows (blank .plain) width height (bars ++ beside main (above ++ below) ++ box) ∧
      bars.length = 2 ∧
      Framed (d.viewColor app) (width - min sidebarWidth width) (bodyHeight height) main ∧
      Framed (Focus.peers.color (d.focus = .peers)) (min sidebarWidth width)
        (peersHeight (bodyHeight height)) above ∧
      Framed (Focus.routes.color (d.focus = .routes)) (min sidebarWidth width)
        (bodyHeight height - peersHeight (bodyHeight height)) below ∧
      Framed (Focus.input.color (d.focus = .input)) width (min inputHeight (height - 2)) box := by
  let shown := (d.forgetClosed app).drawBody app width (bodyHeight height)
  let drawn := shown.1.input.draw (InputBox.titleFor app.view app.sending)
    (shown.1.focus = .input) width (min inputHeight (height - 2))
  obtain ⟨main, above, below, hpanel, hmain, habove, hbelow⟩ :=
    exists_parts_of_drawPanel (d.forgetClosed app) app width (bodyHeight height)
  have hshown : shown.2 = beside main (above ++ below) := by
    rw [← hpanel]
    cases hconnection : app.connection with
    | disconnected reason => exact absurd hconnection (hworking reason)
    | _ => simp only [shown, drawBody, hconnection]
  have hfocus : shown.1.focus = d.focus := focus_drawBody
  have hbox := shown.1.input.framed_draw (InputBox.titleFor app.view app.sending)
    (shown.1.focus = .input) width (min inputHeight (height - 2))
  rw [hfocus] at hbox
  refine ⟨[(shown.1.titleBar app url).draw width, TabBar.draw app width], main, above, below,
    drawn.2.1, ?_, rfl, hmain, habove, hbelow, ?_⟩
  · rw [← hshown]
    rfl
  · simp only [drawn, hfocus]
    exact hbox

theorem cellAt?_draw (hworking : ∀ reason, app.connection ≠ .disconnected reason) (url : String)
    {f : Focus} {x y : Nat} (hcorner : corner? app.view width height f = some (x, y)) :
    cellAt? (d.draw app url width height).2.picture x y =
      some ⟨"╭", .colored (f.color (d.focus = f))⟩ := by
  obtain ⟨bars, main, above, below, box, hpicture, hbars, hmain, habove, hbelow, hbox⟩ :=
    exists_parts_of_draw hworking d url width height
  have hpeers := peersHeight_le (bodyHeight height)
  have hside (hw : 0 < width) : 0 < min sidebarWidth width := by
    unfold sidebarWidth
    omega
  have hsidebar : main.length = (above ++ below).length := by
    rw [List.length_append, length_of_framed hmain, length_of_framed habove,
      length_of_framed hbelow]
    omega
  have hbody : (beside main (above ++ below)).length = bodyHeight height := by
    rw [beside, List.length_zipWith, ← hsidebar, Nat.min_self, length_of_framed hmain]
  have hheight : bodyHeight height + min inputHeight (height - 2) = height - 2 := by
    unfold bodyHeight
    omega
  have hlength : (bars ++ beside main (above ++ below) ++ box).length =
      2 + bodyHeight height + min inputHeight (height - 2) := by
    rw [List.length_append, List.length_append, hbars, hbody, length_of_framed hbox]
  have hinside {k : Nat} (hk : k < bodyHeight height) (x : Nat) :
      cellAt? (d.draw app url width height).2.picture x (2 + k) =
        cellAt? (beside main (above ++ below)) x k := by
    rw [hpicture, cellAt?_fitRows _ _ (by omega) (by omega), List.append_assoc, cellAt?_append,
      hbars, if_neg (by omega), Nat.add_sub_cancel_left, cellAt?_append, hbody, if_pos hk]
  cases f with
  | input =>
    obtain ⟨⟨hw, hh⟩, hplace⟩ := Option.ite_none_right_eq_some.1 hcorner
    obtain ⟨rfl, rfl⟩ := Prod.mk.inj (Option.some.inj hplace)
    have hroom : 0 < min inputHeight (height - 2) := by
      unfold inputHeight
      omega
    rw [hpicture, cellAt?_fitRows _ _ (by omega) (by omega), cellAt?_append, List.length_append,
      hbars, hbody, if_neg (Nat.lt_irrefl _), Nat.sub_self]
    exact cellAt?_of_framed hbox hw hroom
  | search =>
    obtain ⟨⟨hview, hw, hh⟩, hplace⟩ := Option.ite_none_right_eq_some.1 hcorner
    obtain ⟨rfl, rfl⟩ := Prod.mk.inj (Option.some.inj hplace)
    have hroom : 0 < width - min sidebarWidth width := by omega
    rw [viewColor, if_pos hview] at hmain
    rw [hinside hh, cellAt?_beside (hasWidth_of_framed hmain) hsidebar, if_pos hroom]
    exact cellAt?_of_framed hmain hroom hh
  | peers =>
    obtain ⟨⟨hw, hh⟩, hplace⟩ := Option.ite_none_right_eq_some.1 hcorner
    obtain ⟨rfl, rfl⟩ := Prod.mk.inj (Option.some.inj hplace)
    rw [hinside (Nat.lt_of_lt_of_le hh hpeers), cellAt?_beside (hasWidth_of_framed hmain) hsidebar,
      if_neg (Nat.lt_irrefl _), Nat.sub_self, cellAt?_append, length_of_framed habove, if_pos hh]
    exact cellAt?_of_framed habove (hside hw) hh
  | routes =>
    obtain ⟨⟨hw, hh⟩, hplace⟩ := Option.ite_none_right_eq_some.1 hcorner
    obtain ⟨rfl, rfl⟩ := Prod.mk.inj (Option.some.inj hplace)
    rw [hinside hh, cellAt?_beside (hasWidth_of_framed hmain) hsidebar,
      if_neg (Nat.lt_irrefl _), Nat.sub_self, cellAt?_append, length_of_framed habove,
      if_neg (Nat.lt_irrefl _), Nat.sub_self]
    exact cellAt?_of_framed hbelow (hside hw) (by omega)

end State

/-! ## The part that is shown as the one that has the focus -/

theorem Focus.mem_order_iff {view : View} {f : Focus} :
    f ∈ order view ↔ (f = .search → view = .search) := by
  cases view <;> cases f <;> simp [order]

theorem Focus.filter_order (view : View) (focus : Focus) (keep : Focus → Bool) :
    ((order view).filter fun f => decide (focus = f) && keep f) =
      if focus ∈ order view then [focus].filter keep else [] := by
  cases view <;> cases focus <;> simp [order, List.filter]

/-- The parts of a view that a screen of this size shows in the colour of the focus. -/
def highlighted (view : View) (width height : Nat) (p : Picture) : List Focus :=
  (Focus.order view).filter fun f =>
    (corner? view width height f).any fun (x, y) =>
      cellAt? p x y = some ⟨"╭", .colored (f.color true)⟩

namespace State

variable {d : State} {app : App}

/-- A screen that shows the panel highlights the part that has the focus, as far as the view has
the part and the screen has room for it, and no other part. -/
theorem highlighted_draw (hworking : ∀ reason, app.connection ≠ .disconnected reason) (d : State)
    (url : String) (width height : Nat) :
    highlighted app.view width height (d.draw app url width height).2.picture =
      if d.focus ∈ Focus.order app.view then
        [d.focus].filter fun f => (corner? app.view width height f).isSome
      else [] := by
  rw [← Focus.filter_order]
  refine List.filter_congr fun f _ => ?_
  cases hcorner : corner? app.view width height f with
  | none => simp
  | some place =>
    obtain ⟨x, y⟩ := place
    have hcolors : f.color true ≠ f.color false := by cases f <;> decide
    simp only [Option.any_some, cellAt?_draw hworking url hcorner, Option.isSome_some,
      Bool.and_true]
    by_cases hfocus : d.focus = f
    · simp [hfocus]
    · simp [hfocus, Style.colored, hcolors.symm]

theorem isSome_cursor_draw (d : State) (app : App) (url : String) (width height : Nat) :
    (d.draw app url width height).2.cursor.isSome = decide (d.focus = .input) := by
  let shown := (d.forgetClosed app).drawBody app width (bodyHeight height)
  have hfocus : shown.1.focus = d.focus := focus_drawBody
  have hcursor : (d.draw app url width height).2.cursor =
      (shown.1.input.draw (InputBox.titleFor app.view app.sending) (shown.1.focus = .input) width
        (min inputHeight (height - 2))).2.2.map
          fun (x, y) => (x, y + bodyHeight height + min height 2) := rfl
  rw [hcursor, hfocus, Option.isSome_map]
  by_cases hinput : d.focus = .input
  · simp [InputBox.draw, hinput]
  · simp [InputBox.draw, hinput]

end State

end GossipPanel.Display
