import GossipPanel.Display.Routing
import GossipPanel.Proofs.InputBox.LineEditor
import GossipPanel.Proofs.InputLine.Grammar
import GossipPanel.Proofs.Reaction

/-!
# Typing a message

Every message can be typed, also one that begins with a slash: it is typed behind another one.

* `Input.lineOf`: the line that a message is typed as. `parse_lineOf`: it is read as this message.
* `State.routeAll`: events one after the other. `routeAll_line`: a line that is typed reaches the
  panel with Enter, not earlier, and leaves the box empty.
* `App.sendText_of_idle`, `App.sendText_of_search`: what the panel does with the message.
* `message_sent_as_typed`: from the keys to the command.
-/

namespace GossipPanel

open Display Panel Text

/-! ## Lines that are messages -/

namespace Panel.Input

/-- The line that a message is typed as. -/
def lineOf (text : String) : String :=
  if text.toList.head? = some '/' then "/" ++ text else text

variable {text : String}

theorem spells_lineOf (text : String) : Spells (.send text) (lineOf text).toList := by
  unfold lineOf
  split
  · rename_i hslash
    rw [String.toList_append]
    exact .slashed hslash
  · rename_i hplain
    exact .plain hplain

theorem stripNewlines_of_getLast? (hend : ∀ c ∈ text.toList.getLast?, c ≠ '\r' ∧ c ≠ '\n') :
    stripNewlines text.toList = text.toList := by
  obtain ⟨ends, hlist, hends, -⟩ := exists_stripNewlines text.toList
  rcases ends.eq_nil_or_concat' with rfl | ⟨ends, c, rfl⟩
  · rw [← List.append_nil (stripNewlines text.toList)]
    exact hlist.symm
  · have hlast : c ∈ text.toList.getLast? := by
      rw [hlist]
      simp
    obtain ⟨hreturn, hfeed⟩ := hend c hlast
    exact (hends c (by simp)).elim (absurd · hreturn) (absurd · hfeed)

theorem stripNewlines_lineOf (hend : ∀ c ∈ text.toList.getLast?, c ≠ '\r' ∧ c ≠ '\n') :
    stripNewlines (lineOf text).toList = (lineOf text).toList := by
  have hstrip := stripNewlines_of_getLast? hend
  unfold lineOf
  split
  · rw [String.toList_append]
    exact (stripNewlines_slash text.toList).trans (congrArg _ hstrip)
  · exact hstrip

theorem parse_lineOf (hend : ∀ c ∈ text.toList.getLast?, c ≠ '\r' ∧ c ≠ '\n') :
    parse (lineOf text) = .ok (.send text) := by
  apply parse_of_spells
  rw [stripNewlines_lineOf hend]
  exact spells_lineOf text

theorem mem_lineOf {c : Char} (hc : c ∈ text.toList) : c ∈ (lineOf text).toList := by
  unfold lineOf
  split
  · rw [String.toList_append]
    exact List.mem_append_right _ hc
  · exact hc

end Panel.Input

/-! ## Keys -/

namespace Display.State

/-- What becomes of events one after the other, and the display after them. -/
def routeAll (d : State) (app : App) : List Event → List (Option Action) × State
  | [] => ([], d)
  | event :: events =>
    let (action, d) := d.route app event
    let (actions, d) := d.routeAll app events
    (action :: actions, d)

variable {d : State} (app : App)

theorem route_char (hfocus : d.focus = .input) (c : Char) :
    d.route app (.char c) = (none, { d with input := (d.input.handle (.char c)).2 }) := by
  have hroute : d.route app (.char c) = d.routeToInput app (.char c) :=
    routeToFocus_of_input app hfocus (.char c)
  rw [hroute]
  rfl

theorem route_submit (hfocus : d.focus = .input) {text : String}
    (hsubmit : d.input.handle .submit = (some (.submit text), {})) :
    d.route app .submit = (some (.submit text), { d with input := {} }) := by
  have hroute : d.route app .submit = d.routeToInput app .submit :=
    routeToFocus_of_input app hfocus .submit
  rw [hroute, routeToInput, inputEvent, hsubmit]
  rfl

theorem routeAll_typed {scroll : Nat} {left cs : List Char} (hfocus : d.focus = .input)
    (hinput : d.input = LineEditor.box ⟨left, []⟩ scroll)
    (htext : ∃ c ∈ left ++ cs, isBlank c = false) :
    d.routeAll app (cs.map .char ++ [.submit]) =
      (cs.map (fun _ => none) ++ [some (.submit (String.ofList (left ++ cs)))],
        { d with input := {} }) := by
  induction cs generalizing d left with
  | nil =>
    have haccepts : LineEditor.accepts ⟨left, []⟩ .submit = true := by
      obtain ⟨c, hc, hblank⟩ := htext
      exact List.any_eq_true.2 ⟨c, hc, by rw [hblank]; rfl⟩
    have hsubmit : d.input.handle .submit = (some (.submit (String.ofList (left ++ []))), {}) := by
      rw [hinput]
      exact LineEditor.handle_box_submit ⟨left, []⟩ scroll haccepts
    show ([(d.route app .submit).1], (d.route app .submit).2) = _
    rw [route_submit app hfocus hsubmit]
    rfl
  | cons c cs ih =>
    have hlater : (d.input.handle (.char c)).2 = LineEditor.box ⟨left ++ [c], []⟩ scroll := by
      rw [hinput, LineEditor.handle_box]
      rfl
    have hroute := route_char app hfocus c
    rw [hlater] at hroute
    have hrest := @ih { d with input := LineEditor.box ⟨left ++ [c], []⟩ scroll } (left ++ [c])
      hfocus rfl (by rwa [List.append_assoc, List.singleton_append])
    rw [List.append_assoc, List.singleton_append] at hrest
    simp only [List.map_cons, List.cons_append, routeAll, hroute, hrest]

theorem routeAll_line {scroll : Nat} {line : String} (hfocus : d.focus = .input)
    (hempty : d.input = { scroll }) (hline : ∃ c ∈ line.toList, isBlank c = false) :
    d.routeAll app (line.toList.map .char ++ [.submit]) =
      (line.toList.map (fun _ => none) ++ [some (.submit line)], { d with input := {} }) := by
  have htyped := @routeAll_typed d app scroll [] line.toList hfocus hempty hline
  rwa [List.nil_append, String.ofList_toList] at htyped

end Display.State

/-! ## What the panel does with the line of a message -/

theorem Text.allBlank_eq_false {text : String} (htext : ∃ c ∈ text.toList, isBlank c = false) :
    allBlank text = false := by
  obtain ⟨c, hc, hblank⟩ := htext
  exact List.all_eq_false.2 ⟨c, hc, by simp [hblank]⟩

namespace Panel.App

variable (app : App) {text : String}

theorem sendText_of_idle (htext : ∃ c ∈ text.toList, isBlank c = false)
    (hview : app.view ≠ .search) (hidle : app.sending = false) :
    app.sendText text =
      ({ app with sending := true, status := "Sending..." },
        [.run (messageCommand app.view text)]) := by
  simp [sendText, allBlank_eq_false htext, hview, hidle]

theorem sendText_of_search (htext : ∃ c ∈ text.toList, isBlank c = false)
    (hview : app.view = .search) :
    app.sendText text =
      ({ app with
          search := (app.search.start (trimmed text) app.defaultBudget).2
          status := s!"Searching for {trimmed text}..." },
        [.startSearch (app.search.lastId + 1) ⟨trimmed text, app.defaultBudget⟩]) := by
  have hkeywords : trimmed text ≠ "" := by
    intro hempty
    obtain ⟨c, hc, hblank⟩ := htext
    have htrim : trim text.toList = [] := String.ofList_eq_empty_iff.1 hempty
    rw [trim_eq_nil_iff.1 htrim c hc] at hblank
    cases hblank
  simp only [sendText, allBlank_eq_false htext, hview, startSearch, hkeywords]
  simp [Search.start, ← hview]

end Panel.App

/-- **Every message can be typed and is sent as it is.** Let `text` be neither blank nor end in a
line feed or a carriage return, and let the input box have the focus and be empty. Typing the
characters of the line of `text` and then Enter:

* gives the panel nothing until Enter, and then the line; afterwards the box is as new;
* sends exactly `text` to the feed or to the peer that is shown, if no message is being sent, and
  changes nothing else than the flag and the status line;
* starts a search for the trimmed text with the budget of the panel, if the search is shown. -/
theorem message_sent_as_typed (app : App) (d : Display.State) (scroll : Nat) (text : String)
    (htext : ∃ c ∈ text.toList, isBlank c = false)
    (hend : ∀ c ∈ text.toList.getLast?, c ≠ '\r' ∧ c ≠ '\n')
    (hfocus : d.focus = .input) (hempty : d.input = { scroll }) :
    let line := Input.lineOf text
    let sent : App := { app with sending := true, status := "Sending..." }
    d.routeAll app (line.toList.map .char ++ [.submit]) =
        (line.toList.map (fun _ => none) ++ [some (.submit line)], { d with input := {} }) ∧
      (app.view = .gossip → app.sending = false →
        update app (.submit line) = (sent, [.run (.broadcast text)])) ∧
      (∀ peer, app.view = .peer peer → app.sending = false →
        update app (.submit line) = (sent, [.run (.sendPrivate ⟨peer, text⟩)])) ∧
      (app.view = .search →
        update app (.submit line) =
          ({ app with
              search := (app.search.start (trimmed text) app.defaultBudget).2
              status := s!"Searching for {trimmed text}..." },
            [.startSearch (app.search.lastId + 1) ⟨trimmed text, app.defaultBudget⟩])) := by
  intro line sent
  have hline : ∃ c ∈ line.toList, isBlank c = false :=
    htext.imp fun c ⟨hc, hblank⟩ => ⟨Input.mem_lineOf hc, hblank⟩
  have hsubmit : update app (.submit line) = app.sendText text :=
    app.submit_of_ok (Input.parse_lineOf hend)
  refine ⟨State.routeAll_line app hfocus hempty hline, ?_, ?_, ?_⟩
  · intro hview hidle
    have hcommand : App.messageCommand app.view text = .broadcast text := by
      rw [hview]
      rfl
    rw [hsubmit, app.sendText_of_idle htext (by simp [hview]) hidle, hcommand]
  · intro peer hview hidle
    have hcommand : App.messageCommand app.view text = .sendPrivate ⟨peer, text⟩ := by
      rw [hview]
      rfl
    rw [hsubmit, app.sendText_of_idle htext (by simp [hview]) hidle, hcommand]
  · intro hview
    rw [hsubmit]
    exact app.sendText_of_search htext hview

/-- A message to bob that begins with a slash and ends with a blank. -/
theorem slashed_message_reaches_bob :
    let app := (history {} [.selectPeer "bob"]).app
    State.routeAll {} app ("//é ".toList.map .char ++ [.submit]) =
        ([none, none, none, none, some (.submit "//é ")], {}) ∧
      update app (.submit "//é ") =
        ({ app with sending := true, status := "Sending..." },
          [.run (.sendPrivate ⟨"bob", "/é "⟩)]) := by
  intro app
  have hend : ∀ c ∈ "/é ".toList.getLast?, c ≠ '\r' ∧ c ≠ '\n' := by
    intro c hc
    obtain rfl : ' ' = c := Option.some.inj hc
    decide
  obtain ⟨htyped, -, hpeer, -⟩ :=
    message_sent_as_typed app {} 0 "/é " ⟨'é', by decide, by decide⟩ hend rfl rfl
  exact ⟨htyped, hpeer "bob" (by decide) (by decide)⟩

end GossipPanel
