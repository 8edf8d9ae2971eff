import GossipPanel.Proofs.Commands

/-!
# Sending messages

One message is sent at a time, and the panel knows whether one is being sent.

* `History.messages`: the messages that are pending.
* `History.counted_step`: the flag counts them, as long as commands only finish that are pending.
* `App.submit_of_isText`, `App.perform_sending`: what the flag means to a line from the input box.
* `one_message_at_a_time`: the flag is set exactly while one message is pending, only the end of
  that message clears it, and it refuses text but no command.
-/

namespace GossipPanel.Panel

open Node Text

/-! ## The flag counts the pending messages -/

namespace History

/-- The messages that are being sent. -/
def messages (h : History) : List Command :=
  h.commands.filter Command.isMessage

/-- The flag is set while one message is pending, and else none is. -/
def Counted (h : History) : Prop :=
  h.messages.length = if h.app.sending then 1 else 0

variable {h : History} {a : Action}

/-- The end of a message takes it away, the end of another command takes no message away. -/
theorem length_messages_finished {command : Command} (hpending : command ∈ h.commands) :
    ((h.commands.erase command).filter Command.isMessage).length =
      h.messages.length - if command.isMessage then 1 else 0 := by
  have hperm := (List.perm_cons_erase hpending).filter Command.isMessage
  have hlength := hperm.length_eq
  rw [List.filter_cons] at hlength
  show _ = (h.commands.filter Command.isMessage).length - _
  rw [hlength]
  split <;> simp

theorem counted_step (hc : h.Counted) (hrule : AnswersCommands h a) : (h.step a).Counted := by
  have hcommands := commands_step h a
  have hstep := update_commandStep h.app a
  rw [Counted, messages] at *
  generalize hsending : (update h.app a).1.sending = sending at hstep
  generalize hasked : (update h.app a).2.filterMap Effect.command? = asked at hstep hcommands
  rw [hcommands, List.filter_append, List.length_append]
  show _ = if (update h.app a).1.sending then 1 else 0
  rw [hsending]
  cases hstep with
  | @finished command result =>
    have hpending : command ∈ h.commands := hrule command rfl
    have hlength := length_messages_finished hpending
    rw [messages, hc] at hlength
    simp only [Action.finished?, eraseAnswered_some, hlength]
    cases command.isMessage <;> cases h.app.sending <;> rfl
  | quiet ha => simpa [ha] using hc
  | message ha hidle hmessage =>
    rw [hidle] at hc
    simp [ha, hmessage, hc]
  | toggle ha => simpa [ha, Command.isMessage] using hc
  | other ha hmessage => simpa [ha, hmessage] using hc

theorem counted_history (s : Settings.Resolved) (actions : List Action)
    (hanswers : (start s).Admits AnswersCommands actions) : (history s actions).Counted :=
  run_induction Counted (fun _ _ hrule hc => counted_step hc hrule) rfl hanswers

end History

/-! ## The flag and the input box -/

namespace App

variable (app : App)

theorem sendText_of_sending (hsending : app.sending = true) (hview : app.view ≠ .search)
    (text : String) : (app.sendText text).2 = [] := by
  unfold sendText
  rw [if_neg hview, if_pos hsending]
  split <;> rfl

theorem submit_of_isText (hsending : app.sending = true) (hview : app.view ≠ .search)
    {line : String} (htext : Input.isText line = true) : (app.submit line).2 = [] := by
  obtain ⟨text, hparse⟩ := Input.parse_eq_send_iff.2 htext
  unfold submit
  split
  · rfl
  · rw [hparse]
    exact app.sendText_of_sending hsending hview text

theorem perform_sending (sending : Bool) {input : Input}
    (hother : app.view = .search ∨ ∀ text, input ≠ .send text) :
    ({ app with sending }.perform input).2 = (app.perform input).2 := by
  cases input with
  | send text =>
    have hview : app.view = .search := hother.resolve_right fun hne => hne text rfl
    simp only [perform, sendText, hview, if_true, startSearch, apply_ite Prod.snd]
  | addPeer address =>
    show (if app.hasPeer address then (_, []) else (_, [_])).2 =
      (if app.hasPeer address then (_, []) else (_, [_])).2
    split <;> rfl
  | removePeer address =>
    show (if app.hasPeer address then (_, [_]) else (_, [])).2 =
      (if app.hasPeer address then (_, [_]) else (_, [])).2
    split <;> rfl
  | openTab peer => simp only [perform, selectPeer_eq]
  | search keywords budget => simp only [perform, startSearch, apply_ite Prod.snd]
  | refresh => simp only [perform, requestTick_eq]
  | _ => rfl

theorem submit_sending (sending : Bool) {line : String}
    (hother : app.view = .search ∨ Input.isText line = false) :
    ({ app with sending }.submit line).2 = (app.submit line).2 := by
  unfold submit
  split
  · rfl
  · cases hparse : Input.parse line with
    | error e => rfl
    | ok input =>
      refine app.perform_sending sending (hother.imp_right fun htext text hinput => ?_)
      have hsend := Input.parse_eq_send_iff.1 ⟨text, hinput ▸ hparse⟩
      simp [htext] at hsend

end App

theorem sending_of_other_finished (app : App) {command : Command}
    (hother : command.isMessage = false) (result : Except String String) :
    (update app (.commandFinished command result)).1.sending = app.sending := by
  have hstep := update_commandStep app (.commandFinished command result)
  generalize (update app (.commandFinished command result)).1.sending = sending,
    (update app (.commandFinished command result)).2.filterMap Effect.command? = asked at hstep
  cases hstep with
  | finished => simp [hother]
  | _ ha => cases ha

/-- **One message at a time.** After a run in which commands only finish that are pending:

* a message is being sent exactly when one is pending, and there are never two;
* the end of any other command leaves the flag as it is;
* while a message is being sent, text for the feed or for a peer asks for nothing;
* every other line asks for what it asks for when no message is being sent. -/
theorem one_message_at_a_time (s : Settings.Resolved) (actions : List Action)
    (hanswers : (History.start s).Admits AnswersCommands actions) :
    let h := history s actions
    (h.app.sending = true ↔ h.messages.length = 1) ∧
      h.messages.length ≤ 1 ∧
      (∀ command result, command.isMessage = false →
        (update h.app (.commandFinished command result)).1.sending = h.app.sending) ∧
      (∀ line, h.app.sending = true → h.app.view ≠ .search → Input.isText line = true →
        (update h.app (.submit line)).2 = []) ∧
      ∀ line, h.app.view = .search ∨ Input.isText line = false →
        (update h.app (.submit line)).2 =
          (update { h.app with sending := false } (.submit line)).2 := by
  intro h
  have hcounted : h.messages.length = if h.app.sending then 1 else 0 :=
    History.counted_history s actions hanswers
  refine ⟨?_, ?_, fun command result hother => sending_of_other_finished h.app hother result,
    fun line hsending hview htext => h.app.submit_of_isText hsending hview htext,
    fun line hother => (h.app.submit_sending false hother).symm⟩
  · rw [hcounted]
    cases h.app.sending <;> simp
  · rw [hcounted]
    split <;> simp

/-- A second message waits for the first, also when a command finishes in between. -/
theorem second_message_refused :
    let h := history {}
      [.submit "hi", .addPeer "a:1", .commandFinished (.togglePeer "a:1" true) (.ok "")]
    h.messages = [.broadcast "hi"] ∧ (update h.app (.submit "//again")).2 = [] ∧
      (update h.app (.submit "/name me")).2 = [.run (.rename "me")] := by
  intro h
  have hone := one_message_at_a_time {}
    [.submit "hi", .addPeer "a:1", .commandFinished (.togglePeer "a:1" true) (.ok "")] (by decide)
  obtain ⟨-, -, -, hrefused, hother⟩ := hone
  refine ⟨by decide, hrefused "//again" (by decide) (by decide) (by decide), ?_⟩
  exact (hother "/name me" (by decide)).trans (by decide)

end GossipPanel.Panel
