/-!
# Events of the terminal

* `Event` is what the user does.
* `Key.event?` says which event a key stands for.
-/

namespace GossipPanel.Display

/-- What the user does. -/
inductive Event where
  | forceQuit | refresh | nextView | closeTab | focusNext | focusPrev | escape
  | submit
  | char (c : Char)
  | paste (text : String)
  | backspace | delete | left | right | home | «end» | up | down
  | scrollUp | scrollDown | pageUp | pageDown
  | resize
  deriving DecidableEq, Repr

inductive Key where
  | char (c : Char)
  | function (number : Nat)
  | backspace | delete | insert | enter | esc | tab | backTab | left | right | home | «end»
  | up | down | pageUp | pageDown | null
  deriving DecidableEq, Repr

/-- The event of a key. With the control key only four letters mean something. -/
def Key.event? (control : Bool) (key : Key) : Option Event :=
  if control then
    match key with
    | .char 'c' => some .forceQuit
    | .char 'r' => some .refresh
    | .char 't' => some .nextView
    | .char 'w' => some .closeTab
    | _ => none
  else
    match key with
    | .char c => some (.char c)
    | .backspace => some .backspace
    | .delete => some .delete
    | .enter => some .submit
    | .esc => some .escape
    | .tab => some .focusNext
    | .backTab => some .focusPrev
    | .left => some .left
    | .right => some .right
    | .home => some .home
    | .end => some .end
    | .up => some .up
    | .down => some .down
    | .pageUp => some .pageUp
    | .pageDown => some .pageDown
    | .function _ | .insert | .null => none

end GossipPanel.Display
