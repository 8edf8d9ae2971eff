import GossipPanel.Panel.Polling
import GossipPanel.Screen.Line

/-!
# The title bar

The first row of the screen: who the node is, where it is, whether it answers, the latest status,
and whether messages lie below the part of the feed that is shown.
-/

namespace GossipPanel.Display

open Panel Screen

structure TitleBar where
  identity : String
  url : String
  connection : Connection
  status : String
  /-- Messages lie below the viewport of a list that does not follow them. -/
  unseen : Bool
  deriving DecidableEq, Repr

namespace TitleBar

def connectionStyle : Connection → Style
  | .connecting => .colored .yellow
  | .connected => .colored .green
  | .disconnected _ => { color := some .red, bold := true }

/-- The name shown for an identity that is not known yet. -/
def shownName (identity : String) : String :=
  if identity = "" then "?" else identity

/-- The parts of the title bar from left to right. -/
def spans (t : TitleBar) : List Span :=
  [⟨"peerdeck ", { bold := true }⟩,
    ⟨shownName t.identity ++ " @ " ++ t.url ++ " ", {}⟩,
    ⟨"[" ++ t.connection.label ++ "]", connectionStyle t.connection⟩] ++
    (if t.status = "" then [] else [⟨" | " ++ t.status, {}⟩]) ++
    if t.unseen then [⟨" | ↓ New", {}⟩] else []

def draw (t : TitleBar) (width : Nat) : Row :=
  paintSpans (List.replicate width (blank .plain)) t.spans

end TitleBar

end GossipPanel.Display
