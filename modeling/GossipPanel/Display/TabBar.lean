import GossipPanel.Panel.State
import GossipPanel.Screen.Widgets
import GossipPanel.Text.Numeral

/-!
# The tab strip

The second row of the screen: the feed, the search, and the conversations with their ordinals. A
label ends in an ellipsis while its view is busy.
-/

namespace GossipPanel.Display

open Panel Screen Text

structure TabLabel where
  view : View
  /-- The number shown in front of the title. -/
  ordinal : Option UInt64
  /-- A search that runs, or a conversation that has not been loaded. -/
  busy : Bool
  deriving DecidableEq, Repr

def TabLabel.text (l : TabLabel) : String :=
  (match l.ordinal with
    | some n => decimal n.toNat ++ " "
    | none => "") ++
    l.view.title ++ if l.busy then "…" else ""

namespace TabBar

/-- The labels in the order of the views. -/
def labels (app : App) : List TabLabel :=
  ⟨.gossip, some feedOrdinal, false⟩ ::
    ⟨.search, none, app.search.session.any (·.isRunning)⟩ ::
    app.conversations.tabs.map fun c => ⟨.peer c.peer, some c.ordinal, !c.loaded⟩

/-- The position of the active view among the labels. -/
def active (app : App) : Nat :=
  ((labels app).findIdx? (·.view == app.view)).getD 0

/-- The style of the active label. -/
def highlight : Style :=
  { color := some .cyan, bold := true, underlined := true }

/-- Draws the tab strip. -/
def draw (app : App) (width : Nat) : Row :=
  tabStrip (.colored .darkGray) highlight ((labels app).map TabLabel.text) (active app) width

theorem map_view_labels (app : App) : (labels app).map TabLabel.view = app.views := by
  simp [labels, App.views, List.map_map, Function.comp_def]

end TabBar

end GossipPanel.Display
