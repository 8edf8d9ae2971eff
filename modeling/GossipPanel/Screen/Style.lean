/-!
# Styles

A style has a text colour, possibly the terminal's own, and modifiers. `Style.onto` puts one style
onto another.
-/

namespace GossipPanel.Screen

/-- The text colours in use. -/
inductive Color where
  | green | blue | red | yellow | cyan | darkGray
  deriving DecidableEq, Repr

/-- The look of a text. -/
structure Style where
  /-- Without a colour the one below shows, at last the terminal's own. -/
  color : Option Color := none
  bold : Bool := false
  dim : Bool := false
  underlined : Bool := false
  reversed : Bool := false
  deriving DecidableEq, Repr

namespace Style

def plain : Style := {}

/-- A colour. -/
def colored (c : Color) : Style := { color := some c }

/-- The style `s` put onto `below`: its colour if it has one, and the modifiers of both. -/
def onto (s below : Style) : Style :=
  { color := s.color <|> below.color
    bold := s.bold || below.bold
    dim := s.dim || below.dim
    underlined := s.underlined || below.underlined
    reversed := s.reversed || below.reversed }

theorem plain_onto (s : Style) : plain.onto s = s := by
  cases s
  simp [onto, plain]

end Style

end GossipPanel.Screen
