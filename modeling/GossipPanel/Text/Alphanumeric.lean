import GossipPanel.Text.Property.Alphanumeric

/-!
# Letters and numbers
-/

namespace GossipPanel.Text

/-- A letter or number of any script. -/
def isAlphanumeric (c : Char) : Bool :=
  let n := c.toNat
  if n < 0x80 then c.isAlphanum else Property.alphanumeric.has n

end GossipPanel.Text
