import GossipPanel.Text.Property.Break
import GossipPanel.Text.Property.Extend
import GossipPanel.Text.Property.Wide

/-!
# Columns of a character

`charWidth` is the number of terminal columns that a character takes on its own: 2 for East Asian
wide characters, 0 for combining marks, invisible characters and controls, 1 for all others. A few
marks have a column of their own (`hasOwnColumn`), and two signs of Khmer are wide.
-/

namespace GossipPanel.Text

open Property

/-- A control character (category `Cc`). -/
def isControl (c : Char) : Bool :=
  let n := c.toNat
  n < 0x20 || (0x7f ≤ n && n ≤ 0x9f)

/-- A Hangul vowel or final consonant, drawn inside the syllable before it. -/
def isMedialOrFinal (c : Char) : Bool :=
  let n := c.toNat
  (0x1160 ≤ n && n ≤ 0x11ff) || (0xd7b0 ≤ n && n ≤ 0xd7c6) || (0xd7cb ≤ n && n ≤ 0xd7fb)

/-- The dots that make a halfwidth katakana voiced. -/
def isVoicingMark (c : Char) : Bool :=
  c.toNat = 0xff9e || c.toNat = 0xff9f

def isTifinaghJoiner (c : Char) : Bool :=
  c.toNat = 0x2d7f

/-- A mark that extends the character before it and is drawn beside it all the same. -/
def hasOwnColumn (c : Char) : Bool :=
  isVoicingMark c || isTifinaghJoiner c

/-- A mark drawn above or around the characters after it, without a column of its own. The number
signs of Arabic and of Kaithi that stand under digits have one. -/
def isOverlay (c : Char) : Bool :=
  let n := c.toNat
  n = 0x605 || n = 0x70f || (0x890 ≤ n && n ≤ 0x891) || n = 0x8e2 || n = 0xa8fa ||
    (breakPrepend.has n &&
      !((0x600 ≤ n && n ≤ 0x604) || n = 0x6dd || n = 0x110bd || n = 0x110cd))

/-- Columns of a character on a terminal. -/
def charWidth (c : Char) : Nat :=
  let n := c.toNat
  if n < 0x7f then (if n < 0x20 then 0 else 1)
  else if isControl c then 0
  else if n = 0x115f ∨ n = 0x17a4 then 2
  else if n = 0x17d8 then 3
  else if hasOwnColumn c then 1
  else if extend.has n || ignorable.has n || isMedialOrFinal c || isOverlay c then 0
  else if wide.has n then 2
  else 1

def sumColumns : List Nat → Nat
  | [] => 0
  | w :: ws => w + sumColumns ws

@[simp]
theorem sumColumns_append (vs ws : List Nat) :
    sumColumns (vs ++ ws) = sumColumns vs + sumColumns ws := by
  induction vs with
  | nil => simp [sumColumns]
  | cons v vs ih => simp [sumColumns, ih, Nat.add_assoc]

end GossipPanel.Text
