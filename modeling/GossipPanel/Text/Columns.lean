import GossipPanel.Text.Property.Emoji
import GossipPanel.Text.Property.Joining
import GossipPanel.Text.Width

/-!
# Columns of a text

Some characters are drawn together and take fewer columns, or more, than each on its own: emoji
sequences, Arabic and Khmer ligatures, presentation selectors. A text is read from its end; what
stands behind a character decides how many columns it adds.

* `Behind` is what has been read: the character or sequence behind, and a selector before that.
* `Sequence.take?` says how a sequence grows by the character before it.
* `textWidth` counts the columns of a text. A control character takes one, and a line end of two
  characters takes one as well.
-/

namespace GossipPanel.Text

open Property

/-- The character or the beginning of a sequence that stands behind another character. -/
inductive Sequence where
  | other
  | lineFeed
  | skinTone
  | indicator
  /-- Several regional indicators. -/
  | indicators
  | emoji
  | joinedEmoji
  /-- An enclosing keycap before a joiner and an emoji. -/
  | joinedKeycap
  /-- One regional indicator before a joiner and an emoji. -/
  | joinedIndicator
  /-- An even number of regional indicators before a joiner and an emoji. -/
  | joinedFlags
  /-- An odd number of regional indicators, three at least, before a joiner and an emoji. -/
  | joinedOddFlags
  /-- A number of tag letters and the end of tags, before a joiner and an emoji. -/
  | tagLetters (count : Nat)
  /-- A number of tag digits, perhaps tag letters, and the end of tags, before a joiner and an
  emoji. -/
  | tagDigits (count : Nat)
  /-- The Kirat Rai vowel sign E. -/
  | kiratE
  /-- The Kirat Rai vowel sign AI, or E twice. -/
  | kiratAi
  | alef
  /-- A Hebrew lamed, with or without a joiner. -/
  | lamed (joined : Bool)
  /-- A Buginese ya, with or without a joiner. -/
  | ya (joined : Bool)
  /-- The Buginese vowel sign I before a joined ya. -/
  | vowelYa
  /-- A Tifinagh consonant, with or without a joiner. -/
  | tifinagh (joined : Bool)
  /-- The consonant joiner before a Tifinagh consonant. -/
  | tifinaghPair
  /-- A tone letter of Lisu that may stand second. -/
  | lisuTone
  /-- The Old Turkic letter Orkhon I, with or without a joiner. -/
  | orkhonI (joined : Bool)
  /-- A Khmer letter that can be written below another one. -/
  | khmerLetter
  deriving DecidableEq, Repr

/-- A variation selector that changes the width of the character before it. -/
inductive Selector where
  | none
  /-- The second selector: quotation marks become wide. -/
  | wideQuotes
  | text
  | emoji
  deriving DecidableEq, Repr

/-- What stands behind a character. -/
structure Behind where
  sequence : Sequence := .other
  selector : Selector := .none
  deriving DecidableEq, Repr

namespace Sequence

/-- A sequence of letters that marks without a shape do not interrupt. -/
def isLigature : Sequence → Bool
  | lamed _ | ya _ | vowelYa | tifinagh _ | tifinaghPair | lisuTone | orkhonI _ | khmerLetter =>
    true
  | _ => false

/-- A sequence that a variation selector before it does not interrupt. -/
def passesSelectors (s : Sequence) : Bool :=
  s.isLigature || s == alef

/-- A joiner stands before an emoji, or before its keycap. -/
def isJoinedEmoji : Sequence → Bool
  | joinedEmoji | joinedKeycap => true
  | _ => false

/-- A ligature with a joiner before it. -/
def joined : Sequence → Sequence
  | lamed _ => lamed true
  | ya _ => ya true
  | tifinagh _ => tifinagh true
  | orkhonI _ => orkhonI true
  | s => s

end Sequence

/-- An Arabic letter of the group lam. -/
def isLam (c : Char) : Bool :=
  let n := c.toNat
  n = 0x644 || (0x6b5 ≤ n && n ≤ 0x6b8) || n = 0x76a || n = 0x8a6 || n = 0x8c7

/-- An Arabic letter of the group alef. -/
def isAlef (c : Char) : Bool :=
  let n := c.toNat
  n = 0x622 || n = 0x623 || n = 0x625 || n = 0x627 || (0x671 ≤ n && n ≤ 0x673) || n = 0x675 ||
    n = 0x773 || n = 0x774 || (0x870 ≤ n && n ≤ 0x882)

/-- A mark without a width that does not keep Arabic letters from joining. -/
def isTransparent (c : Char) : Bool :=
  charWidth c = 0 && !interrupting.has c.toNat

/-- A combining mark without a shape. -/
def isShapelessMark (c : Char) : Bool :=
  let n := c.toNat
  n = 0x34f || n = 0x17b4 || n = 0x17b5 || (0x180b ≤ n && n ≤ 0x180d) || n = 0x180f ||
    (0xfe00 ≤ n && n ≤ 0xfe0f) || (0xe0100 ≤ n && n ≤ 0xe01ef)

/-- The zero width joiner. -/
def isJoiner (c : Char) : Bool :=
  c.toNat = 0x200d

def isTifinaghConsonant (c : Char) : Bool :=
  let n := c.toNat
  (0x2d31 ≤ n && n ≤ 0x2d65) || n = 0x2d6f

/-- A Khmer letter that has a form written below another letter without a width. -/
def isKhmerLetter (c : Char) : Bool :=
  let n := c.toNat
  (0x1780 ≤ n && n ≤ 0x1782) || (0x1784 ≤ n && n ≤ 0x1787) || (0x1789 ≤ n && n ≤ 0x178c) ||
    (0x178e ≤ n && n ≤ 0x1793) || (0x1795 ≤ n && n ≤ 0x1798) || (0x179b ≤ n && n ≤ 0x179d) ||
    n = 0x17a0 || n = 0x17a2 || n = 0x17a7 || n = 0x17ab || n = 0x17ac || n = 0x17af

/-- A regional indicator; two of them make a flag. -/
def isIndicator (c : Char) : Bool :=
  0x1f1e6 ≤ c.toNat && c.toNat ≤ 0x1f1ff

/-- A skin tone for the emoji before it. -/
def isSkinTone (c : Char) : Bool :=
  0x1f3fb ≤ c.toNat && c.toNat ≤ 0x1f3ff

def isTagLetter (c : Char) : Bool :=
  0xe0061 ≤ c.toNat && c.toNat ≤ 0xe007a

def isTagDigit (c : Char) : Bool :=
  0xe0030 ≤ c.toNat && c.toNat ≤ 0xe0039

/-- The flag that tags can follow. -/
def isTagBase (c : Char) : Bool :=
  c.toNat = 0x1f3f4

/-- A quotation mark with a wide form. -/
def isQuotationMark (c : Char) : Bool :=
  let n := c.toNat
  n = 0x2018 || n = 0x2019 || n = 0x201c || n = 0x201d

/-- The sequence that a character begins when nothing behind it joins. -/
def Sequence.start (c : Char) : Sequence :=
  let n := c.toNat
  if n < 0x5dc then .other
  else if n = 0x5dc then .lamed false
  else if isAlef c then .alef
  else if isKhmerLetter c then .khmerLetter
  else if n = 0x1a10 then .ya false
  else if isTifinaghConsonant c then .tifinagh false
  else if n = 0xa4fc ∨ n = 0xa4fd then .lisuTone
  else if n = 0x10c03 then .orkhonI false
  else if n = 0x16d67 then .kiratE
  else if n = 0x16d68 then .kiratAi
  else if isIndicator c then .indicator
  else if isSkinTone c then .skinTone
  else if emojiPresentation.has n then .emoji
  else .other

namespace Sequence

/-- How emoji tags before a joiner and an emoji grow: the columns that the character `c` adds, and
the sequence with it. -/
def takeTag? (c : Char) : Sequence → Option (Int × Sequence)
  | tagLetters n =>
    if isTagLetter c ∧ n < 6 then some (0, tagLetters (n + 1))
    else if isTagDigit c ∧ n ≤ 4 then some (0, tagDigits 1)
    else if isTagBase c ∧ 3 ≤ n then some (0, emoji)
    else none
  | tagDigits n =>
    if isTagDigit c ∧ n < 3 then some (0, tagDigits (n + 1))
    else if isTagBase c ∧ n = 3 then some (0, emoji)
    else none
  | _ => none

/-- How a sequence of emoji grows. -/
def takeEmoji? (c : Char) : Sequence → Option (Int × Sequence)
  | skinTone =>
    if skinToneBase.has c.toNat then some (0, emoji)
    else if isJoiner c then some (0, joinedEmoji)
    else none
  | indicator => if isIndicator c then some (1, indicators) else none
  | indicators =>
    if isIndicator c then some (1, indicators)
    else if isJoiner c then some (0, joinedEmoji)
    else none
  | emoji => if isJoiner c then some (0, joinedEmoji) else none
  | joinedEmoji =>
    if c.toNat = 0x20e3 then some (0, joinedKeycap)
    else if isIndicator c then some (1, joinedIndicator)
    else if isSkinTone c then some (0, skinTone)
    else if c.toNat = 0xe007f then some (0, tagLetters 0)
    else if emojiPresentation.has c.toNat then some (0, emoji)
    else none
  | joinedIndicator | joinedOddFlags => if isIndicator c then some (-1, joinedFlags) else none
  | joinedFlags =>
    if isIndicator c then some (3, joinedOddFlags)
    else if isJoiner c then some (0, joinedEmoji)
    else none
  | s => s.takeTag? c

/-- How a sequence of letters grows. -/
def takeLetter? (c : Char) : Sequence → Option (Int × Sequence)
  | alef =>
    if isLam c then some (0, other) else if isTransparent c then some (0, alef) else none
  | lamed true => if c.toNat = 0x5d0 then some (0, other) else none
  | khmerLetter => if c.toNat = 0x17d2 then some (-1, other) else none
  | ya true => if c.toNat = 0x1a17 then some (0, vowelYa) else none
  | vowelYa => if c.toNat = 0x1a15 then some (0, other) else none
  | tifinagh isJoined =>
    if isTifinaghJoiner c then some (1, tifinaghPair)
    else if isJoined ∧ isTifinaghConsonant c then some (0, other)
    else none
  | tifinaghPair => if isTifinaghConsonant c then some (-1, other) else none
  | lisuTone => if 0xa4f8 ≤ c.toNat ∧ c.toNat ≤ 0xa4fb then some (0, other) else none
  | orkhonI true => if c.toNat = 0x10c32 then some (0, other) else none
  | kiratE =>
    if c.toNat = 0x16d63 ∨ c.toNat = 0x16d69 then some (0, other)
    else if c.toNat = 0x16d67 then some (0, kiratAi)
    else if c.toNat = 0x16d68 then some (1, kiratE)
    else none
  | kiratAi => if c.toNat = 0x16d63 then some (0, other) else none
  | _ => none

/-- How a sequence grows by the character before it: the columns that the character adds, and the
sequence with it. Nothing if the character does not join. -/
def take? (c : Char) (s : Sequence) : Option (Int × Sequence) :=
  if s.isLigature && isJoiner c then some (0, s.joined)
  else if s.isLigature && isShapelessMark c then some (0, s)
  else s.takeLetter? c <|> s.takeEmoji? c

end Sequence

namespace Behind

/-- A selector stands before the sequence. -/
def select (b : Behind) (selector : Selector) : Behind :=
  if b.sequence.passesSelectors || (selector = .emoji && b.sequence.isJoinedEmoji) then
    { b with selector }
  else { selector }

/-- A selector for emoji is void when nothing before it can be an emoji. -/
def dropEmojiSelector (b : Behind) : Behind :=
  if b.selector ≠ .emoji then b
  else if b.sequence.passesSelectors then { b with selector := .none }
  else {}

/-- The columns that a character after the controls and ASCII adds, and what stands behind the
character before it. -/
def takeLetter (b : Behind) (c : Char) : Int × Behind :=
  let n := c.toNat
  if n = 0xfe0f then (0, b.select .emoji)
  else if n = 0xfe0e then (0, b.select .text)
  else if n = 0xfe01 then (0, b.select .wideQuotes)
  else if b.selector = .text ∧ textSelectorBase.has n then (1, {})
  else if b.selector = .wideQuotes ∧ isQuotationMark c then (2, {})
  else
    match b.sequence.take? c with
    | some (w, s) => (w, { sequence := s })
    | none => (charWidth c, { sequence := .start c })

/-- The columns that a character adds, and what stands behind the character before it. -/
def take (b : Behind) (c : Char) : Int × Behind :=
  if b.selector = .emoji ∧ selectorBase.has c.toNat then
    (if b.sequence.isJoinedEmoji then 0 else 2, { sequence := .emoji })
  else
    let b := b.dropEmojiSelector
    if c.toNat ≤ 0xa0 then
      if c = '\n' then (1, { sequence := .lineFeed })
      else if c = '\r' ∧ b.sequence = .lineFeed then (0, {})
      else (1, {})
    else b.takeLetter c

end Behind

/-- The columns of a text, and what stands at its front. -/
def columnsBehind : List Char → Int × Behind
  | [] => (0, {})
  | c :: cs =>
    let (columns, behind) := columnsBehind cs
    let (w, behind) := behind.take c
    (columns + w, behind)

def textWidth (cs : List Char) : Nat :=
  (columnsBehind cs).1.toNat

end GossipPanel.Text
