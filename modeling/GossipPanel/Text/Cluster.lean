import GossipPanel.Text.Columns
import GossipPanel.Text.Property.Conjunct

/-!
# Displayed characters

A cluster is one character as a reader sees it: a base with its marks, a flag, an emoji sequence,
a conjunct of consonants. `clusters` cuts a text into its extended grapheme clusters, and
`clusterWidth` counts the columns that a screen gives to one.
-/

namespace GossipPanel.Text

open Property

/-- Class of a character for finding the ends of clusters. -/
inductive BreakClass where
  | carriageReturn | lineFeed | control | extend | joiner | regional | prepend | spacing
  | leading | vowel | trailing | openSyllable | closedSyllable | consonant | other
  deriving DecidableEq, Repr

def breakClass (c : Char) : BreakClass :=
  let n := c.toNat
  if n = 13 then .carriageReturn
  else if n = 10 then .lineFeed
  else if n < 0x7f then (if n < 0x20 then .control else .other)
  else if isJoiner c then .joiner
  else if breakControl.has n then .control
  else if extend.has n || isSkinTone c then .extend
  else if isIndicator c then .regional
  else if breakPrepend.has n then .prepend
  else if breakSpacing.has n then .spacing
  else if (0x1100 ≤ n ∧ n ≤ 0x115f) ∨ (0xa960 ≤ n ∧ n ≤ 0xa97c) then .leading
  else if (0x1160 ≤ n ∧ n ≤ 0x11a7) ∨ (0xd7b0 ≤ n ∧ n ≤ 0xd7c6) ∨ n = 0x16d63 ∨
    (0x16d67 ≤ n ∧ n ≤ 0x16d6a) then .vowel
  else if (0x11a8 ≤ n ∧ n ≤ 0x11ff) ∨ (0xd7cb ≤ n ∧ n ≤ 0xd7fb) then .trailing
  else if 0xac00 ≤ n ∧ n ≤ 0xd7a3 then
    if (n - 0xac00) % 28 = 0 then .openSyllable else .closedSyllable
  else if conjunctConsonant.has n then .consonant
  else .other

/-- A sign that joins two consonants into one. -/
def isLinker (c : Char) : Bool :=
  conjunctLinker.has c.toNat

/-- A mark that may stand between two consonants that are joined: all marks but the zero width
non-joiner, and the joiner. -/
def passesConjunct (c : Char) : Bool :=
  (breakClass c = .extend && c.toNat != 0x200c) || breakClass c = .joiner

/-- What the end of a cluster remembers of its characters. -/
structure ClusterEnd where
  last : BreakClass
  /-- The cluster is a pictograph with marks so far. -/
  pictograph : Bool := false
  /-- A joiner follows such a pictograph. -/
  joined : Bool := false
  /-- An odd number of regional indicators stands at the end. -/
  halfFlag : Bool := false
  /-- A consonant stands before the marks at the end. -/
  consonant : Bool := false
  /-- A linker is among the marks after that consonant. -/
  linked : Bool := false
  deriving DecidableEq, Repr

def ClusterEnd.start (c : Char) : ClusterEnd :=
  { last := breakClass c
    pictograph := pictographic.has c.toNat
    halfFlag := breakClass c = .regional
    consonant := breakClass c = .consonant }

/-- The end of a cluster after one more character. -/
def ClusterEnd.extend (e : ClusterEnd) (c : Char) : ClusterEnd :=
  { last := breakClass c
    pictograph := pictographic.has c.toNat || (breakClass c = .extend && e.pictograph)
    joined := breakClass c = .joiner && e.pictograph
    halfFlag := breakClass c = .regional && !e.halfFlag
    consonant := breakClass c = .consonant || (e.consonant && passesConjunct c)
    linked := e.consonant && passesConjunct c && (e.linked || isLinker c) }

/-- No cluster ends before `c` when the characters before it end with `e`. -/
def ClusterEnd.joins (e : ClusterEnd) (c : Char) : Bool :=
  match e.last, breakClass c with
  | .carriageReturn, .lineFeed => true
  | .carriageReturn, _ | .lineFeed, _ | .control, _ => false
  | _, .carriageReturn | _, .lineFeed | _, .control => false
  | .leading, .leading | .leading, .vowel | .leading, .openSyllable | .leading, .closedSyllable =>
    true
  | .openSyllable, .vowel | .openSyllable, .trailing | .vowel, .vowel | .vowel, .trailing => true
  | .closedSyllable, .trailing | .trailing, .trailing => true
  | _, .extend | _, .joiner | _, .spacing => true
  | .prepend, _ => true
  | _, .consonant => e.linked
  | .joiner, _ => e.joined && pictographic.has c.toNat
  | .regional, .regional => e.halfFlag
  | _, _ => false

/-- The clusters of a text that continues the cluster `current`, given last character first. -/
def clustersFrom (current : List Char) (e : ClusterEnd) : List Char → List (List Char)
  | [] => [current.reverse]
  | c :: cs =>
    if e.joins c then clustersFrom (c :: current) (e.extend c) cs
    else current.reverse :: clustersFrom [c] (.start c) cs

/-- The extended grapheme clusters of a text, in order. -/
def clusters : List Char → List (List Char)
  | [] => []
  | c :: cs => clustersFrom [c] (.start c) cs

/-- Columns of a cluster on a screen: those of its text, and one more for every voicing mark of
halfwidth katakana. -/
def clusterWidth (cluster : List Char) : Nat :=
  textWidth cluster + cluster.countP isVoicingMark

end GossipPanel.Text
