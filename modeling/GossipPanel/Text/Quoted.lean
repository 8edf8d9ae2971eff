import GossipPanel.Text.Numeral
import GossipPanel.Text.Property.Unprintable
import GossipPanel.Text.Width

/-!
# Quoted texts

A text quoted for a reader stands in double quotes. Quotes, backslashes and characters that
cannot be seen on their own are escaped.
-/

namespace GossipPanel.Text.Quoted

open Property

/-- A character that is not seen when it stands on its own: a mark that extends the one before it,
a character without a shape, or one that has no printed form. The voicing marks of halfwidth
katakana are seen. -/
def isUnseen (c : Char) : Bool :=
  (extend.has c.toNat && !isVoicingMark c) || ignorable.has c.toNat || unprintable.has c.toNat

/-- One character inside the quotes. -/
def escape (c : Char) : List Char :=
  match c with
  | '\x00' => ['\\', '0']
  | '\t' => ['\\', 't']
  | '\r' => ['\\', 'r']
  | '\n' => ['\\', 'n']
  | '"' => ['\\', '"']
  | '\\' => ['\\', '\\']
  | _ =>
    if isUnseen c then
      ['\\', 'u', '{'] ++ hexDigits c.toNat ++ ['}']
    else [c]

def quote (s : String) : String :=
  String.ofList ('"' :: s.toList.flatMap escape ++ ['"'])

end GossipPanel.Text.Quoted
