import GossipPanel.Json.Basic
import GossipPanel.Text.Numeral

/-!
# Writing JSON

Compact text: no white space, members in their order, and only the escapes that JSON asks for.
-/

namespace GossipPanel.Json

open Text

/-- One character inside a string literal. -/
def escape (c : Char) : List Char :=
  match c with
  | '"' => ['\\', '"']
  | '\\' => ['\\', '\\']
  | '\x08' => ['\\', 'b']
  | '\x0c' => ['\\', 'f']
  | '\n' => ['\\', 'n']
  | '\r' => ['\\', 'r']
  | '\t' => ['\\', 't']
  | _ =>
    if c.toNat < 0x20 then
      ['\\', 'u', '0', '0', Nat.digitChar (c.toNat / 16), Nat.digitChar (c.toNat % 16)]
    else [c]

/-- The string literal of a text. -/
def renderString (s : String) : List Char :=
  '"' :: s.toList.flatMap escape ++ ['"']

def Number.render (n : Number) : List Char :=
  (if n.negative then ['-'] else []) ++ n.whole ++
    (if n.fraction.isEmpty then [] else '.' :: n.fraction) ++
    match n.exponent with
    | none => []
    | some (minus, digits) => 'e' :: (if minus then ['-'] else []) ++ digits

def Number.ofNat (n : Nat) : Number :=
  { whole := Nat.toDigits 10 n }

mutual

/-- The compact text of a value. -/
def Value.render : Value → List Char
  | .null => ['n', 'u', 'l', 'l']
  | .bool true => ['t', 'r', 'u', 'e']
  | .bool false => ['f', 'a', 'l', 's', 'e']
  | .number n => n.render
  | .string s => renderString (s.getD "")
  | .array items => '[' :: renderItems items ++ [']']
  | .object members => '{' :: renderMembers members ++ ['}']

/-- The items of an array with commas between them. -/
def renderItems : List Value → List Char
  | [] => []
  | [v] => v.render
  | v :: w :: vs => v.render ++ ',' :: renderItems (w :: vs)

/-- The members of an object with commas between them. -/
def renderMembers : List (Literal × Value) → List Char
  | [] => []
  | [(k, v)] => renderString (k.getD "") ++ ':' :: v.render
  | (k, v) :: m :: ms =>
    renderString (k.getD "") ++ ':' :: v.render ++ ',' :: renderMembers (m :: ms)

end

def Value.text (v : Value) : String :=
  String.ofList v.render

end GossipPanel.Json
