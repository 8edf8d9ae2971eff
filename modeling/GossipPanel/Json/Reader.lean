import GossipPanel.Json.Basic
import GossipPanel.Text.Numeral

/-!
# Reading JSON

A strict reader: white space is space, tab, line feed and carriage return only, there are no
comments and no trailing commas, and nothing may follow the value. Nesting has no limit.

* `readLiteral` reads a string literal after its opening quote.
* `readNumber` reads a number.
* `readValue` reads a value; `parse?` reads a whole text.
-/

namespace GossipPanel.Json

open Text

/-- White space between tokens. -/
def isSpace (c : Char) : Bool :=
  c = ' ' || c = '\t' || c = '\n' || c = '\r'

/-- The text after white space. -/
def skipSpace (cs : List Char) : List Char :=
  cs.dropWhile isSpace

/-! ## String literals -/

/-- A unit of a string literal: a character, or a UTF-16 unit written as `\u` and four digits. -/
inductive Unit where
  | char (c : Char)
  | code (n : Nat)
  deriving DecidableEq, Repr

/-- The value of four hexadecimal digits. -/
def hex4? (a b c d : Char) : Option Nat := do
  let a ← hexDigit? a
  let b ← hexDigit? b
  let c ← hexDigit? c
  let d ← hexDigit? d
  return ((a * 16 + b) * 16 + c) * 16 + d

/-- The character of a one-letter escape. -/
def shortEscape? (c : Char) : Option Char :=
  match c with
  | '"' => some '"'
  | '\\' => some '\\'
  | '/' => some '/'
  | 'b' => some '\x08'
  | 'f' => some '\x0c'
  | 'n' => some '\n'
  | 'r' => some '\r'
  | 't' => some '\t'
  | _ => none

/-- The units of a literal up to its closing quote, and the text after the quote. The units read
before come last first. -/
def readUnits (before : List Unit) : List Char → Option (List Unit × List Char)
  | [] => none
  | c :: cs =>
    if c = '"' then some (before.reverse, cs)
    else if c = '\\' then
      match cs with
      | 'u' :: h₁ :: h₂ :: h₃ :: h₄ :: rest =>
        match hex4? h₁ h₂ h₃ h₄ with
        | some n => readUnits (.code n :: before) rest
        | none => none
      | e :: rest =>
        match shortEscape? e with
        | some x => readUnits (.char x :: before) rest
        | none => none
      | [] => none
    else if c.toNat < 0x20 then none
    else readUnits (.char c :: before) cs

/-- The first of two UTF-16 units of a character. -/
def isHighSurrogate (n : Nat) : Bool :=
  0xd800 ≤ n && n ≤ 0xdbff

/-- The second of two UTF-16 units of a character. -/
def isLowSurrogate (n : Nat) : Bool :=
  0xdc00 ≤ n && n ≤ 0xdfff

/-- The characters of units, unless a surrogate has no partner. -/
def joinUnits (before : List Char) : List Unit → Option (List Char)
  | [] => some before.reverse
  | .char c :: us => joinUnits (c :: before) us
  | .code n :: us =>
    if isHighSurrogate n then
      match us with
      | .code m :: rest =>
        if isLowSurrogate m then
          joinUnits (Char.ofNat (0x10000 + (n - 0xd800) * 0x400 + (m - 0xdc00)) :: before) rest
        else none
      | _ => none
    else if isLowSurrogate n then none
    else joinUnits (Char.ofNat n :: before) us

/-- A string literal after its opening quote, and the text after its closing quote. -/
def readLiteral (cs : List Char) : Option (Literal × List Char) :=
  (readUnits [] cs).map fun (us, rest) => ((joinUnits [] us).map String.ofList, rest)

/-! ## Numbers -/

def isDigit (c : Char) : Bool :=
  '0' ≤ c && c ≤ '9'

/-- One or more digits at the start of a text. -/
def readDigits (cs : List Char) : Option (List Char × List Char) :=
  match cs.takeWhile isDigit with
  | [] => none
  | ds => some (ds, cs.dropWhile isDigit)

/-- The digits before the point: a zero alone, or digits that do not start with zero. -/
def readWhole : List Char → Option (List Char × List Char)
  | '0' :: cs => if cs.head?.any isDigit then none else some (['0'], cs)
  | cs => readDigits cs

/-- The digits after a point, if one follows. -/
def readFraction : List Char → Option (List Char × List Char)
  | '.' :: cs => readDigits cs
  | cs => some ([], cs)

/-- The exponent, if one follows. -/
def readExponent : List Char → Option (Option (Bool × List Char) × List Char)
  | [] => some (none, [])
  | c :: cs =>
    if c = 'e' ∨ c = 'E' then
      let (minus, digits) :=
        match cs with
        | '-' :: rest => (true, rest)
        | '+' :: rest => (false, rest)
        | rest => (false, rest)
      (readDigits digits).map fun (ds, rest) => (some (minus, ds), rest)
    else some (none, c :: cs)

/-- A number at the start of a text, and the text after it. -/
def readNumber (cs : List Char) : Option (Number × List Char) := do
  let (negative, cs) :=
    match cs with
    | '-' :: rest => (true, rest)
    | rest => (false, rest)
  let (whole, cs) ← readWhole cs
  let (fraction, cs) ← readFraction cs
  let (exponent, cs) ← readExponent cs
  return (⟨negative, whole, fraction, exponent⟩, cs)

/-! ## Values -/

mutual

/-- A value at the start of a text, after white space, and the text after it. The fuel bounds the
number of calls. -/
def readValue (fuel : Nat) (cs : List Char) : Option (Value × List Char) :=
  match fuel with
  | 0 => none
  | fuel + 1 =>
    match skipSpace cs with
    | 'n' :: 'u' :: 'l' :: 'l' :: rest => some (.null, rest)
    | 't' :: 'r' :: 'u' :: 'e' :: rest => some (.bool true, rest)
    | 'f' :: 'a' :: 'l' :: 's' :: 'e' :: rest => some (.bool false, rest)
    | '"' :: rest => (readLiteral rest).map fun (s, rest) => (.string s, rest)
    | '[' :: rest =>
      match skipSpace rest with
      | ']' :: rest => some (.array [], rest)
      | rest => (readItems fuel [] rest).map fun (items, rest) => (.array items, rest)
    | '{' :: rest =>
      match skipSpace rest with
      | '}' :: rest => some (.object [], rest)
      | rest => (readMembers fuel [] rest).map fun (ms, rest) => (.object ms, rest)
    | rest => (readNumber rest).map fun (n, rest) => (.number n, rest)

/-- One or more items and the closing bracket; the items read before come last first. -/
def readItems (fuel : Nat) (before : List Value) (cs : List Char) :
    Option (List Value × List Char) :=
  match fuel with
  | 0 => none
  | fuel + 1 =>
    match readValue fuel cs with
    | none => none
    | some (v, rest) =>
      match skipSpace rest with
      | ',' :: rest => readItems fuel (v :: before) rest
      | ']' :: rest => some ((v :: before).reverse, rest)
      | _ => none

/-- One or more members and the closing brace; the members read before come last first. -/
def readMembers (fuel : Nat) (before : List (Literal × Value)) (cs : List Char) :
    Option (List (Literal × Value) × List Char) :=
  match fuel with
  | 0 => none
  | fuel + 1 =>
    match skipSpace cs with
    | '"' :: rest =>
      match readLiteral rest with
      | none => none
      | some (key, rest) =>
        match skipSpace rest with
        | ':' :: rest =>
          match readValue fuel rest with
          | none => none
          | some (v, rest) =>
            match skipSpace rest with
            | ',' :: rest => readMembers fuel ((key, v) :: before) rest
            | '}' :: rest => some (((key, v) :: before).reverse, rest)
            | _ => none
        | _ => none
    | _ => none

end

/-- The value that a text consists of. -/
def parse? (cs : List Char) : Option Value :=
  match readValue (2 * cs.length + 2) cs with
  | some (v, rest) => if (skipSpace rest).isEmpty then some v else none
  | none => none

end GossipPanel.Json
