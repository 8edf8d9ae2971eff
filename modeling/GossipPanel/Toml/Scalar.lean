import GossipPanel.Text.Numeral
import GossipPanel.Toml.Basic

/-!
# Keys, strings, numbers and dates of TOML

Each reader takes a text and gives what stands at its start and the rest.
-/

namespace GossipPanel.Toml

open Text

/-- White space inside a line. -/
def isSpace (c : Char) : Bool :=
  c = ' ' || c = '\t'

/-- The text after white space inside a line. -/
def skipSpace (cs : List Char) : List Char :=
  cs.dropWhile isSpace

def isDigit (c : Char) : Bool :=
  '0' ≤ c && c ≤ '9'

/-- The text after the end of a line. -/
def dropNewline? : List Char → Option (List Char)
  | '\n' :: rest => some rest
  | '\r' :: '\n' :: rest => some rest
  | _ => none

def isCommentChar (c : Char) : Bool :=
  c = '\t' || (0x20 ≤ c.toNat && c.toNat ≠ 0x7f)

/-- The text after a comment that may start here. -/
def skipComment : List Char → List Char
  | '#' :: rest => rest.dropWhile isCommentChar
  | cs => cs

/-! ## Strings -/

/-- The value of hexadecimal digits. -/
def hexValue? (cs : List Char) : Option Nat :=
  cs.foldlM (fun acc c => (hexDigit? c).map (16 * acc + ·)) 0

/-- The character with a code point given by so many hexadecimal digits, and the rest. -/
def readCodePoint (count : Nat) (cs : List Char) : Option (Char × List Char) := do
  let digits := cs.take count
  if digits.length = count then
    let n ← hexValue? digits
    if n.isValidChar then return (Char.ofNat n, cs.drop count) else none
  else none

/-- The character of an escape after its backslash. -/
def readEscape : List Char → Option (Char × List Char)
  | 'b' :: rest => some ('\x08', rest)
  | 't' :: rest => some ('\t', rest)
  | 'n' :: rest => some ('\n', rest)
  | 'f' :: rest => some ('\x0c', rest)
  | 'r' :: rest => some ('\r', rest)
  | '"' :: rest => some ('"', rest)
  | '\\' :: rest => some ('\\', rest)
  | 'u' :: rest => readCodePoint 4 rest
  | 'U' :: rest => readCodePoint 8 rest
  | _ => none

/-- A character that may stand for itself in a string with escapes. -/
def isBasicChar (c : Char) : Bool :=
  isCommentChar c && c ≠ '"' && c ≠ '\\'

/-- A character that may stand in a string without escapes. -/
def isLiteralChar (c : Char) : Bool :=
  isCommentChar c && c ≠ '\''

/-- The rest of a string with escapes; the characters read before come last first. -/
def readBasic (fuel : Nat) (before : List Char) (cs : List Char) :
    Option (List Char × List Char) :=
  match fuel with
  | 0 => none
  | fuel + 1 =>
    match cs with
    | '"' :: rest => some (before.reverse, rest)
    | '\\' :: rest =>
      match readEscape rest with
      | some (c, rest) => readBasic fuel (c :: before) rest
      | none => none
    | c :: rest => if isBasicChar c then readBasic fuel (c :: before) rest else none
    | [] => none

/-- The rest of a string without escapes. -/
def readLiteral (before : List Char) : List Char → Option (List Char × List Char)
  | [] => none
  | c :: rest =>
    if c = '\'' then some (before.reverse, rest)
    else if isLiteralChar c then readLiteral (c :: before) rest
    else none

/-- The text after white space and line ends. -/
def skipBlankLines : List Char → List Char
  | '\r' :: '\n' :: rest => skipBlankLines rest
  | c :: rest => if isSpace c || c = '\n' then skipBlankLines rest else c :: rest
  | [] => []

/-- The text after white space and line ends, at least one line end. -/
def skipBlankLines? (cs : List Char) : Option (List Char) :=
  (dropNewline? (skipSpace cs)).map skipBlankLines

/-- The rest of a string of several lines with escapes. Up to two quotes may stand before the
closing three. A backslash at the end of a line drops the white space after it. -/
def readMultiBasic (fuel : Nat) (before : List Char) (cs : List Char) :
    Option (List Char × List Char) :=
  match fuel with
  | 0 => none
  | fuel + 1 =>
    match cs with
    | '"' :: '"' :: '"' :: '"' :: '"' :: rest => some (('"' :: '"' :: before).reverse, rest)
    | '"' :: '"' :: '"' :: '"' :: rest => some (('"' :: before).reverse, rest)
    | '"' :: '"' :: '"' :: rest => some (before.reverse, rest)
    | '"' :: rest => readMultiBasic fuel ('"' :: before) rest
    | '\\' :: rest =>
      match readEscape rest with
      | some (c, rest) => readMultiBasic fuel (c :: before) rest
      | none =>
        match skipBlankLines? rest with
        | some rest => readMultiBasic fuel before rest
        | none => none
    | '\r' :: '\n' :: rest => readMultiBasic fuel ('\n' :: before) rest
    | '\n' :: rest => readMultiBasic fuel ('\n' :: before) rest
    | c :: rest => if isBasicChar c then readMultiBasic fuel (c :: before) rest else none
    | [] => none

/-- The rest of a string of several lines without escapes. -/
def readMultiLiteral (fuel : Nat) (before : List Char) (cs : List Char) :
    Option (List Char × List Char) :=
  match fuel with
  | 0 => none
  | fuel + 1 =>
    match cs with
    | '\'' :: '\'' :: '\'' :: '\'' :: '\'' :: rest => some (('\'' :: '\'' :: before).reverse, rest)
    | '\'' :: '\'' :: '\'' :: '\'' :: rest => some (('\'' :: before).reverse, rest)
    | '\'' :: '\'' :: '\'' :: rest => some (before.reverse, rest)
    | '\'' :: rest => readMultiLiteral fuel ('\'' :: before) rest
    | '\r' :: '\n' :: rest => readMultiLiteral fuel ('\n' :: before) rest
    | '\n' :: rest => readMultiLiteral fuel ('\n' :: before) rest
    | c :: rest => if isLiteralChar c then readMultiLiteral fuel (c :: before) rest else none
    | [] => none

/-- The text after one line end, if it starts with one. -/
def dropFirstNewline (cs : List Char) : List Char :=
  (dropNewline? cs).getD cs

/-- A string on one line, of either kind of quotes. -/
def readLineString : List Char → Option (String × List Char)
  | '"' :: rest => (readBasic (rest.length + 1) [] rest).map fun (s, r) => (String.ofList s, r)
  | '\'' :: rest => (readLiteral [] rest).map fun (s, r) => (String.ofList s, r)
  | _ => none

def readString (cs : List Char) : Option (String × List Char) :=
  match cs with
  | '"' :: '"' :: '"' :: rest =>
    (readMultiBasic (rest.length + 1) [] (dropFirstNewline rest)).map fun (s, r) =>
      (String.ofList s, r)
  | '\'' :: '\'' :: '\'' :: rest =>
    (readMultiLiteral (rest.length + 1) [] (dropFirstNewline rest)).map fun (s, r) =>
      (String.ofList s, r)
  | cs => readLineString cs

/-! ## Keys -/

/-- A character of a key without quotes. -/
def isBareChar (c : Char) : Bool :=
  (c.isAlphanum) || c = '-' || c = '_'

/-- A key without dots. -/
def readSimpleKey (cs : List Char) : Option (String × List Char) :=
  match cs with
  | '"' :: _ | '\'' :: _ => readLineString cs
  | _ =>
    match cs.takeWhile isBareChar with
    | [] => none
    | key => some (String.ofList key, cs.dropWhile isBareChar)

/-- The parts of a key, with white space around each. -/
def readKeyParts (fuel : Nat) (cs : List Char) : Option (List String × List Char) :=
  match fuel with
  | 0 => none
  | fuel + 1 => do
    let (key, rest) ← readSimpleKey (skipSpace cs)
    match skipSpace rest with
    | '.' :: rest =>
      let (keys, rest) ← readKeyParts fuel rest
      return (key :: keys, rest)
    | rest => return ([key], rest)

/-- The most parts of a key, and the most arrays and inline tables inside one another. -/
def maxDepth : Nat := 79

/-- A key: the tables that it passes through, and its last part. -/
def readKey (cs : List Char) : Option ((List String × String) × List Char) := do
  let (parts, rest) ← readKeyParts (maxDepth + 1) cs
  let last ← parts.getLast?
  if parts.length ≤ maxDepth then return ((parts.dropLast, last), rest) else none

/-! ## Numbers -/

/-- Digits with single underscores between them, without the underscores. -/
def readDigits (isDigit : Char → Bool) : List Char → Option (List Char × List Char)
  | [] => none
  | c :: rest =>
    if isDigit c then
      match rest with
      | '_' :: after =>
        if after.head?.any isDigit then
          (readDigits isDigit after).map fun (ds, r) => (c :: ds, r)
        else some ([c], rest)
      | d :: more =>
        if isDigit d then (readDigits isDigit (d :: more)).map fun (ds, r) => (c :: ds, r)
        else some ([c], d :: more)
      | [] => some ([c], [])
    else none

def readSign : List Char → Bool × List Char
  | '-' :: rest => (true, rest)
  | '+' :: rest => (false, rest)
  | cs => (false, cs)

/-- A decimal integer: its sign and digits, a zero only alone. -/
def readDecimal (cs : List Char) : Option ((Bool × List Char) × List Char) :=
  let (minus, cs) := readSign cs
  match cs with
  | '0' :: rest => some ((minus, ['0']), rest)
  | cs => (readDigits isDigit cs).map fun (ds, rest) => ((minus, ds), rest)

def digitsIn (base : Nat) (ds : List Char) : Nat :=
  ds.foldl (fun acc c => base * acc + (hexDigit? c).getD 0) 0

/-- An integer of 64 bits. -/
def inRange (n : Int) : Bool :=
  Int64.minValue.toInt ≤ n && n ≤ Int64.maxValue.toInt

/-- The integer of digits in a base, after the letter that names the base. -/
def readRadix (base : Nat) (isDigit : Char → Bool) (cs : List Char) :
    Option (Int × List Char) := do
  let (ds, rest) ← readDigits isDigit cs
  let n : Int := digitsIn base ds
  if inRange n then return (n, rest) else none

def readInteger (cs : List Char) : Option (Int × List Char) :=
  match cs with
  | '0' :: 'x' :: rest => readRadix 16 (fun c => (hexDigit? c).isSome) rest
  | '0' :: 'o' :: rest => readRadix 8 (fun c => '0' ≤ c && c ≤ '7') rest
  | '0' :: 'b' :: rest => readRadix 2 (fun c => c = '0' || c = '1') rest
  | cs => do
    let ((minus, ds), rest) ← readDecimal cs
    let n : Int := digitsIn 10 ds
    let n := if minus then -n else n
    if inRange n then return (n, rest) else none

/-- Whether digits, of which some stand after the point, times a power of ten round past the
largest double. -/
def isHuge (digits : List Char) (places : Nat) (exponent : Int) : Bool :=
  let m := digitsIn 10 digits
  let e := exponent - places
  let limit := (1 <<< 1024) - (1 <<< 970)
  if m = 0 then false
  else if e > 400 then true
  else if e ≥ 0 then m * Nat.pow 10 e.toNat ≥ limit
  else if (-e).toNat > digits.length then false
  else m ≥ limit * Nat.pow 10 (-e).toNat

/-- The digits after a point. -/
def readFraction : List Char → Option (List Char × List Char)
  | '.' :: rest => readDigits isDigit rest
  | _ => none

def readExponent : List Char → Option (Int × List Char)
  | c :: rest =>
    if c = 'e' ∨ c = 'E' then
      let (minus, digits) := readSign rest
      (readDigits isDigit digits).map fun (ds, rest) =>
        let n : Int := digitsIn 10 ds
        (if minus then -n else n, rest)
    else none
  | [] => none

/-- A float; what is too large for a double is refused, unless it is negative. -/
def readFloat (cs : List Char) : Option (Unit × List Char) :=
  let special :=
    match (readSign cs).2 with
    | 'i' :: 'n' :: 'f' :: rest => some ((), rest)
    | 'n' :: 'a' :: 'n' :: rest => some ((), rest)
    | _ => none
  match special with
  | some r => some r
  | none => do
    let ((minus, whole), rest) ← readDecimal cs
    let (fraction, exponent, rest) ←
      match readExponent rest with
      | some (e, rest) => some ([], e, rest)
      | none => do
        let (fraction, rest) ← readFraction rest
        match readExponent rest with
        | some (e, rest) => some (fraction, e, rest)
        | none =>
          if rest.head? = some 'e' ∨ rest.head? = some 'E' then none else some (fraction, 0, rest)
    if !minus && isHuge (whole ++ fraction) fraction.length exponent then none
    else return ((), rest)

/-! ## Dates and times -/

/-- A number of exactly so many digits within bounds. -/
def readField (count lo hi : Nat) (cs : List Char) : Option (Nat × List Char) :=
  let ds := cs.take count
  if ds.length = count ∧ ds.all isDigit then
    let n := digitsIn 10 ds
    if lo ≤ n ∧ n ≤ hi then some (n, cs.drop count) else none
  else none

/-- The text after a character that has to stand here. -/
def expect? (c : Char) : List Char → Option (List Char)
  | d :: rest => if c = d then some rest else none
  | [] => none

def daysIn (year month : Nat) : Nat :=
  if month = 2 then
    if year % 4 = 0 ∧ (year % 100 ≠ 0 ∨ year % 400 = 0) then 29 else 28
  else if month = 4 ∨ month = 6 ∨ month = 9 ∨ month = 11 then 30
  else 31

def readDate (cs : List Char) : Option (List Char) := do
  let (year, cs) ← readField 4 0 9999 cs
  let cs ← expect? '-' cs
  let (month, cs) ← readField 2 1 12 cs
  let cs ← expect? '-' cs
  let (day, cs) ← readField 2 1 31 cs
  if day ≤ daysIn year month then some cs else none

/-- A time of the day, possibly with a fraction of a second. -/
def readTime (cs : List Char) : Option (List Char) := do
  let (_, cs) ← readField 2 0 23 cs
  let cs ← expect? ':' cs
  let (_, cs) ← readField 2 0 59 cs
  let cs ← expect? ':' cs
  let (_, cs) ← readField 2 0 60 cs
  match cs with
  | '.' :: rest => if rest.head?.any isDigit then some (rest.dropWhile isDigit) else some cs
  | cs => some cs

/-- The distance from universal time. -/
def readOffset (cs : List Char) : Option (List Char) :=
  match cs with
  | [] => none
  | c :: rest =>
    if c = 'Z' ∨ c = 'z' then some rest
    else if c = '+' ∨ c = '-' then do
      let (_, cs) ← readField 2 0 23 rest
      let cs ← expect? ':' cs
      let (_, cs) ← readField 2 0 59 cs
      return cs
    else none

/-- A date, a time, or both with or without an offset. -/
def readDateTime (cs : List Char) : Option (List Char) :=
  match readDate cs with
  | none => readTime cs
  | some afterDate =>
    match afterDate with
    | c :: rest =>
      if c = 'T' ∨ c = 't' ∨ c = ' ' then
        match readTime rest with
        | none => some afterDate
        | some afterTime => some ((readOffset afterTime).getD afterTime)
      else some afterDate
    | [] => some []

end GossipPanel.Toml
