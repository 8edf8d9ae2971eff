import GossipPanel.Text.Utf8

/-!
# Form bodies

* `encodePairs` writes `application/x-www-form-urlencoded` text.
* `multipart` writes a body of type `multipart/form-data` with one file.
-/

namespace GossipPanel.Node.Form

open Text

/-- An upper-case hexadecimal digit. -/
def hexUpper (n : Nat) : Char :=
  if n < 10 then Char.ofNat ('0'.toNat + n) else Char.ofNat ('A'.toNat + n - 10)

/-- A byte that stands for itself. -/
def isPlain (b : UInt8) : Bool :=
  let c := Char.ofNat b.toNat
  c.isAlphanum || c = '*' || c = '-' || c = '.' || c = '_'

/-- The text of one byte: itself, a `+` for a space, or a percent sign and two digits. -/
def encodeByte (b : UInt8) : List Char :=
  if isPlain b then [Char.ofNat b.toNat]
  else if b = 0x20 then ['+']
  else ['%', hexUpper (b.toNat / 16), hexUpper (b.toNat % 16)]

/-- The text of a key or a value. -/
def encodeText (s : String) : List Char :=
  (Utf8.encode s).flatMap encodeByte

/-- The text of keys and values. -/
def encodePairs (pairs : List (String × String)) : String :=
  String.ofList <|
    List.intercalate ['&'] (pairs.map fun (k, v) => encodeText k ++ '=' :: encodeText v)

/-- A file name inside quotes. -/
def escapeFileName (name : String) : String :=
  String.ofList <| name.toList.flatMap fun c =>
    if c = '"' ∨ c = '\\' ∨ c = '\r' ∨ c = '\n' then ['\\', c] else [c]

/-- The body that uploads a file. -/
def multipart (boundary name : String) (contents : List UInt8) : List UInt8 :=
  Utf8.encode ("--" ++ boundary ++
      "\r\nContent-Disposition: form-data; name=\"uploadedFile\"; filename=\"" ++
      escapeFileName name ++ "\"\r\n\r\n") ++
    contents ++ Utf8.encode ("\r\n--" ++ boundary ++ "--\r\n")

end GossipPanel.Node.Form
