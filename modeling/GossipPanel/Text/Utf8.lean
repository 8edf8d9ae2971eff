/-!
# Decoding UTF-8

* `decodeFirst` reads one character from bytes: a character, a maximal invalid start, or the
  unfinished start of a character at the end of the input.
* `decodeLossy` replaces every maximal invalid start by `U+FFFD`.
* `decode?` accepts valid UTF-8 only.
* `Carry` decodes a stream that arrives in chunks and holds back an unfinished character.
-/

namespace GossipPanel.Text.Utf8

/-- What stands at the start of a sequence of bytes. -/
inductive First where
  /-- A character, and the bytes after it. -/
  | char (c : Char) (rest : List UInt8)
  /-- Bytes that start no character, and the bytes after them. -/
  | invalid (rest : List UInt8)
  /-- The input ends inside a character. -/
  | unfinished
  deriving DecidableEq, Repr

/-- A byte `10xxxxxx`. -/
def isContinuation (b : UInt8) : Bool :=
  0x80 ≤ b && b ≤ 0xbf

/-- The six payload bits of a continuation byte. -/
def payload (b : UInt8) : Nat :=
  b.toNat % 64

/-- The bytes that may follow the first byte `b` of a character. -/
def secondRange (b : UInt8) : UInt8 × UInt8 :=
  if b = 0xe0 then (0xa0, 0xbf)
  else if b = 0xed then (0x80, 0x9f)
  else if b = 0xf0 then (0x90, 0xbf)
  else if b = 0xf4 then (0x80, 0x8f)
  else (0x80, 0xbf)

/-- Number of bytes of a character that starts with `b`; 0 when none does. -/
def sequenceLength (b : UInt8) : Nat :=
  if b < 0x80 then 1
  else if 0xc2 ≤ b ∧ b ≤ 0xdf then 2
  else if 0xe0 ≤ b ∧ b ≤ 0xef then 3
  else if 0xf0 ≤ b ∧ b ≤ 0xf4 then 4
  else 0

/-- The byte `c` may be the second one of a character that starts with `b`. -/
def isSecond (b c : UInt8) : Bool :=
  (secondRange b).1 ≤ c && c ≤ (secondRange b).2

/-- The first character of a text in bytes, or what stands in its place. -/
def decodeFirst (b : UInt8) (bs : List UInt8) : First :=
  match sequenceLength b with
  | 1 => .char (Char.ofNat b.toNat) bs
  | 2 =>
    match bs with
    | [] => .unfinished
    | c :: rest =>
      if isSecond b c then .char (Char.ofNat (b.toNat % 32 * 64 + payload c)) rest
      else .invalid bs
  | 3 =>
    match bs with
    | [] => .unfinished
    | c :: bs' =>
      if isSecond b c then
        match bs' with
        | [] => .unfinished
        | d :: rest =>
          if isContinuation d then
            .char (Char.ofNat (b.toNat % 16 * 4096 + payload c * 64 + payload d)) rest
          else .invalid bs'
      else .invalid bs
  | 4 =>
    match bs with
    | [] => .unfinished
    | c :: bs' =>
      if isSecond b c then
        match bs' with
        | [] => .unfinished
        | d :: bs'' =>
          if isContinuation d then
            match bs'' with
            | [] => .unfinished
            | e :: rest =>
              if isContinuation e then
                .char (Char.ofNat
                  (b.toNat % 8 * 262144 + payload c * 4096 + payload d * 64 + payload e)) rest
              else .invalid bs''
          else .invalid bs'
      else .invalid bs
  | _ => .invalid bs

/-- The bytes left after the first character or invalid start. -/
def First.rest : First → List UInt8
  | .char _ rest => rest
  | .invalid rest => rest
  | .unfinished => []

theorem length_rest_decodeFirst (b : UInt8) (bs : List UInt8) :
    (decodeFirst b bs).rest.length ≤ bs.length := by
  unfold decodeFirst
  repeat' split
  all_goals simp [First.rest]
  all_goals omega

/-- A decoded piece of a text: a character, or an invalid start. -/
abbrev Piece := Option Char

/-- The pieces of a sequence of bytes, and the unfinished character at its end. -/
def pieces : List UInt8 → List Piece × List UInt8
  | [] => ([], [])
  | b :: bs =>
    match h : decodeFirst b bs with
    | .char c rest =>
      have : rest.length < (b :: bs).length := by
        have := length_rest_decodeFirst b bs
        simp only [h, First.rest] at this
        simp only [List.length_cons]
        omega
      let (ps, tail) := pieces rest
      (some c :: ps, tail)
    | .invalid rest =>
      have : rest.length < (b :: bs).length := by
        have := length_rest_decodeFirst b bs
        simp only [h, First.rest] at this
        simp only [List.length_cons]
        omega
      let (ps, tail) := pieces rest
      (none :: ps, tail)
    | .unfinished => ([], b :: bs)
termination_by bs => bs.length
decreasing_by all_goals exact this

def replacement : Char := '\ufffd'

def Piece.char (p : Piece) : Char :=
  p.getD replacement

/-- The text with every maximal invalid start replaced, also an unfinished one at the end. -/
def decodeLossy (bytes : List UInt8) : String :=
  let (ps, tail) := pieces bytes
  String.ofList (ps.map Piece.char ++ if tail.isEmpty then [] else [replacement])

/-- The text of valid UTF-8. -/
def decode? (bytes : List UInt8) : Option String :=
  let (ps, tail) := pieces bytes
  if tail.isEmpty && ps.all Option.isSome then some (String.ofList (ps.map Piece.char)) else none

/-- The bytes of a text. -/
def encode (s : String) : List UInt8 :=
  s.toUTF8.toList

/-- A decoder of a stream: the bytes of a character that has not arrived whole. -/
structure Carry where
  /-- The bytes held back. -/
  pending : List UInt8 := []
  deriving DecidableEq, Repr

/-- The text that a chunk completes. An unfinished character at the end is held back, unless the
bytes before it are invalid somewhere; then all is decoded at once. -/
def Carry.push (c : Carry) (chunk : List UInt8) : String × Carry :=
  let bytes := c.pending ++ chunk
  let (ps, tail) := pieces bytes
  if ps.all Option.isSome then (String.ofList (ps.map Piece.char), ⟨tail⟩)
  else (decodeLossy bytes, ⟨[]⟩)

/-- The text of what is left when the stream ends. -/
def Carry.finish (c : Carry) : String :=
  decodeLossy c.pending

/-- The texts that the chunks of a stream complete, and the decoder after them. -/
def Carry.pushAll (c : Carry) : List (List UInt8) → List String × Carry
  | [] => ([], c)
  | chunk :: chunks =>
    let (text, next) := c.push chunk
    let (texts, last) := next.pushAll chunks
    (text :: texts, last)

end GossipPanel.Text.Utf8
