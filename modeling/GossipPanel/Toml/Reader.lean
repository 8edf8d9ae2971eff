import GossipPanel.Toml.Scalar

/-!
# Reading TOML 1.0

* `readValue` reads a value.
* `parse?` reads a document: key definitions and table headers, each on a line of its own.
-/

namespace GossipPanel.Toml

/-- The text after white space, comments and line ends. -/
def skipBlank (fuel : Nat) (cs : List Char) : Option (List Char) :=
  match fuel with
  | 0 => none
  | fuel + 1 =>
    match skipSpace cs with
    | '#' :: rest =>
      match dropNewline? (skipComment ('#' :: rest)) with
      | some rest => skipBlank fuel rest
      | none => none
    | rest =>
      match dropNewline? rest with
      | some rest => skipBlank fuel rest
      | none => some rest

/-- A value other than an array or a table. -/
def readScalar (cs : List Char) : Option (Value × List Char) :=
  match cs with
  | [] => none
  | c :: _ =>
    if c = '"' ∨ c = '\'' then (readString cs).map fun (s, rest) => (.string s, rest)
    else if c = '+' ∨ c = '-' ∨ isDigit c then
      match readDateTime cs with
      | some rest => some (.dateTime, rest)
      | none =>
        match readFloat cs with
        | some (_, rest) => some (.float, rest)
        | none => (readInteger cs).map fun (n, rest) => (.integer n, rest)
    else
      match cs with
      | 't' :: 'r' :: 'u' :: 'e' :: rest => some (.boolean true, rest)
      | 'f' :: 'a' :: 'l' :: 's' :: 'e' :: rest => some (.boolean false, rest)
      | 'i' :: 'n' :: 'f' :: rest => some (.float, rest)
      | 'n' :: 'a' :: 'n' :: rest => some (.float, rest)
      | _ => none

mutual

/-- A value at the start of a text, and the rest. `levels` counts the arrays and inline tables
that may still be entered. -/
def readValue (fuel levels : Nat) (cs : List Char) : Option (Value × List Char) :=
  match fuel with
  | 0 => none
  | fuel + 1 =>
    match cs, levels with
    | '[' :: _, 0 => none
    | '{' :: _, 0 => none
    | '[' :: rest, levels + 1 =>
      (readItems fuel levels [] rest).map fun (items, rest) => (.array items, rest)
    | '{' :: rest, levels + 1 =>
      match skipSpace rest with
      | '}' :: rest => some (.table .inline [], rest)
      | rest => (readPairs fuel levels [] rest).map fun (es, rest) => (.table .inline es, rest)
    | cs, _ => readScalar cs

/-- The rest of an array; the items read before come last first. -/
def readItems (fuel levels : Nat) (before : List Value) (cs : List Char) :
    Option (List Value × List Char) :=
  match fuel with
  | 0 => none
  | fuel + 1 =>
    match skipBlank (cs.length + 1) cs with
    | none => none
    | some (']' :: rest) => some (before.reverse, rest)
    | some cs =>
      match readValue fuel levels cs with
      | none => none
      | some (v, rest) =>
        match skipBlank (rest.length + 1) rest with
        | some (',' :: rest) => readItems fuel levels (v :: before) rest
        | some (']' :: rest) => some ((v :: before).reverse, rest)
        | _ => none

/-- The rest of an inline table that is not empty, after the entries read before. -/
def readPairs (fuel levels : Nat) (before : Entries) (cs : List Char) :
    Option (Entries × List Char) :=
  match fuel with
  | 0 => none
  | fuel + 1 =>
    match readKey cs with
    | some ((path, key), '=' :: rest) =>
      match readValue fuel levels (skipSpace rest) with
      | none => none
      | some (v, rest) =>
        match before.define? .inline path key v with
        | none => none
        | some entries =>
          match skipSpace rest with
          | ',' :: rest => readPairs fuel levels entries rest
          | '}' :: rest => some (entries, rest)
          | _ => none
    | _ => none

end

/-- The text after the end of a line, before which white space and a comment may stand. -/
def endLine? (cs : List Char) : Option (List Char) :=
  match skipComment (skipSpace cs) with
  | [] => some []
  | rest => dropNewline? rest

/-- A header: the tables that it passes through and its last key, up to the closing brackets. -/
def readHeader (closing : List Char) (cs : List Char) :
    Option ((List String × String) × List Char) := do
  let (key, rest) ← readKey cs
  if closing.isPrefixOf rest then
    let rest ← endLine? (rest.drop closing.length)
    return (key, rest)
  else none

/-- The lines of a document. `current` is the path of the table that definitions go into. -/
def readLines (fuel : Nat) (current : List String) (root : Entries) (cs : List Char) :
    Option Entries :=
  match fuel with
  | 0 => none
  | fuel + 1 =>
    match skipSpace cs with
    | [] => some root
    | '#' :: rest => (endLine? ('#' :: rest)).bind (readLines fuel current root)
    | '[' :: '[' :: rest => do
      let ((path, key), rest) ← readHeader [']', ']'] rest
      let root ← root.appendTable? path key
      readLines fuel (path ++ [key]) root rest
    | '[' :: rest => do
      let ((path, key), rest) ← readHeader [']'] rest
      let root ← root.openTable? path key
      readLines fuel (path ++ [key]) root rest
    | rest =>
      match dropNewline? rest with
      | some rest => readLines fuel current root rest
      | none => do
        match ← readKey rest with
        | ((path, key), '=' :: rest) =>
          let (v, rest) ← readValue (2 * rest.length + 2) maxDepth (skipSpace rest)
          let rest ← endLine? rest
          let root ← root.modifyAt? .implied (fun o es => es.define? o path key v) .header current
          readLines fuel current root rest
        | _ => none

/-- The document that a text holds; a byte order mark may stand in front. -/
def parse? (s : String) : Option Entries :=
  let cs :=
    match s.toList with
    | '\ufeff' :: rest => rest
    | cs => cs
  readLines (cs.length + 1) [] [] cs

end GossipPanel.Toml
