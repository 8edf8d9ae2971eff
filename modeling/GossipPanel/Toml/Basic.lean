/-!
# TOML documents

A document is a table of values. A table remembers how it was defined, which decides what may
still be added to it.
-/

namespace GossipPanel.Toml

/-- How a table came about. -/
inductive Origin where
  /-- Written in braces; nothing can be added. -/
  | inline
  | header
  /-- Named by the header of a table inside it. -/
  | implied
  /-- Named by a dotted key. -/
  | dotted
  deriving DecidableEq, Repr

/-- A TOML value. Of floats and dates only their kind is kept. -/
inductive Value where
  | string (s : String)
  | integer (n : Int)
  | float
  | boolean (b : Bool)
  | dateTime
  | array (items : List Value)
  | table (origin : Origin) (entries : List (String × Value))
  /-- An array of tables made by headers. -/
  | tables (items : List (List (String × Value)))
  deriving Repr

/-- The entries of a table in the order of their definition. -/
abbrev Entries := List (String × Value)

/-- The table was not named itself so far. -/
def Origin.isImplicit : Origin → Bool
  | implied | dotted => true
  | inline | header => false

namespace Entries

def get? (es : Entries) (key : String) : Option Value :=
  (es.find? (·.1 == key)).map (·.2)

/-- The entries with another value for a key that is present. -/
def replace (es : Entries) (key : String) (v : Value) : Entries :=
  es.map fun e => if e.1 == key then (key, v) else e

/-- A new entry; `none` when the key is taken. -/
def insert? (es : Entries) (key : String) (v : Value) : Option Entries :=
  match es.get? key with
  | none => some (es ++ [(key, v)])
  | some _ => none

/-- Changes the table at the end of a path of keys. Missing tables are made on the way, with
origin `fresh`. A dotted key may not enter a table that was named by a header; no path enters a
value or an inline table; of an array of tables it enters the last. -/
def modifyAt? (fresh : Origin) (change : Origin → Entries → Option Entries) (origin : Origin) :
    List String → Entries → Option Entries
  | [], es => change origin es
  | key :: path, es =>
    match es.get? key with
    | none =>
      (modifyAt? fresh change fresh path []).map fun sub => es ++ [(key, .table fresh sub)]
    | some (.table o sub) =>
      if o = .inline ∨ (fresh = .dotted ∧ !o.isImplicit) then none
      else (modifyAt? fresh change o path sub).map fun sub => es.replace key (.table o sub)
    | some (.tables items) =>
      match items.reverse with
      | [] => none
      | last :: before =>
        (modifyAt? fresh change .header path last).map fun last =>
          es.replace key (.tables (before.reverse ++ [last]))
    | some _ => none

/-- Defines a key, possibly a dotted one, in a table of this origin. -/
def define? (origin : Origin) (path : List String) (key : String) (v : Value) (es : Entries) :
    Option Entries :=
  modifyAt? .dotted
    (fun o es => if (o == .dotted) == path.isEmpty then none else es.insert? key v) origin path es

/-- Names a table by a header. -/
def openTable? (path : List String) (key : String) (es : Entries) : Option Entries :=
  modifyAt? .implied
    (fun _ es =>
      match es.get? key with
      | none => some (es ++ [(key, .table .header [])])
      | some (.table .implied sub) => some (es.replace key (.table .header sub))
      | some _ => none) .header path es

/-- Adds a table to an array of tables by a header. -/
def appendTable? (path : List String) (key : String) (es : Entries) : Option Entries :=
  modifyAt? .implied
    (fun _ es =>
      match es.get? key with
      | none => some (es ++ [(key, .tables [[]])])
      | some (.tables items) => some (es.replace key (.tables (items ++ [[]])))
      | some _ => none) .header path es

end Entries

end GossipPanel.Toml
