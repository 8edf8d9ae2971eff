import GossipPanel.Settings.Basic
import GossipPanel.Text.Lines

/-!
# Command-line arguments

An option is followed by its value, or holds it after an equals sign. A later option takes the
place of an earlier one.
-/

namespace GossipPanel.Settings

open Text

inductive OptionKey where
  | nodeUrl
  | pollInterval
  | downloadDir
  deriving DecidableEq, Repr

/-- Why the arguments are refused. -/
inductive ArgumentError where
  | unexpected (argument : String)
  | missingValue (name : String)
  | invalidNumber (name value : String)
  deriving DecidableEq, Repr

/-- The text shown for refused arguments. -/
def ArgumentError.message : ArgumentError → String
  | unexpected argument => s!"unexpected argument {argument}"
  | missingValue name => s!"{name} needs a value"
  | invalidNumber name value => s!"{name} needs a number, got {value}"

/-- How the program is called. -/
def usage : String :=
  "usage: peerdeck [-n|--node <url>] [--poll-interval-ms <number>] [--download-dir <path>]"

def optionKey? (name : String) : Option OptionKey :=
  if name = "--node" ∨ name = "-n" then some .nodeUrl
  else if name = "--poll-interval-ms" then some .pollInterval
  else if name = "--download-dir" then some .downloadDir
  else none

/-- The name of an option, and the value after an equals sign. -/
def splitArgument (argument : String) : String × Option String :=
  match splitOn '=' argument.toList with
  | name :: value :: more =>
    (String.ofList name, some (String.ofList (List.intercalate ['='] (value :: more))))
  | _ => (argument, none)

def Options.set (o : Options) (key : OptionKey) (name value : String) :
    Except ArgumentError Options :=
  match key with
  | .nodeUrl => .ok { o with nodeUrl := some value }
  | .downloadDir => .ok { o with downloadDir := some value }
  | .pollInterval =>
    match readUInt64? value with
    | some n => .ok { o with pollInterval := some n }
    | none => .error (.invalidNumber name value)

/-- The options with those of the arguments in their place. -/
def Options.update (o : Options) : List String → Except ArgumentError Options
  | [] => .ok o
  | argument :: rest =>
    let (name, value) := splitArgument argument
    match optionKey? name, value, rest with
    | none, _, _ => .error (.unexpected argument)
    | some key, some value, rest => do (← o.set key name value).update rest
    | some key, none, value :: rest => do (← o.set key name value).update rest
    | some _, none, [] => .error (.missingValue name)

def Options.ofArguments (arguments : List String) : Except ArgumentError Options :=
  ({} : Options).update arguments

end GossipPanel.Settings
