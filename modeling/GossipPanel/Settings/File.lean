import GossipPanel.Settings.Basic
import GossipPanel.Text.Utf8
import GossipPanel.Toml.Reader

/-!
# The configuration file

* `FileSettings.ofText?` reads the settings of a TOML text. Unknown keys and tables are ignored;
  a setting of the wrong type or out of range spoils the whole file.
* `load` reads the file, or writes `template` where there is none.
-/

namespace GossipPanel.Settings

open Panel Text

/-- A setting that may be missing: its value, `none` when it is missing; fails when it is of the
wrong type. -/
abbrev Setting (α : Type) := Option Toml.Value → Option (Option α)

def setting {α : Type} (read : Toml.Value → Option α) : Setting α
  | none => some none
  | some v => (read v).map some

def text? : Toml.Value → Option String
  | .string s => some s
  | _ => none

def nat? (limit : Nat) : Toml.Value → Option Nat
  | .integer n => if 0 ≤ n ∧ n ≤ limit then some n.toNat else none
  | _ => none

/-- A 64-bit unsigned number. -/
def uint64? (v : Toml.Value) : Option UInt64 :=
  (nat? (UInt64.size - 1) v).map UInt64.ofNat

/-- A 32-bit unsigned number. -/
def uint32? (v : Toml.Value) : Option UInt32 :=
  (nat? (UInt32.size - 1) v).map UInt32.ofNat

def policyOfName? (name : String) : Option ReconnectPolicy :=
  if name = "auto" then some .auto else if name = "manual" then some .manual else none

/-- A table or an array with nothing in it. -/
def isEmpty : Toml.Value → Bool
  | .array items => items.isEmpty
  | .table _ entries => entries.isEmpty
  | .tables items => items.isEmpty
  | _ => false

/-- A reconnect policy: its name, or a table whose only key is its name, with an empty value. -/
def policy? : Toml.Value → Option ReconnectPolicy
  | .string name => policyOfName? name
  | .table _ [(name, v)] => if isEmpty v then policyOfName? name else none
  | _ => none

/-- The settings called `names` of a section, in this order: of a table the entries, of an array
its first items. A section that is missing or a date has none of them. -/
def sectionFields? (names : List String) : Option Toml.Value → Option (List (Option Toml.Value))
  | none | some .dateTime => some (names.map fun _ => none)
  | some (.table _ entries) => some (names.map (Toml.Entries.get? entries))
  | some (.array items) =>
    if names.length ≤ items.length then some ((items.take names.length).map some) else none
  | some (.tables items) =>
    if names.length ≤ items.length then
      some ((items.take names.length).map fun es => some (.table .header es))
    else none
  | _ => none

def FileSettings.ofEntries? (es : Toml.Entries) : Option FileSettings := do
  let node ← sectionFields? ["url"] (es.get? "node")
  let sync ← sectionFields? ["poll_interval_ms", "request_timeout_ms", "reconnect"]
    (es.get? "sync")
  let search ← sectionFields? ["default_budget"] (es.get? "search")
  let files ← sectionFields? ["download_dir"] (es.get? "files")
  match node, sync, search, files with
  | [url], [interval, timeout, reconnect], [budget], [dir] =>
    return {
      nodeUrl := ← setting text? url
      pollInterval := ← setting uint64? interval
      requestTimeout := ← setting uint64? timeout
      reconnect := ← setting policy? reconnect
      defaultBudget := ← setting uint32? budget
      downloadDir := ← setting text? dir }
  | _, _, _, _ => none

def FileSettings.ofText? (s : String) : Option FileSettings :=
  (Toml.parse? s).bind FileSettings.ofEntries?

/-- The file that is written when there is none. -/
def template : String :=
"# peerdeck configuration
# All settings are optional; defaults are used for anything not specified.
# Override hierarchy: defaults → this file → env vars → CLI flags.

# [node]
# url = \"http://localhost:8080\"      # Or PEERDECK_NODE_URL / --node

# [sync]
# poll_interval_ms = 1000            # Or PEERDECK_POLL_INTERVAL_MS / --poll-interval-ms
# request_timeout_ms = 5000
# reconnect = \"auto\"                 # \"auto\" keeps polling while down, \"manual\" waits for Ctrl+R

# [search]
# default_budget = 0                 # 0 lets the node expand the budget itself

# [files]
# download_dir = \"_Downloads\"        # Or PEERDECK_DOWNLOAD_DIR / --download-dir
"

/-- Why the configuration cannot be used. -/
inductive LoadError where
  /-- The file cannot be read. -/
  | io (reason : String)
  /-- The file does not hold valid settings. -/
  | malformed
  deriving DecidableEq, Repr

/-- The text shown for a file that cannot be read. -/
def LoadError.message : LoadError → String
  | io reason => s!"config I/O error: {reason}"
  | malformed => "config parse error"

/-- The place of the configuration below the home directory. -/
def configPath : String := ".peerdeck/config.toml"

/-- What stands at the place of the configuration file. -/
inductive Source where
  | file (contents : List UInt8)
  | vacant
  /-- Nothing, and nothing can be written there. -/
  | blocked
  deriving DecidableEq, Repr

/-- What loading the configuration brings about. -/
structure Loaded where
  settings : Except LoadError FileSettings
  /-- The text written to a place that was vacant. -/
  written : Option String := none

/-- Loads the configuration; a vacant place gets the template. -/
def load : Source → Loaded
  | .vacant => { settings := .ok {}, written := some template }
  | .blocked => { settings := .ok {} }
  | .file contents =>
    { settings :=
        match Utf8.decode? contents with
        | none => .error (.io "stream did not contain valid UTF-8")
        | some s =>
          match FileSettings.ofText? s with
          | some settings => .ok settings
          | none => .error .malformed }

end GossipPanel.Settings
