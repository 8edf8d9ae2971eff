import GossipPanel.Panel.State
import GossipPanel.Text.Blank
import GossipPanel.Text.Numeral

/-!
# Settings

A setting comes from the command line, else from an environment variable, else from the
configuration file, else it has a default. `resolve` applies this order; `initialApp` is
the panel that settings start.
-/

namespace GossipPanel.Settings

open Panel Text

/-- What the configuration file says. -/
structure FileSettings where
  nodeUrl : Option String := none
  pollInterval : Option UInt64 := none
  requestTimeout : Option UInt64 := none
  reconnect : Option ReconnectPolicy := none
  defaultBudget : Option UInt32 := none
  downloadDir : Option String := none
  deriving DecidableEq, Repr

/-- What the command line says. -/
structure Options where
  nodeUrl : Option String := none
  pollInterval : Option UInt64 := none
  downloadDir : Option String := none
  deriving DecidableEq, Repr

/-- The settings in force. -/
structure Resolved where
  nodeUrl : String := "http://localhost:8080"
  /-- Milliseconds between two ticks. -/
  pollInterval : UInt64 := 1000
  /-- Milliseconds that a request may take. -/
  requestTimeout : UInt64 := 5000
  reconnect : ReconnectPolicy := .auto
  /-- Zero lets the node grow the budget. -/
  defaultBudget : UInt32 := 0
  downloadDir : String := "_Downloads"
  deriving DecidableEq, Repr

/-- The shortest interval between two ticks; anything faster only burdens the node. -/
def minPollInterval : UInt64 := 100

def nodeUrlVariable : String := "PEERDECK_NODE_URL"

/-- The variable that holds the interval between two ticks. -/
def pollIntervalVariable : String := "PEERDECK_POLL_INTERVAL_MS"

/-- The variable that holds the download directory. -/
def downloadDirVariable : String := "PEERDECK_DOWNLOAD_DIR"

/-- A variable that holds a number, blanks around it aside; anything else does not count. -/
def numberVariable? (env : String → Option String) (name : String) : Option UInt64 :=
  (env name).bind fun raw => readUInt64? (trimmed raw)

/-- The settings in force: command line, environment, file, defaults, in this order. -/
def resolve (file : FileSettings) (options : Options) (env : String → Option String) : Resolved :=
  let defaults : Resolved := {}
  let pollInterval :=
    (options.pollInterval <|> numberVariable? env pollIntervalVariable <|>
      file.pollInterval).getD defaults.pollInterval
  { nodeUrl := (options.nodeUrl <|> env nodeUrlVariable <|> file.nodeUrl).getD defaults.nodeUrl
    pollInterval := max pollInterval minPollInterval
    requestTimeout := file.requestTimeout.getD defaults.requestTimeout
    reconnect := file.reconnect.getD defaults.reconnect
    defaultBudget := file.defaultBudget.getD defaults.defaultBudget
    downloadDir :=
      (options.downloadDir <|> env downloadDirVariable <|> file.downloadDir).getD
        defaults.downloadDir }

/-- The panel at its start. -/
def initialApp (s : Resolved) : App :=
  { status := "Connecting to " ++ s.nodeUrl
    pollInterval := s.pollInterval
    reconnect := s.reconnect
    defaultBudget := s.defaultBudget
    downloadDir := s.downloadDir }

end GossipPanel.Settings
