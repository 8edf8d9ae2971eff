import GossipPanel.Screen.Terminal
import GossipPanel.Settings.Arguments
import GossipPanel.Settings.File
import GossipPanel.Work.Station

/-!
# The command line

The panel on plain lines: every line of the input is submitted as if it had been typed, and the
screen is printed after it. No connection is opened, so every call to the node fails.
-/

namespace GossipPanel

open Node Panel Screen Settings Work

/-- Columns of the printed screen. -/
def screenWidth : Nat := 80

/-- Rows of the printed screen. -/
def screenHeight : Nat := 24

/-- The answers of a node that cannot be reached. -/
def unreachable : Answers :=
  let failure : Failure := .network "no connection"
  { identity := .error failure
    peers := .error failure
    messages := .error failure
    routes := .error failure
    privateMessages := fun _ => .error failure
    broadcast := .error failure
    sendPrivate := .error failure
    togglePeer := .error failure
    rename := .error failure
    search := { ending := some (.error failure) }
    download := .error failure
    upload := .error failure }

/-- The panel that settings start. -/
def stationOf (s : Resolved) : Station :=
  { app := initialApp s, node := unreachable, url := baseUrl s.nodeUrl }

/-- What stands at the place of the configuration file. -/
def findConfig (home : Option String) : IO Source := do
  match home with
  | none => return .blocked
  | some home =>
    try
      let contents ← IO.FS.readBinFile (joinPath home configPath)
      return .file contents.toList
    catch
      | .noFileOrDirectory .. => return .vacant
      | _ => return .blocked

/-- Writes the configuration file that was missing; a failure to do so does not matter. -/
def writeConfig (home : Option String) (text : Option String) : IO Unit := do
  match home, text with
  | some home, some text =>
    try
      IO.FS.createDirAll (joinPath home ".peerdeck")
      IO.FS.writeFile (joinPath home configPath) text
    catch _ => return ()
  | _, _ => return ()

/-- Prints the screen. -/
def printScreen (s : Station) : IO Station := do
  let (scene, s) := s.draw screenWidth screenHeight
  for row in shown scene.picture do
    IO.println (rowText row)
  return s

/-- Submits the lines of the input until one of them quits. -/
partial def serveLines (input : IO.FS.Stream) (s : Station) : IO Unit := do
  let line ← input.getLine
  if line.isEmpty then return
  let (quit, s) := s.dispatch (.submit line)
  if quit then return
  let (_, s) := s.pass s.app.pollInterval.toNat
  serveLines input (← printScreen s)

/-- Runs the panel with the given options. -/
def runPanel (options : Options) : IO UInt32 := do
  let home ← IO.getEnv "HOME"
  let loaded := load (← findConfig home)
  writeConfig home loaded.written
  match loaded.settings with
  | .error e =>
    IO.eprintln e.message
    return 1
  | .ok file =>
    let url ← IO.getEnv nodeUrlVariable
    let interval ← IO.getEnv pollIntervalVariable
    let dir ← IO.getEnv downloadDirVariable
    let env (name : String) : Option String :=
      if name = nodeUrlVariable then url
      else if name = pollIntervalVariable then interval
      else if name = downloadDirVariable then dir
      else none
    let (_, station) := (stationOf (resolve file options env)).dispatch .start
    let (_, station) := station.pass 0
    serveLines (← IO.getStdin) (← printScreen station)
    return 0

/-- Reads the options and runs the panel. -/
def runArguments (arguments : List String) : IO UInt32 := do
  match Options.ofArguments arguments with
  | .ok options => runPanel options
  | .error e =>
    IO.eprintln e.message
    IO.eprintln usage
    return 2

end GossipPanel

/-- The program. -/
def main (arguments : List String) : IO UInt32 :=
  GossipPanel.runArguments arguments
