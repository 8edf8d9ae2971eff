import GossipPanel.Text.Lines

/-!
# File names and paths

A path is cut at `/`; empty components and `.` do not count.
-/

namespace GossipPanel.Node

open Text

def pathComponents (path : String) : List String :=
  ((splitOn '/' path.toList).map String.ofList).filter fun part => part != "" && part != "."

/-- The last component of a path, unless it leads to the parent directory. -/
def fileName? (path : String) : Option String :=
  (pathComponents path).getLast?.filter (· != "..")

/-- The one component under which a file of this name is saved, so that a download never leaves
its directory. -/
def safeFileName? (name : String) : Option String :=
  fileName? name

/-- The path of a file that was not given relative to a directory. -/
def isAbsolute (path : String) : Bool :=
  path.startsWith '/'

/-- The path of `name` inside the directory `dir`. A name that is an absolute path leads out of
it. -/
def joinPath (dir name : String) : String :=
  if isAbsolute name then name
  else if dir = "" || dir.endsWith '/' then dir ++ name
  else dir ++ "/" ++ name

end GossipPanel.Node
