/-!
# Why a request to the node fails
-/

namespace GossipPanel.Node

/-- The cause of a failed request. -/
inductive Failure where
  /-- No connection, or a connection that broke. -/
  | network (reason : String)
  /-- No answer within the time limit. -/
  | timeout (reason : String)
  /-- The node answered with a status other than success. -/
  | status (code : Nat) (message : String)
  /-- The answer is not of the expected form. -/
  | malformed (reason : String)
  /-- A local file could not be read or written. -/
  | file (reason : String)
  /-- Nobody listens to the answer any more. -/
  | channelClosed
  deriving DecidableEq, Repr

/-- The text shown for a failure. -/
def Failure.message : Failure → String
  | .network reason => s!"network error: {reason}"
  | .timeout reason => s!"timed out: {reason}"
  | .status code message =>
    if message = "" then s!"node error (HTTP {code})" else s!"node error (HTTP {code}): {message}"
  | .malformed reason => s!"malformed payload: {reason}"
  | .file reason => s!"I/O error: {reason}"
  | .channelClosed => "channel closed"

end GossipPanel.Node
