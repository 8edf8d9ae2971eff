import GossipPanel.Node.Record
import GossipPanel.Text.Blank
import GossipPanel.Text.Numeral
import GossipPanel.Text.Quoted

/-!
# The input line

Plain text is a message for the active view; a leading `/` introduces a command, and `//` a
message that begins with a slash.
-/

namespace GossipPanel.Panel

open Node Text

/-- What a line asks for. -/
inductive Input where
  /-- A message for the active view. -/
  | send (text : String)
  | addPeer (address : String)
  | removePeer (address : String)
  | rename (name : String)
  | openTab (peer : String)
  | closeTab
  /-- Without a budget the configured one is used. -/
  | search (keywords : String) (budget : Option UInt32)
  | download (request : DownloadRequest)
  | upload (path : String)
  | refresh
  | help
  | quit
  deriving DecidableEq, Repr

/-- Why a line is refused. -/
inductive InputError where
  | missingArgument (command argument : String)
  | invalidBudget (raw : String)
  | unknownCommand (name : String)
  deriving DecidableEq, Repr

/-- The text shown for a refused line. -/
def InputError.message : InputError → String
  | missingArgument command argument => s!"/{command} needs a {argument}"
  | invalidBudget raw => s!"budget must be a non-negative number, got {Quoted.quote raw}"
  | unknownCommand name => s!"unknown command /{name}"

def helpText : String :=
  "/peer <addr> · /drop <addr> · /name <name> · /open <peer> · /close · " ++
  "/search <keywords> [budget] · /download <name> <hash> [peer] · /upload <path> · /refresh · /quit"

namespace Input

/-- A line without the carriage returns and line feeds at its end. -/
def stripNewlines (cs : List Char) : List Char :=
  (cs.reverse.dropWhile fun c => c = '\r' || c = '\n').reverse

def firstWord (args : List Char) (command argument : String) : Except InputError String :=
  match words args with
  | [] => .error (.missingArgument command argument)
  | w :: _ => .ok (String.ofList w)

/-- All arguments, which must not be empty. -/
def nonEmpty (args : List Char) (command argument : String) : Except InputError String :=
  if args.isEmpty then .error (.missingArgument command argument) else .ok (String.ofList args)

/-- Keywords in one word, then at most one numeral. -/
def parseSearch (args : List Char) : Except InputError Input :=
  match words args with
  | [] => .error (.missingArgument "search" "keyword list")
  | [keywords] => .ok (.search (String.ofList keywords) none)
  | [keywords, raw] =>
    match readUInt32? (String.ofList raw) with
    | some budget => .ok (.search (String.ofList keywords) (some budget))
    | none => .error (.invalidBudget (String.ofList raw))
  | keywords :: _ => .error (.invalidBudget (String.ofList (trim (args.drop keywords.length))))

/-- A name and a hash, then possibly a peer. -/
def parseDownload (args : List Char) : Except InputError Input :=
  match words args with
  | [] => .error (.missingArgument "download" "file name")
  | [_] => .error (.missingArgument "download" "hash")
  | name :: hash :: rest =>
    .ok (.download {
      name := String.ofList name
      hash := String.ofList hash
      peer := String.ofList (rest.head?.getD []) })

/-- The command with this name and these trimmed arguments. -/
def parseCommand (name : String) (args : List Char) : Except InputError Input :=
  match name with
  | "peer" => (firstWord args "peer" "address").map .addPeer
  | "drop" => (firstWord args "drop" "address").map .removePeer
  | "name" => (nonEmpty args "name" "name").map .rename
  | "open" => (firstWord args "open" "peer name").map .openTab
  | "close" => .ok .closeTab
  | "search" => parseSearch args
  | "download" => parseDownload args
  | "upload" => (nonEmpty args "upload" "file path").map .upload
  | "refresh" | "reconnect" => .ok .refresh
  | "help" => .ok .help
  | "quit" | "q" => .ok .quit
  | other => .error (.unknownCommand other)

def parse (line : String) : Except InputError Input :=
  match stripNewlines line.toList with
  | '/' :: '/' :: text => .ok (.send (String.ofList ('/' :: text)))
  | '/' :: body =>
    parseCommand (String.ofList (body.takeWhile (!isBlank ·)))
      (trim (body.dropWhile (!isBlank ·)))
  | text => .ok (.send (String.ofList text))

/-! ## Blank lines -/

theorem parse_of_allBlank {line : String} (h : allBlank line = true) :
    ∃ text, allBlank text = true ∧ parse line = .ok (.send text) := by
  have hblank : ∀ c ∈ stripNewlines line.toList, isBlank c = true := by
    intro c hc
    have hmem : c ∈ line.toList.reverse :=
      (List.dropWhile_sublist _).subset (List.mem_reverse.1 hc)
    exact List.all_eq_true.1 h c (List.mem_reverse.1 hmem)
  have hslash : '/' ∉ stripNewlines line.toList := fun hmem =>
    absurd (hblank _ hmem) (by decide)
  unfold parse
  split
  · rename_i text heq
    exact absurd (heq ▸ List.mem_cons_self) hslash
  · rename_i body _ heq
    exact absurd (heq ▸ List.mem_cons_self) hslash
  · refine ⟨_, ?_, rfl⟩
    rw [allBlank, String.toList_ofList, List.all_eq_true]
    exact hblank

/-! ## Lines that are text -/

/-- The line begins with no slash, or with two. -/
def isText (line : String) : Bool :=
  match line.toList with
  | '/' :: '/' :: _ => true
  | '/' :: _ => false
  | _ => true

theorem stripNewlines_slash (cs : List Char) :
    stripNewlines ('/' :: cs) = '/' :: stripNewlines cs := by
  unfold stripNewlines
  rw [List.reverse_cons, List.dropWhile_append]
  split
  · rename_i hempty
    rw [List.isEmpty_iff.1 hempty]
    rfl
  · rw [List.reverse_append]
    rfl

theorem stripNewlines_isPrefix (cs : List Char) : (stripNewlines cs).IsPrefix cs := by
  rw [← List.reverse_suffix, stripNewlines, List.reverse_reverse]
  exact List.dropWhile_suffix _

theorem parseSearch_ne_send (args : List Char) (text : String) :
    parseSearch args ≠ .ok (.send text) := by
  unfold parseSearch
  split
  · simp
  · simp
  · split <;> simp
  · simp

theorem parseDownload_ne_send (args : List Char) (text : String) :
    parseDownload args ≠ .ok (.send text) := by
  unfold parseDownload
  split <;> simp

theorem map_ne_send {f : String → Input} (hf : ∀ w text, f w ≠ .send text)
    (r : Except InputError String) (text : String) : r.map f ≠ .ok (.send text) := by
  cases r with
  | error e => simp [Except.map]
  | ok w => simp [Except.map, hf]

theorem parseCommand_ne_send (name : String) (args : List Char) (text : String) :
    parseCommand name args ≠ .ok (.send text) := by
  unfold parseCommand
  split
  case h_6 => exact parseSearch_ne_send args text
  case h_7 => exact parseDownload_ne_send args text
  all_goals first | exact map_ne_send (by simp) _ _ | simp

theorem parse_eq_send_iff {line : String} :
    (∃ text, parse line = .ok (.send text)) ↔ isText line = true := by
  have hprefix := stripNewlines_isPrefix line.toList
  unfold parse
  split
  · rename_i text hstrip
    obtain ⟨rest, hline⟩ := hstrip ▸ hprefix
    simp [isText, ← hline]
  · rename_i body hone hstrip
    have hcommand : isText line = false := by
      obtain ⟨rest, hline⟩ := hstrip ▸ hprefix
      have hnot : ∀ cs, line.toList ≠ '/' :: '/' :: cs := by
        intro cs hl
        rw [hl, stripNewlines_slash, stripNewlines_slash] at hstrip
        exact hone _ (List.cons.inj hstrip).2.symm
      unfold isText
      split
      · rename_i cs hl
        exact absurd hl (hnot cs)
      · rfl
      · rename_i hslash
        exact absurd hline.symm (hslash _)
    simp [hcommand, parseCommand_ne_send]
  · rename_i hone hstrip
    have htext : isText line = true := by
      unfold isText
      split
      · rfl
      · rename_i cs _ hl
        exact absurd (by rw [hl, stripNewlines_slash]) (hstrip (stripNewlines cs))
      · rfl
    simp [htext]

end Input

end GossipPanel.Panel
