import GossipPanel.Panel.InputLine
import GossipPanel.Proofs.InputLine.Words

/-!
# The grammar of the input line

Which line asks for what is said as a grammar: a line is a message or a command with its
arguments, and every line that is neither is refused for one reason.

* `Input.Means`: a command's name and the text behind it that mean an input;
  `InputError.Faults`: those that mean nothing, with the reason.
* `Input.Spells`, `InputError.Refuses`: the same of a line.
* `means_or_faults`: the grammar leaves nothing out; `parseCommand_of_means` and
  `parseCommand_of_faults`: the reader of commands finds what the grammar says.
* `line_read_as_grammar_says`: a line is read as an input iff it spells it, and refused for a
  reason iff the grammar refuses it for this reason.
-/

namespace GossipPanel.Panel

open Node Text

/-- What a command cannot do without, in its order. -/
def requiredArguments : String → List String
  | "peer" | "drop" => ["address"]
  | "name" => ["name"]
  | "open" => ["peer name"]
  | "search" => ["keyword list"]
  | "download" => ["file name", "hash"]
  | "upload" => ["file path"]
  | _ => []

def commandNames : List String :=
  ["peer", "drop", "name", "open", "close", "search", "download", "upload", "refresh", "reconnect",
    "help", "quit", "q"]

/-- The command `name` with the text `tail` behind its name means an input. -/
inductive Input.Means : String → List Char → Input → Prop
  | addPeer {address : String} {more : List (List Char)} {tail : List Char}
      (h : Arguments (address.toList :: more) tail) : Means "peer" tail (.addPeer address)
  | removePeer {address : String} {more : List (List Char)} {tail : List Char}
      (h : Arguments (address.toList :: more) tail) : Means "drop" tail (.removePeer address)
  | rename {name : String} {tail : List Char} (h : WholeArgument name.toList tail) :
      Means "name" tail (.rename name)
  | openTab {peer : String} {more : List (List Char)} {tail : List Char}
      (h : Arguments (peer.toList :: more) tail) : Means "open" tail (.openTab peer)
  | closeTab {tail : List Char} (h : Parted tail) : Means "close" tail .closeTab
  | search {keywords : String} {tail : List Char} (h : Arguments [keywords.toList] tail) :
      Means "search" tail (.search keywords none)
  | searchWithin {keywords : String} {numeral tail : List Char} {budget : UInt32}
      (h : Arguments [keywords.toList, numeral] tail) (hbudget : IsNumeral numeral budget.toNat) :
      Means "search" tail (.search keywords (some budget))
  | download {name hash : String} {tail : List Char}
      (h : Arguments [name.toList, hash.toList] tail) :
      Means "download" tail (.download { name, hash, peer := "" })
  | downloadFrom {name hash peer : String} {more : List (List Char)} {tail : List Char}
      (h : Arguments (name.toList :: hash.toList :: peer.toList :: more) tail) :
      Means "download" tail (.download { name, hash, peer })
  | upload {path : String} {tail : List Char} (h : WholeArgument path.toList tail) :
      Means "upload" tail (.upload path)
  | refresh {name : String} {tail : List Char} (hname : name ∈ ["refresh", "reconnect"])
      (h : Parted tail) : Means name tail .refresh
  | help {tail : List Char} (h : Parted tail) : Means "help" tail .help
  | quit {name : String} {tail : List Char} (hname : name ∈ ["quit", "q"]) (h : Parted tail) :
      Means name tail .quit

/-- The command `name` with the text `tail` behind its name means nothing, for a reason. -/
inductive InputError.Faults : String → List Char → InputError → Prop
  /-- There are fewer words than the command needs; the first that is missing is named. -/
  | missing {name argument : String} {ws : List (List Char)} {tail : List Char}
      (h : Arguments ws tail) (hargument : (requiredArguments name)[ws.length]? = some argument) :
      Faults name tail (.missingArgument name argument)
  /-- Something stands behind the keywords that is not one numeral. -/
  | budget {gap keywords rest : List Char} {raw : String} (hgap : IsGap gap)
      (hkeywords : IsWord keywords) (hraw : WholeArgument raw.toList rest)
      (hbudget : ∀ budget : UInt32, ¬IsNumeral raw.toList budget.toNat) :
      Faults "search" (gap ++ keywords ++ rest) (.invalidBudget raw)
  | unknown {name : String} {tail : List Char} (hname : name ∉ commandNames) (h : Parted tail) :
      Faults name tail (.unknownCommand name)

/-- A line without its end means an input: a message is written as it is, behind a slash if it
begins with one, and a command behind a slash. -/
inductive Input.Spells : Input → List Char → Prop
  | plain {text : String} (h : text.toList.head? ≠ some '/') : Spells (.send text) text.toList
  | slashed {text : String} (h : text.toList.head? = some '/') :
      Spells (.send text) ('/' :: text.toList)
  | command {name : String} {tail : List Char} {input : Input} (h : Means name tail input) :
      Spells input ('/' :: (name.toList ++ tail))

/-- A line without its end is a command that means nothing, for a reason. -/
inductive InputError.Refuses : InputError → List Char → Prop
  | mk {name : String} {tail : List Char} {e : InputError}
      (hname : ∀ c ∈ name.toList, isBlank c = false) (hslash : name.toList.head? ≠ some '/')
      (h : Faults name tail e) : Refuses e ('/' :: (name.toList ++ tail))

/-! ## Commands -/

namespace Input

variable {name : String} {tail : List Char}

theorem firstWord_trim {word : String} {more : List (List Char)}
    (h : Arguments (word.toList :: more) tail) (command argument : String) :
    firstWord (trim tail) command argument = .ok word := by
  rw [firstWord, words_trim, h.words_eq]
  exact congrArg Except.ok String.ofList_toList

theorem firstWord_trim_of_none (h : Arguments [] tail) (command argument : String) :
    firstWord (trim tail) command argument = .error (.missingArgument command argument) := by
  rw [firstWord, words_trim, h.words_eq]

theorem nonEmpty_trim {whole : String} (h : WholeArgument whole.toList tail)
    (command argument : String) : nonEmpty (trim tail) command argument = .ok whole := by
  obtain ⟨-, hne, htrim⟩ := wholeArgument_iff.1 h
  rw [nonEmpty, htrim, if_neg (by simpa using hne), String.ofList_toList]

theorem nonEmpty_trim_of_none (h : Arguments [] tail) (command argument : String) :
    nonEmpty (trim tail) command argument = .error (.missingArgument command argument) := by
  rw [nonEmpty, h.trim_eq_nil]
  rfl

theorem parseSearch_trim {keywords : String} (h : Arguments [keywords.toList] tail) :
    parseSearch (trim tail) = .ok (.search keywords none) := by
  rw [parseSearch, words_trim, h.words_eq]
  simp only [String.ofList_toList]

theorem parseSearch_trim_numeral {keywords : String} {numeral : List Char} {budget : UInt32}
    (h : Arguments [keywords.toList, numeral] tail) (hbudget : IsNumeral numeral budget.toNat) :
    parseSearch (trim tail) = .ok (.search keywords (some budget)) := by
  have hread : readUInt32? (String.ofList numeral) = some budget :=
    readUInt32?_eq_some_iff.2 (by rwa [String.toList_ofList])
  rw [parseSearch, words_trim, h.words_eq]
  simp only [hread, String.ofList_toList]

theorem parseSearch_trim_of_not_numeral {gap keywords rest : List Char} {raw : String}
    (hgap : IsGap gap) (hkeywords : IsWord keywords) (hraw : WholeArgument raw.toList rest)
    (hbudget : ∀ budget : UInt32, ¬IsNumeral raw.toList budget.toNat) :
    parseSearch (trim (gap ++ keywords ++ rest)) = .error (.invalidBudget raw) := by
  have hunread : readUInt32? raw = none :=
    Option.eq_none_iff_forall_ne_some.2 fun budget h =>
      hbudget budget (readUInt32?_eq_some_iff.1 h)
  obtain @⟨gap', after, hgap', hwhole, hafter⟩ := hraw
  have htight : IsTight (keywords ++ (gap' ++ raw.toList)) := by
    refine ⟨by simp [hkeywords.1], ?_, ?_⟩
    · simpa [List.head?_append_of_ne_nil _ hkeywords.1] using hkeywords.isTight.2.1
    · rw [← List.append_assoc, List.getLast?_append_of_ne_nil _ hwhole.1]
      exact hwhole.2.2
  have hargs : trim (gap ++ keywords ++ (gap' ++ raw.toList ++ after)) =
      keywords ++ (gap' ++ raw.toList) := by
    simpa using trim_of_enclosed hgap.2 htight hafter
  have hbehind : trim (gap' ++ raw.toList) = raw.toList := by
    simpa using trim_of_enclosed hgap'.2 hwhole (by simp [IsBlanks] : IsBlanks [])
  have hwords : words (keywords ++ (gap' ++ raw.toList)) = keywords :: words raw.toList := by
    rw [words_word_append hkeywords (hgap'.parted_append _), words_append_of_isBlanks hgap'.2]
  rw [parseSearch, hargs, hwords]
  obtain hone | ⟨w, v, ws, hmore⟩ := hwhole.words_eq_or
  · simp only [hone, String.ofList_toList, hunread]
  · simp only [hmore, List.drop_left, hbehind, String.ofList_toList]

theorem parseDownload_trim {name hash : String} {more : List (List Char)}
    (h : Arguments (name.toList :: hash.toList :: more) tail) :
    parseDownload (trim tail) =
      .ok (.download { name, hash, peer := String.ofList (more.head?.getD []) }) := by
  rw [parseDownload, words_trim, h.words_eq]
  simp only [String.ofList_toList]

theorem parseCommand_of_means {input : Input} (h : Means name tail input) :
    parseCommand name (trim tail) = .ok input := by
  cases h with
  | addPeer h => simp only [parseCommand, firstWord_trim h, Except.map]
  | removePeer h => simp only [parseCommand, firstWord_trim h, Except.map]
  | rename h => simp only [parseCommand, nonEmpty_trim h, Except.map]
  | openTab h => simp only [parseCommand, firstWord_trim h, Except.map]
  | closeTab h => rfl
  | search h => exact parseSearch_trim h
  | searchWithin h hbudget => exact parseSearch_trim_numeral h hbudget
  | download h => exact parseDownload_trim h
  | downloadFrom h =>
    have hread := parseDownload_trim h
    rwa [List.head?_cons, Option.getD_some, String.ofList_toList] at hread
  | upload h => simp only [parseCommand, nonEmpty_trim h, Except.map]
  | refresh hname h =>
    simp only [List.mem_cons, List.not_mem_nil, or_false] at hname
    rcases hname with rfl | rfl <;> rfl
  | help h => rfl
  | quit hname h =>
    simp only [List.mem_cons, List.not_mem_nil, or_false] at hname
    rcases hname with rfl | rfl <;> rfl

theorem parseDownload_trim_of_none (h : Arguments [] tail) :
    parseDownload (trim tail) = .error (.missingArgument "download" "file name") := by
  rw [parseDownload, words_trim, h.words_eq]

theorem parseDownload_trim_of_one {word : List Char} (h : Arguments [word] tail) :
    parseDownload (trim tail) = .error (.missingArgument "download" "hash") := by
  rw [parseDownload, words_trim, h.words_eq]

theorem parseSearch_trim_of_none (h : Arguments [] tail) :
    parseSearch (trim tail) = .error (.missingArgument "search" "keyword list") := by
  rw [parseSearch, words_trim, h.words_eq]

theorem parseCommand_of_unknown (hname : name ∉ commandNames) (args : List Char) :
    parseCommand name args = .error (.unknownCommand name) := by
  unfold parseCommand
  split <;> simp [commandNames] at hname ⊢

theorem parseCommand_of_faults {e : InputError} (h : InputError.Faults name tail e) :
    parseCommand name (trim tail) = .error e := by
  cases h with
  | budget hgap hkeywords hraw hbudget =>
    exact parseSearch_trim_of_not_numeral hgap hkeywords hraw hbudget
  | unknown hname h => exact parseCommand_of_unknown hname _
  | @missing _ argument ws _ h hargument =>
    unfold requiredArguments at hargument
    have hfirst : ∀ {only : String}, [only][ws.length]? = some argument →
        only = argument ∧ Arguments [] tail := by
      intro only honly
      obtain ⟨hlength, hargument⟩ := List.getElem?_eq_some_iff.1 honly
      obtain rfl : ws = [] := List.length_eq_zero_iff.1 (Nat.lt_one_iff.1 hlength)
      exact ⟨hargument, h⟩
    split at hargument
    · obtain ⟨rfl, hnone⟩ := hfirst hargument
      simp only [parseCommand, firstWord_trim_of_none hnone, Except.map]
    · obtain ⟨rfl, hnone⟩ := hfirst hargument
      simp only [parseCommand, firstWord_trim_of_none hnone, Except.map]
    · obtain ⟨rfl, hnone⟩ := hfirst hargument
      simp only [parseCommand, nonEmpty_trim_of_none hnone, Except.map]
    · obtain ⟨rfl, hnone⟩ := hfirst hargument
      simp only [parseCommand, firstWord_trim_of_none hnone, Except.map]
    · obtain ⟨rfl, hnone⟩ := hfirst hargument
      exact parseSearch_trim_of_none hnone
    · match ws, h with
      | [], h =>
        obtain rfl := Option.some.inj hargument
        exact parseDownload_trim_of_none h
      | [word], h =>
        obtain rfl := Option.some.inj hargument
        exact parseDownload_trim_of_one h
      | _ :: _ :: _, _ => simp at hargument
    · obtain ⟨rfl, hnone⟩ := hfirst hargument
      simp only [parseCommand, nonEmpty_trim_of_none hnone, Except.map]
    · simp at hargument

/-! ## The grammar leaves nothing out -/

theorem exists_word (h : Parted tail) :
    Arguments [] tail ∨ ∃ (word : String) (more : List (List Char)),
      Arguments (word.toList :: more) tail := by
  have harguments := arguments_iff.2 ⟨h, rfl⟩
  cases hwords : words tail with
  | nil => exact .inl (hwords ▸ harguments)
  | cons word more =>
    rw [hwords] at harguments
    exact .inr ⟨String.ofList word, more, by rwa [String.toList_ofList]⟩

theorem exists_whole (h : Parted tail) :
    Arguments [] tail ∨ ∃ whole : String, WholeArgument whole.toList tail := by
  by_cases htrim : trim tail = []
  · have hwords : words tail = [] := by rw [← words_trim, htrim, words]
    exact .inl (arguments_iff.2 ⟨h, hwords⟩)
  · refine .inr ⟨String.ofList (trim tail), ?_⟩
    rw [String.toList_ofList]
    exact wholeArgument_iff.2 ⟨h, htrim, rfl⟩

theorem isWord_of_isNumeral {cs : List Char} {n : Nat} (h : IsNumeral cs n) : IsWord cs := by
  obtain ⟨digits, hcs, hne, hdigits, -⟩ := h
  have hword : IsWord digits := by
    refine ⟨hne, fun c hc => ?_⟩
    obtain ⟨hlow, hhigh⟩ := hdigits c hc
    have hlow : 48 ≤ c.toNat := hlow
    have hhigh : c.toNat ≤ 57 := hhigh
    simp [isBlank]
    omega
  obtain rfl | rfl := hcs
  · exact hword
  · exact ⟨by simp, List.forall_mem_cons.2 ⟨by decide, hword.2⟩⟩

theorem search_means_or_faults (h : Parted tail) :
    (∃ input, Means "search" tail input) ∨ ∃ e, InputError.Faults "search" tail e := by
  obtain hnone | ⟨keywords, more, hsome⟩ := exists_word h
  · exact .inr ⟨_, .missing hnone rfl⟩
  · cases more with
    | nil => exact .inl ⟨_, .search hsome⟩
    | cons word more =>
      cases hsome with
      | @next gap _ rest _ hgap hkeywords hrest =>
        obtain hnone | ⟨raw, hraw⟩ := exists_whole hrest.parted
        · exact absurd (hrest.words_eq.symm.trans hnone.words_eq) (List.cons_ne_nil word more)
        · by_cases hbudget : ∃ budget : UInt32, IsNumeral raw.toList budget.toNat
          · obtain ⟨budget, hbudget⟩ := hbudget
            have hnumeral : Arguments [raw.toList] rest := by
              obtain ⟨hgap', -, hafter⟩ := hraw
              exact .next hgap' (isWord_of_isNumeral hbudget) (.none hafter)
            exact .inl ⟨_, .searchWithin (.next hgap hkeywords hnumeral) hbudget⟩
          · exact .inr ⟨_, .budget hgap hkeywords hraw fun budget hb => hbudget ⟨budget, hb⟩⟩

theorem download_means_or_faults (h : Parted tail) :
    (∃ input, Means "download" tail input) ∨ ∃ e, InputError.Faults "download" tail e := by
  have harguments := arguments_iff.2 ⟨h, rfl⟩
  match hwords : words tail, harguments with
  | [], h => exact .inr ⟨_, .missing h rfl⟩
  | [_], h => exact .inr ⟨_, .missing h rfl⟩
  | [name, hash], h =>
    exact .inl ⟨_, @Means.download (.ofList name) (.ofList hash) tail (by simpa)⟩
  | name :: hash :: peer :: more, h =>
    exact .inl ⟨_, @Means.downloadFrom (.ofList name) (.ofList hash) (.ofList peer) more tail
      (by simpa)⟩

theorem means_or_faults (name : String) (h : Parted tail) :
    (∃ input, Means name tail input) ∨ ∃ e, InputError.Faults name tail e := by
  by_cases hname : name ∈ commandNames
  · simp only [commandNames, List.mem_cons, List.not_mem_nil, or_false] at hname
    have hword := exists_word h
    have hwhole := exists_whole h
    rcases hname with rfl | rfl | rfl | rfl | rfl | rfl | rfl | rfl | rfl | rfl | rfl | rfl | rfl
    · exact hword.symm.imp (fun ⟨_, _, h⟩ => ⟨_, .addPeer h⟩) fun h => ⟨_, .missing h rfl⟩
    · exact hword.symm.imp (fun ⟨_, _, h⟩ => ⟨_, .removePeer h⟩) fun h => ⟨_, .missing h rfl⟩
    · exact hwhole.symm.imp (fun ⟨_, h⟩ => ⟨_, .rename h⟩) fun h => ⟨_, .missing h rfl⟩
    · exact hword.symm.imp (fun ⟨_, _, h⟩ => ⟨_, .openTab h⟩) fun h => ⟨_, .missing h rfl⟩
    · exact .inl ⟨_, .closeTab h⟩
    · exact search_means_or_faults h
    · exact download_means_or_faults h
    · exact hwhole.symm.imp (fun ⟨_, h⟩ => ⟨_, .upload h⟩) fun h => ⟨_, .missing h rfl⟩
    · exact .inl ⟨_, .refresh (by simp) h⟩
    · exact .inl ⟨_, .refresh (by simp) h⟩
    · exact .inl ⟨_, .help h⟩
    · exact .inl ⟨_, .quit (by simp) h⟩
    · exact .inl ⟨_, .quit (by simp) h⟩
  · exact .inr ⟨_, .unknown hname h⟩

/-! ## Lines -/

variable {line : String}

theorem parse_of_command (hname : ∀ c ∈ name.toList, isBlank c = false)
    (hslash : name.toList.head? ≠ some '/') (htail : Parted tail)
    (hline : stripNewlines line.toList = '/' :: (name.toList ++ tail)) :
    parse line = parseCommand name (trim tail) := by
  have hletters : ∀ c ∈ name.toList, (!isBlank c) = true := by simpa using hname
  have htake : (name.toList ++ tail).takeWhile (!isBlank ·) = name.toList := by
    rw [List.takeWhile_append_of_pos hletters]
    cases tail with
    | nil => simp
    | cons c tail => simp [htail c rfl]
  have hdrop : (name.toList ++ tail).dropWhile (!isBlank ·) = tail := by
    rw [List.dropWhile_append_of_pos hletters]
    cases tail with
    | nil => rfl
    | cons c tail => simp [htail c rfl]
  unfold parse
  rw [hline]
  split
  · rename_i text htwo
    have hhead : (name.toList ++ tail).head? = some '/' := by
      rw [(List.cons.inj htwo).2]
      rfl
    cases hlist : name.toList with
    | nil =>
      rw [hlist, List.nil_append] at hhead
      exact absurd (htail '/' hhead) (by decide)
    | cons c cs =>
      rw [hlist] at hhead hslash
      exact absurd hhead hslash
  · rename_i body _ hbody
    rw [← (List.cons.inj hbody).2, htake, hdrop, String.ofList_toList]
  · rename_i _ hno
    exact absurd rfl (hno _)

theorem isBlank_of_mem_commandNames (hname : name ∈ commandNames) :
    (∀ c ∈ name.toList, isBlank c = false) ∧ name.toList.head? ≠ some '/' := by
  have hletters : commandNames.all (fun name => name.toList.all (!isBlank ·)) = true := by decide
  have hslashes : commandNames.all (·.toList.head? != some '/') = true := by decide
  refine ⟨fun c hc => ?_, ?_⟩
  · simpa using List.all_eq_true.1 (List.all_eq_true.1 hletters name hname) c hc
  · simpa using List.all_eq_true.1 hslashes name hname

theorem Means.mem_commandNames {input : Input} (h : Means name tail input) :
    name ∈ commandNames := by
  cases h with
  | refresh hname h =>
    simp only [List.mem_cons, List.not_mem_nil, or_false] at hname
    rcases hname with rfl | rfl <;> decide
  | quit hname h =>
    simp only [List.mem_cons, List.not_mem_nil, or_false] at hname
    rcases hname with rfl | rfl <;> decide
  | _ => decide

theorem Means.parted {input : Input} (h : Means name tail input) : Parted tail := by
  cases h with
  | addPeer h | removePeer h | openTab h | search h | searchWithin h _ | download h
  | downloadFrom h => exact h.parted
  | rename h | upload h => exact h.parted
  | closeTab h | refresh _ h | help h | quit _ h => exact h

end Input

theorem InputError.Faults.parted {name : String} {tail : List Char} {e : InputError}
    (h : Faults name tail e) : Parted tail := by
  cases h with
  | missing h _ => exact h.parted
  | budget hgap _ _ _ =>
    rw [List.append_assoc]
    exact hgap.parted_append _
  | unknown _ h => exact h

namespace Input

variable {name : String} {tail : List Char} {line : String}

theorem parse_of_spells {input : Input} (h : Spells input (stripNewlines line.toList)) :
    parse line = .ok input := by
  generalize hline : stripNewlines line.toList = l at h
  cases h with
  | @plain text h =>
    unfold parse
    rw [hline]
    split
    · rename_i htext
      exact absurd (by rw [htext]; rfl) h
    · rename_i htext
      exact absurd (by rw [htext]; rfl) h
    · rw [String.ofList_toList]
  | @slashed text h =>
    obtain ⟨rest, htext⟩ := List.head?_eq_some_iff.1 h
    unfold parse
    rw [hline, htext]
    exact congrArg (fun text => Except.ok (send text)) (by rw [← htext, String.ofList_toList])
  | command h =>
    obtain ⟨hname, hslash⟩ := isBlank_of_mem_commandNames h.mem_commandNames
    rw [parse_of_command hname hslash h.parted hline, parseCommand_of_means h]

theorem parse_of_refuses {e : InputError}
    (h : InputError.Refuses e (stripNewlines line.toList)) : parse line = .error e := by
  generalize hline : stripNewlines line.toList = l at h
  obtain ⟨hname, hslash, h⟩ := h
  rw [parse_of_command hname hslash h.parted hline, parseCommand_of_faults h]

theorem spells_or_refuses (l : List Char) :
    (∃ input, Spells input l) ∨ ∃ e, InputError.Refuses e l := by
  by_cases hslash : l.head? = some '/'
  · obtain ⟨body, rfl⟩ := List.head?_eq_some_iff.1 hslash
    by_cases htwo : body.head? = some '/'
    · have hspells := @Spells.slashed (.ofList body) (by rwa [String.toList_ofList])
      rw [String.toList_ofList] at hspells
      exact .inl ⟨_, hspells⟩
    · have hname : ∀ c ∈ body.takeWhile (!isBlank ·), isBlank c = false := by
        intro c hc
        simpa using List.mem_takeWhile_imp hc
      have htail : Parted (body.dropWhile (!isBlank ·)) := by
        intro c hc
        have hhead := List.head?_dropWhile_not (!isBlank ·) body
        rw [Option.mem_def.1 hc] at hhead
        simpa using hhead
      have hhead : (body.takeWhile (!isBlank ·)).head? ≠ some '/' := by
        rw [List.head?_takeWhile]
        exact fun h => htwo (Option.filter_eq_some_iff.1 h).1
      have hbody := List.takeWhile_append_dropWhile (p := (!isBlank ·)) (l := body)
      rw [← hbody]
      generalize body.takeWhile (!isBlank ·) = start at hname hhead ⊢
      obtain ⟨name, rfl⟩ : ∃ name : String, start = name.toList :=
        ⟨String.ofList start, String.toList_ofList.symm⟩
      obtain ⟨input, hmeans⟩ | ⟨e, hfaults⟩ := means_or_faults name htail
      · exact .inl ⟨input, .command hmeans⟩
      · exact .inr ⟨e, .mk hname hhead hfaults⟩
  · have hspells := @Spells.plain (.ofList l) (by rwa [String.toList_ofList])
    rw [String.toList_ofList] at hspells
    exact .inl ⟨_, hspells⟩

theorem exists_stripNewlines (cs : List Char) :
    ∃ ends, cs = stripNewlines cs ++ ends ∧ (∀ c ∈ ends, c = '\r' ∨ c = '\n') ∧
      ∀ c ∈ (stripNewlines cs).getLast?, c ≠ '\r' ∧ c ≠ '\n' := by
  refine ⟨(cs.reverse.takeWhile fun c => c = '\r' || c = '\n').reverse, ?_, ?_, ?_⟩
  · rw [stripNewlines, ← List.reverse_append, List.takeWhile_append_dropWhile,
      List.reverse_reverse]
  · intro c hc
    simpa using List.mem_takeWhile_imp (List.mem_reverse.1 hc)
  · intro c hc
    rw [stripNewlines, List.getLast?_reverse] at hc
    have hlast := List.head?_dropWhile_not (fun c => c = '\r' || c = '\n') cs.reverse
    rw [Option.mem_def.1 hc] at hlast
    simpa using hlast

end Input

/-- A line is read as its text up to the line feeds and carriage returns at its end spells, and it
is refused for the reason that the grammar gives for this text. -/
theorem line_read_as_grammar_says (line : String) :
    ∃ text ends, line.toList = text ++ ends ∧ (∀ c ∈ ends, c = '\r' ∨ c = '\n') ∧
      (∀ c ∈ text.getLast?, c ≠ '\r' ∧ c ≠ '\n') ∧
      (∀ input, Input.parse line = .ok input ↔ Input.Spells input text) ∧
      ∀ e, Input.parse line = .error e ↔ InputError.Refuses e text := by
  obtain ⟨ends, hline, hends, hlast⟩ := Input.exists_stripNewlines line.toList
  refine ⟨Input.stripNewlines line.toList, ends, hline, hends, hlast, fun input => ?_, fun e => ?_⟩
  · refine ⟨fun h => ?_, Input.parse_of_spells⟩
    obtain ⟨other, hspells⟩ | ⟨e, hrefuses⟩ :=
      Input.spells_or_refuses (Input.stripNewlines line.toList)
    · have hother := Input.parse_of_spells hspells
      rw [h, Except.ok.injEq] at hother
      rwa [hother]
    · exact absurd (h.symm.trans (Input.parse_of_refuses hrefuses)) (by simp)
  · refine ⟨fun h => ?_, Input.parse_of_refuses⟩
    obtain ⟨input, hspells⟩ | ⟨other, hrefuses⟩ :=
      Input.spells_or_refuses (Input.stripNewlines line.toList)
    · exact absurd (h.symm.trans (Input.parse_of_spells hspells)) (by simp)
    · have hother := Input.parse_of_refuses hrefuses
      rw [h, Except.error.injEq] at hother
      rwa [hother]

example : Input.parse "/search report,pdf  four  5 \n" = .error (.invalidBudget "four  5") := by
  decide

end GossipPanel.Panel
