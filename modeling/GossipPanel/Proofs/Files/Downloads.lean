import GossipPanel.Proofs.Files.Paths
import GossipPanel.Work.Station

/-!
# What a download does to the files

The name of a downloaded file comes from the node. Whatever it is, the download makes the
directories on the way to its own directory, and it writes one file right below that directory.

* `Files.save_cases`: saving under a name without separators that is no dots.
* `download_of_refused`: a name that cannot be used ends the download before a file is touched.
* `download_cases`: what any download does to the files.
* `download_stays_below_directory`: which names are used, and where they lead.
-/

namespace GossipPanel.Work

open Node Panel Text Station

variable {node : Answers} {files : Files} {request : DownloadRequest} {directory n text : String}

/-- The files after the directory has been made, as far as this was possible. -/
def Files.madeFor (files : Files) (directory : String) : Files :=
  (files.makeAll (pathsAbove directory)).2

/-- What becomes of a download when it is the only job: its report, and the files after it. -/
def download (node : Answers) (files : Files) (request : DownloadRequest) (directory : String) :
    Report × Files :=
  let (started, parts) := startJobs node [.run (.download request directory)]
  let (ended, files) := finishParts node files parts
  (started ++ ended, files)

namespace Files

theorem write_joinPath_cases (hwhole : '/' ∉ n.toList) (hn : IsNormal n) (files : Files)
    (directory text : String) :
    (∃ e, files.write (joinPath directory n) text = .error e) ∨
      ∃ above, files.resolve directory = .ok above ∧ files.find? above = some .directory ∧
        files.write (joinPath directory n) text = .ok (files.put (above ++ [n]) (.file text)) := by
  rw [write]
  cases hresolve : files.resolve (joinPath directory n) with
  | error e => exact .inl ⟨e, rfl⟩
  | ok place =>
    obtain ⟨above, habove, hfind, rfl⟩ := resolve_joinPath hwhole hn hresolve
    simp only [bind, Except.bind]
    split
    · exact .inl ⟨_, rfl⟩
    · exact .inr ⟨above, habove, hfind, rfl⟩

theorem save_cases (hwhole : '/' ∉ n.toList) (hn : IsNormal n) (files : Files)
    (directory text : String) :
    (∃ e, files.save directory n text = (.error e, files.madeFor directory)) ∨
      ∃ above, (files.madeFor directory).resolve directory = .ok above ∧
        (files.madeFor directory).find? above = some .directory ∧
        files.save directory n text =
          (.ok (), (files.madeFor directory).put (above ++ [n]) (.file text)) := by
  rw [save, madeFor]
  obtain ⟨result, made⟩ := files.makeAll (pathsAbove directory)
  cases result with
  | error e => exact .inl ⟨e, rfl⟩
  | ok done =>
    obtain ⟨e, hwrite⟩ | ⟨above, habove, hfind, hwrite⟩ :=
      write_joinPath_cases hwhole hn made directory text
    · exact .inl ⟨e, by simp only [hwrite]⟩
    · exact .inr ⟨above, habove, hfind, by simp only [hwrite]⟩

end Files

theorem download_eq (node : Answers) (files : Files) (request : DownloadRequest)
    (directory : String) :
    download node files request directory =
      match startCommand node (.download request directory) with
      | (report, none) => (report, files)
      | (report, some part) =>
        (report ++ (part.finish node files).1, (part.finish node files).2) := by
  rw [download]
  simp only [startJobs, Job.start, List.foldl_cons, List.foldl_nil, Report.empty_append,
    List.nil_append]
  obtain ⟨report, part⟩ := startCommand node (.download request directory)
  cases part with
  | none => simp [finishParts]
  | some part => simp [finishParts]

theorem download_of_error {e : Failure} (h : node.download = .error e) :
    download node files request directory =
      (⟨[.download request], [finished (.download request directory) (.error e)]⟩, files) := by
  rw [download_eq, startCommand, h]

theorem download_of_refused (h : node.download = .ok text)
    (hname : safeFileName? request.name = none) :
    download node files request directory =
      (⟨[.download request], [finished (.download request directory)
        (.error (.file s!"refusing to save file named {Quoted.quote request.name}"))]⟩, files) := by
  simp only [download_eq, startCommand, h, hname]

theorem download_of_saved (h : node.download = .ok text)
    (hname : safeFileName? request.name = some n) :
    (download node files request directory).2 = (files.save directory n text).2 := by
  simp only [download_eq, startCommand, h, hname, FilePart.finish]

theorem download_cases (node : Answers) (files : Files) (request : DownloadRequest)
    (directory : String) :
    let after := (download node files request directory).2
    after = files ∨ after = files.madeFor directory ∨
      ∃ n above text, safeFileName? request.name = some n ∧ node.download = .ok text ∧
        (files.madeFor directory).resolve directory = .ok above ∧
        (files.madeFor directory).find? above = some .directory ∧
        after = (files.madeFor directory).put (above ++ [n]) (.file text) := by
  intro after
  cases hdownload : node.download with
  | error e => exact .inl (congrArg Prod.snd (download_of_error hdownload))
  | ok text =>
    cases hname : safeFileName? request.name with
    | none => exact .inl (congrArg Prod.snd (download_of_refused hdownload hname))
    | some n =>
      have hafter : after = (files.save directory n text).2 := download_of_saved hdownload hname
      obtain ⟨hwhole, hn⟩ := isNormal_of_safeFileName? hname
      obtain ⟨e, hsave⟩ | ⟨above, habove, hfind, hsave⟩ :=
        files.save_cases hwhole hn directory text
      · exact .inr (.inl (by rw [hafter, hsave]))
      · exact .inr (.inr ⟨n, above, text, rfl, rfl, habove, hfind, by rw [hafter, hsave]⟩)

/-- **A download stays below its directory**, whatever name the node gives its file:

* the file is saved under the last component of the name that is neither empty nor a single dot;
  it is no path and no dots, and a name that is such a component already stays as it is;
* below any directory, this component is one more name on the way to the directory, and in every
  tree of files it leads right below the place of the directory, if it leads anywhere;
* there is no such component exactly when the last one leads up or none names a file; the download
  then fails, and the files stay as they are;
* whatever becomes of the download, all it does is to make the directories on the way to its own,
  for which the name does not matter, and to write one file right below. -/
theorem download_stays_below_directory (name : String) :
    (∀ n, safeFileName? name = some n ↔ IsLastComponent name n ∧ n ≠ "..") ∧
      (∀ n, safeFileName? name = some n →
        n ≠ "" ∧ '/' ∉ n.toList ∧ n ≠ "." ∧ n ≠ ".." ∧ safeFileName? n = some n ∧
        ∀ directory, isAbsolute (joinPath directory n) = isAbsolute directory ∧
          leadingNames (joinPath directory n) = leadingNames directory ++ [n] ∧
          ∀ (files : Files) (place : Place), files.resolve (joinPath directory n) = .ok place →
            ∃ above, files.resolve directory = .ok above ∧
              files.find? above = some .directory ∧ place = above ++ [n]) ∧
      ('/' ∉ name.toList → IsNormal name → safeFileName? name = some name) ∧
      (safeFileName? name = none ↔
        IsLastComponent name ".." ∨ ∀ part, IsComponent name part → ¬IsNormal part) ∧
      ∀ (node : Answers) (files : Files) (request : DownloadRequest) (directory : String),
        request.name = name →
        let done := download node files request directory
        let made := (files.makeAll (pathsAbove directory)).2
        (safeFileName? name = none → done.2 = files ∧
          ∃ e, done.1.actions = [finished (.download request directory) (.error e)] ∧
            ∀ text, node.download = .ok text →
              e = .file s!"refusing to save file named {Quoted.quote name}") ∧
        (done.2 = files ∨ done.2 = made ∨
          ∃ n above text, safeFileName? name = some n ∧ node.download = .ok text ∧
            made.resolve directory = .ok above ∧ made.find? above = some .directory ∧
            done.2 = made.put (above ++ [n]) (.file text)) := by
  refine ⟨fun n => safeFileName?_eq_some_iff, fun n hname => ?_, safeFileName?_of_isNormal,
    safeFileName?_eq_none_iff, ?_⟩
  · obtain ⟨hwhole, hn⟩ := isNormal_of_safeFileName? hname
    refine ⟨hn.1, hwhole, hn.2.1, hn.2.2, safeFileName?_of_isNormal hwhole hn,
      fun directory => ⟨isAbsolute_joinPath hwhole directory,
        leadingNames_joinPath hwhole hn directory, fun files place => ?_⟩⟩
    exact Files.resolve_joinPath hwhole hn
  · rintro node files request directory rfl done made
    refine ⟨fun hname => ?_, download_cases node files request directory⟩
    cases hdownload : node.download with
    | error e =>
      have hdone : done = _ := download_of_error hdownload
      exact ⟨by rw [hdone], e, by rw [hdone], nofun⟩
    | ok text =>
      have hdone : done = _ := download_of_refused hdownload hname
      exact ⟨by rw [hdone], _, by rw [hdone], fun _ _ => rfl⟩

end GossipPanel.Work
