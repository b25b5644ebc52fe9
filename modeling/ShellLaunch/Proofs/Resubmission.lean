import ShellLaunch.Proofs.Capability
import ShellLaunch.Proofs.Extension
import ShellLaunch.Proofs.Path

/-!
# The path of a script file as a command line

The path that is reported for a script file is absolute, so where a slash begins no switch, it
can be given to the host again: it is read as a positional token, and as it is in normal form, it
stands for the same file.
-/

namespace ShellLaunch

variable {platform : Platform} {host : Host} {reading : Reading} {path : FilePath} {token : String}

/-- No dash begins the token, so it spells no switch where a slash begins none. -/
theorem Switch.lookup?_of_isRooted (unix : platform.isWindows = false)
    (h : token = "" ∨ Path.isRooted token.toList = true) :
    Switch.lookup? platform token = none ∧ token ≠ "-" := by
  rcases h with rfl | rooted
  · exact ⟨rfl, by decide⟩
  · obtain ⟨rest, first⟩ := Path.exists_of_isRooted rooted
    have noLead : Switch.afterLead? platform ('/' :: rest) = none := by
      rw [Switch.afterLead?, if_neg (by decide), if_neg (by simp [unix])]
    constructor
    · rw [Switch.lookup?, Switch.key?, first, noLead]
      rfl
    · rintro rfl
      cases first

namespace Host

/-- A script file that is the target was named in the command line and exists. -/
theorem exists_path_of_target (target : reading.target host = .file path)
    (late : host.lateRefusal? reading.ending = none) :
    host.isFile path = true ∧ ∃ named, path = host.absolute named := by
  rcases ending_of_file target with ⟨token, named, args, ending, rfl⟩ | ⟨named, args, ending, rfl⟩
  · refine ⟨?_, named, rfl⟩
    simpa [ending, lateRefusal?] using late
  · refine ⟨?_, named, rfl⟩
    simpa [ending, lateRefusal?] using late

/-- A token that spells no switch and names a file is a command line by itself. -/
theorem resolve_script (unknown : Switch.lookup? host.platform token = none) (notDash : token ≠ "-")
    (isFile : host.isFile (host.absolute token) = true) :
    host.resolve [token] = (Reading.mk [] (.script token [])).config host := by
  have spelled : (Ending.script token []).Spelled host.platform := ⟨unknown, notDash⟩
  have admitted : host.Admits ⟨[], .script token []⟩ := ⟨.nil, spelled, rfl⟩
  have late : host.lateRefusal? (.script token []) = none := if_pos isFile
  exact resolve_of_admits (Reading.splits_of_ending _ spelled) admitted late

/-- The path names an existing file, and if it is text, a command line of the path alone selects
that file. -/
structure Resubmits (host : Host) (path : FilePath) : Prop where
  isFile : host.isFile path = true
  /-- The path is absolute on any machine where the empty path names no file. -/
  rooted : host.isFile "" = false → Path.isRooted path.shown.toList = true
  error : ∀ token ∈ path.text?, (host.resolve [token]).error = none
  scriptTarget : ∀ token ∈ path.text?, (host.resolve [token]).scriptTarget = .file path
  trailingArgs : ∀ token ∈ path.text?, (host.resolve [token]).trailingArgs = []

theorem isNormalized_absolute (clean : Path.IsClean host.machine.workingDirectory.shown)
    (path : String) :
    Path.IsNormalized host.machine.workingDirectory.shown path (host.absolute path).shown := by
  rw [absolute, FilePath.shown_absolute]
  exact Path.isNormalized_absolute clean path

theorem absolute_again (clean : Path.IsClean host.machine.workingDirectory.shown) {path : String}
    (h : host.absolute path = token) : host.absolute token = token :=
  FilePath.absolute_again clean h

/-- In a working directory that is text, every path is. -/
theorem exists_absolute_eq_text {directory : String}
    (h : host.machine.workingDirectory = directory) (path : String) :
    ∃ token : String, host.absolute path = token :=
  ⟨Path.absolute directory path, by rw [absolute, h]; rfl⟩

/-- The path of an existing file is read as a positional token, wherever it is text. -/
theorem resolve_absolute (clean : Path.IsClean host.machine.workingDirectory.shown)
    (unix : host.platform.isWindows = false) {named : String} (h : host.absolute named = token)
    (isFile : host.isFile token = true) :
    host.resolve [token] = (Reading.mk [] (.script token [])).config host := by
  have normal := isNormalized_absolute clean named
  rw [h] at normal
  obtain ⟨unknown, notDash⟩ := Switch.lookup?_of_isRooted unix normal.eq_empty_or_isRooted
  refine resolve_script unknown notDash ?_
  rw [absolute_again clean h]
  exact isFile

theorem resubmits_absolute (clean : Path.IsClean host.machine.workingDirectory.shown)
    (unix : host.platform.isWindows = false) (named : String)
    (isFile : host.isFile (host.absolute named) = true) :
    host.Resubmits (host.absolute named) := by
  have resolved : ∀ token ∈ (host.absolute named).text?, host.absolute named = token ∧
      host.resolve [token] = (Reading.mk [] (.script token [])).config host := by
    intro token isText
    have named_eq := FilePath.eq_of_text? isText
    exact ⟨named_eq, resolve_absolute clean unix named_eq (named_eq ▸ isFile)⟩
  refine ⟨isFile, ?rooted, ?error, ?scriptTarget, ?trailingArgs⟩
  case rooted =>
    intro noFile
    by_cases empty : named = ""
    · rw [empty, absolute, FilePath.absolute_empty, noFile] at isFile
      cases isFile
    · exact (isNormalized_absolute clean named).rooted empty
  case error =>
    intro token isText
    rw [(resolved token isText).2]
    rfl
  case scriptTarget =>
    intro token isText
    obtain ⟨named_eq, resolved⟩ := resolved token isText
    rw [resolved, named_eq, ← absolute_again clean named_eq]
    rfl
  case trailingArgs =>
    intro token isText
    rw [(resolved token isText).2]
    rfl

/-- Making a path absolute puts it in normal form, and where a slash begins no switch, the path
of a script file that a resolution without an error reports can be given to it again. Both are so
in any working directory that is in normal form itself; if it is text, all paths are. -/
theorem normalizes_and_resubmits (host : Host)
    (clean : Path.IsClean host.machine.workingDirectory.shown) :
    (∀ path, Path.IsNormalized host.machine.workingDirectory.shown path
        (host.absolute path).shown) ∧
      (∀ path (token : String), host.absolute path = token → host.absolute token = token) ∧
      (∀ directory : String, host.machine.workingDirectory = directory →
        ∀ path, ∃ token : String, host.absolute path = token) ∧
      (host.platform.isWindows = false → ∀ args path, (host.resolve args).error = none →
        (host.resolve args).scriptTarget = .file path → host.Resubmits path) := by
  refine ⟨isNormalized_absolute clean, fun _ _ => absolute_again clean,
    fun _ => exists_absolute_eq_text, ?_⟩
  intro unix args path settled target
  have splits := Reading.splits_ofArgs host.platform args
  obtain ⟨admitted, config_eq⟩ := admits_of_error_eq_none splits settled
  have late := lateRefusal?_of_error_eq_none splits admitted settled
  rw [config_eq] at target
  obtain ⟨isFile, named, rfl⟩ := exists_path_of_target target late
  exact resubmits_absolute clean unix named isFile

/-- The sample in the root directory. -/
def rootSample : Host :=
  ⟨.unix, .redirected, ⟨"/", fun path => path == "/run", true⟩⟩

theorem sample_isClean : Path.IsClean sample.machine.workingDirectory.shown :=
  ⟨[['w']], by simp [Path.IsName], rfl⟩

theorem rootSample_isClean : Path.IsClean rootSample.machine.workingDirectory.shown :=
  ⟨[], by simp, rfl⟩

/-- A script file that is named in a roundabout way, and its path as it is reported; once in a
directory with a name, once in the root. -/
theorem normalizes_and_resubmits_sample :
    (sample.resolve ["-noexit", ".//./run", "-c"]).error = none ∧
      (sample.resolve ["-noexit", ".//./run", "-c"]).scriptTarget = .file "/w/run" ∧
      Path.IsNormalized "/w" "../x/" (sample.absolute "../x/").shown ∧
      sample.Resubmits "/w/run" ∧
      (rootSample.resolve ["./run"]).scriptTarget = .file "/run" ∧
      Path.IsNormalized "/" "." (rootSample.absolute ".").shown ∧
      rootSample.Resubmits "/run" :=
  have settled : (sample.resolve ["-noexit", ".//./run", "-c"]).error = none := by
    decide +kernel
  have target : (sample.resolve ["-noexit", ".//./run", "-c"]).scriptTarget = .file "/w/run" := by
    decide +kernel
  have settled' : (rootSample.resolve ["./run"]).error = none := by decide +kernel
  have target' : (rootSample.resolve ["./run"]).scriptTarget = .file "/run" := by decide +kernel
  have whole := normalizes_and_resubmits sample sample_isClean
  have whole' := normalizes_and_resubmits rootSample rootSample_isClean
  ⟨settled, target, whole.1 "../x/", whole.2.2.2 rfl _ _ settled target, target', whole'.1 ".",
    whole'.2.2.2 rfl _ _ settled' target'⟩

end Host

end ShellLaunch
