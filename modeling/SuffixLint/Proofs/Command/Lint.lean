import SuffixLint.Command.Run
import SuffixLint.Proofs.Batch.Split

namespace SuffixLint

namespace Settings

variable {disk : Disk} {choices : Choices} {settings : Settings}

theorem named_of_selectFiles {root : Path} {chosen configured : List Text} {files : List Path}
    {named : Bool} (h : selectFiles disk root chosen configured = .ok (files, named))
    (nonempty : files ≠ []) : named = true := by
  rw [selectFiles] at h
  split at h
  · cases h
    rfl
  split at h
  · cases hexpand : Config.expand disk root configured with
    | error error =>
      rw [hexpand] at h
      cases h
    | ok expanded =>
      rw [hexpand] at h
      cases h
      rfl
  · cases h
    exact absurd rfl nonempty

theorem exists_selectFiles (resolved : resolve disk choices = .ok settings) :
    ∃ configured, selectFiles disk settings.root choices.files configured =
      .ok (settings.files, settings.namesFiles) := by
  -- Only loading the configuration and selecting the files can fail.
  rw [resolve] at resolved
  cases hload : Config.load disk (Config.findRoot disk ⟨choices.root.getD Path.here⟩) with
  | error error =>
    rw [hload] at resolved
    cases resolved
  | ok config =>
    rw [hload] at resolved
    cases hselect : selectFiles disk (Config.findRoot disk ⟨choices.root.getD Path.here⟩)
        choices.files (config.getD {}).files with
    | error error =>
      simp only [bind, Except.bind, hselect] at resolved
      cases resolved
    | ok selected =>
      simp only [bind, Except.bind, hselect] at resolved
      cases resolved
      exact ⟨_, hselect⟩

theorem complaints_eq_nil_iff (resolved : resolve disk choices = .ok settings) :
    settings.complaints disk = [] ↔ settings.files ≠ [] := by
  obtain ⟨configured, hselect⟩ := exists_selectFiles resolved
  rw [complaints]
  split
  · next unnamed =>
    apply iff_of_false
    · exact List.append_ne_nil_of_right_ne_nil _ (List.cons_ne_nil _ _)
    · intro nonempty
      rw [named_of_selectFiles hselect nonempty] at unnamed
      cases unnamed
  split
  · next hempty =>
    exact iff_of_false (List.cons_ne_nil _ _) (not_not_intro (List.isEmpty_iff.1 hempty))
  · next hempty => exact iff_of_true rfl (mt List.isEmpty_iff.2 hempty)

end Settings

theorem Batch.exitCode_outcome (batch : Batch) (form : Text) :
    (batch.outcome form).exitCode = batch.exitCode := by
  rw [outcome]
  split <;> rfl

namespace Environment

variable (environment : Environment)

/-- Without settings or without files there is nothing to check, and the exit status says so. -/
theorem exitCode_lint (choices : Choices) :
    (environment.lint choices).exitCode =
      match Settings.resolve environment.disk choices with
      | .error _ => 2
      | .ok settings =>
        if settings.files = [] then 2
        else (environment.batch settings.root { order := settings.orderCheck }
          settings.files).exitCode := by
  rw [lint]
  cases resolved : Settings.resolve environment.disk choices with
  | error error => rfl
  | ok settings =>
    dsimp only
    split
    · next hnone =>
      rw [if_neg ((Settings.complaints_eq_nil_iff resolved).1 hnone)]
      exact Batch.exitCode_outcome _ _
    · next complaints hsome =>
      rw [if_pos]
      · rfl
      · by_contra nonempty
        exact hsome ((Settings.complaints_eq_nil_iff resolved).2 nonempty)

/-- The check of some files gives the reports on the files that can be read, each as if it were
checked alone, and the failures of the others, both in order. As a command it exits with 2 if there
is such a failure, else with 1 if one of the files has an error, and else with 0, whatever is chosen
besides the files. Its summary counts the reports, the failures, and the issues of all reports. -/
theorem files_accounted (root : Path) (checks : Checks) {paths : List Path} (nonempty : paths ≠ [])
    (files : ∀ path ∈ paths, path.text ≠ standardInput) :
    let batch := Batch.ofOutcomes (environment.lintFiles root checks paths)
    let issues := batch.reports.flatMap (·.issues)
    (batch.reports = paths.filterMap (environment.report? root checks) ∧
      batch.failures = paths.filterMap (environment.failure? root) ∧
      batch.reports.length + batch.failures.length = paths.length) ∧
    ((∀ choices settings, Settings.resolve environment.disk choices = .ok settings →
        settings.root = root → settings.files = paths →
        (environment.lint choices).exitCode = batch.exitCode) ∧
      (batch.exitCode = 2 ↔
        ∃ path ∈ paths, ∃ error, environment.contentOf root path = .error error) ∧
      (batch.exitCode = 1 ↔
        (∀ path ∈ paths, ∃ content, environment.contentOf root path = .ok content) ∧
          ∃ report ∈ batch.reports, ∃ issue ∈ report.issues, issue.severity = .error) ∧
      (batch.exitCode = 0 ↔
        (∀ path ∈ paths, ∃ content, environment.contentOf root path = .ok content) ∧
          ¬∃ report ∈ batch.reports, ∃ issue ∈ report.issues, issue.severity = .error) ∧
      ∀ other, (Batch.ofOutcomes (environment.lintFiles root other paths)).exitCode =
        batch.exitCode) ∧
    batch.toJson = .ofMembers [
      ("results", .array (batch.reports.map (·.toJson))),
      ("failures", .array (batch.failures.map fun error => .string error.message)),
      ("summary", .ofMembers [
        ("errors", .number (issues.countP (·.severity = .error))),
        ("warnings", .number (issues.countP (·.severity = .warning))),
        ("files", .number batch.reports.length),
        ("failed", .number batch.failures.length)])] := by
  intro batch issues
  refine ⟨⟨reports_batch files, failures_batch files, length_batch files⟩,
    ⟨?_, ?_, ?_, ?_, ?_⟩, ?_⟩
  · intro choices settings resolved hroot hpaths
    rw [exitCode_lint, resolved]
    dsimp only
    rw [hroot, hpaths, if_neg nonempty]
    exact exitCode_batch_of_checks files checks
  · rw [Batch.exitCode_eq_two_iff]
    exact failures_batch_ne_nil_iff files
  · rw [Batch.exitCode_eq_one_iff]
    exact and_congr (failures_batch_eq_nil_iff files) (fails_batch_iff files)
  · rw [Batch.exitCode_eq_zero_iff, ← Bool.not_eq_true]
    exact and_congr (failures_batch_eq_nil_iff files) (not_congr (fails_batch_iff files))
  · intro other
    exact exitCode_batch_of_checks files checks
  · have herrors : batch.errors = issues.countP (·.severity = .error) := errors_batch files
    have hwarnings : batch.warnings = issues.countP (·.severity = .warning) := warnings_batch files
    rw [Batch.toJson, Batch.summaryJson, herrors, hwarnings]

/-- Of three paths one denotes a file with an error, one a directory, and one nothing. -/
theorem files_accounted_mixed :
    let list : FileTree := .file [0x61, Line.feed]
    let tree : FileTree := .directory [("folder".toList, .directory []), ("list".toList, list)]
    let environment : Environment := { disk := { root := tree, current := [] } }
    let choices : Choices := { files := ["list".toList, "folder".toList, "absent".toList] }
    let paths := choices.files.map Path.mk
    let batch := Batch.ofOutcomes (environment.lintFiles ⟨Path.here⟩ {} paths)
    paths ≠ [] ∧ (∀ path ∈ paths, path.text ≠ standardInput) ∧
      batch.failures.map (·.subject) =
        ["read failed in folder after line 0".toList, "cannot open absent".toList] ∧
      batch.reports.length = 1 ∧ (environment.lint choices).exitCode = 2 := by
  intro list tree environment choices paths batch
  have hnonempty : paths ≠ [] := by decide
  have hfiles : ∀ path ∈ paths, path.text ≠ standardInput := by decide
  obtain ⟨⟨_, hfailures, hlength⟩, ⟨hcommand, htwo, _⟩, _⟩ :=
    environment.files_accounted ⟨Path.here⟩ {} hnonempty hfiles
  have hsubjects : batch.failures.map (·.subject) =
      ["read failed in folder after line 0".toList, "cannot open absent".toList] := by
    rw [hfailures]
    decide
  have htwoFailures : batch.failures.length = 2 := by
    have hlengths := congrArg List.length hsubjects
    rw [List.length_map] at hlengths
    exact hlengths
  let settings : Settings :=
    { root := ⟨Path.here⟩, files := paths, namesFiles := true, output := Settings.defaultOutput
      orderCheck := false, submissionCheck := false }
  have hresolved : Settings.resolve environment.disk choices = .ok settings := by decide
  refine ⟨hnonempty, hfiles, hsubjects, ?_, ?_⟩
  · have hthree : batch.reports.length + batch.failures.length = 3 := hlength
    omega
  · rw [hcommand choices settings hresolved rfl rfl, htwo]
    exact ⟨⟨"absent".toList⟩, by decide, _, rfl⟩

end Environment
end SuffixLint
