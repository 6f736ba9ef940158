import SuffixLint.Batch
import SuffixLint.Proofs.Line.Streaming
import SuffixLint.Proofs.Linter.Accounting
import SuffixLint.Proofs.Linter.Advisory

namespace SuffixLint

namespace LintReport

theorem ofStream?_ofBytes (content : Bytes) (file : Text) (checks : Checks) :
    ofStream? (Stream.ofBytes content) file checks = .ok (ofBytes content file checks) := by
  have hlines : (Stream.ofBytes content).lines = Line.ofData content := by
    rw [Stream.lines_of_regular rfl, Stream.bytes_ofBytes]
  rw [ofStream?, hlines]
  rfl

theorem fails_ofBytes_iff {content : Bytes} {file : Text} {checks : Checks} :
    (ofBytes content file checks).fails = true ↔
      ∃ issue ∈ (ofBytes content file checks).issues, issue.severity = .error := by
  rw [fails, decide_eq_true_eq, errors_ofBytes, List.countP_pos_iff]
  simp only [decide_eq_true_eq]

/-- Whether a registry fails does not depend on the checks that only warn. -/
theorem fails_of_checks (content : Bytes) (file : Text) (checks other : Checks) :
    (ofBytes content file checks).fails = (ofBytes content file other).fails := by
  rw [fails, fails, ofBytes, ofBytes, errors_of_checks _ _ checks, errors_of_checks _ _ other]

end LintReport

namespace Environment

variable (environment : Environment) (root : Path) (checks : Checks)

/-- The content of the file that a path denotes, or why it cannot be read. -/
def contentOf (path : Path) : Except FileError Bytes :=
  match environment.disk.find path with
  | .error error => .error (.unopened path error)
  | .ok (.file content) => .ok content
  | .ok .lockedFile => .error (.unopened path .permissionDenied)
  | .ok (.directory _) =>
    .error (.brokenOff {
      file := environment.reportName root path, line := 0
      reason := SystemError.isDirectory.message })

def report? (path : Path) : Option LintReport :=
  match environment.contentOf root path with
  | .error _ => none
  | .ok content => some (LintReport.ofBytes content (environment.reportName root path) checks)

def failure? (path : Path) : Option FileError :=
  match environment.contentOf root path with
  | .error error => some error
  | .ok _ => none

variable {environment root checks} {path : Path} {paths : List Path} {report : LintReport}

theorem report?_eq_some_iff :
    environment.report? root checks path = some report ↔
      ∃ content, environment.contentOf root path = .ok content ∧
        report = LintReport.ofBytes content (environment.reportName root path) checks := by
  rw [report?]
  cases environment.contentOf root path with
  | error error => simp
  | ok content => simp [eq_comm]

theorem failure?_eq_none_iff :
    environment.failure? root path = none ↔
      ∃ content, environment.contentOf root path = .ok content := by
  rw [failure?]
  cases environment.contentOf root path <;> simp

theorem failure?_ne_none_iff :
    environment.failure? root path ≠ none ↔
      ∃ error, environment.contentOf root path = .error error := by
  rw [failure?]
  cases environment.contentOf root path <;> simp

/-- A file that is named by a path is checked as if its content were in memory. -/
theorem lintFile_of_file (file : path.text ≠ standardInput) :
    environment.lintFile root checks path =
      (environment.contentOf root path).map fun content =>
        LintReport.ofBytes content (environment.reportName root path) checks := by
  rw [lintFile, openPath, if_neg file, Disk.openFile, contentOf]
  cases environment.disk.find path with
  | error error => rfl
  | ok node =>
    cases node with
    | file content =>
      dsimp only
      rw [LintReport.ofStream?_ofBytes]
      rfl
    | lockedFile => rfl
    | directory entries => rfl

theorem toOption_lintFile (file : path.text ≠ standardInput) :
    (environment.lintFile root checks path).toOption = environment.report? root checks path := by
  rw [lintFile_of_file file, report?]
  cases environment.contentOf root path <;> rfl

theorem lintFiles_of_files (files : ∀ path ∈ paths, path.text ≠ standardInput) :
    environment.lintFiles root checks paths = paths.map (environment.lintFile root checks) := by
  induction paths with
  | nil => rfl
  | cons path rest ih =>
    obtain ⟨hpath, hrest⟩ := List.forall_mem_cons.1 files
    rw [lintFiles, after, if_neg hpath, ih hrest, List.map_cons]

end Environment

namespace Batch

def errorOf : Except FileError LintReport → Option FileError
  | .error error => some error
  | .ok _ => none

theorem reports_ofOutcomes (outcomes : List (Except FileError LintReport)) :
    (ofOutcomes outcomes).reports = outcomes.filterMap (·.toOption) := by
  induction outcomes with
  | nil => rfl
  | cons outcome rest ih =>
    cases outcome with
    | error error => exact ih
    | ok report => exact congrArg (report :: ·) ih

theorem failures_ofOutcomes (outcomes : List (Except FileError LintReport)) :
    (ofOutcomes outcomes).failures = outcomes.filterMap errorOf := by
  induction outcomes with
  | nil => rfl
  | cons outcome rest ih =>
    cases outcome with
    | error error => exact congrArg (error :: ·) ih
    | ok report => exact ih

theorem length_ofOutcomes (outcomes : List (Except FileError LintReport)) :
    (ofOutcomes outcomes).reports.length + (ofOutcomes outcomes).failures.length =
      outcomes.length := by
  induction outcomes with
  | nil => rfl
  | cons outcome rest ih =>
    cases outcome with
    | error error =>
      rw [ofOutcomes, List.length_cons, List.length_cons, ← ih, Nat.add_assoc]
    | ok report =>
      rw [ofOutcomes, List.length_cons, List.length_cons, ← ih, Nat.add_right_comm]

section ExitCode

variable {batch : Batch}

theorem exitCode_of_failures (h : batch.failures ≠ []) : batch.exitCode = 2 :=
  if_pos (by rw [Bool.not_eq_true', List.isEmpty_eq_false_iff]; exact h)

theorem exitCode_of_reports (h : batch.failures = []) :
    batch.exitCode = if batch.fails then 1 else 0 := by
  rw [exitCode, h]
  rfl

theorem exitCode_eq_two_iff : batch.exitCode = 2 ↔ batch.failures ≠ [] := by
  refine ⟨?_, exitCode_of_failures⟩
  intro hcode hnone
  rw [exitCode_of_reports hnone] at hcode
  split at hcode <;> cases hcode

theorem exitCode_eq_iff (verdict : Bool) :
    batch.exitCode = (if verdict then 1 else 0) ↔
      batch.failures = [] ∧ batch.fails = verdict := by
  by_cases h : batch.failures = []
  · rw [exitCode_of_reports h, and_iff_right h]
    cases batch.fails <;> cases verdict <;> decide
  · rw [exitCode_of_failures h]
    refine iff_of_false ?_ fun hboth => h hboth.1
    cases verdict <;> decide

theorem exitCode_eq_one_iff :
    batch.exitCode = 1 ↔ batch.failures = [] ∧ batch.fails = true :=
  exitCode_eq_iff true

theorem exitCode_eq_zero_iff :
    batch.exitCode = 0 ↔ batch.failures = [] ∧ batch.fails = false :=
  exitCode_eq_iff false

end ExitCode

end Batch

namespace Environment

/-- What checking the files at some paths comes to. -/
def batch (environment : Environment) (root : Path) (checks : Checks) (paths : List Path) : Batch :=
  Batch.ofOutcomes (environment.lintFiles root checks paths)

variable {environment : Environment} {root : Path} {checks : Checks} {paths : List Path}
  (files : ∀ path ∈ paths, path.text ≠ standardInput)
include files

theorem reports_batch :
    (environment.batch root checks paths).reports =
      paths.filterMap (environment.report? root checks) := by
  rw [batch, Batch.reports_ofOutcomes, lintFiles_of_files files, List.filterMap_map]
  apply List.filterMap_congr
  intro path h
  exact toOption_lintFile (files path h)

theorem failures_batch :
    (environment.batch root checks paths).failures =
      paths.filterMap (environment.failure? root) := by
  rw [batch, Batch.failures_ofOutcomes, lintFiles_of_files files, List.filterMap_map]
  apply List.filterMap_congr
  intro path h
  rw [Function.comp_apply, lintFile_of_file (files path h), failure?]
  cases environment.contentOf root path <;> rfl

theorem length_batch :
    (environment.batch root checks paths).reports.length +
      (environment.batch root checks paths).failures.length = paths.length := by
  rw [batch, Batch.length_ofOutcomes, lintFiles_of_files files, List.length_map]

theorem failures_batch_eq_nil_iff :
    (environment.batch root checks paths).failures = [] ↔
      ∀ path ∈ paths, ∃ content, environment.contentOf root path = .ok content := by
  rw [failures_batch files, List.filterMap_eq_nil_iff]
  simp only [failure?_eq_none_iff]

theorem failures_batch_ne_nil_iff :
    (environment.batch root checks paths).failures ≠ [] ↔
      ∃ path ∈ paths, ∃ error, environment.contentOf root path = .error error := by
  rw [failures_batch files, ne_eq, List.filterMap_eq_nil_iff]
  simp only [not_forall, failure?_ne_none_iff, exists_prop]

theorem exists_of_mem_reports_batch {report : LintReport}
    (h : report ∈ (environment.batch root checks paths).reports) :
    ∃ content file, report = LintReport.ofBytes content file checks := by
  rw [reports_batch files] at h
  obtain ⟨path, _, hreport⟩ := List.mem_filterMap.1 h
  obtain ⟨content, _, he⟩ := report?_eq_some_iff.1 hreport
  exact ⟨content, _, he⟩

theorem fails_batch_iff :
    (environment.batch root checks paths).fails = true ↔
      ∃ report ∈ (environment.batch root checks paths).reports,
        ∃ issue ∈ report.issues, issue.severity = .error := by
  rw [Batch.fails, List.any_eq_true]
  refine exists_congr fun report => and_congr_right fun hreport => ?_
  obtain ⟨content, file, rfl⟩ := exists_of_mem_reports_batch files hreport
  exact LintReport.fails_ofBytes_iff

theorem fails_batch_of_checks (other : Checks) :
    (environment.batch root checks paths).fails = (environment.batch root other paths).fails := by
  rw [Batch.fails, Batch.fails, reports_batch files, reports_batch files, List.any_filterMap,
    List.any_filterMap]
  congr 1
  funext path
  rw [report?, report?]
  cases environment.contentOf root path with
  | error error => rfl
  | ok content => exact LintReport.fails_of_checks content _ checks other

theorem exitCode_batch_of_checks (other : Checks) :
    (environment.batch root checks paths).exitCode =
      (environment.batch root other paths).exitCode := by
  rw [Batch.exitCode, Batch.exitCode, failures_batch files, failures_batch files,
    fails_batch_of_checks files other]

/-- A total that each report has right is right for all of them together. -/
theorem sum_reports_batch {total : LintReport → Nat} {P : Issue → Bool}
    (htotal : ∀ content file, total (LintReport.ofBytes content file checks) =
      (LintReport.ofBytes content file checks).issues.countP P) :
    ((environment.batch root checks paths).reports.map total).foldl (· + ·) 0 =
      ((environment.batch root checks paths).reports.flatMap (·.issues)).countP P := by
  rw [← List.sum_eq_foldl_nat, List.countP_flatMap]
  congr 1
  apply List.map_congr_left
  intro report h
  obtain ⟨content, file, rfl⟩ := exists_of_mem_reports_batch files h
  exact htotal content file

theorem errors_batch :
    (environment.batch root checks paths).errors =
      ((environment.batch root checks paths).reports.flatMap (·.issues)).countP
        (·.severity = .error) :=
  sum_reports_batch files fun content file => LintReport.errors_ofBytes content file checks

theorem warnings_batch :
    (environment.batch root checks paths).warnings =
      ((environment.batch root checks paths).reports.flatMap (·.issues)).countP
        (·.severity = .warning) :=
  sum_reports_batch files fun content file => LintReport.warnings_ofBytes content file checks

end Environment
end SuffixLint
