import SuffixLint.Main
import SuffixLint.Proofs.Linter.WellFormed
import SuffixLint.Proofs.Group.Warnings
import SuffixLint.Proofs.Group.Correction
import SuffixLint.Proofs.Linter.Doublettes
import SuffixLint.Proofs.Linter.Exceptions
import SuffixLint.Proofs.Linter.Stages
import SuffixLint.Proofs.Line.Removal
import SuffixLint.Proofs.Linter.Advisory
import SuffixLint.Proofs.Linter.Removal
import SuffixLint.Proofs.Line.Streaming
import SuffixLint.Proofs.Submission.Sorted
import SuffixLint.Proofs.Submission.Sections
import SuffixLint.Proofs.Command.Lint
import SuffixLint.Proofs.Linter.Returns
import SuffixLint.Proofs.Batch.Split
import SuffixLint.Proofs.Group.Arrangement
import SuffixLint.Proofs.Report.Issue
import SuffixLint.Proofs.Report.Machine
import SuffixLint.Proofs.Report.Human
import SuffixLint.Proofs.Submission.Precedence
import SuffixLint.Proofs.Registry.Permutation
import SuffixLint.Proofs.Linter.Encoding
import SuffixLint.Proofs.Submission.Title
import SuffixLint.Proofs.Rule.Spelling
import SuffixLint.Proofs.Config.Merge
import SuffixLint.Proofs.Config.Root
import SuffixLint.Proofs.Config.Relative
import SuffixLint.Proofs.Batch.ReportName
import SuffixLint.Proofs.Rule.Lowercase
import SuffixLint.Proofs.Group.RoundTrip
