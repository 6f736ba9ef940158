import SuffixLint.Proofs.Registry.Origin

namespace SuffixLint

def Finding.renumber (renumbering : Nat → Nat) : Finding → Finding
  | .doublette earlierLine => .doublette (renumbering earlierLine)
  | finding => finding

/-- The issue after earlier lines were numbered anew; its own place stays. -/
def Issue.renumber (renumbering : Nat → Nat) (issue : Issue) : Issue :=
  { issue with finding := issue.finding.renumber renumbering }

/-- The issue after all lines were numbered anew, its own among them. -/
def Issue.relocate (renumbering : Nat → Nat) (issue : Issue) : Issue :=
  { issue.renumber renumbering with line := renumbering issue.line }

def Line.renumber (renumbering : Nat → Nat) (line : Line) : Line :=
  { line with number := renumbering line.number }

def Registration.renumber (renumbering : Nat → Nat) (registration : Registration) : Registration :=
  { registration with line := renumbering registration.line }

def Origin.renumber (renumbering : Nat → Nat) (origin : Origin) : Origin :=
  { origin with line := renumbering origin.line }

variable {renumbering : Nat → Nat}

namespace Finding

theorem stage_renumber (finding : Finding) :
    (finding.renumber renumbering).stage = finding.stage := by
  cases finding <;> rfl

theorem isDoublette_renumber (finding : Finding) :
    (finding.renumber renumbering).isDoublette = finding.isDoublette := by
  cases finding <;> rfl

theorem renumber_of_not_rule {finding : Finding} (h : finding.stage ≠ .rule) :
    finding.renumber renumbering = finding := by
  cases finding with
  | doublette earlierLine => exact absurd rfl h
  | _ => rfl

theorem eq_unsortedGroup_of_renumber {finding : Finding}
    (h : finding.renumber renumbering = .unsortedGroup) : finding = .unsortedGroup := by
  cases finding <;> first | rfl | cases h

theorem renumber_of_not_doublette {finding : Finding} (h : finding.isDoublette = false) :
    finding.renumber renumbering = finding := by
  cases finding with
  | doublette earlierLine => cases h
  | _ => rfl

theorem map_renumber_of_not_rule {findings : List Finding}
    (h : ∀ finding ∈ findings, finding.stage ≠ .rule) :
    findings.map (·.renumber renumbering) = findings := by
  refine Eq.trans (List.map_congr_left ?_) (List.map_id findings)
  intro finding hm
  exact renumber_of_not_rule (h finding hm)

end Finding

theorem Issue.renumber_of_not_rule {issue : Issue} (h : issue.finding.stage ≠ .rule) :
    issue.renumber renumbering = issue := by
  rw [renumber, Finding.renumber_of_not_rule h]

theorem map_renumber_of_not_rule {issues : List Issue}
    (h : ∀ issue ∈ issues, issue.finding.stage ≠ .rule) :
    issues.map (·.renumber renumbering) = issues := by
  refine Eq.trans (List.map_congr_left ?_) (List.map_id issues)
  intro issue hm
  exact Issue.renumber_of_not_rule (h issue hm)

namespace Line

theorem renumber_issue (line : Line) (finding : Finding) :
    (line.issue finding).renumber renumbering = line.issue (finding.renumber renumbering) := by
  cases finding <;> rfl

theorem relocate_issue (line : Line) (finding : Finding) :
    (line.issue finding).relocate renumbering =
      (line.renumber renumbering).issue (finding.renumber renumbering) := by
  cases finding <;> rfl

theorem map_relocate_issue (line : Line) (findings : List Finding) :
    (findings.map line.issue).map (·.relocate renumbering) =
      (findings.map (·.renumber renumbering)).map (line.renumber renumbering).issue := by
  rw [List.map_map, List.map_map]
  exact List.map_congr_left fun finding _ => line.relocate_issue finding

end Line

theorem Rule.check_findings_renumber (registry : Registry) (region : Region) (line : Line) :
    (check registry region (line.renumber renumbering)).findings =
      (check registry region line).findings := by
  rw [check_findings_eq, check_findings_eq]
  rfl

/-- Two registries were made of the same domains for rules of the same kinds, at lines that were
numbered anew. Nothing is said of the regions. -/
def Registry.Mirrors (renumbering : Nat → Nat) (a b : Registry) : Prop :=
  ∀ domain, b.origin? domain = (a.origin? domain).map (·.renumber renumbering)

namespace Registry.Mirrors

variable {a b : Registry}

theorem empty : Mirrors renumbering .empty .empty := by
  intro domain
  rw [origin?_empty]
  rfl

theorem parentFindings (h : Mirrors renumbering a b) (kind : RuleKind) (labels : List Text) :
    Rule.parentFindings b kind labels = Rule.parentFindings a kind labels := by
  have hwildcard (domain : Text) : b.holdsWildcard domain = a.holdsWildcard domain := by
    rw [holdsWildcard_eq, holdsWildcard_eq, h domain, Option.any_map]
    rfl
  simp only [Rule.parentFindings, hwildcard]

theorem doubletteFindings (h : Mirrors renumbering a b) (domain : Text) :
    Rule.doubletteFindings b domain =
      (Rule.doubletteFindings a domain).map (·.renumber renumbering) := by
  rw [doubletteFindings_eq, doubletteFindings_eq, h domain]
  cases a.origin? domain <;> rfl

theorem check_findings (h : Mirrors renumbering a b) (old new : Region) (line : Line) :
    (Rule.check b new line).findings =
      (Rule.check a old line).findings.map (·.renumber renumbering) := by
  have hprior : Rule.priorFindings b line =
      (Rule.priorFindings a line).map (·.renumber renumbering) := by
    have hsame : Rule.priorFindings b line = Rule.priorFindings a line := by
      simp only [Rule.priorFindings, h.parentFindings]
    rw [hsame]
    refine (List.map_id _).symm.trans (List.map_congr_left ?_)
    intro finding hf
    have hprior := Rule.isPrior_of_mem_priorFindings hf
    exact (Finding.renumber_of_not_doublette hprior.not_doublette).symm
  rw [Rule.check_findings_eq, Rule.check_findings_eq, List.map_append, hprior,
    h.doubletteFindings]
  split <;> rfl

theorem take (h : Mirrors renumbering a b) {old new : Candidate}
    (hline : new.line = old.line.renumber renumbering) :
    Mirrors renumbering (a.take old) (b.take new) := by
  intro domain
  have hfor : new.isFor domain = old.isFor domain := by
    rw [Candidate.isFor, Candidate.isSkipped, Candidate.domain, hline]
    rfl
  have horigin : new.line.origin = old.line.origin.renumber renumbering := by
    rw [hline]
    rfl
  rw [origin?_take, origin?_take, h domain, hfor, Option.map_or]
  congr 1
  split
  · rw [horigin]
    rfl
  · rfl

end Registry.Mirrors

def Registry.Renumbered (renumbering : Nat → Nat) (a b : Registry) : Prop :=
  ∀ domain, b.get? domain = (a.get? domain).map (·.renumber renumbering)

namespace Registry.Renumbered

variable {a b : Registry}

theorem empty : Renumbered renumbering .empty .empty := by
  intro domain
  rw [get?_empty]
  rfl

theorem mirrors (h : Renumbered renumbering a b) : Mirrors renumbering a b := by
  intro domain
  rw [origin?, origin?, h domain, Option.map_map, Option.map_map]
  rfl

theorem insert (h : Renumbered renumbering a b) (domain : Text) {registration : Registration}
    (hline : renumbering registration.line = registration.line) :
    Renumbered renumbering (a.insert domain registration) (b.insert domain registration) := by
  have hsame : registration.renumber renumbering = registration := by
    rw [Registration.renumber, hline]
  intro other
  simp only [get?_insert, h domain, h other, Option.map_eq_none_iff]
  split
  · rw [Option.map_some, hsame]
  · rfl

theorem check_registry (h : Renumbered renumbering a b) (region : Region) {line : Line}
    (hline : renumbering line.number = line.number) :
    Renumbered renumbering (Rule.check a region line).registry
      (Rule.check b region line).registry := by
  cases hs : Rule.isSkipped line with
  | true =>
    rw [Rule.check_registry_of_isSkipped hs, Rule.check_registry_of_isSkipped hs]
    exact h
  | false =>
    rw [Rule.check_registry_of_not_isSkipped hs, Rule.check_registry_of_not_isSkipped hs]
    exact h.insert _ hline

end Registry.Renumbered
end SuffixLint
