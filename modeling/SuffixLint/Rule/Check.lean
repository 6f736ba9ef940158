import SuffixLint.Registry

namespace SuffixLint

structure Verdict where
  findings : List Finding
  /-- What the rule is; `none` where the line was given up, which leaves it unregistered. -/
  standing : Option RuleStanding
  registry : Registry

namespace Rule

def textFindings (text : Text) : List Finding :=
  (if text.isNfkc then [] else [.notNfkc]) ++ (if text.isLowercase then [] else [.notLowercase])

/-- An exception with a parent domain needs a wildcard for the parent before it. -/
def parentFindings (registry : Registry) (kind : RuleKind) (labels : List Text) : List Finding :=
  match kind, labels with
  | .exception, _ :: parent :: above =>
    if registry.holdsWildcard (ofLabels (parent :: above)) then [] else [.exceptionWithoutWildcard]
  | _, _ => []

def labelFindings (labels : List Text) : List Finding := labels.filterMap labelFault

/-- A domain that is registered already is a doublette, whatever the prefixes are. -/
def doubletteFindings (registry : Registry) (domain : Text) : List Finding :=
  match registry.get? domain with
  | none => []
  | some earlier => [.doublette earlier.line]

def isSkipped (line : Line) : Bool := !line.isUtf8 || isWildcardException line.text

def check (registry : Registry) (region : Region) (line : Line) : Verdict :=
  if !line.isUtf8 then
    { findings := [.invalidEncoding], standing := none, registry }
  else if isWildcardException line.text then
    { findings := textFindings line.text ++ [.wildcardAndException], standing := none, registry }
  else
    let kind := kind line.text
    let domain := domain line.text
    let standing : RuleStanding := { kind, region }
    { findings :=
        textFindings line.text ++ parentFindings registry kind (labels domain) ++
          labelFindings (labels domain) ++ doubletteFindings registry domain
      standing := some standing
      registry := registry.insert domain { line := line.number, standing } }

theorem check_standing_eq_none_iff {registry : Registry} {region : Region} {line : Line} :
    (check registry region line).standing = none ↔ isSkipped line = true := by
  unfold check isSkipped
  split
  · simp_all
  · split <;> simp_all

theorem check_registry_of_isSkipped {registry : Registry} {region : Region} {line : Line}
    (h : isSkipped line = true) : (check registry region line).registry = registry := by
  unfold isSkipped at h
  unfold check
  split
  · rfl
  · split <;> simp_all

theorem check_registry_of_not_isSkipped {registry : Registry} {region : Region} {line : Line}
    (h : isSkipped line = false) :
    (check registry region line).registry =
      registry.insert (domain line.text)
        { line := line.number, standing := { kind := kind line.text, region } } := by
  unfold isSkipped at h
  unfold check
  split
  · simp_all
  · split <;> simp_all

end Rule

namespace Line

/-- What is echoed for a finding about the line: the line as written, but the trimmed text where
the encoding itself is at fault. -/
def echo (line : Line) : Finding → Text
  | .invalidEncoding => line.text
  | _ => line.shown

def issue (line : Line) (finding : Finding) : Issue :=
  { line := line.number, finding, echo := some (line.echo finding) }

end Line
end SuffixLint
