import SuffixLint.Proofs.Registry.History

namespace SuffixLint

structure Origin where
  line : Nat
  kind : RuleKind
deriving DecidableEq, Repr

def Registration.origin (registration : Registration) : Origin :=
  { line := registration.line, kind := registration.standing.kind }

def Line.origin (line : Line) : Origin := { line := line.number, kind := Rule.kind line.text }

namespace Registry

def origin? (registry : Registry) (domain : Text) : Option Origin :=
  (registry.get? domain).map (·.origin)

variable (registry : Registry)

@[simp] theorem origin?_empty (domain : Text) : empty.origin? domain = none := by
  rw [origin?, get?_empty]
  rfl

theorem isSome_origin? (domain : Text) :
    (registry.origin? domain).isSome = (registry.get? domain).isSome :=
  Option.isSome_map

theorem holdsWildcard_eq (domain : Text) :
    registry.holdsWildcard domain = (registry.origin? domain).any (·.kind = .wildcard) := by
  rw [holdsWildcard, origin?, Option.any_map]
  rfl

theorem doubletteFindings_eq (domain : Text) :
    Rule.doubletteFindings registry domain =
      ((registry.origin? domain).map fun origin => .doublette origin.line).toList := by
  rw [Rule.doubletteFindings, origin?]
  cases registry.get? domain <;> rfl

theorem origin?_take (candidate : Candidate) (domain : Text) :
    (registry.take candidate).origin? domain =
      (registry.origin? domain).or
        (if candidate.isFor domain then some candidate.line.origin else none) := by
  rw [origin?, get?_take, origin?, Option.map_or]
  congr 1
  split <;> rfl

/-- A line that is given up, or whose domain is known, leaves no trace in the registry. -/
theorem origin?_take_of_rejected (candidate : Candidate)
    (h : candidate.isSkipped = true ∨ (registry.get? candidate.domain).isSome = true)
    (domain : Text) : (registry.take candidate).origin? domain = registry.origin? domain := by
  rw [origin?_take]
  cases hfor : candidate.isFor domain with
  | false => exact Option.or_none
  | true =>
    obtain ⟨hkept, rfl⟩ := Candidate.isFor_iff.1 hfor
    have hknown : (registry.origin? candidate.domain).isSome = true := by
      rw [isSome_origin?]
      rcases h with hskipped | hknown
      · rw [hkept] at hskipped
        cases hskipped
      · exact hknown
    exact Option.or_of_isSome hknown

end Registry
end SuffixLint
