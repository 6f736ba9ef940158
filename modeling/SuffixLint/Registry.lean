import Std.Data.TreeMap
import SuffixLint.Rule

namespace SuffixLint

structure Registration where
  line : Nat
  standing : RuleStanding
deriving DecidableEq, Repr

structure Registry where
  entries : Std.TreeMap Text Registration compare

namespace Registry

def empty : Registry := ⟨∅⟩

def get? (registry : Registry) (domain : Text) : Option Registration :=
  registry.entries[domain]?

def size (registry : Registry) : Nat := registry.entries.size

def isEmpty (registry : Registry) : Bool := registry.entries.isEmpty

/-- Registers a domain unless it is known already. -/
def insert (registry : Registry) (domain : Text) (registration : Registration) : Registry :=
  ⟨registry.entries.insertIfNew domain registration⟩

def holdsWildcard (registry : Registry) (domain : Text) : Bool :=
  (registry.get? domain).any (·.standing.isWildcard)

@[simp] theorem get?_empty (domain : Text) : empty.get? domain = none := by
  simp [empty, get?]

@[simp] theorem size_empty : empty.size = 0 := by
  simp [empty, size]

theorem get?_insert (registry : Registry) (domain other : Text) (registration : Registration) :
    (registry.insert domain registration).get? other =
      if domain = other ∧ registry.get? domain = none then some registration
      else registry.get? other := by
  simp [insert, get?, Std.TreeMap.getElem?_insertIfNew, Std.LawfulEqCmp.compare_eq_iff_eq]

theorem size_insert (registry : Registry) (domain : Text) (registration : Registration) :
    (registry.insert domain registration).size =
      if (registry.get? domain).isSome then registry.size else registry.size + 1 := by
  simp [insert, get?, size, Std.TreeMap.size_insertIfNew]

end Registry
end SuffixLint
