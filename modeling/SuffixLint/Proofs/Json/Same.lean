import Mathlib.Data.List.Forall2
import Mathlib.Data.Option.Basic
import SuffixLint.Json

namespace SuffixLint

namespace Json

/-- Two values that a reader takes for one. -/
inductive Same : Json → Json → Prop where
  | null : Same .null .null
  | bool (value : Bool) : Same (.bool value) (.bool value)
  | number (value : Nat) : Same (.number value) (.number value)
  | string (value : Text) : Same (.string value) (.string value)
  | array {a b : List Json} (items : List.Forall₂ Same a b) : Same (.array a) (.array b)
  | object {a b : List (Text × Json)}
      (members : ∀ key, Option.Rel Same (a.lookup key) (b.lookup key)) :
      Same (.object a) (.object b)

mutual

theorem Same.refl : ∀ value, Same value value
  | .null => .null
  | .bool value => .bool value
  | .number value => .number value
  | .string value => .string value
  | .array items => .array (Same.refl_items items)
  | .object members => .object (Same.refl_members members)

theorem Same.refl_items : ∀ items, List.Forall₂ Same items items
  | [] => .nil
  | item :: rest => .cons (Same.refl item) (Same.refl_items rest)

theorem Same.refl_members :
    ∀ (members : List (Text × Json)) key,
      Option.Rel Same (members.lookup key) (members.lookup key)
  | [], _ => .none
  | (_, value) :: rest, key => by
    rw [List.lookup_cons]
    split
    · exact .some (Same.refl value)
    · exact Same.refl_members rest key

end

theorem same_number_iff {a b : Nat} : Same (.number a) (.number b) ↔ a = b := by
  constructor
  · intro h
    cases h
    rfl
  · intro h
    exact h ▸ .number a

theorem same_string_iff {a b : Text} : Same (.string a) (.string b) ↔ a = b := by
  constructor
  · intro h
    cases h
    rfl
  · intro h
    exact h ▸ .string a

theorem same_array_map_iff {α : Type} {toJson : α → Json}
    (hitem : ∀ x y, Same (toJson x) (toJson y) ↔ x = y) {a b : List α} :
    Same (.array (a.map toJson)) (.array (b.map toJson)) ↔ a = b := by
  constructor
  · intro h
    cases h with
    | array items =>
      rw [List.forall₂_map_left_iff, List.forall₂_map_right_iff] at items
      have heq : List.Forall₂ (· = ·) a b := items.imp fun x y => (hitem x y).1
      rwa [List.forall₂_eq_eq_eq] at heq
  · intro h
    exact h ▸ Same.refl _

theorem lookup_ofMembers (members : List (String × Json)) (key : String) :
    (members.map fun (name, value) => (name.toList, value)).lookup key.toList =
      members.lookup key := by
  induction members with
  | nil => rfl
  | cons member rest ih =>
    obtain ⟨name, value⟩ := member
    have hkey : (key.toList == name.toList) = (key == name) := by
      rw [Bool.eq_iff_iff, beq_iff_eq, beq_iff_eq, String.toList_inj]
    rw [List.map_cons, List.lookup_cons, List.lookup_cons, hkey, ih]

variable {a b : List (String × Json)}

theorem Same.lookup (h : Same (ofMembers a) (ofMembers b)) (key : String) :
    Option.Rel Same (a.lookup key) (b.lookup key) := by
  cases h with
  | object members =>
    rw [← lookup_ofMembers a, ← lookup_ofMembers b]
    exact members key.toList

theorem Same.member (h : Same (ofMembers a) (ofMembers b)) (key : String) {x y : Json}
    (hx : a.lookup key = some x) (hy : b.lookup key = some y) : Same x y := by
  have hrel := h.lookup key
  rw [hx, hy] at hrel
  exact Option.rel_some_some.1 hrel

/-- A member that may be missing says whether there is something, and what. -/
theorem Same.optional_member (h : Same (ofMembers a) (ofMembers b)) (key : String)
    {α : Type} {toJson : α → Json} (hvalue : ∀ x y, Same (toJson x) (toJson y) ↔ x = y)
    {x y : Option α} (hx : a.lookup key = x.map toJson) (hy : b.lookup key = y.map toJson) :
    x = y := by
  have hrel := h.lookup key
  rw [hx, hy] at hrel
  cases x with
  | none =>
    cases y with
    | none => rfl
    | some y => cases hrel
  | some x =>
    cases y with
    | none => cases hrel
    | some y => rw [(hvalue x y).1 (Option.rel_some_some.1 hrel)]

end Json
end SuffixLint
