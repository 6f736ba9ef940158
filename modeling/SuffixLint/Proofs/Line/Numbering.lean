import SuffixLint.Line.Reader

namespace SuffixLint.Line

theorem numberFrom_append (first : Nat) (a b : List Bytes) :
    numberFrom first (a ++ b) = numberFrom first a ++ numberFrom (first + a.length) b := by
  induction a generalizing first with
  | nil => rfl
  | cons raw a ih =>
    have hlength : first + 1 + a.length = first + (raw :: a).length := by
      rw [List.length_cons, Nat.add_assoc, Nat.add_comm 1]
    rw [List.cons_append, numberFrom, ih, hlength, numberFrom, List.cons_append]

theorem exists_of_numberFrom_eq_append {first : Nat} {raws : List Bytes} {a b : List Line}
    (h : numberFrom first raws = a ++ b) :
    ∃ front back, raws = front ++ back ∧ a = numberFrom first front ∧
      b = numberFrom (first + front.length) back := by
  refine ⟨raws.take a.length, raws.drop a.length, (List.take_append_drop _ _).symm, ?_⟩
  have hlength := congrArg List.length h
  rw [length_numberFrom, List.length_append] at hlength
  rw [← List.take_append_drop a.length raws, numberFrom_append] at h
  refine (List.append_inj h ?_).imp Eq.symm Eq.symm
  rw [length_numberFrom, List.length_take]
  omega

theorem map_number_numberFrom (first : Nat) (raws : List Bytes) :
    (numberFrom first raws).map (·.number) = List.range' first raws.length := by
  induction raws generalizing first with
  | nil => rfl
  | cons raw raws ih => rw [numberFrom, List.map_cons, ih, List.length_cons, List.range'_succ,
      ofBytes_number]

theorem mem_map_number_numberFrom {first number : Nat} {raws : List Bytes} :
    number ∈ (numberFrom first raws).map (·.number) ↔
      first ≤ number ∧ number < first + raws.length := by
  rw [map_number_numberFrom, List.mem_range'_1]

theorem exists_of_mem_numberFrom {first : Nat} {raws : List Bytes} {line : Line}
    (h : line ∈ numberFrom first raws) : ∃ raw ∈ raws, line = ofBytes line.number raw := by
  induction raws generalizing first with
  | nil => cases h
  | cons raw raws ih =>
    rcases List.mem_cons.1 h with rfl | h
    · exact ⟨raw, List.mem_cons_self, rfl⟩
    · obtain ⟨other, hother, hline⟩ := ih h
      exact ⟨other, List.mem_cons_of_mem _ hother, hline⟩

theorem exists_mem_numberFrom (first : Nat) {raws : List Bytes} {raw : Bytes} (h : raw ∈ raws) :
    ∃ number, ofBytes number raw ∈ numberFrom first raws := by
  obtain ⟨front, back, rfl⟩ := List.append_of_mem h
  refine ⟨first + front.length, ?_⟩
  rw [numberFrom_append, numberFrom]
  exact List.mem_append_right _ List.mem_cons_self

theorem getLast?_numberFrom_one {raws : List Bytes} {raw : Bytes} (h : raw ∈ raws.getLast?) :
    (numberFrom 1 raws).getLast? = some (ofBytes raws.length raw) := by
  obtain ⟨front, rfl⟩ := List.getLast?_eq_some_iff.1 h
  have hnumber : 1 + front.length = (front ++ [raw]).length := by
    rw [List.length_append, List.length_singleton, Nat.add_comm]
  rw [numberFrom_append, hnumber]
  exact List.getLast?_concat

theorem lastNumber_numberFrom_one (raws : List Bytes) :
    ((numberFrom 1 raws).map (·.number)).getLast?.getD 0 = raws.length := by
  rw [map_number_numberFrom, List.getLast?_range']
  cases raws with
  | nil => rfl
  | cons raw rest =>
    rw [List.length_cons, if_neg (Nat.succ_ne_zero _), Option.getD_some]
    omega

def Increasing (lines : List Line) : Prop := lines.Pairwise (·.number < ·.number)

theorem increasing_numberFrom (first : Nat) (raws : List Bytes) :
    Increasing (numberFrom first raws) := by
  induction raws generalizing first with
  | nil => exact .nil
  | cons raw raws ih =>
    refine .cons ?_ (ih (first + 1))
    intro line h
    exact Nat.lt_of_succ_le (mem_map_number_numberFrom.1 (List.mem_map_of_mem h)).1

theorem increasing_ofData (data : Bytes) : Increasing (ofData data) :=
  increasing_numberFrom 1 (split data)

theorem Increasing.nodup_numbers {lines : List Line} (h : Increasing lines) :
    (lines.map (·.number)).Nodup := by
  rw [List.Nodup, List.pairwise_map]
  exact h.imp Nat.ne_of_lt

theorem Increasing.number_ne {a b : List Line} (h : Increasing (a ++ b)) {line other : Line}
    (hline : line ∈ a) (hother : other ∈ b) : line.number ≠ other.number :=
  Nat.ne_of_lt ((List.pairwise_append.1 h).2.2 line hline other hother)

theorem Increasing.number_ne_middle {before after : List Line} {line : Line}
    (h : Increasing (before ++ line :: after)) :
    (∀ other ∈ before, other.number ≠ line.number) ∧
      ∀ other ∈ after, other.number ≠ line.number := by
  refine ⟨fun other hm => h.number_ne hm List.mem_cons_self, ?_⟩
  intro other hm
  have hrest : Increasing (line :: after) := (List.pairwise_append.1 h).2.1
  exact (Nat.ne_of_lt (List.rel_of_pairwise_cons hrest hm)).symm

end SuffixLint.Line
