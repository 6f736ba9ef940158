import SuffixLint.Proofs.FileSystem.Walk

namespace SuffixLint

namespace Path

variable {name : Text} {names : List Text}

structure IsName (name : Text) : Prop where
  separator_not_mem : separator ∉ name
  not_idle : isIdle name = false
  ne_above : name ≠ above

instance : Decidable (IsName name) :=
  decidable_of_iff (separator ∉ name ∧ isIdle name = false ∧ name ≠ above)
    ⟨fun ⟨hfree, hidle, habove⟩ => ⟨hfree, hidle, habove⟩,
      fun ⟨hfree, hidle, habove⟩ => ⟨hfree, hidle, habove⟩⟩

theorem IsName.ne_nil (h : IsName name) : name ≠ [] := by
  rintro rfl
  cases h.not_idle

theorem IsName.ne_here (h : IsName name) : name ≠ here := by
  rintro rfl
  cases h.not_idle

theorem above_not_mem_of_isName (h : ∀ name ∈ names, IsName name) : above ∉ names :=
  fun hmem => (h above hmem).ne_above rfl

theorem names_eq_self (h : ∀ name ∈ names, IsName name) : Path.names names = names :=
  List.filter_eq_self.2 fun name hname => by simp [(h name hname).not_idle]

end Path

namespace FileTree

variable {tree node : FileTree} {name : Text} {names : List Text}
  {entries : List (Text × FileTree)}

/-- Every directory holds entries of different, proper names. -/
inductive WellFormed : FileTree → Prop
  | file (content : Bytes) : WellFormed (.file content)
  | lockedFile : WellFormed .lockedFile
  | directory {entries : List (Text × FileTree)} (hnodup : (entries.map Prod.fst).Nodup)
      (hnames : ∀ entry ∈ entries, Path.IsName entry.1)
      (hentries : ∀ entry ∈ entries, WellFormed entry.2) : WellFormed (.directory entries)

theorem at?_cons_eq_some_iff :
    tree.at? (name :: names) = some node ↔
      ∃ child, tree.child? name = some child ∧ child.at? names = some node := by
  rw [at?]
  cases tree.child? name <;> simp

theorem lookup_eq_some_iff_mem (hnodup : (entries.map Prod.fst).Nodup) :
    entries.lookup name = some node ↔ (name, node) ∈ entries := by
  rw [List.lookup_eq_some_iff]
  constructor
  · rintro ⟨front, back, rfl, _⟩
    exact List.mem_append_right front List.mem_cons_self
  · intro hmem
    obtain ⟨front, back, rfl⟩ := List.append_of_mem hmem
    refine ⟨front, back, rfl, fun other hother => ?_⟩
    rw [List.map_append, List.map_cons, List.nodup_append] at hnodup
    exact bne_iff_ne.2 (hnodup.2.2 _ (List.mem_map_of_mem hother) _ List.mem_cons_self).symm

theorem mem_entries_iff :
    name ∈ tree.entries.map Prod.fst ↔ (tree.child? name).isSome = true := by
  rw [child?, List.lookup_isSome_iff, List.mem_map]
  simp only [beq_iff_eq, eq_comm (a := name)]

theorem WellFormed.child? (h : tree.WellFormed) (hnode : tree.child? name = some node) :
    Path.IsName name ∧ node.WellFormed := by
  cases h with
  | file content => cases hnode
  | lockedFile => cases hnode
  | directory hnodup hnames hentries =>
    have hmem := (lookup_eq_some_iff_mem hnodup).1 hnode
    exact ⟨hnames _ hmem, hentries _ hmem⟩

theorem WellFormed.at? (h : tree.WellFormed) (hnode : tree.at? names = some node) :
    (∀ name ∈ names, Path.IsName name) ∧ node.WellFormed := by
  induction names generalizing tree with
  | nil => exact ⟨fun _ hmem => absurd hmem List.not_mem_nil, Option.some.inj hnode ▸ h⟩
  | cons first names ih =>
    obtain ⟨child, hchild, hnode⟩ := at?_cons_eq_some_iff.1 hnode
    obtain ⟨hfirst, hwell⟩ := h.child? hchild
    obtain ⟨hnames, hwell⟩ := ih hwell hnode
    exact ⟨List.forall_mem_cons.2 ⟨hfirst, hnames⟩, hwell⟩

end FileTree

namespace Disk

variable {disk : Disk} {place target names : List Text}

theorem walk_names (hplace : (disk.root.at? place).isSome = true)
    (hnames : ∀ name ∈ names, Path.IsName name) :
    disk.walk place names = .ok target ↔
      target = place ++ names ∧ (disk.root.at? target).isSome = true := by
  constructor
  · intro h
    have htarget := eq_append_names_of_walk (Path.above_not_mem_of_isName hnames) h
    rw [Path.names_eq_self hnames] at htarget
    exact ⟨htarget, isSome_of_walk hplace h⟩
  · rintro ⟨rfl, hsome⟩
    rcases List.eq_nil_or_concat names with rfl | ⟨front, last, rfl⟩
    · simp [walk]
    · rw [List.concat_eq_append] at hnames hsome ⊢
      have hfront : ∀ name ∈ front, Path.IsName name :=
        fun name hname => hnames name (List.mem_append_left _ hname)
      have hlast := hnames last (List.mem_append_right _ List.mem_cons_self)
      rw [← List.append_assoc] at hsome
      have hdir := directoryAt_of_child hsome
      have hwalk : disk.walk place front = .ok (place ++ Path.names front) :=
        walk_of_directoryAt (Path.above_not_mem_of_isName hfront)
          ((Path.names_eq_self hfront).symm ▸ hdir)
      rw [Path.names_eq_self hfront] at hwalk
      rw [walk_append, hwalk, ← List.append_assoc]
      exact (walk_name hdir hlast.not_idle hlast.ne_above).2 ⟨rfl, hsome⟩

end Disk

end SuffixLint
