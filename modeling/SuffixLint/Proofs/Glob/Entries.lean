import Mathlib.Data.List.Basic
import SuffixLint.Glob.Expansion
import SuffixLint.Proofs.FileSystem.Components
import SuffixLint.Proofs.FileSystem.Names

namespace SuffixLint

namespace Glob.Pattern

variable {disk : Disk} {path found : Path} {place names : List Text} {name : Text}
  {tree node : FileTree} {entries : List (Text × FileTree)}

theorem locate_entryPath (h : disk.locate path = .ok place) (hfree : Path.separator ∉ name)
    (hname : path.same ⟨Path.here⟩ = true → name ≠ []) :
    disk.locate (entryPath path name) = disk.walk place [name] := by
  have hrel := Path.isAbsolute_name hfree
  rw [entryPath]
  split
  · next hhere =>
    obtain ⟨hhead, hnames⟩ := Path.same_here_iff.1 hhere
    have habsolute : path.isAbsolute = false := by
      rw [Bool.eq_false_iff]
      intro habsolute
      rw [Path.head?_segments_of_isAbsolute habsolute] at hhead
      cases hhead
    rw [Disk.locate_eq_walk (Disk.text_ne_nil_of_locate h)] at h
    have hcurrent := Disk.eq_arrival_of_walk h
    rw [hnames, Disk.base, habsolute] at hcurrent
    rw [Disk.locate_eq_walk (hname hhere), Disk.base, hrel, Path.segments_name hfree, hcurrent]
    rfl
  · rw [Disk.locate_join h hrel, Path.segments_name hfree]

theorem same_here_of_entryPath (hne : path.text ≠ []) (hfree : Path.separator ∉ name)
    (h : (entryPath path name).same ⟨Path.here⟩ = true) : path.same ⟨Path.here⟩ = true := by
  rw [entryPath] at h
  split at h
  · next hhere => exact hhere
  · exact Path.same_here_of_join (Path.isAbsolute_name hfree) hne h

theorem not_same_here_entryPath (hne : path.text ≠ []) (hfree : Path.separator ∉ name)
    (hhere : name ≠ Path.here) : (entryPath path name).same ⟨Path.here⟩ = false := by
  rw [Bool.eq_false_iff]
  intro h
  have hpath := same_here_of_entryPath hne hfree h
  rw [entryPath, if_pos hpath, Path.same_here_name_iff hfree] at h
  exact hhere h

theorem locate_foldl_entryPath (h : disk.locate path = .ok place)
    (hnames : ∀ name ∈ names, Path.IsName name)
    (hsome : (disk.root.at? (place ++ names)).isSome = true) :
    disk.locate (names.foldl entryPath path) = .ok (place ++ names) := by
  induction names generalizing path place with
  | nil => rw [List.append_nil]; exact h
  | cons name names ih =>
    obtain ⟨hname, hnames⟩ := List.forall_mem_cons.1 hnames
    have hsplit : place ++ name :: names = place ++ [name] ++ names := by simp
    rw [hsplit] at hsome ⊢
    refine ih ?_ hnames hsome
    rw [locate_entryPath h hname.separator_not_mem fun _ => hname.ne_nil]
    refine (Disk.walk_names (Disk.isSome_of_locate h) ?_).2 ⟨rfl, ?_⟩
    · simpa using hname
    · rw [FileTree.at?_append] at hsome
      exact Option.isSome_of_isSome_bind hsome

theorem text_foldl_entryPath_ne_nil (hne : path.text ≠ [])
    (hnames : ∀ name ∈ names, Path.IsName name) : (names.foldl entryPath path).text ≠ [] := by
  induction names generalizing path with
  | nil => exact hne
  | cons name names ih =>
    obtain ⟨hname, hnames⟩ := List.forall_mem_cons.1 hnames
    refine ih ?_ hnames
    rw [entryPath]
    split
    · exact hname.ne_nil
    · exact Path.text_join_ne_nil hne

theorem not_same_here_foldl (hne : path.text ≠ [])
    (hnames : ∀ other ∈ names ++ [name], Path.IsName other) :
    ((names ++ [name]).foldl entryPath path).same ⟨Path.here⟩ = false := by
  obtain ⟨hnames, hname⟩ := List.forall_mem_append.1 hnames
  have hname := hname name List.mem_cons_self
  rw [List.foldl_append]
  refine not_same_here_entryPath (text_foldl_entryPath_ne_nil hne hnames) hname.separator_not_mem ?_
  rintro rfl
  exact absurd hname.not_idle (by decide)

theorem mem_belowEntries_iff :
    (found, name, node) ∈ belowEntries path entries ↔
      ∃ entry ∈ entries, (found, name, node) = (entryPath path entry.1, entry) ∨
        (found, name, node) ∈ below (entryPath path entry.1) entry.2 := by
  induction entries with
  | nil => simp [belowEntries]
  | cons entry entries ih =>
    obtain ⟨other, child⟩ := entry
    rw [belowEntries, List.mem_append, ih, List.mem_cons, List.exists_mem_cons_iff]

/-- Below an entry lies what one or more names lead to from it. -/
theorem mem_below_iff (h : tree.WellFormed) :
    (found, name, node) ∈ below path tree ↔
      ∃ through, tree.at? (through ++ [name]) = some node ∧
        found = (through ++ [name]).foldl entryPath path := by
  induction h generalizing path with
  | file content =>
    refine iff_of_false (by simp [below]) ?_
    rintro ⟨_ | _, h, _⟩ <;> cases h
  | lockedFile =>
    refine iff_of_false (by simp [below]) ?_
    rintro ⟨_ | _, h, _⟩ <;> cases h
  | @directory entries hnodup hnames hentries ih =>
    rw [below, mem_belowEntries_iff]
    constructor
    · rintro ⟨entry, hentry, hfound | hfound⟩
      · cases hfound
        refine ⟨[], FileTree.at?_cons_eq_some_iff.2 ⟨_, ?_, rfl⟩, rfl⟩
        exact (FileTree.lookup_eq_some_iff_mem hnodup).2 hentry
      · obtain ⟨through, hnode, hfound⟩ := (ih entry hentry).1 hfound
        refine ⟨entry.1 :: through, FileTree.at?_cons_eq_some_iff.2 ⟨_, ?_, hnode⟩, hfound⟩
        exact (FileTree.lookup_eq_some_iff_mem hnodup).2 hentry
    · rintro ⟨_ | ⟨first, through⟩, hnode, rfl⟩
      · obtain ⟨child, hchild, hnode⟩ := FileTree.at?_cons_eq_some_iff.1 hnode
        cases hnode
        exact ⟨_, (FileTree.lookup_eq_some_iff_mem hnodup).1 hchild, .inl rfl⟩
      · obtain ⟨child, hchild, hnode⟩ := FileTree.at?_cons_eq_some_iff.1 hnode
        have hentry := (FileTree.lookup_eq_some_iff_mem hnodup).1 hchild
        exact ⟨_, hentry, .inr ((ih _ hentry).2 ⟨through, hnode, rfl⟩)⟩

end Glob.Pattern

end SuffixLint
