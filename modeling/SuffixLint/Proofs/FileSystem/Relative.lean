import SuffixLint.Proofs.FileSystem.Components
import SuffixLint.Proofs.FileSystem.Names
import SuffixLint.Proofs.FileSystem.Parent

namespace SuffixLint

namespace Path

open Component (ofSegment)

variable {path directory : Path} {names : List Text} {segment : Text}
  {goal start : List Component}

namespace Component

theorem text_ofSegment (segment : Text) : (ofSegment segment).text = segment := by
  rw [ofSegment]
  split
  · next h => exact h.symm
  · rfl

theorem ofSegment_eq_parent_iff : ofSegment segment = parent ↔ segment = above := by
  rw [ofSegment]
  split
  · next h => simp [h]
  · next h => simp [h]

theorem map_text_ofSegment (segments : List Text) :
    (segments.map ofSegment).map Component.text = segments := by
  have hid : Component.text ∘ ofSegment = id := funext text_ofSegment
  rw [List.map_map, hid, List.map_id]

end Component

theorem parent_mem_components_iff :
    Component.parent ∈ path.components ↔ above ∈ Path.names path.segments := by
  have hnames : Component.parent ∈ (Path.names path.segments).map ofSegment ↔
      above ∈ Path.names path.segments := by
    simp only [List.mem_map, Component.ofSegment_eq_parent_iff, exists_eq_right]
  rw [components_eq, List.mem_append, hnames, or_iff_right]
  split
  · simp
  · split <;> simp

theorem components_of_isAbsolute (h : path.isAbsolute = true) :
    path.components = .root :: (Path.names path.segments).map ofSegment := by
  rw [components_eq, if_pos h]
  rfl

theorem names_segments_join (hrel : path.isAbsolute = false) :
    Path.names (directory.join path).segments =
      Path.names directory.segments ++ Path.names path.segments := by
  by_cases hempty : directory.text = []
  · obtain rfl : directory = ⟨[]⟩ := congrArg Path.mk hempty
    have hjoin : Path.join ⟨[]⟩ path = path := by simp [join, hrel]
    rw [hjoin]
    rfl
  · obtain ⟨front, hfront, hjoin⟩ := segments_join hrel hempty
    rw [hjoin, names_append]
    rcases hfront with he | he
    · rw [he]
    · rw [he, names_append]
      exact congrArg (· ++ _) (List.append_nil _).symm

theorem isAbsolute_join_of_relative (directory : Path) (hrel : path.isAbsolute = false) :
    (directory.join path).isAbsolute = directory.isAbsolute := by
  by_cases hempty : directory.text = []
  · obtain rfl : directory = ⟨[]⟩ := congrArg Path.mk hempty
    simp [join, hrel]
  · exact isAbsolute_join hrel hempty

theorem isName_of_mem_names {name : Text} (h : Component.parent ∉ path.components)
    (hname : name ∈ Path.names path.segments) : IsName name where
  separator_not_mem := separator_not_mem_of_mem_segments (mem_names.1 hname).1
  not_idle := (mem_names.1 hname).2
  ne_above := by
    rintro rfl
    exact h (parent_mem_components_iff.2 hname)

def ofNames (names : List Text) : Path := ⟨Text.join [separator] names⟩

theorem isAbsolute_ofNames (h : ∀ name ∈ names, IsName name) :
    (ofNames names).isAbsolute = false := by
  have hfree : ∀ name ∈ names, separator ∉ name := fun name hname => (h name hname).separator_not_mem
  have hhead := Parts.head?_join_ne hfree fun hfirst =>
    absurd rfl (h [] (List.mem_of_head? hfirst)).ne_nil
  exact beq_eq_false_iff_ne.2 hhead

theorem names_segments_ofNames (h : ∀ name ∈ names, IsName name) :
    Path.names (ofNames names).segments = names := by
  rw [segments, ofNames, names_splitOn_join fun name hname => (h name hname).separator_not_mem,
    names_eq_self h]

theorem components_ofNames (h : ∀ name ∈ names, IsName name) :
    (ofNames names).components = names.map ofSegment := by
  have hhead : (ofNames names).segments.head? ≠ some here := by
    by_cases hempty : names = []
    · subst hempty
      decide
    · have hsegments : (ofNames names).segments = names :=
        List.splitOn_intercalate separator (fun name hname => (h name hname).separator_not_mem)
          hempty
      rw [hsegments]
      exact fun he => absurd rfl (h here (List.mem_of_head? he)).ne_here
  rw [components_eq, if_neg (Bool.eq_false_iff.1 (isAbsolute_ofNames h)), if_neg hhead,
    names_segments_ofNames h, List.nil_append]

theorem join_ofNames {name : Text} (h : ∀ name ∈ names, IsName name) (hname : IsName name) :
    (ofNames names).join ⟨name⟩ = ofNames (names ++ [name]) := by
  rw [join, if_neg (Bool.eq_false_iff.1 (isAbsolute_name hname.separator_not_mem))]
  rcases List.eq_nil_or_concat names with rfl | ⟨front, last, rfl⟩
  · exact congrArg Path.mk (Text.join_singleton separator name).symm
  · rw [List.concat_eq_append] at h ⊢
    have hlast := h last (List.mem_append_right _ List.mem_cons_self)
    have htext : (ofNames (front ++ [last])).text.getLast? = last.getLast? :=
      Text.getLast?_join_append_singleton separator front hlast.ne_nil
    have hend : last.getLast? ≠ some separator :=
      fun he => hlast.separator_not_mem (List.mem_of_getLast? he)
    have hempty : (ofNames (front ++ [last])).text ≠ [] := by
      intro he
      rw [he, eq_comm, List.getLast?_nil, List.getLast?_eq_none_iff] at htext
      exact hlast.ne_nil htext
    rw [if_neg (by simp [hempty, htext, hend])]
    exact congrArg Path.mk (Text.join_append_singleton separator name (by simp)).symm

theorem ofComponents_map_ofSegment (h : ∀ name ∈ names, IsName name) :
    ofComponents (names.map ofSegment) = ofNames names := by
  induction names using List.reverseRecOn with
  | nil => rfl
  | append_singleton names name ih =>
    have hnames : ∀ name ∈ names, IsName name := fun _ hm => h _ (List.mem_append_left _ hm)
    have hname := h name (List.mem_append_right _ List.mem_cons_self)
    rw [← join_ofNames hnames hname, ← ih hnames, List.map_append, ofComponents, List.foldl_append]
    exact congrArg (Path.join _ ⟨·⟩) (Component.text_ofSegment name)

theorem way_append (start rest : List Component) : way (start ++ rest) start = some rest := by
  induction start with
  | nil => cases rest <;> rfl
  | cons component start ih => rw [List.cons_append, way, if_pos rfl, ih]

/-- The way to what is not below the start begins with a step up, if there is a way at all. -/
theorem head?_way_of_not_prefix {steps : List Component} (h : ¬ start <+: goal)
    (hway : way goal start = some steps) : steps.head? = some .parent := by
  fun_induction way goal start with
  | case1 goal => exact absurd List.nil_prefix h
  | case2 start hstart =>
    obtain ⟨component, start, rfl⟩ := List.exists_cons_of_ne_nil hstart
    cases hway
    rfl
  | case3 goal component start ih =>
    exact ih (fun hprefix => h (List.cons_prefix_cons.2 ⟨rfl, hprefix⟩)) hway
  | case4 => cases hway
  | case5 =>
    cases hway
    rfl

end Path

namespace Disk

open Path.Component (ofSegment)

variable {disk : Disk} {path directory : Path}

theorem absolute_of_isAbsolute (h : path.isAbsolute = true) : disk.absolute path = path := if_pos h

theorem isAbsolute_absolute (disk : Disk) (path : Path) :
    (disk.absolute path).isAbsolute = true := by
  cases h : path.isAbsolute with
  | true => rw [absolute_of_isAbsolute h, h]
  | false => exact Path.isAbsolute_join h (List.cons_ne_nil _ _)

theorem components_absolute (disk : Disk) (path : Path) :
    (disk.absolute path).components =
      .root :: (Path.names (disk.absolute path).segments).map ofSegment :=
  Path.components_of_isAbsolute (isAbsolute_absolute disk path)

/-- What is joined to a directory leads on from where the directory leads. -/
theorem components_absolute_join (hrel : path.isAbsolute = false) :
    (disk.absolute (directory.join path)).components =
      (disk.absolute directory).components ++ (Path.names path.segments).map ofSegment := by
  have hnames : Path.names (disk.absolute (directory.join path)).segments =
      Path.names (disk.absolute directory).segments ++ Path.names path.segments := by
    have habsolute := Path.isAbsolute_join_of_relative directory hrel
    cases h : directory.isAbsolute with
    | true =>
      rw [absolute_of_isAbsolute h, absolute_of_isAbsolute (habsolute.trans h),
        Path.names_segments_join hrel]
    | false =>
      rw [absolute, absolute, Path.names_segments_join h,
        Path.names_segments_join (habsolute.trans h), Path.names_segments_join hrel,
        List.append_assoc]
  rw [components_absolute, hnames, List.map_append, ← List.cons_append, ← components_absolute]

/-- No step leads up in a path made absolute if none does in the path, and none in the name of the
current directory where that is put in front. -/
theorem parent_not_mem_absolute (hpath : Path.Component.parent ∉ path.components)
    (hcurrent : path.isAbsolute = false → Path.Component.parent ∉ disk.currentPath.components) :
    Path.Component.parent ∉ (disk.absolute path).components := by
  cases h : path.isAbsolute with
  | true =>
    rw [absolute_of_isAbsolute h]
    exact hpath
  | false =>
    have hstart := hcurrent h
    rw [Path.parent_mem_components_iff] at hpath hstart ⊢
    rw [absolute, Path.names_segments_join h, List.mem_append, not_or]
    exact ⟨hstart, hpath⟩

end Disk
end SuffixLint
