import SuffixLint.Proofs.FileSystem.Walk

namespace SuffixLint

namespace Path

variable {path directory : Path} {name : Text}

namespace Component

def segment? : Component → Option Text
  | root => none
  | current => none
  | parent => some above
  | .name text => some text

theorem segment?_ofSegment (segment : Text) : (ofSegment segment).segment? = some segment := by
  rw [ofSegment]
  split
  · next h => exact h ▸ rfl
  · rfl

theorem ofSegment_ne_root (segment : Text) : ofSegment segment ≠ root := by
  rw [ofSegment]
  split <;> simp

theorem ofSegment_ne_current (segment : Text) : ofSegment segment ≠ current := by
  rw [ofSegment]
  split <;> simp

end Component

theorem components_eq (path : Path) :
    path.components = (if path.isAbsolute then [.root]
      else if path.segments.head? = some here then [.current] else []) ++
        (names path.segments).map Component.ofSegment := rfl

theorem names_segments_eq (path : Path) :
    names path.segments = path.components.filterMap Component.segment? := by
  have hmap : ((names path.segments).map Component.ofSegment).filterMap Component.segment? =
      names path.segments := by
    have hsome : Component.segment? ∘ Component.ofSegment = some :=
      funext Component.segment?_ofSegment
    rw [List.filterMap_map, hsome, List.filterMap_some]
  rw [components_eq, List.filterMap_append, hmap]
  split
  · rfl
  · split <;> rfl

theorem isAbsolute_iff_head? (path : Path) :
    path.isAbsolute = true ↔ path.components.head? = some .root := by
  rw [components_eq]
  split
  · next h => simp [h]
  · next h =>
    refine iff_of_false h ?_
    split
    · simp
    · cases names path.segments with
      | nil => simp
      | cons segment segments => simp [Component.ofSegment_ne_root]

theorem head?_segments_of_isAbsolute (h : path.isAbsolute = true) :
    path.segments.head? = some [] := by
  obtain ⟨rest, htext⟩ := isAbsolute_iff.1 h
  rw [segments, htext, ← List.nil_append (separator :: rest), List.splitOn_append_cons_self]
  rfl

theorem same_here_iff :
    path.same ⟨here⟩ = true ↔ path.segments.head? = some here ∧ names path.segments = [] := by
  have hhere : components ⟨here⟩ = [.current] := by decide
  rw [same, beq_iff_eq, hhere, components_eq]
  split
  · next habsolute =>
    refine iff_of_false (by simp) fun h => ?_
    have hhead := h.1
    rw [head?_segments_of_isAbsolute habsolute] at hhead
    cases hhead
  · split
    · next hhead => simp [hhead]
    · next hhead =>
      refine iff_of_false (fun h => ?_) (fun h => hhead h.1)
      have hmem : Component.current ∈ (names path.segments).map Component.ofSegment := by
        rw [List.nil_append] at h
        rw [h]
        exact List.mem_cons_self
      obtain ⟨segment, _, hsegment⟩ := List.mem_map.1 hmem
      exact Component.ofSegment_ne_current segment hsegment

theorem same_here_name_iff (hfree : separator ∉ name) :
    same ⟨name⟩ ⟨here⟩ = true ↔ name = here := by
  rw [same_here_iff, segments_name hfree, List.head?_cons, Option.some.injEq]
  refine and_iff_left_of_imp ?_
  rintro rfl
  rfl

/-- What is joined to a path that leads on from the current directory leads on from it too. -/
theorem same_here_of_join (hrel : path.isAbsolute = false) (hne : directory.text ≠ [])
    (h : (directory.join path).same ⟨here⟩ = true) : directory.same ⟨here⟩ = true := by
  obtain ⟨front, hfront, hjoin⟩ := segments_join hrel hne
  rw [same_here_iff, hjoin, names_append, List.append_eq_nil_iff] at h
  obtain ⟨hhead, hnames, _⟩ := h
  cases front with
  | nil =>
    rcases hfront with he | he
    · exact absurd he (List.splitOn_ne_nil _ _)
    · have htext : [separator].intercalate directory.segments = directory.text :=
        List.intercalate_splitOn separator
      rw [he] at htext
      exact absurd htext.symm hne
  | cons first front =>
    rw [same_here_iff]
    rcases hfront with he | he
    · rw [he]
      exact ⟨hhead, hnames⟩
    · rw [he, names_append, hnames]
      exact ⟨hhead, rfl⟩

end Path

namespace Disk

variable {disk : Disk} {place : List Text} {a b : Path}

/-- Paths that are the same do not lead to different places. -/
theorem eq_of_same {other : List Text} (hsame : a.same b = true) (ha : disk.locate a = .ok place)
    (hb : disk.locate b = .ok other) : place = other := by
  have hcomponents := beq_iff_eq.1 hsame
  have hnames : Path.names a.segments = Path.names b.segments := by
    rw [Path.names_segments_eq, hcomponents, ← Path.names_segments_eq]
  have habsolute : a.isAbsolute = b.isAbsolute := by
    rw [Bool.eq_iff_iff, Path.isAbsolute_iff_head?, hcomponents, ← Path.isAbsolute_iff_head?]
  rw [locate_eq_walk (text_ne_nil_of_locate ha)] at ha
  rw [locate_eq_walk (text_ne_nil_of_locate hb)] at hb
  rw [eq_arrival_of_walk ha, eq_arrival_of_walk hb, hnames, base, base, habsolute]

end Disk

end SuffixLint
