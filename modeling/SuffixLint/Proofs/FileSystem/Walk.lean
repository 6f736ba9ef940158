import SuffixLint.FileSystem.Disk
import SuffixLint.Proofs.Text.Parts

namespace SuffixLint

namespace FileTree

variable {tree : FileTree} {front back : List Text} {name : Text}

theorem at?_append : tree.at? (front ++ back) = (tree.at? front).bind (·.at? back) := by
  induction front generalizing tree with
  | nil => rfl
  | cons name front ih =>
    rw [List.cons_append, at?, at?]
    cases tree.child? name with
    | none => rfl
    | some entry => exact ih

theorem at?_append_singleton :
    tree.at? (front ++ [name]) = (tree.at? front).bind (·.child? name) := by
  rw [at?_append]
  congr 1
  funext node
  rw [at?]
  cases node.child? name <;> rfl

theorem isDirectory_of_child?_isSome (h : (tree.child? name).isSome = true) :
    tree.isDirectory = true := by
  cases tree with
  | directory entries => rfl
  | file content => cases h
  | lockedFile => cases h

end FileTree

namespace Path

@[simp] theorem isIdle_nil : isIdle [] = true := rfl

theorem separator_not_mem_of_mem_segments {path : Path} {segment : Text}
    (h : segment ∈ path.segments) : separator ∉ segment :=
  Text.not_mem_of_mem_splitOn h

theorem isAbsolute_iff {path : Path} :
    path.isAbsolute = true ↔ ∃ rest, path.text = separator :: rest := by
  rw [isAbsolute, beq_iff_eq, List.head?_eq_some_iff]

theorem isAbsolute_name {name : Text} (h : separator ∉ name) : isAbsolute ⟨name⟩ = false := by
  rw [Bool.eq_false_iff]
  intro habsolute
  obtain ⟨rest, rfl⟩ := isAbsolute_iff.1 habsolute
  exact h List.mem_cons_self

theorem segments_name {name : Text} (h : separator ∉ name) : segments ⟨name⟩ = [name] :=
  List.splitOn_eq_singleton h

theorem exists_text_join {directory path : Path} (hrel : path.isAbsolute = false)
    (hne : directory.text ≠ []) :
    ∃ front, (directory.text = front ∨ directory.text = front ++ [separator]) ∧
      (directory.join path).text = front ++ separator :: path.text := by
  have hempty : directory.text.isEmpty = false := by simpa using hne
  rw [join, if_neg (by simp [hrel]), hempty, Bool.false_or]
  split
  · next hlast =>
    obtain ⟨front, hfront⟩ := List.getLast?_eq_some_iff.1 (of_decide_eq_true hlast)
    exact ⟨front, .inr hfront, by rw [hfront, List.append_assoc, List.singleton_append]⟩
  · exact ⟨directory.text, .inl rfl, rfl⟩

/-- A joined path has the segments of both paths, except for an empty one between them. -/
theorem segments_join {directory path : Path} (hrel : path.isAbsolute = false)
    (hne : directory.text ≠ []) :
    ∃ front, (directory.segments = front ∨ directory.segments = front ++ [[]]) ∧
      (directory.join path).segments = front ++ path.segments := by
  obtain ⟨front, hfront, hjoin⟩ := exists_text_join hrel hne
  refine ⟨front.splitOn separator, ?_, by rw [segments, hjoin, List.splitOn_append_cons_self]; rfl⟩
  refine hfront.imp (fun he => by rw [segments, he]) fun he => ?_
  rw [segments, he, List.splitOn_append_cons_self, List.splitOn_nil]

theorem text_join_ne_nil {directory path : Path} (hne : directory.text ≠ []) :
    (directory.join path).text ≠ [] := by
  intro h
  rw [join] at h
  split at h
  · next habsolute => simp [isAbsolute, h] at habsolute
  · split at h <;> simp [hne] at h

theorem isAbsolute_join {directory path : Path} (hrel : path.isAbsolute = false)
    (hne : directory.text ≠ []) : (directory.join path).isAbsolute = directory.isAbsolute := by
  obtain ⟨c, rest, htext⟩ := List.exists_cons_of_ne_nil hne
  rw [join, if_neg (by simp [hrel]), isAbsolute, isAbsolute]
  split
  · rw [htext, List.cons_append, List.head?_cons, List.head?_cons]
  · rw [htext, List.cons_append, List.head?_cons, List.head?_cons]

end Path

namespace Disk

variable {disk : Disk} {place target : List Text} {segment : Text} {segments : List Text}

def DirectoryAt (disk : Disk) (place : List Text) : Prop :=
  (disk.root.at? place).any (·.isDirectory) = true

instance : Decidable (disk.DirectoryAt place) :=
  inferInstanceAs (Decidable ((disk.root.at? place).any (·.isDirectory) = true))

theorem directoryAt_iff :
    disk.DirectoryAt place ↔ ∃ node, disk.root.at? place = some node ∧ node.isDirectory = true := by
  rw [DirectoryAt, Option.any_eq_true]

theorem directoryAt_of_child (h : (disk.root.at? (place ++ [segment])).isSome = true) :
    disk.DirectoryAt place := by
  rw [FileTree.at?_append_singleton] at h
  rw [DirectoryAt]
  cases hnode : disk.root.at? place with
  | none =>
    rw [hnode] at h
    cases h
  | some node =>
    rw [hnode] at h
    exact FileTree.isDirectory_of_child?_isSome h

theorem DirectoryAt.isSome (h : disk.DirectoryAt place) :
    (disk.root.at? place).isSome = true := by
  rw [DirectoryAt] at h
  cases hnode : disk.root.at? place with
  | none => simp [hnode] at h
  | some node => rfl

theorem DirectoryAt.of_prefix {above : List Text} (h : disk.DirectoryAt place)
    (hbelow : above <+: place) : disk.DirectoryAt above := by
  obtain ⟨names, rfl⟩ := hbelow
  cases names with
  | nil => simpa using h
  | cons name names =>
    have hsome := h.isSome
    rw [← List.singleton_append, ← List.append_assoc, FileTree.at?_append] at hsome
    exact directoryAt_of_child (Option.isSome_of_isSome_bind hsome)

theorem walk_cons_of_not_directoryAt (h : ¬ disk.DirectoryAt place) :
    disk.walk place (segment :: segments) =
      .error (if (disk.root.at? place).isSome then .notDirectory else .notFound) := by
  rw [DirectoryAt] at h
  rw [walk]
  cases hnode : disk.root.at? place with
  | none => rfl
  | some node =>
    have hno : node.isDirectory = false := by simpa [hnode] using h
    simp [hno]

theorem directoryAt_of_walk (h : disk.walk place (segment :: segments) = .ok target) :
    disk.DirectoryAt place := by
  refine Classical.byContradiction fun hno => ?_
  rw [walk_cons_of_not_directoryAt hno] at h
  cases h

theorem directoryAt_of_walk_append_singleton
    (h : disk.walk place (segments ++ [segment]) = .ok target) : disk.DirectoryAt place := by
  cases segments with
  | nil => exact directoryAt_of_walk h
  | cons first segments => exact directoryAt_of_walk h

theorem walk_cons (h : disk.DirectoryAt place) :
    disk.walk place (segment :: segments) =
      if Path.isIdle segment then disk.walk place segments
      else if segment = Path.above then disk.walk place.dropLast segments
      else if (disk.root.at? (place ++ [segment])).isSome then
        disk.walk (place ++ [segment]) segments
      else .error .notFound := by
  rw [DirectoryAt] at h
  rw [walk, FileTree.at?_append_singleton]
  cases hnode : disk.root.at? place with
  | none => simp [hnode] at h
  | some node =>
    have hdirectory : node.isDirectory = true := by simpa [hnode] using h
    simp [hdirectory]

theorem walk_empty_iff :
    disk.walk place [[]] = .ok target ↔ target = place ∧ disk.DirectoryAt place := by
  constructor
  · intro h
    have hdir := directoryAt_of_walk h
    rw [walk_cons hdir, Path.isIdle_nil, if_pos rfl] at h
    exact ⟨(Except.ok.inj h).symm, hdir⟩
  · rintro ⟨rfl, hdir⟩
    rw [walk_cons hdir, Path.isIdle_nil, if_pos rfl]
    rfl

theorem walk_append (front back : List Text) :
    disk.walk place (front ++ back) = (disk.walk place front).bind (disk.walk · back) := by
  induction front generalizing place with
  | nil => rfl
  | cons segment front ih =>
    rw [List.cons_append]
    by_cases hdir : disk.DirectoryAt place
    · rw [walk_cons hdir, walk_cons hdir]
      split
      · exact ih
      · split
        · exact ih
        · split
          · exact ih
          · rfl
    · rw [walk_cons_of_not_directoryAt hdir, walk_cons_of_not_directoryAt hdir]
      rfl

theorem walk_append_eq_ok_iff {front back : List Text} :
    disk.walk place (front ++ back) = .ok target ↔
      ∃ between, disk.walk place front = .ok between ∧ disk.walk between back = .ok target := by
  rw [walk_append]
  cases disk.walk place front <;> simp [Except.bind]

theorem walk_cons_eq_ok_iff :
    disk.walk place (segment :: segments) = .ok target ↔
      ∃ between, disk.walk place [segment] = .ok between ∧
        disk.walk between segments = .ok target := by
  rw [← List.singleton_append, walk_append_eq_ok_iff]

theorem isSome_of_walk (hstart : (disk.root.at? place).isSome = true)
    (h : disk.walk place segments = .ok target) : (disk.root.at? target).isSome = true := by
  induction segments generalizing place with
  | nil =>
    rw [walk, Except.ok.injEq] at h
    exact h ▸ hstart
  | cons segment segments ih =>
    have hdir := directoryAt_of_walk h
    rw [walk_cons hdir] at h
    split at h
    · exact ih hstart h
    · split at h
      · exact ih (hdir.of_prefix (List.dropLast_prefix place)).isSome h
      · split at h
        · next hchild => exact ih hchild h
        · cases h

theorem walk_name {name : Text} (hdir : disk.DirectoryAt place) (hidle : Path.isIdle name = false)
    (habove : name ≠ Path.above) :
    disk.walk place [name] = .ok target ↔
      target = place ++ [name] ∧ (disk.root.at? target).isSome = true := by
  rw [walk_cons hdir, hidle, if_neg Bool.false_ne_true, if_neg habove]
  split
  · next h =>
    rw [walk, Except.ok.injEq]
    constructor
    · rintro rfl
      exact ⟨rfl, h⟩
    · rintro ⟨rfl, _⟩
      rfl
  · next h =>
    refine iff_of_false (by simp) ?_
    rintro ⟨rfl, hsome⟩
    exact h hsome

end Disk

namespace Path

def names (segments : List Text) : List Text := segments.filter (!isIdle ·)

@[simp] theorem names_nil : names [] = [] := rfl

theorem names_append (front back : List Text) : names (front ++ back) = names front ++ names back :=
  List.filter_append ..

theorem mem_names {segments : List Text} {segment : Text} :
    segment ∈ names segments ↔ segment ∈ segments ∧ isIdle segment = false := by
  simp [names]

theorem above_mem_names {segments : List Text} : above ∈ names segments ↔ above ∈ segments := by
  rw [mem_names]
  exact and_iff_left (by decide)

end Path

namespace Disk

variable {disk : Disk} {place target : List Text} {segments : List Text} {path : Path}

/-- Where names lead from a place, whatever is there. -/
def arrival (place names : List Text) : List Text :=
  names.foldl (fun between name =>
    if name = Path.above then between.dropLast else between ++ [name]) place

theorem eq_arrival_of_walk (h : disk.walk place segments = .ok target) :
    target = arrival place (Path.names segments) := by
  induction segments generalizing place with
  | nil => exact (Except.ok.inj h).symm
  | cons segment segments ih =>
    rw [walk_cons (directoryAt_of_walk h)] at h
    cases hidle : Path.isIdle segment with
    | true =>
      rw [hidle, if_pos rfl] at h
      rw [ih h, Path.names, Path.names, List.filter_cons_of_neg (by simp [hidle])]
    | false =>
      rw [hidle, if_neg Bool.false_ne_true] at h
      rw [Path.names, List.filter_cons_of_pos (by simp [hidle]), arrival, List.foldl_cons]
      split at h
      · next habove => rw [ih h, if_pos habove, arrival, Path.names]
      · next habove =>
        split at h
        · rw [ih h, if_neg habove, arrival, Path.names]
        · cases h

theorem arrival_of_above_not_mem {names : List Text} (habove : Path.above ∉ names) :
    arrival place names = place ++ names := by
  induction names generalizing place with
  | nil => exact (List.append_nil place).symm
  | cons name names ih =>
    rw [List.mem_cons, not_or] at habove
    rw [arrival, List.foldl_cons, if_neg (Ne.symm habove.1), ← arrival, ih habove.2,
      List.append_assoc, List.singleton_append]

/-- A walk that never goes up ends where the names of its segments lead. -/
theorem eq_append_names_of_walk (habove : Path.above ∉ segments)
    (h : disk.walk place segments = .ok target) : target = place ++ Path.names segments :=
  (eq_arrival_of_walk h).trans (arrival_of_above_not_mem (mt Path.above_mem_names.1 habove))

/-- A walk that never goes up reaches every directory. -/
theorem walk_of_directoryAt (habove : Path.above ∉ segments)
    (hdir : disk.DirectoryAt (place ++ Path.names segments)) :
    disk.walk place segments = .ok (place ++ Path.names segments) := by
  induction segments generalizing place with
  | nil => simp [walk]
  | cons segment segments ih =>
    rw [List.mem_cons, not_or] at habove
    rw [walk_cons (hdir.of_prefix (List.prefix_append _ _))]
    cases hidle : Path.isIdle segment with
    | true =>
      have hnames : Path.names (segment :: segments) = Path.names segments :=
        List.filter_cons_of_neg (by simp [hidle])
      rw [hnames] at hdir ⊢
      rw [if_pos rfl]
      exact ih habove.2 hdir
    | false =>
      have hnames : Path.names (segment :: segments) = segment :: Path.names segments :=
        List.filter_cons_of_pos (by simp [hidle])
      have hsplit : place ++ segment :: Path.names segments =
          (place ++ [segment]) ++ Path.names segments := by simp
      rw [hnames, hsplit] at hdir ⊢
      rw [if_neg Bool.false_ne_true, if_neg (Ne.symm habove.1),
        if_pos (hdir.of_prefix (List.prefix_append _ _)).isSome]
      exact ih habove.2 hdir

def base (disk : Disk) (path : Path) : List Text := if path.isAbsolute then [] else disk.current

theorem locate_eq_walk (h : path.text ≠ []) :
    disk.locate path = disk.walk (disk.base path) path.segments := by
  rw [locate, if_neg (by simpa using h)]
  rfl

theorem text_ne_nil_of_locate (h : disk.locate path = .ok place) : path.text ≠ [] := by
  intro he
  rw [locate, he] at h
  cases h

theorem isSome_of_locate (h : disk.locate path = .ok place) :
    (disk.root.at? place).isSome = true := by
  rw [locate_eq_walk (text_ne_nil_of_locate h)] at h
  obtain ⟨segment, segments, hsegments⟩ := List.exists_cons_of_ne_nil
    (List.splitOn_ne_nil Path.separator path.text)
  rw [Path.segments, hsegments] at h
  exact isSome_of_walk (directoryAt_of_walk h).isSome h

theorem contains_iff : disk.contains path = true ↔ ∃ place, disk.locate path = .ok place := by
  rw [contains, find]
  cases h : disk.locate path with
  | error error => simp [Except.toOption]
  | ok place =>
    obtain ⟨node, hnode⟩ := Option.isSome_iff_exists.1 (isSome_of_locate h)
    simp [hnode, Except.toOption]

theorem isDirectory_iff :
    disk.isDirectory path = true ↔
      ∃ place, disk.locate path = .ok place ∧ disk.DirectoryAt place := by
  rw [isDirectory, find]
  cases h : disk.locate path with
  | error error => simp [Except.toOption]
  | ok place =>
    obtain ⟨node, hnode⟩ := Option.isSome_iff_exists.1 (isSome_of_locate h)
    simp [hnode, Except.toOption, DirectoryAt]

theorem directory?_eq_some_iff {node : FileTree} :
    disk.directory? path = some node ↔
      ∃ place, disk.locate path = .ok place ∧ disk.root.at? place = some node ∧
        node.isDirectory = true := by
  rw [directory?, find]
  cases h : disk.locate path with
  | error error => simp [Except.toOption]
  | ok place =>
    obtain ⟨node, hnode⟩ := Option.isSome_iff_exists.1 (isSome_of_locate h)
    simp only [hnode, Except.toOption, Option.filter_eq_some_iff, Except.ok.injEq]
    simp [hnode]

/-- What a path stands for where a name is joined to it: the empty path for the current directory,
any other for what it denotes. -/
inductive Stands (disk : Disk) : Path → List Text → Prop
  | empty : Stands disk ⟨[]⟩ disk.current
  | located {path : Path} {place : List Text} (h : disk.locate path = .ok place) :
      Stands disk path place

theorem walk_of_locate {front : List Text} (h : disk.locate path = .ok place)
    (hfront : path.segments = front ∨ path.segments = front ++ [[]]) :
    disk.walk (disk.base path) front = .ok place := by
  rw [locate_eq_walk (text_ne_nil_of_locate h)] at h
  rcases hfront with he | he
  · rw [← he]
    exact h
  · rw [he, walk_append_eq_ok_iff] at h
    obtain ⟨between, hbetween, hlast⟩ := h
    exact (walk_empty_iff.1 hlast).1 ▸ hbetween

/-- A relative path is walked from what the directory in front of it denotes. -/
theorem locate_join {directory : Path} (h : disk.locate directory = .ok place)
    (hrel : path.isAbsolute = false) :
    disk.locate (directory.join path) = disk.walk place path.segments := by
  have hdir := text_ne_nil_of_locate h
  obtain ⟨front, hfront, hjoin⟩ := Path.segments_join hrel hdir
  rw [locate_eq_walk (Path.text_join_ne_nil hdir), hjoin, walk_append, base,
    Path.isAbsolute_join hrel hdir, ← base, walk_of_locate h hfront]
  rfl

theorem Stands.locate_join {directory : Path} (h : disk.Stands directory place)
    (hrel : path.isAbsolute = false) (hne : path.text ≠ []) :
    disk.locate (directory.join path) = disk.walk place path.segments := by
  cases h with
  | empty =>
    have hjoin : Path.join ⟨[]⟩ path = path := by simp [Path.join, hrel]
    rw [hjoin, locate_eq_walk hne, base, hrel, if_neg Bool.false_ne_true]
  | located h => exact Disk.locate_join h hrel

theorem Stands.eq_append_names (h : disk.Stands path place)
    (habove : Path.above ∉ path.segments) :
    place = disk.base path ++ Path.names path.segments := by
  cases h with
  | empty => exact (List.append_nil _).symm
  | located h =>
    rw [locate_eq_walk (text_ne_nil_of_locate h)] at h
    exact eq_append_names_of_walk habove h

theorem stands_of_directoryAt (habove : Path.above ∉ path.segments)
    (hdir : disk.DirectoryAt (disk.base path ++ Path.names path.segments)) :
    disk.Stands path (disk.base path ++ Path.names path.segments) := by
  by_cases hne : path.text = []
  · obtain rfl : path = ⟨[]⟩ := congrArg Path.mk hne
    exact (List.append_nil _).symm ▸ .empty
  · exact .located ((locate_eq_walk hne).trans (walk_of_directoryAt habove hdir))

end Disk

end SuffixLint
