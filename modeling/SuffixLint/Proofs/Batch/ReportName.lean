import SuffixLint.Batch
import SuffixLint.Proofs.FileSystem.Relative

namespace SuffixLint

namespace Environment

open Path.Component (ofSegment)

variable {environment : Environment} {root path : Path} {rest : List Path.Component}

theorem reportName_eq (hname : path.text ≠ standardInput) :
    environment.reportName root path =
      match (environment.disk.absolute path).relative? (environment.disk.absolute root) with
      | some components =>
        if components.head? = some .parent then path.text else (Path.ofComponents components).text
      | none => path.text :=
  if_neg hname

theorem reportName_of_not_prefix (hname : path.text ≠ standardInput)
    (h : ¬ (environment.disk.absolute root).components <+:
      (environment.disk.absolute path).components) :
    environment.reportName root path = path.text := by
  rw [reportName_eq hname, Path.relative?]
  cases hway : Path.way (environment.disk.absolute path).components
      (environment.disk.absolute root).components with
  | none => rfl
  | some steps => exact if_pos (Path.head?_way_of_not_prefix h hway)

theorem exists_names_of_append
    (h : (environment.disk.absolute path).components =
      (environment.disk.absolute root).components ++ rest)
    (hup : Path.Component.parent ∉ (environment.disk.absolute path).components) :
    ∃ names : List Text, rest = names.map ofSegment ∧ ∀ name ∈ names, Path.IsName name := by
  have hnames := h
  rw [Disk.components_absolute, Disk.components_absolute, List.cons_append] at hnames
  obtain ⟨front, names, hsplit, _, hrest⟩ := List.map_eq_append_iff.1 (List.cons.inj hnames).2
  refine ⟨names, hrest.symm, fun name hname => Path.isName_of_mem_names hup ?_⟩
  rw [hsplit]
  exact List.mem_append_right front hname

theorem head?_map_ofSegment_ne_parent {names : List Text}
    (h : ∀ name ∈ names, Path.IsName name) : (names.map ofSegment).head? ≠ some .parent := by
  intro he
  obtain ⟨name, hmem, hparent⟩ := List.mem_map.1 (List.mem_of_head? he)
  exact (h name hmem).ne_above (Path.Component.ofSegment_eq_parent_iff.1 hparent)

theorem reportName_of_append {names : List Text} (hname : path.text ≠ standardInput)
    (h : (environment.disk.absolute path).components =
      (environment.disk.absolute root).components ++ names.map ofSegment)
    (hnames : ∀ name ∈ names, Path.IsName name) :
    environment.reportName root path = (Path.ofNames names).text := by
  rw [reportName_eq hname, Path.relative?, h, Path.way_append]
  dsimp only
  rw [if_neg (head?_map_ofSegment_ne_parent hnames), Path.ofComponents_map_ofSegment hnames]

/-- The name of a file below the root is what its path has beyond the root: no step of it leads up,
and from the root it leads to the file again. Any other file keeps the path it was given by, also
one in a directory whose name only starts like that of the root. -/
theorem reportName_relative (environment : Environment) {root path : Path}
    (hname : path.text ≠ standardInput) (hpath : Path.Component.parent ∉ path.components)
    (hcurrent : path.isAbsolute = false →
      Path.Component.parent ∉ environment.disk.currentPath.components) :
    let disk := environment.disk
    let file := (disk.absolute path).components
    let directory := (disk.absolute root).components
    let name := environment.reportName root path
    (∀ rest, file = directory ++ rest →
      name = Text.join [Path.separator] (rest.map Path.Component.text) ∧
        (Path.mk name).components = rest ∧ rest.head? ≠ some .parent ∧
        (disk.absolute (root.join ⟨name⟩)).components = file) ∧
    (¬ directory <+: file → name = path.text) ∧
    ∀ front start more back, more ≠ [] → directory = front ++ [.name start] →
      file = front ++ .name (start ++ more) :: back → name = path.text := by
  intro disk file directory name
  refine ⟨fun rest hrest => ?below, fun hnot => reportName_of_not_prefix hname hnot, ?beside⟩
  case below =>
    obtain ⟨names, rfl, hnames⟩ :=
      exists_names_of_append hrest (Disk.parent_not_mem_absolute hpath hcurrent)
    have htext : Path.mk name = Path.ofNames names :=
      congrArg Path.mk (reportName_of_append hname hrest hnames)
    refine ⟨?_, ?_, head?_map_ofSegment_ne_parent hnames, ?_⟩
    · rw [Path.Component.map_text_ofSegment]
      exact congrArg Path.text htext
    · rw [htext, Path.components_ofNames hnames]
    · rw [htext, Disk.components_absolute_join (Path.isAbsolute_ofNames hnames),
        Path.names_segments_ofNames hnames]
      exact hrest.symm
  case beside =>
    intro front start more back hmore hdirectory hfile
    refine reportName_of_not_prefix hname fun hprefix => ?_
    have hends : [Path.Component.name start] <+: .name (start ++ more) :: back := by
      rw [← List.prefix_append_right_inj front, ← hdirectory, ← hfile]
      exact hprefix
    have hstart : start = start ++ more :=
      Path.Component.name.inj (List.cons_prefix_cons.1 hends).1
    exact hmore (List.self_eq_append_right.1 hstart)

/-- From the directory `w`, a file below a root that is given as an absolute path, and one beside a
root that is given as a relative path. -/
theorem reportName_relative_current :
    let environment : Environment := { disk := { root := .directory [], current := ["w".toList] } }
    let below : Path := ⟨"./d//list".toList⟩
    let beside : Path := ⟨"./dx/list".toList⟩
    .parent ∉ environment.disk.currentPath.components ∧
      (below.text ≠ standardInput ∧ .parent ∉ below.components ∧
        environment.reportName ⟨"/w/./".toList⟩ below = "d/list".toList ∧
        environment.reportName ⟨"/".toList⟩ below = "w/d/list".toList) ∧
      beside.text ≠ standardInput ∧ .parent ∉ beside.components ∧
        environment.reportName ⟨"d".toList⟩ beside = "./dx/list".toList := by
  intro environment below beside
  have hcurrent : .parent ∉ environment.disk.currentPath.components := by decide
  have hbelow : below.text ≠ standardInput ∧ .parent ∉ below.components := by decide
  have hbeside : beside.text ≠ standardInput ∧ .parent ∉ beside.components := by decide
  refine ⟨hcurrent, ⟨hbelow.1, hbelow.2, ?_, ?_⟩, hbeside.1, hbeside.2, ?_⟩
  · have hrest : (environment.disk.absolute below).components =
        (environment.disk.absolute ⟨"/w/./".toList⟩).components ++
          [.name "d".toList, .name "list".toList] := by
      decide
    exact ((environment.reportName_relative hbelow.1 hbelow.2 fun _ => hcurrent).1 _ hrest).1
  · have hrest : (environment.disk.absolute below).components =
        (environment.disk.absolute ⟨"/".toList⟩).components ++
          [.name "w".toList, .name "d".toList, .name "list".toList] := by
      decide
    exact ((environment.reportName_relative hbelow.1 hbelow.2 fun _ => hcurrent).1 _ hrest).1
  · have hroot : (environment.disk.absolute ⟨"d".toList⟩).components =
        [.root, .name "w".toList] ++ [.name "d".toList] := by
      decide
    have hfile : (environment.disk.absolute beside).components =
        [.root, .name "w".toList] ++ .name ("d".toList ++ "x".toList) :: [.name "list".toList] := by
      decide
    obtain ⟨_, _, hname⟩ := environment.reportName_relative hbeside.1 hbeside.2 fun _ => hcurrent
    exact hname _ _ _ _ (by decide) hroot hfile

end Environment
end SuffixLint
