import SuffixLint.Config.Files
import SuffixLint.Proofs.FileSystem.Parent

namespace SuffixLint

namespace Disk

variable {disk : Disk} {place : List Text} {path : Path}

theorem prefix_iff_eq_or_prefix_dropLast {between : List Text} :
    between <+: place ↔ between = place ∨ between <+: place.dropLast := by
  rcases List.eq_nil_or_concat place with rfl | ⟨front, last, rfl⟩
  · simp
  · rw [List.concat_eq_append, List.dropLast_concat, List.prefix_concat_iff]

def rootMarks : List Text :=
  ["pslint.toml".toList, "pslint.yaml".toList, "pslint.yml".toList, ".git".toList]

/-- Whether a directory holds an entry that marks it as the root of a repository. -/
def HoldsMark (disk : Disk) (place : List Text) : Prop :=
  ∃ name ∈ rootMarks, (disk.root.at? (place ++ [name])).isSome = true

instance : Decidable (disk.HoldsMark place) :=
  inferInstanceAs (Decidable (∃ name ∈ rootMarks, (disk.root.at? (place ++ [name])).isSome = true))

/-- The marked directory that is closest to a place, at or above it and not above a floor. -/
structure NearestMark (disk : Disk) (floor place nearest : List Text) : Prop where
  floor_prefix : floor <+: nearest
  prefix_place : nearest <+: place
  holds : disk.HoldsMark nearest
  closest : ∀ between, nearest <+: between → between <+: place → disk.HoldsMark between →
    between = nearest

theorem contains_join_iff {name : Text} (hplace : disk.Stands path place)
    (hdir : disk.DirectoryAt place) (hname : name ∈ rootMarks) :
    disk.contains (path.join ⟨name⟩) = true ↔
      (disk.root.at? (place ++ [name])).isSome = true := by
  have hmark : ∀ mark ∈ rootMarks, mark ≠ [] ∧ Path.separator ∉ mark ∧
      Path.isIdle mark = false ∧ mark ≠ Path.above := by
    decide
  obtain ⟨hne, hfree, hidle, habove⟩ := hmark name hname
  rw [contains_iff, hplace.locate_join (Path.isAbsolute_name hfree) hne, Path.segments_name hfree]
  simp only [walk_name hdir hidle habove]
  constructor
  · rintro ⟨_, rfl, hsome⟩
    exact hsome
  · intro hsome
    exact ⟨_, rfl, hsome⟩

theorem nearestMark_self {floor : List Text} (hfloor : floor <+: place)
    (h : disk.HoldsMark place) : disk.NearestMark floor place place where
  floor_prefix := hfloor
  prefix_place := List.prefix_refl place
  holds := h
  closest := fun _ hbetween hplace _ =>
    hplace.eq_of_length_le hbetween.length_le

theorem NearestMark.unique {floor nearest other : List Text}
    (h : disk.NearestMark floor place nearest) (h' : disk.NearestMark floor place other) :
    other = nearest := by
  rcases List.prefix_or_prefix_of_prefix h.prefix_place h'.prefix_place with hle | hle
  · exact h.closest other hle h'.prefix_place h'.holds
  · exact (h'.closest nearest hle h.prefix_place h.holds).symm

theorem NearestMark.of_dropLast {floor nearest : List Text}
    (h : disk.NearestMark floor place.dropLast nearest) (hno : ¬ disk.HoldsMark place) :
    disk.NearestMark floor place nearest where
  floor_prefix := h.floor_prefix
  prefix_place := h.prefix_place.trans (List.dropLast_prefix place)
  holds := h.holds
  closest := by
    intro between hnearest hplace hholds
    rcases prefix_iff_eq_or_prefix_dropLast.1 hplace with rfl | hbetween
    · exact absurd hholds hno
    · exact h.closest between hnearest hbetween hholds

end Disk

namespace Config

open Disk (rootMarks)

variable {disk : Disk} {place : List Text} {path : Path}

theorem isRoot_eq_any (disk : Disk) (path : Path) :
    isRoot disk path = rootMarks.any fun name => disk.contains (path.join ⟨name⟩) := by
  simp [isRoot, isPresent, fileNames, rootMarks, repositoryMark, Bool.or_assoc]

theorem isRoot_iff (hplace : disk.Stands path place) (hdir : disk.DirectoryAt place) :
    isRoot disk path = true ↔ disk.HoldsMark place := by
  rw [isRoot_eq_any, List.any_eq_true, Disk.HoldsMark]
  constructor
  · rintro ⟨name, hname, hcontains⟩
    exact ⟨name, hname, (Disk.contains_join_iff hplace hdir hname).1 hcontains⟩
  · rintro ⟨name, hname, hsome⟩
    exact ⟨name, hname, (Disk.contains_join_iff hplace hdir hname).2 hsome⟩

def FoundNearest (disk : Disk) (floor place : List Text) : Option Path → Prop
  | some root => ∃ nearest, disk.NearestMark floor place nearest ∧ disk.Stands root nearest
  | none => ∀ between, floor <+: between → between <+: place → ¬ disk.HoldsMark between

theorem FoundNearest.of_dropLast {floor : List Text} {found : Option Path}
    (h : FoundNearest disk floor place.dropLast found) (hno : ¬ disk.HoldsMark place) :
    FoundNearest disk floor place found := by
  cases found with
  | some root =>
    obtain ⟨nearest, hnearest, hroot⟩ := h
    exact ⟨nearest, hnearest.of_dropLast hno, hroot⟩
  | none =>
    intro between hfloor hplace
    rcases Disk.prefix_iff_eq_or_prefix_dropLast.1 hplace with rfl | hbetween
    · exact hno
    · exact h between hfloor hbetween

theorem foundNearest_none {floor : List Text} (hplace : place = floor)
    (hno : ¬ disk.HoldsMark place) : FoundNearest disk floor place none := by
  intro between hfloor hbetween
  rw [hbetween.eq_of_length_le (hplace ▸ hfloor.length_le)]
  exact hno

theorem foundNearest_cons {paths : List Path} (habove : Path.above ∉ path.segments)
    (hdir : disk.DirectoryAt (disk.base path ++ Path.names path.segments))
    (h : ¬ disk.HoldsMark (disk.base path ++ Path.names path.segments) →
      FoundNearest disk (disk.base path) (disk.base path ++ Path.names path.segments)
        (paths.find? (isRoot disk))) :
    FoundNearest disk (disk.base path) (disk.base path ++ Path.names path.segments)
      ((path :: paths).find? (isRoot disk)) := by
  have hstands := Disk.stands_of_directoryAt habove hdir
  by_cases hmark : disk.HoldsMark (disk.base path ++ Path.names path.segments)
  · rw [List.find?_cons_of_pos ((isRoot_iff hstands hdir).2 hmark)]
    exact ⟨_, Disk.nearestMark_self (List.prefix_append _ _) hmark, hstands⟩
  · rw [List.find?_cons_of_neg (mt (isRoot_iff hstands hdir).1 hmark)]
    exact h hmark

/-- The paths of a lineage stand for the directories from a place up to where the path starts, so
the first of them that is a root is the nearest. -/
theorem foundNearest_lineage {limit : Nat} (hlimit : path.text.length ≤ limit)
    (habove : Path.above ∉ path.segments)
    (hdir : disk.DirectoryAt (disk.base path ++ Path.names path.segments)) :
    FoundNearest disk (disk.base path) (disk.base path ++ Path.names path.segments)
      ((Path.lineage.go limit path).find? (isRoot disk)) := by
  induction limit generalizing path with
  | zero =>
    obtain rfl : path = ⟨[]⟩ := congrArg Path.mk (List.eq_nil_of_length_eq_zero (by omega))
    exact foundNearest_cons habove hdir (foundNearest_none (List.append_nil _))
  | succ limit ih =>
    rw [Path.lineage.go]
    cases hparent : path.parent? with
    | none =>
      have hnames := Path.names_eq_nil_of_parent?_eq_none hparent
      refine foundNearest_cons habove hdir (foundNearest_none ?_)
      rw [hnames, List.append_nil]
    | some parent =>
      refine foundNearest_cons habove hdir fun hmark => ?_
      obtain ⟨habsolute, hcut, hshorter⟩ := Path.parent?_eq_some hparent
      have hbase : disk.base parent = disk.base path := by rw [Disk.base, Disk.base, habsolute]
      have hparentAbove : Path.above ∉ parent.segments := by
        rw [← Path.above_mem_names, hcut]
        exact fun hmem => habove (Path.above_mem_names.1 ((List.dropLast_subset _) hmem))
      have hsub : disk.base parent ++ Path.names parent.segments <+:
          disk.base path ++ Path.names path.segments := by
        rw [hbase, hcut]
        exact (List.prefix_append_right_inj _).2 (List.dropLast_prefix _)
      have hfound := ih (by omega) hparentAbove (hdir.of_prefix hsub)
      rw [hbase, hcut] at hfound
      by_cases hnames : Path.names path.segments = []
      · rw [hnames] at hfound ⊢
        exact hfound
      · rw [← List.dropLast_append_of_ne_nil hnames] at hfound
        exact hfound.of_dropLast hmark

/-- Where the path to start from never goes up: the nearest marked directory is found, as far up as
the root of the file system for an absolute path and the current directory for a relative one. If
there is none the path itself stays, and no directory is ever found that is not at or above it. -/
theorem findRoot_nearest {start : Path} (habove : Path.above ∉ start.segments)
    (hstands : disk.Stands start place) (hdir : disk.DirectoryAt place) :
    (∀ nearest, disk.NearestMark (disk.base start) place nearest →
      disk.Stands (findRoot disk start) nearest) ∧
    ((∀ between, disk.base start <+: between → between <+: place → ¬ disk.HoldsMark between) →
      findRoot disk start = start) ∧
    ∃ found, disk.Stands (findRoot disk start) found ∧ disk.base start <+: found ∧
      found <+: place := by
  obtain rfl := hstands.eq_append_names habove
  have hfound := foundNearest_lineage (Nat.le_refl _) habove hdir
  rw [findRoot, Path.lineage]
  cases h : (Path.lineage.go start.text.length start).find? (isRoot disk) with
  | none =>
    rw [h] at hfound
    refine ⟨fun nearest hnearest => ?_, fun _ => rfl, _, hstands, List.prefix_append _ _,
      List.prefix_refl _⟩
    exact absurd hnearest.holds (hfound nearest hnearest.floor_prefix hnearest.prefix_place)
  | some root =>
    rw [h] at hfound
    obtain ⟨found, hnearest, hroot⟩ := hfound
    refine ⟨fun nearest hother => hother.unique hnearest ▸ hroot, fun hnone => ?_, found, hroot,
      hnearest.floor_prefix, hnearest.prefix_place⟩
    exact absurd hnearest.holds (hnone found hnearest.floor_prefix hnearest.prefix_place)

/-- A marked repository `w` with the directories `a` and `a/b`, which are not marked. -/
def nestedRepository (current : List Text) : Disk where
  root := .directory [("w".toList, .directory
    [(".git".toList, .directory []), ("a".toList, .directory [("b".toList, .directory [])])])]
  current := current

theorem nearestMark_nestedRepository (current : List Text) {floor : List Text}
    (hfloor : floor <+: ["w".toList]) :
    (nestedRepository current).NearestMark floor ["w".toList, "a".toList] ["w".toList] := by
  have hmark : (nestedRepository []).HoldsMark ["w".toList] := by decide
  have hno : ¬ (nestedRepository []).HoldsMark ["w".toList, "a".toList] := by decide
  exact Disk.NearestMark.of_dropLast (Disk.nearestMark_self hfloor hmark) hno

theorem findRoot_nearest_nestedRepository :
    let disk := nestedRepository ["w".toList]
    let start : Path := ⟨"./a/".toList⟩
    Path.above ∉ start.segments ∧ disk.Stands start ["w".toList, "a".toList] ∧
      disk.DirectoryAt ["w".toList, "a".toList] ∧
      disk.NearestMark (disk.base start) ["w".toList, "a".toList] ["w".toList] ∧
      disk.Stands (findRoot disk start) ["w".toList] := by
  intro disk start
  have habove : Path.above ∉ start.segments := by decide
  have hstands : disk.Stands start ["w".toList, "a".toList] := .located (by decide)
  have hdir : disk.DirectoryAt ["w".toList, "a".toList] := by decide
  have hfloor : disk.base start <+: ["w".toList] := by decide
  have hnearest := nearestMark_nestedRepository ["w".toList] hfloor
  obtain ⟨hfound, _⟩ := findRoot_nearest habove hstands hdir
  exact ⟨habove, hstands, hdir, hnearest, hfound _ hnearest⟩

/-- From the current directory the text of the path does not lead up, and the marked directory above
is missed; from the directory above the current one it leads down, to one that is not above. -/
theorem findRoot_misses_above :
    let inside := nestedRepository ["w".toList, "a".toList]
    let outside := nestedRepository ["w".toList]
    (inside.Stands ⟨Path.here⟩ ["w".toList, "a".toList] ∧
      inside.NearestMark [] ["w".toList, "a".toList] ["w".toList] ∧
      findRoot inside ⟨Path.here⟩ = ⟨Path.here⟩) ∧
    outside.Stands ⟨Path.above⟩ [] ∧ findRoot outside ⟨Path.above⟩ = ⟨[]⟩ ∧
      outside.Stands ⟨[]⟩ ["w".toList] ∧ ¬ ["w".toList] <+: ([] : List Text) := by
  intro inside outside
  have hnearest :=
    nearestMark_nestedRepository ["w".toList, "a".toList] (List.nil_prefix (l := ["w".toList]))
  have hhere : findRoot inside ⟨Path.here⟩ = ⟨Path.here⟩ := by decide
  have habove : findRoot outside ⟨Path.above⟩ = ⟨[]⟩ := by decide
  refine ⟨⟨.located ?_, hnearest, hhere⟩, .located ?_, habove, .empty, ?_⟩
  · decide
  · decide
  · decide

end Config

end SuffixLint
