import SuffixLint.Proofs.Config.Merge
import SuffixLint.Proofs.Glob.Composition
import SuffixLint.Proofs.Glob.Search

namespace SuffixLint

namespace Disk

variable {disk : Disk} {root : Path} {place : List Text} {blocks : List (List Path)}

theorem Denotes.merge {places : List Text → Prop} (h : disk.Denotes blocks.flatten places) :
    disk.Denotes (Glob.merge blocks) places where
  located := fun path hpath => h.located path ((Glob.merge_sublist_flatten blocks).subset hpath)
  reached := by
    intro place hplace
    obtain ⟨path, hpath, hlocate⟩ := h.reached place hplace
    have hany : (Glob.merge blocks).any (·.same path) = true := by
      rw [Glob.any_same_merge]
      exact List.any_eq_true.2 ⟨path, hpath, Path.same_refl path⟩
    obtain ⟨kept, hkept, hsame⟩ := List.any_eq_true.1 hany
    obtain ⟨other, hother, _⟩ :=
      h.located kept ((Glob.merge_sublist_flatten blocks).subset hkept)
    exact ⟨kept, hkept, eq_of_same hsame hother hlocate ▸ hother⟩

theorem Denotes.flatten {patterns : List Text} {places : Text → List Text → Prop}
    (h : List.Forall₂ (fun pattern block => disk.Denotes block (places pattern)) patterns blocks) :
    disk.Denotes blocks.flatten fun place => ∃ pattern ∈ patterns, places pattern place := by
  induction h with
  | nil => exact .nil (by simp)
  | cons hfirst _ ih =>
    exact (hfirst.append ih).congr fun place =>
      (List.exists_mem_cons_iff (places · place) _ _).symm

theorem Stands.directoryAt_base (h : disk.Stands root place) (hdir : disk.DirectoryAt place) :
    disk.DirectoryAt (disk.base root) := by
  cases h with
  | empty => exact hdir
  | located h =>
    rw [locate_eq_walk (text_ne_nil_of_locate h)] at h
    obtain ⟨segment, segments, hsegments⟩ := List.exists_cons_of_ne_nil
      (List.splitOn_ne_nil Path.separator root.text)
    rw [Path.segments, hsegments] at h
    exact directoryAt_of_walk h

end Disk

namespace Config

open Glob (Pattern)

variable {disk : Disk} {root : Path} {place : List Text} {pattern : Text} {parsed : Pattern}

/-- Whether an entry is where a pattern leads from a place. -/
def Matched (disk : Disk) (place : List Text) (pattern : Text) (entry : List Text) : Prop :=
  ∃ parsed, Pattern.parse pattern = .ok parsed ∧
    Glob.Reaches disk parsed.directoriesOnly parsed.steps place entry

/-- Whether a path starts at the current directory without a name: it is empty or starts with the
name of the current directory. -/
def StartsHere (root : Path) : Prop := root.text = [] ∨ root.segments.head? = some Path.here

/-- A root in front of a pattern leads to where the pattern is to start. A relative root that starts
with a name leaves the current directory at once. -/
theorem exists_parse_join (hroot : disk.Stands root place)
    (hplain : ∀ c ∈ root.text, Glob.isPlain c = true) (hparsed : Pattern.parse pattern = .ok parsed)
    (hrel : parsed.isAbsolute = false) :
    ∃ joined, Pattern.parse (root.join ⟨pattern⟩).text = .ok joined ∧
      joined.isAbsolute = root.isAbsolute ∧
      (root.isAbsolute = false → ¬ StartsHere root → Glob.Settled joined.steps) ∧
      ∀ entry, Glob.Reaches disk joined.directoriesOnly joined.steps (disk.base root) entry ↔
        Glob.Reaches disk parsed.directoriesOnly parsed.steps place entry := by
  have hpath : Path.isAbsolute ⟨pattern⟩ = false :=
    (Pattern.isAbsolute_of_parse hparsed).symm.trans hrel
  cases hroot with
  | empty =>
    have hjoin : Path.join ⟨[]⟩ ⟨pattern⟩ = ⟨pattern⟩ := by simp [Path.join, hpath]
    rw [hjoin]
    exact ⟨parsed, hparsed, hrel, fun _ hnot => absurd (.inl rfl) hnot, fun _ => Iff.rfl⟩
  | located hlocate =>
    have hne := Disk.text_ne_nil_of_locate hlocate
    obtain ⟨front, hfront, hjoin⟩ := Path.exists_text_join hpath hne
    have hlead : ∀ c ∈ front, Glob.isPlain c = true := by
      rcases hfront with he | he
      · exact he ▸ hplain
      · exact fun c hc => hplain c (he ▸ List.mem_append_left _ hc)
    obtain ⟨joined, hjoined, hsteps, hreaches⟩ := Pattern.exists_parse_append hlead hparsed hrel
    rw [← hjoin] at hjoined
    refine ⟨joined, hjoined, ?_, fun hrelative hnot => ?_, fun entry =>
      hreaches disk _ _ entry (Glob.walk_leadNames hlocate hfront)⟩
    · exact (Pattern.isAbsolute_of_parse hjoined).trans (Path.isAbsolute_join hpath hne)
    · obtain ⟨first, others, hnames, hfirst, hhead⟩ :=
        Pattern.leadNames_of_relative hfront hrelative hne
      obtain ⟨rest, hrest⟩ := hsteps (by simp [hnames])
      rw [hrest, hnames]
      exact ⟨hfirst, fun he => absurd (.inr (he ▸ hhead)) hnot⟩

theorem locate_start (hdir : disk.DirectoryAt (disk.base root)) :
    disk.locate (if root.isAbsolute then ⟨[Path.separator]⟩ else ⟨Path.here⟩) =
      .ok (disk.base root) := by
  rw [Disk.base] at hdir ⊢
  split
  · next habsolute =>
    rw [if_pos habsolute] at hdir
    have hempty := Disk.walk_empty_iff.2 ⟨rfl, hdir⟩
    exact Disk.walk_cons_eq_ok_iff.2 ⟨[], hempty, hempty⟩
  · next hrel =>
    rw [if_neg hrel] at hdir
    exact Disk.walk_cons hdir

/-- What a search finds for a pattern is what the pattern leads to from the root. -/
theorem finds_denotes (htree : disk.root.WellFormed) (hroot : disk.Stands root place)
    (hdir : disk.DirectoryAt place) (hplain : ∀ c ∈ root.text, Glob.isPlain c = true)
    (hpattern : ∃ parsed, Pattern.parse pattern = .ok parsed ∧ parsed.isAbsolute = false)
    (hsettled : StartsHere root → ∀ joined,
      Pattern.parse (root.join ⟨pattern⟩).text = .ok joined → Glob.Settled joined.steps) :
    ∃ found, Finds (searchOf disk) root pattern found ∧
      disk.Denotes found (Matched disk place pattern) := by
  obtain ⟨parsed, hparsed, hrel⟩ := hpattern
  obtain ⟨joined, hjoined, habsolute, hnamed, hreaches⟩ :=
    exists_parse_join hroot hplain hparsed hrel
  refine ⟨joined.paths disk, by rw [Finds, searchOf, hjoined]; rfl, ?_⟩
  have hstart := locate_start (hroot.directoryAt_base hdir)
  rw [← habsolute] at hstart
  have hfollows : Glob.Follows disk joined.directoriesOnly joined.steps :=
    Glob.follows_of_wellFormed htree _ fun _ => Pattern.separator_not_mem_of_literal hjoined
  refine (hfollows hstart fun hhere => ?_).congr fun entry => (hreaches entry).trans ?_
  · cases hjoinedAbsolute : joined.isAbsolute with
    | true =>
      rw [hjoinedAbsolute] at hhere
      exact absurd hhere (by decide)
    | false =>
      by_cases hstarts : StartsHere root
      · exact hsettled hstarts joined hjoined
      · exact hnamed (habsolute.symm.trans hjoinedAbsolute) hstarts
  · constructor
    · exact fun h => ⟨parsed, hparsed, h⟩
    · rintro ⟨other, hother, h⟩
      cases hparsed.symm.trans hother
      exact h

/-- Whether a pattern has a step that can be taken to the directory above. -/
def Climbs (pattern : Text) : Prop :=
  ∃ parsed, Pattern.parse pattern = .ok parsed ∧ ∃ step ∈ parsed.steps, step.Climbs

/-- A pattern without a step to the directory above leads to entries below where it starts. -/
theorem prefix_of_matched {entry : List Text} (hno : ¬ Climbs pattern)
    (h : Matched disk place pattern entry) : place <+: entry := by
  obtain ⟨parsed, hparsed, route, hroute, hwalk⟩ := h
  have habove := hroute.above_not_mem fun step hstep hclimbs =>
    hno ⟨parsed, hparsed, step, hstep, hclimbs⟩
  rw [Disk.eq_append_names_of_walk habove hwalk]
  exact List.prefix_append _ _

/-- Patterns taken relative to a root that is spelt without wildcards: the files found are exactly
the entries that the patterns lead to from the root, and none of them is outside the root unless a
pattern climbs. Behind a root that starts at the current directory no empty name may stand before
the first real one. -/
theorem expand_relative {patterns : List Text} (htree : disk.root.WellFormed)
    (hroot : disk.Stands root place) (hdir : disk.DirectoryAt place)
    (hplain : ∀ c ∈ root.text, Glob.isPlain c = true)
    (hpatterns : ∀ pattern ∈ patterns,
      ∃ parsed, Pattern.parse pattern = .ok parsed ∧ parsed.isAbsolute = false)
    (hsettled : StartsHere root → ∀ pattern ∈ patterns, ∀ joined,
      Pattern.parse (root.join ⟨pattern⟩).text = .ok joined → Glob.Settled joined.steps) :
    ∃ paths, expand disk root patterns = .ok paths ∧
      disk.Denotes paths (fun entry => ∃ pattern ∈ patterns, Matched disk place pattern entry) ∧
      ((∀ pattern ∈ patterns, ¬ Climbs pattern) →
        ∀ path ∈ paths, ∃ entry, disk.locate path = .ok entry ∧ place <+: entry) := by
  have hfound : ∀ pattern ∈ patterns, ∃ sorted,
      sortedMatches (searchOf disk) root pattern = .ok sorted ∧
        disk.Denotes sorted (Matched disk place pattern) := by
    intro pattern hpattern
    obtain ⟨found, hfinds, hdenotes⟩ := finds_denotes htree hroot hdir hplain
      (hpatterns pattern hpattern) (hsettled · pattern hpattern)
    exact ⟨found.mergeSort Path.le, sortedMatches_eq_ok_iff.2 ⟨found, hfinds, rfl⟩,
      hdenotes.of_mem_iff fun _ => List.mem_mergeSort⟩
  obtain ⟨blocks, hblocks⟩ := exists_forall₂ hfound
  have hsorted := hblocks.imp fun _ _ h => h.1
  have hmerged := (Disk.Denotes.flatten (hblocks.imp fun _ _ h => h.2)).merge
  refine ⟨_, (expand_eq_expandBy disk root patterns).trans
    (expandBy_eq_ok_iff.2 ⟨blocks, hsorted, rfl⟩), hmerged, fun hno path hpath => ?_⟩
  obtain ⟨entry, hlocate, pattern, hpattern, hmatched⟩ := hmerged.located path hpath
  exact ⟨entry, hlocate, prefix_of_matched (hno pattern hpattern) hmatched⟩

/-- A root `r` with a file in it and one in a directory below, and a file beside the root. -/
def nestedFiles : Disk where
  root := .directory [
    ("r".toList, .directory [
      ("d".toList, .directory [("y.dat".toList, .file [])]), ("x.dat".toList, .file [])]),
    ("z.dat".toList, .file [])]
  current := []

theorem wellFormed_nestedFiles : nestedFiles.root.WellFormed := by
  have hleaf : FileTree.WellFormed (.directory [("y.dat".toList, .file [])]) :=
    .directory (by decide) (by decide) (List.forall_mem_singleton.2 (.file []))
  have hroot : FileTree.WellFormed (.directory [
      ("d".toList, .directory [("y.dat".toList, .file [])]), ("x.dat".toList, .file [])]) :=
    .directory (by decide) (by decide)
      (List.forall_mem_cons.2 ⟨hleaf, List.forall_mem_singleton.2 (.file [])⟩)
  exact .directory (by decide) (by decide)
    (List.forall_mem_cons.2 ⟨hroot, List.forall_mem_singleton.2 (.file [])⟩)

theorem expand_relative_nestedFiles :
    let root : Path := ⟨"./r".toList⟩
    let pattern := "**/*.dat".toList
    let place := ["r".toList]
    nestedFiles.root.WellFormed ∧ nestedFiles.Stands root place ∧ nestedFiles.DirectoryAt place ∧
      (∀ c ∈ root.text, Glob.isPlain c = true) ∧ ¬ Climbs pattern ∧
      expand nestedFiles root [pattern] = .ok [⟨"r/d/y.dat".toList⟩, ⟨"r/x.dat".toList⟩] ∧
      Matched nestedFiles place pattern ["r".toList, "x.dat".toList] ∧
      ¬ Matched nestedFiles place pattern ["z.dat".toList] := by
  intro root pattern place
  have hroot : nestedFiles.Stands root place := .located (by decide)
  have hdir : nestedFiles.DirectoryAt place := by decide
  have hplain : ∀ c ∈ root.text, Glob.isPlain c = true := List.all_eq_true.1 (by decide)
  have hparse : Pattern.parse "**/*.dat".toList = .ok ⟨false, [.anyDepth, .wild
      [.anyText, .char '.', .char 'd', .char 'a', .char 't']], false⟩ := by decide +kernel
  have hjoined : Pattern.parse "./r/**/*.dat".toList = .ok ⟨false, [.literal ".".toList,
      .literal "r".toList, .anyDepth, .wild
        [.anyText, .char '.', .char 'd', .char 'a', .char 't']], false⟩ := by decide +kernel
  have hsettled : ∀ joined, Pattern.parse (root.join ⟨pattern⟩).text = .ok joined →
      Glob.Settled joined.steps := by
    intro joined h
    cases hjoined.symm.trans h
    exact ⟨by decide, fun _ => ⟨by decide, fun h => absurd h (by decide)⟩⟩
  have hno : ¬ Climbs pattern := by
    rintro ⟨parsed, hparsed, step, hstep, hclimbs⟩
    cases hparse.symm.trans hparsed
    rcases List.mem_pair.1 hstep with rfl | rfl
    · exact hclimbs
    · exact absurd hclimbs.1 (by decide)
  obtain ⟨paths, hpaths, hdenotes, _⟩ := expand_relative wellFormed_nestedFiles hroot hdir hplain
    (List.forall_mem_singleton.2 ⟨_, hparse, rfl⟩) (fun _ => List.forall_mem_singleton.2 hsettled)
  have hsearch : searchOf nestedFiles "./r/**/*.dat".toList =
      .ok [⟨"r/d/y.dat".toList⟩, ⟨"r/x.dat".toList⟩] := by decide +kernel
  have hexpand := (expand_eq_expandBy nestedFiles root [pattern]).trans
    (expandBy_of_sorted (.cons hsearch .nil) (by decide))
  obtain rfl : paths = [⟨"r/d/y.dat".toList⟩, ⟨"r/x.dat".toList⟩] :=
    Except.ok.inj (hpaths.symm.trans hexpand)
  refine ⟨wellFormed_nestedFiles, hroot, hdir, hplain, hno, hpaths, ?_, fun h => ?_⟩
  · obtain ⟨entry, hentry, other, hother, hmatched⟩ :=
      hdenotes.located ⟨"r/x.dat".toList⟩ (by decide)
    have hlocate : nestedFiles.locate ⟨"r/x.dat".toList⟩ = .ok ["r".toList, "x.dat".toList] := by
      decide
    cases hlocate.symm.trans hentry
    cases List.mem_singleton.1 hother
    exact hmatched
  · obtain ⟨path, hpath, hlocate⟩ := hdenotes.reached _ ⟨pattern, List.mem_cons_self, h⟩
    rcases List.mem_pair.1 hpath with rfl | rfl
    · exact absurd hlocate (by decide)
    · exact absurd hlocate (by decide)

/-- The text of the root is read as a part of the pattern. With a directory `ab` beside a root
`a[b]`, the file found is the one in `ab`; and behind `.//` nothing is found at all. -/
theorem expand_leaves_root :
    let beside : Disk := {
      root := .directory [("a[b]".toList, .directory [("x.dat".toList, .file [])]),
        ("ab".toList, .directory [("x.dat".toList, .file [])])]
      current := [] }
    let here : Disk := { root := .directory [("x.dat".toList, .file [])], current := [] }
    let place := ["a[b]".toList]
    (beside.Stands ⟨"a[b]".toList⟩ place ∧ beside.DirectoryAt place ∧
      expand beside ⟨"a[b]".toList⟩ ["*.dat".toList] = .ok [⟨"ab/x.dat".toList⟩] ∧
      beside.locate ⟨"ab/x.dat".toList⟩ = .ok ["ab".toList, "x.dat".toList] ∧
      ¬ place <+: ["ab".toList, "x.dat".toList] ∧
      Matched beside place "*.dat".toList ["a[b]".toList, "x.dat".toList]) ∧
    here.Stands ⟨".//".toList⟩ [] ∧ expand here ⟨".//".toList⟩ ["x.dat".toList] = .ok [] ∧
      Matched here [] "x.dat".toList ["x.dat".toList] := by
  intro beside here place
  have hparse : Pattern.parse "*.dat".toList = .ok ⟨false, [.wild
      [.anyText, .char '.', .char 'd', .char 'a', .char 't']], false⟩ := by decide +kernel
  have hname : Glob.Takes [.anyText, .char '.', .char 'd', .char 'a', .char 't'] "x.dat".toList :=
    ⟨by decide, .inl (by decide)⟩
  have hliteral : Pattern.parse "x.dat".toList = .ok ⟨false, [.literal "x.dat".toList], false⟩ := by
    decide +kernel
  have hbeside : searchOf beside "a[b]/*.dat".toList = .ok [⟨"ab/x.dat".toList⟩] := by
    decide +kernel
  have hhere : searchOf here ".//x.dat".toList = .ok [] := by decide +kernel
  have hinside := (expand_eq_expandBy beside ⟨"a[b]".toList⟩ ["*.dat".toList]).trans
    (expandBy_of_sorted (.cons hbeside .nil) (by decide))
  have hnothing := (expand_eq_expandBy here ⟨".//".toList⟩ ["x.dat".toList]).trans
    (expandBy_of_sorted (.cons hhere .nil) (by decide))
  refine ⟨⟨.located (by decide), by decide, hinside, by decide, by decide, _, hparse, ?_⟩,
    .located (by decide), hnothing, _, hliteral, ?_⟩
  · exact ⟨_, .wild hname .done, by decide⟩
  · exact ⟨_, .literal .done, by decide⟩

end Config

end SuffixLint
