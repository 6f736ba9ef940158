import SuffixLint.Config.Files
import SuffixLint.Proofs.FirstError
import SuffixLint.Proofs.Lexicographic

namespace SuffixLint

namespace Path

namespace Component

/-- The order of components: the root, the current directory, the parent directory, and then names
by their characters. -/
inductive Before : Component → Component → Prop
  | root_current : Before .root .current
  | root_parent : Before .root .parent
  | root_name (text : Text) : Before .root (.name text)
  | current_parent : Before .current .parent
  | current_name (text : Text) : Before .current (.name text)
  | parent_name (text : Text) : Before .parent (.name text)
  | name {a b : Text} (h : a < b) : Before (.name a) (.name b)

theorem order_eq_lt_iff (a b : Component) : order a b = .lt ↔ Before a b := by
  constructor
  · intro h
    cases a with
    | root =>
      cases b with
      | root => cases h
      | current => exact .root_current
      | parent => exact .root_parent
      | name text => exact .root_name text
    | current =>
      cases b with
      | root => cases h
      | current => cases h
      | parent => exact .current_parent
      | name text => exact .current_name text
    | parent =>
      cases b with
      | root => cases h
      | current => cases h
      | parent => cases h
      | name text => exact .parent_name text
    | name text =>
      cases b with
      | root => cases h
      | current => cases h
      | parent => cases h
      | name other => exact .name ((Text.compare_eq_lt_iff text other).1 h)
  · intro h
    cases h with
    | name h => exact (Text.compare_eq_lt_iff _ _).2 h
    | _ => rfl

instance : Std.LawfulEqCmp order where
  eq_of_compare {a b} h := by
    rw [order, Ordering.then_eq_eq, Nat.compare_eq_eq, Std.LawfulEqCmp.compare_eq_iff_eq] at h
    cases a <;> cases b <;> simp_all [rank, text]

end Component

/-- Paths are in the order of their components, lexicographically. -/
theorem le_iff {a b : Path} :
    le a b = true ↔
      a.components = b.components ∨ List.Lex Component.Before a.components b.components := by
  have heq : componentsOrder a.components b.components = .eq ↔ a.components = b.components := by
    rw [componentsOrder, Std.LawfulEqCmp.compare_eq_iff_eq]
  rw [le, Ordering.isLE_iff_eq_lt_or_eq_eq, heq, or_comm, componentsOrder,
    compareLex_eq_lt_iff Component.order_eq_lt_iff]

theorem same_symm {a b : Path} (h : same a b = true) : same b a = true :=
  beq_iff_eq.2 (beq_iff_eq.1 h).symm

theorem same_trans {a b c : Path} (h : same a b = true) (h' : same b c = true) :
    same a c = true :=
  beq_iff_eq.2 ((beq_iff_eq.1 h).trans (beq_iff_eq.1 h'))

end Path

namespace Glob

open SuffixLint.Path (same)

theorem mergeBlock_cons (seen : List Path) (path : Path) (block : List Path) :
    mergeBlock seen (path :: block) =
      mergeBlock (if seen.any (·.same path) then seen else seen ++ [path]) block := rfl

theorem mergeBlock_eq (seen block : List Path) :
    mergeBlock seen block =
      seen ++ (block.filter fun path => !seen.any (·.same path)).eraseDupsBy same := by
  induction block generalizing seen with
  | nil => simp
  | cons path block ih =>
    rw [mergeBlock_cons, ih]
    cases hseen : seen.any (·.same path) with
    | true => simp [hseen]
    | false =>
      have hfilter : (block.filter fun other => !(seen ++ [path]).any (·.same other)) =
          (block.filter fun other => !seen.any (·.same other)).filter
            fun other => decide (other.same path = false) := by
        rw [List.filter_filter]
        apply List.filter_congr
        intro other _
        have hsymm : path.same other = other.same path := by
          rw [Bool.eq_iff_iff]
          exact ⟨Path.same_symm, Path.same_symm⟩
        cases h : other.same path <;> simp [hsymm, h]
      rw [List.filter_cons_of_pos (by rw [hseen]; rfl), List.eraseDupsBy_cons, ← hfilter]
      simp

theorem merge_eq_mergeBlock (blocks : List (List Path)) :
    merge blocks = mergeBlock [] blocks.flatten := by
  rw [merge, mergeBlock, List.foldl_flatten]
  rfl

theorem merge_eq (blocks : List (List Path)) : merge blocks = blocks.flatten.eraseDupsBy same := by
  have hall : (blocks.flatten.filter fun path => !([] : List Path).any (·.same path)) =
      blocks.flatten :=
    List.filter_eq_self.2 fun _ _ => rfl
  rw [merge_eq_mergeBlock, mergeBlock_eq, List.nil_append, hall]

theorem exists_mergeBlock_eq_append (seen block : List Path) :
    ∃ added, mergeBlock seen block = seen ++ added ∧ added.Sublist block ∧
      ∀ path ∈ added, seen.any (·.same path) = false := by
  induction block generalizing seen with
  | nil => exact ⟨[], by simp, .slnil, fun _ hm => absurd hm List.not_mem_nil⟩
  | cons path block ih =>
    rw [mergeBlock_cons]
    split
    · obtain ⟨added, he, hsub, hnew⟩ := ih seen
      exact ⟨added, he, hsub.cons path, hnew⟩
    · next hseen =>
      obtain ⟨added, he, hsub, hnew⟩ := ih (seen ++ [path])
      refine ⟨path :: added, by simp [he], hsub.cons_cons path, ?_⟩
      intro other hother
      rcases List.mem_cons.1 hother with rfl | hother
      · exact Bool.eq_false_iff.2 hseen
      · have h := hnew other hother
        rw [List.any_append, Bool.or_eq_false_iff] at h
        exact h.1

theorem any_same_mergeBlock (seen block : List Path) (path : Path) :
    (mergeBlock seen block).any (·.same path) =
      (seen.any (·.same path) || block.any (·.same path)) := by
  induction block generalizing seen with
  | nil => simp
  | cons first block ih =>
    rw [mergeBlock_cons, ih, List.any_cons]
    split
    · next hseen =>
      cases h : first.same path with
      | false => simp
      | true =>
        obtain ⟨kept, hkept, hsame⟩ := List.any_eq_true.1 hseen
        have hpath : seen.any (·.same path) = true :=
          List.any_eq_true.2 ⟨kept, hkept, Path.same_trans hsame h⟩
        simp [hpath]
    · simp [Bool.or_assoc]

theorem pairwise_mergeBlock {seen : List Path} (block : List Path)
    (h : seen.Pairwise fun a b => a.same b = false) :
    (mergeBlock seen block).Pairwise fun a b => a.same b = false := by
  induction block generalizing seen with
  | nil => exact h
  | cons path block ih =>
    rw [mergeBlock_cons]
    split
    · exact ih h
    · next hseen =>
      refine ih (List.pairwise_append.2 ⟨h, List.pairwise_singleton _ _, ?_⟩)
      intro kept hkept other hother
      rw [List.mem_singleton.1 hother]
      exact Bool.eq_false_iff.2 fun hsame => hseen (List.any_eq_true.2 ⟨kept, hkept, hsame⟩)

theorem any_same_merge (blocks : List (List Path)) (path : Path) :
    (merge blocks).any (·.same path) = blocks.flatten.any (·.same path) := by
  rw [merge_eq_mergeBlock, any_same_mergeBlock, List.any_nil, Bool.false_or]

theorem pairwise_merge (blocks : List (List Path)) :
    (merge blocks).Pairwise fun a b => a.same b = false := by
  rw [merge_eq_mergeBlock]
  exact pairwise_mergeBlock _ .nil

theorem merge_sublist_flatten (blocks : List (List Path)) :
    (merge blocks).Sublist blocks.flatten := by
  obtain ⟨added, he, hsub, _⟩ := exists_mergeBlock_eq_append [] blocks.flatten
  rw [merge_eq_mergeBlock, he]
  exact hsub

theorem merge_append (before after : List (List Path)) :
    merge (before ++ after) = mergeBlock (merge before) after.flatten := by
  rw [merge, List.foldl_append, mergeBlock, List.foldl_flatten]
  rfl

/-- The paths of a block stand together, after those of the blocks before and in front of those of
the blocks after it. -/
theorem exists_merge_eq (before : List (List Path)) (block : List Path)
    (after : List (List Path)) :
    ∃ added later, merge (before ++ block :: after) = merge before ++ added ++ later ∧
      added.Sublist block ∧
      ∀ path, added.any (·.same path) =
        (block.any (·.same path) && !before.flatten.any (·.same path)) := by
  obtain ⟨added, hadded, hsub, hnew⟩ := exists_mergeBlock_eq_append (merge before) block
  obtain ⟨later, hlater, _, _⟩ :=
    exists_mergeBlock_eq_append (mergeBlock (merge before) block) after.flatten
  have hsplit : merge (before ++ block :: after) = merge before ++ added ++ later := by
    rw [← hadded, ← hlater, merge_append, List.flatten_cons, mergeBlock, List.foldl_append]
    rfl
  refine ⟨added, later, hsplit, hsub, fun path => ?_⟩
  have hany := any_same_mergeBlock (merge before) block path
  rw [hadded, List.any_append, any_same_merge] at hany
  cases hbefore : before.flatten.any (·.same path) with
  | false => simpa [hbefore] using hany
  | true =>
    rw [Bool.not_true, Bool.and_false, List.any_eq_false]
    intro kept hkept hsame
    obtain ⟨earlier, hearlier, hsame'⟩ := List.any_eq_true.1 ((any_same_merge _ _).trans hbefore)
    have hno := List.any_eq_false.1 (hnew kept hkept) earlier hearlier
    exact hno (Path.same_trans hsame' (Path.same_symm hsame))

end Glob

namespace Config

def searchOf (disk : Disk) (text : Text) : Except Glob.PatternError (List Path) :=
  (Glob.Pattern.parse text).map (·.paths disk)

section ExpandBy

variable (search : Text → Except Glob.PatternError (List Path)) (root : Path)

def sortedMatches (pattern : Text) : Except ConfigError (List Path) :=
  match search (root.join ⟨pattern⟩).text with
  | .error fault => .error (.badPattern pattern fault)
  | .ok found => .ok (found.mergeSort Path.le)

/-- Expansion by any way to search for the text of a pattern. -/
def expandBy (patterns : List Text) : Except ConfigError (List Path) :=
  (patterns.mapM (sortedMatches search root)).map Glob.merge

def Finds (pattern : Text) (found : List Path) : Prop :=
  search (root.join ⟨pattern⟩).text = .ok found

/-- Whether a path, however it is written, is found for a pattern. -/
def Matches (pattern : Text) (path : Path) : Prop :=
  ∃ found, Finds search root pattern found ∧ ∃ one ∈ found, one.same path = true

end ExpandBy

theorem expand_eq_expandBy (disk : Disk) (root : Path) (patterns : List Text) :
    expand disk root patterns = expandBy (searchOf disk) root patterns := by
  have hsorted (pattern : Text) : sortedMatches (searchOf disk) root pattern =
      (parsePattern root pattern).map (Glob.sortedPaths disk) := by
    rw [sortedMatches, searchOf, parsePattern]
    cases Glob.Pattern.parse (root.join ⟨pattern⟩).text <;> rfl
  have hmap : patterns.mapM (sortedMatches (searchOf disk) root) =
      (patterns.mapM (parsePattern root)).map (·.map (Glob.sortedPaths disk)) := by
    induction patterns with
    | nil => rfl
    | cons pattern patterns ih =>
      cases h : parsePattern root pattern with
      | error error =>
        rw [mapM_cons_of_error h, mapM_cons_of_error (by rw [hsorted, h]; rfl)]
        rfl
      | ok parsed =>
        rw [mapM_cons_of_ok h, mapM_cons_of_ok (by rw [hsorted, h]; rfl), ih]
        cases patterns.mapM (parsePattern root) <;> rfl
  rw [expandBy, hmap, expand]
  cases patterns.mapM (parsePattern root) <;> rfl

section ExpandBy

variable {search : Text → Except Glob.PatternError (List Path)} {root : Path}
  {patterns : List Text} {blocks : List (List Path)} {paths : List Path} {error : ConfigError}

theorem sortedMatches_eq_ok_iff {pattern : Text} {sorted : List Path} :
    sortedMatches search root pattern = .ok sorted ↔
      ∃ found, Finds search root pattern found ∧ found.mergeSort Path.le = sorted := by
  simp only [sortedMatches, Finds]
  cases search (root.join ⟨pattern⟩).text <;> simp

theorem sortedMatches_eq_error_iff {pattern : Text} :
    sortedMatches search root pattern = .error error ↔
      ∃ fault, search (root.join ⟨pattern⟩).text = .error fault ∧
        error = .badPattern pattern fault := by
  rw [sortedMatches]
  cases search (root.join ⟨pattern⟩).text <;> simp [eq_comm]

theorem expandBy_eq_ok_iff :
    expandBy search root patterns = .ok paths ↔
      ∃ blocks, List.Forall₂ (fun pattern sorted => sortedMatches search root pattern = .ok sorted)
        patterns blocks ∧ Glob.merge blocks = paths := by
  simp only [expandBy, ← mapM_eq_ok_iff]
  cases patterns.mapM (sortedMatches search root) <;> simp [Except.map]

theorem expandBy_eq_error_iff :
    expandBy search root patterns = .error error ↔
      patterns.mapM (sortedMatches search root) = .error error := by
  rw [expandBy]
  cases patterns.mapM (sortedMatches search root) <;> simp [Except.map]

theorem forall₂_sortedMatches {found : List (List Path)}
    (h : List.Forall₂ (Finds search root) patterns found) :
    List.Forall₂ (fun pattern sorted => sortedMatches search root pattern = .ok sorted)
      patterns (found.map (·.mergeSort Path.le)) := by
  rw [List.forall₂_map_right_iff]
  exact h.imp fun _ _ hfound => sortedMatches_eq_ok_iff.2 ⟨_, hfound, rfl⟩

/-- Matches that are found in order stay as they are found. -/
theorem expandBy_of_sorted {found : List (List Path)}
    (h : List.Forall₂ (Finds search root) patterns found)
    (hsorted : ∀ block ∈ found, block.Pairwise fun a b => Path.le a b = true) :
    expandBy search root patterns = .ok (found.flatten.eraseDupsBy Path.same) := by
  have hfound : found.map (·.mergeSort Path.le) = found := by
    refine (List.map_congr_left ?_).trans (List.map_id found)
    intro block hblock
    exact List.mergeSort_of_pairwise (hsorted block hblock)
  have hblocks := forall₂_sortedMatches h
  rw [hfound] at hblocks
  exact expandBy_eq_ok_iff.2 ⟨found, hblocks, Glob.merge_eq found⟩

theorem any_same_iff_matches {pattern path} {sorted : List Path}
    (h : sortedMatches search root pattern = .ok sorted) :
    sorted.any (·.same path) = true ↔ Matches search root pattern path := by
  obtain ⟨found, hfound, rfl⟩ := sortedMatches_eq_ok_iff.1 h
  rw [List.any_eq_true]
  constructor
  · rintro ⟨one, hone, hsame⟩
    exact ⟨found, hfound, one, List.mem_mergeSort.1 hone, hsame⟩
  · rintro ⟨found', hfound', one, hone, hsame⟩
    obtain rfl := Except.ok.inj (hfound.symm.trans hfound')
    exact ⟨one, List.mem_mergeSort.2 hone, hsame⟩

theorem any_same_flatten_iff_matches {path : Path}
    (h : List.Forall₂ (fun pattern sorted => sortedMatches search root pattern = .ok sorted)
      patterns blocks) :
    blocks.flatten.any (·.same path) = true ↔
      ∃ pattern ∈ patterns, Matches search root pattern path := by
  induction h with
  | nil => simp
  | cons hfirst _ ih =>
    rw [List.flatten_cons, List.any_append, Bool.or_eq_true, any_same_iff_matches hfirst, ih]
    exact (List.exists_mem_cons_iff (Matches search root · path) _ _).symm

/-- Every path is kept once, in the block of the first pattern that it is found for. -/
theorem expandBy_append_cons {before after : List Text} {pattern : Text}
    (h : expandBy search root (before ++ pattern :: after) = .ok paths) :
    ∃ earlier block later, paths = earlier ++ block ++ later ∧
      expandBy search root before = .ok earlier ∧ block.Pairwise (fun a b => Path.le a b = true) ∧
      ∀ path, block.any (·.same path) = true ↔
        Matches search root pattern path ∧
          ∀ other ∈ before, ¬ Matches search root other path := by
  obtain ⟨blocks, hblocks, rfl⟩ := expandBy_eq_ok_iff.1 h
  obtain ⟨first, sorted, rest, rfl, hbefore, hsorted, _⟩ := forall₂_append_cons hblocks
  obtain ⟨block, later, he, hsub, hblock⟩ := Glob.exists_merge_eq first sorted rest
  refine ⟨_, block, later, he, expandBy_eq_ok_iff.2 ⟨first, hbefore, rfl⟩, ?_, fun path => ?_⟩
  · obtain ⟨found, _, rfl⟩ := sortedMatches_eq_ok_iff.1 hsorted
    exact (List.pairwise_mergeSort Path.le_trans Path.le_total found).sublist hsub
  · rw [hblock, Bool.and_eq_true, Bool.not_eq_true', ← Bool.not_eq_true,
      any_same_iff_matches hsorted, any_same_flatten_iff_matches hbefore]
    simp only [not_exists, not_and]

/-- Expansion by any search: every path once, where it comes first among the matches of the patterns
in their order, those of a pattern sorted by their components; or else the fault of the first
pattern that has one, and nothing more. -/
theorem expandBy_merges (search : Text → Except Glob.PatternError (List Path)) (root : Path)
    (patterns : List Text) :
    (∀ disk, expand disk root patterns = expandBy (searchOf disk) root patterns) ∧
    (∀ a b : Path, Path.le a b = true ↔
      a.components = b.components ∨
        List.Lex Path.Component.Before a.components b.components) ∧
    (∀ found, List.Forall₂ (Finds search root) patterns found →
      ∃ paths, expandBy search root patterns = .ok paths ∧
        paths = (found.map (·.mergeSort Path.le)).flatten.eraseDupsBy Path.same ∧
        paths.Pairwise (fun a b => a.same b = false) ∧ paths ⊆ found.flatten ∧
        ∀ path, paths.any (·.same path) = true ↔
          ∃ pattern ∈ patterns, Matches search root pattern path) ∧
    (∀ before pattern after paths, patterns = before ++ pattern :: after →
      expandBy search root patterns = .ok paths →
        ∃ earlier block later, paths = earlier ++ block ++ later ∧
          expandBy search root before = .ok earlier ∧
          block.Pairwise (fun a b => Path.le a b = true) ∧
          ∀ path, block.any (·.same path) = true ↔
            Matches search root pattern path ∧
              ∀ other ∈ before, ¬ Matches search root other path) ∧
    ∀ error, expandBy search root patterns = .error error ↔
      ∃ before pattern after fault, patterns = before ++ pattern :: after ∧
        (∀ earlier ∈ before, ∃ found, Finds search root earlier found) ∧
        search (root.join ⟨pattern⟩).text = .error fault ∧
        error = .badPattern pattern fault := by
  refine ⟨fun disk => expand_eq_expandBy disk root patterns, fun _ _ => Path.le_iff, ?found,
    ?blocks, fun error => ?fault⟩
  case found =>
    intro found hfound
    have hsorted := forall₂_sortedMatches hfound
    refine ⟨_, expandBy_eq_ok_iff.2 ⟨_, hsorted, rfl⟩, Glob.merge_eq _, Glob.pairwise_merge _, ?_,
      fun path => ?_⟩
    · intro path hpath
      have hmem := (Glob.merge_sublist_flatten _).subset hpath
      obtain ⟨_, hsort, hpath⟩ := List.mem_flatten.1 hmem
      obtain ⟨block, hblock, rfl⟩ := List.mem_map.1 hsort
      exact List.mem_flatten.2 ⟨block, hblock, List.mem_mergeSort.1 hpath⟩
    · rw [Glob.any_same_merge]
      exact any_same_flatten_iff_matches hsorted
  case blocks =>
    rintro before pattern after paths rfl hpaths
    exact expandBy_append_cons hpaths
  case fault =>
    rw [expandBy_eq_error_iff, mapM_eq_error_iff]
    constructor
    · rintro ⟨before, pattern, after, rfl, hbefore, hpattern⟩
      obtain ⟨fault, hfault, rfl⟩ := sortedMatches_eq_error_iff.1 hpattern
      refine ⟨before, pattern, after, fault, rfl, fun earlier hearlier => ?_, hfault, rfl⟩
      obtain ⟨sorted, hsorted⟩ := hbefore earlier hearlier
      obtain ⟨found, hfound, _⟩ := sortedMatches_eq_ok_iff.1 hsorted
      exact ⟨found, hfound⟩
    · rintro ⟨before, pattern, after, fault, rfl, hbefore, hfault, rfl⟩
      refine ⟨before, pattern, after, rfl, fun earlier hearlier => ?_,
        sortedMatches_eq_error_iff.2 ⟨fault, hfault, rfl⟩⟩
      obtain ⟨found, hfound⟩ := hbefore earlier hearlier
      exact ⟨_, sortedMatches_eq_ok_iff.2 ⟨found, hfound, rfl⟩⟩

/-- Two patterns with a match in common, which stays in the block of the first. -/
theorem expandBy_merges_overlap :
    let disk : Disk := {
      root := .directory [("a.dat".toList, .file []), ("b.dat".toList, .file [])], current := [] }
    let patterns := ["b.*".toList, "?.dat".toList]
    let found : List (List Path) := [[⟨"b.dat".toList⟩], [⟨"a.dat".toList⟩, ⟨"b.dat".toList⟩]]
    List.Forall₂ (Finds (searchOf disk) ⟨Path.here⟩) patterns found ∧
      expandBy (searchOf disk) ⟨Path.here⟩ patterns =
        .ok [⟨"b.dat".toList⟩, ⟨"a.dat".toList⟩] ∧
      ∃ earlier block later,
        [⟨"b.dat".toList⟩, ⟨"a.dat".toList⟩] = earlier ++ block ++ later ∧
        expandBy (searchOf disk) ⟨Path.here⟩ ["b.*".toList] = .ok earlier ∧
        block.any (·.same ⟨"b.dat".toList⟩) = false := by
  intro disk patterns found
  have hfirst : searchOf disk "./b.*".toList = .ok [⟨"b.dat".toList⟩] := by decide +kernel
  have hsecond : searchOf disk "./?.dat".toList =
      .ok [⟨"a.dat".toList⟩, ⟨"b.dat".toList⟩] := by decide +kernel
  have hfound : List.Forall₂ (Finds (searchOf disk) ⟨Path.here⟩) patterns found :=
    .cons hfirst (.cons hsecond .nil)
  have hsorted : ∀ block ∈ found, block.Pairwise fun a b => Path.le a b = true := by decide
  obtain ⟨_, _, hmerged, hblocks, _⟩ := expandBy_merges (searchOf disk) ⟨Path.here⟩ patterns
  obtain ⟨paths, hpaths, _⟩ := hmerged found hfound
  obtain rfl : paths = [⟨"b.dat".toList⟩, ⟨"a.dat".toList⟩] :=
    Except.ok.inj (hpaths.symm.trans (expandBy_of_sorted hfound hsorted))
  obtain ⟨earlier, block, later, hsplit, hearlier, _, hblock⟩ :=
    hblocks ["b.*".toList] "?.dat".toList [] _ rfl hpaths
  refine ⟨hfound, hpaths, earlier, block, later, hsplit, hearlier, Bool.eq_false_iff.2 fun h => ?_⟩
  obtain ⟨_, hno⟩ := (hblock _).1 h
  exact hno _ List.mem_cons_self ⟨_, hfirst, _, List.mem_cons_self, Path.same_refl _⟩

end ExpandBy

end Config

end SuffixLint
