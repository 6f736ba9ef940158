import SuffixLint.Proofs.FileSystem.Denotes
import SuffixLint.Proofs.Glob.Entries
import SuffixLint.Proofs.Glob.Route

namespace SuffixLint.Glob

section Steps

variable {disk : Disk} {path : Path} {place target : List Text} {name : Text}
  {directory : FileTree} {tokens : List Token} {step : Step}

theorem not_directoryAt (h : disk.locate path = .ok place) (hnone : disk.directory? path = none) :
    ¬ disk.DirectoryAt place := by
  intro hdir
  obtain ⟨node, hnode⟩ := Option.isSome_iff_exists.1 hdir.isSome
  rw [Disk.DirectoryAt, hnode] at hdir
  cases hnone.symm.trans (Disk.directory?_eq_some_iff.2 ⟨place, h, hnode, hdir⟩)

theorem at?_of_directory? (h : disk.locate path = .ok place)
    (hsome : disk.directory? path = some directory) :
    disk.root.at? place = some directory ∧ disk.DirectoryAt place := by
  obtain ⟨other, hother, hnode, hdir⟩ := Disk.directory?_eq_some_iff.1 hsome
  obtain rfl := Except.ok.inj (h.symm.trans hother)
  refine ⟨hnode, ?_⟩
  rw [Disk.DirectoryAt, hnode]
  exact hdir

theorem exists_walk_special_iff (hspecial : Pattern.isSpecial name = true) :
    (∃ target, disk.walk place [name] = .ok target) ↔ disk.DirectoryAt place := by
  constructor
  · rintro ⟨target, h⟩
    exact Disk.directoryAt_of_walk h
  · intro hdir
    rw [Disk.walk_cons hdir]
    rcases Bool.or_eq_true_iff.1 hspecial with h | h
    · rw [beq_iff_eq.1 h]
      exact ⟨place, rfl⟩
    · rw [beq_iff_eq.1 h]
      exact ⟨place.dropLast, rfl⟩

theorem separator_not_mem_of_isSpecial (hspecial : Pattern.isSpecial name = true) :
    Path.separator ∉ name := by
  rcases Bool.or_eq_true_iff.1 hspecial with h | h
  · rw [beq_iff_eq.1 h]
    decide
  · rw [beq_iff_eq.1 h]
    decide

theorem literal_found_iff (h : disk.locate path = .ok place) (hfree : Path.separator ∉ name)
    (hname : path.same ⟨Path.here⟩ = true → name ≠ []) :
    (if Pattern.isSpecial name then disk.isDirectory path
      else disk.contains (Pattern.entryPath path name)) = true ↔
        ∃ target, disk.walk place [name] = .ok target := by
  split
  · next hspecial =>
    rw [exists_walk_special_iff hspecial, Disk.isDirectory_iff, h]
    simp
  · rw [Disk.contains_iff, Pattern.locate_entryPath h hfree hname]

def specialNames (tokens : List Token) : List Text :=
  if tokens.head? = some (.char '.') then [Path.above, Path.here].filter (matchesName tokens)
  else []

theorem mem_specialNames_iff :
    name ∈ specialNames tokens ↔ matchesName tokens name = true ∧
      tokens.head? = some (.char '.') ∧ Pattern.isSpecial name = true := by
  rw [specialNames]
  split
  · next hdot =>
    simp [hdot, Pattern.isSpecial, and_comm, or_comm]
  · next hdot => simp [hdot]

theorem isName_of_mem_entries (htree : disk.root.WellFormed) (h : disk.locate path = .ok place)
    (hsome : disk.directory? path = some directory) (hmem : name ∈ directory.entries.map Prod.fst) :
    Path.IsName name ∧ (disk.root.at? (place ++ [name])).isSome = true := by
  have hnode := (at?_of_directory? h hsome).1
  obtain ⟨node, hchild⟩ := Option.isSome_iff_exists.1 (FileTree.mem_entries_iff.1 hmem)
  rw [FileTree.at?_append_singleton, hnode]
  exact ⟨((htree.at? hnode).2.child? hchild).1, Option.isSome_of_eq_some hchild⟩

/-- The tokens lead to the entries of a directory that they match and, if they start with a dot, to
the directory itself and the one above it. -/
theorem denotes_wild (htree : disk.root.WellFormed) (h : disk.locate path = .ok place)
    (hsome : disk.directory? path = some directory) :
    disk.Denotes
      ((specialNames tokens).map (fun name => path.join ⟨name⟩) ++
        ((directory.entries.map Prod.fst).filter (matchesName tokens)).map
          (Pattern.entryPath path))
      (fun target => ∃ name, Takes tokens name ∧ disk.walk place [name] = .ok target) := by
  obtain ⟨hnode, hdir⟩ := at?_of_directory? h hsome
  have hentry := fun name (hmem : name ∈ directory.entries.map Prod.fst) =>
    isName_of_mem_entries htree h hsome hmem
  have hspecial : disk.Denotes ((specialNames tokens).map fun name => path.join ⟨name⟩)
      (fun target => ∃ name ∈ specialNames tokens, disk.walk place [name] = .ok target) := by
    refine .map (fun name hmem => ?_) fun name hmem => ?_
    · have hfree := separator_not_mem_of_isSpecial (mem_specialNames_iff.1 hmem).2.2
      rw [Disk.locate_join h (Path.isAbsolute_name hfree), Path.segments_name hfree]
    · exact (exists_walk_special_iff (mem_specialNames_iff.1 hmem).2.2).2 hdir
  have hfound : disk.Denotes
      (((directory.entries.map Prod.fst).filter (matchesName tokens)).map
        (Pattern.entryPath path))
      (fun target => ∃ name ∈ (directory.entries.map Prod.fst).filter (matchesName tokens),
        disk.walk place [name] = .ok target) := by
    refine .map (fun name hmem => ?_) fun name hmem => ?_
    · obtain ⟨hname, _⟩ := hentry name (List.mem_of_mem_filter hmem)
      exact Pattern.locate_entryPath h hname.separator_not_mem fun _ => hname.ne_nil
    · obtain ⟨hname, hat⟩ := hentry name (List.mem_of_mem_filter hmem)
      exact ⟨_, (Disk.walk_name hdir hname.not_idle hname.ne_above).2 ⟨rfl, hat⟩⟩
  refine (hspecial.append hfound).congr fun target => ?_
  constructor
  · rintro (⟨name, hmem, hwalk⟩ | ⟨name, hmem, hwalk⟩)
    · obtain ⟨hmatch, hdot⟩ := mem_specialNames_iff.1 hmem
      exact ⟨name, ⟨hmatch, .inr hdot⟩, hwalk⟩
    · obtain ⟨hmem, hmatch⟩ := List.mem_filter.1 hmem
      exact ⟨name, ⟨hmatch, .inl (hentry name hmem).1⟩, hwalk⟩
  · rintro ⟨name, ⟨hmatch, hname | hdot⟩, hwalk⟩
    · obtain ⟨rfl, hat⟩ := (Disk.walk_name hdir hname.not_idle hname.ne_above).1 hwalk
      rw [FileTree.at?_append_singleton, hnode] at hat
      exact .inr ⟨name, List.mem_filter.2 ⟨FileTree.mem_entries_iff.2 hat, hmatch⟩, hwalk⟩
    · exact .inl ⟨name, mem_specialNames_iff.2 ⟨hmatch, hdot⟩, hwalk⟩

theorem denotes_below (htree : disk.root.WellFormed) (h : disk.locate path = .ok place)
    (hsome : disk.directory? path = some directory) (keep : Text × FileTree → Bool) :
    disk.Denotes (((Pattern.below path directory).filter (keep ·.2)).map Prod.fst)
      (fun target => ∃ through name node, (∀ other ∈ through ++ [name], Path.IsName other) ∧
        disk.walk place (through ++ [name]) = .ok target ∧ disk.root.at? target = some node ∧
          keep (name, node) = true) := by
  obtain ⟨hnode, hdir⟩ := at?_of_directory? h hsome
  have hwell := (htree.at? hnode).2
  constructor
  · intro found hfound
    obtain ⟨⟨_, name, node⟩, hentry, rfl⟩ := List.mem_map.1 hfound
    obtain ⟨hbelow, hkeep⟩ := List.mem_filter.1 hentry
    obtain ⟨through, hchild, rfl⟩ := (Pattern.mem_below_iff hwell).1 hbelow
    have hnames := (hwell.at? hchild).1
    have hat : disk.root.at? (place ++ (through ++ [name])) = some node := by
      rw [FileTree.at?_append, hnode]
      exact hchild
    have hsome := Option.isSome_of_eq_some hat
    exact ⟨_, Pattern.locate_foldl_entryPath h hnames hsome, through, name, node, hnames,
      (Disk.walk_names hdir.isSome hnames).2 ⟨rfl, hsome⟩, hat, hkeep⟩
  · rintro target ⟨through, name, node, hnames, hwalk, hat, hkeep⟩
    obtain ⟨rfl, hsome⟩ := (Disk.walk_names hdir.isSome hnames).1 hwalk
    have hchild : directory.at? (through ++ [name]) = some node := by
      rw [FileTree.at?_append, hnode] at hat
      exact hat
    refine ⟨_, List.mem_map.2 ⟨(_, name, node), List.mem_filter.2 ⟨?_, hkeep⟩, rfl⟩,
      Pattern.locate_foldl_entryPath h hnames hsome⟩
    exact (Pattern.mem_below_iff hwell).2 ⟨through, hchild, rfl⟩

theorem denotes_accepted (htree : disk.root.WellFormed) (h : disk.locate path = .ok place)
    (hsome : disk.directory? path = some directory) :
    disk.Denotes (((Pattern.below path directory).filter (step.accepts ·.2.1)).map Prod.fst)
      (fun target => ∃ through name, (∀ other ∈ through ++ [name], Path.IsName other) ∧
        step.accepts name = true ∧ disk.walk place (through ++ [name]) = .ok target) := by
  refine (denotes_below htree h hsome fun entry => step.accepts entry.1).congr fun target => ?_
  constructor
  · rintro ⟨through, name, node, hnames, hwalk, _, hname⟩
    exact ⟨through, name, hnames, hname, hwalk⟩
  · rintro ⟨through, name, hnames, hname, hwalk⟩
    obtain ⟨node, hnode⟩ := Option.isSome_iff_exists.1
      (Disk.isSome_of_walk (Disk.isSome_of_locate h) hwalk)
    exact ⟨through, name, node, hnames, hwalk, hnode, hname⟩

theorem denotes_directories (htree : disk.root.WellFormed) (h : disk.locate path = .ok place)
    (hsome : disk.directory? path = some directory) :
    disk.Denotes (((Pattern.below path directory).filter (·.2.2.isDirectory)).map Prod.fst)
      (fun target => ∃ through name, (∀ other ∈ through ++ [name], Path.IsName other) ∧
        disk.walk place (through ++ [name]) = .ok target ∧ disk.DirectoryAt target) := by
  refine (denotes_below htree h hsome fun entry => entry.2.isDirectory).congr fun target => ?_
  constructor
  · rintro ⟨through, name, node, hnames, hwalk, hnode, hdir⟩
    exact ⟨through, name, hnames, hwalk, Disk.directoryAt_iff.2 ⟨node, hnode, hdir⟩⟩
  · rintro ⟨through, name, hnames, hwalk, hdir⟩
    obtain ⟨node, hnode, hdir⟩ := Disk.directoryAt_iff.1 hdir
    exact ⟨through, name, node, hnames, hwalk, hnode, hdir⟩

end Steps

/-- Whether steps can be taken one after another from the current directory. Its entries go by
their names alone, so that an empty name would leave no path there. -/
def Settled : List Step → Prop
  | [] => True
  | .literal name :: rest => name ≠ [] ∧ (name = Path.here → Settled rest)
  | .wild tokens :: rest => tokens.head? = some (.char '.') → Settled rest
  | .anyDepth :: _ => True

theorem Settled.entryPath {path : Path} {name : Text} {rest : List Step}
    (h : path.same ⟨Path.here⟩ = true → Settled (.literal name :: rest))
    (hne : path.text ≠ []) (hfree : Path.separator ∉ name)
    (hhere : (Pattern.entryPath path name).same ⟨Path.here⟩ = true) : Settled rest := by
  have hsettled := (h (Pattern.same_here_of_entryPath hne hfree hhere)).2
  refine hsettled (Classical.byContradiction fun hname => ?_)
  rw [Pattern.not_same_here_entryPath hne hfree hname] at hhere
  cases hhere

/-- Whether the search along steps finds, from wherever it starts, exactly what the walks along
their segments lead to. -/
def Follows (disk : Disk) (directoriesOnly : Bool) (steps : List Step) : Prop :=
  ∀ ⦃path place⦄, disk.locate path = .ok place →
    (path.same ⟨Path.here⟩ = true → Settled steps) →
      disk.Denotes (Pattern.follow disk directoriesOnly steps path)
        (Reaches disk directoriesOnly steps place)

section Follow

variable {disk : Disk} {directoriesOnly : Bool} {name : Text} {tokens : List Token} {step : Step}
  {rest : List Step}

theorem follows_nil : Follows disk directoriesOnly [] := by
  intro path place hlocate _
  have hdir : disk.isDirectory path = true ↔ disk.DirectoryAt place := by
    rw [Disk.isDirectory_iff, hlocate]
    simp
  rw [Pattern.follow]
  split
  · next hno =>
    refine .nil fun target htarget => ?_
    obtain ⟨honly, hnot⟩ := Bool.and_eq_true_iff.1 hno
    rw [hdir.2 ((reaches_nil_iff.1 htarget).2 honly)] at hnot
    cases hnot
  · next hyes =>
    refine (Disk.Denotes.singleton hlocate).congr fun target => ?_
    rw [reaches_nil_iff]
    exact (and_iff_left fun honly => hdir.1 (by simpa [honly] using hyes)).symm

theorem follows_literal (hfree : Path.separator ∉ name)
    (hrest : Follows disk directoriesOnly rest) :
    Follows disk directoriesOnly (.literal name :: rest) := by
  intro path place hlocate hsettled
  have hname := fun hhere => (hsettled hhere).1
  have hfound := literal_found_iff hlocate hfree hname
  rw [Pattern.follow]
  by_cases hwalk : ∃ between, disk.walk place [name] = .ok between
  · obtain ⟨between, hbetween⟩ := hwalk
    rw [if_pos (hfound.2 ⟨between, hbetween⟩)]
    have hnext := (Pattern.locate_entryPath hlocate hfree hname).trans hbetween
    have hthere := Disk.text_ne_nil_of_locate hlocate
    refine (hrest hnext (Settled.entryPath hsettled hthere hfree)).congr fun target => ?_
    rw [reaches_literal_iff, hbetween]
    simp
  · rw [if_neg (mt hfound.1 hwalk)]
    refine .nil fun target htarget => hwalk ?_
    obtain ⟨between, hbetween, _⟩ := reaches_literal_iff.1 htarget
    exact ⟨between, hbetween⟩

theorem follows_wild (htree : disk.root.WellFormed) (hrest : Follows disk directoriesOnly rest) :
    Follows disk directoriesOnly (.wild tokens :: rest) := by
  intro path place hlocate hsettled
  have hthere := Disk.text_ne_nil_of_locate hlocate
  cases hsome : disk.directory? path with
  | none =>
    rw [Pattern.follow, hsome]
    refine .nil fun target htarget => not_directoryAt hlocate hsome ?_
    obtain ⟨_, ⟨name, _, hwalk⟩, _⟩ := reaches_wild_iff.1 htarget
    exact Disk.directoryAt_of_walk hwalk
  | some directory =>
    have hfollow : Pattern.follow disk directoriesOnly (.wild tokens :: rest) path =
        ((specialNames tokens).map (fun name => path.join ⟨name⟩) ++
          ((directory.entries.map Prod.fst).filter (matchesName tokens)).map
            (Pattern.entryPath path)).flatMap (Pattern.follow disk directoriesOnly rest) := by
      rw [Pattern.follow, hsome, List.flatMap_append, List.flatMap_map, List.flatMap_map]
      rfl
    rw [hfollow]
    refine ((denotes_wild htree hlocate hsome).flatMap
      fun found hfound between hbetween => ?_).congr fun target => reaches_wild_iff.symm
    refine hrest hbetween fun hhere => ?_
    rcases List.mem_append.1 hfound with hfound | hfound
    · obtain ⟨name, hname, rfl⟩ := List.mem_map.1 hfound
      obtain ⟨_, hdot, hspecial⟩ := mem_specialNames_iff.1 hname
      have hrel := Path.isAbsolute_name (separator_not_mem_of_isSpecial hspecial)
      exact hsettled (Path.same_here_of_join hrel hthere hhere) hdot
    · obtain ⟨name, hname, rfl⟩ := List.mem_map.1 hfound
      have hname := (isName_of_mem_entries htree hlocate hsome (List.mem_of_mem_filter hname)).1
      rw [Pattern.not_same_here_entryPath hthere hname.separator_not_mem hname.ne_here] at hhere
      cases hhere

theorem follows_everyDirectory (htree : disk.root.WellFormed) :
    Follows disk directoriesOnly [.anyDepth] := by
  intro path place hlocate _
  cases hsome : disk.directory? path with
  | none =>
    rw [Pattern.follow, hsome]
    refine .nil fun target htarget => not_directoryAt hlocate hsome ?_
    obtain ⟨through, name, _, hwalk, _⟩ := reaches_everyDirectory_iff.1 htarget
    exact Disk.directoryAt_of_walk_append_singleton hwalk
  | some directory =>
    rw [Pattern.follow, hsome]
    exact (denotes_directories htree hlocate hsome).congr fun target =>
      reaches_everyDirectory_iff.symm

theorem follows_anyDepth (htree : disk.root.WellFormed)
    (hrest : Follows disk directoriesOnly rest) :
    Follows disk directoriesOnly (.anyDepth :: step :: rest) := by
  intro path place hlocate _
  cases hsome : disk.directory? path with
  | none =>
    rw [Pattern.follow, hsome]
    refine .nil fun target htarget => not_directoryAt hlocate hsome ?_
    obtain ⟨_, ⟨through, name, _, _, hwalk⟩, _⟩ := reaches_anyDepth_iff.1 htarget
    exact Disk.directoryAt_of_walk_append_singleton hwalk
  | some directory =>
    have hfollow : Pattern.follow disk directoriesOnly (.anyDepth :: step :: rest) path =
        (((Pattern.below path directory).filter (step.accepts ·.2.1)).map Prod.fst).flatMap
          (Pattern.follow disk directoriesOnly rest) := by
      rw [Pattern.follow, hsome, List.flatMap_map]
    rw [hfollow]
    refine ((denotes_accepted htree hlocate hsome).flatMap
      fun found hfound between hbetween => ?_).congr fun target => reaches_anyDepth_iff.symm
    obtain ⟨⟨_, name, node⟩, hentry, rfl⟩ := List.mem_map.1 hfound
    refine hrest hbetween fun hhere => ?_
    have hwell := (htree.at? (at?_of_directory? hlocate hsome).1).2
    obtain ⟨through, hnode, rfl⟩ :=
      (Pattern.mem_below_iff hwell).1 (List.mem_of_mem_filter hentry)
    have hthere := Disk.text_ne_nil_of_locate hlocate
    rw [Pattern.not_same_here_foldl hthere (hwell.at? hnode).1] at hhere
    cases hhere

/-- The search finds exactly what the walks along the segments of the steps lead to. -/
theorem follows_of_wellFormed (htree : disk.root.WellFormed) : ∀ steps : List Step,
    (∀ name, .literal name ∈ steps → Path.separator ∉ name) → Follows disk directoriesOnly steps
  | [], _ => follows_nil
  | .literal name :: rest, hfree =>
    have hrest := follows_of_wellFormed htree rest fun other hmem =>
      hfree other (List.mem_cons_of_mem _ hmem)
    follows_literal (hfree name List.mem_cons_self) hrest
  | .wild _ :: rest, hfree =>
    have hrest := follows_of_wellFormed htree rest fun other hmem =>
      hfree other (List.mem_cons_of_mem _ hmem)
    follows_wild htree hrest
  | [.anyDepth], _ => follows_everyDirectory htree
  | .anyDepth :: _ :: rest, hfree =>
    have hrest := follows_of_wellFormed htree rest fun other hmem =>
      hfree other (List.mem_cons_of_mem _ (List.mem_cons_of_mem _ hmem))
    follows_anyDepth htree hrest

end Follow

end SuffixLint.Glob
