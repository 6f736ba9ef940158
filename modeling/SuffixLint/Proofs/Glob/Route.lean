import SuffixLint.Glob.Expansion
import SuffixLint.Proofs.FileSystem.Names

namespace SuffixLint.Glob

/-- Whether a name is one that tokens stand for: the name of an entry, or, for tokens that start
with a dot, one of the two special names. -/
def Takes (tokens : List Token) (name : Text) : Prop :=
  matchesName tokens name = true ∧
    (Path.IsName name ∨ tokens.head? = some (.char '.') ∧ Pattern.isSpecial name = true)

/-- The segments of a relative path that match some steps. A pattern for directories only, and one
that ends at any depth, asks for a directory by an empty segment at the end. -/
inductive Route (directoriesOnly : Bool) : List Step → List Text → Prop
  | done : Route directoriesOnly [] (if directoriesOnly then [[]] else [])
  | literal {name : Text} {rest : List Step} {route : List Text}
      (hrest : Route directoriesOnly rest route) :
      Route directoriesOnly (.literal name :: rest) (name :: route)
  | wild {tokens : List Token} {name : Text} {rest : List Step} {route : List Text}
      (hname : Takes tokens name) (hrest : Route directoriesOnly rest route) :
      Route directoriesOnly (.wild tokens :: rest) (name :: route)
  | everyDirectory {through : List Text} {name : Text}
      (hnames : ∀ other ∈ through ++ [name], Path.IsName other) :
      Route directoriesOnly [.anyDepth] (through ++ [name] ++ [[]])
  | anyDepth {through : List Text} {name : Text} {step : Step} {rest : List Step}
      {route : List Text} (hnames : ∀ other ∈ through ++ [name], Path.IsName other)
      (hname : step.accepts name = true) (hrest : Route directoriesOnly rest route) :
      Route directoriesOnly (.anyDepth :: step :: rest) (through ++ [name] ++ route)

/-- Whether a step can be taken to the directory above. -/
def Step.Climbs : Step → Prop
  | .literal name => name = Path.above
  | .wild tokens => Takes tokens Path.above
  | .anyDepth => False

theorem Route.above_not_mem {directoriesOnly : Bool} {steps : List Step} {route : List Text}
    (h : Route directoriesOnly steps route) (hsteps : ∀ step ∈ steps, ¬ step.Climbs) :
    Path.above ∉ route := by
  induction h with
  | done => cases directoriesOnly <;> decide
  | literal _ ih =>
    obtain ⟨hfirst, hrest⟩ := List.forall_mem_cons.1 hsteps
    exact List.not_mem_cons_of_ne_of_not_mem (Ne.symm hfirst) (ih hrest)
  | wild hname _ ih =>
    obtain ⟨hfirst, hrest⟩ := List.forall_mem_cons.1 hsteps
    refine List.not_mem_cons_of_ne_of_not_mem ?_ (ih hrest)
    rintro rfl
    exact hfirst hname
  | everyDirectory hnames =>
    rw [List.mem_append, not_or]
    exact ⟨Path.above_not_mem_of_isName hnames, by decide⟩
  | anyDepth hnames _ _ ih =>
    rw [List.mem_append, not_or]
    obtain ⟨_, hrest⟩ := List.forall_mem_cons.1 hsteps
    exact ⟨Path.above_not_mem_of_isName hnames, ih (List.forall_mem_cons.1 hrest).2⟩

/-- Whether a walk along segments that match some steps leads to a place. -/
def Reaches (disk : Disk) (directoriesOnly : Bool) (steps : List Step)
    (place target : List Text) : Prop :=
  ∃ route, Route directoriesOnly steps route ∧ disk.walk place route = .ok target

section Reaches

variable {disk : Disk} {directoriesOnly : Bool} {place target : List Text} {name : Text}
  {step : Step} {rest : List Step} {tokens : List Token}

theorem reaches_nil_iff :
    Reaches disk directoriesOnly [] place target ↔
      target = place ∧ (directoriesOnly = true → disk.DirectoryAt place) := by
  constructor
  · rintro ⟨_, ⟨⟩, hwalk⟩
    cases directoriesOnly with
    | false => exact ⟨(Except.ok.inj hwalk).symm, fun h => absurd h Bool.false_ne_true⟩
    | true =>
      obtain ⟨htarget, hdir⟩ := Disk.walk_empty_iff.1 hwalk
      exact ⟨htarget, fun _ => hdir⟩
  · rintro ⟨rfl, hdir⟩
    refine ⟨_, .done, ?_⟩
    cases directoriesOnly with
    | false => rfl
    | true => exact Disk.walk_empty_iff.2 ⟨rfl, hdir rfl⟩

theorem reaches_literal_iff :
    Reaches disk directoriesOnly (.literal name :: rest) place target ↔
      ∃ between, disk.walk place [name] = .ok between ∧
        Reaches disk directoriesOnly rest between target := by
  constructor
  · rintro ⟨_, ⟨⟩, hwalk⟩
    next route hrest =>
    obtain ⟨between, hname, hwalk⟩ := Disk.walk_cons_eq_ok_iff.1 hwalk
    exact ⟨between, hname, route, hrest, hwalk⟩
  · rintro ⟨between, hname, route, hrest, hwalk⟩
    exact ⟨_, .literal hrest, Disk.walk_cons_eq_ok_iff.2 ⟨_, hname, hwalk⟩⟩

theorem reaches_wild_iff :
    Reaches disk directoriesOnly (.wild tokens :: rest) place target ↔
      ∃ between, (∃ name, Takes tokens name ∧ disk.walk place [name] = .ok between) ∧
        Reaches disk directoriesOnly rest between target := by
  constructor
  · rintro ⟨_, ⟨⟩, hwalk⟩
    next name route htakes hrest =>
    obtain ⟨between, hname, hwalk⟩ := Disk.walk_cons_eq_ok_iff.1 hwalk
    exact ⟨between, ⟨name, htakes, hname⟩, route, hrest, hwalk⟩
  · rintro ⟨between, ⟨name, htakes, hname⟩, route, hrest, hwalk⟩
    exact ⟨_, .wild htakes hrest,
      Disk.walk_cons_eq_ok_iff.2 ⟨_, hname, hwalk⟩⟩

theorem reaches_anyDepth_iff :
    Reaches disk directoriesOnly (.anyDepth :: step :: rest) place target ↔
      ∃ between, (∃ through name, (∀ other ∈ through ++ [name], Path.IsName other) ∧
        step.accepts name = true ∧ disk.walk place (through ++ [name]) = .ok between) ∧
        Reaches disk directoriesOnly rest between target := by
  constructor
  · rintro ⟨_, ⟨⟩, hwalk⟩
    next through name route hnames hname hrest =>
    obtain ⟨between, hthrough, hwalk⟩ := Disk.walk_append_eq_ok_iff.1 hwalk
    exact ⟨between, ⟨through, name, hnames, hname, hthrough⟩, route, hrest, hwalk⟩
  · rintro ⟨between, ⟨through, name, hnames, hname, hthrough⟩, route, hrest, hwalk⟩
    exact ⟨_, .anyDepth hnames hname hrest, Disk.walk_append_eq_ok_iff.2 ⟨_, hthrough, hwalk⟩⟩

theorem reaches_everyDirectory_iff :
    Reaches disk directoriesOnly [.anyDepth] place target ↔
      ∃ through name, (∀ other ∈ through ++ [name], Path.IsName other) ∧
        disk.walk place (through ++ [name]) = .ok target ∧ disk.DirectoryAt target := by
  constructor
  · rintro ⟨_, ⟨⟩, hwalk⟩
    next through name hnames =>
    obtain ⟨between, hthrough, hwalk⟩ := Disk.walk_append_eq_ok_iff.1 hwalk
    obtain ⟨rfl, hdir⟩ := Disk.walk_empty_iff.1 hwalk
    exact ⟨through, name, hnames, hthrough, hdir⟩
  · rintro ⟨through, name, hnames, hthrough, hdir⟩
    exact ⟨_, .everyDirectory hnames,
      Disk.walk_append_eq_ok_iff.2 ⟨_, hthrough, Disk.walk_empty_iff.2 ⟨rfl, hdir⟩⟩⟩

end Reaches

end SuffixLint.Glob
