import SuffixLint.Proofs.FirstError
import SuffixLint.Proofs.Glob.Reading
import SuffixLint.Proofs.Glob.Route

namespace SuffixLint.Glob

namespace Step

variable {tokens : List Token} {name : Text} {steps : List Step} {names : List Text}

def read (name : Text) : Except PatternError Step := do return ofTokens (← Glob.parse name)

theorem ofTokens_map_char (name : Text) : ofTokens (name.map .char) = .literal name := by
  have hliteral : literal? (name.map .char) = some name := by
    induction name with
    | nil => rfl
    | cons c name ih => rw [List.map_cons, literal?, ih, Option.map_some]
  rw [ofTokens, hliteral, if_neg (by simp)]

theorem read_of_isPlain (h : ∀ c ∈ name, isPlain c = true) : read name = .ok (.literal name) := by
  rw [read, Glob.parse, parseFrom_eq_of_isPlain h]
  exact congrArg Except.ok (ofTokens_map_char name)

theorem eq_of_read_literal {text : Text} (h : read text = .ok (.literal name)) : name = text := by
  rw [read, Glob.parse] at h
  cases hparse : parseFrom 0 none text with
  | error error =>
    rw [hparse] at h
    cases h
  | ok tokens =>
    rw [hparse] at h
    have hname : ofTokens tokens = .literal name := Except.ok.inj h
    rw [ofTokens] at hname
    split at hname
    · cases hname
    · split at hname
      · next hliteral =>
        cases hname
        exact eq_of_literal? (by rw [hparse]; rfl) hliteral
      · cases hname

theorem mergeDepths_sublist (steps : List Step) : (mergeDepths steps).Sublist steps := by
  induction steps using mergeDepths.induct with
  | case1 rest ih => rw [mergeDepths]; exact ih.cons _
  | case2 step rest hno ih =>
    rw [mergeDepths]
    · exact ih.cons_cons step
    · exact hno
  | case3 => rw [mergeDepths]

theorem mergeDepths_append_literals (names : List Text) (steps : List Step) :
    mergeDepths (names.map .literal ++ steps) = names.map .literal ++ mergeDepths steps := by
  induction names with
  | nil => rfl
  | cons name names ih =>
    rw [List.map_cons, List.cons_append, mergeDepths, ih, List.cons_append]
    simp

end Step

namespace Pattern

variable {text front : Text} {parsed : Pattern} {name : Text}

def body (text : Text) : Text := if text.head? == some Path.separator then text.drop 1 else text

theorem parse_eq_ok_iff :
    parse text = .ok parsed ↔
      (∃ tokens, Glob.parse text = .ok tokens) ∧
        ∃ steps,
          List.Forall₂ (fun name step => Step.read name = .ok step) (names (body text)) steps ∧
          parsed = {
            isAbsolute := text.head? == some Path.separator
            steps := if (body text).isEmpty then [.literal []] else Step.mergeDepths steps
            directoriesOnly := text.getLast? == some Path.separator } := by
  have hparse : parse text = (Glob.parse text).bind fun _ =>
      ((names (body text)).mapM Step.read).map fun steps => {
        isAbsolute := text.head? == some Path.separator
        steps := if (body text).isEmpty then [.literal []] else Step.mergeDepths steps
        directoriesOnly := text.getLast? == some Path.separator } := rfl
  simp only [← mapM_eq_ok_iff]
  rw [hparse]
  cases Glob.parse text with
  | error error => simp [Except.bind]
  | ok tokens =>
    cases (names (body text)).mapM Step.read with
    | error error => simp [Except.bind, Except.map]
    | ok steps =>
      constructor
      · intro h
        cases h
        exact ⟨⟨tokens, rfl⟩, steps, rfl, rfl⟩
      · rintro ⟨_, _, ⟨⟩, rfl⟩
        rfl

theorem isAbsolute_of_parse (h : parse text = .ok parsed) :
    parsed.isAbsolute = Path.isAbsolute ⟨text⟩ := by
  obtain ⟨_, _, _, rfl⟩ := parse_eq_ok_iff.1 h
  rfl

theorem names_append_cons (front back : Text) :
    names (front ++ Path.separator :: back) = front.splitOn Path.separator ++ names back := by
  have hback := List.splitOn_ne_nil Path.separator back
  have hlast : (front.splitOn Path.separator ++ back.splitOn Path.separator).getLast? =
      (back.splitOn Path.separator).getLast? := List.getLast?_append_of_ne_nil _ hback
  simp only [names, List.splitOn_append_cons_self, hlast]
  split
  · rw [List.dropLast_append_of_ne_nil hback]
  · rfl

theorem separator_not_mem_of_mem_names (h : name ∈ names text) : Path.separator ∉ name := by
  rw [names] at h
  split at h
  · exact Text.not_mem_of_mem_splitOn ((List.dropLast_subset _) h)
  · exact Text.not_mem_of_mem_splitOn h

theorem separator_not_mem_of_literal (h : parse text = .ok parsed)
    (hmem : .literal name ∈ parsed.steps) : Path.separator ∉ name := by
  obtain ⟨_, steps, hsteps, rfl⟩ := parse_eq_ok_iff.1 h
  dsimp only at hmem
  split at hmem
  · cases List.mem_singleton.1 hmem
    exact List.not_mem_nil
  · obtain ⟨other, hother, hread⟩ :=
      exists_mem_of_forall₂ hsteps ((Step.mergeDepths_sublist steps).subset hmem)
    exact Step.eq_of_read_literal hread ▸ separator_not_mem_of_mem_names hother

def leadNames (front : Text) : List Text :=
  if front = [] then [] else (body front).splitOn Path.separator

theorem body_append (hfront : front ≠ []) (back : Text) :
    body (front ++ Path.separator :: back) = body front ++ Path.separator :: back := by
  obtain ⟨c, rest, rfl⟩ := List.exists_cons_of_ne_nil hfront
  by_cases hc : c = Path.separator <;> simp [body, hc]

theorem names_body_append (front back : Text) :
    names (body (front ++ Path.separator :: back)) = leadNames front ++ names back := by
  by_cases hfront : front = []
  · rw [hfront]
    rfl
  · rw [body_append hfront, names_append_cons, leadNames, if_neg hfront]

theorem forall_isPlain_of_mem_leadNames (h : ∀ c ∈ front, isPlain c = true)
    (hname : name ∈ leadNames front) : ∀ c ∈ name, isPlain c = true := by
  rw [leadNames] at hname
  split at hname
  · cases hname
  · intro c hc
    have hmem := (Text.mem_and_ne_of_mem_splitOn hname hc).1
    rw [body] at hmem
    split at hmem
    · exact h c (List.mem_of_mem_drop hmem)
    · exact h c hmem

end Pattern

section Reaches

variable {disk : Disk} {directoriesOnly : Bool} {place between target names : List Text}
  {steps : List Step}

theorem reaches_empty_iff :
    Reaches disk directoriesOnly [.literal []] place target ↔
      target = place ∧ disk.DirectoryAt place := by
  rw [reaches_literal_iff]
  simp only [Disk.walk_empty_iff, reaches_nil_iff]
  constructor
  · rintro ⟨_, ⟨rfl, hdir⟩, rfl, _⟩
    exact ⟨rfl, hdir⟩
  · rintro ⟨rfl, hdir⟩
    exact ⟨_, ⟨rfl, hdir⟩, rfl, fun _ => hdir⟩

theorem reaches_append_literals (h : disk.walk place names = .ok between) :
    Reaches disk directoriesOnly (names.map .literal ++ steps) place target ↔
      Reaches disk directoriesOnly steps between target := by
  induction names generalizing place with
  | nil =>
    cases h
    rfl
  | cons name names ih =>
    obtain ⟨next, hname, hnames⟩ := Disk.walk_cons_eq_ok_iff.1 h
    rw [List.map_cons, List.cons_append, reaches_literal_iff]
    simp [hname, ih hnames]

/-- A walk along the names of a path, whether or not the path starts or ends with a separator. -/
theorem walk_leadNames {path : Path} {front : Text} (h : disk.locate path = .ok place)
    (hfront : path.text = front ∨ path.text = front ++ [Path.separator]) :
    disk.walk (disk.base path) (Pattern.leadNames front) = .ok place := by
  have hsegments : path.segments = front.splitOn Path.separator ∨
      path.segments = front.splitOn Path.separator ++ [[]] := by
    refine hfront.imp (fun he => by rw [Path.segments, he]) fun he => ?_
    rw [Path.segments, he, List.splitOn_append_cons_self, List.splitOn_nil]
  have hwalk := Disk.walk_of_locate h hsegments
  cases front with
  | nil =>
    obtain ⟨rfl, _⟩ := Disk.walk_empty_iff.1 hwalk
    rfl
  | cons c rest =>
    rw [Pattern.leadNames, if_neg (List.cons_ne_nil c rest), Pattern.body]
    by_cases hc : c = Path.separator
    · subst hc
      rw [← List.nil_append (Path.separator :: rest), List.splitOn_append_cons_self] at hwalk
      obtain ⟨between, hbetween, hwalk⟩ := Disk.walk_append_eq_ok_iff.1 hwalk
      obtain ⟨rfl, _⟩ := Disk.walk_empty_iff.1 hbetween
      exact hwalk
    · simpa [hc] using hwalk

end Reaches

namespace Pattern

variable {front pattern : Text} {parsed : Pattern}

theorem leadNames_of_relative {path : Path}
    (hfront : path.text = front ∨ path.text = front ++ [Path.separator])
    (hrel : path.isAbsolute = false) (hne : path.text ≠ []) :
    ∃ first others, leadNames front = first :: others ∧ first ≠ [] ∧
      path.segments.head? = some first := by
  have hhead : path.text.head? ≠ some Path.separator := by simpa [Path.isAbsolute] using hrel
  cases front with
  | nil =>
    rcases hfront with he | he
    · exact absurd he hne
    · exact absurd (congrArg List.head? he) hhead
  | cons c rest =>
    have hc : c ≠ Path.separator := by
      rintro rfl
      exact hfront.elim (fun he => hhead (congrArg List.head? he))
        fun he => hhead (congrArg List.head? he)
    obtain ⟨first, others, hrest⟩ := List.exists_cons_of_ne_nil
      (List.splitOn_ne_nil Path.separator rest)
    have hsplit : (c :: rest).splitOn Path.separator = (c :: first) :: others := by
      rw [List.splitOn_cons_eq_if_modifyHead, if_neg (by simpa using hc), hrest]
      rfl
    refine ⟨c :: first, others, ?_, List.cons_ne_nil c first, ?_⟩
    · rw [leadNames, if_neg (List.cons_ne_nil c rest), body, if_neg (by simpa using hc), hsplit]
    · rcases hfront with he | he
      · rw [Path.segments, he, hsplit]
        rfl
      · rw [Path.segments, he, List.splitOn_append_cons_self, hsplit]
        rfl

/-- Behind a plain path a relative pattern can still be read. Its steps follow those for the names
of the path, and it reaches from where the path leads what it reaches by itself. -/
theorem exists_parse_append (hplain : ∀ c ∈ front, isPlain c = true)
    (hparsed : parse pattern = .ok parsed) (hrel : parsed.isAbsolute = false) :
    ∃ joined, parse (front ++ Path.separator :: pattern) = .ok joined ∧
      (leadNames front ≠ [] → ∃ rest, joined.steps = (leadNames front).map .literal ++ rest) ∧
      ∀ disk place between target, Disk.walk disk place (leadNames front) = .ok between →
        (Reaches disk joined.directoriesOnly joined.steps place target ↔
          Reaches disk parsed.directoriesOnly parsed.steps between target) := by
  obtain ⟨htokens, steps, hsteps, rfl⟩ := parse_eq_ok_iff.1 hparsed
  have hbody : body pattern = pattern := if_neg (Bool.eq_false_iff.1 hrel)
  rw [hbody] at hsteps ⊢
  have hlead : List.Forall₂ (fun name step => Step.read name = .ok step) (leadNames front)
      ((leadNames front).map .literal) := by
    rw [List.forall₂_map_right_iff, List.forall₂_same]
    exact fun name hname =>
      Step.read_of_isPlain (forall_isPlain_of_mem_leadNames hplain hname)
  have hjoined : List.Forall₂ (fun name step => Step.read name = .ok step)
      (names (body (front ++ Path.separator :: pattern)))
      ((leadNames front).map .literal ++ steps) := by
    rw [names_body_append]
    exact List.rel_append hlead hsteps
  have hempty : (body (front ++ Path.separator :: pattern)).isEmpty = true ↔
      front = [] ∧ pattern = [] := by
    by_cases hfront : front = []
    · simp [hfront, body]
    · simp [body_append hfront, hfront]
  refine ⟨_, parse_eq_ok_iff.2 ⟨(exists_parse_append_iff hplain).2 htokens, _, hjoined, rfl⟩,
    fun hnames => ?_, fun disk place between target hwalk => ?_⟩
  · have hfront : front ≠ [] := fun he => hnames (he ▸ rfl)
    refine ⟨Step.mergeDepths steps, ?_⟩
    simp only [hempty, hfront, false_and, if_false, Step.mergeDepths_append_literals]
  rw [Step.mergeDepths_append_literals]
  cases pattern with
  | nil =>
    -- The pattern for the path itself, which the separator makes one for directories.
    cases hsteps
    by_cases hfront : front = []
    · subst hfront
      cases hwalk
      exact reaches_empty_iff.trans reaches_empty_iff.symm
    · have hlast : (front ++ [Path.separator]).getLast? = some Path.separator := by simp
      simp only [hlast, hempty, hfront, false_and, if_false, List.isEmpty_nil, if_true,
        beq_self_eq_true]
      rw [reaches_append_literals hwalk, reaches_empty_iff]
      exact reaches_nil_iff.trans (by simp)
  | cons c rest =>
    have hlast : (front ++ Path.separator :: c :: rest).getLast? = (c :: rest).getLast? := by
      rw [List.getLast?_append_of_ne_nil _ (List.cons_ne_nil _ _), List.getLast?_cons_cons]
    simp only [hlast, hempty, List.cons_ne_nil, and_false, if_false, List.isEmpty_cons]
    exact reaches_append_literals hwalk

end Pattern

end SuffixLint.Glob
