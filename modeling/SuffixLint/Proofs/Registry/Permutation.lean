import SuffixLint.Proofs.Registry.History

namespace SuffixLint

/-- Whether a finding is about a line in itself, whatever rules were read before. -/
def Finding.isLocal : Finding → Bool
  | .exceptionWithoutWildcard | .doublette _ => false
  | _ => true

def Verdict.localFindings (verdict : Verdict) : List Finding :=
  verdict.findings.filter (·.isLocal)

namespace Rule

def faults (line : Line) : List Finding :=
  if !line.isUtf8 then [.invalidEncoding]
  else textFindings line.text ++
    if isWildcardException line.text then [.wildcardAndException]
    else labelFindings (labels (domain line.text))

theorem isLocal_of_mem_faults {line : Line} {finding : Finding} (h : finding ∈ faults line) :
    finding.isLocal = true := by
  rw [faults] at h
  split at h
  · rw [List.mem_singleton.1 h]
    rfl
  · rcases List.mem_append.1 h with h | h
    · rcases eq_of_mem_textFindings h with rfl | rfl
      · rfl
      · rfl
    · split at h
      · rw [List.mem_singleton.1 h]
        rfl
      · have hlocal : ∀ fault ∈ [Finding.emptyLabel, .punycode, .doubleMinus, .illegalCharacter],
            fault.isLocal = true := by
          decide
        exact hlocal finding (mem_of_mem_labelFindings h)

theorem filter_isLocal_faults (line : Line) : (faults line).filter (·.isLocal) = faults line :=
  List.filter_eq_self.2 fun _ => isLocal_of_mem_faults

theorem filter_isLocal_parentFindings (registry : Registry) (kind : RuleKind)
    (labels : List Text) : (parentFindings registry kind labels).filter (·.isLocal) = [] := by
  rw [List.filter_eq_nil_iff]
  intro finding h
  rw [eq_of_mem_parentFindings h]
  exact Bool.false_ne_true

theorem filter_isLocal_doubletteFindings (registry : Registry) (domain : Text) :
    (doubletteFindings registry domain).filter (·.isLocal) = [] := by
  rw [List.filter_eq_nil_iff]
  intro finding h
  obtain ⟨earlier, _, rfl⟩ := mem_doubletteFindings.1 h
  exact Bool.false_ne_true

theorem filter_isLocal_priorFindings (registry : Registry) (line : Line) :
    (priorFindings registry line).filter (·.isLocal) = faults line := by
  rw [← filter_isLocal_faults, priorFindings, faults]
  split
  · rfl
  · rw [List.filter_append, List.filter_append]
    split
    · rfl
    · rw [List.filter_append, filter_isLocal_parentFindings, List.nil_append]

/-- Neither the rules before a line nor its region nor its number decide what it is reported for in
itself. -/
theorem localFindings_check (registry : Registry) (region : Region) (line : Line) :
    (check registry region line).localFindings = faults line := by
  have hlast : (if isSkipped line then [] else
      doubletteFindings registry (domain line.text)).filter (·.isLocal) = [] := by
    split
    · rfl
    · exact filter_isLocal_doubletteFindings _ _
  rw [Verdict.localFindings, check_findings_eq, List.filter_append, hlast, List.append_nil,
    filter_isLocal_priorFindings]

end Rule

namespace Candidate

variable {α : Type} (source : α → Line) (regions : Nat → Region)

/-- The lines that items are read as, numbered from one in the order given; the first argument of
`regions` is the place. -/
def placed (items : List α) : List Candidate :=
  items.mapIdx fun place item =>
    { region := regions place, line := { source item with number := place + 1 } }

theorem map_placed {β : Type} (property : Line → β)
    (unnumbered : ∀ line number, property { line with number } = property line) (items : List α) :
    (placed source regions items).map (fun candidate => property candidate.line) =
      items.map fun item => property (source item) := by
  apply List.ext_getElem
  · rw [List.length_map, List.length_map, placed, List.length_mapIdx]
  · intro place _ _
    simp only [placed, List.getElem_map, List.getElem_mapIdx, unnumbered]

end Candidate

namespace Registry

theorem map_localFindings_verdicts (registry : Registry) (candidates : List Candidate) :
    (registry.verdicts candidates).map (·.localFindings) =
      candidates.map fun candidate => Rule.faults candidate.line := by
  induction candidates generalizing registry with
  | nil => rfl
  | cons candidate rest ih =>
    rw [verdicts, List.map_cons, ih, List.map_cons, Candidate.verdict, Rule.localFindings_check]

def domainsOf (line : Line) : List Text :=
  if Rule.isSkipped line then [] else [Rule.domain line.text]

theorem domains_eq_flatMap (candidates : List Candidate) :
    domains candidates = candidates.flatMap fun candidate => domainsOf candidate.line := by
  induction candidates with
  | nil => rfl
  | cons candidate rest ih =>
    rw [List.flatMap_cons, ← ih, domains, domains, domainsOf, List.filter_cons,
      Candidate.isSkipped]
    cases Rule.isSkipped candidate.line <;> rfl

theorem isSome_get?_takeAll_empty_iff {candidates : List Candidate} {domain : Text} :
    ((empty.takeAll candidates).get? domain).isSome = true ↔ domain ∈ domains candidates := by
  rw [isSome_get?_takeAll_empty, mem_domains]

/-- Of the lines that are registered, all but one for each domain are doublettes. -/
theorem doublettes_add_card (candidates : List Candidate) :
    ((empty.verdicts candidates).flatMap (·.findings)).countP (·.isDoublette) +
        (domains candidates).toFinset.card =
      (domains candidates).length := by
  rw [← size_takeAll_empty, doublettes_add_size, domains, List.length_map]

section Placed

variable {α : Type} (source : α → Line) (regions : Nat → Region)

theorem localFindings_placed (items : List α) :
    (empty.verdicts (Candidate.placed source regions items)).map (·.localFindings) =
      items.map fun item => Rule.faults (source item) := by
  rw [map_localFindings_verdicts]
  exact Candidate.map_placed source regions Rule.faults (fun _ _ => rfl) items

theorem domains_placed (items : List α) :
    domains (Candidate.placed source regions items) =
      items.flatMap fun item => domainsOf (source item) := by
  rw [domains_eq_flatMap, List.flatMap_def, List.flatMap_def,
    Candidate.map_placed source regions domainsOf (fun _ _ => rfl)]

end Placed

variable {α : Type} (source : α → Line) {items items' : List α}

theorem perm_domains_placed (h : items.Perm items') (regions regions' : Nat → Region) :
    (domains (Candidate.placed source regions items)).Perm
      (domains (Candidate.placed source regions' items')) := by
  rw [domains_placed, domains_placed]
  exact h.flatMap_right _

theorem perm_zip_localFindings (h : items.Perm items') (regions regions' : Nat → Region) :
    (items.zip ((empty.verdicts (Candidate.placed source regions items)).map
        (·.localFindings))).Perm
      (items'.zip ((empty.verdicts (Candidate.placed source regions' items')).map
        (·.localFindings))) := by
  have hzip (list : List α) (f : α → List Finding) :
      list.zip (list.map f) = list.map fun item => (item, f item) := by
    simpa using List.zip_map' (f := id) (g := f) (l := list)
  rw [localFindings_placed, localFindings_placed, hzip, hzip]
  exact h.map _

/-- Items are read as lines, be they the bytes of lines or lines already, and checked as rules from
an empty registry on. Whatever the order of the items and the regions of the lines, each item is
reported for the same in itself as where it is checked alone, as many doublettes are reported, and
the same domains are registered. -/
theorem order_independent (h : items.Perm items') (regions regions' : Nat → Region) :
    let candidates := Candidate.placed source regions items
    let candidates' := Candidate.placed source regions' items'
    let verdicts := empty.verdicts candidates
    let verdicts' := empty.verdicts candidates'
    (items.zip (verdicts.map (·.localFindings))).Perm
        (items'.zip (verdicts'.map (·.localFindings))) ∧
      (verdicts.flatMap (·.findings)).countP (·.isDoublette) =
        (verdicts'.flatMap (·.findings)).countP (·.isDoublette) ∧
      (∀ domain, ((empty.takeAll candidates).get? domain).isSome =
        ((empty.takeAll candidates').get? domain).isSome) ∧
      ∀ region, verdicts.map (·.localFindings) =
        items.map fun item => (Rule.check .empty region (source item)).localFindings := by
  intro candidates candidates' verdicts verdicts'
  have hdomains : (domains candidates).Perm (domains candidates') :=
    perm_domains_placed source h regions regions'
  refine ⟨perm_zip_localFindings source h regions regions', ?doublettes, ?registered, ?alone⟩
  case doublettes =>
    have hcount := doublettes_add_card candidates
    have hcount' := doublettes_add_card candidates'
    rw [← List.toFinset_eq_of_perm _ _ hdomains, ← hdomains.length_eq, ← hcount] at hcount'
    exact (Nat.add_right_cancel hcount').symm
  case registered =>
    intro domain
    rw [Bool.eq_iff_iff, isSome_get?_takeAll_empty_iff, isSome_get?_takeAll_empty_iff]
    exact hdomains.mem_iff
  case alone =>
    intro region
    rw [localFindings_placed]
    exact List.map_congr_left fun item _ => (Rule.localFindings_check _ _ _).symm

/-- An exception, the wildcard that it asks for, and a plain rule in capitals for the same domain as
the wildcard, one way and the other. -/
theorem order_independent_reversed :
    let raws := ["!www.ck", "*.ck", "ck", "CK"].map fun raw => Utf8.encode raw.toList
    let candidates := Candidate.placed (Line.ofBytes 0) (fun _ => .outside) raws
    let candidates' := Candidate.placed (Line.ofBytes 0)
      (fun _ => .inside .privateDomains) raws.reverse
    raws.Perm raws.reverse ∧
      ((empty.verdicts candidates).flatMap (·.findings)).countP (·.isDoublette) =
        ((empty.verdicts candidates').flatMap (·.findings)).countP (·.isDoublette) ∧
      ((empty.takeAll candidates).get? "ck".toList).isSome =
        ((empty.takeAll candidates').get? "ck".toList).isSome := by
  intro raws candidates candidates'
  have hperm : raws.Perm raws.reverse := (List.reverse_perm raws).symm
  obtain ⟨_, hcount, hregistered, _⟩ :=
    order_independent (Line.ofBytes 0) hperm (fun _ => .outside) fun _ => .inside .privateDomains
  exact ⟨hperm, hcount, hregistered _⟩

end Registry
end SuffixLint
