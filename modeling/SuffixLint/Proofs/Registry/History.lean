import Mathlib.Data.Finset.Card
import Mathlib.Data.List.Induction
import SuffixLint.Proofs.Rule.Findings

namespace SuffixLint

/-- A line that is checked as a rule, and the region it stands in. -/
structure Candidate where
  region : Region
  line : Line

namespace Candidate

def isSkipped (candidate : Candidate) : Bool := Rule.isSkipped candidate.line

def domain (candidate : Candidate) : Text := Rule.domain candidate.line.text

def registration (candidate : Candidate) : Registration :=
  { line := candidate.line.number
    standing := { kind := Rule.kind candidate.line.text, region := candidate.region } }

def isFor (domain : Text) (candidate : Candidate) : Bool :=
  !candidate.isSkipped && candidate.domain == domain

def verdict (candidate : Candidate) (registry : Registry) : Verdict :=
  Rule.check registry candidate.region candidate.line

theorem isSkipped_iff {candidate : Candidate} :
    candidate.isSkipped = true ↔
      candidate.line.isUtf8 = false ∨ "*.!".toList <+: candidate.line.text := by
  simp only [isSkipped, Rule.isSkipped, Rule.isWildcardException, Bool.or_eq_true,
    Bool.not_eq_true', List.isPrefixOf_iff_prefix]

theorem isFor_iff {candidate : Candidate} {domain : Text} :
    candidate.isFor domain = true ↔ candidate.isSkipped = false ∧ candidate.domain = domain := by
  simp only [isFor, Bool.and_eq_true, Bool.not_eq_true', beq_iff_eq]

theorem isFor_self {candidate : Candidate} (h : candidate.isSkipped = false) :
    candidate.isFor candidate.domain = true :=
  isFor_iff.2 ⟨h, rfl⟩

end Candidate

/-- The line `first`, which stands after the lines `older`, is the first of some lines that is
registered under a domain. -/
structure FirstFor (domain : Text) (candidates older : List Candidate) (first : Candidate) :
    Prop where
  splits : ∃ newer, candidates = older ++ first :: newer
  isFor : first.isFor domain = true
  none_older : ∀ earlier ∈ older, earlier.isFor domain = false

namespace Registry

def take (registry : Registry) (candidate : Candidate) : Registry :=
  (candidate.verdict registry).registry

def takeAll (registry : Registry) (candidates : List Candidate) : Registry :=
  candidates.foldl take registry

def verdicts (registry : Registry) : List Candidate → List Verdict
  | [] => []
  | candidate :: rest => candidate.verdict registry :: (registry.take candidate).verdicts rest

@[simp] theorem takeAll_nil (registry : Registry) : registry.takeAll [] = registry := rfl

theorem takeAll_cons (registry : Registry) (candidate : Candidate) (rest : List Candidate) :
    registry.takeAll (candidate :: rest) = (registry.take candidate).takeAll rest := rfl

theorem takeAll_append (registry : Registry) (a b : List Candidate) :
    registry.takeAll (a ++ b) = (registry.takeAll a).takeAll b :=
  List.foldl_append

theorem takeAll_append_singleton (registry : Registry) (candidates : List Candidate)
    (candidate : Candidate) :
    registry.takeAll (candidates ++ [candidate]) = (registry.takeAll candidates).take candidate :=
  takeAll_append _ _ _

theorem verdicts_append_singleton (registry : Registry) (candidates : List Candidate)
    (candidate : Candidate) :
    registry.verdicts (candidates ++ [candidate]) =
      registry.verdicts candidates ++ [candidate.verdict (registry.takeAll candidates)] := by
  induction candidates generalizing registry with
  | nil => rfl
  | cons head rest ih =>
    rw [List.cons_append, verdicts, ih (registry.take head), takeAll_cons, verdicts,
      List.cons_append]

theorem take_of_isSkipped {registry : Registry} {candidate : Candidate}
    (h : candidate.isSkipped = true) : registry.take candidate = registry :=
  Rule.check_registry_of_isSkipped h

theorem take_of_not_isSkipped {registry : Registry} {candidate : Candidate}
    (h : candidate.isSkipped = false) :
    registry.take candidate = registry.insert candidate.domain candidate.registration :=
  Rule.check_registry_of_not_isSkipped h

theorem get?_take (registry : Registry) (candidate : Candidate) (domain : Text) :
    (registry.take candidate).get? domain =
      (registry.get? domain).or
        (if candidate.isFor domain then some candidate.registration else none) := by
  cases hs : candidate.isSkipped with
  | true => simp [take_of_isSkipped hs, Candidate.isFor, hs]
  | false =>
    rw [take_of_not_isSkipped hs, get?_insert]
    by_cases hd : candidate.domain = domain
    · subst hd
      cases hg : registry.get? candidate.domain <;> simp [Candidate.isFor_self hs]
    · have hfor : candidate.isFor domain = false := by
        simp [Candidate.isFor, hd]
      simp [hd, hfor]

theorem get?_takeAll (registry : Registry) (candidates : List Candidate) (domain : Text) :
    (registry.takeAll candidates).get? domain =
      (registry.get? domain).or
        ((candidates.find? (·.isFor domain)).map (·.registration)) := by
  induction candidates generalizing registry with
  | nil => simp
  | cons candidate rest ih =>
    rw [takeAll_cons, ih, get?_take, List.find?_cons, Option.or_assoc]
    cases candidate.isFor domain <;> simp

theorem get?_takeAll_empty (candidates : List Candidate) (domain : Text) :
    (empty.takeAll candidates).get? domain =
      (candidates.find? (·.isFor domain)).map (·.registration) := by
  rw [get?_takeAll, get?_empty, Option.none_or]

theorem isSome_get?_takeAll_empty {candidates : List Candidate} {domain : Text} :
    ((empty.takeAll candidates).get? domain).isSome = true ↔
      ∃ earlier ∈ candidates, earlier.isFor domain = true := by
  rw [get?_takeAll_empty, Option.isSome_map, List.find?_isSome]

def domains (candidates : List Candidate) : List Text :=
  (candidates.filter (!·.isSkipped)).map (·.domain)

theorem mem_domains {candidates : List Candidate} {domain : Text} :
    domain ∈ domains candidates ↔ ∃ earlier ∈ candidates, earlier.isFor domain = true := by
  simp only [domains, List.mem_map, List.mem_filter, Bool.not_eq_true', Candidate.isFor_iff,
    and_assoc]

theorem domains_append_singleton (candidates : List Candidate) (candidate : Candidate) :
    domains (candidates ++ [candidate]) =
      domains candidates ++ if candidate.isSkipped then [] else [candidate.domain] := by
  rw [domains, domains, List.filter_append, List.map_append]
  cases hs : candidate.isSkipped <;> simp [hs]

theorem size_takeAll_empty (candidates : List Candidate) :
    (empty.takeAll candidates).size = (domains candidates).toFinset.card := by
  induction candidates using List.reverseRecOn with
  | nil => exact size_empty
  | append_singleton candidates candidate ih =>
    rw [takeAll_append_singleton, domains_append_singleton]
    cases hs : candidate.isSkipped with
    | true => simpa [take_of_isSkipped hs] using ih
    | false =>
      rw [take_of_not_isSkipped hs, size_insert, ih]
      simp only [Bool.false_eq_true, ↓reduceIte, List.toFinset_append, List.toFinset_cons,
        List.toFinset_nil, insert_empty_eq, Finset.union_singleton]
      by_cases hm : candidate.domain ∈ domains candidates
      · rw [if_pos (isSome_get?_takeAll_empty.2 (mem_domains.1 hm)),
          Finset.insert_eq_of_mem (List.mem_toFinset.2 hm)]
      · rw [if_neg (fun h => hm (mem_domains.2 (isSome_get?_takeAll_empty.1 h))),
          Finset.card_insert_of_notMem (fun h => hm (List.mem_toFinset.1 h))]

end Registry

namespace Candidate

theorem countP_isDoublette_verdict (candidate : Candidate) (candidates : List Candidate) :
    (candidate.verdict (Registry.empty.takeAll candidates)).findings.countP (·.isDoublette) =
      if candidate.isSkipped = false ∧
          ∃ earlier ∈ candidates, earlier.isFor candidate.domain = true
      then 1 else 0 := by
  rw [List.countP_eq_length_filter, verdict, Rule.doublettes_check]
  cases hs : candidate.isSkipped with
  | true =>
    have hs' : Rule.isSkipped candidate.line = true := hs
    simp [hs']
  | false =>
    have hs' : Rule.isSkipped candidate.line = false := hs
    rw [hs', if_neg Bool.false_ne_true, Rule.length_doubletteFindings]
    simp only [Registry.isSome_get?_takeAll_empty, true_and]
    rfl

theorem doublette_mem_verdict {candidate : Candidate} {registry : Registry} {n : Nat}
    (h : .doublette n ∈ (candidate.verdict registry).findings) :
    candidate.isSkipped = false ∧ ∃ earlier, registry.get? candidate.domain = some earlier ∧
      n = earlier.line := by
  have hmem : Finding.doublette n ∈
      (candidate.verdict registry).findings.filter (·.isDoublette) :=
    List.mem_filter.2 ⟨h, rfl⟩
  rw [verdict, Rule.doublettes_check] at hmem
  split at hmem
  · cases hmem
  · obtain ⟨earlier, hget, he⟩ := Rule.mem_doubletteFindings.1 hmem
    injection he with he
    exact ⟨Bool.eq_false_iff.2 ‹_›, earlier, hget, he⟩

end Candidate

namespace Registry

theorem doublettes_add_size (candidates : List Candidate) :
    ((empty.verdicts candidates).flatMap (·.findings)).countP (·.isDoublette) +
        (empty.takeAll candidates).size =
      (candidates.filter (!·.isSkipped)).length := by
  induction candidates using List.reverseRecOn with
  | nil => exact congrArg (0 + ·) size_empty
  | append_singleton candidates candidate ih =>
    rw [verdicts_append_singleton, takeAll_append_singleton, List.flatMap_append,
      List.countP_append, List.filter_append, List.length_append, ← ih]
    simp only [List.flatMap_singleton, Candidate.countP_isDoublette_verdict]
    cases hs : candidate.isSkipped with
    | true => simp [take_of_isSkipped hs, hs]
    | false =>
      rw [take_of_not_isSkipped hs, size_insert]
      simp only [isSome_get?_takeAll_empty, true_and, hs, Bool.not_false,
        List.filter_singleton, cond_true, List.length_singleton]
      split <;> omega

theorem get?_takeAll_empty_eq_some_iff {candidates : List Candidate} {domain : Text}
    {registration : Registration} :
    (empty.takeAll candidates).get? domain = some registration ↔
      ∃ older first, FirstFor domain candidates older first ∧
        registration = first.registration := by
  rw [get?_takeAll_empty, Option.map_eq_some_iff]
  constructor
  · rintro ⟨first, hfind, rfl⟩
    obtain ⟨hfor, older, newer, he, holder⟩ := List.find?_eq_some_iff_append.1 hfind
    refine ⟨older, first, ⟨⟨newer, he⟩, hfor, ?_⟩, rfl⟩
    intro earlier hm
    simpa using holder earlier hm
  · rintro ⟨older, first, ⟨⟨newer, he⟩, hfor, holder⟩, rfl⟩
    refine ⟨first, List.find?_eq_some_iff_append.2 ⟨hfor, older, newer, he, ?_⟩, rfl⟩
    intro earlier hm
    simpa using holder earlier hm

theorem not_doublette_of_firstFor {domain : Text} {candidates older : List Candidate}
    {first : Candidate} (h : FirstFor domain candidates older first) (n : Nat) :
    .doublette n ∉ (first.verdict (empty.takeAll older)).findings := by
  intro hn
  obtain ⟨_, registration, hreg, _⟩ := Candidate.doublette_mem_verdict hn
  rw [(Candidate.isFor_iff.1 h.isFor).2] at hreg
  obtain ⟨earlier, hearlier, hfor⟩ := isSome_get?_takeAll_empty.1 (Option.isSome_of_eq_some hreg)
  exact Bool.false_ne_true ((h.none_older earlier hearlier).symm.trans hfor)

/-- The whole history of doublettes. The lines may stand in any regions; that their numbers increase
is needed only to say that a doublette names a line with a smaller number. -/
theorem history_of_increasing (candidates : List Candidate)
    (increasing : candidates.Pairwise fun a b => a.line.number < b.line.number) :
    ∀ before after, candidates = before ++ after →
      (∀ domain registration,
        (empty.takeAll before).get? domain = some registration ↔
          ∃ older first, FirstFor domain before older first ∧
            registration = first.registration) ∧
      (empty.takeAll before).size = (domains before).toFinset.card ∧
      ((empty.verdicts before).flatMap (·.findings)).countP (·.isDoublette) +
          (empty.takeAll before).size =
        (before.filter (!·.isSkipped)).length ∧
      ∀ candidate rest, after = candidate :: rest →
        (candidate.isSkipped = true ↔
          candidate.line.isUtf8 = false ∨ "*.!".toList <+: candidate.line.text) ∧
        ((candidate.verdict (empty.takeAll before)).standing = none ↔
          candidate.isSkipped = true) ∧
        (candidate.isSkipped = true →
          (empty.takeAll before).take candidate = empty.takeAll before) ∧
        (candidate.verdict (empty.takeAll before)).findings.countP (·.isDoublette) =
          (if candidate.isSkipped = false ∧
              ∃ earlier ∈ before, earlier.isFor candidate.domain = true
            then 1 else 0) ∧
        ∀ n, .doublette n ∈ (candidate.verdict (empty.takeAll before)).findings →
          ∃ older first, FirstFor candidate.domain before older first ∧
            n = first.line.number ∧ n < candidate.line.number ∧
            ∀ m, .doublette m ∉ (first.verdict (empty.takeAll older)).findings := by
  intro before after hsplit
  refine ⟨fun _ _ => get?_takeAll_empty_eq_some_iff, size_takeAll_empty before,
    doublettes_add_size before, ?_⟩
  intro candidate rest hafter
  refine ⟨Candidate.isSkipped_iff, Rule.check_standing_eq_none_iff, take_of_isSkipped,
    candidate.countP_isDoublette_verdict before, ?_⟩
  intro n hn
  obtain ⟨_, registration, hreg, rfl⟩ := Candidate.doublette_mem_verdict hn
  obtain ⟨older, first, hfirst, rfl⟩ := get?_takeAll_empty_eq_some_iff.1 hreg
  refine ⟨older, first, hfirst, rfl, ?_, not_doublette_of_firstFor hfirst⟩
  obtain ⟨newer, he⟩ := hfirst.splits
  subst hafter
  rw [hsplit, he] at increasing
  exact (List.pairwise_append.1 increasing).2.2 first
    (List.mem_append_right _ List.mem_cons_self) candidate List.mem_cons_self

/-- A plain rule of one section and a wildcard for the same domain in the other. -/
theorem history_of_plain_and_wildcard :
    let plain : Candidate :=
      { region := .inside .icannDomains, line := Line.ofBytes 4 [0x61, 0x2E, 0x62, 0x0A] }
    let wildcard : Candidate :=
      { region := .inside .privateDomains
        line := Line.ofBytes 9 [0x2A, 0x2E, 0x61, 0x2E, 0x62, 0x0A] }
    ([plain, wildcard].Pairwise fun a b => a.line.number < b.line.number) ∧
      (wildcard.verdict (empty.takeAll [plain])).findings.countP (·.isDoublette) = 1 := by
  intro plain wildcard
  have increasing : [plain, wildcard].Pairwise fun a b => a.line.number < b.line.number := by
    decide
  obtain ⟨_, _, _, hnext⟩ :=
    history_of_increasing [plain, wildcard] increasing [plain] [wildcard] rfl
  obtain ⟨_, _, _, hcount, _⟩ := hnext wildcard [] rfl
  exact ⟨increasing, hcount.trans (if_pos (by decide))⟩

end Registry
end SuffixLint
