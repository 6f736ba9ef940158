import Mathlib.Data.List.Find
import SuffixLint.Proofs.Linter.Run
import SuffixLint.Proofs.Rule.Grammar

namespace SuffixLint

theorem find?_key_eq_some_iff {α κ : Type} [BEq κ] [LawfulBEq κ] {key : α → κ} {items : List α}
    (distinct : (items.map key).Nodup) {k : κ} {item : α} :
    items.find? (key · == k) = some item ↔ item ∈ items ∧ key item = k := by
  have hfound {first : α} (h : items.find? (key · == k) = some first) :
      first ∈ items ∧ key first = k := by
    have hkey := List.find?_some h
    exact ⟨List.mem_of_find?_eq_some h, beq_iff_eq.1 hkey⟩
  refine ⟨hfound, ?_⟩
  rintro ⟨hm, hkey⟩
  have hsome : (items.find? (key · == k)).isSome = true :=
    List.find?_isSome.2 ⟨item, hm, beq_iff_eq.2 hkey⟩
  obtain ⟨first, hfirst⟩ := Option.isSome_iff_exists.1 hsome
  obtain ⟨hmem, hsame⟩ := hfound hfirst
  rw [hfirst, List.inj_on_of_nodup_map distinct hmem hm (hsame.trans hkey.symm)]

namespace Line

def domain (line : Line) : Text := Rule.domain line.text

def domains (lines : List Line) : List Text :=
  (lines.filter (·.isRule)).map fun line => Rule.domain line.text

theorem nodup_domains_iff {lines : List Line} :
    (domains lines).Nodup ↔
      EachAfter (fun before line => line.kind = .rule → ∀ earlier ∈ before,
        earlier.kind = .rule → earlier.domain ≠ line.domain) lines := by
  rw [domains, List.Nodup, List.pairwise_map, List.pairwise_filter, pairwise_iff_eachAfter]
  simp only [isRule_iff]
  constructor
  · intro h before line after he hk earlier hm hek
    exact h before line after he earlier hm hek hk
  · intro h before line after he earlier hm hek hk
    exact h before line after he hk earlier hm hek

theorem eq_of_domain_eq {lines : List Line} (distinct : (domains lines).Nodup) {a b : Line}
    (ha : a ∈ lines) (har : a.kind = .rule) (hb : b ∈ lines) (hbr : b.kind = .rule)
    (h : a.domain = b.domain) : a = b :=
  List.inj_on_of_nodup_map distinct (List.mem_filter.2 ⟨ha, isRule_iff.2 har⟩)
    (List.mem_filter.2 ⟨hb, isRule_iff.2 hbr⟩) h

theorem domains_of_rules {rules : List Line} (h : ∀ line ∈ rules, line.kind = .rule) :
    domains rules = rules.map domain := by
  have hall : rules.filter (·.isRule) = rules :=
    List.filter_eq_self.2 fun line hm => isRule_iff.2 (h line hm)
  rw [domains, hall]
  rfl

theorem comments_of_rules {rules : List Line} (h : ∀ line ∈ rules, line.kind = .rule) :
    comments rules = [] := by
  rw [comments, List.map_eq_nil_iff, List.filter_eq_nil_iff]
  intro line hm
  rw [h line hm]
  decide

theorem candidates_of_rules (history : SectionHistory) {rules : List Line}
    (h : ∀ line ∈ rules, line.kind = .rule) :
    candidates history rules = rules.map fun line => { region := history.current, line } := by
  induction rules with
  | nil => rfl
  | cons line rest ih =>
    obtain ⟨hline, hrest⟩ := List.forall_mem_cons.1 h
    have hcomments : comments [line] = [] := by
      rw [comments_singleton, hline]
      rfl
    rw [candidates, if_pos hline, hcomments, SectionHistory.takeAll_nil, ih hrest, List.map_cons]
    rfl

theorem text_eq_wildcard_iff {line : Line} {name : Text} :
    line.text = '*' :: '.' :: name ↔ Rule.kind line.text = .wildcard ∧ line.domain = name := by
  rw [← Rule.kindAndDomain_eq_wildcard_iff, Prod.ext_iff]
  rfl

end Line

theorem Registry.holdsWildcard_iff {registry : Registry} {domain : Text} :
    registry.holdsWildcard domain = true ↔
      ∃ registration, registry.get? domain = some registration ∧
        registration.standing.kind = .wildcard := by
  rw [holdsWildcard]
  cases registry.get? domain with
  | none => simp
  | some registration => simp [RuleStanding.isWildcard]

namespace Linter

variable {linter : Linter} {lines rules : List Line}

/-- What a linter needs to know to take a rule without a finding. -/
structure Accepts (linter : Linter) (line : Line) : Prop where
  inside : linter.sections.current ≠ .outside
  spelt : line.Spelt
  new : linter.registry.get? line.domain = none
  exceptions : ∀ x above, '.' ∉ x → line.text = '!' :: (x ++ '.' :: above) →
    linter.registry.holdsWildcard above = true

theorem ownFindings_eq_nil_iff {line : Line} :
    linter.ownFindings line = [] ↔
      (line.kind = .comment → linter.markerFindings line = []) ∧
        (line.kind = .rule → linter.Accepts line) := by
  rw [ownFindings]
  cases hk : line.kind with
  | blank => simp
  | comment => simp
  | rule =>
    simp only [reduceCtorEq, false_implies, true_and, true_implies]
    rw [ruleFindings_eq_nil_iff, Rule.check_findings_eq_nil_iff, Rule.parentFindings_eq_nil_iff]
    constructor
    · rintro ⟨hinside, hspelt, hexceptions, hnew⟩
      exact ⟨hinside, hspelt, hnew, hexceptions⟩
    · intro h
      exact ⟨h.inside, h.spelt, h.exceptions, h.new⟩

/-- What lines need, one after another, to be taken without a finding. -/
structure Welcomes (linter : Linter) (lines : List Line) : Prop where
  markers : EachAfter (fun before line => line.kind = .comment →
    (linter.run before).markerFindings line = []) lines
  inside : EachAfter (fun before line => line.kind = .rule →
    (linter.run before).sections.current ≠ .outside) lines
  spelling : ∀ line ∈ lines, line.kind = .rule → line.Spelt
  distinct : (Line.domains lines).Nodup
  new : ∀ line ∈ lines, line.kind = .rule → linter.registry.get? line.domain = none
  exceptions : EachAfter (fun before line => line.kind = .rule →
    ∀ x above, '.' ∉ x → line.text = '!' :: (x ++ '.' :: above) →
      linter.registry.holdsWildcard above = true ∨
        ∃ earlier ∈ before, earlier.kind = .rule ∧ earlier.text = '*' :: '.' :: above) lines

namespace Welcomes

theorem unskipped (welcome : linter.Welcomes lines) {line : Line} (hm : line ∈ lines)
    (hr : line.kind = .rule) : Rule.isSkipped line = false :=
  (welcome.spelling line hm hr).not_isSkipped

theorem get?_eq_none_iff (welcome : linter.Welcomes lines) (name : Text) :
    (linter.run lines).registry.get? name = none ↔
      linter.registry.get? name = none ∧
        ∀ earlier ∈ lines, earlier.kind = .rule → earlier.domain ≠ name := by
  rw [registry_run, Registry.get?_takeAll, Option.or_eq_none_iff, Option.map_eq_none_iff,
    List.find?_eq_none]
  refine and_congr_right' ⟨?_, ?_⟩
  · intro h earlier hm hr hd
    obtain ⟨candidate, hc, rfl⟩ := Line.exists_candidate_of_mem linter.sections hm hr
    exact h candidate hc (Candidate.isFor_iff.2 ⟨welcome.unskipped hm hr, hd⟩)
  · intro h candidate hc hfor
    obtain ⟨hm, hr⟩ := Line.mem_of_mem_candidates hc
    exact h candidate.line hm hr (Candidate.isFor_iff.1 hfor).2

theorem find?_isFor_iff (welcome : linter.Welcomes lines) {name : Text} {line : Line} :
    ((Line.candidates linter.sections lines).find? (·.isFor name)).map (·.line) = some line ↔
      line ∈ lines ∧ line.kind = .rule ∧ line.domain = name := by
  have hfound {first : Candidate}
      (h : (Line.candidates linter.sections lines).find? (·.isFor name) = some first) :
      first.line ∈ lines ∧ first.line.kind = .rule ∧ first.line.domain = name := by
    obtain ⟨hm, hr⟩ := Line.mem_of_mem_candidates (List.mem_of_find?_eq_some h)
    have hfor := List.find?_some h
    exact ⟨hm, hr, (Candidate.isFor_iff.1 hfor).2⟩
  constructor
  · intro h
    obtain ⟨first, hfind, rfl⟩ := Option.map_eq_some_iff.1 h
    exact hfound hfind
  · rintro ⟨hm, hr, hd⟩
    obtain ⟨candidate, hc, rfl⟩ := Line.exists_candidate_of_mem linter.sections hm hr
    have hsome : ((Line.candidates linter.sections lines).find? (·.isFor name)).isSome = true :=
      List.find?_isSome.2 ⟨candidate, hc, Candidate.isFor_iff.2 ⟨welcome.unskipped hm hr, hd⟩⟩
    obtain ⟨first, hfind⟩ := Option.isSome_iff_exists.1 hsome
    obtain ⟨hfm, hfr, hfd⟩ := hfound hfind
    have hline : first.line = candidate.line :=
      Line.eq_of_domain_eq welcome.distinct hfm hfr hm hr (hfd.trans hd.symm)
    rw [hfind, Option.map_some, hline]

theorem holdsWildcard_iff (welcome : linter.Welcomes lines) (name : Text) :
    (linter.run lines).registry.holdsWildcard name = true ↔
      linter.registry.holdsWildcard name = true ∨
        ∃ earlier ∈ lines, earlier.kind = .rule ∧ earlier.text = '*' :: '.' :: name := by
  rw [Registry.holdsWildcard_iff, Registry.holdsWildcard_iff, registry_run, Registry.get?_takeAll]
  cases hg : linter.registry.get? name with
  | some registration =>
    rw [Option.some_or]
    refine ⟨.inl, ?_⟩
    rintro (hwild | ⟨earlier, hm, hr, htext⟩)
    · exact hwild
    · -- A domain that was known already is that of no rule among the lines.
      obtain ⟨_, hname⟩ := Line.text_eq_wildcard_iff.1 htext
      have hnone := welcome.new earlier hm hr
      rw [hname, hg] at hnone
      cases hnone
  | none =>
    rw [Option.none_or]
    constructor
    · rintro ⟨_, hmap, hkind⟩
      obtain ⟨first, hfind, rfl⟩ := Option.map_eq_some_iff.1 hmap
      have hline := congrArg (Option.map Candidate.line) hfind
      obtain ⟨hm, hr, hname⟩ := welcome.find?_isFor_iff.1 hline
      exact .inr ⟨first.line, hm, hr, Line.text_eq_wildcard_iff.2 ⟨hkind, hname⟩⟩
    · rintro (⟨_, hwild, _⟩ | ⟨earlier, hm, hr, htext⟩)
      · cases hwild
      · obtain ⟨hkind, hname⟩ := Line.text_eq_wildcard_iff.1 htext
        obtain ⟨first, hfind, rfl⟩ :=
          Option.map_eq_some_iff.1 (welcome.find?_isFor_iff.2 ⟨hm, hr, hname⟩)
        exact ⟨first.registration, congrArg (Option.map Candidate.registration) hfind, hkind⟩

/-- A further rule is accepted if it is spelt well, new, and has the wildcard it asks for, be it
known already or among the lines. -/
theorem accepts_iff (welcome : linter.Welcomes lines) {line : Line} :
    (linter.run lines).Accepts line ↔
      (linter.run lines).sections.current ≠ .outside ∧ line.Spelt ∧
        (linter.registry.get? line.domain = none ∧
          ∀ earlier ∈ lines, earlier.kind = .rule → earlier.domain ≠ line.domain) ∧
        ∀ x above, '.' ∉ x → line.text = '!' :: (x ++ '.' :: above) →
          linter.registry.holdsWildcard above = true ∨
            ∃ earlier ∈ lines, earlier.kind = .rule ∧ earlier.text = '*' :: '.' :: above := by
  simp only [← welcome.get?_eq_none_iff, ← welcome.holdsWildcard_iff]
  constructor
  · intro h
    exact ⟨h.inside, h.spelt, h.new, h.exceptions⟩
  · rintro ⟨hinside, hspelt, hnew, hexceptions⟩
    exact ⟨hinside, hspelt, hnew, hexceptions⟩

theorem nil : linter.Welcomes [] where
  markers := .nil _
  inside := .nil _
  spelling := by
    intro line hm
    cases hm
  distinct := .nil
  new := by
    intro line hm
    cases hm
  exceptions := .nil _

theorem append_singleton_iff {line : Line} :
    linter.Welcomes (lines ++ [line]) ↔
      linter.Welcomes lines ∧ (line.kind = .comment → (linter.run lines).markerFindings line = []) ∧
        (line.kind = .rule → (linter.run lines).Accepts line) := by
  constructor
  · intro h
    obtain ⟨hmarkers, hmarker⟩ := eachAfter_append_singleton.1 h.markers
    obtain ⟨hinsides, hinside⟩ := eachAfter_append_singleton.1 h.inside
    obtain ⟨hspelling, hspelt⟩ := List.forall_mem_append.1 h.spelling
    obtain ⟨hdistincts, hdistinct⟩ :=
      eachAfter_append_singleton.1 (Line.nodup_domains_iff.1 h.distinct)
    obtain ⟨hnews, hnew⟩ := List.forall_mem_append.1 h.new
    obtain ⟨hexceptions, hexception⟩ := eachAfter_append_singleton.1 h.exceptions
    have welcome : linter.Welcomes lines :=
      ⟨hmarkers, hinsides, hspelling, Line.nodup_domains_iff.2 hdistincts, hnews, hexceptions⟩
    have hline : line ∈ [line] := List.mem_singleton_self line
    refine ⟨welcome, hmarker, fun hk => welcome.accepts_iff.2 ?_⟩
    exact ⟨hinside hk, hspelt line hline hk, ⟨hnew line hline hk, hdistinct hk⟩, hexception hk⟩
  · rintro ⟨welcome, hmarker, haccepts⟩
    have hrule (hk : line.kind = .rule) := welcome.accepts_iff.1 (haccepts hk)
    constructor
    · exact eachAfter_append_singleton.2 ⟨welcome.markers, hmarker⟩
    · exact eachAfter_append_singleton.2 ⟨welcome.inside, fun hk => (hrule hk).1⟩
    · refine List.forall_mem_append.2 ⟨welcome.spelling, List.forall_mem_singleton.2 ?_⟩
      exact fun hk => (hrule hk).2.1
    · refine Line.nodup_domains_iff.2 (eachAfter_append_singleton.2 ⟨?_, ?_⟩)
      · exact Line.nodup_domains_iff.1 welcome.distinct
      · exact fun hk => (hrule hk).2.2.1.2
    · refine List.forall_mem_append.2 ⟨welcome.new, List.forall_mem_singleton.2 ?_⟩
      exact fun hk => (hrule hk).2.2.1.1
    · exact eachAfter_append_singleton.2 ⟨welcome.exceptions, fun hk => (hrule hk).2.2.2⟩

end Welcomes

theorem clean_iff_welcomes : linter.Clean lines ↔ linter.Welcomes lines := by
  induction lines using List.reverseRecOn with
  | nil => exact iff_of_true (.nil _) .nil
  | append_singleton lines line ih =>
    rw [clean_append_singleton, ih, ownFindings_eq_nil_iff, Welcomes.append_singleton_iff]

theorem sections_run_rules (h : ∀ line ∈ rules, line.kind = .rule) :
    (linter.run rules).sections = linter.sections := by
  rw [sections_run, Line.comments_of_rules h, SectionHistory.takeAll_nil]

theorem Welcomes.inside_of_rules (welcome : linter.Welcomes rules)
    (h : ∀ line ∈ rules, line.kind = .rule) {line : Line} (hm : line ∈ rules) :
    linter.sections.current ≠ .outside := by
  obtain ⟨before, after, he⟩ := List.append_of_mem hm
  have hbefore : ∀ earlier ∈ before, earlier.kind = .rule :=
    fun earlier hearlier => h earlier (he ▸ List.mem_append_left _ hearlier)
  have hinside := welcome.inside before line after he (h line hm)
  rw [sections_run_rules hbefore] at hinside
  exact hinside

theorem Welcomes.nodup_domain (welcome : linter.Welcomes rules)
    (h : ∀ line ∈ rules, line.kind = .rule) : (rules.map Line.domain).Nodup := by
  rw [← Line.domains_of_rules h]
  exact welcome.distinct

theorem Welcomes.get?_run_rules (welcome : linter.Welcomes rules)
    (h : ∀ line ∈ rules, line.kind = .rule) (name : Text) :
    (linter.run rules).registry.get? name =
      (linter.registry.get? name).or ((rules.find? (·.domain == name)).map fun line =>
        Candidate.registration { region := linter.sections.current, line }) := by
  rw [registry_run, Line.candidates_of_rules _ h, Registry.get?_takeAll, List.find?_map,
    Option.map_map]
  congr 2
  refine List.find?_congr ?_
  intro line hm
  simp only [Function.comp, Candidate.isFor, Candidate.isSkipped,
    welcome.unskipped hm (h line hm), Bool.not_false, Bool.true_and]
  rfl

end Linter
end SuffixLint
