import SuffixLint.Proofs.Line.Numbering
import SuffixLint.Proofs.Linter.Renumber
import SuffixLint.Proofs.Linter.Clean

namespace SuffixLint

structure Reordered (old new : List Line) : Prop where
  rules : ∀ line ∈ old, line.kind = .rule
  utf8 : ∀ line ∈ new, line.isUtf8 = true
  numbers : new.map (·.number) = old.map (·.number)
  increasing : Line.Increasing old
  texts : (new.map (·.text)).Perm (old.map (·.text))

namespace Reordered

variable {old new : List Line}

theorem exists_old (r : Reordered old new) {line : Line} (hm : line ∈ new) :
    ∃ origin ∈ old, origin.text = line.text :=
  List.mem_map.1 (r.texts.mem_iff.1 (List.mem_map_of_mem hm))

theorem exists_new (r : Reordered old new) {line : Line} (hm : line ∈ old) :
    ∃ moved ∈ new, moved.text = line.text :=
  List.mem_map.1 (r.texts.mem_iff.2 (List.mem_map_of_mem hm))

theorem kind_of_text_eq {a b : Line} (h : a.text = b.text) : a.kind = b.kind := by
  rw [Line.kind, Line.kind, h]

theorem rules_new (r : Reordered old new) : ∀ line ∈ new, line.kind = .rule := by
  intro line hm
  obtain ⟨origin, horigin, htext⟩ := r.exists_old hm
  rw [← kind_of_text_eq htext]
  exact r.rules origin horigin

theorem domains (r : Reordered old new) :
    (new.map Line.domain).Perm (old.map Line.domain) := by
  have h := r.texts.map Rule.domain
  rw [List.map_map, List.map_map] at h
  exact h

theorem exists_wildcard_before (r : Reordered old new)
    (ordered : new.Pairwise fun earlier later => ¬ Rule.AsksFor earlier.text later.text)
    {before after : List Line} {line wildcard : Line} (he : new = before ++ line :: after)
    (hm : wildcard ∈ old) (hasks : Rule.AsksFor line.text wildcard.text) :
    ∃ earlier ∈ before, earlier.kind = .rule ∧ earlier.text = wildcard.text := by
  obtain ⟨moved, hmoved, htext⟩ := r.exists_new hm
  refine ⟨moved, ?_, r.rules_new moved hmoved, htext⟩
  rw [he] at hmoved ordered
  rcases List.mem_append.1 hmoved with hbefore | hrest
  · exact hbefore
  · -- Otherwise the exception itself would be the wildcard, or come before it.
    exfalso
    rw [← htext] at hasks
    rcases List.mem_cons.1 hrest with rfl | hafter
    · exact Rule.not_asksFor_self _ hasks
    · exact List.rel_of_pairwise_cons (List.pairwise_append.1 ordered).2.1 hafter hasks

/-- Rules that are welcome are welcome in another order, unless an exception comes before the
wildcard it asks for. -/
theorem welcomes (r : Reordered old new) {linter : Linter} (welcome : linter.Welcomes old)
    (ordered : new.Pairwise fun earlier later => ¬ Rule.AsksFor earlier.text later.text) :
    linter.Welcomes new where
  markers := by
    intro before line after he hk
    have hr := r.rules_new line (he ▸ List.mem_append_right _ List.mem_cons_self)
    cases hk.symm.trans hr
  inside := by
    intro before line after he _
    have hbefore : ∀ earlier ∈ before, earlier.kind = .rule :=
      fun earlier hm => r.rules_new earlier (he ▸ List.mem_append_left _ hm)
    have hline : line ∈ new := he ▸ List.mem_append_right _ List.mem_cons_self
    obtain ⟨origin, horigin, _⟩ := r.exists_old hline
    rw [Linter.sections_run_rules hbefore]
    exact welcome.inside_of_rules r.rules horigin
  spelling := by
    intro line hm _
    obtain ⟨origin, horigin, htext⟩ := r.exists_old hm
    have hspelt := welcome.spelling origin horigin (r.rules origin horigin)
    exact ⟨r.utf8 line hm, htext ▸ hspelt.nfkc, htext ▸ hspelt.lowercase, htext ▸ hspelt.rule⟩
  distinct := by
    rw [Line.domains_of_rules r.rules_new]
    exact r.domains.nodup_iff.2 (welcome.nodup_domain r.rules)
  new := by
    intro line hm _
    obtain ⟨origin, horigin, htext⟩ := r.exists_old hm
    rw [Line.domain, ← htext]
    exact welcome.new origin horigin (r.rules origin horigin)
  exceptions := by
    intro before line after he _ x above hx htext
    have hline : line ∈ new := he ▸ List.mem_append_right _ List.mem_cons_self
    obtain ⟨origin, horigin, hsame⟩ := r.exists_old hline
    obtain ⟨front, back, hold⟩ := List.append_of_mem horigin
    rcases welcome.exceptions front origin back hold (r.rules origin horigin) x above hx
      (hsame.trans htext) with hwild | ⟨wildcard, hfront, _, hwild⟩
    · exact .inl hwild
    · have hm : wildcard ∈ old := hold ▸ List.mem_append_left _ hfront
      have hasks : Rule.AsksFor line.text wildcard.text := ⟨x, above, hx, htext, hwild⟩
      rw [← hwild]
      exact .inr (r.exists_wildcard_before ordered he hm hasks)

/-- Where a line of the old order has its rule in the new one; other lines stay. -/
def place (old new : List Line) (number : Nat) : Nat :=
  match old.find? (·.number == number) with
  | none => number
  | some line => ((new.find? (·.text == line.text)).map (·.number)).getD number

theorem place_of_not_mem {number : Nat} (h : number ∉ old.map (·.number)) :
    place old new number = number := by
  have hnone : old.find? (·.number == number) = none := by
    rw [List.find?_eq_none]
    intro line hm hnumber
    exact h (List.mem_map.2 ⟨line, hm, beq_iff_eq.1 hnumber⟩)
  rw [place, hnone]

theorem place_of_text_eq (r : Reordered old new) (distinct : (new.map (·.text)).Nodup)
    {line moved : Line} (hm : line ∈ old) (hmoved : moved ∈ new) (htext : moved.text = line.text) :
    place old new line.number = moved.number := by
  have hold : old.find? (·.number == line.number) = some line :=
    (find?_key_eq_some_iff r.increasing.nodup_numbers).2 ⟨hm, rfl⟩
  have hnew : new.find? (·.text == line.text) = some moved :=
    (find?_key_eq_some_iff distinct).2 ⟨hmoved, htext⟩
  rw [place, hold]
  simp only [hnew, Option.map_some, Option.getD_some]

theorem place_mem (r : Reordered old new) (distinct : (new.map (·.text)).Nodup) {number : Nat}
    (h : number ∈ old.map (·.number)) : place old new number ∈ old.map (·.number) := by
  obtain ⟨line, hm, rfl⟩ := List.mem_map.1 h
  obtain ⟨moved, hmoved, htext⟩ := r.exists_new hm
  rw [r.place_of_text_eq distinct hm hmoved htext, ← r.numbers]
  exact List.mem_map_of_mem hmoved

theorem nodup_texts (r : Reordered old new) {linter : Linter} (welcome : linter.Welcomes new) :
    (new.map (·.text)).Nodup := by
  have h := welcome.nodup_domain r.rules_new
  have hdomain : new.map Line.domain = (new.map (·.text)).map Rule.domain := by
    rw [List.map_map]
    rfl
  rw [hdomain] at h
  exact h.of_map

theorem registry (r : Reordered old new) {linter : Linter} (welcome : linter.Welcomes old)
    (welcome' : linter.Welcomes new)
    (apart : Registry.Renumbered (place old new) linter.registry linter.registry) :
    Registry.Renumbered (place old new) (linter.run old).registry (linter.run new).registry := by
  intro name
  rw [welcome.get?_run_rules r.rules, welcome'.get?_run_rules r.rules_new]
  cases hg : linter.registry.get? name with
  | some registration =>
    have hkept := apart name
    rw [hg] at hkept
    exact hkept
  | none =>
    rw [Option.none_or, Option.none_or]
    cases hold : old.find? (·.domain == name) with
    | none =>
      have hnew : new.find? (·.domain == name) = none := by
        rw [List.find?_eq_none]
        intro moved hmoved hname
        obtain ⟨line, hm, htext⟩ := r.exists_old hmoved
        refine List.find?_eq_none.1 hold line hm ?_
        rw [Line.domain, htext]
        exact hname
      rw [hnew]
      rfl
    | some line =>
      obtain ⟨hm, hname⟩ := (find?_key_eq_some_iff (welcome.nodup_domain r.rules)).1 hold
      obtain ⟨moved, hmoved, htext⟩ := r.exists_new hm
      have hdomain : moved.domain = name := by
        rw [Line.domain, htext]
        exact hname
      have hnew : new.find? (·.domain == name) = some moved :=
        (find?_key_eq_some_iff (welcome'.nodup_domain r.rules_new)).2 ⟨hmoved, hdomain⟩
      have hplace := r.place_of_text_eq (r.nodup_texts welcome') hm hmoved htext
      rw [hnew]
      simp only [Option.map_some, Candidate.registration, Registration.renumber, hplace, htext]

theorem alike (r : Reordered old new) {linter : Linter}
    (welcome : linter.Welcomes old) (welcome' : linter.Welcomes new)
    (apart : Registry.Renumbered (place old new) linter.registry linter.registry) :
    Linter.Alike (place old new) (linter.run old) (linter.run new) where
  checks := by rw [Linter.checks_run, Linter.checks_run]
  sections := by rw [Linter.sections_run_rules r.rules, Linter.sections_run_rules r.rules_new]
  registry := r.registry welcome welcome' apart
  lines := by rw [Linter.lines_run, Linter.lines_run, r.numbers]

end Reordered
end SuffixLint
