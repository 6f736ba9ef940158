import SuffixLint.Proofs.Linter.Doublettes

namespace SuffixLint

namespace Rule

theorem missingWildcard_not_mem_textFindings (text : Text) :
    .exceptionWithoutWildcard ∉ textFindings text := by
  intro h
  rcases eq_of_mem_textFindings h with he | he
  · cases he
  · cases he

theorem missingWildcard_not_mem_labelFindings (labels : List Text) :
    .exceptionWithoutWildcard ∉ labelFindings labels := by
  intro h
  have hfault := mem_of_mem_labelFindings h
  revert hfault
  decide

theorem missingWildcard_not_mem_doubletteFindings (registry : Registry) (domain : Text) :
    .exceptionWithoutWildcard ∉ doubletteFindings registry domain := by
  intro h
  obtain ⟨earlier, _, he⟩ := mem_doubletteFindings.1 h
  cases he

theorem count_missingWildcard_check (registry : Registry) (region : Region) (line : Line) :
    (check registry region line).findings.count .exceptionWithoutWildcard =
      if isSkipped line then 0
      else (parentFindings registry (kind line.text) (labels (domain line.text))).count
        .exceptionWithoutWildcard := by
  have htext := List.count_eq_zero.2 (missingWildcard_not_mem_textFindings line.text)
  have hlabels :=
    List.count_eq_zero.2 (missingWildcard_not_mem_labelFindings (labels (domain line.text)))
  have hdoublette :=
    List.count_eq_zero.2 (missingWildcard_not_mem_doubletteFindings registry (domain line.text))
  rw [isSkipped]
  cases hu : line.isUtf8 with
  | false => simp [check, hu]
  | true =>
    cases hw : isWildcardException line.text with
    | true => simp [check, hu, hw, htext]
    | false => simp [check, hu, hw, htext, hlabels, hdoublette]

end Rule

/-- A rule that is not given up and is an exception for one label below a domain. Neither the label
nor those of the domain need to be spelt well. -/
structure Line.IsExceptionBelow (above : Text) (line : Line) : Prop where
  rule : line.kind = .rule
  kept : Rule.isSkipped line = false
  text : ∃ x, '.' ∉ x ∧ line.text = '!' :: (x ++ '.' :: above)

namespace Linter

variable {linter : Linter} {line : Line}

theorem count_missingWildcard_ownFindings :
    (linter.ownFindings line).count .exceptionWithoutWildcard =
      if line.kind = .rule then
        (Rule.check linter.registry linter.sections.current line).findings.count
          .exceptionWithoutWildcard
      else 0 := by
  rw [ownFindings]
  cases hk : line.kind with
  | blank => rfl
  | comment =>
    rw [if_neg (by decide)]
    apply List.count_eq_zero.2
    intro h
    cases stage_markerFindings h
  | rule =>
    have houtside : (if linter.sections.current = .outside then
        [Finding.ruleOutsideSection] else []).count .exceptionWithoutWildcard = 0 := by
      split <;> rfl
    rw [if_pos rfl, ruleFindings, List.count_append, houtside, Nat.zero_add]

theorem count_missingWildcard_of_exception {above : Text} (h : line.IsExceptionBelow above) :
    (linter.ownFindings line).count .exceptionWithoutWildcard =
      if linter.registry.holdsWildcard above then 0 else 1 := by
  obtain ⟨x, hx, htext⟩ := h.text
  rw [count_missingWildcard_ownFindings, if_pos h.rule, Rule.count_missingWildcard_check, h.kept,
    if_neg Bool.false_ne_true, Rule.parentFindings_exception htext hx]
  split <;> rfl

theorem count_missingWildcard_of_other (h : ∀ above, ¬ line.IsExceptionBelow above) :
    (linter.ownFindings line).count .exceptionWithoutWildcard = 0 := by
  rw [count_missingWildcard_ownFindings]
  split
  · next hrule =>
    rw [Rule.count_missingWildcard_check]
    split
    · rfl
    · next hkept =>
      rw [Rule.parentFindings_eq_nil]
      · rfl
      · intro x above hx htext
        exact h above ⟨hrule, Bool.eq_false_iff.2 hkept, x, hx, htext⟩
  · rfl

theorem holdsWildcard_run_iff (checks : Checks) (lines : List Line) (above : Text) :
    ((start checks).run lines).registry.holdsWildcard above = true ↔
      (Line.firstFor? above lines).map (·.text) = some ('*' :: '.' :: above) := by
  rw [Registry.holdsWildcard_eq, origin?_run]
  cases hfirst : Line.firstFor? above lines with
  | none => simp
  | some first =>
    obtain ⟨_, _, hdomain⟩ := Line.isFor_iff.1 (List.find?_some hfirst)
    simp only [Option.map_some, Option.any_some, decide_eq_true_eq, Line.origin,
      Option.some.injEq, Line.text_eq_wildcard_iff, hdomain, and_true]

end Linter

namespace LintReport

/-- How often a line is reported as an exception without its wildcard. -/
def missingWildcards (report : LintReport) (line : Line) : Nat :=
  ((report.issuesOn line.number).map (·.finding)).count .exceptionWithoutWildcard

theorem missingWildcards_eq {lines before after : List Line} {line : Line} (file : Text)
    (checks : Checks) (increasing : Line.Increasing lines) (he : lines = before ++ line :: after) :
    (ofLines lines file checks).missingWildcards line =
      (((Linter.start checks).run before).ownFindings line).count .exceptionWithoutWildcard := by
  have hown : (((ofLines lines file checks).issues.filter line.owns).map (·.finding)) =
      ((Linter.start checks).run before).ownFindings line := by
    rw [filter_owns_issues file checks increasing he, List.map_map]
    exact List.map_id _
  rw [← hown, missingWildcards, issuesOn, List.count_eq_countP, List.count_eq_countP,
    List.countP_map, List.countP_map, List.countP_filter, List.countP_filter]
  apply List.countP_congr
  intro issue _
  simp only [Function.comp, Bool.and_eq_true, beq_iff_eq, Line.owns_iff]
  constructor
  · rintro ⟨hfinding, hline⟩
    exact ⟨hfinding, hline, by rw [hfinding]; rfl⟩
  · rintro ⟨hfinding, hline, _⟩
    exact ⟨hfinding, hline⟩

/-- An exception below a domain is reported once unless the first line registered for that domain is
the wildcard for it, and no other line is reported so. -/
theorem missingWildcards_exact (data : Bytes) (file : Text) (checks : Checks)
    {before after : List Line} {line : Line} (he : Line.ofData data = before ++ line :: after) :
    let report := ofBytes data file checks
    (∀ above, line.IsExceptionBelow above →
      (report.missingWildcards line =
        if (Line.firstFor? above before).map (·.text) = some ('*' :: '.' :: above) then 0 else 1) ∧
      (report.missingWildcards line = 0 →
        ∃ earlier ∈ before, earlier.text = '*' :: '.' :: above ∧
          ¬ earlier.IsDoublette report.issues)) ∧
    ((∀ above, ¬ line.IsExceptionBelow above) → report.missingWildcards line = 0) := by
  have increasing := Line.increasing_ofData data
  have hreport := missingWildcards_eq file checks increasing he
  refine ⟨?_, fun hother => hreport.trans (Linter.count_missingWildcard_of_other hother)⟩
  intro above hbelow
  have hcount : (ofBytes data file checks).missingWildcards line =
      if (Line.firstFor? above before).map (·.text) = some ('*' :: '.' :: above) then 0 else 1 := by
    rw [ofBytes, hreport, Linter.count_missingWildcard_of_exception hbelow]
    simp only [Linter.holdsWildcard_run_iff]
  refine ⟨hcount, ?_⟩
  intro hzero
  have hwildcard : (Line.firstFor? above before).map (·.text) = some ('*' :: '.' :: above) := by
    by_contra hnot
    rw [hcount, if_neg hnot] at hzero
    cases hzero
  obtain ⟨earlier, hfirst, htext⟩ := Option.map_eq_some_iff.1 hwildcard
  obtain ⟨older, newer, hbefore, hfor, holder⟩ := Line.exists_split_of_firstFor? hfirst
  refine ⟨earlier, List.mem_of_find?_eq_some hfirst, htext, ?_⟩
  have hsplit : Line.ofData data = older ++ earlier :: (newer ++ line :: after) := by
    rw [he, hbefore, List.append_assoc, List.cons_append]
  rw [ofBytes, Line.isDoublette_iff file checks increasing hsplit, (Line.isFor_iff.1 hfor).2.2,
    holder]
  exact fun h => Bool.false_ne_true h.2.2

/-- A plain rule comes before the wildcard for its domain, so the exception after both lacks its
wildcard. -/
theorem missingWildcards_after_plain :
    let data := Utf8.encode "b.c\n*.b.c\n!a.b.c".toList
    let exception := Line.ofBytes 3 (Utf8.encode "!a.b.c".toList)
    ∃ before, Line.ofData data = before ++ [exception] ∧
      exception.IsExceptionBelow "b.c".toList ∧
      (∃ wildcard ∈ before, wildcard.text = "*.b.c".toList) ∧
      (ofBytes data [] {}).missingWildcards exception = 1 := by
  intro data exception
  have he : Line.ofData data = (Line.ofData data).take 2 ++ [exception] := by decide
  have hbelow : exception.IsExceptionBelow "b.c".toList :=
    ⟨by decide, by decide, "a".toList, by decide, by decide⟩
  have hfirst : (Line.firstFor? "b.c".toList ((Line.ofData data).take 2)).map (·.text) ≠
      some "*.b.c".toList := by decide
  obtain ⟨hcount, _⟩ := (missingWildcards_exact data [] {} he).1 _ hbelow
  exact ⟨_, he, hbelow, by decide, hcount.trans (if_neg hfirst)⟩

end LintReport
end SuffixLint
