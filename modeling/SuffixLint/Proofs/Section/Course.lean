import SuffixLint.Proofs.Section.Pairs

namespace SuffixLint

/-- What is reported of the region that a registry ends in. -/
def Region.unclosed : Region → List Finding
  | .outside => []
  | .inside s => [.sectionNotClosed (.inside s)]

namespace Section

/-- What is reported of a section that was opened so many times. -/
def tallied (s : Section) (n : Nat) : List Finding :=
  if n = 0 then [.missingSection (.inside s)]
  else if n = 1 then []
  else [.repeatedSection (.inside s) n]

/-- The last opening among some comments is that of the section, and no closing of it follows. -/
def IsOpenAfter (s : Section) (comments : List Text) : Prop :=
  ∃ front back, comments = front ++ s.opening :: back ∧
    (∀ t : Section, t.opening ∉ back) ∧ s.closing ∉ back

theorem named_or_unnamed (text : Text) :
    (∃ s : Section, text = s.opening) ∨ (∃ s : Section, text = s.closing) ∨
      ∀ s : Section, text ≠ s.opening ∧ text ≠ s.closing := by
  by_cases hopens : ∃ s : Section, text = s.opening
  · exact .inl hopens
  · by_cases hcloses : ∃ s : Section, text = s.closing
    · exact .inr (.inl hcloses)
    · exact .inr (.inr fun s => ⟨fun h => hopens ⟨s, h⟩, fun h => hcloses ⟨s, h⟩⟩)

variable {s : Section} {comments : List Text} {text : Text}

theorem not_isOpenAfter_nil : ¬ s.IsOpenAfter [] := by
  intro h
  obtain ⟨front, back, he, _⟩ := h
  exact absurd he.symm (List.append_ne_nil_of_right_ne_nil _ (List.cons_ne_nil _ _))

theorem isOpenAfter_append_opening : s.IsOpenAfter (comments ++ [s.opening]) :=
  ⟨comments, [], rfl, fun _ => List.not_mem_nil, List.not_mem_nil⟩

theorem IsOpenAfter.append_singleton (h : s.IsOpenAfter comments)
    (hopens : ∀ t : Section, text ≠ t.opening) (hcloses : text ≠ s.closing) :
    s.IsOpenAfter (comments ++ [text]) := by
  obtain ⟨front, back, rfl, hback, hclosing⟩ := h
  refine ⟨front, back ++ [text], by rw [List.append_assoc, List.cons_append], ?_, ?_⟩
  · intro t hm
    rcases List.mem_append.1 hm with hm | hm
    · exact hback t hm
    · exact hopens t (List.mem_singleton.1 hm).symm
  · intro hm
    rcases List.mem_append.1 hm with hm | hm
    · exact hclosing hm
    · exact hcloses (List.mem_singleton.1 hm).symm

theorem isOpenAfter_append_singleton :
    s.IsOpenAfter (comments ++ [text]) ↔
      text = s.opening ∨
        s.IsOpenAfter comments ∧ (∀ t : Section, text ≠ t.opening) ∧ text ≠ s.closing := by
  constructor
  · intro h
    obtain ⟨front, back, he, hback, hclosing⟩ := h
    rcases List.eq_nil_or_concat back with rfl | ⟨rest, last, rfl⟩
    · exact .inl (List.singleton_inj.1 (List.append_inj' he rfl).2)
    · rw [List.concat_eq_append] at he hback hclosing
      have he' : comments ++ [text] = (front ++ s.opening :: rest) ++ [last] := by
        rw [he, List.append_assoc, List.cons_append]
      obtain ⟨hcomments, hlast⟩ := List.append_inj' he' rfl
      obtain rfl := List.singleton_inj.1 hlast
      have hrest : s.IsOpenAfter comments :=
        ⟨front, rest, hcomments, fun t hm => hback t (List.mem_append_left _ hm),
          fun hm => hclosing (List.mem_append_left _ hm)⟩
      have hmem : text ∈ rest ++ [text] := List.mem_append_right _ (List.mem_singleton_self text)
      refine .inr ⟨hrest, ?_, ?_⟩
      · intro t ht
        exact hback t (ht ▸ hmem)
      · intro ht
        exact hclosing (ht ▸ hmem)
  · intro h
    rcases h with rfl | ⟨h, hopens, hcloses⟩
    · exact isOpenAfter_append_opening
    · exact h.append_singleton hopens hcloses

end Section

/-- A comment looks like a marker where it is one of the four that name a section, or where a sign
follows its third character and that is in ASCII. -/
theorem Marker.isMarkerLike_iff {comment : Text} :
    isMarkerLike comment = true ↔
      (∃ s : Section, comment = s.opening ∨ comment = s.closing) ∨
        ∃ a b c rest, comment = a :: b :: c :: rest ∧ c.toNat < 0x80 ∧
          (beginSign <+: rest ∨ endSign <+: rest) := by
  have hsign : hasSign comment = true ↔
      ∃ a b c rest, comment = a :: b :: c :: rest ∧ c.toNat < 0x80 ∧
        (beginSign <+: rest ∨ endSign <+: rest) := by
    constructor
    · intro h
      unfold hasSign at h
      split at h
      · next a b c rest =>
        rw [Bool.and_eq_true, decide_eq_true_eq, Bool.or_eq_true, List.isPrefixOf_iff_prefix,
          List.isPrefixOf_iff_prefix] at h
        exact ⟨a, b, c, rest, rfl, h⟩
      · cases h
    · intro h
      obtain ⟨a, b, c, rest, rfl, h⟩ := h
      rw [hasSign, Bool.and_eq_true, decide_eq_true_eq, Bool.or_eq_true,
        List.isPrefixOf_iff_prefix, List.isPrefixOf_iff_prefix]
      exact h
  have hnamed : Section.all.any (fun s => comment == s.opening || comment == s.closing) = true ↔
      ∃ s : Section, comment = s.opening ∨ comment = s.closing := by
    rw [List.any_eq_true]
    simp only [Section.mem_all, true_and, Bool.or_eq_true, beq_iff_eq]
  rw [isMarkerLike, Bool.or_eq_true, hnamed, hsign]

namespace SectionHistory

variable {history : SectionHistory} {text : Text}

theorem takeMarker_begins (s : Section) :
    (history.takeMarker (.begins s)).1 = history.begin s := by
  cases h : history.current <;> simp [takeMarker, h]

theorem current_takeMarker_ends (s : Section) :
    (history.takeMarker (.ends s)).1.current =
      if history.current = .inside s then .outside else history.current := by
  cases h : history.current with
  | outside => simp [takeMarker, h]
  | inside opened =>
    by_cases hs : opened = s <;> simp [takeMarker, h, hs]

theorem count_takeMarker_ends (s t : Section) :
    (history.takeMarker (.ends s)).1.count t = history.count t := by
  cases h : history.current with
  | outside => simp [takeMarker, h]
  | inside opened =>
    by_cases hs : opened = s
    · cases t <;> simp [takeMarker, h, hs, count]
    · simp [takeMarker, h, hs]

theorem takeMarker_unknown {marker : Marker} (h : marker = .beginsUnknown ∨ marker = .endsUnknown) :
    (history.takeMarker marker).1 = history := by
  rcases h with rfl | rfl <;> cases h : history.current <;> simp [takeMarker, h]

theorem takeComment_opening (s : Section) :
    (history.takeComment s.opening).1 = history.begin s := by
  rw [takeComment_of_some (Marker.ofComment?_opening s), takeMarker_begins]

theorem takeComment_of_unnamed (h : ∀ s : Section, text ≠ s.opening ∧ text ≠ s.closing) :
    (history.takeComment text).1 = history := by
  cases hmarker : Marker.ofComment? text with
  | none => rw [takeComment_of_none hmarker]
  | some marker =>
    rw [takeComment_of_some hmarker]
    cases marker with
    | begins s => exact absurd (Marker.eq_opening_of_begins hmarker) (h s).1
    | ends s => exact absurd (Marker.eq_closing_of_ends hmarker) (h s).2
    | beginsUnknown => exact takeMarker_unknown (.inl rfl)
    | endsUnknown => exact takeMarker_unknown (.inr rfl)

theorem count_takeComment (s : Section) :
    (history.takeComment text).1.count s =
      history.count s + if text = s.opening then 1 else 0 := by
  rcases Section.named_or_unnamed text with ⟨t, rfl⟩ | ⟨t, rfl⟩ | hunnamed
  · rw [takeComment_opening]
    by_cases hts : t = s
    · rw [hts, begin_count_self, if_pos rfl]
    · rw [begin_count_of_ne _ hts, if_neg (fun h => hts (Section.opening_injective h)),
        Nat.add_zero]
  · rw [takeComment_of_some (Marker.ofComment?_closing t), count_takeMarker_ends,
      if_neg (Section.opening_ne_closing s t).symm, Nat.add_zero]
  · rw [takeComment_of_unnamed hunnamed, if_neg (hunnamed s).1, Nat.add_zero]

theorem current_takeComment_closing (s t : Section) :
    (history.takeComment t.closing).1.current = .inside s ↔
      history.current = .inside s ∧ t ≠ s := by
  rw [takeComment_of_some (Marker.ofComment?_closing t), current_takeMarker_ends]
  split
  · next ht =>
    rw [ht]
    apply iff_of_false Region.noConfusion
    intro h
    exact h.2 (Region.inside.inj h.1)
  · next ht =>
    refine (and_iff_left_of_imp ?_).symm
    intro h hts
    exact ht (hts ▸ h)

theorem current_takeComment_eq_inside_iff (s : Section) :
    (history.takeComment text).1.current = .inside s ↔
      text = s.opening ∨
        history.current = .inside s ∧ (∀ t : Section, text ≠ t.opening) ∧ text ≠ s.closing := by
  rcases Section.named_or_unnamed text with ⟨t, rfl⟩ | ⟨t, rfl⟩ | hunnamed
  · rw [takeComment_opening, begin_current]
    constructor
    · intro h
      injection h with h
      exact .inl (congrArg Section.opening h)
    · intro h
      rcases h with h | ⟨_, hopens, _⟩
      · exact congrArg Region.inside (Section.opening_injective h)
      · exact absurd rfl (hopens t)
  · have hopens (u : Section) : t.closing ≠ u.opening := (Section.opening_ne_closing u t).symm
    have hcloses : t.closing ≠ s.closing ↔ t ≠ s :=
      not_congr ⟨fun h => Section.closing_injective h, congrArg Section.closing⟩
    rw [current_takeComment_closing, or_iff_right (hopens s), and_iff_right hopens, hcloses]
  · rw [takeComment_of_unnamed hunnamed, or_iff_right (hunnamed s).1,
      and_iff_left ⟨fun t => (hunnamed t).1, (hunnamed s).2⟩]

/-- A marker either gives rise to a finding or changes what is known. -/
theorem takeMarker_ne_self (marker : Marker) : history.takeMarker marker ≠ (history, none) := by
  intro h
  have hstate := congrArg Prod.fst h
  have hfinding := congrArg Prod.snd h
  cases marker with
  | begins s =>
    have hcount := congrArg (count · s) hstate
    simp only [takeMarker_begins, begin_count_self] at hcount
    exact Nat.succ_ne_self _ hcount
  | ends s =>
    cases hc : history.current with
    | outside => simp [takeMarker, hc] at hfinding
    | inside opened =>
      by_cases hs : opened = s
      · have hcurrent := congrArg current hstate
        simp only [current_takeMarker_ends, hc, hs, if_true] at hcurrent
        cases hcurrent
      · simp [takeMarker, hc, hs] at hfinding
  | beginsUnknown => exact takeMarker_unknown_ne_none (.inl rfl) hfinding
  | endsUnknown => exact takeMarker_unknown_ne_none (.inr rfl) hfinding

theorem takeComment_eq_self_iff (marked : Line.commentMark <+: text) :
    history.takeComment text = (history, none) ↔ Marker.isMarkerLike text = false := by
  rw [← Marker.isSome_ofComment? marked]
  cases hm : Marker.ofComment? text with
  | none => exact iff_of_true (takeComment_of_none hm) rfl
  | some marker =>
    rw [takeComment_of_some hm]
    exact iff_of_false (takeMarker_ne_self marker) Bool.noConfusion

theorem count_takeAll (comments : List Text) (s : Section) :
    (takeAll {} comments).count s = comments.count s.opening := by
  induction comments using List.reverseRecOn with
  | nil => cases s <;> rfl
  | append_singleton comments comment ih =>
    have hlast : takeAll {} (comments ++ [comment]) =
        ((takeAll {} comments).takeComment comment).1 := takeAll_append _ _ _
    rw [hlast, count_takeComment, ih, List.count_append, List.count_singleton]
    simp only [beq_iff_eq]

theorem current_takeAll_eq_inside_iff (comments : List Text) (s : Section) :
    (takeAll {} comments).current = .inside s ↔ s.IsOpenAfter comments := by
  induction comments using List.reverseRecOn with
  | nil => exact iff_of_false Region.noConfusion Section.not_isOpenAfter_nil
  | append_singleton comments comment ih =>
    have hlast : takeAll {} (comments ++ [comment]) =
        ((takeAll {} comments).takeComment comment).1 := takeAll_append _ _ _
    rw [hlast, current_takeComment_eq_inside_iff, ih, Section.isOpenAfter_append_singleton]

theorem current_takeAll_eq_outside_iff (comments : List Text) :
    (takeAll {} comments).current = .outside ↔ ∀ s : Section, ¬ s.IsOpenAfter comments := by
  simp only [← current_takeAll_eq_inside_iff]
  cases (takeAll {} comments).current with
  | outside => exact iff_of_true rfl fun _ => Region.noConfusion
  | inside s => exact iff_of_false Region.noConfusion fun h => h s rfl

theorem tally_eq_tallied (s : Section) : history.tally s = s.tallied (history.count s) := by
  rw [tally]
  split
  · next h => rw [h]; rfl
  · next h => rw [h]; rfl
  · next hzero hone => rw [Section.tallied, if_neg hzero, if_neg hone]

theorem closingFindings_eq (history : SectionHistory) :
    history.closingFindings =
      history.current.unclosed ++
        (Section.icannDomains.tallied (history.count .icannDomains) ++
          Section.privateDomains.tallied (history.count .privateDomains)) := by
  rw [← tally_eq_tallied, ← tally_eq_tallied, closingFindings, Section.all, List.flatMap_cons,
    List.flatMap_singleton]
  cases history.current <;> rfl

theorem sectionNotClosed_not_mem_tallied {region : Region} (s : Section) (n : Nat) :
    Finding.sectionNotClosed region ∉ s.tallied n := by
  intro h
  rw [Section.tallied] at h
  split at h
  · cases List.mem_singleton.1 h
  · split at h
    · cases h
    · cases List.mem_singleton.1 h

theorem sectionNotClosed_not_mem_iff :
    (∀ region, Finding.sectionNotClosed region ∉ history.closingFindings) ↔
      history.current = .outside := by
  rw [closingFindings_eq]
  constructor
  · intro h
    cases hc : history.current with
    | outside => rfl
    | inside s =>
      rw [hc] at h
      exact absurd List.mem_cons_self (h (.inside s))
  · intro hc region h
    rw [hc] at h
    rcases List.mem_append.1 h with h | h
    · cases h
    · rcases List.mem_append.1 h with h | h
      · exact sectionNotClosed_not_mem_tallied _ _ h
      · exact sectionNotClosed_not_mem_tallied _ _ h

/-- How often each section was opened and which one is open can be read off the comments, and so can
what is reported at the end. Only comments that look like markers have an effect; none of them is
reported and no section is left open exactly when they come in pairs. -/
theorem course_of_comments (comments : List Text)
    (marked : ∀ comment ∈ comments, Line.commentMark <+: comment) :
    let history := takeAll {} comments
    (∀ s, history.count s = comments.count s.opening) ∧
      (∀ s, history.current = .inside s ↔ s.IsOpenAfter comments) ∧
      (history.current = .outside ↔ ∀ s : Section, ¬ s.IsOpenAfter comments) ∧
      (∀ comment ∈ comments,
        (Marker.isMarkerLike comment = true ↔
          (∃ s : Section, comment = s.opening ∨ comment = s.closing) ∨
            ∃ a b c rest, comment = a :: b :: c :: rest ∧ c.toNat < 0x80 ∧
              (Marker.beginSign <+: rest ∨ Marker.endSign <+: rest)) ∧
        ∀ state : SectionHistory,
          state.takeComment comment = (state, none) ↔ Marker.isMarkerLike comment = false) ∧
      ((Quiet comments ∧ ∀ region, .sectionNotClosed region ∉ history.closingFindings) ↔
        ∃ pairs : List Section,
          comments.filter Marker.isMarkerLike = pairs.flatMap Section.pair) ∧
      history.closingFindings =
        history.current.unclosed ++
          (Section.icannDomains.tallied (comments.count (Section.opening .icannDomains)) ++
            Section.privateDomains.tallied (comments.count (Section.opening .privateDomains))) := by
  intro history
  refine ⟨count_takeAll comments, current_takeAll_eq_inside_iff comments,
    current_takeAll_eq_outside_iff comments, ?_, ?_, ?_⟩
  · intro comment hm
    exact ⟨Marker.isMarkerLike_iff, fun state => takeComment_eq_self_iff (marked comment hm)⟩
  · rw [sectionNotClosed_not_mem_iff, quiet_iff_paired marked .outside, Paired, Region.opened]
    simp only [List.append_nil]
  · rw [closingFindings_eq, count_takeAll, count_takeAll]

/-- The end of the other section does not close the one that is open, and the second opening does
not close the first; a sign after a character outside ASCII is none. -/
theorem course_of_comments_reopened :
    let comments := ["// ===BEGIN ICANN DOMAINS===".toList, "// ===END PRIVATE DOMAINS===".toList,
      "// ===BEGIN ICANN DOMAINS===".toList, "//é===END".toList]
    (∀ comment ∈ comments, Line.commentMark <+: comment) ∧
      Section.icannDomains.IsOpenAfter comments ∧
      (takeAll {} comments).current = .inside .icannDomains ∧
      (takeAll {} comments).closingFindings =
        [.sectionNotClosed (.inside .icannDomains), .repeatedSection (.inside .icannDomains) 2,
          .missingSection (.inside .privateDomains)] := by
  intro comments
  have marked : ∀ comment ∈ comments, Line.commentMark <+: comment := by decide
  have hopen : Section.icannDomains.IsOpenAfter comments :=
    ⟨comments.take 2, comments.drop 3, by decide, fun t => by cases t <;> decide, by decide⟩
  obtain ⟨_, hinside, _, _, _, hclosing⟩ := course_of_comments comments marked
  have hcurrent := (hinside .icannDomains).2 hopen
  rw [hcurrent] at hclosing
  exact ⟨marked, hopen, hcurrent, hclosing.trans (by decide)⟩

end SectionHistory
end SuffixLint
