import SuffixLint.Proofs.EachAfter
import SuffixLint.Proofs.Linter.Run

namespace SuffixLint

namespace Section

/-- The markers of a section that is opened and closed again. -/
def pair (s : Section) : List Text := [s.opening, s.closing]

theorem opening_injective {s t : Section} (h : s.opening = t.opening) : s = t := by
  have hmarker := congrArg Marker.ofComment? h
  rw [Marker.ofComment?_opening, Marker.ofComment?_opening] at hmarker
  injection hmarker with hmarker
  injection hmarker

theorem closing_injective {s t : Section} (h : s.closing = t.closing) : s = t := by
  have hmarker := congrArg Marker.ofComment? h
  rw [Marker.ofComment?_closing, Marker.ofComment?_closing] at hmarker
  injection hmarker with hmarker
  injection hmarker

theorem opening_ne_closing (s t : Section) : s.opening ≠ t.closing := by
  intro h
  have hmarker := congrArg Marker.ofComment? h
  rw [Marker.ofComment?_opening, Marker.ofComment?_closing] at hmarker
  injection hmarker with hmarker
  cases hmarker

end Section

namespace Region

def opened : Region → List Text
  | .outside => []
  | .inside s => [s.opening]

end Region

namespace Marker

/-- Whether a sign follows the third character of a text, which has to be in ASCII. -/
def hasSign : Text → Bool
  | _ :: _ :: c :: rest =>
    decide (c.toNat < 0x80) &&
      ("===BEGIN".toList.isPrefixOf rest || "===END".toList.isPrefixOf rest)
  | _ => false

/-- Whether a comment looks like a marker: it is one of the four that name a section, or a sign
stands where they have one. -/
def isMarkerLike (comment : Text) : Bool :=
  Section.all.any (fun s => comment == s.opening || comment == s.closing) || hasSign comment

theorem isMarkerLike_of_named {comment : Text} {s : Section}
    (h : comment = s.opening ∨ comment = s.closing) : isMarkerLike comment = true := by
  have hall : Section.all.any (fun s => comment == s.opening || comment == s.closing) = true := by
    refine List.any_eq_true.2 ⟨s, Section.mem_all s, ?_⟩
    rwa [Bool.or_eq_true, beq_iff_eq, beq_iff_eq]
  rw [isMarkerLike, hall, Bool.true_or]

theorem eq_opening_of_begins {text : Text} {s : Section}
    (h : ofComment? text = some (.begins s)) : text = s.opening := by
  rw [ofComment?] at h
  repeat' split at h
  all_goals cases h
  all_goals assumption

theorem eq_closing_of_ends {text : Text} {s : Section}
    (h : ofComment? text = some (.ends s)) : text = s.closing := by
  rw [ofComment?] at h
  repeat' split at h
  all_goals cases h
  all_goals assumption

theorem utf8Size_le_one_iff (c : Char) : c.utf8Size ≤ 1 ↔ c.toNat < 0x80 := by
  have hpos : 0 < c.utf8Size := c.utf8Size_pos
  have hone : c.utf8Size ≤ 1 ↔ c.utf8Size = 1 := by omega
  rw [hone, Char.utf8Size_eq_one_iff, UInt32.le_iff_toNat_le]
  change c.toNat ≤ 127 ↔ _
  omega

theorem dropOctets_comment (c : Char) (rest : Text) :
    dropOctets ('/' :: '/' :: c :: rest) 3 = if c.toNat < 0x80 then some rest else none := by
  have hslash : ('/').utf8Size = 1 := rfl
  have hpos : 0 < c.utf8Size := c.utf8Size_pos
  simp only [dropOctets, hslash, Nat.reduceLeDiff, ↓reduceIte, Nat.reduceAdd, Nat.reduceSub,
    utf8Size_le_one_iff]
  split
  · next h =>
    have hle : c.utf8Size ≤ 1 := (utf8Size_le_one_iff c).2 h
    have hzero : 1 - c.utf8Size = 0 := by omega
    rw [hzero]
    cases rest <;> rfl
  · rfl

theorem ofComment?_of_unnamed {comment : Text}
    (h : ∀ s : Section, comment ≠ s.opening ∧ comment ≠ s.closing) :
    ofComment? comment =
      match dropOctets comment 3 with
      | none => none
      | some rest =>
        if beginSign.isPrefixOf rest then some .beginsUnknown
        else if endSign.isPrefixOf rest then some .endsUnknown
        else none := by
  rw [ofComment?, if_neg (h _).1, if_neg (h _).2, if_neg (h _).1]
  exact if_neg (h _).2

theorem unnamed_of_unknown {comment : Text} {marker : Marker}
    (h : ofComment? comment = some marker) (hm : marker = .beginsUnknown ∨ marker = .endsUnknown)
    (s : Section) : comment ≠ s.opening ∧ comment ≠ s.closing := by
  constructor
  · rintro rfl
    rw [ofComment?_opening] at h
    rcases hm with rfl | rfl <;> cases h
  · rintro rfl
    rw [ofComment?_closing] at h
    rcases hm with rfl | rfl <;> cases h

theorem isSome_ofComment? {comment : Text} (h : Line.commentMark <+: comment) :
    (ofComment? comment).isSome = isMarkerLike comment := by
  by_cases hnamed : ∃ s : Section, comment = s.opening ∨ comment = s.closing
  · obtain ⟨s, hs⟩ := hnamed
    rw [isMarkerLike_of_named hs]
    rcases hs with rfl | rfl
    · rw [ofComment?_opening]; rfl
    · rw [ofComment?_closing]; rfl
  · have hne (s : Section) : comment ≠ s.opening ∧ comment ≠ s.closing :=
      ⟨fun he => hnamed ⟨s, .inl he⟩, fun he => hnamed ⟨s, .inr he⟩⟩
    have hall : Section.all.any (fun s => comment == s.opening || comment == s.closing) =
        false := by
      rw [List.any_eq_false]
      intro s _
      simp [hne s]
    rw [ofComment?_of_unnamed hne, isMarkerLike, hall, Bool.false_or]
    obtain ⟨rest, rfl⟩ := h
    cases rest with
    | nil => rfl
    | cons c rest =>
      have hdrop : dropOctets (Line.commentMark ++ c :: rest) 3 =
          if c.toNat < 0x80 then some rest else none := dropOctets_comment c rest
      have hsign : hasSign (Line.commentMark ++ c :: rest) =
          (decide (c.toNat < 0x80) &&
            (beginSign.isPrefixOf rest || endSign.isPrefixOf rest)) := rfl
      rw [hdrop, hsign]
      by_cases hc : c.toNat < 0x80
      · simp only [hc, ↓reduceIte, decide_true, Bool.true_and]
        cases beginSign.isPrefixOf rest <;> cases endSign.isPrefixOf rest <;> rfl
      · simp only [hc, ↓reduceIte, decide_false, Bool.false_and, Option.isSome_none]

end Marker

/-- Markers that open and close one section after another and lead into a region. -/
def Paired (markers : List Text) (region : Region) : Prop :=
  ∃ pairs : List Section, markers = pairs.flatMap Section.pair ++ region.opened

theorem paired_nil {region : Region} : Paired [] region ↔ region = .outside := by
  constructor
  · rintro ⟨pairs, h⟩
    cases region with
    | outside => rfl
    | inside s => exact absurd h (by simp [Region.opened])
  · rintro rfl
    exact ⟨[], rfl⟩

theorem eq_of_closed {markers : List Text} {text : Text} {pairs : List Section}
    (h : markers ++ [text] = pairs.flatMap Section.pair ++ Region.outside.opened) :
    ∃ front t, markers = List.flatMap Section.pair front ++ [Section.opening t] ∧
      text = Section.closing t := by
  rw [Region.opened, List.append_nil] at h
  rcases List.eq_nil_or_concat pairs with rfl | ⟨front, t, rfl⟩
  · exact absurd h (List.append_ne_nil_of_right_ne_nil _ (List.cons_ne_nil _ _))
  · rw [List.concat_eq_append, List.flatMap_append, List.flatMap_singleton, Section.pair,
      List.append_cons _ t.opening] at h
    obtain ⟨hmarkers, htext⟩ := List.append_inj' h rfl
    exact ⟨front, t, hmarkers, List.singleton_inj.1 htext⟩

theorem eq_of_open {markers : List Text} {text : Text} {pairs : List Section} {t : Section}
    (h : markers ++ [text] = pairs.flatMap Section.pair ++ (Region.inside t).opened) :
    markers = pairs.flatMap Section.pair ∧ text = t.opening := by
  obtain ⟨hmarkers, htext⟩ := List.append_inj' h rfl
  exact ⟨hmarkers, List.singleton_inj.1 htext⟩

theorem paired_append_opening {markers : List Text} {s : Section} {region : Region} :
    Paired (markers ++ [s.opening]) region ↔ region = .inside s ∧ Paired markers .outside := by
  constructor
  · rintro ⟨pairs, h⟩
    cases region with
    | outside =>
      obtain ⟨_, t, _, htext⟩ := eq_of_closed h
      exact absurd htext (Section.opening_ne_closing s t)
    | inside t =>
      obtain ⟨hmarkers, htext⟩ := eq_of_open h
      obtain rfl := Section.opening_injective htext
      refine ⟨rfl, pairs, ?_⟩
      rw [hmarkers, Region.opened, List.append_nil]
  · rintro ⟨rfl, pairs, rfl⟩
    refine ⟨pairs, ?_⟩
    simp only [Region.opened, List.append_nil]

theorem paired_append_closing {markers : List Text} {s : Section} {region : Region} :
    Paired (markers ++ [s.closing]) region ↔ region = .outside ∧ Paired markers (.inside s) := by
  constructor
  · rintro ⟨pairs, h⟩
    cases region with
    | outside =>
      obtain ⟨front, t, hmarkers, htext⟩ := eq_of_closed h
      obtain rfl := Section.closing_injective htext
      exact ⟨rfl, front, hmarkers⟩
    | inside t =>
      obtain ⟨_, htext⟩ := eq_of_open h
      exact absurd htext.symm (Section.opening_ne_closing t s)
  · rintro ⟨rfl, pairs, rfl⟩
    refine ⟨pairs ++ [s], ?_⟩
    simp only [Region.opened, List.flatMap_append, List.flatMap_singleton, Section.pair,
      List.append_nil, List.append_assoc, List.cons_append, List.nil_append]

theorem not_paired_append_of_unnamed {markers : List Text} {text : Text} {region : Region}
    (h : ∀ s : Section, text ≠ s.opening ∧ text ≠ s.closing) :
    ¬ Paired (markers ++ [text]) region := by
  rintro ⟨pairs, he⟩
  cases region with
  | outside =>
    obtain ⟨_, t, _, htext⟩ := eq_of_closed he
    exact (h t).2 htext
  | inside t => exact (h t).1 (eq_of_open he).2

namespace SectionHistory

/-- All comments are taken without a finding. -/
def Quiet (comments : List Text) : Prop :=
  EachAfter (fun before comment => ((takeAll {} before).takeComment comment).2 = none) comments

theorem takeComment_of_none {history : SectionHistory} {comment : Text}
    (h : Marker.ofComment? comment = none) : history.takeComment comment = (history, none) := by
  rw [takeComment, h]

theorem takeComment_of_some {history : SectionHistory} {comment : Text} {marker : Marker}
    (h : Marker.ofComment? comment = some marker) :
    history.takeComment comment = history.takeMarker marker := by
  rw [takeComment, h]

theorem takeMarker_begins_quiet_iff {history : SectionHistory} {s : Section} {region : Region} :
    (history.takeMarker (.begins s)).2 = none ∧
        (history.takeMarker (.begins s)).1.current = region ↔
      region = .inside s ∧ history.current = .outside := by
  cases hc : history.current with
  | outside => simp [takeMarker, hc, eq_comm]
  | inside t => simp [takeMarker, hc]

theorem takeMarker_ends_quiet_iff {history : SectionHistory} {s : Section} {region : Region} :
    (history.takeMarker (.ends s)).2 = none ∧
        (history.takeMarker (.ends s)).1.current = region ↔
      region = .outside ∧ history.current = .inside s := by
  cases hc : history.current with
  | outside => simp [takeMarker, hc]
  | inside t =>
    by_cases hts : t = s
    · simp [takeMarker, hc, hts, eq_comm]
    · simp [takeMarker, hc, hts]

theorem takeMarker_unknown_ne_none {history : SectionHistory} {marker : Marker}
    (h : marker = .beginsUnknown ∨ marker = .endsUnknown) :
    (history.takeMarker marker).2 ≠ none := by
  rcases h with rfl | rfl <;> cases hc : history.current <;> simp [takeMarker, hc]

/-- Comments without a finding are those whose markers are paired, and the region after them is the
one that the markers lead into. -/
theorem quiet_iff_paired {comments : List Text}
    (marked : ∀ comment ∈ comments, Line.commentMark <+: comment) (region : Region) :
    Quiet comments ∧ (takeAll {} comments).current = region ↔
      Paired (comments.filter Marker.isMarkerLike) region := by
  -- Whether an end is in its place depends on the region before it, hence any region here.
  induction comments using List.reverseRecOn generalizing region with
  | nil =>
    rw [List.filter_nil, paired_nil]
    exact ⟨fun h => h.2.symm, fun h => ⟨.nil _, h.symm⟩⟩
  | append_singleton comments comment ih =>
    have hprev : ∀ c ∈ comments, Line.commentMark <+: c :=
      fun c hc => marked c (List.mem_append_left _ hc)
    have hmark := Marker.isSome_ofComment? (marked comment (by simp))
    have hlast : Quiet (comments ++ [comment]) ∧
          (takeAll {} (comments ++ [comment])).current = region ↔
        Quiet comments ∧ ((takeAll {} comments).takeComment comment).2 = none ∧
          ((takeAll {} comments).takeComment comment).1.current = region := by
      rw [Quiet, eachAfter_append_singleton, takeAll_append, and_assoc]
      rfl
    rw [hlast, List.filter_append, List.filter_singleton, ← hmark]
    cases hm : Marker.ofComment? comment with
    | none =>
      rw [takeComment_of_none hm]
      simpa using ih hprev region
    | some marker =>
      have hunknown (hu : marker = .beginsUnknown ∨ marker = .endsUnknown) :
          ¬ Paired (comments.filter Marker.isMarkerLike ++ [comment]) region :=
        not_paired_append_of_unnamed (Marker.unnamed_of_unknown hm hu)
      rw [takeComment_of_some hm]
      simp only [Option.isSome_some, cond_true]
      cases marker with
      | begins s =>
        rw [takeMarker_begins_quiet_iff, Marker.eq_opening_of_begins hm, paired_append_opening,
          ← ih hprev .outside]
        exact and_left_comm
      | ends s =>
        rw [takeMarker_ends_quiet_iff, Marker.eq_closing_of_ends hm, paired_append_closing,
          ← ih hprev (.inside s)]
        exact and_left_comm
      | beginsUnknown =>
        refine iff_of_false ?_ (hunknown (.inl rfl))
        rintro ⟨_, h, _⟩
        exact takeMarker_unknown_ne_none (.inl rfl) h
      | endsUnknown =>
        refine iff_of_false ?_ (hunknown (.inr rfl))
        rintro ⟨_, h, _⟩
        exact takeMarker_unknown_ne_none (.inr rfl) h

end SectionHistory
end SuffixLint
