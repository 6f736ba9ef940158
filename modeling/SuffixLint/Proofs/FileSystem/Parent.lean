import Mathlib.Data.List.DropRight
import SuffixLint.Proofs.FileSystem.Walk
import SuffixLint.Proofs.Text.Parts

namespace SuffixLint

namespace Path

theorem names_splitOn_join {parts : List Text} (h : ∀ part ∈ parts, separator ∉ part) :
    names ((Text.join [separator] parts).splitOn separator) = names parts := by
  by_cases hempty : parts = []
  · subst hempty
    rfl
  · rw [Text.join, List.splitOn_intercalate separator h hempty]

theorem names_splitOn_append_cons (front back : Text) :
    names ((front ++ separator :: back).splitOn separator) =
      names (front.splitOn separator) ++ names (back.splitOn separator) := by
  rw [List.splitOn_append_cons_self, names_append]

theorem names_eq_nil_iff {segments : List Text} :
    names segments = [] ↔ ∀ segment ∈ segments, isIdle segment = true := by
  simp [names, List.filter_eq_nil_iff]

theorem names_dropIdleEnd (segments : List Text) :
    names (dropIdleEnd segments) = names segments := by
  have hidle : names (segments.rtakeWhile isIdle) = [] :=
    names_eq_nil_iff.2 fun _ h => List.mem_rtakeWhile_imp h
  have hsplit : dropIdleEnd segments ++ segments.rtakeWhile isIdle = segments :=
    List.rdropWhile_append_rtakeWhile
  conv_rhs => rw [← hsplit, names_append, hidle, List.append_nil]

theorem dropIdleEnd_isPrefix (segments : List Text) : dropIdleEnd segments <+: segments :=
  List.rdropWhile_prefix isIdle segments

theorem not_isIdle_of_dropIdleEnd {segments front : List Text} {last : Text}
    (h : dropIdleEnd segments = front ++ [last]) : isIdle last = false := by
  have hend : segments.rdropWhile isIdle = front ++ [last] := h
  have hne : segments.rdropWhile isIdle ≠ [] := by simp [hend]
  simpa [hend] using List.rdropWhile_last_not isIdle segments hne

theorem names_dropIdleEnd_ne_nil {segments : List Text} (h : dropIdleEnd segments ≠ []) :
    names (dropIdleEnd segments) ≠ [] := by
  rcases List.eq_nil_or_concat (dropIdleEnd segments) with he | ⟨front, last, he⟩
  · exact absurd he h
  · rw [List.concat_eq_append] at he
    have hlast : last ∈ names (dropIdleEnd segments) :=
      mem_names.2 ⟨he ▸ List.mem_append_right _ List.mem_cons_self, not_isIdle_of_dropIdleEnd he⟩
    exact List.ne_nil_of_mem hlast

theorem names_dropLast_dropIdleEnd (segments : List Text) :
    names (dropIdleEnd segments).dropLast = (names segments).dropLast := by
  rw [← names_dropIdleEnd segments]
  rcases List.eq_nil_or_concat (dropIdleEnd segments) with he | ⟨front, last, he⟩
  · rw [he]
    rfl
  · rw [List.concat_eq_append] at he
    have hlast : names [last] = [last] :=
      List.filter_cons_of_pos (by simp [not_isIdle_of_dropIdleEnd he])
    rw [he, List.dropLast_concat, names_append, hlast, List.dropLast_concat]

/-- How a path is written for its last component to be cut off: what it starts with, and the
segments behind that. -/
structure Parts (path : Path) (start : Text) (body : List Text) : Prop where
  text_eq : path.text = start ++ Text.join [separator] body
  separator_free : ∀ part ∈ body, separator ∉ part
  start_cases : start = [separator] ∨ start = here ∧ body.head? = some [] ∨
    start = [] ∧ (body.head? = some [] → body = [[]])

namespace Parts

variable {path : Path} {start : Text} {body front : List Text}

theorem names_eq (h : path.Parts start body) (hfront : front <+: body) :
    names (segments ⟨start ++ Text.join [separator] front⟩) = names front := by
  have hfree : ∀ part ∈ front, separator ∉ part :=
    fun part hpart => h.separator_free part (hfront.subset hpart)
  rcases h.start_cases with rfl | ⟨rfl, hhead⟩ | ⟨rfl, _⟩
  · rw [← names_splitOn_join hfree]
    exact names_splitOn_append_cons [] _
  · cases front with
    | nil => rfl
    | cons part front =>
      obtain ⟨back, rfl⟩ := hfront
      obtain rfl : part = [] := Option.some.inj hhead
      by_cases hempty : front = []
      · subst hempty
        rfl
      · rw [Text.join_cons_of_ne_nil separator [] hempty]
        exact (names_splitOn_append_cons here _).trans
          (names_splitOn_join fun part hpart => hfree part (List.mem_cons_of_mem _ hpart))
  · rw [List.nil_append, segments, names_splitOn_join hfree]

theorem head?_join_ne {parts : List Text} (hfree : ∀ part ∈ parts, separator ∉ part)
    (hfirst : parts.head? = some [] → parts = [[]]) :
    (Text.join [separator] parts).head? ≠ some separator := by
  match parts with
  | [] => exact Option.some_ne_none separator ∘ Eq.symm
  | [] :: others =>
    rw [hfirst rfl]
    exact Option.some_ne_none separator ∘ Eq.symm
  | (c :: part) :: others =>
    have hc : separator ≠ c := List.ne_of_not_mem_cons (hfree _ List.mem_cons_self)
    by_cases hempty : others = []
    · rw [hempty, Text.join_singleton]
      exact fun h => hc (Option.some.inj h).symm
    · rw [Text.join_cons_of_ne_nil separator _ hempty]
      exact fun h => hc (Option.some.inj h).symm

theorem isAbsolute_eq (h : path.Parts start body) (hfront : front <+: body) :
    isAbsolute ⟨start ++ Text.join [separator] front⟩ = path.isAbsolute := by
  rw [isAbsolute, isAbsolute, h.text_eq]
  rcases h.start_cases with rfl | ⟨rfl, _⟩ | ⟨rfl, hfirst⟩
  · rfl
  · rfl
  · have hfree : ∀ part ∈ front, separator ∉ part :=
      fun part hpart => h.separator_free part (hfront.subset hpart)
    have hfrontFirst : front.head? = some [] → front = [[]] := by
      intro hnil
      obtain ⟨others, rfl⟩ := List.head?_eq_some_iff.1 hnil
      obtain ⟨back, rfl⟩ := hfront
      have hbody := hfirst rfl
      rw [List.cons_append, List.cons.injEq, List.append_eq_nil_iff] at hbody
      rw [hbody.2.1]
    have hno := head?_join_ne hfree hfrontFirst
    have hno' := head?_join_ne h.separator_free hfirst
    rw [List.nil_append, List.nil_append, beq_eq_false_iff_ne.2 hno, beq_eq_false_iff_ne.2 hno']

end Parts

def parentFrom (start : Text) (body : List Text) : Option Path :=
  match dropIdleEnd body with
  | [] => if start = here then some ⟨[]⟩ else none
  | used => some ⟨start ++ Text.join [separator] (dropIdleEnd used.dropLast)⟩

theorem exists_parts (path : Path) :
    ∃ start body, path.Parts start body ∧ path.parent? = parentFrom start body := by
  have hfree : ∀ segment ∈ path.segments, separator ∉ segment :=
    fun _ => separator_not_mem_of_mem_segments
  have hjoin : Text.join [separator] path.segments = path.text := List.intercalate_splitOn separator
  by_cases habsolute : path.isAbsolute = true
  · obtain ⟨rest, hrest⟩ := isAbsolute_iff.1 habsolute
    have hsegments : path.segments = [] :: rest.splitOn separator := by
      rw [segments, hrest]
      exact List.splitOn_append_cons_self [] rest
    refine ⟨[separator], rest.splitOn separator, ⟨?_, ?_, .inl rfl⟩, ?_⟩
    · rw [hrest, Text.join, List.intercalate_splitOn, List.singleton_append]
    · exact fun part hpart => hfree part (hsegments ▸ List.mem_cons_of_mem _ hpart)
    · rw [parent?, if_pos habsolute, hsegments]
      rfl
  · by_cases hhere : path.segments.head? = some here
    · obtain ⟨others, hothers⟩ := List.head?_eq_some_iff.1 hhere
      refine ⟨here, [] :: others, ⟨?_, ?_, .inr (.inl ⟨rfl, rfl⟩)⟩, ?_⟩
      · rw [← hjoin, hothers]
        by_cases hempty : others = []
        · rw [hempty, Text.join_singleton, Text.join_singleton, List.append_nil]
        · rw [Text.join_cons_of_ne_nil separator _ hempty,
            Text.join_cons_of_ne_nil separator _ hempty, List.nil_append]
      · intro part hpart
        rcases List.mem_cons.1 hpart with rfl | hpart
        · exact List.not_mem_nil
        · exact hfree part (hothers ▸ List.mem_cons_of_mem _ hpart)
      · rw [parent?, if_neg habsolute, if_pos hhere, hothers]
        rfl
    · refine ⟨[], path.segments, ⟨?_, hfree, .inr (.inr ⟨rfl, ?_⟩)⟩, ?_⟩
      · rw [hjoin, List.nil_append]
      · intro hfirst
        obtain ⟨others, hothers⟩ := List.head?_eq_some_iff.1 hfirst
        by_cases hempty : others = []
        · rw [hothers, hempty]
        · rw [hothers, Text.join_cons_of_ne_nil separator _ hempty] at hjoin
          exact absurd (isAbsolute_iff.2 ⟨_, hjoin.symm⟩) habsolute
      · rw [parent?, if_neg habsolute, if_neg hhere]
        rfl

theorem names_eq_nil_of_parent?_eq_none {path : Path} (h : path.parent? = none) :
    names path.segments = [] := by
  obtain ⟨start, body, hparts, he⟩ := path.exists_parts
  rw [he, parentFrom] at h
  split at h
  · next hidle =>
    have hnames := hparts.names_eq (List.prefix_refl body)
    rw [← hparts.text_eq, ← names_dropIdleEnd body, hidle] at hnames
    exact hnames
  · cases h

/-- The path above a path starts in the same place, has all names but the last, and is shorter. -/
theorem parent?_eq_some {path parent : Path} (h : path.parent? = some parent) :
    parent.isAbsolute = path.isAbsolute ∧
      names parent.segments = (names path.segments).dropLast ∧
      parent.text.length < path.text.length := by
  obtain ⟨start, body, hparts, he⟩ := path.exists_parts
  have hnames : names path.segments = names body := by
    have hnames := hparts.names_eq (List.prefix_refl body)
    rwa [← hparts.text_eq] at hnames
  rw [he, parentFrom] at h
  split at h
  · next hidle =>
    have hnil : names path.segments = [] := by
      rw [hnames, ← names_dropIdleEnd body, hidle]
      rfl
    split at h
    · next hstart =>
      cases h
      have htext : path.text = '.' :: Text.join [separator] body :=
        hparts.text_eq.trans (hstart ▸ rfl)
      refine ⟨?_, by rw [hnil]; rfl, ?_⟩
      · rw [isAbsolute, isAbsolute, htext]
        rfl
      · rw [htext]
        exact Nat.succ_pos _
    · cases h
  · next hused =>
    cases h
    have hfront : dropIdleEnd (dropIdleEnd body).dropLast <+: body :=
      (dropIdleEnd_isPrefix _).trans ((List.dropLast_prefix _).trans (dropIdleEnd_isPrefix body))
    have hcut : names (segments ⟨start ++ Text.join [separator]
        (dropIdleEnd (dropIdleEnd body).dropLast)⟩) = (names path.segments).dropLast := by
      rw [hparts.names_eq hfront, names_dropIdleEnd, names_dropLast_dropIdleEnd, hnames]
    refine ⟨hparts.isAbsolute_eq hfront, hcut, ?_⟩
    have hcutText : start ++ Text.join [separator] (dropIdleEnd (dropIdleEnd body).dropLast) <+:
        path.text := by
      rw [hparts.text_eq]
      exact (List.prefix_append_right_inj start).2 (Text.join_prefix hfront)
    refine Nat.lt_of_le_of_ne hcutText.length_le fun hlength => ?_
    rw [hcutText.eq_of_length hlength] at hcut
    have hlen : (names path.segments).length = (names path.segments).dropLast.length :=
      congrArg List.length hcut
    rw [List.length_dropLast] at hlen
    have hpos : 0 < (names path.segments).length := by
      rw [hnames, ← names_dropIdleEnd body]
      exact List.length_pos_of_ne_nil (names_dropIdleEnd_ne_nil hused)
    omega

end Path

end SuffixLint
