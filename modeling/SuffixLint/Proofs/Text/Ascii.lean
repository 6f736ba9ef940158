import SuffixLint.Proofs.Text.Utf8

namespace SuffixLint.Utf8

/-- None of the octets that are still asked for is one of ASCII. -/
def AsksAboveAscii (state : State) : Prop :=
  ∀ pending ∈ state, ∀ range ∈ pending.missing :: pending.later, 0x80 ≤ range.first

theorem asksAboveAscii_none : AsksAboveAscii none := by
  intro pending h
  cases h

theorem asksAboveAscii_some {bits : Nat} {missing : OctetRange} {later : List OctetRange}
    (hmissing : 0x80 ≤ missing.first) (hlater : ∀ range ∈ later, 0x80 ≤ range.first) :
    AsksAboveAscii (some ⟨bits, missing, later⟩) := by
  intro pending h
  obtain rfl := Option.some.inj h
  exact List.forall_mem_cons.2 ⟨hmissing, hlater⟩

theorem asksAboveAscii_of_lead {octet : UInt8} {pending : Pending}
    (h : lead octet = .opens pending) : AsksAboveAscii (some pending) := by
  simp only [lead] at h
  split at h
  · cases h
  split at h
  · cases h
  split at h
  · obtain rfl := Lead.opens.inj h
    exact asksAboveAscii_some (by decide) (by decide)
  split at h
  · obtain rfl := Lead.opens.inj h
    apply asksAboveAscii_some ?_ (by decide)
    split
    · decide
    · split <;> decide
  split at h
  · obtain rfl := Lead.opens.inj h
    apply asksAboveAscii_some ?_ (by decide)
    split
    · decide
    · split <;> decide
  · cases h

theorem asksAboveAscii_begin (octet : UInt8) : AsksAboveAscii (begin octet).2 := by
  rw [begin]
  cases h : lead octet with
  | single c => exact asksAboveAscii_none
  | opens pending => exact asksAboveAscii_of_lead h
  | invalid => exact asksAboveAscii_none

theorem AsksAboveAscii.step {state : State} (h : AsksAboveAscii state) (octet : UInt8) :
    AsksAboveAscii (step state octet).2 := by
  cases state with
  | none => exact asksAboveAscii_begin octet
  | some pending =>
    rw [Utf8.step]
    split
    · cases hlater : pending.later with
      | nil => exact asksAboveAscii_none
      | cons next later =>
        have hrest := h pending rfl
        rw [hlater] at hrest
        obtain ⟨_, hrest⟩ := List.forall_mem_cons.1 hrest
        obtain ⟨hnext, hmore⟩ := List.forall_mem_cons.1 hrest
        exact asksAboveAscii_some hnext hmore
    · exact asksAboveAscii_begin octet

variable {octet : UInt8}

theorem step_none_ascii (hascii : octet.toNat < 0x80) :
    step none octet = ([.char (Char.ofNat octet.toNat)], none) := by
  simp only [step, begin, lead, if_pos hascii]

theorem AsksAboveAscii.step_ascii {pending : Pending} (h : AsksAboveAscii (some pending))
    (hascii : octet.toNat < 0x80) :
    Utf8.step (some pending) octet = ([.malformed, .char (Char.ofNat octet.toNat)], none) := by
  have hfirst : 0x80 ≤ pending.missing.first.toNat :=
    UInt8.le_iff_toNat_le.1 (h pending rfl _ List.mem_cons_self)
  have hnot : ¬pending.missing.contains octet = true := by
    rw [OctetRange.contains, Bool.and_eq_true, decide_eq_true_eq, UInt8.le_iff_toNat_le]
    omega
  have hbegin : begin octet = ([.char (Char.ofNat octet.toNat)], none) := step_none_ascii hascii
  simp only [Utf8.step, if_neg hnot, hbegin]

/-- What comes before an octet of ASCII is read as if it ended there, and what comes after it as if
it started there. -/
theorem AsksAboveAscii.pieces_append {state : State} (h : AsksAboveAscii state)
    (hascii : octet.toNat < 0x80) (bytes rest : Bytes) :
    pieces state (bytes ++ octet :: rest) =
      pieces state bytes ++ .char (Char.ofNat octet.toNat) :: pieces none rest := by
  induction bytes generalizing state with
  | nil =>
    cases state with
    | none =>
      simp only [List.nil_append, pieces, step_none_ascii hascii]
      rfl
    | some pending =>
      simp only [List.nil_append, pieces, h.step_ascii hascii]
      rfl
  | cons first bytes ih =>
    rw [List.cons_append, pieces, pieces, ih (h.step first), List.append_assoc]

theorem decodeLossy_append_ascii (hascii : octet.toNat < 0x80) (bytes rest : Bytes) :
    decodeLossy (bytes ++ octet :: rest) =
      decodeLossy bytes ++ Char.ofNat octet.toNat :: decodeLossy rest := by
  rw [decodeLossy, asksAboveAscii_none.pieces_append hascii, List.map_append, List.map_cons]
  rfl

theorem isValid_append_ascii (hascii : octet.toNat < 0x80) (bytes rest : Bytes) :
    isValid (bytes ++ octet :: rest) = (isValid bytes && isValid rest) := by
  rw [isValid, asksAboveAscii_none.pieces_append hascii, List.all_append, List.all_cons]
  rfl

/-- What the bits of a sequence come to at least with the next octet: more than an ASCII character
if that is the last one, and otherwise enough for the ones that follow. -/
def Pending.bound (pending : Pending) : Nat :=
  match pending.later with
  | [] => 0x80
  | _ :: _ => 2

def ExceedsAscii (state : State) : Prop :=
  ∀ pending ∈ state, ∀ octet, pending.missing.contains octet = true →
    pending.bound ≤ pending.bits * 64 + octet.toNat % 64

theorem Pending.two_le_bound (pending : Pending) : 2 ≤ pending.bound := by
  rw [bound]
  split <;> decide

theorem Pending.bound_le (pending : Pending) : pending.bound ≤ 0x80 := by
  rw [bound]
  split <;> decide

theorem exceedsAscii_none : ExceedsAscii none := by
  intro pending h
  cases h

theorem exceedsAscii_some {pending : Pending}
    (h : ∀ octet, pending.missing.contains octet = true →
      pending.bound ≤ pending.bits * 64 + octet.toNat % 64) :
    ExceedsAscii (some pending) := by
  intro other hsome
  obtain rfl := Option.some.inj hsome
  exact h

/-- The second octet is narrowed exactly where the lead octet alone would leave room for a shorter
form. -/
theorem exceedsAscii_of_lead {octet : UInt8} {pending : Pending}
    (h : lead octet = .opens pending) : ExceedsAscii (some pending) := by
  simp only [lead] at h
  split at h
  · cases h
  split at h
  · cases h
  split at h
  · obtain rfl := Lead.opens.inj h
    apply exceedsAscii_some
    intro next _
    change 0x80 ≤ (octet.toNat - 0xC0) * 64 + next.toNat % 64
    omega
  split at h
  · obtain rfl := Lead.opens.inj h
    apply exceedsAscii_some
    intro next hnext
    change 2 ≤ (octet.toNat - 0xE0) * 64 + next.toNat % 64
    by_cases hlead : octet.toNat = 0xE0
    · rw [if_pos hlead, OctetRange.contains_iff] at hnext
      change 0xA0 ≤ next.toNat ∧ next.toNat ≤ 0xBF at hnext
      omega
    · omega
  split at h
  · obtain rfl := Lead.opens.inj h
    apply exceedsAscii_some
    intro next hnext
    change 2 ≤ (octet.toNat - 0xF0) * 64 + next.toNat % 64
    by_cases hlead : octet.toNat = 0xF0
    · rw [if_pos hlead, OctetRange.contains_iff] at hnext
      change 0x90 ≤ next.toNat ∧ next.toNat ≤ 0xBF at hnext
      omega
    · omega
  · cases h

theorem exceedsAscii_begin (octet : UInt8) : ExceedsAscii (begin octet).2 := by
  rw [begin]
  cases h : lead octet with
  | single c => exact exceedsAscii_none
  | opens pending => exact exceedsAscii_of_lead h
  | invalid => exact exceedsAscii_none

theorem ExceedsAscii.step {state : State} (h : ExceedsAscii state) (octet : UInt8) :
    ExceedsAscii (step state octet).2 := by
  cases state with
  | none => exact exceedsAscii_begin octet
  | some pending =>
    rw [Utf8.step]
    split
    · next hcontains =>
      have hbits : 2 ≤ pending.bits * 64 + octet.toNat % 64 :=
        Nat.le_trans pending.two_le_bound (h pending rfl octet hcontains)
      cases pending.later with
      | nil => exact exceedsAscii_none
      | cons next later =>
        apply exceedsAscii_some
        intro following _
        refine Nat.le_trans (Pending.bound_le _) ?_
        dsimp only
        omega
    · exact exceedsAscii_begin octet

theorem eq_of_ofNat_eq_newline {n : Nat} (h : Char.ofNat n = Text.newline) : n = 0x0A := by
  by_cases hvalid : n.isValidChar
  · have hval := congrArg (·.val.toNat) h
    rwa [toNat_ofNat hvalid] at hval
  · rw [Char.ofNat, dif_neg hvalid] at h
    cases h

theorem octet_of_newline_mem_begin (h : .char Text.newline ∈ (begin octet).1) :
    octet.toNat = 0x0A := by
  simp only [begin, lead] at h
  split at h
  · next c hsingle =>
    have hc : Text.newline = c := Piece.char.inj (List.mem_singleton.1 h)
    split at hsingle
    · exact eq_of_ofNat_eq_newline ((Lead.single.inj hsingle).trans hc.symm)
    · repeat' split at hsingle
      all_goals cases hsingle
  · cases h
  · cases List.mem_singleton.1 h

theorem ExceedsAscii.octet_of_newline_mem_step {state : State} (h : ExceedsAscii state)
    (hmem : .char Text.newline ∈ (Utf8.step state octet).1) : octet.toNat = 0x0A := by
  cases state with
  | none => exact octet_of_newline_mem_begin hmem
  | some pending =>
    rw [Utf8.step] at hmem
    split at hmem
    · next hcontains =>
      have hbound := h pending rfl octet hcontains
      cases hlater : pending.later with
      | nil =>
        rw [hlater] at hmem
        rw [Pending.bound, hlater] at hbound
        have hchar := Piece.char.inj (List.mem_singleton.1 hmem)
        have hnumber := eq_of_ofNat_eq_newline hchar.symm
        rw [hnumber] at hbound
        exact absurd hbound (by decide)
      | cons next later =>
        rw [hlater] at hmem
        cases hmem
    · rcases List.mem_cons.1 hmem with hmem | hmem
      · cases hmem
      · exact octet_of_newline_mem_begin hmem

theorem ExceedsAscii.feed_mem_of_newline_mem_pieces {state : State} (h : ExceedsAscii state)
    {bytes : Bytes} (hmem : .char Text.newline ∈ pieces state bytes) : 0x0A ∈ bytes := by
  induction bytes generalizing state with
  | nil =>
    rw [pieces] at hmem
    split at hmem
    · cases List.mem_singleton.1 hmem
    · cases hmem
  | cons octet rest ih =>
    rw [pieces] at hmem
    rcases List.mem_append.1 hmem with hmem | hmem
    · have hoctet : octet = 0x0A := UInt8.toNat_inj.1 (h.octet_of_newline_mem_step hmem)
      exact hoctet ▸ List.mem_cons_self
    · exact List.mem_cons_of_mem _ (ih (h.step octet) hmem)

theorem feed_mem_of_newline_mem_decodeLossy {bytes : Bytes}
    (h : Text.newline ∈ decodeLossy bytes) : 0x0A ∈ bytes := by
  obtain ⟨piece, hmem, hpiece⟩ := List.mem_map.1 h
  cases piece with
  | char c =>
    have hc : c = Text.newline := hpiece
    exact exceedsAscii_none.feed_mem_of_newline_mem_pieces (hc ▸ hmem)
  | malformed => cases hpiece

end SuffixLint.Utf8
