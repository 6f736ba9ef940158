import SuffixLint.Text.Utf8

namespace SuffixLint.Utf8

theorem toNat_octet {n : Nat} (h : n < 256) : (UInt8.ofNat n).toNat = n := by
  rw [UInt8.toNat_ofNat', Nat.mod_eq_of_lt h]

theorem OctetRange.contains_iff {range : OctetRange} {octet : UInt8} :
    range.contains octet = true ↔
      range.first.toNat ≤ octet.toNat ∧ octet.toNat ≤ range.last.toNat := by
  simp only [contains, Bool.and_eq_true, decide_eq_true_eq, UInt8.le_iff_toNat_le]

theorem pieces_last {bits n : Nat} {range : OctetRange} (rest : Bytes) (h : n < 256)
    (hrange : range.first.toNat ≤ n ∧ n ≤ range.last.toNat) :
    pieces (some ⟨bits, range, []⟩) (UInt8.ofNat n :: rest) =
      .char (Char.ofNat (bits * 64 + n % 64)) :: pieces none rest := by
  have hcontains : range.contains (UInt8.ofNat n) = true := by
    rw [OctetRange.contains_iff, toNat_octet h]
    exact hrange
  simp only [pieces, step, if_pos hcontains, toNat_octet h, List.singleton_append]

theorem pieces_inner {bits n : Nat} {range next : OctetRange} {later : List OctetRange}
    (rest : Bytes) (h : n < 256) (hrange : range.first.toNat ≤ n ∧ n ≤ range.last.toNat) :
    pieces (some ⟨bits, range, next :: later⟩) (UInt8.ofNat n :: rest) =
      pieces (some ⟨bits * 64 + n % 64, next, later⟩) rest := by
  have hcontains : range.contains (UInt8.ofNat n) = true := by
    rw [OctetRange.contains_iff, toNat_octet h]
    exact hrange
  simp only [pieces, step, if_pos hcontains, toNat_octet h, List.nil_append]

theorem pieces_opens {octet : UInt8} {pending : Pending} (rest : Bytes)
    (h : lead octet = .opens pending) :
    pieces none (octet :: rest) = pieces (some pending) rest := by
  simp only [pieces, step, begin, h, List.nil_append]

theorem lead_two {n : Nat} (h : 0xC2 ≤ n) (h' : n < 0xE0) :
    lead (UInt8.ofNat n) = .opens ⟨n - 0xC0, .continuation, []⟩ := by
  have hn := toNat_octet (show n < 256 by omega)
  simp only [lead, hn]
  rw [if_neg (by omega), if_neg (by omega), if_pos h']

theorem lead_three {n : Nat} (h : 0xE0 ≤ n) (h' : n < 0xF0) :
    ∃ second, lead (UInt8.ofNat n) = .opens ⟨n - 0xE0, second, [.continuation]⟩ ∧
      second.first.toNat = (if n = 0xE0 then 0xA0 else 0x80) ∧
      second.last.toNat = (if n = 0xED then 0x9F else 0xBF) := by
  have hn := toNat_octet (show n < 256 by omega)
  simp only [lead, hn]
  rw [if_neg (by omega), if_neg (by omega), if_neg (by omega), if_pos h']
  refine ⟨_, rfl, ?_, ?_⟩
  · split
    · rfl
    · split <;> rfl
  · split
    · next he => rw [if_neg (by omega)]; rfl
    · split <;> rfl

theorem lead_four {n : Nat} (h : 0xF0 ≤ n) (h' : n < 0xF5) :
    ∃ second, lead (UInt8.ofNat n) = .opens ⟨n - 0xF0, second, [.continuation, .continuation]⟩ ∧
      second.first.toNat = (if n = 0xF0 then 0x90 else 0x80) ∧
      second.last.toNat = (if n = 0xF4 then 0x8F else 0xBF) := by
  have hn := toNat_octet (show n < 256 by omega)
  simp only [lead, hn]
  rw [if_neg (by omega), if_neg (by omega), if_neg (by omega), if_neg (by omega), if_pos h']
  refine ⟨_, rfl, ?_, ?_⟩
  · split
    · rfl
    · split <;> rfl
  · split
    · next he => rw [if_neg (by omega)]; rfl
    · split <;> rfl

theorem lead_one {c : Char} (h : c.val.toNat < 0x80) :
    lead (UInt8.ofNat c.val.toNat) = .single c := by
  have hn := toNat_octet (show c.val.toNat < 256 by omega)
  have hchar : Char.ofNat c.val.toNat = c := Char.ofNat_toNat c
  simp only [lead, hn, if_pos h, hchar]

theorem continuation_first : OctetRange.continuation.first.toNat = 0x80 := rfl

theorem continuation_last : OctetRange.continuation.last.toNat = 0xBF := rfl

/-- The machine reads an encoded character as that character and is then where it was. -/
theorem pieces_encodeChar (c : Char) (rest : Bytes) :
    pieces none (String.utf8EncodeChar c ++ rest) = .char c :: pieces none rest := by
  -- A code point is no surrogate and not past the last one: that is what the ranges allow.
  have hvalid : c.val.toNat < 0xD800 ∨ 0xDFFF < c.val.toNat ∧ c.val.toNat < 0x110000 := c.valid
  have hchar {n : Nat} (h : n = c.val.toNat) : Char.ofNat n = c := by
    rw [h]
    exact Char.ofNat_toNat c
  rw [String.utf8EncodeChar]
  split
  · next h =>
    have hlead := lead_one (c := c) (by omega)
    simp only [List.cons_append, List.nil_append, pieces, step, begin, hlead]
  · split
    · rw [List.cons_append, pieces_opens _ (lead_two (by omega) (by omega)), List.cons_append,
        pieces_last _ (by omega) (by rw [continuation_first, continuation_last]; omega),
        List.nil_append, hchar (by omega)]
    · split
      · obtain ⟨second, hlead, hfirst, hlast⟩ :=
          lead_three (n := c.val.toNat / 4096 % 16 + 0xE0) (by omega) (by omega)
        rw [List.cons_append, pieces_opens _ hlead, List.cons_append,
          pieces_inner _ (by omega) (by rw [hfirst, hlast]; split <;> split <;> omega),
          List.cons_append,
          pieces_last _ (by omega) (by rw [continuation_first, continuation_last]; omega),
          List.nil_append, hchar (by omega)]
      · obtain ⟨second, hlead, hfirst, hlast⟩ :=
          lead_four (n := c.val.toNat / 262144 % 8 + 0xF0) (by omega) (by omega)
        rw [List.cons_append, pieces_opens _ hlead, List.cons_append,
          pieces_inner _ (by omega) (by rw [hfirst, hlast]; split <;> split <;> omega),
          List.cons_append,
          pieces_inner _ (by omega) (by rw [continuation_first, continuation_last]; omega),
          List.cons_append,
          pieces_last _ (by omega) (by rw [continuation_first, continuation_last]; omega),
          List.nil_append, hchar (by omega)]

theorem pieces_encode (text : Text) : pieces none (encode text) = text.map .char := by
  induction text with
  | nil => rfl
  | cons c text ih =>
    have hcons : encode (c :: text) = String.utf8EncodeChar c ++ encode text := List.flatMap_cons
    rw [hcons, pieces_encodeChar, ih, List.map_cons]

@[simp] theorem decodeLossy_encode (text : Text) : decodeLossy (encode text) = text := by
  rw [decodeLossy, pieces_encode, List.map_map]
  exact List.map_id text

@[simp] theorem isValid_encode (text : Text) : isValid (encode text) = true := by
  rw [isValid, pieces_encode, List.all_map, List.all_eq_true]
  intro c _
  rfl

theorem mem_encode_ascii {text : Text} {octet : UInt8} (hascii : octet.toNat < 0x80)
    (h : octet ∈ encode text) : Char.ofNat octet.toNat ∈ text := by
  obtain ⟨c, hc, hmem⟩ := List.mem_flatMap.1 h
  have hnot {n : Nat} (hn : 0x80 ≤ n) (hn' : n < 256) : octet ≠ UInt8.ofNat n := by
    intro he
    rw [he, toNat_octet hn'] at hascii
    omega
  rw [String.utf8EncodeChar] at hmem
  split at hmem
  · next hc' =>
    obtain rfl := List.mem_singleton.1 hmem
    rw [toNat_octet (by omega)]
    exact (Char.ofNat_toNat c).symm ▸ hc
  · have hno : octet ∉ ([] : Bytes) := List.not_mem_nil
    split at hmem
    · simp only [List.mem_cons, hno, or_false] at hmem
      rcases hmem with he | he
      · exact absurd he (hnot (by omega) (by omega))
      · exact absurd he (hnot (by omega) (by omega))
    · split at hmem
      · simp only [List.mem_cons, hno, or_false] at hmem
        rcases hmem with he | he | he
        all_goals exact absurd he (hnot (by omega) (by omega))
      · simp only [List.mem_cons, hno, or_false] at hmem
        rcases hmem with he | he | he | he
        all_goals exact absurd he (hnot (by omega) (by omega))

theorem encode_eq_nil_iff {text : Text} : encode text = [] ↔ text = [] := by
  constructor
  · intro h
    rw [← decodeLossy_encode text, h, decodeLossy_nil]
  · rintro rfl
    rfl

/-- A sequence under way that is well formed goes on with an octet in the range it asks for. -/
theorem exists_of_pending {pending : Pending} {bytes : Bytes}
    (h : .malformed ∉ pieces (some pending) bytes) :
    ∃ n rest, n < 256 ∧ bytes = UInt8.ofNat n :: rest ∧
      pending.missing.first.toNat ≤ n ∧ n ≤ pending.missing.last.toNat := by
  cases bytes with
  | nil => exact absurd List.mem_cons_self h
  | cons octet rest =>
    refine ⟨octet.toNat, rest, octet.toNat_lt, by rw [UInt8.ofNat_toNat], ?_⟩
    rw [← OctetRange.contains_iff]
    by_cases hcontains : pending.missing.contains octet = true
    · exact hcontains
    · simp only [pieces, step, if_neg hcontains, List.cons_append] at h
      exact absurd List.mem_cons_self h

theorem lead_invalid {n : Nat} (hn : n < 256) (h : 0x80 ≤ n ∧ n < 0xC2 ∨ 0xF5 ≤ n) :
    lead (UInt8.ofNat n) = .invalid := by
  simp only [lead, toNat_octet hn]
  rw [if_neg (by omega)]
  split
  · rfl
  · rw [if_neg (by omega), if_neg (by omega), if_neg (by omega)]

theorem toNat_ofNat {n : Nat} (h : n < 0xD800 ∨ 0xDFFF < n ∧ n < 0x110000) :
    (Char.ofNat n).val.toNat = n := by
  rw [Char.ofNat, dif_pos h]
  rfl

theorem encodeChar_two {n m v : Nat} (hv : v = (n - 0xC0) * 64 + m % 64)
    (hn : 0xC2 ≤ n ∧ n < 0xE0) (hm : 0x80 ≤ m ∧ m ≤ 0xBF) :
    String.utf8EncodeChar (Char.ofNat v) = [UInt8.ofNat n, UInt8.ofNat m] := by
  have hfirst : v / 64 % 32 + 192 = n := by omega
  have hlast : v % 64 + 128 = m := by omega
  rw [String.utf8EncodeChar, toNat_ofNat (by omega), if_neg (by omega), if_pos (by omega), hfirst,
    hlast]

theorem encodeChar_three {n m k v : Nat} (hv : v = ((n - 0xE0) * 64 + m % 64) * 64 + k % 64)
    (hn : 0xE0 ≤ n ∧ n < 0xF0)
    (hm : (if n = 0xE0 then 0xA0 else 0x80) ≤ m ∧ m ≤ if n = 0xED then 0x9F else 0xBF)
    (hk : 0x80 ≤ k ∧ k ≤ 0xBF) :
    String.utf8EncodeChar (Char.ofNat v) =
      [UInt8.ofNat n, UInt8.ofNat m, UInt8.ofNat k] := by
  have hbounds : 0x80 ≤ m ∧ m ≤ 0xBF ∧ (n = 0xE0 → 0xA0 ≤ m) ∧ (n = 0xED → m ≤ 0x9F) := by
    split at hm <;> split at hm <;> omega
  clear hm
  have hfirst : v / 4096 % 16 + 224 = n := by omega
  have hsecond : v / 64 % 64 + 128 = m := by omega
  have hlast : v % 64 + 128 = k := by omega
  rw [String.utf8EncodeChar, toNat_ofNat (by omega), if_neg (by omega), if_neg (by omega),
    if_pos (by omega), hfirst, hsecond, hlast]

theorem encodeChar_four {n m k l v : Nat}
    (hv : v = (((n - 0xF0) * 64 + m % 64) * 64 + k % 64) * 64 + l % 64) (hn : 0xF0 ≤ n ∧ n < 0xF5)
    (hm : (if n = 0xF0 then 0x90 else 0x80) ≤ m ∧ m ≤ if n = 0xF4 then 0x8F else 0xBF)
    (hk : 0x80 ≤ k ∧ k ≤ 0xBF) (hl : 0x80 ≤ l ∧ l ≤ 0xBF) :
    String.utf8EncodeChar (Char.ofNat v) =
      [UInt8.ofNat n, UInt8.ofNat m, UInt8.ofNat k, UInt8.ofNat l] := by
  have hbounds : 0x80 ≤ m ∧ m ≤ 0xBF ∧ (n = 0xF0 → 0x90 ≤ m) ∧ (n = 0xF4 → m ≤ 0x8F) := by
    split at hm <;> split at hm <;> omega
  clear hm
  have hfirst : v / 262144 % 8 + 240 = n := by omega
  have hsecond : v / 4096 % 64 + 128 = m := by omega
  have hthird : v / 64 % 64 + 128 = k := by omega
  have hlast : v % 64 + 128 = l := by omega
  rw [String.utf8EncodeChar, toNat_ofNat (by omega), if_neg (by omega), if_neg (by omega),
    if_neg (by omega), hfirst, hsecond, hthird, hlast]

theorem exists_encodeChar {octet : UInt8} {rest : Bytes}
    (h : .malformed ∉ pieces none (octet :: rest)) :
    ∃ c tail, octet :: rest = String.utf8EncodeChar c ++ tail := by
  obtain ⟨n, hn, rfl⟩ : ∃ n, n < 256 ∧ octet = UInt8.ofNat n :=
    ⟨octet.toNat, octet.toNat_lt, UInt8.ofNat_toNat.symm⟩
  -- The lead octet decides how many octets follow, and the machine accepts no others.
  have hlead : n < 0x80 ∨ (0xC2 ≤ n ∧ n < 0xE0) ∨ (0xE0 ≤ n ∧ n < 0xF0) ∨ (0xF0 ≤ n ∧ n < 0xF5) ∨
      (0x80 ≤ n ∧ n < 0xC2 ∨ 0xF5 ≤ n) := by omega
  rcases hlead with hone | htwo | hthree | hfour | hinvalid
  · refine ⟨Char.ofNat n, rest, ?_⟩
    rw [String.utf8EncodeChar, toNat_ofNat (by omega), if_pos (by omega)]
    rfl
  · rw [pieces_opens _ (lead_two htwo.1 htwo.2)] at h
    obtain ⟨m, rest, hm, rfl, hrange⟩ := exists_of_pending h
    have hencode := encodeChar_two rfl htwo hrange
    exact ⟨_, rest, by rw [hencode]; rfl⟩
  · obtain ⟨second, hlead, hfirst, hlast⟩ := lead_three hthree.1 hthree.2
    rw [pieces_opens _ hlead] at h
    obtain ⟨m, rest, hm, rfl, hrange⟩ := exists_of_pending h
    rw [pieces_inner _ hm hrange] at h
    obtain ⟨k, rest, hk, rfl, hrange'⟩ := exists_of_pending h
    rw [hfirst, hlast] at hrange
    have hencode := encodeChar_three rfl hthree hrange hrange'
    exact ⟨_, rest, by rw [hencode]; rfl⟩
  · obtain ⟨second, hlead, hfirst, hlast⟩ := lead_four hfour.1 hfour.2
    rw [pieces_opens _ hlead] at h
    obtain ⟨m, rest, hm, rfl, hrange⟩ := exists_of_pending h
    rw [pieces_inner _ hm hrange] at h
    obtain ⟨k, rest, hk, rfl, hrange'⟩ := exists_of_pending h
    rw [pieces_inner _ hk hrange'] at h
    obtain ⟨l, rest, hl, rfl, hrange''⟩ := exists_of_pending h
    rw [hfirst, hlast] at hrange
    have hencode := encodeChar_four rfl hfour hrange hrange' hrange''
    exact ⟨_, rest, by rw [hencode]; rfl⟩
  · simp only [pieces, step, begin, lead_invalid hn hinvalid, List.cons_append] at h
    exact absurd List.mem_cons_self h

theorem isValid_iff {bytes : Bytes} : isValid bytes = true ↔ .malformed ∉ pieces none bytes := by
  simp only [isValid, List.all_eq_true, bne_iff_ne, ne_eq]
  exact ⟨fun h hm => h _ hm rfl, fun h piece hm he => h (he ▸ hm)⟩

theorem exists_encode {bytes : Bytes} (h : isValid bytes = true) :
    ∃ text, encode text = bytes := by
  rw [isValid_iff] at h
  induction hlength : bytes.length using Nat.strongRecOn generalizing bytes with
  | _ n ih =>
    cases bytes with
    | nil => exact ⟨[], rfl⟩
    | cons octet rest =>
      obtain ⟨c, tail, he⟩ := exists_encodeChar h
      rw [he] at h hlength ⊢
      rw [pieces_encodeChar] at h
      have hshorter : tail.length < n := by
        have hpos : 0 < (String.utf8EncodeChar c).length := by
          rw [String.length_utf8EncodeChar]
          exact c.utf8Size_pos
        rw [← hlength, List.length_append]
        omega
      obtain ⟨text, rfl⟩ := ih _ hshorter (fun hm => h (List.mem_cons_of_mem _ hm)) rfl
      exact ⟨c :: text, List.flatMap_cons⟩

theorem isValid_iff_exists_encode {bytes : Bytes} :
    isValid bytes = true ↔ ∃ text, bytes = encode text := by
  constructor
  · intro h
    obtain ⟨text, rfl⟩ := exists_encode h
    exact ⟨text, rfl⟩
  · rintro ⟨text, rfl⟩
    exact isValid_encode text

theorem replacement_mem_decodeLossy {bytes : Bytes} (h : isValid bytes = false) :
    '\uFFFD' ∈ decodeLossy bytes := by
  rw [← Bool.not_eq_true, isValid_iff, Decidable.not_not] at h
  exact List.mem_map_of_mem h

/-- What is decoded without loss is what was encoded, and nothing else. -/
theorem decode?_eq_some_iff {bytes : Bytes} {text : Text} :
    decode? bytes = some text ↔ encode text = bytes := by
  constructor
  · intro h
    rw [decode?] at h
    split at h
    · next hvalid =>
      obtain ⟨other, rfl⟩ := exists_encode hvalid
      rw [decodeLossy_encode] at h
      rw [Option.some.inj h]
    · cases h
  · rintro rfl
    rw [decode?, isValid_encode, decodeLossy_encode, if_pos rfl]

end SuffixLint.Utf8
