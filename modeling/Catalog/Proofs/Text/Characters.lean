import Catalog.Text.Utf8

set_option autoImplicit false

namespace Catalog.Utf8

theorem between_byte {n low high : Nat} (small : n < 256) (lower : low < 256) (upper : high < 256) :
    (UInt8.ofNat low ≤ UInt8.ofNat n && UInt8.ofNat n < UInt8.ofNat high) = decide (low ≤ n ∧ n < high) := by
  simp only [UInt8.ofNat_le_iff_le lower small, UInt8.ofNat_lt_iff_lt small upper, Bool.decide_and]

theorem width_byte {n : Nat} (small : n < 256) :
    width (UInt8.ofNat n) =
      if n < 128 then 1 else if n < 194 then 0 else if n < 224 then 2 else if n < 240 then 3
      else if n < 245 then 4 else 0 := by
  have below (k : Nat) (bound : k < 256) := UInt8.ofNat_lt_iff_lt small bound
  simp only [← below 128 (by decide), ← below 194 (by decide), ← below 224 (by decide), ← below 240 (by decide),
    ← below 245 (by decide)]
  rfl

theorem isTail_byte {n : Nat} (small : n < 256) : isTail (UInt8.ofNat n) = decide (128 ≤ n ∧ n < 192) :=
  between_byte small (by decide) (by decide)

theorem isSecond_byte {n k : Nat} (small : n < 256) (bound : k < 256) :
    isSecond (UInt8.ofNat n) (UInt8.ofNat k) =
      if n = 224 then decide (160 ≤ k ∧ k < 192)
      else if n = 237 then decide (128 ≤ k ∧ k < 160)
      else if n = 240 then decide (144 ≤ k ∧ k < 192)
      else if n = 244 then decide (128 ≤ k ∧ k < 144)
      else decide (128 ≤ k ∧ k < 192) := by
  have same (lead : Nat) (fits : lead < 256) : UInt8.ofNat n = UInt8.ofNat lead ↔ n = lead := by
    rw [← UInt8.toNat_inj, UInt8.toNat_ofNat_of_lt' small, UInt8.toNat_ofNat_of_lt' fits]
  have within (low high : Nat) (lower : low < 256) (upper : high < 256) := between_byte bound lower upper
  simp only [← same 224 (by decide), ← same 237 (by decide), ← same 240 (by decide), ← same 244 (by decide),
    ← within 160 192 (by decide) (by decide), ← within 128 160 (by decide) (by decide),
    ← within 144 192 (by decide) (by decide), ← within 128 144 (by decide) (by decide), ← isTail_byte bound]
  rfl

section

variable {lead b c d : UInt8} (rest : List UInt8)

theorem next_one (leads : width lead = 1) : next lead rest = (.char (Char.ofNat lead.toNat), rest) := by
  simp [next, leads]

theorem next_two (leads : width lead = 2) (follows : isSecond lead b = true) :
    next lead (b :: rest) = (.char (two lead b), rest) := by
  simp [next, leads, follows]

theorem next_three (leads : width lead = 3) (follows : isSecond lead b = true) (ends : isTail c = true) :
    next lead (b :: c :: rest) = (.char (three lead b c), rest) := by
  simp [next, leads, follows, ends]

theorem next_four (leads : width lead = 4) (follows : isSecond lead b = true) (further : isTail c = true)
    (ends : isTail d = true) : next lead (b :: c :: d :: rest) = (.char (four lead b c d), rest) := by
  simp [next, leads, follows, further, ends]

end

theorem next_encodeChar (c : Char) (rest : List UInt8) :
    ∃ lead more, String.utf8EncodeChar c = lead :: more ∧ next lead (more ++ rest) = (.char c, rest) := by
  -- No character is a surrogate or beyond the last one, which is why the second byte is in its narrower range.
  have valid : c.val.toNat < 0xD800 ∨ 0xDFFF < c.val.toNat ∧ c.val.toNat < 0x110000 := c.valid
  have read (n : Nat) (same : n = c.val.toNat) : Char.ofNat n = c := by
    rw [same]
    exact Char.ofNat_toNat c
  have byte {n : Nat} (small : n < 256) : (UInt8.ofNat n).toNat = n := UInt8.toNat_ofNat_of_lt' small
  fun_cases String.utf8EncodeChar c with
  | case1 v one =>
    refine ⟨_, _, rfl, ?_⟩
    rw [List.nil_append, next_one, byte, read]
    · rfl
    · omega
    · rw [width_byte] <;> grind
  | case2 v one two =>
    refine ⟨_, _, rfl, ?_⟩
    rw [List.singleton_append, next_two, Utf8.two, byte, byte, read]
    · omega
    · omega
    · omega
    · rw [width_byte] <;> grind
    · rw [isSecond_byte] <;> grind
  | case3 v one two three =>
    refine ⟨_, _, rfl, ?_⟩
    rw [List.cons_append, List.singleton_append, next_three, Utf8.three, byte, byte, byte, read]
    · omega
    · omega
    · omega
    · omega
    · rw [width_byte] <;> grind
    · rw [isSecond_byte] <;> grind
    · rw [isTail_byte] <;> grind
  | case4 v one two three =>
    refine ⟨_, _, rfl, ?_⟩
    rw [List.cons_append, List.cons_append, List.singleton_append, next_four, Utf8.four, byte, byte, byte, byte, read]
    · omega
    · omega
    · omega
    · omega
    · omega
    · rw [width_byte] <;> grind
    · rw [isSecond_byte] <;> grind
    · rw [isTail_byte] <;> grind
    · rw [isTail_byte] <;> grind

theorem piecesAfter_encode (done : List Piece) (text : List Char) :
    piecesAfter done (encode text) = done.reverse ++ text.map Piece.char := by
  induction text generalizing done with
  | nil => simp [piecesAfter]
  | cons c rest ih =>
    obtain ⟨lead, more, bytes, cut⟩ := next_encodeChar c (encode rest)
    rw [encode_cons, bytes, List.cons_append, piecesAfter, cut, ih]
    simp

theorem join_char (index : Nat) (done text : List Char) :
    join index done (text.map Piece.char) = .ok (done.reverse ++ text) := by
  induction text generalizing index done with
  | nil => simp [join]
  | cons c rest ih => simp [join, ih]

theorem decode_encode (text : List Char) : decode (encode text) = .ok text := by
  rw [decode, pieces, piecesAfter_encode, List.reverse_nil, List.nil_append, join_char]
  rfl

theorem exists_byte (b : UInt8) : ∃ n, n < 256 ∧ b = UInt8.ofNat n :=
  ⟨b.toNat, b.toNat_lt, UInt8.ofNat_toNat.symm⟩

theorem toNat_byte {n : Nat} (small : n < 256) : (UInt8.ofNat n).toNat = n :=
  UInt8.toNat_ofNat_of_lt' small

theorem val_ofNat {n : Nat} (valid : n.isValidChar) : (Char.ofNat n).val.toNat = n := by
  rw [Char.ofNat, dif_pos valid]
  rfl

section

variable {lead b c d : UInt8}

theorem encodeChar_one (leads : width lead = 1) : String.utf8EncodeChar (Char.ofNat lead.toNat) = [lead] := by
  obtain ⟨n, small, rfl⟩ := exists_byte lead
  have ascii : n < 128 := by
    rw [width_byte small] at leads
    grind
  rw [String.utf8EncodeChar, toNat_byte small, val_ofNat (.inl (by omega))]
  simp only [if_pos (show n ≤ 127 by omega)]

theorem encodeChar_two (leads : width lead = 2) (follows : isSecond lead b = true) :
    String.utf8EncodeChar (two lead b) = [lead, b] := by
  obtain ⟨n, small, rfl⟩ := exists_byte lead
  obtain ⟨k, bound, rfl⟩ := exists_byte b
  have range : 194 ≤ n ∧ n < 224 := by
    rw [width_byte small] at leads
    grind
  have tail : 128 ≤ k ∧ k < 192 := by
    rw [isSecond_byte small bound] at follows
    grind
  rw [String.utf8EncodeChar, two, toNat_byte small, toNat_byte bound, val_ofNat (.inl (by omega))]
  rw [if_neg (by omega), if_pos (by omega)]
  have first : ((n - 0xC0) * 64 + (k - 0x80)) / 64 % 32 + 192 = n := by omega
  have second : ((n - 0xC0) * 64 + (k - 0x80)) % 64 + 128 = k := by omega
  rw [first, second]

theorem encodeChar_three (leads : width lead = 3) (follows : isSecond lead b = true) (ends : isTail c = true) :
    String.utf8EncodeChar (three lead b c) = [lead, b, c] := by
  obtain ⟨n, small, rfl⟩ := exists_byte lead
  obtain ⟨k, bound, rfl⟩ := exists_byte b
  obtain ⟨l, limit, rfl⟩ := exists_byte c
  have range : 224 ≤ n ∧ n < 240 := by
    rw [width_byte small] at leads
    grind
  have tail : 128 ≤ k ∧ k < 192 ∧ (n = 224 → 160 ≤ k) ∧ (n = 237 → k < 160) := by
    rw [isSecond_byte small bound] at follows
    grind
  have last : 128 ≤ l ∧ l < 192 := by
    rw [isTail_byte limit] at ends
    grind
  have valid : (((n - 0xE0) * 64 + (k - 0x80)) * 64 + (l - 0x80)).isValidChar := by
    unfold Nat.isValidChar
    omega
  rw [String.utf8EncodeChar, three, toNat_byte small, toNat_byte bound, toNat_byte limit, val_ofNat valid]
  rw [if_neg (by omega), if_neg (by omega), if_pos (by omega)]
  generalize number : ((n - 0xE0) * 64 + (k - 0x80)) * 64 + (l - 0x80) = v at valid
  have first : v / 4096 % 16 + 224 = n := by omega
  have second : v / 64 % 64 + 128 = k := by omega
  have third : v % 64 + 128 = l := by omega
  rw [first, second, third]

theorem encodeChar_four (leads : width lead = 4) (follows : isSecond lead b = true) (further : isTail c = true)
    (ends : isTail d = true) : String.utf8EncodeChar (four lead b c d) = [lead, b, c, d] := by
  obtain ⟨n, small, rfl⟩ := exists_byte lead
  obtain ⟨k, bound, rfl⟩ := exists_byte b
  obtain ⟨l, limit, rfl⟩ := exists_byte c
  obtain ⟨m, most, rfl⟩ := exists_byte d
  have range : 240 ≤ n ∧ n < 245 := by
    rw [width_byte small] at leads
    grind
  have tail : 128 ≤ k ∧ k < 192 ∧ (n = 240 → 144 ≤ k) ∧ (n = 244 → k < 144) := by
    rw [isSecond_byte small bound] at follows
    grind
  have third : 128 ≤ l ∧ l < 192 := by
    rw [isTail_byte limit] at further
    grind
  have last : 128 ≤ m ∧ m < 192 := by
    rw [isTail_byte most] at ends
    grind
  have valid : ((((n - 0xF0) * 64 + (k - 0x80)) * 64 + (l - 0x80)) * 64 + (m - 0x80)).isValidChar := by
    unfold Nat.isValidChar
    omega
  rw [String.utf8EncodeChar, four, toNat_byte small, toNat_byte bound, toNat_byte limit, toNat_byte most,
    val_ofNat valid]
  rw [if_neg (by omega), if_neg (by omega), if_neg (by omega)]
  generalize number : (((n - 0xF0) * 64 + (k - 0x80)) * 64 + (l - 0x80)) * 64 + (m - 0x80) = v at valid
  have first : v / 262144 % 8 + 240 = n := by omega
  have second : v / 4096 % 64 + 128 = k := by omega
  have third : v / 64 % 64 + 128 = l := by omega
  have fourth : v % 64 + 128 = m := by omega
  rw [first, second, third, fourth]

end

theorem encodeChar_next {lead : UInt8} {rest after : List UInt8} {c : Char}
    (read : next lead rest = (.char c, after)) : String.utf8EncodeChar c ++ after = lead :: rest := by
  fun_cases next lead rest with
  | case1 _ leads =>
    obtain ⟨char, rfl⟩ := Prod.mk.inj ((next_one rest leads).symm.trans read)
    rw [← Piece.char.inj char, encodeChar_one leads]
    rfl
  | case3 b after' leads follows =>
    obtain ⟨char, rfl⟩ := Prod.mk.inj ((next_two _ leads follows).symm.trans read)
    rw [← Piece.char.inj char, encodeChar_two leads follows]
    rfl
  | case7 b leads follows c' after' ends =>
    obtain ⟨char, rfl⟩ := Prod.mk.inj ((next_three _ leads follows ends).symm.trans read)
    rw [← Piece.char.inj char, encodeChar_three leads follows ends]
    rfl
  | case13 b leads follows c' further d after' ends =>
    obtain ⟨char, rfl⟩ := Prod.mk.inj ((next_four _ leads follows further ends).symm.trans read)
    rw [← Piece.char.inj char, encodeChar_four leads follows further ends]
    rfl
  | _ => simp_all [next]

theorem join_eq_ok {index : Nat} {done text : List Char} {pieces : List Piece}
    (joined : join index done pieces = .ok text) :
    ∃ more, text = done.reverse ++ more ∧ pieces = more.map Piece.char := by
  induction pieces generalizing index done with
  | nil => exact ⟨[], by simpa [join] using (Except.ok.inj joined).symm, rfl⟩
  | cons piece rest ih =>
    cases piece with
    | char c =>
      obtain ⟨more, rfl, rfl⟩ := ih joined
      exact ⟨c :: more, by simp, rfl⟩
    | bad length => cases joined
    | cut length => cases joined

theorem piecesAfter_eq (done : List Piece) (bytes : List UInt8) :
    piecesAfter done bytes = done.reverse ++ pieces bytes := by
  unfold pieces
  match bytes with
  | [] => simp [piecesAfter]
  | lead :: rest =>
    have shorter := next_length_le lead rest
    have later (done : List Piece) := piecesAfter_eq done (next lead rest).2
    rw [piecesAfter, piecesAfter, later, later [_]]
    simp
  termination_by bytes.length
  decreasing_by simp; omega

theorem pieces_cons (lead : UInt8) (rest : List UInt8) :
    pieces (lead :: rest) = (next lead rest).1 :: pieces (next lead rest).2 := by
  rw [pieces, piecesAfter, piecesAfter_eq]
  rfl

theorem encode_of_pieces {bytes : List UInt8} {text : List Char} (cut : pieces bytes = text.map Piece.char) :
    encode text = bytes := by
  induction text generalizing bytes with
  | nil =>
    cases bytes with
    | nil => rfl
    | cons lead rest => simp [pieces_cons] at cut
  | cons c text ih =>
    cases bytes with
    | nil => simp [pieces, piecesAfter] at cut
    | cons lead rest =>
      rw [pieces_cons, List.map_cons] at cut
      obtain ⟨first, later⟩ := List.cons.inj cut
      rw [encode_cons, ih later]
      exact encodeChar_next (Prod.ext first rfl)

theorem decode_eq_ok_iff (bytes : List UInt8) (text : List Char) : decode bytes = .ok text ↔ encode text = bytes := by
  constructor
  · intro decoded
    obtain ⟨more, rfl, cut⟩ := join_eq_ok decoded
    exact encode_of_pieces cut
  · rintro rfl
    exact decode_encode text

end Catalog.Utf8
