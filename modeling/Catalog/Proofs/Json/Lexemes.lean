import Catalog.Proofs.Json.Meanings
import Catalog.Proofs.Text.Characters

set_option autoImplicit false

namespace Catalog.Json

theorem toOption_bind {ε α β : Type} (first : Except ε α) (next : α → Except ε β) :
    (first >>= next).toOption = first.toOption.bind fun x => (next x).toOption := by
  cases first <;> rfl

@[simp] theorem toOption_ok {ε α : Type} (x : α) : (Except.ok x : Except ε α).toOption = some x := rfl

@[simp] theorem toOption_stop {α : Type} (cause : Cause) (left : Bytes) :
    (stop cause left : Except Fault α).toOption = none := rfl

@[simp] theorem toOption_stopAt {α : Type} (cause : Cause) (left : Bytes) :
    (stopAt cause left : Except Fault α).toOption = none := rfl

theorem toOption_eq_some {ε α : Type} {result : Except ε α} {x : α} : result.toOption = some x ↔ result = .ok x := by
  cases result <;> simp [Except.toOption]

def byteOf (c : Char) : UInt8 :=
  UInt8.ofNat c.toNat

theorem encodeChar_ascii {c : Char} (ascii : c.toNat < 128) : String.utf8EncodeChar c = [byteOf c] := by
  have small : c.val.toNat ≤ 127 := Nat.le_of_lt_succ ascii
  rw [String.utf8EncodeChar]
  simp only [if_pos small]
  rfl

section blanks

@[simp] theorem skipBlanks_blanks (blanks : Blanks) (left : Bytes) :
    skipBlanks (blankBytes blanks ++ left) = skipBlanks left := by
  induction blanks with
  | nil => rfl
  | cons blank rest ih =>
    cases blank <;> exact ih

theorem skipBlanks_cons {b : UInt8} (mark : isBlank b = false) (left : Bytes) : skipBlanks (b :: left) = b :: left := by
  simp [skipBlanks, mark]

def ends : Bytes → Bool
  | [] => true
  | b :: _ => isBlank b || b = comma || b = closeList || b = closeObject

theorem ends_blanks (blanks : Blanks) {rest : Bytes} (ended : ends rest = true) :
    ends (blankBytes blanks ++ rest) = true := by
  cases blanks with
  | nil => exact ended
  | cons blank more => cases blank <;> rfl

theorem word_append (expected left : Bytes) : word expected (expected ++ left) = .ok left := by
  induction expected with
  | nil => cases left <;> rfl
  | cons b more ih => simpa [word] using ih

end blanks

section strings

def hexByte (digit : HexDigit) : UInt8 :=
  byteOf digit.char

theorem hexDigit_table : ∀ value : Fin 16, ∀ isUpper : Bool,
    (HexDigit.char ⟨value, isUpper⟩).toNat < 128 ∧ hexDigit? (hexByte ⟨value, isUpper⟩) = some value.val := by
  decide

theorem encodeChar_hex (digit : HexDigit) : String.utf8EncodeChar digit.char = [hexByte digit] :=
  encodeChar_ascii (hexDigit_table digit.value digit.isUpper).1

theorem hexDigit?_hexByte (digit : HexDigit) : hexDigit? (hexByte digit) = some digit.value.val :=
  (hexDigit_table digit.value digit.isUpper).2

def Quad.bytes (quad : Quad) : Bytes :=
  [hexByte quad.first, hexByte quad.second, hexByte quad.third, hexByte quad.fourth]

theorem hexQuad_bytes (quad : Quad) (left : Bytes) : hexQuad (quad.bytes ++ left) = .ok (quad.number, left) := by
  simp only [Quad.bytes, List.cons_append, List.nil_append, hexQuad, hexDigit?_hexByte]
  rfl

def Letter.byte (letter : Letter) : UInt8 :=
  byteOf letter.mark

theorem letterEscape?_byte (letter : Letter) : letterEscape? letter.byte = some letter.char := by
  cases letter <;> rfl

section marks

variable (rest : List Mark)

theorem markBytes_plain {c : Char} (stands : IsPlain c) :
    markBytes (.plain c stands :: rest) = String.utf8EncodeChar c ++ markBytes rest := by
  simp [markBytes, Mark.write]

theorem markBytes_short (letter : Letter) :
    markBytes (.short letter :: rest) = backslash :: letter.byte :: markBytes rest := by
  have mark : String.utf8EncodeChar letter.mark = [letter.byte] := by
    cases letter <;> rfl
  have escape : String.utf8EncodeChar '\\' = [backslash] := rfl
  simp [markBytes, Mark.write, mark, escape]

theorem markBytes_numbered (quad : Quad) :
    markBytes (.numbered quad :: rest) = backslash :: 117 :: (quad.bytes ++ markBytes rest) := by
  have escape : String.utf8EncodeChar '\\' = [backslash] := rfl
  have mark : String.utf8EncodeChar 'u' = [117] := rfl
  simp [markBytes, Mark.write, mark, escape, encodeChar_hex, Quad.bytes]

end marks

def isContent (b : UInt8) : Bool :=
  b != quote && b != backslash && !(b < 32)

theorem isContent_byte {n : Nat} (small : n < 256) (notQuote : n ≠ 34) (notBackslash : n ≠ 92) (visible : 32 ≤ n) :
    isContent (UInt8.ofNat n) = true := by
  have same (k : Nat) (fits : k < 256) : UInt8.ofNat n = UInt8.ofNat k ↔ n = k := by
    rw [← UInt8.toNat_inj, UInt8.toNat_ofNat_of_lt' small, UInt8.toNat_ofNat_of_lt' fits]
  have first : UInt8.ofNat n ≠ quote := fun equal => notQuote ((same 34 (by decide)).1 equal)
  have second : UInt8.ofNat n ≠ backslash := fun equal => notBackslash ((same 92 (by decide)).1 equal)
  have third : ¬ UInt8.ofNat n < 32 := by
    rw [show (32 : UInt8) = UInt8.ofNat 32 from rfl, UInt8.ofNat_lt_iff_lt small (by decide)]
    omega
  simp [isContent, first, second, third]

theorem isContent_encodeChar {c : Char} (stands : IsPlain c) : ∀ b ∈ String.utf8EncodeChar c, isContent b = true := by
  obtain ⟨notQuote, notBackslash, visible⟩ := stands
  have first : c.val.toNat ≠ 34 := fun same => notQuote (Char.toNat_inj.1 same)
  have second : c.val.toNat ≠ 92 := fun same => notBackslash (Char.toNat_inj.1 same)
  have third : 32 ≤ c.val.toNat := visible
  have valid : c.val.toNat < 0xD800 ∨ 0xDFFF < c.val.toNat ∧ c.val.toNat < 0x110000 := c.valid
  have high {n : Nat} (least : 128 ≤ n) (small : n < 256) : isContent (UInt8.ofNat n) = true :=
    isContent_byte small (by omega) (by omega) (by omega)
  fun_cases String.utf8EncodeChar c <;>
    simp only [List.forall_mem_cons, List.not_mem_nil, false_implies, implies_true, and_true]
  case case1 => exact isContent_byte (by omega) first second third
  case case2 => exact ⟨high (by omega) (by omega), high (by omega) (by omega)⟩
  case case3 => exact ⟨high (by omega) (by omega), high (by omega) (by omega), high (by omega) (by omega)⟩
  case case4 =>
    exact ⟨high (by omega) (by omega), high (by omega) (by omega), high (by omega) (by omega),
      high (by omega) (by omega)⟩

theorem contentFrom_quote (fuel : Nat) (done rest : Bytes) :
    contentFrom (fuel + 1) done (quote :: rest) = .ok (done.reverse, rest) := rfl

theorem contentFrom_content {bytes : Bytes} (stands : ∀ b ∈ bytes, isContent b = true) (fuel : Nat)
    (done left : Bytes) :
    contentFrom (fuel + bytes.length) done (bytes ++ left) = contentFrom fuel (bytes.reverse ++ done) left := by
  induction bytes generalizing done with
  | nil => rfl
  | cons b more ih =>
    obtain ⟨content, later⟩ := List.forall_mem_cons.1 stands
    simp only [isContent, Bool.and_eq_true, bne_iff_ne, Bool.not_eq_true', decide_eq_false_iff_not] at content
    rw [List.length_cons, ← Nat.add_assoc, List.cons_append, contentFrom, if_neg content.1.1, if_neg content.1.2,
      if_neg content.2, ih later]
    simp

theorem contentFrom_escape (fuel : Nat) (done left : Bytes) :
    (contentFrom (fuel + 1) done (backslash :: left)).toOption =
      (escape left).toOption.bind fun result =>
        (contentFrom fuel ((String.utf8EncodeChar result.1).reverse ++ done) result.2).toOption := by
  rw [contentFrom, if_neg (by decide), if_pos rfl]
  cases escape left <;> rfl

theorem escape_short (letter : Letter) (left : Bytes) : escape (letter.byte :: left) = .ok (letter.char, left) := by
  simp [escape, letterEscape?_byte]

theorem escape_numbered (quad : Quad) (left : Bytes) :
    escape (117 :: (quad.bytes ++ left)) =
      if isTrailing quad.number then stop .loneSurrogate left
      else if isLeading quad.number then secondHalf quad.number left
      else .ok (Char.ofNat quad.number, left) := by
  have free : letterEscape? 117 = none := rfl
  simp [escape, free, hexQuad_bytes, bind, Except.bind]

theorem secondHalf_numbered (leading : Nat) (quad : Quad) (left : Bytes) :
    secondHalf leading (backslash :: 117 :: (quad.bytes ++ left)) =
      if isTrailing quad.number then
        .ok (Char.ofNat ((leading - 0xD800) * 1024 + (quad.number - 0xDC00) + 0x10000), left)
      else stop .loneSurrogate left := by
  simp [secondHalf, hexQuad_bytes, bind, Except.bind]

theorem secondHalf_other (leading : Nat) {left : Bytes} (other : ∀ after, left ≠ backslash :: 117 :: after) :
    (secondHalf leading left).toOption = none := by
  fun_cases secondHalf leading left with
  | case3 after => exact absurd rfl (other after)
  | _ => rfl

-- No other mark starts as a numbered escape does, so half of a pair is seen to stand alone.
theorem markBytes_ne_numbered {marks : List Mark} (other : ∀ quad rest, marks ≠ .numbered quad :: rest)
    (left after : Bytes) : markBytes marks ++ quote :: left ≠ backslash :: 117 :: after := by
  intro same
  match marks with
  | [] => cases same
  | .plain c stands :: rest =>
    rw [markBytes_plain] at same
    have content := isContent_encodeChar stands
    cases bytes : String.utf8EncodeChar c with
    | nil => exact String.utf8EncodeChar_ne_nil bytes
    | cons b more =>
      rw [bytes] at same content
      obtain ⟨rfl, -⟩ := List.cons.inj same
      exact absurd (content _ (List.mem_cons_self ..)) (by decide)
  | .short letter :: rest =>
    rw [markBytes_short] at same
    obtain ⟨-, rest⟩ := List.cons.inj same
    have escape : letter.byte = 117 := (List.cons.inj rest).1
    exact absurd escape (by cases letter <;> decide)
  | .numbered quad :: rest => exact other quad rest rfl

theorem contentFrom_marks {fuel : Nat} (done : Bytes) (marks : List Mark) (rest : Bytes)
    (enough : (markBytes marks ++ quote :: rest).length < fuel) :
    (contentFrom fuel done (markBytes marks ++ quote :: rest)).toOption =
      (textOf? marks).map fun chars => (done.reverse ++ Utf8.encode chars, rest) := by
  -- The cases are those of the meaning: a pair of escapes is taken in one step.
  fun_induction textOf? marks generalizing fuel done with
  | case1 =>
    obtain ⟨fuel, rfl⟩ := Nat.exists_eq_add_one_of_ne_zero (Nat.ne_zero_of_lt enough)
    simp [contentFrom_quote, markBytes]
  | case2 c stands marks ih =>
    rw [markBytes_plain, List.append_assoc] at enough ⊢
    rw [List.length_append] at enough
    obtain ⟨fuel, rfl⟩ := Nat.exists_eq_add_of_le' (show (String.utf8EncodeChar c).length ≤ fuel by omega)
    rw [contentFrom_content (isContent_encodeChar stands), ih _ (by omega), Option.map_map]
    simp [Function.comp_def]
  | case3 letter marks ih =>
    rw [markBytes_short, List.cons_append, List.cons_append] at enough ⊢
    rw [List.length_cons, List.length_cons] at enough
    obtain ⟨fuel, rfl⟩ := Nat.exists_eq_add_one_of_ne_zero (Nat.ne_zero_of_lt enough)
    rw [contentFrom_escape, escape_short, toOption_ok, Option.bind_some, ih _ (by omega), Option.map_map]
    simp [Function.comp_def]
  | case4 quad marks trailing =>
    rw [markBytes_numbered, List.cons_append, List.cons_append, List.append_assoc] at enough ⊢
    obtain ⟨fuel, rfl⟩ := Nat.exists_eq_add_one_of_ne_zero (Nat.ne_zero_of_lt enough)
    rw [contentFrom_escape, escape_numbered, if_pos trailing]
    rfl
  | case5 quad first leading second marks trailing ih =>
    rw [markBytes_numbered, markBytes_numbered] at enough ⊢
    simp only [List.cons_append, List.append_assoc, List.length_cons, List.length_append] at enough ⊢
    obtain ⟨fuel, rfl⟩ := Nat.exists_eq_add_one_of_ne_zero (Nat.ne_zero_of_lt enough)
    rw [contentFrom_escape, escape_numbered, if_neg first, if_pos leading, secondHalf_numbered, if_pos trailing,
      toOption_ok, Option.bind_some, ih _ (by rw [List.length_append, List.length_cons]; omega), Option.map_map]
    simp [Function.comp_def]
  | case6 quad first leading second marks other =>
    rw [markBytes_numbered, markBytes_numbered] at enough ⊢
    simp only [List.cons_append, List.append_assoc] at enough ⊢
    obtain ⟨fuel, rfl⟩ := Nat.exists_eq_add_one_of_ne_zero (Nat.ne_zero_of_lt enough)
    rw [contentFrom_escape, escape_numbered, if_neg first, if_pos leading, secondHalf_numbered, if_neg other]
    rfl
  | case7 quad marks first leading other =>
    rw [markBytes_numbered, List.cons_append, List.cons_append, List.append_assoc] at enough ⊢
    obtain ⟨fuel, rfl⟩ := Nat.exists_eq_add_one_of_ne_zero (Nat.ne_zero_of_lt enough)
    rw [contentFrom_escape, escape_numbered, if_neg first, if_pos leading,
      secondHalf_other _ (markBytes_ne_numbered other rest)]
    rfl
  | case8 quad marks first single ih =>
    rw [markBytes_numbered] at enough ⊢
    simp only [List.cons_append, List.append_assoc, List.length_cons, List.length_append] at enough ⊢
    obtain ⟨fuel, rfl⟩ := Nat.exists_eq_add_one_of_ne_zero (Nat.ne_zero_of_lt enough)
    rw [contentFrom_escape, escape_numbered, if_neg first, if_neg single, toOption_ok, Option.bind_some,
      ih _ (by rw [List.length_append, List.length_cons]; omega), Option.map_map]
    simp [Function.comp_def]

theorem text_marks (marks : List Mark) (rest : Bytes) :
    (text (markBytes marks ++ quote :: rest)).toOption =
      (textOf? marks).map fun chars => (String.ofList chars, rest) := by
  have content := contentFrom_marks [] marks rest (Nat.lt_succ_self _)
  rw [text, toOption_bind, content]
  cases textOf? marks with
  | none => rfl
  | some chars => simp [Utf8.decode_encode]

theorem skipEscape_short (letter : Letter) (left : Bytes) : skipEscape (letter.byte :: left) = .ok left := by
  simp [skipEscape, letterEscape?_byte]

theorem skipEscape_numbered (quad : Quad) (left : Bytes) : skipEscape (117 :: (quad.bytes ++ left)) = .ok left := by
  have free : letterEscape? 117 = none := rfl
  simp [skipEscape, free, hexQuad_bytes, bind, Except.bind]

theorem skipTextFrom_content {bytes : Bytes} (stands : ∀ b ∈ bytes, isContent b = true) (fuel : Nat) (left : Bytes) :
    skipTextFrom (fuel + bytes.length) (bytes ++ left) = skipTextFrom fuel left := by
  induction bytes with
  | nil => rfl
  | cons b more ih =>
    obtain ⟨content, later⟩ := List.forall_mem_cons.1 stands
    simp only [isContent, Bool.and_eq_true, bne_iff_ne, Bool.not_eq_true', decide_eq_false_iff_not] at content
    rw [List.length_cons, ← Nat.add_assoc, List.cons_append, skipTextFrom, if_neg content.1.1, if_neg content.1.2,
      if_neg content.2, ih later]

theorem skipTextFrom_marks {fuel : Nat} (marks : List Mark) (rest : Bytes)
    (enough : (markBytes marks ++ quote :: rest).length < fuel) :
    skipTextFrom fuel (markBytes marks ++ quote :: rest) = .ok rest := by
  induction marks generalizing fuel with
  | nil =>
    obtain ⟨fuel, rfl⟩ := Nat.exists_eq_add_one_of_ne_zero (Nat.ne_zero_of_lt enough)
    rfl
  | cons mark marks ih =>
    cases mark with
    | plain c stands =>
      rw [markBytes_plain, List.append_assoc] at enough ⊢
      rw [List.length_append] at enough
      obtain ⟨fuel, rfl⟩ := Nat.exists_eq_add_of_le' (show (String.utf8EncodeChar c).length ≤ fuel by omega)
      rw [skipTextFrom_content (isContent_encodeChar stands), ih (by omega)]
    | short letter =>
      rw [markBytes_short, List.cons_append, List.cons_append] at enough ⊢
      rw [List.length_cons, List.length_cons] at enough
      obtain ⟨fuel, rfl⟩ := Nat.exists_eq_add_one_of_ne_zero (Nat.ne_zero_of_lt enough)
      simp only [skipTextFrom, skipEscape_short]
      exact ih (by omega)
    | numbered quad =>
      rw [markBytes_numbered] at enough ⊢
      simp only [List.cons_append, List.append_assoc, List.length_cons, List.length_append] at enough ⊢
      obtain ⟨fuel, rfl⟩ := Nat.exists_eq_add_one_of_ne_zero (Nat.ne_zero_of_lt enough)
      simp only [skipTextFrom, skipEscape_numbered]
      exact ih (by rw [List.length_append, List.length_cons]; omega)

theorem skipText_marks (marks : List Mark) (rest : Bytes) : skipText (markBytes marks ++ quote :: rest) = .ok rest :=
  skipTextFrom_marks marks rest (Nat.lt_succ_self _)

end strings

end Catalog.Json
