import Catalog.Proofs.Json.Lexemes

set_option autoImplicit false

namespace Catalog.Json

def digitByte (digit : Fin 10) : UInt8 :=
  byteOf (Nat.digitChar digit.val)

theorem digit_table : ∀ digit : Fin 10, (Nat.digitChar digit.val).toNat < 128 ∧ isDigit (digitByte digit) = true ∧
    digitOf (digitByte digit) = digit.val ∧ (digitByte digit = 48 ↔ digit = 0) := by
  decide

@[simp] theorem isDigit_digitByte (digit : Fin 10) : isDigit (digitByte digit) = true :=
  (digit_table digit).2.1

@[simp] theorem digitOf_digitByte (digit : Fin 10) : digitOf (digitByte digit) = digit.val :=
  (digit_table digit).2.2.1

theorem digitByte_eq_zero (digit : Fin 10) : digitByte digit = 48 ↔ digit = 0 :=
  (digit_table digit).2.2.2

def Digits.bytes (digits : Digits) : Bytes :=
  digits.all.map digitByte

theorem encode_digits (digits : List (Fin 10)) :
    Utf8.encode (digits.map fun digit => Nat.digitChar digit.val) = digits.map digitByte := by
  induction digits with
  | nil => rfl
  | cons digit rest ih =>
    rw [List.map_cons, Utf8.encode_cons, encodeChar_ascii (digit_table digit).1, ih]
    rfl

theorem encode_digits_write (digits : Digits) : Utf8.encode digits.write = digits.bytes :=
  encode_digits digits.all

theorem digitsBytes_eq (digits : Digits) : digits.bytes = digitByte digits.first :: digits.more.map digitByte := rfl

section runs

variable {left : Bytes} (foreign : startsWithDigit left = false)

include foreign

theorem takeWhile_digits (digits : List (Fin 10)) :
    (digits.map digitByte ++ left).takeWhile isDigit = digits.map digitByte := by
  have stops : left.takeWhile isDigit = [] := by
    cases left with
    | nil => rfl
    | cons b more => exact List.takeWhile_cons_of_neg (by simpa [startsWithDigit] using foreign)
  rw [List.takeWhile_append_of_pos (by simp), stops, List.append_nil]

theorem dropWhile_digits (digits : List (Fin 10)) : (digits.map digitByte ++ left).dropWhile isDigit = left := by
  have stops : left.dropWhile isDigit = left := by
    cases left with
    | nil => rfl
    | cons b more => exact List.dropWhile_cons_of_neg (by simpa [startsWithDigit] using foreign)
  rw [List.dropWhile_append_of_pos (by simp), stops]

theorem wholeDigits_bytes (atEnd : Cause) (whole : Whole) :
    wholeDigits atEnd (whole.bytes ++ left) = .ok (whole.bytes, left) := by
  rw [digitsBytes_eq, List.cons_append, wholeDigits]
  by_cases zero : whole.first = 0
  · rw [if_pos ((digitByte_eq_zero _).2 zero), whole.canonical zero]
    simp [foreign]
  · rw [if_neg (mt (digitByte_eq_zero _).1 zero), if_pos (isDigit_digitByte _), takeWhile_digits foreign,
      dropWhile_digits foreign]

theorem exponentDigits_bytes (atEnd : Cause) (isNegative : Bool) (digits : Digits) :
    exponentDigits atEnd isNegative (digits.bytes ++ left) = .ok (some ⟨isNegative, digits.bytes⟩, left) := by
  rw [digitsBytes_eq, List.cons_append, exponentDigits, if_pos (isDigit_digitByte _), takeWhile_digits foreign,
    dropWhile_digits foreign]

end runs

def fractionBytes : Option Digits → Bytes
  | none => []
  | some digits => 46 :: digits.bytes

def signBytes : Option Bool → Bytes
  | none => []
  | some false => [43]
  | some true => [45]

def exponentBytes : Option ExponentLiteral → Bytes
  | none => []
  | some exponent => (if exponent.isUpper then 69 else 101) :: (signBytes exponent.sign ++ exponent.digits.bytes)

theorem encode_fraction (fraction : Option Digits) : Utf8.encode (writeFraction fraction) = fractionBytes fraction := by
  cases fraction with
  | none => rfl
  | some digits =>
    have mark : String.utf8EncodeChar '.' = [46] := rfl
    rw [writeFraction, Utf8.encode_cons, encode_digits_write, mark]
    rfl

theorem encode_exponent (exponent : Option ExponentLiteral) :
    Utf8.encode (writeExponent exponent) = exponentBytes exponent := by
  cases exponent with
  | none => rfl
  | some exponent =>
    obtain ⟨isUpper, sign, digits⟩ := exponent
    simp only [writeExponent, ExponentLiteral.write, Utf8.encode_append, encode_digits_write]
    rcases isUpper with _ | _ <;> rcases sign with _ | _ | _ <;> rfl

def NumberLiteral.unsignedBytes (n : NumberLiteral) : Bytes :=
  n.whole.bytes ++ (fractionBytes n.fraction ++ exponentBytes n.exponent)

theorem bytes_number (n : NumberLiteral) :
    (Literal.number n).bytes = if n.isNegative then minus :: n.unsignedBytes else n.unsignedBytes := by
  simp only [Literal.bytes, Literal.write, NumberLiteral.write, Utf8.encode_append, encode_digits_write,
    encode_fraction, encode_exponent, NumberLiteral.unsignedBytes, List.append_assoc]
  cases n.isNegative <;> rfl

def NumberLiteral.numeral (n : NumberLiteral) : Numeral where
  isNegative := n.isNegative
  whole := n.whole.bytes
  fraction := n.fraction.map Digits.bytes
  exponent := n.exponent.map fun exponent => ⟨exponent.sign = some true, exponent.digits.bytes⟩

theorem digitByte_ne (digit : Fin 10) {b : UInt8} (foreign : isDigit b = false) : digitByte digit ≠ b := by
  rintro rfl
  exact absurd (isDigit_digitByte digit) (by simp [foreign])

theorem exponentPart_unsigned (atEnd : Cause) (mark : UInt8) (digits : Digits) (left : Bytes)
    (marks : (mark = 101 || mark = 69) = true) :
    exponentPart atEnd (mark :: (digits.bytes ++ left)) = exponentDigits atEnd false (digits.bytes ++ left) := by
  have other {b : UInt8} (foreign : isDigit b = false) (after : Bytes) : digits.bytes ++ left ≠ b :: after :=
    fun same => digitByte_ne digits.first foreign (List.cons.inj same).1
  rw [exponentPart, if_pos marks]
  · exact other (by decide)
  · exact other (by decide)

section reading

variable {rest : Bytes} (ended : ends rest = true)

include ended

-- What may follow a value continues no number.
theorem foreign_of_ends {b : UInt8} {more : Bytes} (head : rest = b :: more) :
    isDigit b = false ∧ b ≠ 46 ∧ b ≠ 101 ∧ b ≠ 69 := by
  subst head
  simp only [ends, isBlank, Bool.or_eq_true, decide_eq_true_eq] at ended
  rcases ended with (((((rfl | rfl) | rfl) | rfl) | rfl) | rfl) | rfl <;> decide

theorem startsWithDigit_ends : startsWithDigit rest = false := by
  cases given : rest with
  | nil => rfl
  | cons b more => exact (foreign_of_ends ended given).1

theorem exponentPart_none (atEnd : Cause) : exponentPart atEnd rest = .ok (none, rest) := by
  cases given : rest with
  | nil => rfl
  | cons b more =>
    obtain ⟨-, -, notLower, notUpper⟩ := foreign_of_ends ended given
    unfold exponentPart
    simp [notLower, notUpper]

theorem exponentPart_bytes (atEnd : Cause) (exponent : Option ExponentLiteral) :
    exponentPart atEnd (exponentBytes exponent ++ rest) =
      .ok (exponent.map fun exponent => ⟨exponent.sign = some true, exponent.digits.bytes⟩, rest) := by
  cases exponent with
  | none => exact exponentPart_none ended atEnd
  | some exponent =>
    obtain ⟨isUpper, sign, digits⟩ := exponent
    have read (isNegative : Bool) := exponentDigits_bytes (startsWithDigit_ends ended) atEnd isNegative digits
    have unsigned := exponentPart_unsigned atEnd (if isUpper then 69 else 101) digits rest
    rcases isUpper with _ | _ <;> rcases sign with _ | _ | _
    all_goals first | exact read false | exact read true | exact (unsigned (by decide)).trans (read false)

-- What follows the fraction is no digit and no point.
theorem exponentBytes_head (exponent : Option ExponentLiteral) {b : UInt8} {more : Bytes}
    (head : exponentBytes exponent ++ rest = b :: more) : isDigit b = false ∧ b ≠ 46 := by
  cases exponent with
  | none =>
    obtain ⟨foreign, notPoint, -⟩ := foreign_of_ends ended head
    exact ⟨foreign, notPoint⟩
  | some exponent =>
    obtain ⟨rfl, -⟩ := List.cons.inj head
    cases exponent.isUpper <;> decide

theorem startsWithDigit_exponent (exponent : Option ExponentLiteral) :
    startsWithDigit (exponentBytes exponent ++ rest) = false := by
  cases given : exponentBytes exponent ++ rest with
  | nil => rfl
  | cons b more => exact (exponentBytes_head ended exponent given).1

theorem fractionDigits_bytes (atEnd : Cause) (fraction : Option Digits) (exponent : Option ExponentLiteral) :
    fractionDigits atEnd (fractionBytes fraction ++ (exponentBytes exponent ++ rest)) =
      .ok (fraction.map Digits.bytes, exponentBytes exponent ++ rest) := by
  cases fraction with
  | none =>
    rw [fractionBytes, List.nil_append]
    cases given : exponentBytes exponent ++ rest with
    | nil => rfl
    | cons b more =>
      obtain ⟨-, notPoint⟩ := exponentBytes_head ended exponent given
      rw [fractionDigits]
      · rfl
      · exact fun same => notPoint (List.cons.inj same).1
      · exact fun left same => notPoint (List.cons.inj same).1
  | some digits =>
    have stops := startsWithDigit_exponent ended exponent
    have run := takeWhile_digits stops digits.all
    have after := dropWhile_digits stops digits.all
    have starts : startsWithDigit (digits.bytes ++ (exponentBytes exponent ++ rest)) = true :=
      isDigit_digitByte digits.first
    rw [fractionBytes, List.cons_append, fractionDigits, if_pos starts]
    · exact congrArg Except.ok (Prod.ext (congrArg some run) after)
    · exact fun empty => by simp [Digits.bytes, Digits.all] at empty

theorem startsWithDigit_fraction (fraction : Option Digits) (exponent : Option ExponentLiteral) :
    startsWithDigit (fractionBytes fraction ++ (exponentBytes exponent ++ rest)) = false := by
  cases fraction with
  | none => exact startsWithDigit_exponent ended exponent
  | some digits => rfl

theorem numeral_bytes (atEnd : Cause) (n : NumberLiteral) :
    numeral atEnd n.isNegative (n.unsignedBytes ++ rest) = .ok (n.numeral, rest) := by
  have whole := wholeDigits_bytes (startsWithDigit_fraction ended n.fraction n.exponent) atEnd n.whole
  rw [numeral, NumberLiteral.unsignedBytes, List.append_assoc, List.append_assoc, whole]
  simp only [bind, Except.bind, fractionDigits_bytes ended, exponentPart_bytes ended]
  rfl

theorem number_bytes (n : NumberLiteral) :
    number ((Literal.number n).bytes ++ rest) = (n.numeral.value rest).map fun value => (value, rest) := by
  have read := numeral_bytes ended .unfinishedValue n
  rw [bytes_number]
  cases sign : n.isNegative with
  | true =>
    rw [sign] at read
    simp only [if_true, List.cons_append, number, read, bind, Except.bind]
    cases n.numeral.value rest <;> rfl
  | false =>
    rw [sign] at read
    rw [if_neg Bool.false_ne_true, number]
    · simp only [read, bind, Except.bind]
      cases n.numeral.value rest <;> rfl
    · exact fun left same => digitByte_ne n.whole.first (by decide) (List.cons.inj same).1

theorem skipNumber_bytes (n : NumberLiteral) : skipNumber ((Literal.number n).bytes ++ rest) = .ok rest := by
  have read := numeral_bytes ended .invalidNumber n
  rw [bytes_number]
  cases sign : n.isNegative with
  | true =>
    rw [sign] at read
    simp only [if_true, List.cons_append, skipNumber, read]
    rfl
  | false =>
    rw [sign] at read
    rw [if_neg Bool.false_ne_true, skipNumber]
    · simp only [read]
      rfl
    · exact fun left same => digitByte_ne n.whole.first (by decide) (List.cons.inj same).1

end reading

theorem le_valueAfter (value : Nat) (digits : List (Fin 10)) : value ≤ valueAfter value digits := by
  induction digits generalizing value with
  | nil => exact Nat.le_refl value
  | cons digit rest ih => exact Nat.le_trans (by omega) (ih (value * 10 + digit.val))

theorem gather_digits {limit value : Nat} (small : value < limit) (digits : List (Fin 10)) :
    valueAfter value digits < limit ∧ gather limit value (digits.map digitByte) = (valueAfter value digits, []) ∨
      limit ≤ valueAfter value digits ∧ (gather limit value (digits.map digitByte)).2 ≠ [] := by
  induction digits generalizing value with
  | nil => exact .inl ⟨small, rfl⟩
  | cons digit rest ih =>
    rw [List.map_cons, gather, digitOf_digitByte]
    by_cases within : value * 10 + digit.val < limit
    · rw [if_pos within]
      exact ih within
    · rw [if_neg within]
      exact .inr ⟨Nat.le_trans (Nat.not_lt.1 within) (le_valueAfter _ rest), List.cons_ne_nil _ _⟩

theorem float_map_ne_natural (result : Except Fault Float) (v : Nat) : result.map Number.float ≠ .ok (.natural v) := by
  cases result <;> simp [Except.map]

theorem value_eq_natural_iff (n : NumberLiteral) (after : Bytes) (v : Nat) :
    n.numeral.value after = .ok (.natural v) ↔
      n.isNegative = false ∧ n.fraction = none ∧ n.exponent = none ∧ n.whole.value = v ∧ v < wordLimit := by
  have digits := gather_digits (show 0 < wordLimit by decide) n.whole.all
  rcases n with ⟨isNegative, whole, fraction, exponent⟩
  cases fraction with
  | some digits => simp [NumberLiteral.numeral, Numeral.value, float_map_ne_natural]
  | none =>
    cases exponent with
    | some exponent => simp [NumberLiteral.numeral, Numeral.value, float_map_ne_natural]
    | none =>
      rcases digits with ⟨small, gathered⟩ | ⟨large, gathered⟩
      · replace small : whole.value < wordLimit := small
        replace gathered : gather wordLimit 0 whole.bytes = (whole.value, []) := gathered
        simp only [NumberLiteral.numeral, Numeral.value, Option.map_none, gathered]
        cases isNegative with
        | false =>
          simp only [Bool.not_false, if_true, Except.ok.injEq, Number.natural.injEq, true_and]
          constructor
          · rintro rfl
            exact ⟨rfl, small⟩
          · exact And.left
        | true =>
          simp only [Bool.not_true, Bool.false_eq_true, if_false]
          split <;> simp
      · replace large : wordLimit ≤ whole.value := large
        replace gathered : (gather wordLimit 0 whole.bytes).2 ≠ [] := gathered
        obtain ⟨b, unread, more⟩ := List.exists_cons_of_ne_nil gathered
        simp only [NumberLiteral.numeral, Numeral.value, Option.map_none]
        rw [show gather wordLimit 0 whole.bytes = ((gather wordLimit 0 whole.bytes).1, b :: unread) from
          Prod.ext rfl more]
        simp only [float_map_ne_natural, false_iff]
        omega

end Catalog.Json
