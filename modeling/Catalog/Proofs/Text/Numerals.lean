import Catalog.Text.Unsigned

set_option autoImplicit false

namespace Catalog.Unsigned

def IsNumeral (text : List Char) (n : Nat) : Prop :=
  ∃ digits, (text = digits ∨ text = '+' :: digits) ∧ digits ≠ [] ∧ (∀ c ∈ digits, c.isDigit = true) ∧
    Nat.ofDigitChars 10 digits 0 = n

-- A text whose first digits are too large a number already, whatever follows them.
def Exceeds (limit : Nat) (text : List Char) : Prop :=
  ∃ front back, (text = front ++ back ∨ text = '+' :: front ++ back) ∧ (∀ c ∈ front, c.isDigit = true) ∧
    limit ≤ Nat.ofDigitChars 10 front 0

theorem digit?_eq (c : Char) : digit? c = if c.isDigit then some (c.toNat - '0'.toNat) else none := by
  have same : ('0' ≤ c ∧ c ≤ '9') ↔ c.isDigit = true := by
    simp [Char.isDigit, Char.le_def]
  simp only [digit?, same]

theorem le_ofDigitChars (value : Nat) (text : List Char) : value ≤ Nat.ofDigitChars 10 text value := by
  induction text generalizing value with
  | nil => exact Nat.le_refl value
  | cons c rest ih =>
    rw [Nat.ofDigitChars_cons]
    have later := ih (10 * value + (c.toNat - '0'.toNat))
    omega

section

variable {limit value : Nat} {text : List Char}

theorem digits_eq_ok_iff (small : value < limit) (n : Nat) :
    digits limit value text = .ok n ↔
      (∀ c ∈ text, c.isDigit = true) ∧ Nat.ofDigitChars 10 text value = n ∧ n < limit := by
  induction text generalizing value with
  | nil =>
    simp only [digits, Except.ok.injEq, Nat.ofDigitChars_nil]
    constructor
    · rintro rfl
      exact ⟨by simp, rfl, small⟩
    · exact fun given => given.2.1
  | cons c rest ih =>
    have grown := le_ofDigitChars (10 * value + (c.toNat - '0'.toNat)) rest
    rw [digits, digit?_eq, Nat.ofDigitChars_cons]
    by_cases digit : c.isDigit = true
    · rw [if_pos digit, Nat.mul_comm value 10]
      by_cases within : 10 * value + (c.toNat - '0'.toNat) < limit
      · simp only [if_pos within, ih within, List.forall_mem_cons, digit, true_and]
      · simp only [if_neg within]
        constructor
        · exact fun given => nomatch given
        · rintro ⟨-, rfl, below⟩
          omega
    · rw [if_neg digit]
      simp [digit]

theorem digits_eq_tooLarge_iff (small : value < limit) :
    digits limit value text = .error .tooLarge ↔
      ∃ front back, text = front ++ back ∧ (∀ c ∈ front, c.isDigit = true) ∧
        limit ≤ Nat.ofDigitChars 10 front value := by
  induction text generalizing value with
  | nil =>
    simp only [digits, List.nil_eq_append_iff]
    constructor
    · exact fun given => nomatch given
    · rintro ⟨_, _, ⟨rfl, -⟩, -, large⟩
      rw [Nat.ofDigitChars_nil] at large
      omega
  | cons c rest ih =>
    rw [digits, digit?_eq]
    by_cases digit : c.isDigit = true
    · rw [if_pos digit, Nat.mul_comm value 10]
      by_cases within : 10 * value + (c.toNat - '0'.toNat) < limit
      · simp only [if_pos within, ih within]
        constructor
        · rintro ⟨front, back, rfl, all, large⟩
          exact ⟨c :: front, back, rfl, by simpa [digit] using all, by rwa [Nat.ofDigitChars_cons]⟩
        · rintro ⟨front, back, split, all, large⟩
          cases front with
          | nil =>
            rw [Nat.ofDigitChars_nil] at large
            omega
          | cons d front =>
            obtain ⟨rfl, rfl⟩ := List.cons.inj split
            rw [Nat.ofDigitChars_cons] at large
            exact ⟨front, back, rfl, fun d member => all d (List.mem_cons_of_mem _ member), large⟩
      · simp only [if_neg within, true_iff]
        refine ⟨[c], rest, rfl, by simpa using digit, ?_⟩
        rw [Nat.ofDigitChars_cons, Nat.ofDigitChars_nil]
        omega
    · rw [if_neg digit]
      simp only [Except.error.injEq, reduceCtorEq, false_iff]
      rintro ⟨front, back, split, all, large⟩
      cases front with
      | nil =>
        rw [Nat.ofDigitChars_nil] at large
        omega
      | cons d front =>
        obtain ⟨rfl, -⟩ := List.cons.inj split
        exact digit (all c (by simp))

end

theorem read_plus (limit : Nat) {rest : List Char} (filled : rest ≠ []) :
    read limit ('+' :: rest) = digits limit 0 rest := by
  cases rest with
  | nil => exact absurd rfl filled
  | cons c rest => rfl

theorem read_cons (limit : Nat) {c : Char} (unsigned : c ≠ '+') (rest : List Char) :
    read limit (c :: rest) = digits limit 0 (c :: rest) := by
  cases rest with
  | nil =>
    by_cases minus : c = '-'
    · subst minus
      rfl
    · simp [read, unsigned, minus]
  | cons d rest => simp [read, unsigned]

theorem isNumeral_plus (rest : List Char) (n : Nat) :
    IsNumeral ('+' :: rest) n ↔
      rest ≠ [] ∧ (∀ c ∈ rest, c.isDigit = true) ∧ Nat.ofDigitChars 10 rest 0 = n := by
  constructor
  · rintro ⟨digits, rfl | same, filled, all, value⟩
    · exact absurd (all '+' (by simp)) (by decide)
    · obtain rfl := (List.cons.inj same).2
      exact ⟨filled, all, value⟩
  · rintro ⟨filled, all, value⟩
    exact ⟨rest, .inr rfl, filled, all, value⟩

theorem isNumeral_cons {c : Char} (unsigned : c ≠ '+') (rest : List Char) (n : Nat) :
    IsNumeral (c :: rest) n ↔
      (∀ d ∈ c :: rest, d.isDigit = true) ∧ Nat.ofDigitChars 10 (c :: rest) 0 = n := by
  constructor
  · rintro ⟨digits, rfl | same, filled, all, value⟩
    · exact ⟨all, value⟩
    · exact absurd (List.cons.inj same).1 unsigned
  · rintro ⟨all, value⟩
    exact ⟨c :: rest, .inl rfl, by simp, all, value⟩

theorem IsNumeral.unique {text : List Char} {n k : Nat} (first : IsNumeral text n) (second : IsNumeral text k) :
    n = k := by
  cases text with
  | nil =>
    obtain ⟨digits, rfl | same, filled, -⟩ := first
    · exact absurd rfl filled
    · cases same
  | cons c rest =>
    by_cases plus : c = '+'
    · subst plus
      exact ((isNumeral_plus rest n).1 first).2.2.symm.trans ((isNumeral_plus rest k).1 second).2.2
    · exact ((isNumeral_cons plus rest n).1 first).2.symm.trans ((isNumeral_cons plus rest k).1 second).2

theorem exceeds_plus {limit : Nat} (positive : 0 < limit) (rest : List Char) :
    Exceeds limit ('+' :: rest) ↔
      ∃ front back, rest = front ++ back ∧ (∀ c ∈ front, c.isDigit = true) ∧
        limit ≤ Nat.ofDigitChars 10 front 0 := by
  constructor
  · rintro ⟨front, back, same | same, all, large⟩
    · cases front with
      | nil =>
        rw [Nat.ofDigitChars_nil] at large
        omega
      | cons c front =>
        obtain ⟨rfl, -⟩ := List.cons.inj same
        exact absurd (all '+' (by simp)) (by decide)
    · exact ⟨front, back, (List.cons.inj same).2, all, large⟩
  · rintro ⟨front, back, rfl, all, large⟩
    exact ⟨front, back, .inr rfl, all, large⟩

theorem exceeds_cons {limit : Nat} {c : Char} (unsigned : c ≠ '+') (rest : List Char) :
    Exceeds limit (c :: rest) ↔
      ∃ front back, c :: rest = front ++ back ∧ (∀ d ∈ front, d.isDigit = true) ∧
        limit ≤ Nat.ofDigitChars 10 front 0 := by
  constructor
  · rintro ⟨front, back, same | same, all, large⟩
    · exact ⟨front, back, same, all, large⟩
    · exact absurd (List.cons.inj same).1 unsigned
  · rintro ⟨front, back, same, all, large⟩
    exact ⟨front, back, .inl same, all, large⟩

theorem IsNumeral.exceeds {limit : Nat} {text : List Char} {n : Nat} (number : IsNumeral text n) (large : limit ≤ n) :
    Exceeds limit text := by
  obtain ⟨digits, signed, -, all, rfl⟩ := number
  exact ⟨digits, [], by simpa using signed, all, large⟩

section

variable {limit : Nat} (positive : 0 < limit)

include positive

theorem read_eq_ok_iff (text : List Char) (n : Nat) :
    read limit text = .ok n ↔ IsNumeral text n ∧ n < limit := by
  cases text with
  | nil =>
    simp only [read, reduceCtorEq, false_iff]
    rintro ⟨⟨digits, rfl | same, filled, -⟩, -⟩
    · exact filled rfl
    · cases same
  | cons c rest =>
    by_cases plus : c = '+'
    · subst plus
      rw [isNumeral_plus]
      by_cases filled : rest = []
      · simp [filled, read]
      · rw [read_plus limit filled, digits_eq_ok_iff positive]
        simp [filled, and_assoc]
    · rw [read_cons limit plus, isNumeral_cons plus, digits_eq_ok_iff positive, and_assoc]

theorem read_eq_tooLarge_iff {text : List Char} (filled : text ≠ []) :
    read limit text = .error .tooLarge ↔ Exceeds limit text := by
  obtain ⟨c, rest, rfl⟩ := List.exists_cons_of_ne_nil filled
  by_cases plus : c = '+'
  · subst plus
    rw [exceeds_plus positive, ← digits_eq_tooLarge_iff positive]
    cases rest with
    | nil => simp [read, digits]
    | cons d rest => rfl
  · rw [read_cons limit plus, exceeds_cons plus, digits_eq_tooLarge_iff positive]

end

theorem digits_ne_empty (limit value : Nat) (text : List Char) : digits limit value text ≠ .error .empty := by
  induction text generalizing value with
  | nil => simp [digits]
  | cons c rest ih =>
    rw [digits]
    cases digit? c with
    | none => simp
    | some d =>
      by_cases within : value * 10 + d < limit
      · simpa [within] using ih (value * 10 + d)
      · simp [within]

theorem read_ne_empty (limit : Nat) {text : List Char} (filled : text ≠ []) : read limit text ≠ .error .empty := by
  obtain ⟨c, rest, rfl⟩ := List.exists_cons_of_ne_nil filled
  by_cases plus : c = '+'
  · subst plus
    cases rest with
    | nil => simp [read]
    | cons d rest => exact digits_ne_empty limit 0 (d :: rest)
  · rw [read_cons limit plus]
    exact digits_ne_empty limit 0 (c :: rest)

theorem isNumeral_toString (n : Nat) : IsNumeral (toString n).toList n := by
  have digits : (toString n).toList = Nat.toDigits 10 n := by
    rw [Nat.toString_eq_repr, Nat.toList_repr]
  rw [digits]
  refine ⟨_, .inl rfl, Nat.toDigits_ne_nil, ?_, Nat.ofDigitChars_toDigits (by decide) (by decide)⟩
  exact fun c member => Nat.isDigit_of_mem_toDigits (by decide) (by decide) member

end Catalog.Unsigned
