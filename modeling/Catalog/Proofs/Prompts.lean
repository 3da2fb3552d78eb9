import Mathlib.Data.List.Forall2
import Catalog.Console
import Catalog.Proofs.Text.Numerals

set_option autoImplicit false

namespace Catalog

def Selects (bound : Nat) (line : String) (n : Nat) : Prop :=
  Unsigned.IsNumeral line.toList n ∧ n < bound

inductive Refuses (bound : Nat) (line : String) : String → Prop where
  | invalid (foreign : ∀ n, ¬ Unsigned.IsNumeral line.toList n)
    (short : ¬ Unsigned.Exceeds Unsigned.word line.toList) : Refuses bound line "invalid digit found in string"
  | tooLarge (exceeds : Unsigned.Exceeds Unsigned.word line.toList) :
    Refuses bound line "number too large to fit in target type"
  | outside (n : Nat) (number : Unsigned.IsNumeral line.toList n) (outside : bound ≤ n) (word : n < Unsigned.word) :
    Refuses bound line s!"choose a number between 0 and {bound - 1}"

structure PassedOver (bound : Nat) (lines refusals : List String) : Prop where
  untaken : ∀ line ∈ lines, ∀ n, ¬ Selects bound line n
  refused : List.Forall₂ (Refuses bound) (lines.filter (!·.isEmpty)) refusals

inductive NumberTaken (bound : Nat) (lines : List String) : NumberAnswer bound → Prop where
  | taken (passed : List String) (line : String) (rest refusals : List String) (number : Fin bound)
    (split : lines = passed ++ line :: rest) (past : PassedOver bound passed refusals)
    (selects : Selects bound line number) : NumberTaken bound lines ⟨some number, rest, refusals⟩
  | ended (refusals : List String) (past : PassedOver bound lines refusals) :
    NumberTaken bound lines ⟨none, [], refusals⟩

inductive Named : Option String → List String → String → List String → Prop where
  | given (name : String) (lines : List String) : Named (some name) lines name lines
  | typed (blanks : List String) (name : String) (rest : List String) (empty : ∀ line ∈ blanks, line = "")
    (filled : name ≠ "") : Named none (blanks ++ name :: rest) name rest

theorem selects_toString {bound n : Nat} (below : n < bound) : Selects bound (toString n) n :=
  ⟨Unsigned.isNumeral_toString n, below⟩

theorem not_selects_empty (bound n : Nat) : ¬ Selects bound "" n := by
  rintro ⟨⟨digits, same | same, filled, -⟩, -⟩
  · exact filled same.symm
  · cases same

section

variable {bound : Nat}

theorem readNumber_of_word {line : String} {n : Nat} (read : Unsigned.readWord line = .ok n) :
    readNumber bound line =
      if below : n < bound then .ok ⟨n, below⟩ else .error s!"choose a number between 0 and {bound - 1}" := by
  rw [readNumber, read]

theorem readNumber_of_fault {line : String} {fault : Unsigned.Fault} (read : Unsigned.readWord line = .error fault) :
    readNumber bound line = .error fault.message := by
  rw [readNumber, read]

theorem readWord_eq_ok_iff (line : String) (n : Nat) :
    Unsigned.readWord line = .ok n ↔ Unsigned.IsNumeral line.toList n ∧ n < Unsigned.word :=
  Unsigned.read_eq_ok_iff (by decide) line.toList n

theorem readNumber_eq_ok_iff (fits : bound ≤ Unsigned.word) (line : String) (n : Fin bound) :
    readNumber bound line = .ok n ↔ Selects bound line n := by
  have below := n.isLt
  constructor
  · intro taken
    cases read : Unsigned.readWord line with
    | error fault =>
      rw [readNumber_of_fault read] at taken
      cases taken
    | ok k =>
      rw [readNumber_of_word read] at taken
      split at taken
      · obtain rfl := Except.ok.inj taken
        exact ⟨((readWord_eq_ok_iff line k).1 read).1, below⟩
      · cases taken
  · rintro ⟨number, -⟩
    rw [readNumber_of_word ((readWord_eq_ok_iff line n).2 ⟨number, by omega⟩), dif_pos below]

theorem refuses_of_readNumber {line refusal : String} (filled : line ≠ "")
    (refused : readNumber bound line = .error refusal) : Refuses bound line refusal := by
  have entered : line.toList ≠ [] := by simpa using filled
  cases read : Unsigned.readWord line with
  | error fault =>
    rw [readNumber_of_fault read] at refused
    obtain rfl := Except.error.inj refused
    cases fault with
    | empty => exact absurd read (Unsigned.read_ne_empty _ entered)
    | tooLarge => exact .tooLarge ((Unsigned.read_eq_tooLarge_iff (by decide) entered).1 read)
    | invalidDigit =>
      have short : ¬ Unsigned.Exceeds Unsigned.word line.toList := by
        intro exceeds
        cases read.symm.trans ((Unsigned.read_eq_tooLarge_iff (by decide) entered).2 exceeds)
      refine .invalid (fun n number => ?_) short
      by_cases word : n < Unsigned.word
      · cases read.symm.trans ((readWord_eq_ok_iff line n).2 ⟨number, word⟩)
      · exact short (number.exceeds (by omega))
  | ok n =>
    obtain ⟨number, word⟩ := (readWord_eq_ok_iff line n).1 read
    rw [readNumber_of_word read] at refused
    split at refused
    · cases refused
    · next outside =>
      obtain rfl := Except.error.inj refused
      exact .outside n number (by omega) word

theorem nextNumber_taken (fits : bound ≤ Unsigned.word) (lines : List String) :
    NumberTaken bound lines (nextNumber bound lines) := by
  induction lines with
  | nil => exact .ended [] ⟨by simp, .nil⟩
  | cons line rest ih =>
    rw [nextNumber]
    by_cases empty : line = ""
    · subst empty
      have past {passed refusals : List String} (later : PassedOver bound passed refusals) :
          PassedOver bound ("" :: passed) refusals :=
        ⟨by simpa [not_selects_empty] using later.untaken, by simpa using later.refused⟩
      rw [if_pos (by simp)]
      generalize nextNumber bound rest = answer at ih
      cases ih with
      | taken passed line rest refusals number split later selects =>
        exact .taken ("" :: passed) line rest refusals number (by simp [split]) (past later) selects
      | ended refusals later => exact .ended refusals (past later)
    · rw [if_neg (by simpa using empty)]
      cases read : readNumber bound line with
      | ok n => exact .taken [] line rest [] n rfl ⟨by simp, .nil⟩ ((readNumber_eq_ok_iff fits line n).1 read)
      | error refusal =>
        have untaken (n : Nat) : ¬ Selects bound line n := by
          intro selects
          cases read.symm.trans ((readNumber_eq_ok_iff fits line ⟨n, selects.2⟩).2 selects)
        have past {passed refusals : List String} (later : PassedOver bound passed refusals) :
            PassedOver bound (line :: passed) (refusal :: refusals) := by
          refine ⟨by simpa [untaken] using later.untaken, ?_⟩
          rw [List.filter_cons_of_pos (by simpa using empty)]
          exact .cons (refuses_of_readNumber empty read) later.refused
        generalize nextNumber bound rest = answer at ih
        cases ih with
        | taken passed line rest refusals number split later selects =>
          exact .taken (_ :: passed) line rest _ number (by simp [split]) (past later) selects
        | ended refusals later => exact .ended _ (past later)

end

theorem nextText_eq_none_iff (lines : List String) : nextText lines = none ↔ ∀ line ∈ lines, line = "" := by
  induction lines with
  | nil => simp [nextText]
  | cons line rest ih => by_cases empty : line = "" <;> simp [nextText, empty, ih]

theorem named_of_nextText {lines : List String} {name : String} {rest : List String}
    (taken : nextText lines = some (name, rest)) : Named none lines name rest := by
  induction lines with
  | nil => cases taken
  | cons line others ih =>
    by_cases empty : line = ""
    · subst empty
      cases ih taken with
      | typed blanks _ _ blank filled => exact .typed ("" :: blanks) name rest (by simpa using blank) filled
    · simp only [nextText, String.isEmpty_iff, empty, if_false, Option.some.injEq, Prod.mk.injEq] at taken
      obtain ⟨rfl, rfl⟩ := taken
      exact .typed [] line others (by simp) empty

section

variable {terminal asked : Terminal} {bound : Nat} {result : Except PromptFault (Fin bound)}

theorem Terminal.askNumber_attended (picked : terminal.askNumber bound = (result, asked))
    (attended : terminal.isAttended = true) :
    asked = { terminal with
      lines := (nextNumber bound terminal.lines).rest
      refusals := terminal.refusals ++ (nextNumber bound terminal.lines).refusals } ∧
      result = match (nextNumber bound terminal.lines).number with
        | some n => .ok n
        | none => .error .endOfInput := by
  rw [Terminal.askNumber, if_pos attended] at picked
  cases answered : (nextNumber bound terminal.lines).number with
  | some n =>
    simp only [answered] at picked
    obtain ⟨rfl, rfl⟩ := Prod.mk.inj picked
    exact ⟨rfl, rfl⟩
  | none =>
    simp only [answered] at picked
    obtain ⟨rfl, rfl⟩ := Prod.mk.inj picked
    exact ⟨rfl, rfl⟩

theorem Terminal.askNumber_taken (picked : terminal.askNumber bound = (result, asked))
    (fits : bound ≤ Unsigned.word) (attended : terminal.isAttended = true) :
    ∃ number refusals, NumberTaken bound terminal.lines ⟨number, asked.lines, refusals⟩ ∧
      asked = { terminal with lines := asked.lines, refusals := terminal.refusals ++ refusals } ∧
      result = match number with | some n => .ok n | none => .error .endOfInput := by
  obtain ⟨rfl, same⟩ := askNumber_attended picked attended
  exact ⟨_, _, nextNumber_taken fits terminal.lines, rfl, same⟩

theorem Terminal.askNumber_unattended (unattended : terminal.isAttended = false) (bound : Nat) :
    terminal.askNumber bound = (.error .noTerminal, terminal) := by
  rw [askNumber, unattended]
  rfl

theorem Terminal.isAttended_of_askNumber (picked : terminal.askNumber bound = (result, asked))
    (told : result ≠ .error .noTerminal) : terminal.isAttended = true := by
  cases attended : terminal.isAttended with
  | true => rfl
  | false =>
    rw [askNumber_unattended attended] at picked
    exact absurd (Prod.mk.inj picked).1.symm told

theorem Terminal.askNumber_ok {number : Fin bound} (picked : terminal.askNumber bound = (.ok number, asked))
    (fits : bound ≤ Unsigned.word) :
    ∃ refusals, NumberTaken bound terminal.lines ⟨some number, asked.lines, refusals⟩ := by
  have attended := isAttended_of_askNumber picked (by simp)
  obtain ⟨number, refusals, taken, -, same⟩ := askNumber_taken picked fits attended
  cases number with
  | some n =>
    obtain rfl := Except.ok.inj same
    exact ⟨refusals, taken⟩
  | none => cases same

theorem Terminal.askNumber_endOfInput (picked : terminal.askNumber bound = (.error .endOfInput, asked))
    (fits : bound ≤ Unsigned.word) : ∃ refusals, PassedOver bound terminal.lines refusals := by
  have attended := isAttended_of_askNumber picked (by simp)
  obtain ⟨number, refusals, taken, -, same⟩ := askNumber_taken picked fits attended
  generalize asked.lines = left at taken
  cases taken with
  | taken passed line rest _ number split past selects => cases same
  | ended _ past => exact ⟨refusals, past⟩

theorem Terminal.askNumber_noTerminal (picked : terminal.askNumber bound = (.error .noTerminal, asked)) :
    terminal.isAttended = false := by
  cases attended : terminal.isAttended with
  | false => rfl
  | true =>
    have same := (askNumber_attended picked attended).2
    split at same
    · cases same
    · cases same

end

end Catalog
