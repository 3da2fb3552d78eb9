import Catalog.Proofs.Json.Numbers

set_option autoImplicit false

namespace Catalog.Json

def Literal.lead : Literal → UInt8
  | .null => 110
  | .bool true => 116
  | .bool false => 102
  | .number n => if n.isNegative then minus else digitByte n.whole.first
  | .string _ => quote
  | .list _ _ => openList
  | .object _ _ => openObject

theorem exists_bytes (literal : Literal) : ∃ more, literal.bytes = literal.lead :: more := by
  cases literal with
  | null => exact ⟨_, rfl⟩
  | bool value => cases value <;> exact ⟨_, rfl⟩
  | number n =>
    rw [bytes_number, Literal.lead]
    cases n.isNegative <;> exact ⟨_, rfl⟩
  | string marks => exact ⟨_, bytes_string marks⟩
  | list elements inside => exact ⟨_, (List.append_nil _).symm.trans (bytes_list inside [] elements)⟩
  | object members inside => exact ⟨_, (List.append_nil _).symm.trans (bytes_object inside [] members)⟩

theorem bytes_length_pos (literal : Literal) : 0 < literal.bytes.length := by
  obtain ⟨more, bytes⟩ := exists_bytes literal
  rw [bytes]
  exact Nat.succ_pos _

def startsNumber (b : UInt8) : Bool :=
  b = minus || isDigit b

theorem startsNumber_lead (n : NumberLiteral) : startsNumber (Literal.number n).lead = true := by
  rw [Literal.lead]
  cases n.isNegative with
  | true => rfl
  | false => simp [startsNumber]

theorem lead_number_ne (n : NumberLiteral) {b : UInt8} (other : startsNumber b = false) :
    (Literal.number n).lead ≠ b := by
  intro same
  rw [← same, startsNumber_lead] at other
  exact absurd other (by decide)

theorem lead_ne {literal : Literal} {b : UInt8} (other : startsNumber b = false)
    (marks : b ∉ [110, 116, 102, quote, openList, openObject]) : literal.lead ≠ b := by
  cases literal with
  | number n => exact lead_number_ne n other
  | bool value =>
    rintro rfl
    cases value <;> simp [Literal.lead] at marks
  | _ =>
    rintro rfl
    simp [Literal.lead] at marks

theorem isBlank_lead (literal : Literal) : isBlank literal.lead = false := by
  cases literal with
  | number n =>
    have starts := startsNumber_lead n
    cases blank : isBlank (Literal.number n).lead with
    | false => rfl
    | true =>
      simp only [isBlank, Bool.or_eq_true, decide_eq_true_eq] at blank
      rcases blank with ((space | feed) | tab) | carriage
      · exact absurd space (lead_number_ne n (by decide))
      · exact absurd feed (lead_number_ne n (by decide))
      · exact absurd tab (lead_number_ne n (by decide))
      · exact absurd carriage (lead_number_ne n (by decide))
  | bool value => cases value <;> rfl
  | _ => rfl

theorem skipBlanks_literal (before : Blanks) (literal : Literal) (rest : Bytes) :
    skipBlanks (blankBytes before ++ (literal.bytes ++ rest)) = literal.bytes ++ rest := by
  obtain ⟨more, bytes⟩ := exists_bytes literal
  rw [skipBlanks_blanks, bytes, List.cons_append, skipBlanks_cons (isBlank_lead literal)]

section refusing

variable {α : Type}

theorem toOption_bind_none {ε β γ : Type} (first : Except ε β) {next : β → Except ε γ}
    (fails : ∀ x, (next x).toOption = none) : (first >>= next).toOption = none := by
  rw [toOption_bind]
  cases first.toOption with
  | none => rfl
  | some x => exact fails x

theorem refuse_none (expected : String) (left : Bytes) : (refuse expected left : Except Fault α).toOption = none := by
  unfold refuse
  cases left with
  | nil => rfl
  | cons b rest =>
    simp only
    repeat' split
    all_goals first | rfl | exact toOption_bind_none _ fun _ => rfl

end refusing

def Reads {β : Type} (read : Reader β) (permit : Literal → Option β) : Prop :=
  ∀ (before : Blanks) (literal : Literal) (rest : Bytes), ends rest = true →
    (read (blankBytes before ++ (literal.bytes ++ rest))).toOption = (permit literal).map (·, rest)

-- Where the blanks have been passed over already.
theorem Reads.found {β : Type} {read : Reader β} {permit : Literal → Option β} (reads : Reads read permit)
    (literal : Literal) {rest : Bytes} (ended : ends rest = true) :
    (read (literal.bytes ++ rest)).toOption = (permit literal).map (·, rest) :=
  reads [] literal rest ended

theorem reads_string : Reads string string? := by
  intro before literal rest ended
  have refused (other : literal.lead ≠ quote) :
      (string (blankBytes before ++ (literal.bytes ++ rest))).toOption = none := by
    obtain ⟨more, bytes⟩ := exists_bytes literal
    rw [string, skipBlanks_literal, bytes]
    simp only [List.cons_append, if_neg other, refuse_none]
  cases literal with
  | string marks =>
    rw [string, skipBlanks_literal, bytes_string, List.cons_append, List.append_assoc]
    simp only [if_true, List.singleton_append, text_marks, string?, Option.map_map]
    rfl
  | number n => exact refused (lead_number_ne n (by decide))
  | bool value => cases value <;> exact refused (by rw [Literal.lead]; decide)
  | _ => exact refused (by rw [Literal.lead]; decide)

theorem reads_natural32 : Reads natural32 natural32? := by
  intro before literal rest ended
  obtain ⟨more, bytes⟩ := exists_bytes literal
  have refused (other : startsNumber literal.lead = false) :
      (natural32 (blankBytes before ++ (literal.bytes ++ rest))).toOption = none := by
    have notNumber : ¬ (literal.lead = minus || isDigit literal.lead) = true := by
      simpa [startsNumber] using other
    rw [natural32, skipBlanks_literal, bytes]
    simp only [List.cons_append, if_neg notNumber, refuse_none]
  cases literal with
  | number n =>
    have read := number_bytes ended n
    rw [natural32, skipBlanks_literal]
    rw [bytes, List.cons_append] at read ⊢
    have starts : ((Literal.number n).lead = minus || isDigit (Literal.number n).lead) = true := startsNumber_lead n
    simp only [if_pos starts, read, natural32?]
    by_cases small : n.isNegative = false ∧ n.fraction = none ∧ n.exponent = none ∧ n.whole.value ≤ 4294967295
    · obtain ⟨unsigned, noFraction, noExponent, bound⟩ := small
      have value := (value_eq_natural_iff n rest n.whole.value).2
        ⟨unsigned, noFraction, noExponent, rfl, Nat.lt_of_le_of_lt bound (by decide)⟩
      have within : n.whole.value < UInt32.size := Nat.lt_succ_of_le bound
      simp [value, Except.map, bind, Except.bind, within, unsigned, noFraction, noExponent, bound]
    · rw [if_neg small]
      cases value : n.numeral.value rest with
      | error fault => rfl
      | ok found =>
        cases found with
        | natural v =>
          obtain ⟨unsigned, noFraction, noExponent, rfl, -⟩ := (value_eq_natural_iff n rest v).1 value
          have large : ¬ n.whole.value < UInt32.size :=
            fun within => small ⟨unsigned, noFraction, noExponent, Nat.le_of_lt_succ within⟩
          simp [Except.map, bind, Except.bind, large]
        | negative v => rfl
        | float v => rfl
  | bool value => cases value <;> exact refused rfl
  | _ => exact refused rfl

section optional

variable {β : Type} {read : Reader β} {permit : Literal → Option β}

theorem reads_optional (reads : Reads read permit) : Reads (optional read) (optional? permit) := by
  intro before literal rest ended
  have given (other : literal.lead ≠ 110) :
      (optional read (blankBytes before ++ (literal.bytes ++ rest))).toOption =
        ((permit literal).map some).map (·, rest) := by
    obtain ⟨more, bytes⟩ := exists_bytes literal
    have value := reads.found literal ended
    rw [bytes] at value
    rw [optional, skipBlanks_literal, bytes]
    split
    case h_1 after same => exact absurd (List.cons.inj same).1 other
    case h_2 =>
      rw [toOption_bind]
      refine (congrArg (Option.bind · _) value).trans ?_
      cases permit literal <;> rfl
  cases literal with
  | null =>
    rw [optional, skipBlanks_literal, bytes_null]
    simp only [List.cons_append, word_append]
    rfl
  | number n => exact given (lead_number_ne n (by decide))
  | bool value => cases value <;> exact given (by rw [Literal.lead]; decide)
  | _ => exact given (by rw [Literal.lead]; decide)

end optional

section lists

variable (isFirst : Bool) (gap inside : Blanks) (rest : Bytes)

theorem nextElement_close :
    nextElement isFirst (blankBytes gap ++ (blankBytes inside ++ closeList :: rest)) = .ok (false, rest) := by
  rw [nextElement, skipBlanks_blanks, skipBlanks_blanks, skipBlanks_cons (by decide)]
  simp

theorem nextElement_literal (before : Blanks) (literal : Literal) :
    nextElement isFirst (blankBytes gap ++ (separator isFirst ++ (blankBytes before ++ (literal.bytes ++ rest)))) =
      .ok (true, literal.bytes ++ rest) := by
  obtain ⟨more, bytes⟩ := exists_bytes literal
  have notClose : literal.lead ≠ closeList := lead_ne (by decide) (by decide)
  have found := skipBlanks_literal before literal rest
  rw [bytes, List.cons_append] at found ⊢
  rw [nextElement, skipBlanks_blanks]
  cases isFirst with
  | true =>
    rw [separator, if_pos rfl, List.nil_append, found]
    simp [notClose]
  | false =>
    rw [separator, if_neg Bool.false_ne_true, List.singleton_append, skipBlanks_cons (by decide)]
    simp [found, notClose, show comma ≠ closeList by decide]

theorem ends_elements (elements : List (Padded Literal)) : ends (elementTail false elements inside rest) = true := by
  cases elements with
  | nil => exact ends_blanks inside rfl
  | cons element more =>
    rw [elementTail_cons]
    rfl

variable {β : Type} {read : Reader β} {permit : Literal → Option β}

theorem elementsFrom_tail (reads : Reads read permit) {fuel : Nat} (done : List β) (elements : List (Padded Literal))
    (enough : (blankBytes gap ++ elementTail isFirst elements inside rest).length < fuel) :
    (elementsFrom read fuel isFirst done (blankBytes gap ++ elementTail isFirst elements inside rest)).toOption =
      (elements.mapM fun element => permit element.value).map fun xs => (done.reverse ++ xs, rest) := by
  obtain ⟨fuel, rfl⟩ := Nat.exists_eq_add_one_of_ne_zero (Nat.ne_zero_of_lt enough)
  -- The blanks after an element are passed over in the next step, which is why there is a gap before each.
  induction elements generalizing fuel isFirst gap done with
  | nil =>
    rw [elementsFrom, elementTail_nil, nextElement_close]
    simp [bind, Except.bind]
  | cons element more ih =>
    rw [elementTail_cons] at enough ⊢
    have taken := bytes_length_pos element.value
    have shorter : (blankBytes element.after ++ elementTail false more inside rest).length < fuel := by
      simp only [List.length_append] at enough ⊢
      omega
    obtain ⟨fuel, rfl⟩ := Nat.exists_eq_add_one_of_ne_zero (Nat.ne_zero_of_lt shorter)
    have value := reads.found element.value (ends_blanks element.after (ends_elements inside rest more))
    rw [elementsFrom, nextElement_literal]
    change (read (element.value.bytes ++ _) >>= fun result =>
      elementsFrom read (fuel + 1) false (result.1 :: done) result.2).toOption = _
    rw [toOption_bind, value, List.mapM_cons]
    cases permit element.value with
    | none => rfl
    | some x =>
      rw [Option.map_some, Option.bind_some, ih false element.after (x :: done) fuel shorter]
      cases more.mapM fun element => permit element.value <;> simp

theorem reads_list (reads : Reads read permit) : Reads (list read) (list? permit) := by
  intro before literal rest ended
  have refused (other : literal.lead ≠ openList) :
      (list read (blankBytes before ++ (literal.bytes ++ rest))).toOption = none := by
    obtain ⟨more, bytes⟩ := exists_bytes literal
    rw [list, skipBlanks_literal, bytes]
    simp only [List.cons_append, if_neg other, refuse_none]
  cases literal with
  | list elements inside =>
    rw [list, skipBlanks_literal, bytes_list]
    simp only [if_true]
    exact elementsFrom_tail true [] inside rest reads [] elements (Nat.lt_succ_self _)
  | number n => exact refused (lead_number_ne n (by decide))
  | bool value => cases value <;> exact refused (by rw [Literal.lead]; decide)
  | _ => exact refused (by rw [Literal.lead]; decide)

end lists

section documents

def document (before : Blanks) (literal : Literal) (after : Blanks) : List Char :=
  writeBlanks before ++ literal.write ++ writeBlanks after

theorem readAll_document {β : Type} {read : Reader β} {permit : Literal → Option β} (reads : Reads read permit)
    (before : Blanks) (literal : Literal) (after : Blanks) :
    (readAll read (Utf8.encode (document before literal after))).toOption = permit literal := by
  have bytes : Utf8.encode (document before literal after) =
      blankBytes before ++ (literal.bytes ++ blankBytes after) := by
    simp only [document, Utf8.encode_append, List.append_assoc]
    rfl
  have nothing : skipBlanks (blankBytes after) = [] := by
    rw [← List.append_nil (blankBytes after), skipBlanks_blanks]
    rfl
  have ended : ends (blankBytes after) = true := by
    rw [← List.append_nil (blankBytes after)]
    exact ends_blanks after rfl
  have mapped {α : Type} (result : Except Fault α) (change : Fault → Failure) :
      (result.mapError change).toOption = result.toOption := by
    cases result <;> rfl
  rw [readAll, mapped, toOption_bind, bytes, reads before literal _ ended]
  cases permit literal with
  | none => rfl
  | some x =>
    simp only [Option.map_some, Option.bind_some, finish, nothing]
    rfl

end documents

end Catalog.Json
