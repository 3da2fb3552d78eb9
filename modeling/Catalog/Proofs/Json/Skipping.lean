import Catalog.Proofs.Json.Readings

set_option autoImplicit false

namespace Catalog.Json

theorem afterColon_blanks (gap : Blanks) (rest : Bytes) : afterColon (blankBytes gap ++ colon :: rest) = .ok rest := by
  rw [afterColon, skipBlanks_blanks, skipBlanks_cons (by decide)]
  rfl

theorem length_blankBytes (blanks : Blanks) : (blankBytes blanks).length = blanks.length := by
  induction blanks with
  | nil => rfl
  | cons blank rest ih => cases blank <;> exact congrArg (· + 1) ih

theorem skipStep_blanks (frames : List Frame) (before : Blanks) (left : Bytes) :
    skipStep frames (blankBytes before ++ left) = skipStep frames left := by
  rw [skipStep, skipStep, skipBlanks_blanks]

def proceed (fuel : Nat) : Except Fault (List Frame × Bytes) → Except Fault Bytes
  | .ok ([], left) => .ok left
  | .ok (frame :: outer, left) => skipFrom fuel (frame :: outer) left
  | .error fault => .error fault

theorem skipFrom_succ (fuel : Nat) (frames : List Frame) (left : Bytes) :
    skipFrom (fuel + 1) frames left = proceed fuel (skipStep frames left) := by
  rw [skipFrom]
  rcases skipStep frames left with fault | ⟨_ | ⟨frame, outer⟩, left⟩ <;> rfl

def Passed (literal : Literal) : Prop :=
  ∀ (frames : List Frame) (before : Blanks) (rest : Bytes) (fuel : Nat), ends rest = true →
    (blankBytes before ++ (literal.bytes ++ rest)).length < fuel →
    ∃ less, rest.length < less ∧
      skipFrom fuel frames (blankBytes before ++ (literal.bytes ++ rest)) = proceed less (resume frames rest)

theorem passed_of_step {literal : Literal}
    (step : ∀ (frames : List Frame) (before : Blanks) (rest : Bytes), ends rest = true →
      skipStep frames (blankBytes before ++ (literal.bytes ++ rest)) = resume frames rest) : Passed literal := by
  intro frames before rest fuel ended enough
  obtain ⟨fuel, rfl⟩ := Nat.exists_eq_add_one_of_ne_zero (Nat.ne_zero_of_lt enough)
  have taken := bytes_length_pos literal
  simp only [List.length_append] at enough
  exact ⟨fuel, by omega, by rw [skipFrom_succ, step frames before rest ended]⟩

theorem passed_null : Passed .null := by
  refine passed_of_step fun frames before rest ended => ?_
  rw [skipStep, skipBlanks_literal, bytes_null]
  change (word nullRest (nullRest ++ rest) >>= resume frames) = _
  rw [word_append]
  rfl

theorem passed_bool (value : Bool) : Passed (.bool value) := by
  refine passed_of_step fun frames before rest ended => ?_
  rw [skipStep, skipBlanks_literal]
  cases value with
  | true =>
    rw [bytes_true]
    change (word trueRest (trueRest ++ rest) >>= resume frames) = _
    rw [word_append]
    rfl
  | false =>
    rw [bytes_false]
    change (word falseRest (falseRest ++ rest) >>= resume frames) = _
    rw [word_append]
    rfl

theorem passed_string (marks : List Mark) : Passed (.string marks) := by
  refine passed_of_step fun frames before rest ended => ?_
  rw [skipStep, skipBlanks_literal, bytes_string, List.cons_append, List.append_assoc]
  change (skipText (markBytes marks ++ quote :: rest) >>= resume frames) = _
  rw [skipText_marks]
  rfl

theorem passed_number (n : NumberLiteral) : Passed (.number n) := by
  refine passed_of_step fun frames before rest ended => ?_
  have read := skipNumber_bytes ended n
  obtain ⟨more, bytes⟩ := exists_bytes (.number n)
  have other {b : UInt8} (foreign : startsNumber b = false) := lead_number_ne n foreign
  have starts := startsNumber_lead n
  rw [startsNumber] at starts
  rw [skipStep, skipBlanks_literal]
  rw [bytes, List.cons_append] at read ⊢
  simp only [other (b := openList) (by decide), other (b := openObject) (by decide), other (b := 110) (by decide),
    other (b := 116) (by decide), other (b := 102) (by decide), if_false, starts, if_true, read]
  rfl

structure Entry (frame : Frame) where
  head : Bytes
  before : Blanks
  value : Literal
  after : Blanks
  enters : ∀ left, frame.enter (head ++ left) = .ok left
  -- The first entry is entered at its first mark, which in a list is the value.
  opens : ∀ left, ∃ b more pad,
    skipBlanks (head ++ (blankBytes before ++ (value.bytes ++ left))) = b :: more ∧ b ≠ frame.closing ∧
      frame.enter (b :: more) = .ok (blankBytes pad ++ (value.bytes ++ left)) ∧ pad.length ≤ before.length

section entries

variable {frame : Frame}

def entryTail (isFirst : Bool) (inside : Blanks) (rest : Bytes) : List (Entry frame) → Bytes
  | [] => blankBytes inside ++ frame.closing :: rest
  | entry :: more =>
    separator isFirst ++ (entry.head ++ (blankBytes entry.before ++ (entry.value.bytes ++ (blankBytes entry.after ++
      entryTail false inside rest more))))

theorem isBlank_closing (frame : Frame) : isBlank frame.closing = false := by
  cases frame <;> rfl

variable (outer : List Frame) (inside : Blanks) (rest : Bytes)

theorem ends_entries (entries : List (Entry frame)) : ends (entryTail false inside rest entries) = true := by
  cases entries with
  | nil => exact ends_blanks inside (by cases frame <;> rfl)
  | cons entry more => rfl

theorem resume_close (gap : Blanks) :
    resume (frame :: outer) (blankBytes gap ++ (blankBytes inside ++ frame.closing :: rest)) = resume outer rest := by
  rw [resume, skipBlanks_blanks, skipBlanks_blanks, skipBlanks_cons (isBlank_closing frame)]
  cases frame <;> rfl

theorem resume_entry (entry : Entry frame) (gap : Blanks) (left : Bytes) :
    resume (frame :: outer) (blankBytes gap ++ (separator false ++ (entry.head ++ left))) =
      .ok (frame :: outer, left) := by
  rw [resume, skipBlanks_blanks, separator, if_neg Bool.false_ne_true, List.singleton_append,
    skipBlanks_cons (by decide)]
  simp only [if_true, entry.enters]
  rfl

theorem openFrame_close : openFrame frame outer (blankBytes inside ++ frame.closing :: rest) = resume outer rest := by
  rw [openFrame, skipBlanks_blanks, skipBlanks_cons (isBlank_closing frame)]
  exact if_pos rfl

theorem resume_entries {entries : List (Entry frame)} (passed : ∀ entry ∈ entries, Passed entry.value) (gap : Blanks)
    {fuel : Nat} (enough : (blankBytes gap ++ entryTail false inside rest entries).length < fuel) :
    ∃ less, rest.length < less ∧
      proceed fuel (resume (frame :: outer) (blankBytes gap ++ entryTail false inside rest entries)) =
        proceed less (resume outer rest) := by
  induction entries generalizing gap fuel with
  | nil =>
    refine ⟨fuel, ?_, by rw [entryTail, resume_close]⟩
    simp only [entryTail, List.length_append, List.length_cons] at enough
    omega
  | cons entry more ih =>
    obtain ⟨first, later⟩ := List.forall_mem_cons.1 passed
    rw [entryTail] at enough ⊢
    rw [resume_entry]
    have shorter : (blankBytes entry.before ++ (entry.value.bytes ++ (blankBytes entry.after ++
        entryTail false inside rest more))).length < fuel := by
      simp only [List.length_append] at enough ⊢
      omega
    obtain ⟨left, shorter, passes⟩ := first (frame :: outer) entry.before _ fuel
      (ends_blanks entry.after (ends_entries inside rest more)) shorter
    obtain ⟨less, shorter, closes⟩ := ih later entry.after shorter
    exact ⟨less, shorter, passes.trans closes⟩

theorem openFrame_entries {entries : List (Entry frame)} (passed : ∀ entry ∈ entries, Passed entry.value) {fuel : Nat}
    (enough : (entryTail true inside rest entries).length < fuel) :
    ∃ less, rest.length < less ∧
      proceed fuel (openFrame frame outer (entryTail true inside rest entries)) = proceed less (resume outer rest) := by
  cases entries with
  | nil =>
    refine ⟨fuel, ?_, by rw [entryTail, openFrame_close]⟩
    simp only [entryTail, List.length_append, List.length_cons] at enough
    omega
  | cons entry more =>
    obtain ⟨first, later⟩ := List.forall_mem_cons.1 passed
    obtain ⟨b, left, pad, found, notClosing, enters, narrower⟩ :=
      entry.opens (blankBytes entry.after ++ entryTail false inside rest more)
    rw [entryTail, separator, if_pos rfl, List.nil_append] at enough ⊢
    rw [openFrame, found]
    simp only [if_neg notClosing, enters]
    have shorter : (blankBytes pad ++ (entry.value.bytes ++ (blankBytes entry.after ++
        entryTail false inside rest more))).length < fuel := by
      simp only [List.length_append, length_blankBytes] at enough ⊢
      omega
    obtain ⟨left, shorter, passes⟩ := first (frame :: outer) pad _ fuel
      (ends_blanks entry.after (ends_entries inside rest more)) shorter
    obtain ⟨less, shorter, closes⟩ := resume_entries outer inside rest later entry.after shorter
    exact ⟨less, shorter, passes.trans closes⟩

end entries

def elementEntry (element : Padded Literal) : Entry .list where
  head := []
  before := element.before
  value := element.value
  after := element.after
  enters := fun left => rfl
  opens := by
    intro left
    obtain ⟨more, bytes⟩ := exists_bytes element.value
    refine ⟨element.value.lead, more ++ left, [], ?_, lead_ne (by decide) (by decide), ?_, Nat.zero_le _⟩
    · rw [List.nil_append, skipBlanks_literal, bytes, List.cons_append]
    · rw [bytes]
      rfl

def memberEntry (member : Member Literal) : Entry .object where
  head := blankBytes member.lead ++ quote :: (markBytes member.name ++ quote :: (blankBytes member.gap ++ [colon]))
  before := member.before
  value := member.value
  after := member.after
  enters := fun left => by
    simp only [List.append_assoc, List.cons_append, List.nil_append]
    rw [Frame.enter, skipBlanks_blanks, skipBlanks_cons (by decide)]
    simp only [if_true, skipText_marks, afterColon_blanks, bind, Except.bind]
  opens := by
    intro left
    refine ⟨quote, markBytes member.name ++ quote :: (blankBytes member.gap ++ colon :: (blankBytes member.before ++
      (member.value.bytes ++ left))), member.before, ?_, by decide, ?_, Nat.le_refl _⟩
    · simp only [List.append_assoc, List.cons_append, List.nil_append]
      rw [skipBlanks_blanks, skipBlanks_cons (by decide)]
    · rw [Frame.enter, skipBlanks_cons (by decide)]
      simp only [if_true, skipText_marks, afterColon_blanks, bind, Except.bind]

theorem elementTail_eq (isFirst : Bool) (elements : List (Padded Literal)) (inside : Blanks) (rest : Bytes) :
    elementTail isFirst elements inside rest = entryTail isFirst inside rest (elements.map elementEntry) := by
  induction elements generalizing isFirst with
  | nil => rfl
  | cons element more ih =>
    rw [elementTail_cons, ih]
    rfl

theorem memberTail_eq (isFirst : Bool) (members : List (Member Literal)) (inside : Blanks) (rest : Bytes) :
    memberTail isFirst members inside rest = entryTail isFirst inside rest (members.map memberEntry) := by
  induction members generalizing isFirst with
  | nil => rfl
  | cons member more ih =>
    rw [memberTail_cons, ih]
    simp only [List.map_cons, entryTail, memberEntry, List.append_assoc, List.cons_append, List.nil_append]

theorem passed_entries {frame : Frame} {literal : Literal} {entries : List (Entry frame)} {inside : Blanks}
    {mark : UInt8} (bytes : ∀ rest, literal.bytes ++ rest = mark :: entryTail true inside rest entries)
    (opened : ∀ frames left, skipStep frames (mark :: left) = openFrame frame frames left)
    (passed : ∀ entry ∈ entries, Passed entry.value) : Passed literal := by
  intro frames before rest fuel ended enough
  obtain ⟨fuel, rfl⟩ := Nat.exists_eq_add_one_of_ne_zero (Nat.ne_zero_of_lt enough)
  rw [bytes] at enough ⊢
  rw [skipFrom_succ, skipStep_blanks, opened]
  refine openFrame_entries frames inside rest passed ?_
  simp only [List.length_append, List.length_cons] at enough
  omega

theorem passed_literal (literal : Literal) : Passed literal := by
  induction literal using Literal.induction with
  | null => exact passed_null
  | bool value => exact passed_bool value
  | number n => exact passed_number n
  | string marks => exact passed_string marks
  | list elements inside passed =>
    have bytes (rest : Bytes) := bytes_list inside rest elements
    simp only [elementTail_eq] at bytes
    exact passed_entries bytes (fun _ _ => rfl) (List.forall_mem_map.2 passed)
  | object members inside passed =>
    have bytes (rest : Bytes) := bytes_object inside rest members
    simp only [memberTail_eq] at bytes
    exact passed_entries bytes (fun _ _ => rfl) (List.forall_mem_map.2 passed)

theorem skip_literal (before : Blanks) (literal : Literal) {rest : Bytes} (ended : ends rest = true) :
    skip (blankBytes before ++ (literal.bytes ++ rest)) = .ok rest := by
  obtain ⟨less, -, passed⟩ := passed_literal literal [] before rest _ ended (Nat.lt_succ_self _)
  rw [skip, passed]
  rfl

end Catalog.Json
