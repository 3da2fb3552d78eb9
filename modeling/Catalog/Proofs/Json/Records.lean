import Catalog.Proofs.Json.Skipping
import Catalog.Proofs.Json.Slots
import Mathlib.Data.List.Forall2

set_option autoImplicit false

namespace Catalog.Json

section

variable {α : Type}

structure Follows (field : Field α) (slot : Slot α) : Prop where
  name : field.name = slot.name
  required : field.isRequired = slot.absent.isNone
  reads : Reads field.read fun literal => (slot.permit literal).map slot.write

theorem follows_of {β : Type} {name : String} {isRequired : Bool} {read : Reader β} {absent : Option β}
    {permit : Literal → Option β} (write : β → α → α) (required : isRequired = absent.isNone)
    (reads : Reads read permit) :
    Follows (.of name isRequired read write) ⟨name, absent, permit, write⟩ := by
  refine ⟨rfl, required, fun before literal rest ended => ?_⟩
  change _ = ((permit literal).map write).map (·, rest)
  rw [Field.of, toOption_bind, reads before literal rest ended]
  cases permit literal <;> rfl

theorem find?_follows {fields : List (Field α)} {slots : List (Slot α)} (follow : List.Forall₂ Follows fields slots)
    {p : Field α → Bool} {q : Slot α → Bool} (same : ∀ field slot, Follows field slot → p field = q slot) :
    fields.find? p = none ∧ slots.find? q = none ∨
      ∃ field slot, fields.find? p = some field ∧ slots.find? q = some slot ∧ Follows field slot := by
  induction follow with
  | nil => exact .inl ⟨rfl, rfl⟩
  | @cons field slot fields slots follows rest ih =>
    rw [List.find?_cons, List.find?_cons, same field slot follows]
    cases q slot with
    | true => exact .inr ⟨field, slot, rfl, rfl, follows⟩
    | false => exact ih

section text

variable (isFirst : Bool) (gap inside : Blanks) (rest : Bytes)

theorem nextName_close :
    nextName isFirst (blankBytes gap ++ (blankBytes inside ++ closeObject :: rest)) = .ok (none, rest) := by
  rw [nextName, skipBlanks_blanks, skipBlanks_blanks, skipBlanks_cons (by decide)]
  rfl

theorem nextName_marks (lead : Blanks) (marks : List Mark) :
    (nextName isFirst (blankBytes gap ++ (separator isFirst ++ (blankBytes lead ++ quote :: (markBytes marks ++
      quote :: rest))))).toOption = (textOf? marks).map fun chars => (some (String.ofList chars), rest) := by
  have named : (nextName.named (markBytes marks ++ quote :: rest)).toOption =
      (textOf? marks).map fun chars => (some (String.ofList chars), rest) := by
    rw [nextName.named, toOption_bind, text_marks]
    cases textOf? marks <;> rfl
  have found : skipBlanks (blankBytes lead ++ quote :: (markBytes marks ++ quote :: rest)) =
      quote :: (markBytes marks ++ quote :: rest) := by
    rw [skipBlanks_blanks, skipBlanks_cons (by decide)]
  rw [nextName, skipBlanks_blanks]
  cases isFirst with
  | true =>
    rw [separator, if_pos rfl, List.nil_append, found]
    exact named
  | false =>
    rw [separator, if_neg Bool.false_ne_true, List.singleton_append, skipBlanks_cons (by decide)]
    simp only [found]
    exact named

theorem ends_members (members : List (Member Literal)) : ends (memberTail false members inside rest) = true := by
  rw [memberTail_eq]
  exact ends_entries inside rest _

variable {schema : Schema α} {slots : List (Slot α)} (follow : List.Forall₂ Follows schema.fields slots)

include follow

theorem membersFrom_end (fuel : Nat) (seen : List String) (record : α) :
    (schema.membersFrom (fuel + 1) isFirst seen record
        (blankBytes gap ++ (blankBytes inside ++ closeObject :: rest))).toOption =
      (collect slots seen record []).map (·, rest) := by
  have missing := find?_follows follow (p := fun field => field.isRequired && !seen.contains field.name)
    (q := fun slot => slot.absent.isNone && !seen.contains slot.name)
    (fun field slot follows => by rw [follows.required, follows.name])
  rw [Schema.membersFrom, nextName_close, collect]
  rcases missing with ⟨first, second⟩ | ⟨field, slot, first, second, -⟩
  all_goals
    simp only [bind, Except.bind, first, second]
    rfl

theorem membersFrom_member (fuel : Nat) (seen : List String) (record : α) (member : Member Literal)
    (ended : ends rest = true) :
    (schema.membersFrom (fuel + 1) isFirst seen record (blankBytes gap ++ (separator isFirst ++
        (blankBytes member.lead ++ quote :: (markBytes member.name ++ quote :: (blankBytes member.gap ++
          colon :: (blankBytes member.before ++ (member.value.bytes ++ rest)))))))).toOption =
      member.name?.bind fun name =>
        match slots.find? (·.name == name) with
        | none => (schema.membersFrom fuel false seen record rest).toOption
        | some slot =>
          if seen.contains name then none
          else (slot.permit member.value).bind fun x =>
            (schema.membersFrom fuel false (name :: seen) (slot.write x record) rest).toOption := by
  have named := nextName_marks isFirst gap (blankBytes member.gap ++ colon :: (blankBytes member.before ++
    (member.value.bytes ++ rest))) member.lead member.name
  rw [Schema.membersFrom, Member.name?]
  cases given : textOf? member.name with
  | none =>
    rw [given] at named
    rw [toOption_bind, named]
    rfl
  | some chars =>
    rw [given, Option.map_some, toOption_eq_some] at named
    have known := find?_follows follow (p := (·.name == String.ofList chars)) (q := (·.name == String.ofList chars))
      (fun field slot follows => by rw [follows.name])
    simp only [named, bind, Except.bind, Option.map_some, Option.bind_some]
    rcases known with ⟨first, second⟩ | ⟨field, slot, first, second, follows⟩
    · simp only [first, second, afterColon_blanks, skip_literal member.before member.value ended]
    · simp only [first, second]
      split
      · rfl
      · have value : (field.read _).toOption = ((slot.permit member.value).map slot.write).map (·, rest) :=
          follows.reads member.before member.value rest ended
        rw [afterColon_blanks]
        change (field.read _ >>= fun result => schema.membersFrom fuel false (String.ofList chars :: seen)
          (result.1 record) result.2).toOption = _
        rw [toOption_bind, value]
        cases slot.permit member.value <;> rfl

theorem membersFrom_tail {fuel : Nat} (seen : List String) (record : α) (members : List (Member Literal))
    (enough : (blankBytes gap ++ memberTail isFirst members inside rest).length < fuel) :
    (schema.membersFrom fuel isFirst seen record (blankBytes gap ++ memberTail isFirst members inside rest)).toOption =
      (members.mapM Member.named? >>= collect slots seen record).map (·, rest) := by
  obtain ⟨fuel, rfl⟩ := Nat.exists_eq_add_one_of_ne_zero (Nat.ne_zero_of_lt enough)
  induction members generalizing fuel isFirst gap seen record with
  | nil => exact membersFrom_end isFirst gap inside rest follow fuel seen record
  | cons member more ih =>
    rw [memberTail_cons] at enough ⊢
    have shorter : (blankBytes member.after ++ memberTail false more inside rest).length < fuel := by
      simp only [List.length_append, List.length_cons] at enough ⊢
      omega
    obtain ⟨fuel, rfl⟩ := Nat.exists_eq_add_one_of_ne_zero (Nat.ne_zero_of_lt shorter)
    have later (seen : List String) (record : α) := ih false member.after seen record fuel shorter
    have ended := ends_blanks member.after (ends_members inside rest more)
    rw [membersFrom_member isFirst gap _ follow _ _ _ member ended, List.mapM_cons, Member.named?]
    cases member.name? with
    | none => rfl
    | some name =>
      have whole :
          ((do return (name, member.value) :: (← more.mapM Member.named?)) >>= collect slots seen record) =
            (more.mapM Member.named?).bind fun rest => collect slots seen record ((name, member.value) :: rest) := by
        cases more.mapM Member.named? <;> rfl
      refine Eq.trans ?_ (congrArg (Option.map (·, rest)) whole).symm
      simp only [later, Option.bind_some]
      cases found : slots.find? (·.name == name) with
      | none =>
        simp only [collect_unknown found]
        rfl
      | some slot =>
        cases read : seen.contains name with
        | true =>
          simp only [collect_repeated found read]
          cases more.mapM Member.named? <;> rfl
        | false =>
          simp only [collect_known found read]
          cases slot.permit member.value <;> cases more.mapM Member.named? <;> rfl

end text

theorem assemble_nil {fields : List (Field α)} {slots : List (Slot α)} (follow : List.Forall₂ Follows fields slots)
    {record : α} (unset : ∀ slot ∈ slots, slot.Unset record) :
    assemble slots record [] =
      match fields.findIdx? (·.isRequired) with
      | some _ => none
      | none => some record := by
  induction follow with
  | nil => rfl
  | @cons field slot fields slots follows rest ih =>
    obtain ⟨first, later⟩ := List.forall_mem_cons.1 unset
    rw [assemble, field?_nil, List.findIdx?_cons, follows.required]
    cases absent : slot.absent with
    | none => rfl
    | some x =>
      simp only [Option.bind_eq_bind, Option.bind_some, first x absent, ih later]
      cases fields.findIdx? (·.isRequired) <;> rfl

-- The first value of a list is that of the first field.
theorem assemble_positional {slot : Slot α} {slots : List (Slot α)} (apart : ∀ other ∈ slots, Separate slot other)
    (record : α) (value : Padded Literal) (more : List (Padded Literal)) :
    (if (value :: more).length ≤ (slot :: slots).length then
      assemble (slot :: slots) record (((slot :: slots).map Slot.name).zip ((value :: more).map (·.value)))
    else none) =
      (slot.permit value.value).bind fun x =>
        if more.length ≤ slots.length then
          assemble slots (slot.write x record) ((slots.map Slot.name).zip (more.map (·.value)))
        else none := by
  have known : ∀ member ∈ (slots.map Slot.name).zip (more.map (·.value)), member.1 ∈ slots.map Slot.name :=
    fun member present => (List.of_mem_zip present).1
  rw [List.map_cons, List.map_cons, List.zip_cons_cons, assemble_first apart known]
  simp only [List.length_cons, Nat.add_le_add_iff_right]
  split
  · rfl
  · cases slot.permit value.value <;> rfl

theorem listEnd_close (gap inside : Blanks) (rest : Bytes) :
    listEnd (blankBytes gap ++ (blankBytes inside ++ closeList :: rest)) = .ok rest := by
  rw [listEnd, skipBlanks_blanks, skipBlanks_blanks, skipBlanks_cons (by decide)]
  rfl

theorem listEnd_literal (isFirst : Bool) (gap before : Blanks) (literal : Literal) (rest : Bytes) :
    (listEnd (blankBytes gap ++ (separator isFirst ++ (blankBytes before ++
      (literal.bytes ++ rest))))).toOption = none := by
  obtain ⟨more, bytes⟩ := exists_bytes literal
  have found := skipBlanks_literal before literal rest
  have notClose : literal.lead ≠ closeList := lead_ne (by decide) (by decide)
  have notComma : literal.lead ≠ comma := lead_ne (by decide) (by decide)
  rw [bytes, List.cons_append] at found ⊢
  rw [listEnd, skipBlanks_blanks]
  cases isFirst with
  | true =>
    rw [separator, if_pos rfl, List.nil_append, found]
    simp only [if_neg notClose, if_neg notComma, toOption_stopAt]
  | false =>
    rw [separator, if_neg Bool.false_ne_true, List.singleton_append, skipBlanks_cons (by decide)]
    simp only [found, if_neg notClose]
    rfl

theorem schemaElementsFrom_tail (schema : Schema α) {fields : List (Field α)} {slots : List (Slot α)}
    (follow : List.Forall₂ Follows fields slots) (separate : slots.Pairwise Separate) (index : Nat) {record : α}
    (unset : ∀ slot ∈ slots, slot.Unset record) (gap inside : Blanks) (rest : Bytes)
    (elements : List (Padded Literal)) :
    (schema.elementsFrom index record fields
        (blankBytes gap ++ elementTail (index == 0) elements inside rest)).toOption =
      (if elements.length ≤ slots.length then
        assemble slots record ((slots.map Slot.name).zip (elements.map (·.value)))
      else none).map (·, rest) := by
  induction follow generalizing index record gap elements with
  | nil =>
    rw [Schema.elementsFrom, toOption_bind]
    cases elements with
    | nil =>
      rw [elementTail_nil, listEnd_close]
      rfl
    | cons element more =>
      rw [elementTail_cons, listEnd_literal]
      rfl
  | @cons field slot fields slots follows follow ih =>
    obtain ⟨apart, separate⟩ := List.pairwise_cons.1 separate
    rw [Schema.elementsFrom]
    cases elements with
    | nil =>
      rw [elementTail_nil, nextElement_close]
      simp only [List.length_nil, Nat.zero_le, if_true, List.map_nil, List.zip_nil_right,
        assemble_nil (.cons follows follow) unset, bind, Except.bind, Bool.false_eq_true, if_false]
      cases (field :: fields).findIdx? (·.isRequired) <;> rfl
    | cons element more =>
      have ended := ends_blanks element.after (ends_elements inside rest more)
      have value : (field.read _).toOption = ((slot.permit element.value).map slot.write).map (·, _) :=
        follows.reads.found element.value ended
      rw [elementTail_cons, nextElement_literal]
      change (field.read (element.value.bytes ++ _) >>= fun result =>
        schema.elementsFrom (index + 1) (result.1 record) fields result.2).toOption = _
      rw [toOption_bind, value, assemble_positional apart]
      cases slot.permit element.value with
      | none => rfl
      | some x =>
        have still : ∀ other ∈ slots, other.Unset (slot.write x record) := fun other member =>
          (unset other (List.mem_cons_of_mem slot member)).write (apart other member).symm x
        exact ih separate (index + 1) still element.after more

structure Layout (schema : Schema α) where
  slots : List (Slot α)
  follow : List.Forall₂ Follows schema.fields slots
  separate : slots.Pairwise Separate
  unset : ∀ slot ∈ slots, slot.Unset schema.blank

theorem reads_record {schema : Schema α} (layout : Layout schema) :
    Reads schema.read (record? (layout.slots.map Slot.name) (assemble layout.slots schema.blank)) := by
  intro before literal rest ended
  have refused (notObject : literal.lead ≠ openObject) (notList : literal.lead ≠ openList) :
      (schema.read (blankBytes before ++ (literal.bytes ++ rest))).toOption = none := by
    obtain ⟨more, bytes⟩ := exists_bytes literal
    rw [Schema.read, skipBlanks_literal, bytes]
    simp only [List.cons_append, if_neg notObject, if_neg notList, refuse_none]
  cases literal with
  | object members inside =>
    rw [Schema.read, skipBlanks_literal, bytes_object]
    simp only [if_true]
    refine (membersFrom_tail true [] inside rest layout.follow [] schema.blank members (Nat.lt_succ_self _)).trans ?_
    rw [funext (collect_eq_assemble layout.separate layout.unset)]
    rfl
  | list elements inside =>
    rw [Schema.read, skipBlanks_literal, bytes_list]
    simp only [if_true, record?, List.length_map]
    exact schemaElementsFrom_tail schema layout.follow layout.separate 0 layout.unset [] inside rest elements
  | number n => exact refused (lead_number_ne n (by decide)) (lead_number_ne n (by decide))
  | bool value => cases value <;> exact refused (by rw [Literal.lead]; decide) (by rw [Literal.lead]; decide)
  | _ => exact refused (by rw [Literal.lead]; decide) (by rw [Literal.lead]; decide)

end

end Catalog.Json
