import Catalog.Model.Writing
import Catalog.Proofs.Decoding

set_option autoImplicit false

namespace Catalog

namespace Json

def Carries {β : Type} (permit : Literal → Option β) (value : Value) (x : β) : Prop :=
  ∃ literal : Literal, literal.write = value.write ∧ permit literal = some x

theorem exists_mark (c : Char) :
    ∃ mark : Mark, mark.write = writeChar c ∧ ∀ rest, textOf? (mark :: rest) = (textOf? rest).map (c :: ·) := by
  fun_cases writeChar c with
  | case1 same => exact ⟨.short .quote, rfl, fun _ => same ▸ rfl⟩
  | case2 _ same => exact ⟨.short .backslash, rfl, fun _ => same ▸ rfl⟩
  | case3 _ _ same => exact ⟨.short .backspace, rfl, fun _ => same ▸ rfl⟩
  | case4 _ _ _ same => exact ⟨.short .formFeed, rfl, fun _ => same ▸ rfl⟩
  | case5 _ _ _ _ same => exact ⟨.short .lineFeed, rfl, fun _ => same ▸ rfl⟩
  | case6 _ _ _ _ _ same => exact ⟨.short .carriageReturn, rfl, fun _ => same ▸ rfl⟩
  | case7 _ _ _ _ _ _ same => exact ⟨.short .tab, rfl, fun _ => same ▸ rfl⟩
  | case8 _ _ _ _ _ _ _ control =>
    let quad : Quad := ⟨⟨0, false⟩, ⟨0, false⟩, ⟨⟨c.toNat / 16, by omega⟩, false⟩, ⟨⟨c.toNat % 16, by omega⟩, false⟩⟩
    have number : quad.number = c.toNat := by
      simp only [quad, Quad.number]
      omega
    refine ⟨.numbered quad, rfl, fun rest => ?_⟩
    have notTrailing : isTrailing c.toNat = false := by
      rw [isTrailing, Bool.and_eq_false_iff, decide_eq_false_iff_not]
      omega
    have notLeading : isLeading c.toNat = false := by
      rw [isLeading, Bool.and_eq_false_iff, decide_eq_false_iff_not]
      omega
    rw [textOf?.eq_def]
    simp [number, notTrailing, notLeading, Char.ofNat_toNat]
  | case9 notQuote notBackslash _ _ _ _ _ visible =>
    exact ⟨.plain c ⟨notQuote, notBackslash, Nat.not_lt.1 visible⟩, rfl, fun _ => rfl⟩

theorem exists_marks (chars : List Char) :
    ∃ marks : List Mark, marks.flatMap Mark.write = chars.flatMap writeChar ∧ textOf? marks = some chars := by
  induction chars with
  | nil => exact ⟨[], rfl, rfl⟩
  | cons c rest ih =>
    obtain ⟨mark, first, read⟩ := exists_mark c
    obtain ⟨marks, later, text⟩ := ih
    exact ⟨mark :: marks, by simp only [List.flatMap_cons, first, later], by rw [read, text]; rfl⟩

theorem carries_string (s : String) : Carries string? (.string s) s := by
  obtain ⟨marks, written, text⟩ := exists_marks s.toList
  refine ⟨.string marks, ?_, ?_⟩
  · rw [Literal.write, writeMarks, written]
    rfl
  · rw [string?, text, Option.map_some, String.ofList_toList]

theorem exists_whole (n : Nat) : ∃ whole : Whole, whole.write = Nat.toDigits 10 n ∧ whole.value = n := by
  induction n using Nat.strongRecOn with
  | ind n ih =>
    by_cases small : n < 10
    · refine ⟨⟨⟨⟨n, small⟩, []⟩, fun _ => rfl⟩, ?_, ?_⟩
      · rw [Nat.toDigits_of_lt_base small]
        rfl
      · simp [Digits.value, Digits.all, valueAfter]
    · obtain ⟨whole, written, value⟩ := ih (n / 10) (by omega)
      have leads : whole.first ≠ 0 := by
        intro zero
        have alone : whole.value = whole.first.val := by
          simp [Digits.value, Digits.all, valueAfter, whole.canonical zero]
        simp only [zero] at alone
        omega
      refine ⟨⟨⟨whole.first, whole.more ++ [⟨n % 10, by omega⟩]⟩, fun zero => absurd zero leads⟩, ?_, ?_⟩
      · rw [Nat.toDigits_of_base_le (by decide) (by omega), ← written]
        simp [Digits.write, Digits.all]
      · rw [Digits.value, valueAfter, Digits.all] at value ⊢
        rw [← List.cons_append, List.foldl_append, value]
        simp only [List.foldl_cons, List.foldl_nil]
        omega

theorem carries_natural32 (n : UInt32) : Carries natural32? (.nat n.toNat) n := by
  obtain ⟨whole, written, value⟩ := exists_whole n.toNat
  refine ⟨.number ⟨false, whole, none, none⟩, ?_, ?_⟩
  · simp only [Literal.write, NumberLiteral.write, writeFraction, writeExponent, written]
    simp [Value.nat, Value.write, writeNumber]
  · have bound : n.toNat ≤ 4294967295 := Nat.le_of_lt_succ n.toNat_lt
    simp [natural32?, value, bound]

section

variable {β : Type} {permit : Literal → Option β} {write : β → Value}

theorem carries_optional (carries : ∀ x, Carries permit (write x) x) (notNull : permit .null = none) (x : Option β) :
    Carries (optional? permit) (.ofOption write x) x := by
  cases x with
  | none => exact ⟨.null, rfl, rfl⟩
  | some x =>
    obtain ⟨literal, written, meant⟩ := carries x
    refine ⟨literal, written, ?_⟩
    cases literal with
    | null => simp [notNull] at meant
    | _ => rw [optional?, meant] <;> simp

def compact (literal : Literal) : Padded Literal :=
  ⟨[], literal, []⟩

theorem writeElements_compact {values : List Value} {literals : List Literal}
    (same : List.Forall₂ (fun value literal => literal.write = value.write) values literals) :
    Literal.writeElements true (literals.map compact) = writeElements values := by
  induction same with
  | nil => rfl
  | @cons value literal values literals first later ih =>
    cases later with
    | nil => simp [compact, Literal.writeElements, writeElements, writeBlanks, first]
    | cons second rest =>
      rw [writeElements, ← ih]
      · simp [compact, Literal.writeElements, writeBlanks, first]
      · simp

theorem carries_list {xs : List β} (carries : ∀ x, Carries permit (write x) x) :
    Carries (list? permit) (.list (xs.map write)) xs := by
  have spelled : ∃ literals, List.Forall₂ (fun value literal => literal.write = value.write) (xs.map write) literals ∧
      (literals.map compact).mapM (fun element => permit element.value) = some xs := by
    induction xs with
    | nil => exact ⟨[], .nil, rfl⟩
    | cons x rest ih =>
      obtain ⟨literal, first, meant⟩ := carries x
      obtain ⟨literals, later, read⟩ := ih
      refine ⟨literal :: literals, .cons first later, ?_⟩
      rw [List.map_cons, List.mapM_cons, read, compact, meant]
      rfl
  obtain ⟨literals, written, read⟩ := spelled
  refine ⟨.list (literals.map compact) [], ?_, read⟩
  rw [Literal.write, writeElements_compact written, Value.write]
  simp [writeBlanks]

end

structure Spells (member : String × Value) (spelled : Member Literal) : Prop where
  value : spelled.value.write = member.2.write
  name : writeMarks spelled.name = writeString member.1
  text : textOf? spelled.name = some member.1.toList
  blanks : spelled.lead = [] ∧ spelled.gap = [] ∧ spelled.before = [] ∧ spelled.after = []

theorem exists_spelled (name : String) {value : Value} {literal : Literal} (written : literal.write = value.write) :
    ∃ spelled, Spells (name, value) spelled ∧ spelled.named? = some (name, literal) := by
  obtain ⟨marks, marked, text⟩ := exists_marks name.toList
  refine ⟨⟨⟨[], literal, []⟩, [], marks, []⟩, ⟨written, ?_, text, rfl, rfl, rfl, rfl⟩, ?_⟩
  · rw [writeMarks, marked]
    rfl
  · simp [Member.named?, Member.name?, text]

theorem writeMembers_spelled {members : List (String × Value)} {spelled : List (Member Literal)}
    (same : List.Forall₂ Spells members spelled) : Literal.writeMembers true spelled = writeMembers members := by
  induction same with
  | nil => rfl
  | @cons member first members rest spells later ih =>
    obtain ⟨⟨before, value, after⟩, lead, name, gap⟩ := first
    obtain ⟨wanted, content⟩ := member
    obtain ⟨written, named, -, rfl, rfl, rfl, rfl⟩ := spells
    simp only at written named
    cases later with
    | nil => simp [Literal.writeMembers, writeMembers, writeBlanks, written, named]
    | cons second more =>
      rw [writeMembers, ← ih]
      · simp [Literal.writeMembers, writeBlanks, written, named]
      · simp

section

variable {α : Type}

inductive Fills : List (Slot α) → α → List (String × Value) → α → Prop
  | nil (record : α) : Fills [] record [] record
  | cons {slot : Slot α} {slots : List (Slot α)} {record final : α} {x : slot.β} {value : Value}
      {members : List (String × Value)} (carries : Carries slot.permit value x)
      (rest : Fills slots (slot.write x record) members final) :
      Fills (slot :: slots) record ((slot.name, value) :: members) final

theorem Fills.exists_spelled {slots : List (Slot α)} {record final : α} {members : List (String × Value)}
    (fills : Fills slots record members final) (separate : slots.Pairwise Separate) :
    ∃ spelled named, List.Forall₂ Spells members spelled ∧ spelled.mapM Member.named? = some named ∧
      named.map Prod.fst = slots.map Slot.name ∧ assemble slots record named = some final := by
  induction fills with
  | nil record => exact ⟨[], [], .nil, rfl, rfl, rfl⟩
  | @cons slot slots record final x value members carries rest ih =>
    obtain ⟨apart, separate⟩ := List.pairwise_cons.1 separate
    obtain ⟨spelled, named, spells, read, names, filled⟩ := ih separate
    obtain ⟨literal, written, meant⟩ := carries
    obtain ⟨member, spellsFirst, readFirst⟩ := Json.exists_spelled slot.name written
    refine ⟨member :: spelled, (slot.name, literal) :: named, .cons spellsFirst spells, ?_, ?_, ?_⟩
    · rw [List.mapM_cons, readFirst, read]
      rfl
    · rw [List.map_cons, names, List.map_cons]
    · have known : ∀ member ∈ named, member.1 ∈ slots.map Slot.name :=
        fun member present => names ▸ List.mem_map_of_mem present
      rw [assemble_first apart known, meant]
      exact filled

theorem carries_record {schema : Schema α} (layout : Layout schema) {members : List (String × Value)} {x : α}
    (fills : Fills layout.slots schema.blank members x) :
    Carries (record? (layout.slots.map Slot.name) (assemble layout.slots schema.blank)) (.object members) x := by
  obtain ⟨spelled, named, spells, read, -, filled⟩ := fills.exists_spelled layout.separate
  refine ⟨.object spelled [], ?_, ?_⟩
  · rw [Literal.write, writeMembers_spelled spells, Value.write]
    simp [writeBlanks]
  · rw [record?, read]
    exact filled

end

theorem readAll_carried {β : Type} {read : Reader β} {permit : Literal → Option β} (reads : Reads read permit)
    {value : Value} {x : β} (carries : Carries permit value x) :
    readAll read (Utf8.encode value.text.toList) = .ok x := by
  obtain ⟨literal, written, meant⟩ := carries
  have text : document [] literal [] = value.text.toList := by
    rw [document, written, Value.text, String.toList_ofList]
    simp [writeBlanks]
  rw [← text, ← toOption_eq_some, readAll_document reads, meant]

end Json

open Json

theorem PresetValue.carries (value : PresetValue) : Carries PresetValue.ofLiteral? value.toJson value :=
  carries_record PresetValue.layout
    (.cons (carries_string _) (.cons (carries_optional carries_string rfl _) (.nil _)))

theorem Preset.carries (preset : Preset) : Carries Kind.preset.ofLiteral? preset.toJson preset :=
  carries_record Preset.layout
    (.cons (carries_string _) (.cons (carries_optional carries_string rfl _)
      (.cons (carries_list PresetValue.carries) (.nil _))))

theorem SearchResult.carries (result : SearchResult) : Carries Kind.result.ofLiteral? result.toJson result :=
  carries_record SearchResult.layout
    (.cons (carries_optional carries_string rfl _) (.cons (carries_optional carries_natural32 rfl _)
      (.cons (carries_string _) (.cons (carries_optional carries_string rfl _) (.nil _)))))

theorem ContentItem.carries (item : ContentItem) : Carries ContentItem.ofLiteral? item.toJson item :=
  carries_record ContentItem.layout (.cons (carries_natural32 _) (.cons (carries_string _) (.nil _)))

theorem ContentEntries.carries (entries : ContentEntries) : Carries Kind.entries.ofLiteral? entries.toJson entries :=
  carries_record ContentEntries.layout (.cons (carries_list ContentItem.carries) (.nil _))

def Kind.toJson : (kind : Kind) → kind.Record → Value
  | .presetValue => PresetValue.toJson
  | .preset => Preset.toJson
  | .result => SearchResult.toJson
  | .item => ContentItem.toJson
  | .entries => ContentEntries.toJson

theorem Kind.carries (kind : Kind) (x : kind.Record) : Carries kind.ofLiteral? (kind.toJson x) x := by
  cases kind with
  | presetValue => exact PresetValue.carries x
  | preset => exact Preset.carries x
  | result => exact SearchResult.carries x
  | item => exact ContentItem.carries x
  | entries => exact ContentEntries.carries x

def Kind.serialise (kind : Kind) (x : kind.Record) : List UInt8 :=
  Utf8.encode (kind.toJson x).text.toList

def Kind.serialiseList (kind : Kind) (xs : List kind.Record) : List UInt8 :=
  Utf8.encode (Value.list (xs.map kind.toJson)).text.toList

theorem Kind.readAll_serialise (kind : Kind) (x : kind.Record) :
    readAll kind.schema.read (kind.serialise x) = .ok x :=
  readAll_carried kind.reads (kind.carries x)

theorem Kind.readAll_serialiseList (kind : Kind) (xs : List kind.Record) :
    readAll (list kind.schema.read) (kind.serialiseList xs) = .ok xs :=
  readAll_carried (reads_list kind.reads) (carries_list kind.carries)

/-- A record is written with the names of its fields and read back as itself, also as one of many; and whatever bytes
are read as records, writing the records and reading them again changes nothing. -/
theorem Kind.round_trip (kind : Kind) :
    (∀ x, ∃ members, kind.toJson x = .object members ∧ members.map Prod.fst = kind.names) ∧
    (∀ x, readAll kind.schema.read (kind.serialise x) = .ok x) ∧
    (∀ xs, readAll (list kind.schema.read) (kind.serialiseList xs) = .ok xs) ∧
    (∀ bytes, (do readAll kind.schema.read (kind.serialise (← readAll kind.schema.read bytes))) =
      readAll kind.schema.read bytes) ∧
    (∀ bytes, (do readAll (list kind.schema.read) (kind.serialiseList (← readAll (list kind.schema.read) bytes))) =
      readAll (list kind.schema.read) bytes) := by
  refine ⟨?_, kind.readAll_serialise, kind.readAll_serialiseList, ?_, ?_⟩
  · intro x
    cases kind <;> exact ⟨_, rfl, rfl⟩
  · intro bytes
    cases readAll kind.schema.read bytes with
    | error failure => rfl
    | ok x => exact kind.readAll_serialise x
  · intro bytes
    cases readAll (list kind.schema.read) bytes with
    | error failure => rfl
    | ok xs => exact kind.readAll_serialiseList xs

end Catalog
