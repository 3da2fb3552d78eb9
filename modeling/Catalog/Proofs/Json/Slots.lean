import Catalog.Proofs.Json.Meanings
import Mathlib.Data.List.Pairwise

set_option autoImplicit false

namespace Catalog.Json

section fields

variable {β : Type} (members : List (String × Literal)) {name : String} (permit : Literal → Option β)
  (absent : Option β)

theorem field?_nil : field? [] name permit absent = absent := rfl

theorem field?_cons_eq (value : Literal) (none_later : members.filter (·.1 == name) = []) :
    field? ((name, value) :: members) name permit absent = permit value := by
  rw [field?, List.filter_cons_of_pos (by simp), none_later]

theorem field?_repeated (value : Literal) (later : members.filter (·.1 == name) ≠ []) :
    field? ((name, value) :: members) name permit absent = none := by
  obtain ⟨member, more, given⟩ := List.exists_cons_of_ne_nil later
  rw [field?, List.filter_cons_of_pos (by simp), given]

end fields

structure Slot (α : Type) where
  {β : Type}
  name : String
  absent : Option β
  permit : Literal → Option β
  write : β → α → α

section slots

variable {α : Type}

structure Separate (s t : Slot α) : Prop where
  names : s.name ≠ t.name
  commute : ∀ x y record, s.write x (t.write y record) = t.write y (s.write x record)

theorem Separate.symm {s t : Slot α} (separate : Separate s t) : Separate t s :=
  ⟨separate.names.symm, fun x y record => (separate.commute y x record).symm⟩

instance : Std.Symm (@Separate α) :=
  ⟨fun _ _ => Separate.symm⟩

def Slot.Unset (slot : Slot α) (record : α) : Prop :=
  ∀ x, slot.absent = some x → slot.write x record = record

theorem Slot.Unset.write {s t : Slot α} (separate : Separate s t) {record : α} (unset : s.Unset record) (y : t.β) :
    s.Unset (t.write y record) := by
  intro x absent
  rw [separate.commute, unset x absent]

def assemble : List (Slot α) → α → List (String × Literal) → Option α
  | [], record, _ => some record
  | slot :: rest, record, members => do
    let x ← field? members slot.name slot.permit slot.absent
    assemble rest (slot.write x record) members

theorem assemble_perm (slots : List (Slot α)) (record : α) {members others : List (String × Literal)}
    (same : members.Perm others) : assemble slots record members = assemble slots record others := by
  induction slots generalizing record with
  | nil => rfl
  | cons slot rest ih => simp only [assemble, field?_perm same, ih]

theorem assemble_unknown {slots : List (Slot α)} {name : String} (unknown : ∀ slot ∈ slots, slot.name ≠ name)
    (record : α) (front back : List (String × Literal)) (value : Literal) :
    assemble slots record (front ++ (name, value) :: back) = assemble slots record (front ++ back) := by
  induction slots generalizing record with
  | nil => rfl
  | cons slot rest ih =>
    obtain ⟨first, later⟩ := List.forall_mem_cons.1 unknown
    simp only [assemble, field?_unknown first.symm, ih later]

theorem assemble_first {slot : Slot α} {slots : List (Slot α)} (apart : ∀ other ∈ slots, Separate slot other)
    {members : List (String × Literal)} (known : ∀ member ∈ members, member.1 ∈ slots.map Slot.name) (record : α)
    (value : Literal) :
    assemble (slot :: slots) record ((slot.name, value) :: members) =
      (slot.permit value).bind fun x => assemble slots (slot.write x record) members := by
  have elsewhere : ∀ other ∈ slots, other.name ≠ slot.name := fun other present => (apart other present).names.symm
  have alone : members.filter (·.1 == slot.name) = [] := by
    rw [List.filter_eq_nil_iff]
    intro member present
    obtain ⟨other, among, same⟩ := List.mem_map.1 (known member present)
    simpa [← same] using elsewhere other among
  have unread (x : slot.β) := assemble_unknown elsewhere (slot.write x record) [] members value
  simp only [List.nil_append] at unread
  rw [assemble, field?_cons_eq _ _ _ _ alone]
  simp only [unread]
  rfl

structure Slot.Met (slot : Slot α) (members : List (String × Literal)) : Prop where
  unique : (members.filter (·.1 == slot.name)).length ≤ 1
  present : slot.absent = none → ∃ value, (slot.name, value) ∈ members
  permitted : ∀ value, (slot.name, value) ∈ members → (slot.permit value).isSome = true

theorem Slot.met_iff (slot : Slot α) (members : List (String × Literal)) :
    slot.Met members ↔ (field? members slot.name slot.permit slot.absent).isSome = true := by
  have among (value : Literal) :
      (slot.name, value) ∈ members ↔ (slot.name, value) ∈ members.filter (·.1 == slot.name) := by
    simp [List.mem_filter]
  have named : ∀ member ∈ members.filter (·.1 == slot.name), member.1 = slot.name := by
    simp [List.mem_filter]
  have met : slot.Met members ↔ (members.filter (·.1 == slot.name)).length ≤ 1 ∧
      (slot.absent = none → ∃ value, (slot.name, value) ∈ members.filter (·.1 == slot.name)) ∧
      ∀ value, (slot.name, value) ∈ members.filter (·.1 == slot.name) → (slot.permit value).isSome = true := by
    simp only [← among]
    exact ⟨fun met => ⟨met.unique, met.present, met.permitted⟩, fun ⟨unique, present, permitted⟩ =>
      ⟨unique, present, permitted⟩⟩
  rw [met, field?]
  generalize members.filter (·.1 == slot.name) = found at named
  rcases found with _ | ⟨⟨name, value⟩, _ | ⟨second, rest⟩⟩
  · cases slot.absent <;> simp
  · obtain rfl : name = slot.name := named _ (List.mem_singleton_self _)
    simp
  · simp

theorem assemble_isSome_iff (slots : List (Slot α)) (record : α) (members : List (String × Literal)) :
    (assemble slots record members).isSome = true ↔ ∀ slot ∈ slots, slot.Met members := by
  induction slots generalizing record with
  | nil => simp [assemble]
  | cons slot rest ih =>
    rw [List.forall_mem_cons, slot.met_iff, assemble]
    cases field? members slot.name slot.permit slot.absent with
    | none => simp
    | some x => simpa using ih (slot.write x record)

def collect (slots : List (Slot α)) : List String → α → List (String × Literal) → Option α
  | seen, record, [] =>
    match slots.find? fun slot => slot.absent.isNone && !seen.contains slot.name with
    | some _ => none
    | none => some record
  | seen, record, (name, value) :: rest =>
    match slots.find? (·.name == name) with
    | some slot =>
      if seen.contains name then none
      else do
        let x ← slot.permit value
        collect slots (name :: seen) (slot.write x record) rest
    | none => collect slots seen record rest

section collecting

variable {slots : List (Slot α)} {seen : List String} {record : α} {name : String} {slot : Slot α}

theorem collect_unknown (unknown : slots.find? (·.name == name) = none) (value : Literal)
    (rest : List (String × Literal)) :
    collect slots seen record ((name, value) :: rest) = collect slots seen record rest := by
  rw [collect, unknown]

variable (found : slots.find? (·.name == name) = some slot)

include found

theorem collect_repeated (read : seen.contains name = true) (value : Literal) (rest : List (String × Literal)) :
    collect slots seen record ((name, value) :: rest) = none := by
  rw [collect, found]
  exact if_pos read

theorem collect_known (unread : seen.contains name = false) (value : Literal) (rest : List (String × Literal)) :
    collect slots seen record ((name, value) :: rest) =
      (slot.permit value).bind fun x => collect slots (name :: seen) (slot.write x record) rest := by
  rw [collect, found]
  exact if_neg (by simpa using unread)

end collecting

def Slot.change? (seen : List String) (members : List (String × Literal)) (slot : Slot α) : Option (α → α) :=
  if seen.contains slot.name then
    match members.filter (·.1 == slot.name) with
    | [] => some id
    | _ => none
  else (field? members slot.name slot.permit slot.absent).map slot.write

def applyAll (change? : Slot α → Option (α → α)) : List (Slot α) → α → Option α
  | [], record => some record
  | slot :: rest, record => (change? slot).bind fun change => applyAll change? rest (change record)

theorem applyAll_congr {change? other? : Slot α → Option (α → α)} {slots : List (Slot α)}
    (same : ∀ slot ∈ slots, change? slot = other? slot) (record : α) :
    applyAll change? slots record = applyAll other? slots record := by
  induction slots generalizing record with
  | nil => rfl
  | cons slot rest ih =>
    obtain ⟨first, later⟩ := List.forall_mem_cons.1 same
    simp only [applyAll, first, ih later]

theorem applyAll_none {change? : Slot α → Option (α → α)} {slots : List (Slot α)} {slot : Slot α}
    (present : slot ∈ slots) (refused : change? slot = none) (record : α) : applyAll change? slots record = none := by
  induction slots generalizing record with
  | nil => cases present
  | cons other rest ih =>
    rcases List.mem_cons.1 present with rfl | later
    · rw [applyAll, refused]
      rfl
    · rw [applyAll]
      cases change? other with
      | none => rfl
      | some change => exact ih later (change record)

theorem Slot.change?_commute {s t : Slot α} (separate : Separate s t) {seen : List String}
    {members : List (String × Literal)} {change : α → α} (given : s.change? seen members = some change) (y : t.β)
    (record : α) :
    change (t.write y record) = t.write y (change record) := by
  unfold Slot.change? at given
  split at given
  · split at given
    · cases given
      rfl
    · cases given
  · obtain ⟨x, -, rfl⟩ := Option.map_eq_some_iff.1 given
    exact separate.commute x y record

-- A change that one field starts with can be made before all others.
theorem applyAll_first {slots : List (Slot α)} (separate : slots.Pairwise Separate) {slot : Slot α}
    (present : slot ∈ slots) {change? : Slot α → Option (α → α)} {seen : List String}
    {members : List (String × Literal)} {given : Option slot.β}
    (here : change? slot = given.bind fun x => (slot.change? seen members).map (· ∘ slot.write x))
    (elsewhere : ∀ other, Separate other slot → change? other = other.change? seen members) (record : α) :
    applyAll change? slots record =
      given.bind fun x => applyAll (Slot.change? seen members) slots (slot.write x record) := by
  induction slots generalizing record with
  | nil => cases present
  | cons other rest ih =>
    obtain ⟨apart, separate⟩ := List.pairwise_cons.1 separate
    rcases List.mem_cons.1 present with rfl | later
    · have same (changed : α) :=
        applyAll_congr (fun other member => elsewhere other (apart other member).symm) changed
      simp only [applyAll, here, same]
      cases given with
      | none => rfl
      | some x => cases slot.change? seen members <;> rfl
    · have away := apart slot later
      simp only [applyAll, elsewhere other away, ih separate later]
      cases changed : other.change? seen members with
      | none => cases given <;> rfl
      | some change =>
        cases given with
        | none => rfl
        | some x => simp [Slot.change?_commute away changed]

theorem applyAll_end {slots : List (Slot α)} {seen : List String} {record : α}
    (unset : ∀ slot ∈ slots, seen.contains slot.name = false → slot.Unset record) :
    applyAll (Slot.change? seen []) slots record =
      match slots.find? fun slot => slot.absent.isNone && !seen.contains slot.name with
      | some _ => none
      | none => some record := by
  induction slots with
  | nil => rfl
  | cons slot rest ih =>
    obtain ⟨first, later⟩ := List.forall_mem_cons.1 unset
    rw [applyAll, Slot.change?, List.find?_cons]
    cases known : seen.contains slot.name with
    | true => simpa [known] using ih later
    | false =>
      cases absent : slot.absent with
      | none => simp [field?_nil]
      | some x => simpa [field?_nil, absent, known, first known x absent] using ih later

theorem Slot.change?_cons_ne {name : String} (value : Literal) (seen : List String) (members : List (String × Literal))
    {slot : Slot α} (different : slot.name ≠ name) :
    slot.change? seen ((name, value) :: members) = slot.change? seen members := by
  have other := field?_unknown different.symm [] members value slot.permit slot.absent
  rw [List.nil_append, List.nil_append] at other
  rw [Slot.change?, Slot.change?, other, List.filter_cons_of_neg (by simpa using different.symm)]

theorem Slot.change?_seen {name : String} (seen : List String) (members : List (String × Literal)) {slot : Slot α}
    (different : slot.name ≠ name) : slot.change? (name :: seen) members = slot.change? seen members := by
  simp [Slot.change?, different]

theorem Slot.change?_cons_eq (value : Literal) {seen : List String} (members : List (String × Literal))
    {slot : Slot α} (unread : seen.contains slot.name = false) :
    slot.change? seen ((slot.name, value) :: members) =
      (slot.permit value).bind fun x => (slot.change? (slot.name :: seen) members).map (· ∘ slot.write x) := by
  rw [Slot.change?, if_neg (by simpa using unread), Slot.change?, if_pos (by simp)]
  cases later : members.filter (·.1 == slot.name) with
  | nil =>
    rw [field?_cons_eq _ _ _ value later]
    cases slot.permit value <;> rfl
  | cons member more =>
    rw [field?_repeated _ _ _ value (by simp [later])]
    cases slot.permit value <;> rfl

theorem collect_eq_applyAll {slots : List (Slot α)} (separate : slots.Pairwise Separate) {seen : List String}
    {record : α} (unset : ∀ slot ∈ slots, seen.contains slot.name = false → slot.Unset record)
    (members : List (String × Literal)) :
    collect slots seen record members = applyAll (Slot.change? seen members) slots record := by
  -- Reading a member changes what is to come for its field alone, and a field that has not been read is still unset.
  induction members generalizing seen record with
  | nil => exact (applyAll_end unset).symm
  | cons member rest ih =>
    obtain ⟨name, value⟩ := member
    cases found : slots.find? (·.name == name) with
    | none =>
      have unknown : ∀ slot ∈ slots, slot.name ≠ name := by simpa using found
      have same := fun slot present => Slot.change?_cons_ne value seen rest (unknown slot present)
      rw [collect_unknown found, applyAll_congr same]
      exact ih unset
    | some slot =>
      have present := List.mem_of_find?_eq_some found
      obtain rfl : slot.name = name := by simpa using List.find?_some found
      cases known : seen.contains slot.name with
      | true =>
        have refused : slot.change? seen ((slot.name, value) :: rest) = none := by
          rw [Slot.change?, if_pos known, List.filter_cons_of_pos (by simp)]
        rw [collect_repeated found known, applyAll_none present refused]
      | false =>
        rw [collect_known found known, applyAll_first separate present (Slot.change?_cons_eq value rest known)]
        · refine congrArg (Option.bind (slot.permit value)) (funext fun x => ih ?_)
          intro other member unread
          obtain ⟨different, unseen⟩ : other.name ≠ slot.name ∧ seen.contains other.name = false := by
            simpa [List.contains_cons] using unread
          have away := separate.forall member present (different <| congrArg Slot.name ·)
          exact (unset other member unseen).write away x
        · intro other away
          rw [Slot.change?_cons_ne value seen rest away.names, Slot.change?_seen seen rest away.names]

theorem applyAll_eq_assemble (slots : List (Slot α)) (record : α) (members : List (String × Literal)) :
    applyAll (Slot.change? [] members) slots record = assemble slots record members := by
  induction slots generalizing record with
  | nil => rfl
  | cons slot rest ih =>
    rw [applyAll, assemble, Slot.change?]
    cases field? members slot.name slot.permit slot.absent with
    | none => rfl
    | some x => exact ih (slot.write x record)

theorem collect_eq_assemble {slots : List (Slot α)} (separate : slots.Pairwise Separate) {record : α}
    (unset : ∀ slot ∈ slots, slot.Unset record) (members : List (String × Literal)) :
    collect slots [] record members = assemble slots record members := by
  rw [collect_eq_applyAll separate (fun slot present _ => unset slot present), applyAll_eq_assemble]

end slots

end Catalog.Json
