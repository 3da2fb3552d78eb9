import Catalog.Proofs.Json.Literals

set_option autoImplicit false

namespace Catalog.Json

def textOf? : List Mark → Option (List Char)
  | [] => some []
  | .plain c _ :: rest => (textOf? rest).map (c :: ·)
  | .short letter :: rest => (textOf? rest).map (letter.char :: ·)
  | .numbered quad :: rest =>
    if isTrailing quad.number then none
    else if isLeading quad.number then
      match rest with
      | .numbered second :: rest =>
        if isTrailing second.number then
          (textOf? rest).map (Char.ofNat ((quad.number - 0xD800) * 1024 + (second.number - 0xDC00) + 0x10000) :: ·)
        else none
      | _ => none
    else (textOf? rest).map (Char.ofNat quad.number :: ·)

def string? : Literal → Option String
  | .string marks => (textOf? marks).map String.ofList
  | _ => none

def natural32? : Literal → Option UInt32
  | .number n =>
    if n.isNegative = false ∧ n.fraction = none ∧ n.exponent = none ∧ n.whole.value ≤ 4294967295 then
      some (UInt32.ofNat n.whole.value)
    else none
  | _ => none

section

variable {α β : Type}

def optional? (permit : Literal → Option β) : Literal → Option (Option β)
  | .null => some none
  | literal => (permit literal).map some

def list? (permit : Literal → Option β) : Literal → Option (List β)
  | .list elements _ => elements.mapM fun element => permit element.value
  | _ => none

-- What a field is given: nothing but its default where no member has its name, the meaning of the value where
-- one has, and none where several have.
def field? (members : List (String × Literal)) (name : String) (permit : Literal → Option β) (absent : Option β) :
    Option β :=
  match members.filter (·.1 == name) with
  | [] => absent
  | [member] => permit member.2
  | _ => none

def Member.name? (member : Member Literal) : Option String :=
  (textOf? member.name).map String.ofList

def Member.named? (member : Member Literal) : Option (String × Literal) :=
  member.name?.map fun name => (name, member.value)

def record? (names : List String) (ofMembers? : List (String × Literal) → Option α) : Literal → Option α
  | .object members _ => members.mapM Member.named? >>= ofMembers?
  | .list elements _ =>
    if elements.length ≤ names.length then ofMembers? (names.zip (elements.map (·.value))) else none
  | _ => none

theorem field?_perm {members others : List (String × Literal)} (same : members.Perm others) (name : String)
    (permit : Literal → Option β) (absent : Option β) :
    field? members name permit absent = field? others name permit absent := by
  have filtered := same.filter (·.1 == name)
  rw [field?, field?]
  generalize members.filter (·.1 == name) = first at filtered
  generalize others.filter (·.1 == name) = second at filtered
  match first with
  | [] => rw [filtered.nil_eq]
  | [member] => rw [List.singleton_perm.1 filtered]
  | member :: next :: rest =>
    obtain ⟨a, b, more, rfl⟩ : ∃ a b more, second = a :: b :: more := by
      match second, filtered.length_eq with
      | a :: b :: more, _ => exact ⟨a, b, more, rfl⟩
    rfl

theorem field?_unknown {other name : String} (different : other ≠ name) (front back : List (String × Literal))
    (value : Literal) (permit : Literal → Option β) (absent : Option β) :
    field? (front ++ (other, value) :: back) name permit absent = field? (front ++ back) name permit absent := by
  have dropped : ((other, value) :: back).filter (·.1 == name) = back.filter (·.1 == name) :=
    List.filter_cons_of_neg (by simpa using different)
  rw [field?, field?, List.filter_append, List.filter_append, dropped]

theorem mapM_cons_eq_some {f : α → Option β} {x : α} {xs : List α} {us : List β} :
    (x :: xs).mapM f = some us ↔ ∃ v vs, us = v :: vs ∧ f x = some v ∧ xs.mapM f = some vs := by
  rw [List.mapM_cons]
  cases f x with
  | none => simp
  | some v => cases xs.mapM f <;> simp [eq_comm]

theorem mapM_perm {f : α → Option β} {xs ys : List α} (same : xs.Perm ys) {us : List β} (given : xs.mapM f = some us) :
    ∃ vs, ys.mapM f = some vs ∧ us.Perm vs := by
  induction same generalizing us with
  | nil => exact ⟨us, given, .refl us⟩
  | @cons x xs ys same ih =>
    obtain ⟨u, us, rfl, first, later⟩ := mapM_cons_eq_some.1 given
    obtain ⟨vs, others, permuted⟩ := ih later
    exact ⟨u :: vs, by simp [List.mapM_cons, first, others], permuted.cons u⟩
  | swap x y xs =>
    obtain ⟨u, us, rfl, first, rest⟩ := mapM_cons_eq_some.1 given
    obtain ⟨v, ws, rfl, second, later⟩ := mapM_cons_eq_some.1 rest
    exact ⟨v :: u :: ws, by simp [List.mapM_cons, first, second, later], .swap v u ws⟩
  | trans _ _ first second =>
    obtain ⟨vs, middle, one⟩ := first given
    obtain ⟨ws, last, two⟩ := second middle
    exact ⟨ws, last, one.trans two⟩

theorem record?_perm {names : List String} {ofMembers? : List (String × Literal) → Option α}
    (free : ∀ {members others}, members.Perm others → ofMembers? members = ofMembers? others)
    {members others : List (Member Literal)} (same : members.Perm others) (inside aside : Blanks) :
    record? names ofMembers? (.object members inside) = record? names ofMembers? (.object others aside) := by
  rw [record?, record?]
  cases first : members.mapM Member.named? with
  | none =>
    cases second : others.mapM Member.named? with
    | none => rfl
    | some named =>
      obtain ⟨_, given, -⟩ := mapM_perm same.symm second
      exact absurd (first.symm.trans given) (Option.some_ne_none _).symm
  | some named =>
    obtain ⟨_, second, permuted⟩ := mapM_perm same first
    rw [second]
    exact free permuted

theorem record?_unknown {names : List String} {ofMembers? : List (String × Literal) → Option α} {name : String}
    (free : ∀ front back value, ofMembers? (front ++ (name, value) :: back) = ofMembers? (front ++ back))
    (front back : List (Member Literal)) {member : Member Literal} (named : member.name? = some name)
    (inside aside : Blanks) :
    record? names ofMembers? (.object (front ++ member :: back) inside) =
      record? names ofMembers? (.object (front ++ back) aside) := by
  rw [record?, record?, List.mapM_append, List.mapM_append, List.mapM_cons, Member.named?, named]
  cases front.mapM Member.named? with
  | none => rfl
  | some first =>
    cases back.mapM Member.named? with
    | none => rfl
    | some last => exact free first last member.value

end

end Catalog.Json
