import Mathlib.Data.List.Infix
import Catalog.Query
import Catalog.Text.Split

set_option autoImplicit false

namespace Catalog

namespace Text

def cutAt (mark : List Char) : List Char → List Char × Option (List Char)
  | [] => ([], none)
  | c :: rest =>
    match mark.isPrefixOf? (c :: rest) with
    | some after => ([], some after)
    | none =>
      let (before, after) := cutAt mark rest
      (c :: before, after)

theorem cutAt_append {m : Char} {mark front : List Char} (once : m ∉ mark) (free : ¬ m :: mark <:+: front)
    (back : List Char) : cutAt (m :: mark) (front ++ (m :: mark ++ back)) = (front, some back) := by
  induction front with
  | nil =>
    have here : (m :: mark).isPrefixOf? (m :: (mark ++ back)) = some back :=
      List.isPrefixOf?_eq_some_iff_append_eq.2 rfl
    simp only [List.nil_append, List.cons_append, cutAt, here]
  | cons c rest ih =>
    rw [List.infix_cons_iff, not_or] at free
    have later : (m :: mark).isPrefixOf? (c :: (rest ++ (m :: mark ++ back))) = none := by
      cases found : (m :: mark).isPrefixOf? (c :: (rest ++ (m :: mark ++ back))) with
      | none => rfl
      | some after =>
        obtain ⟨rfl, tails⟩ := List.cons.inj (List.isPrefixOf?_eq_some_iff_append_eq.1 found)
        -- A mark that begins in the front would end there, or have its first character once more.
        rcases List.append_eq_append_iff.1 tails with ⟨more, rfl, -⟩ | ⟨more, cut, begins⟩
        · exact absurd (List.prefix_append ..) free.1
        · cases more with
          | nil => exact absurd (by simp [cut]) free.1
          | cons first others =>
            obtain ⟨rfl, -⟩ := List.cons.inj begins
            exact absurd (by simp [cut]) once
    rw [List.cons_append, cutAt, later]
    simp only [ih free.2]

end Text

namespace Filter

def quotes (key : String) : List Char :=
  if quotedKeys.contains key then ['"'] else []

theorem toList_clause (filter : Filter) : filter.clause.toList =
    '(' :: (filter.key.toList ++ ':' :: (quotes filter.key ++ (filter.value.toList ++ (quotes filter.key ++ [')'])))) := by
  unfold clause quotes
  split <;> simp

-- What ends a value where another clause comes after it.
def closing (key : String) : List Char :=
  quotes key ++ ") & (".toList

theorem closing_cons (key : String) : ∃ m mark, closing key = m :: mark ∧ m ∉ mark := by
  unfold closing quotes
  split
  · exact ⟨'"', ") & (".toList, rfl, by decide⟩
  · exact ⟨')', " & (".toList, rfl, by decide⟩

structure Clear (filter : Filter) : Prop where
  key : ':' ∉ filter.key.toList
  value : ¬ closing filter.key <:+: filter.value.toList

end Filter

def readClauses : Nat → List Char → List Filter
  | 0, _ => []
  | limit + 1, text =>
    if text.isEmpty then []
    else
      let (key, rest) := Text.cut ':' text
      let key := String.ofList key
      let (value, more) := Text.cutAt (Filter.closing key) ((rest.getD []).drop (Filter.quotes key).length)
      ⟨key, String.ofList value⟩ :: readClauses limit (more.getD [])

def readQuery (query : String) : List Filter :=
  match query.toList with
  | [] => []
  | _ :: rest =>
    -- With one more opening at the end, every clause is followed by one. A clause has at least one character.
    let text := rest ++ " & (".toList
    readClauses text.length text

-- Clauses without the opening of the first, and with one after the last.
def shifted (filters : List Filter) : List Char :=
  filters.flatMap fun filter => filter.key.toList ++ ':' ::
    (Filter.quotes filter.key ++ (filter.value.toList ++ Filter.closing filter.key))

theorem toList_buildQuery {filters : List Filter} (some : filters ≠ []) :
    (buildQuery filters).toList ++ " & (".toList = '(' :: shifted filters := by
  induction filters with
  | nil => exact absurd rfl some
  | cons filter rest ih =>
    cases rest with
    | nil => simp [buildQuery, shifted, Filter.toList_clause, Filter.closing]
    | cons next others =>
      have joined : buildQuery (filter :: next :: others) = filter.clause ++ " & " ++ buildQuery (next :: others) :=
        String.intercalate_cons_cons
      rw [joined, String.toList_append, String.toList_append, List.append_assoc, ih (by simp)]
      simp [shifted, Filter.toList_clause, Filter.closing]

theorem length_shifted (filters : List Filter) : filters.length ≤ (shifted filters).length := by
  induction filters with
  | nil => exact Nat.le_refl 0
  | cons filter rest ih =>
    simp only [shifted, List.flatMap_cons, List.length_append, List.length_cons] at ih ⊢
    omega

theorem readClauses_shifted {filters : List Filter} (clear : ∀ filter ∈ filters, filter.Clear) {limit : Nat}
    (enough : filters.length ≤ limit) : readClauses limit (shifted filters) = filters := by
  induction filters generalizing limit with
  | nil => cases limit <;> rfl
  | cons filter rest ih =>
    obtain ⟨own, others⟩ := List.forall_mem_cons.1 clear
    obtain ⟨limit, rfl⟩ : ∃ less, limit = less + 1 := ⟨limit - 1, by simp at enough; omega⟩
    obtain ⟨m, mark, closing, once⟩ := Filter.closing_cons filter.key
    have text : shifted (filter :: rest) = filter.key.toList ++ ':' ::
        (Filter.quotes filter.key ++ (filter.value.toList ++ (Filter.closing filter.key ++ shifted rest))) := by
      simp [shifted]
    have value : Text.cutAt (Filter.closing filter.key)
        (filter.value.toList ++ (Filter.closing filter.key ++ shifted rest)) =
          (filter.value.toList, some (shifted rest)) := by
      have free := own.value
      rw [closing] at free ⊢
      exact Text.cutAt_append once free (shifted rest)
    have filled : ¬ (shifted (filter :: rest)).isEmpty := by simp [text]
    rw [readClauses, if_neg filled, text, Text.cut_append _ _ _ own.key]
    simp only [String.ofList_toList, Option.getD_some, List.drop_left, value]
    rw [ih others (by simpa using enough)]

theorem readQuery_buildQuery {filters : List Filter} (clear : ∀ filter ∈ filters, filter.Clear) :
    readQuery (buildQuery filters) = filters := by
  by_cases none : filters = []
  · rw [none]
    rfl
  · have shift := toList_buildQuery none
    have filled : (buildQuery filters).toList ≠ [] := by
      intro empty
      rw [empty] at shift
      exact absurd (List.cons.inj shift).1 (by decide)
    obtain ⟨c, rest, text⟩ := List.exists_cons_of_ne_nil filled
    rw [text, List.cons_append] at shift
    have tail := (List.cons.inj shift).2
    simp only [readQuery, text, tail]
    exact readClauses_shifted clear (length_shifted filters)

theorem buildQuery_injective {filters others : List Filter} (clear : ∀ filter ∈ filters, filter.Clear)
    (also : ∀ filter ∈ others, filter.Clear) (same : buildQuery filters = buildQuery others) : filters = others := by
  rw [← readQuery_buildQuery clear, same, readQuery_buildQuery also]

def nameEnd : List Char := '"' :: ") & (type:".toList

def kindEnd : List Char := ')' :: " & (category:".toList

-- The category comes last, so nothing can be taken for its end.
def ClearTitle (name kind : String) : Prop :=
  ¬ nameEnd <:+: name.toList ∧ ¬ kindEnd <:+: kind.toList

theorem toList_titleQuery (name kind category : String) : (buildQuery (titleFilters name kind category)).toList =
    "(name:\"".toList ++ (name.toList ++ (nameEnd ++ (kind.toList ++ (kindEnd ++ (category.toList ++ [')']))))) := by
  have quoted : "name" ∈ quotedKeys ∧ "type" ∉ quotedKeys ∧ "category" ∉ quotedKeys := by decide
  simp [titleFilters, buildQuery, Filter.clause, quoted, nameEnd, kindEnd, String.intercalate_cons_cons]

theorem titleQuery_injective {name kind category name' kind' category' : String} (clear : ClearTitle name kind)
    (also : ClearTitle name' kind')
    (same : buildQuery (titleFilters name kind category) = buildQuery (titleFilters name' kind' category')) :
    name = name' ∧ kind = kind' ∧ category = category' := by
  have named {text : List Char} (free : ¬ nameEnd <:+: text) (back : List Char) :
      Text.cutAt nameEnd (text ++ (nameEnd ++ back)) = (text, some back) := Text.cutAt_append (by decide) free back
  have typed {text : List Char} (free : ¬ kindEnd <:+: text) (back : List Char) :
      Text.cutAt kindEnd (text ++ (kindEnd ++ back)) = (text, some back) := Text.cutAt_append (by decide) free back
  have texts := congrArg String.toList same
  rw [toList_titleQuery, toList_titleQuery] at texts
  have first := congrArg (Text.cutAt nameEnd) (List.append_cancel_left texts)
  rw [named clear.1, named also.1] at first
  have second := congrArg (Text.cutAt kindEnd) (Option.some.inj (Prod.mk.inj first).2)
  rw [typed clear.2, typed also.2] at second
  have last := List.append_cancel_right (Option.some.inj (Prod.mk.inj second).2)
  exact ⟨String.toList_injective (Prod.mk.inj first).1, String.toList_injective (Prod.mk.inj second).1,
    String.toList_injective last⟩

-- No weaker condition tells titles apart: one that is not clear shares its query with another.
theorem titleQuery_shared {name kind : String} (unclear : ¬ ClearTitle name kind) (category : String) :
    ∃ name' kind' category', (name', kind', category') ≠ (name, kind, category) ∧
      buildQuery (titleFilters name' kind' category') = buildQuery (titleFilters name kind category) := by
  rw [ClearTitle, not_and_or, not_not, not_not] at unclear
  rcases unclear with ⟨front, back, inside⟩ | ⟨front, back, inside⟩
  · refine ⟨String.ofList front, String.ofList (back ++ nameEnd ++ kind.toList), category, ?_, ?_⟩
    · intro same
      have names := (Prod.mk.inj same).1
      have shorter := congrArg List.length inside
      rw [← names, String.toList_ofList, List.length_append, List.length_append] at shorter
      have some : nameEnd.length = 11 := rfl
      omega
    · apply String.toList_injective
      simp [toList_titleQuery, ← inside]
  · refine ⟨name, String.ofList front, String.ofList (back ++ kindEnd ++ category.toList), ?_, ?_⟩
    · intro same
      have kinds := (Prod.mk.inj (Prod.mk.inj same).2).1
      have shorter := congrArg List.length inside
      rw [← kinds, String.toList_ofList, List.length_append, List.length_append] at shorter
      have some : kindEnd.length = 14 := rfl
      omega
    · apply String.toList_injective
      simp [toList_titleQuery, ← inside]

/-- Filters come back from their query if all of them are clear, and so do titles. -/
theorem buildQuery_recovered :
    (∀ filters : List Filter, (∀ filter ∈ filters, filter.Clear) → readQuery (buildQuery filters) = filters) ∧
    (∀ filters others : List Filter, (∀ filter ∈ filters, filter.Clear) → (∀ filter ∈ others, filter.Clear) →
      buildQuery filters = buildQuery others → filters = others) ∧
    ∀ name kind category name' kind' category' : String, ClearTitle name kind → ClearTitle name' kind' →
      buildQuery (titleFilters name kind category) = buildQuery (titleFilters name' kind' category') →
        name = name' ∧ kind = kind' ∧ category = category' :=
  ⟨fun _ => readQuery_buildQuery, fun _ _ => buildQuery_injective, fun _ _ _ _ _ _ => titleQuery_injective⟩

theorem buildQuery_recovered_confused :
    (([⟨"type", "a) & (b:c"⟩] : List Filter) ≠ [⟨"type", "a"⟩, ⟨"b", "c"⟩] ∧
      buildQuery [⟨"type", "a) & (b:c"⟩] = buildQuery [⟨"type", "a"⟩, ⟨"b", "c"⟩]) ∧
    (([⟨"name", "a\") & (b:c"⟩] : List Filter) ≠ [⟨"name", "a"⟩, ⟨"b", "c\""⟩] ∧
      buildQuery [⟨"name", "a\") & (b:c"⟩] = buildQuery [⟨"name", "a"⟩, ⟨"b", "c\""⟩]) ∧
    (([⟨"a:b", "c"⟩] : List Filter) ≠ [⟨"a", "b:c"⟩] ∧ buildQuery [⟨"a:b", "c"⟩] = buildQuery [⟨"a", "b:c"⟩]) ∧
    (titleFilters "x" "a) & (category:b" "c" ≠ titleFilters "x" "a" "b) & (category:c" ∧
      buildQuery (titleFilters "x" "a) & (category:b" "c") = buildQuery (titleFilters "x" "a" "b) & (category:c")) ∧
    titleFilters "a\") & (type:b" "c" "d" ≠ titleFilters "a" "b\") & (type:c" "d" ∧
      buildQuery (titleFilters "a\") & (type:b" "c" "d") = buildQuery (titleFilters "a" "b\") & (type:c" "d") := by
  decide +kernel

namespace Sample

-- Values with separators inside that end no clause.
def tricky : List Filter := [⟨"name", "R&B \"(1) & (2)\""⟩, ⟨"type", "d64 (a:b)"⟩]

end Sample

theorem buildQuery_recovered_second :
    (∀ filter ∈ Sample.tricky, filter.Clear) ∧ readQuery (buildQuery Sample.tricky) = Sample.tricky ∧
      buildQuery Sample.tricky ≠ buildQuery [] ∧ ClearTitle "a) & (b" "c" ∧ ClearTitle "a" "b) & (c" ∧
      buildQuery (titleFilters "a) & (b" "c" "d") ≠ buildQuery (titleFilters "a" "b) & (c" "d") := by
  have clear : ∀ filter ∈ Sample.tricky, filter.Clear :=
    List.forall_mem_cons.2 ⟨⟨by decide, by decide⟩, List.forall_mem_singleton.2 ⟨by decide, by decide⟩⟩
  have one : ClearTitle "a) & (b" "c" := ⟨by decide, by decide⟩
  have two : ClearTitle "a" "b) & (c" := ⟨by decide, by decide⟩
  obtain ⟨recovered, injective, titles⟩ := buildQuery_recovered
  refine ⟨clear, recovered _ clear, fun same => ?_, one, two, fun same => ?_⟩
  · exact absurd (injective _ [] clear (by simp) same) (by decide)
  · exact absurd (titles _ _ _ _ _ _ one two same).1 (by decide)

end Catalog
