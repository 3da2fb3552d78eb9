import Mathlib.Tactic.SplitIfs
import Catalog.Files.Path

set_option autoImplicit false

namespace Catalog.Path

theorem isUp_eq_true_iff (segment : List Char) : isUp segment = true ↔ segment = ['.', '.'] := by
  simp [isUp]

theorem isIdle_eq_true_iff (segment : List Char) : isIdle segment = true ↔ segment = [] ∨ segment = ['.'] := by
  simp [isIdle]

theorem not_isIdle_of_isUp {segment : List Char} (up : isUp segment = true) : isIdle segment = false := by
  rw [isUp_eq_true_iff] at up
  simp [up, isIdle]

theorem segments_append_slash (left right : List Char) :
    segments (left ++ '/' :: right) = segments left ++ segments right :=
  Text.splitAt_append '/' left right

theorem segments_slash (path : List Char) : segments ('/' :: path) = [] :: segments path :=
  segments_append_slash [] path

theorem segments_of_notMem {text : List Char} (free : '/' ∉ text) : segments text = [text] :=
  Text.splitAt_of_notMem '/' text free

def inner (path : List Char) : List Component :=
  (segments path).filterMap component?

-- What was read since the last slash is the start of the segment that comes next, and has no slash in it.
theorem componentsFrom_eq (read path : List Char) (free : '/' ∉ read) :
    componentsFrom read path = inner (read.reverse ++ path) := by
  induction path generalizing read with
  | nil =>
    have alone : segments (read.reverse ++ []) = [read.reverse] := by
      rw [List.append_nil]
      exact segments_of_notMem (by simpa using free)
    rw [inner, alone]
    cases found : component? read.reverse <;> simp [componentsFrom, found]
  | cons c rest ih =>
    by_cases slash : c = '/'
    · have later := ih [] (List.not_mem_nil)
      have closed : segments read.reverse = [read.reverse] := segments_of_notMem (by simpa using free)
      rw [slash, inner, segments_append_slash, closed, componentsFrom, if_pos rfl, later]
      cases found : component? read.reverse <;> simp [found, inner]
    · have further := ih (c :: read) (by simp [free, Ne.symm slash])
      rw [componentsFrom, if_neg slash, further, List.reverse_cons, List.append_assoc, List.singleton_append]

def StartsAtDot (path : List Char) : Prop :=
  path = ['.'] ∨ ∃ rest, path = '.' :: '/' :: rest

inductive Opens (path : List Char) : List Component → Prop where
  | root (absolute : isAbsolute path = true) : Opens path [.root]
  | here (relative : isAbsolute path = false) (dotted : StartsAtDot path) : Opens path [.here]
  | bare (relative : isAbsolute path = false) (undotted : ¬ StartsAtDot path) : Opens path []

theorem components_eq (path : List Char) : ∃ start, Opens path start ∧ components path = start ++ inner path := by
  have read (text : List Char) : componentsFrom [] text = inner text := componentsFrom_eq [] text List.not_mem_nil
  unfold components
  split
  next rest =>
    have same : inner ('/' :: rest) = inner rest := by simp [inner, segments_slash, component?, isIdle]
    exact ⟨_, .root rfl, by rw [read, same]; rfl⟩
  next => exact ⟨_, .here rfl (.inl rfl), rfl⟩
  next rest =>
    have same : inner ('.' :: '/' :: rest) = inner rest := by
      have split : segments ('.' :: '/' :: rest) = segments ['.'] ++ segments rest := segments_append_slash ['.'] rest
      rw [inner, split]
      rfl
    exact ⟨_, .here rfl (.inr ⟨rest, rfl⟩), by rw [read, same]; rfl⟩
  next notRoot notDot notDotted =>
    refine ⟨_, .bare ?_ ?_, read path⟩
    · cases path with
      | nil => rfl
      | cons c rest =>
        have named : c ≠ '/' := fun slash => notRoot rest (congrArg (· :: rest) slash)
        simpa [isAbsolute] using named
    · rintro (rfl | ⟨rest, rfl⟩)
      · exact notDot rfl
      · exact notDotted rest rfl

theorem component?_eq_none_iff (segment : List Char) : component? segment = none ↔ isIdle segment = true := by
  unfold component?
  split_ifs <;> simp_all

theorem inner_ne_nil {path : List Char} (filled : path ≠ []) (relative : isAbsolute path = false)
    (undotted : ¬ StartsAtDot path) : inner path ≠ [] := by
  intro none
  have idle : ∀ segment ∈ segments path, isIdle segment = true := by
    intro segment member
    exact (component?_eq_none_iff segment).1 (List.filterMap_eq_nil_iff.1 none segment member)
  have text := join_segments path
  cases whole : segments path with
  | nil => exact Text.splitAt_ne_nil '/' path whole
  | cons first others =>
    rw [whole] at text idle
    rcases (isIdle_eq_true_iff first).1 (idle first List.mem_cons_self) with rfl | rfl
    · cases others with
      | nil => exact filled text.symm
      | cons second more =>
        rw [← text] at relative
        cases relative
    · cases others with
      | nil => exact undotted (.inl text.symm)
      | cons second more => exact undotted (.inr ⟨_, text.symm⟩)

theorem components_eq_nil_iff (path : List Char) : components path = [] ↔ path = [] := by
  constructor
  · intro none
    obtain ⟨start, opens, whole⟩ := components_eq path
    rw [whole, List.append_eq_nil_iff] at none
    obtain ⟨rfl, none⟩ := none
    cases opens with
    | bare relative undotted => exact Classical.byContradiction fun filled => inner_ne_nil filled relative undotted none
  · rintro rfl
    rfl

theorem isEmpty_components_iff (text : String) : (components text.toList).isEmpty = true ↔ text = "" := by
  rw [List.isEmpty_iff, components_eq_nil_iff, String.toList_eq_nil_iff]

theorem name?_component? (segment : List Char) : (component? segment).bind Component.name? =
    if isIdle segment || isUp segment then none else some segment := by
  unfold component?
  split_ifs <;> simp_all [Component.name?]

theorem filterMap_name?_components (path : List Char) : (components path).filterMap Component.name? =
    (segments path).filter fun segment => !(isIdle segment || isUp segment) := by
  obtain ⟨start, opens, whole⟩ := components_eq path
  have unnamed : start.filterMap Component.name? = [] := by cases opens <;> rfl
  rw [whole, List.filterMap_append, unnamed, List.nil_append, inner, List.filterMap_filterMap,
    ← List.filterMap_eq_filter]
  congr 1
  funext segment
  rw [name?_component?]
  cases passed : isIdle segment || isUp segment <;> simp [Option.guard, passed]

theorem component?_of_isUp {segment : List Char} (up : isUp segment = true) : component? segment = some .up := by
  simp [component?, not_isIdle_of_isUp up, up]

theorem isInner_of_component? {segment : List Char} {component : Component}
    (found : component? segment = some component) (down : isUp segment = false) : component.isInner = true := by
  unfold component? at found
  split_ifs at found with idle up
  · rw [down] at up
    cases up
  · obtain rfl := Option.some.inj found
    rfl

theorem staysBelow_iff (path : List Char) :
    staysBelow path = true ↔ isAbsolute path = false ∧ ∀ segment ∈ segments path, isUp segment = false := by
  have down : (inner path).all Component.isInner = true ↔ ∀ segment ∈ segments path, isUp segment = false := by
    simp only [inner, List.all_eq_true, List.mem_filterMap]
    constructor
    · intro all segment member
      rw [Bool.eq_false_iff]
      intro up
      cases all .up ⟨segment, member, component?_of_isUp up⟩
    · rintro down component ⟨segment, member, found⟩
      exact isInner_of_component? found (down segment member)
  obtain ⟨start, opens, whole⟩ := components_eq path
  rw [staysBelow, whole, List.all_append, Bool.and_eq_true, down]
  cases opens with
  | root absolute => simp [absolute, Component.isInner]
  | here relative => simp [relative, Component.isInner]
  | bare relative => simp [relative]

end Catalog.Path
