import Catalog.Proofs.Requests

set_option autoImplicit false

namespace Catalog

namespace Url

-- A path goes on until its query or its fragment begins.
def isPathChar (c : Char) : Bool :=
  c != '?' && c != '#'

structure IsSegment (id : List Char) : Prop where
  inert : ∀ c ∈ id, isPathChar c = true
  undivided : '/' ∉ id
  undotted : id ≠ ['.'] ∧ id ≠ ['.', '.']

structure Holds (text : List Char) (before : List (List Char)) (segment : List Char) (after : List (List Char)) :
    Prop where
  segments : Text.splitAt '/' (text.takeWhile isPathChar) = before ++ segment :: after
  ends : text.dropWhile isPathChar = []
  undotted : segment ≠ ['.'] ∧ segment ≠ ['.', '.']

theorem holds_iff {front id back segment : List Char} (first : ∀ c ∈ front, isPathChar c = true)
    (last : ∀ c ∈ back, isPathChar c = true) :
    Holds (front ++ '/' :: (id ++ '/' :: back)) (Text.splitAt '/' front) segment (Text.splitAt '/' back) ↔
      segment = id ∧ IsSegment id := by
  have split : Text.splitAt '/' (front ++ '/' :: (id ++ '/' :: back)) =
      Text.splitAt '/' front ++ (Text.splitAt '/' id ++ Text.splitAt '/' back) := by
    rw [Text.splitAt_append, Text.splitAt_append]
  constructor
  · rintro ⟨segments, ends, undotted⟩
    have inert := List.dropWhile_eq_nil_iff.1 ends
    rw [List.takeWhile_eq_self_iff.2 inert, split] at segments
    have alone : Text.splitAt '/' id = [segment] :=
      List.append_cancel_right (List.append_cancel_left segments)
    have whole : segment = id := by
      rw [← Text.joinWith_splitAt '/' id, alone, Text.joinWith]
    subst whole
    refine ⟨rfl, fun c member => inert c (by simp [member]), ?_, undotted⟩
    exact Text.notMem_of_mem_splitAt '/' segment segment (alone ▸ List.mem_singleton.2 rfl)
  · rintro ⟨rfl, inert, undivided, undotted⟩
    have whole : ∀ c ∈ front ++ '/' :: (segment ++ '/' :: back), isPathChar c = true := by
      simp only [List.forall_mem_append, List.forall_mem_cons]
      exact ⟨first, rfl, inert, rfl, last⟩
    refine ⟨?_, List.dropWhile_eq_nil_iff.2 whole, undotted⟩
    rw [List.takeWhile_eq_self_iff.2 whole, split, Text.splitAt_of_notMem _ _ undivided]
    rfl

def after (base url : String) : List Char :=
  url.toList.drop base.toList.length

end Url

theorem isDigit_toString (n : UInt32) : ∀ c ∈ (toString n).toList, c.isDigit = true := by
  have digits : (toString n).toList = Nat.toDigits 10 n.toNat := String.toList_ofList
  rw [digits]
  exact fun c => Nat.isDigit_of_mem_toDigits (by decide) (by decide)

theorem isPathChar_of_isDigit {c : Char} (digit : c.isDigit = true) : Url.isPathChar c = true ∧ c ≠ '/' := by
  constructor
  · rw [Url.isPathChar, Bool.and_eq_true, bne_iff_ne, bne_iff_ne]
    constructor <;> rintro rfl <;> exact absurd digit (by decide)
  · rintro rfl
    exact absurd digit (by decide)

theorem isPathChar_toString (n : UInt32) : ∀ c ∈ (toString n).toList, Url.isPathChar c = true := fun c member =>
  (isPathChar_of_isDigit (isDigit_toString n c member)).1

theorem splitAt_toString (n : UInt32) : Text.splitAt '/' (toString n).toList = [(toString n).toList] :=
  Text.splitAt_of_notMem _ _ fun member => (isPathChar_of_isDigit (isDigit_toString n _ member)).2 rfl

section

variable (config : Config) (locator : Locator) (item : ContentItem) (segment : List Char)

theorem holds_entries_iff : Url.Holds (Url.after config.baseUrl ((config.entriesCall locator).request config).url)
    [[], "search".toList, "entries".toList] segment [(toString locator.category).toList] ↔
      segment = locator.id.toList ∧ Url.IsSegment locator.id.toList := by
  have text : Url.after config.baseUrl ((config.entriesCall locator).request config).url =
      "/search/entries".toList ++ '/' :: (locator.id.toList ++ '/' :: (toString locator.category).toList) := by
    rw [Url.after, url_entries, List.drop_left]
    simp
  rw [text, ← splitAt_toString locator.category]
  exact Url.holds_iff (List.all_eq_true.1 (by decide)) (isPathChar_toString _)

theorem holds_download_iff : Url.Holds (Url.after config.baseUrl ((config.downloadCall locator item).request config).url)
    [[], "search".toList, "bin".toList] segment [(toString locator.category).toList, (toString item.id).toList] ↔
      segment = locator.id.toList ∧ Url.IsSegment locator.id.toList := by
  have text : Url.after config.baseUrl ((config.downloadCall locator item).request config).url =
      "/search/bin".toList ++ '/' :: (locator.id.toList ++ '/' ::
        ((toString locator.category).toList ++ '/' :: (toString item.id).toList)) := by
    rw [Url.after, url_download, List.drop_left]
    simp
  have split : Text.splitAt '/' ((toString locator.category).toList ++ '/' :: (toString item.id).toList) =
      [(toString locator.category).toList, (toString item.id).toList] := by
    rw [Text.splitAt_append, splitAt_toString, splitAt_toString]
    rfl
  rw [text, ← split]
  refine Url.holds_iff (List.all_eq_true.1 (by decide)) ?_
  simp only [List.forall_mem_append, List.forall_mem_cons]
  exact ⟨isPathChar_toString _, rfl, isPathChar_toString _⟩

/-- An id is one segment of the paths that are asked for exactly if it could stand in any path. -/
theorem Config.locator_held :
    (Url.Holds (Url.after config.baseUrl ((config.entriesCall locator).request config).url)
        [[], "search".toList, "entries".toList] segment [(toString locator.category).toList] ↔
      segment = locator.id.toList ∧ Url.IsSegment locator.id.toList) ∧
    (Url.Holds (Url.after config.baseUrl ((config.downloadCall locator item).request config).url)
        [[], "search".toList, "bin".toList] segment [(toString locator.category).toList, (toString item.id).toList] ↔
      segment = locator.id.toList ∧ Url.IsSegment locator.id.toList) :=
  ⟨holds_entries_iff config locator segment, holds_download_iff config locator item segment⟩

end

namespace Sample

def near : Config := { config with baseUrl := "http://h" }

def strange : List String := ["a/b", "a?b", "a#b", ".", ".."]

end Sample

theorem Config.locator_held_strange :
    ('?' ∉ Sample.near.baseUrl.toList ∧ '#' ∉ Sample.near.baseUrl.toList) ∧ ∀ id ∈ Sample.strange,
      (¬ ∃ segment, Url.Holds
        (Url.after Sample.near.baseUrl ((Sample.near.entriesCall ⟨id, 1⟩).request Sample.near).url)
        [[], "search".toList, "entries".toList] segment ["1".toList]) ∧
      ¬ ∃ segment, Url.Holds
        (Url.after Sample.near.baseUrl ((Sample.near.downloadCall ⟨id, 1⟩ ⟨2, "p"⟩).request Sample.near).url)
        [[], "search".toList, "bin".toList] segment ["1".toList, "2".toList] := by
  have unfit : ∀ id ∈ Sample.strange, ¬ Url.IsSegment id.toList := by
    intro id member held
    simp only [Sample.strange, List.mem_cons, List.not_mem_nil, or_false] at member
    rcases member with rfl | rfl | rfl | rfl | rfl
    · exact held.undivided (by decide)
    · exact absurd (held.inert '?' (by decide)) (by decide)
    · exact absurd (held.inert '#' (by decide)) (by decide)
    · exact held.undotted.1 (by decide)
    · exact held.undotted.2 (by decide)
  have one : toString (1 : UInt32) = "1" := by decide +kernel
  have two : toString (2 : UInt32) = "2" := by decide +kernel
  refine ⟨by decide, fun id member => ⟨?_, ?_⟩⟩
  · rw [← one]
    rintro ⟨segment, holds⟩
    exact unfit id member ((holds_entries_iff Sample.near ⟨id, 1⟩ segment).1 holds).2
  · rw [← one, ← two]
    rintro ⟨segment, holds⟩
    exact unfit id member ((holds_download_iff Sample.near ⟨id, 1⟩ ⟨2, "p"⟩ segment).1 holds).2

end Catalog
