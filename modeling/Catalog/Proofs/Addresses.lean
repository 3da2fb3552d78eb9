import Mathlib.Data.List.TakeWhile
import Mathlib.Tactic.SplitIfs
import Catalog.Url.Address
import Catalog.Proofs.Forms

set_option autoImplicit false

namespace Catalog

namespace Url

def isQueryChar (c : Char) : Bool :=
  32 < c.toNat && c.toNat < 127 && !(('\'' :: ':' :: '?' :: queryMarks).contains c)

theorem isQueryChar_iff (c : Char) :
    isQueryChar c = true ↔ 32 < c.toNat ∧ c.toNat < 127 ∧ c ∉ '\'' :: ':' :: '?' :: queryMarks := by
  simp [isQueryChar, and_assoc]

section

variable {address found : Address} {special : Bool} {text : List Char}

theorem withAuthority_completes (completed : address.withAuthority special text = .ok found) :
    found.scheme = address.scheme ∧ found.query = address.query ∧ ∃ rest, found.path = pathAfter special rest := by
  unfold Address.withAuthority at completed
  simp only [bind, Except.bind] at completed
  split_ifs at completed
  all_goals
    split at completed
    · cases completed
    split_ifs at completed
    split at completed
    · cases completed
    cases completed
    exact ⟨rfl, rfl, _, rfl⟩

theorem ofFile_scheme (completed : address.ofFile text = .ok found) : found.scheme = address.scheme := by
  have kept (host : Option String) (rest : List Char) : (address.withFile host rest).scheme = address.scheme := rfl
  unfold Address.ofFile at completed
  split at completed
  next a b rest =>
    dsimp only [bind, Except.bind] at completed
    split_ifs at completed with slashes drive unnamed
    · rw [← Except.ok.inj completed, kept]
    · rw [← Except.ok.inj completed, kept]
    · split at completed
      · cases completed
      · split_ifs at completed
        · rw [← Except.ok.inj completed, kept]
        · rw [← Except.ok.inj completed, kept]
    · rw [← Except.ok.inj completed, kept]
  next => rw [← Except.ok.inj completed, kept]

end

section

variable {front form : List Char} (inert : ∀ c ∈ form, isQueryChar c = true)

include inert

theorem large_of_query : ∀ c ∈ '?' :: form, 32 < c.toNat := by
  refine List.forall_mem_cons.2 ⟨by decide, fun c member => ?_⟩
  exact ((isQueryChar_iff c).1 (inert c member)).1

theorem notMem_query {mark : Char} (marked : mark ∈ '\'' :: ':' :: '?' :: queryMarks) (other : mark ≠ '?') :
    mark ∉ '?' :: form := by
  intro member
  rcases List.mem_cons.1 member with same | member
  · exact other same
  · exact ((isQueryChar_iff mark).1 (inert mark member)).2.2 marked

theorem trimmed_query (front : List Char) :
    ∃ kept, trimmed (front ++ '?' :: form) = kept ++ '?' :: form ∧ ∀ c ∈ kept, c ∈ front := by
  let blank (c : Char) : Bool := c.toNat ≤ 32
  let shown (c : Char) : Bool := c != '\t' && c != '\n' && c != '\r'
  have large := large_of_query inert
  have start : (front ++ '?' :: form).dropWhile blank = front.dropWhile blank ++ '?' :: form := by
    have mark : ('?' :: form).dropWhile blank = '?' :: form := rfl
    rw [List.dropWhile_append, mark]
    split_ifs with gone
    · rw [List.isEmpty_iff.1 gone, List.nil_append]
    · rfl
  have finish (before : List Char) :
      (before ++ '?' :: form).reverse.dropWhile blank = (before ++ '?' :: form).reverse := by
    obtain ⟨c, rest, back⟩ := List.exists_cons_of_ne_nil (show ('?' :: form).reverse ≠ [] by simp)
    have last : ¬ blank c := by simpa [blank] using large c (List.mem_reverse.1 (back ▸ List.mem_cons_self))
    rw [List.reverse_append, back, List.cons_append, List.dropWhile_cons_of_neg last]
  have whole : ('?' :: form).filter shown = '?' :: form := by
    refine List.filter_eq_self.2 fun c member => ?_
    have apart (control : Char) (small : control.toNat ≤ 32) : (c != control) = true := by
      rw [bne_iff_ne]
      rintro rfl
      exact absurd (large c member) (by omega)
    simp [shown, apart '\t' (by decide), apart '\n' (by decide), apart '\r' (by decide)]
  refine ⟨(front.dropWhile blank).filter shown, ?_, ?_⟩
  · calc trimmed (front ++ '?' :: form)
        = (((front ++ '?' :: form).dropWhile blank).reverse.dropWhile blank).reverse.filter shown := rfl
      _ = _ := by rw [start, finish, List.reverse_reverse, List.filter_append, whole]
  · intro c member
    exact (List.dropWhile_sublist _).subset (List.mem_filter.1 member).1

theorem encodeMarks_query {marks : List Char} (known : ∀ c ∈ marks, c ∈ '\'' :: ':' :: '?' :: queryMarks) :
    encodeMarks marks form = String.ofList form := by
  have single : ∀ c ∈ form, encodeChar marks c = [c] := by
    intro c member
    obtain ⟨large, small, unmarked⟩ := (isQueryChar_iff c).1 (inert c member)
    rw [encodeChar, if_neg]
    simp only [Bool.or_eq_true, decide_eq_true_eq, List.contains_eq_mem, not_or]
    exact ⟨⟨by omega, by omega⟩, fun marked => unmarked (known c marked)⟩
  rw [encodeMarks, List.flatMap_def, List.map_congr_left single, ← List.flatMap_def, List.flatMap_singleton']

theorem scheme?_query {scheme : String} {after : List Char}
    (found : scheme? (front ++ '?' :: form) = some (scheme, after)) :
    ∃ rest, after = rest ++ '?' :: form ∧ ∀ c ∈ rest, c ∈ front := by
  have bare : ':' ∉ '?' :: form := notMem_query inert (by decide) (by decide)
  unfold scheme? at found
  by_cases named : ':' ∈ front
  · obtain ⟨name, rest, rfl, free⟩ := List.eq_append_cons_of_mem named
    rw [List.append_assoc, List.cons_append, Text.cut_append _ _ _ free] at found
    refine ⟨rest, ?_, fun c member => by simp [member]⟩
    split at found
    next first others given same =>
      split_ifs at found
      rw [← (Prod.mk.inj (Option.some.inj found)).2, ← Option.some.inj (Prod.mk.inj same).2]
    next => cases found
  · rw [Text.cut_of_notMem _ _ (by simpa [named] using bare)] at found
    simp at found

theorem read_query {address : Address} (bare : '?' ∉ front ∧ '#' ∉ front)
    (found : read (String.ofList (front ++ '?' :: form)) = .ok address) (http : address.scheme = "http") :
    address.query = some (String.ofList form) ∧ ∃ rest, address.path = pathAfter true rest := by
  obtain ⟨kept, trimmed, within⟩ := trimmed_query inert front
  unfold read at found
  rw [String.toList_ofList, trimmed] at found
  split at found
  · cases found
  next scheme after given =>
    -- The form has neither a colon nor a hash, so every cut is made before it.
    obtain ⟨rest, rfl, inside⟩ := scheme?_query inert given
    have free (mark : Char) (out : mark ∉ front) : mark ∉ rest := fun member => out (within _ (inside _ member))
    have whole : '#' ∉ rest ++ '?' :: form := by
      rw [List.mem_append, not_or]
      exact ⟨free '#' bare.2, notMem_query inert (by decide) (by decide)⟩
    simp only [Text.cut_of_notMem _ _ whole, Text.cut_append _ _ _ (free '?' bare.1)] at found
    by_cases file : scheme == "file"
    · rw [if_pos file] at found
      rw [ofFile_scheme found] at http
      subst http
      exact absurd file (by decide)
    rw [if_neg file] at found
    by_cases special : isSpecial scheme
    · simp only [if_pos special] at found
      obtain ⟨-, query, path⟩ := withAuthority_completes found
      refine ⟨query.trans (congrArg some ?_), path⟩
      exact encodeMarks_query inert (by simp [queryMarks])
    · rw [if_neg special] at found
      have named : scheme = "http" := by
        split at found
        · exact (withAuthority_completes found).1.symm.trans http
        · rwa [← Except.ok.inj found] at http
        · rwa [← Except.ok.inj found] at http
      subst named
      exact absurd (by decide) special

end

theorem notMem_encodeMarks {marks : List Char} {mark : Char} (marked : mark ∈ marks)
    (other : ∀ b, mark ∉ Form.percent b) (text : List Char) : mark ∉ (encodeMarks marks text).toList := by
  rw [encodeMarks, String.toList_ofList]
  intro member
  obtain ⟨c, -, held⟩ := List.mem_flatMap.1 member
  unfold encodeChar at held
  split_ifs at held with coded
  · obtain ⟨b, -, held⟩ := List.mem_flatMap.1 held
    exact other b held
  · simp only [List.mem_singleton] at held
    subst held
    simp [marked] at coded

theorem notMem_intercalate {mark : Char} {between : String} {pieces : List String} (out : mark ∉ between.toList)
    (free : ∀ piece ∈ pieces, mark ∉ piece.toList) : mark ∉ (between.intercalate pieces).toList := by
  induction pieces with
  | nil => simp
  | cons piece rest ih =>
    rw [List.forall_mem_cons] at free
    cases rest with
    | nil => rw [String.intercalate_singleton]; exact free.1
    | cons next others =>
      rw [String.intercalate_cons_cons, String.toList_append, String.toList_append, List.mem_append, List.mem_append,
        not_or, not_or]
      exact ⟨⟨free.1, out⟩, ih free.2⟩

theorem notMem_pathText (segments : List (List Char)) : '?' ∉ (pathText segments).toList := by
  have other : ∀ b, '?' ∉ Form.percent b := Form.forall_byte (by decide +kernel)
  rw [pathText, String.toList_append, List.mem_append, not_or]
  refine ⟨by decide, notMem_intercalate (by decide) fun piece member => ?_⟩
  obtain ⟨segment, -, rfl⟩ := List.mem_map.1 member
  exact notMem_encodeMarks (by decide) other segment

theorem notMem_pathAfter (text : List Char) : '?' ∉ (pathAfter true text).toList := by
  rw [pathAfter]
  exact notMem_pathText _

end Url

theorem Form.isQueryChar_of_isFormChar {c : Char} (formed : isFormChar c = true) : Url.isQueryChar c = true := by
  have table : ∀ n < 128, isFormChar (Char.ofNat n) = true → Url.isQueryChar (Char.ofNat n) = true := by
    decide +kernel
  have small : c.toNat < 128 := by
    rw [isFormChar, Bool.or_eq_true, List.contains_iff_mem] at formed
    rcases formed with plain | mark
    · delta Char.isAlphanum Char.isAlpha Char.isUpper Char.isLower Char.isDigit at plain
      simp only [Bool.or_eq_true, Bool.and_eq_true, decide_eq_true_eq, UInt32.le_iff_toNat_le, ge_iff_le] at plain
      have value : c.val.toNat = c.toNat := rfl
      have ends : 'Z'.val.toNat = 90 ∧ 'z'.val.toNat = 122 ∧ '9'.val.toNat = 57 := ⟨rfl, rfl, rfl⟩
      omega
    · have marks : "*-._+%&=".toList.all (·.toNat < 128) = true := by decide
      simpa using List.all_eq_true.1 marks c mark
  have found := table c.toNat small
  rw [Char.ofNat_toNat] at found
  exact found formed

end Catalog
