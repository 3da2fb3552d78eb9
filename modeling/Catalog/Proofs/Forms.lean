import Catalog.Url.Encode
import Catalog.Text.Split
import Catalog.Proofs.Text.Characters

set_option autoImplicit false

namespace Catalog

namespace Form

def isFormChar (c : Char) : Bool :=
  c.isAlphanum || "*-._+%&=".toList.contains c

-- A plus sign stands for a space.
def spaced (text : List Char) : List Char :=
  text.map fun c => if c = '+' then ' ' else c

def readText (text : List Char) : Option String :=
  match Utf8.decode (Url.percentDecode (spaced text)) with
  | .ok found => some (String.ofList found)
  | .error _ => none

def readPair (piece : List Char) : Option Pair := do
  let (name, value) := Text.cut '=' piece
  return ⟨← readText name, ← readText (value.getD [])⟩

def read (text : List Char) : Option (List Pair) :=
  (Text.splitAt '&' text).mapM readPair

theorem forall_byte {p : UInt8 → Prop} (all : ∀ n < 256, p (UInt8.ofNat n)) (b : UInt8) : p b := by
  have given := all b.toNat b.toNat_lt
  rwa [UInt8.ofNat_toNat] at given

theorem mem_encodeByte (b : UInt8) : ∀ c ∈ encodeByte b, isFormChar c = true ∧ c ≠ '&' ∧ c ≠ '=' := by
  have checked : (encodeByte b).all (fun c => isFormChar c && c != '&' && c != '=') = true :=
    forall_byte (p := fun b => (encodeByte b).all (fun c => isFormChar c && c != '&' && c != '=') = true)
      (by decide +kernel) b
  intro c member
  simpa [and_assoc] using List.all_eq_true.1 checked c member

theorem percentDecode_cons {c : Char} (other : c ≠ '%') (rest : List Char) :
    Url.percentDecode (c :: rest) = String.utf8EncodeChar c ++ Url.percentDecode rest := by
  rw [Url.percentDecode.eq_def]
  split
  next same => exact absurd (List.cons.inj same).1 other
  next same => rw [(List.cons.inj same).1, (List.cons.inj same).2]
  next same => cases same

theorem percentDecode_percent (b : UInt8) (rest : List Char) :
    Url.percentDecode (percent b ++ rest) = b :: Url.percentDecode rest := by
  have digits : ∀ n < 16, Text.hexValue? (hexDigit n) = some n := by decide
  have small := b.toNat_lt
  have high := digits (b.toNat / 16) (by omega)
  have low := digits (b.toNat % 16) (by omega)
  have whole : b.toNat / 16 * 16 + b.toNat % 16 = b.toNat := by omega
  rw [percent, List.cons_append, List.cons_append, List.cons_append, List.nil_append, Url.percentDecode]
  simp only [high, low, whole, UInt8.ofNat_toNat]

theorem spaced_append (front back : List Char) : spaced (front ++ back) = spaced front ++ spaced back :=
  List.map_append

theorem percentDecode_encodeByte (b : UInt8) (rest : List Char) :
    Url.percentDecode (spaced (encodeByte b ++ rest)) = b :: Url.percentDecode (spaced rest) := by
  have whole : spaced (percent b) = percent b :=
    forall_byte (p := fun b => spaced (percent b) = percent b) (by decide +kernel) b
  rw [spaced_append]
  by_cases plain : isPlain b = true
  · have plainly : spaced (encodeByte b) = [Char.ofNat b.toNat] ∧ Char.ofNat b.toNat ≠ '%' ∧
        String.utf8EncodeChar (Char.ofNat b.toNat) = [b] :=
      forall_byte (p := fun b => isPlain b = true → spaced (encodeByte b) = [Char.ofNat b.toNat] ∧
        Char.ofNat b.toNat ≠ '%' ∧ String.utf8EncodeChar (Char.ofNat b.toNat) = [b]) (by decide +kernel) b plain
    rw [plainly.1, List.singleton_append, percentDecode_cons plainly.2.1, plainly.2.2]
    rfl
  · by_cases space : b = 32
    · subst space
      exact percentDecode_cons (by decide) _
    · rw [encodeByte, if_neg plain, if_neg space, whole, percentDecode_percent]

theorem percentDecode_encodeText (text : List Char) :
    Url.percentDecode (spaced (encodeText text)) = Utf8.encode text := by
  unfold encodeText
  induction Utf8.encode text with
  | nil => rfl
  | cons b rest ih => rw [List.flatMap_cons, percentDecode_encodeByte, ih]

theorem readText_encodeText (text : String) : readText (encodeText text.toList) = some text := by
  rw [readText, percentDecode_encodeText, Utf8.decode_encode]
  simp

theorem mem_encodeText (text : List Char) : ∀ c ∈ encodeText text, isFormChar c = true ∧ c ≠ '&' ∧ c ≠ '=' := by
  intro c member
  obtain ⟨b, -, held⟩ := List.mem_flatMap.1 member
  exact mem_encodeByte b c held

theorem mem_encode (pair : Pair) : ∀ c ∈ pair.encode, isFormChar c = true ∧ c ≠ '&' := by
  intro c member
  rw [Pair.encode, List.mem_append, List.mem_cons] at member
  rcases member with name | rfl | value
  · exact ⟨(mem_encodeText _ c name).1, (mem_encodeText _ c name).2.1⟩
  · decide
  · exact ⟨(mem_encodeText _ c value).1, (mem_encodeText _ c value).2.1⟩

theorem readPair_encode (pair : Pair) : readPair pair.encode = some pair := by
  have free : '=' ∉ encodeText pair.name.toList := fun member => (mem_encodeText _ _ member).2.2 rfl
  rw [readPair, Pair.encode, Text.cut_append _ _ _ free]
  simp [readText_encodeText]

theorem encodePairs_eq (pairs : List Pair) : encodePairs pairs = Text.joinWith '&' (pairs.map Pair.encode) := by
  induction pairs with
  | nil => rfl
  | cons pair rest ih =>
    cases rest with
    | nil => rfl
    | cons next others => rw [encodePairs, ih]; rfl; simp

theorem mapM_readPair (pairs : List Pair) : (pairs.map Pair.encode).mapM readPair = some pairs := by
  induction pairs with
  | nil => rfl
  | cons pair rest ih => simp [readPair_encode, ih]

theorem read_encode {pairs : List Pair} (some : pairs ≠ []) : read (encode pairs).toList = .some pairs := by
  have free : ∀ piece ∈ pairs.map Pair.encode, '&' ∉ piece := by
    intro piece member
    obtain ⟨pair, -, rfl⟩ := List.mem_map.1 member
    exact fun held => (mem_encode pair _ held).2 rfl
  rw [read, encode, String.toList_ofList, encodePairs_eq, Text.splitAt_joinWith _ _ (by simpa using some) free,
    mapM_readPair]

theorem mem_encodePairs (pairs : List Pair) : ∀ c ∈ encodePairs pairs, isFormChar c = true := by
  induction pairs with
  | nil => simp [encodePairs]
  | cons pair rest ih =>
    intro c member
    cases rest with
    | nil => exact (mem_encode pair c member).1
    | cons next others =>
      rw [encodePairs, List.mem_append, List.mem_cons] at member
      · rcases member with own | rfl | other
        · exact (mem_encode pair c own).1
        · decide
        · exact ih c other
      · simp

theorem encodePairs_ne_nil {pairs : List Pair} (some : pairs ≠ []) : encodePairs pairs ≠ [] := by
  cases pairs with
  | nil => exact absurd rfl some
  | cons pair rest => cases rest <;> simp [encodePairs, Pair.encode]

theorem encode_injective {pairs others : List Pair} (same : encode pairs = encode others) : pairs = others := by
  have texts : encodePairs pairs = encodePairs others := String.ofList_injective same
  cases pairs with
  | nil =>
    cases others with
    | nil => rfl
    | cons => exact absurd texts.symm (encodePairs_ne_nil (by simp))
  | cons pair rest =>
    cases others with
    | nil => exact absurd texts (encodePairs_ne_nil (by simp))
    | cons other more =>
      have back := read_encode (List.cons_ne_nil pair rest)
      rw [same, read_encode (List.cons_ne_nil other more)] at back
      exact (Option.some.inj back).symm

end Form

end Catalog
