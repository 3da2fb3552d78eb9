set_option autoImplicit false

namespace Catalog.Text

def splitAt (mark : Char) : List Char → List (List Char)
  | [] => [[]]
  | c :: rest =>
    if c = mark then [] :: splitAt mark rest
    else
      match splitAt mark rest with
      | piece :: pieces => (c :: piece) :: pieces
      | [] => [[c]]

theorem splitAt_ne_nil (mark : Char) (text : List Char) : splitAt mark text ≠ [] := by
  cases text with
  | nil => simp [splitAt]
  | cons c rest =>
    unfold splitAt
    split
    · simp
    · split <;> simp

def joinWith (mark : Char) : List (List Char) → List Char
  | [] => []
  | [piece] => piece
  | piece :: pieces => piece ++ mark :: joinWith mark pieces

theorem joinWith_splitAt (mark : Char) (text : List Char) : joinWith mark (splitAt mark text) = text := by
  induction text with
  | nil => rfl
  | cons c rest ih =>
    unfold splitAt
    cases found : splitAt mark rest with
    | nil => exact absurd found (splitAt_ne_nil mark rest)
    | cons piece pieces =>
      rw [found] at ih
      by_cases same : c = mark
      · rw [if_pos same, same]
        change mark :: joinWith mark (piece :: pieces) = mark :: rest
        rw [ih]
      · rw [if_neg same]
        rw [← ih]
        cases pieces <;> rfl

theorem splitAt_append (mark : Char) (left right : List Char) :
    splitAt mark (left ++ mark :: right) = splitAt mark left ++ splitAt mark right := by
  induction left with
  | nil => simp [splitAt]
  | cons c rest ih =>
    by_cases same : c = mark
    · simp [splitAt, same, ih]
    · cases found : splitAt mark rest with
      | nil => exact absurd found (splitAt_ne_nil mark rest)
      | cons piece pieces => simp [splitAt, same, ih, found]

theorem splitAt_of_notMem (mark : Char) (text : List Char) (free : mark ∉ text) :
    splitAt mark text = [text] := by
  induction text with
  | nil => rfl
  | cons c rest ih =>
    rw [List.mem_cons, not_or] at free
    simp [splitAt, Ne.symm free.1, ih free.2]

theorem notMem_of_mem_splitAt (mark : Char) (text : List Char) :
    ∀ piece ∈ splitAt mark text, mark ∉ piece := by
  induction text with
  | nil => simp [splitAt]
  | cons c rest ih =>
    by_cases same : c = mark
    · simpa [splitAt, same] using ih
    · cases found : splitAt mark rest with
      | nil => exact absurd found (splitAt_ne_nil mark rest)
      | cons piece pieces =>
        rw [found] at ih
        simpa [splitAt, same, found, Ne.symm same] using ih

theorem joinWith_append (mark : Char) (left right : List (List Char)) (some : left ≠ []) (more : right ≠ []) :
    joinWith mark (left ++ right) = joinWith mark left ++ mark :: joinWith mark right := by
  induction left with
  | nil => exact absurd rfl some
  | cons piece pieces ih =>
    cases pieces with
    | nil =>
      cases right with
      | nil => exact absurd rfl more
      | cons next rest => simp [joinWith]
    | cons next rest => simpa [joinWith] using ih (by simp)

theorem splitAt_joinWith (mark : Char) (pieces : List (List Char)) (some : pieces ≠ [])
    (free : ∀ piece ∈ pieces, mark ∉ piece) : splitAt mark (joinWith mark pieces) = pieces := by
  induction pieces with
  | nil => exact absurd rfl some
  | cons piece rest ih =>
    have alone := splitAt_of_notMem mark piece (free piece (by simp))
    cases rest with
    | nil => exact alone
    | cons next others =>
      rw [joinWith, splitAt_append, alone, ih (by simp) fun piece member => free piece (by simp [member])]
      · rfl
      · simp

def cut (mark : Char) (text : List Char) : List Char × Option (List Char) :=
  match text.dropWhile (· != mark) with
  | _ :: after => (text.takeWhile (· != mark), some after)
  | [] => (text, none)

theorem cut_append (mark : Char) (front back : List Char) (free : mark ∉ front) :
    cut mark (front ++ mark :: back) = (front, some back) := by
  have passes : ∀ c ∈ front, (c != mark) = true := fun c member => bne_iff_ne.2 fun same => free (same ▸ member)
  unfold cut
  rw [List.dropWhile_append_of_pos passes, List.takeWhile_append_of_pos passes]
  simp

theorem cut_of_notMem (mark : Char) (text : List Char) (free : mark ∉ text) : cut mark text = (text, none) := by
  have passes : ∀ c ∈ text, (c != mark) = true := fun c member => bne_iff_ne.2 fun same => free (same ▸ member)
  have gone : (text ++ []).dropWhile (· != mark) = [] := List.dropWhile_append_of_pos passes
  rw [List.append_nil] at gone
  rw [cut, gone]

def cutLast (mark : Char) (text : List Char) : Option (List Char) × List Char :=
  let (back, front) := cut mark text.reverse
  (front.map List.reverse, back.reverse)

end Catalog.Text
