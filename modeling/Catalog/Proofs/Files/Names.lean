import Mathlib.Data.List.DropRight
import Catalog.Proofs.Files.Components

set_option autoImplicit false

namespace Catalog.Path

theorem notMem_of_mem_segments {path segment : List Char} (member : segment ∈ segments path) :
    '/' ∉ segment :=
  Text.notMem_of_mem_splitAt '/' path segment member

@[simp] theorem names_nil : names [] = [] := rfl

theorem names_append_slash (left right : List Char) :
    names (left ++ '/' :: right) = names left ++ names right := by
  simp [names, segments_append_slash]

theorem names_slash (path : List Char) : names ('/' :: path) = names path := by
  simpa using names_append_slash [] path

theorem names_below (directory path : List Char) :
    names (below directory path) = names directory ++ names path := by
  unfold below
  split
  next last =>
    rw [List.getLast?_eq_none_iff] at last
    simp [last]
  next last =>
    obtain ⟨front, rfl⟩ := List.getLast?_eq_some_iff.1 last
    simp [names_append_slash]
  next => exact names_append_slash directory path

theorem isAbsolute_below (directory path : List Char) (relative : isAbsolute path = false) :
    isAbsolute (below directory path) = isAbsolute directory := by
  cases directory with
  | nil => exact relative
  | cons c rest =>
    unfold below
    split
    next last => simp at last
    next => simp [isAbsolute]
    next => simp [isAbsolute]

theorem segments_ne_nil (path : List Char) : segments path ≠ [] :=
  Text.splitAt_ne_nil '/' path

theorem start_append (path : List Char) : start path ++ path.drop (start path).length = path := by
  unfold start
  split <;> simp

theorem names_drop_start (path : List Char) : names (path.drop (start path).length) = names path := by
  unfold start
  split
  next rest => exact (names_slash rest).symm
  next => rfl
  next rest =>
    simp only [List.length_cons, List.length_nil, Nat.zero_add, List.drop_succ_cons, List.drop_zero]
    rw [names_slash]
    exact (names_append_slash ['.'] rest).symm
  next => rfl

theorem names_start (path : List Char) : names (start path) = [] := by
  unfold start
  split <;> rfl

theorem start_eq (path : List Char) :
    start path = [] ∨ start path = ['/'] ∨
      ∃ others, segments (path.drop (start path).length) = [] :: others := by
  unfold start
  split
  next => exact .inr (.inl rfl)
  next => exact .inr (.inr ⟨[], rfl⟩)
  next rest => exact .inr (.inr ⟨segments rest, segments_append_slash [] rest⟩)
  next => exact .inl rfl

structure Cut (path above : List Char) (kept passed : List (List Char)) (last : List Char)
    (trailing : List (List Char)) : Prop where
  whole : segments (path.drop (start path).length) = kept ++ (passed ++ last :: trailing)
  above : above = start path ++ join kept
  settled : ∀ segment ∈ kept.getLast?, isIdle segment = false
  passed : ∀ segment ∈ passed, isIdle segment = true
  last : isIdle last = false
  trailing : ∀ segment ∈ trailing, isIdle segment = true

theorem eq_dropWhile_append {α : Type} (p : α → Bool) (items : List α) :
    ∃ dropped, items = (items.reverse.dropWhile p).reverse ++ dropped ∧ ∀ item ∈ dropped, p item = true :=
  ⟨items.rtakeWhile p, List.rdropWhile_append_rtakeWhile.symm, fun _ => List.mem_rtakeWhile_imp⟩

theorem isIdle_head_dropWhile {segments rest : List (List Char)} {segment : List Char}
    (dropped : segments.dropWhile isIdle = segment :: rest) : isIdle segment = false := by
  have head := List.head?_dropWhile_not isIdle segments
  simpa [dropped] using head

theorem parent?_eq_some {path above : List Char} (found : parent? path = some above) :
    (names path = [] ∧ above = []) ∨
      ∃ kept passed last trailing, Cut path above kept passed last trailing := by
  unfold parent? at found
  dsimp only at found
  obtain ⟨trailing, whole, trailingIdle⟩ :=
    eq_dropWhile_append isIdle (segments (path.drop (start path).length))
  split at found
  next last before rest =>
    right
    obtain ⟨passed, front, passedIdle⟩ := eq_dropWhile_append isIdle before.reverse
    rw [List.reverse_reverse] at front
    refine ⟨(before.dropWhile isIdle).reverse, passed, last, trailing, ?_, ?_, ?_, passedIdle,
      isIdle_head_dropWhile rest, trailingIdle⟩
    · rw [rest, List.reverse_cons, front] at whole
      simpa using whole
    · exact (Option.some.inj found).symm
    · intro segment final
      rw [List.getLast?_reverse] at final
      cases front : before.dropWhile isIdle with
      | nil => simp [front] at final
      | cons first others =>
        rw [front] at final
        obtain rfl : first = segment := by simpa using final
        exact isIdle_head_dropWhile front
  next rest =>
    left
    have root : above = [] := by
      split at found
      · exact (Option.some.inj found).symm
      · cases found
    rw [rest, List.reverse_nil, List.nil_append] at whole
    refine ⟨?_, root⟩
    rw [← names_drop_start, names, whole]
    simpa using trailingIdle

theorem parent?_isSome (path : List Char) (named : names path ≠ []) : ∃ above, parent? path = some above := by
  unfold parent?
  dsimp only
  split
  next => exact ⟨_, rfl⟩
  next rest =>
    refine absurd ?_ named
    obtain ⟨trailing, whole, trailingIdle⟩ :=
      eq_dropWhile_append isIdle (segments (path.drop (start path).length))
    rw [rest, List.reverse_nil, List.nil_append] at whole
    rw [← names_drop_start, names, whole]
    simpa using trailingIdle

section

variable {path above last : List Char} {kept passed trailing : List (List Char)}

theorem Cut.text (cut : Cut path above kept passed last trailing) :
    (kept = [] ∧ above = start path) ∨
      (kept ≠ [] ∧ path = above ++ '/' :: join (passed ++ last :: trailing)) := by
  by_cases bare : kept = []
  · left
    refine ⟨bare, ?_⟩
    simp [cut.above, bare, join, Text.joinWith]
  · right
    refine ⟨bare, ?_⟩
    have text := join_segments (path.drop (start path).length)
    rw [cut.whole, join, Text.joinWith_append '/' kept _ bare (by simp)] at text
    calc
      path = start path ++ path.drop (start path).length := (start_append path).symm
      _ = above ++ '/' :: join (passed ++ last :: trailing) := by
        rw [← text, cut.above, join, join, List.append_assoc]

theorem Cut.segments_rest (cut : Cut path above kept passed last trailing) :
    segments (join (passed ++ last :: trailing)) = passed ++ last :: trailing := by
  apply Text.splitAt_joinWith
  · simp
  · intro segment member
    apply notMem_of_mem_segments
    rw [cut.whole]
    exact List.mem_append_right kept member

theorem Cut.names_rest (cut : Cut path above kept passed last trailing) :
    (passed ++ last :: trailing).filter (!isIdle ·) = [last] := by
  have first : passed.filter (!isIdle ·) = [] := by simpa using cut.passed
  have after : trailing.filter (!isIdle ·) = [] := by simpa using cut.trailing
  simp [first, after, cut.last]

theorem Cut.names (cut : Cut path above kept passed last trailing) :
    names path = names above ++ [last] := by
  rcases cut.text with ⟨bare, root⟩ | ⟨-, text⟩
  · rw [← names_drop_start, Path.names, cut.whole, bare, List.nil_append, cut.names_rest, root, names_start,
      List.nil_append]
  · rw [text, names_append_slash]
    congr 1
    rw [Path.names, cut.segments_rest, cut.names_rest]

theorem Cut.isPrefix (cut : Cut path above kept passed last trailing) : above <+: path := by
  rcases cut.text with ⟨-, root⟩ | ⟨-, text⟩
  · exact ⟨_, root ▸ start_append path⟩
  · exact ⟨_, text.symm⟩

end

theorem names_parent {path above : List Char} (found : parent? path = some above) :
    names above = (names path).dropLast := by
  rcases parent?_eq_some found with ⟨bare, rfl⟩ | ⟨kept, passed, last, trailing, cut⟩
  · simp [bare]
  · simp [cut.names]

theorem isPrefix_of_parent? {path above : List Char} (found : parent? path = some above) : above <+: path := by
  rcases parent?_eq_some found with ⟨-, rfl⟩ | ⟨kept, passed, last, trailing, cut⟩
  · exact List.nil_prefix
  · exact cut.isPrefix

theorem length_parent_lt {path above : List Char} (found : parent? path = some above) :
    above.length < path.length := by
  have shorter := (isPrefix_of_parent? found).length_le
  rcases parent?_eq_some found with ⟨-, rfl⟩ | ⟨kept, passed, last, trailing, cut⟩
  · cases path with
    | nil => cases found
    | cons => simp
  · have different : above ≠ path := by
      intro same
      have names := cut.names
      simp [same] at names
    have unequal : above.length ≠ path.length :=
      fun same => different ((isPrefix_of_parent? found).eq_of_length same)
    omega

theorem isAbsolute_parent {path above : List Char} (found : parent? path = some above) (filled : above ≠ []) :
    isAbsolute above = isAbsolute path := by
  obtain ⟨rest, rfl⟩ := isPrefix_of_parent? found
  cases above with
  | nil => exact absurd rfl filled
  | cons => rfl

def Settled (path : List Char) : Prop :=
  names path = [] ∨ ∃ front name, segments path = front ++ [name] ∧ isIdle name = false

theorem settled_parent {path above : List Char} (found : parent? path = some above) : Settled above := by
  rcases parent?_eq_some found with ⟨-, rfl⟩ | ⟨kept, passed, last, trailing, cut⟩
  · exact .inl rfl
  rcases List.eq_nil_or_concat kept with bare | ⟨front, name, split⟩
  · left
    rcases cut.text with ⟨-, root⟩ | ⟨filled, -⟩
    · rw [root, names_start]
    · exact absurd bare filled
  right
  have named : isIdle name = false := cut.settled name (by simp [split])
  have free : '/' ∉ name := by
    apply notMem_of_mem_segments
    rw [cut.whole, split]
    simp
  by_cases single : front = []
  · have start : start path = [] ∨ start path = ['/'] := by
      rcases start_eq path with bare | root | ⟨others, dotted⟩
      · exact .inl bare
      · exact .inr root
      · -- After a dot comes a slash, so the first segment would be blank.
        rw [cut.whole, split, single] at dotted
        obtain ⟨rfl, -⟩ := List.cons.inj dotted
        cases named
    have alone : join kept = name := by simp [split, single, join, Text.joinWith]
    rcases start with start | start
    · exact ⟨[], name, by rw [cut.above, start, alone]; exact segments_of_notMem free, named⟩
    · refine ⟨[[]], name, ?_, named⟩
      rw [cut.above, start, alone]
      calc
        segments ('/' :: name) = segments [] ++ segments name := segments_append_slash [] name
        _ = [[]] ++ [name] := by rw [segments_of_notMem free]; rfl
  · refine ⟨segments (start path ++ join front), name, ?_, named⟩
    have text : join kept = join front ++ '/' :: name := by
      rw [split, List.concat_eq_append, join, Text.joinWith_append '/' front [name] single (by simp)]
      rfl
    rw [cut.above, text, ← List.append_assoc, segments_append_slash, segments_of_notMem free]

end Catalog.Path
