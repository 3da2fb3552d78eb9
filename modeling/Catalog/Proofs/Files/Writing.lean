import Catalog.Proofs.Files.Directories

set_option autoImplicit false

namespace Catalog

namespace Path

def EndsIn (path name : List Char) : Prop :=
  (∃ front, segments path = front ++ [name]) ∧ isIdle name = false ∧ isUp name = false

theorem getLast?_eq_slash_iff {path name : List Char} {front : List (List Char)}
    (whole : segments path = front ++ [name]) (filled : path ≠ []) : path.getLast? = some '/' ↔ name = [] := by
  have text : path = join (front ++ [name]) := by rw [← whole, join_segments]
  have member : name ∈ segments path := by simp [whole]
  have free : '/' ∉ name := notMem_of_mem_segments member
  cases front with
  | nil =>
    have same : path = name := by simpa [join, Text.joinWith] using text
    subst same
    constructor
    · intro last
      exact absurd (List.mem_of_getLast? last) free
    · intro empty
      exact absurd empty filled
  | cons first others =>
    rw [join, Text.joinWith_append '/' (first :: others) [name] (by simp) (by simp)] at text
    cases name with
    | nil => simp [text, Text.joinWith]
    | cons c rest =>
      have last : path.getLast? = (c :: rest).getLast? := by
        rw [text, Text.joinWith, List.getLast?_append, List.getLast?_cons_cons]
        simp [List.getLast?_cons]
      rw [last]
      simp only [reduceCtorEq, iff_false]
      intro final
      exact free (List.mem_of_getLast? final)

end Path

namespace Tree

open Catalog.Path (isIdle isUp)

theorem makeWay_of_directories {tree made other : Tree} {place : Place} {names : List (List Char)}
    (reached : tree.makeWay place names = (true, made))
    (way : ∀ there, place.OnWay names there → other.at? there = some .directory) :
    other.makeWay place names = (true, other) := by
  induction names generalizing tree place with
  | nil => simp [makeWay, way place (onWay_start _ _)]
  | cons name rest ih =>
    cases entered : tree.pass? place name with
    | none => simp [makeWay, entered] at reached
    | some passed =>
      simp only [makeWay, entered] at reached
      have start := way place (onWay_start _ _)
      have next := way (place.enter name) ((Place.onWay_cons _ _ _ _).2 (.inr (onWay_start _ _)))
      have again : other.pass? place name = some other := by
        unfold pass? at entered ⊢
        split_ifs at entered with blocked up long
        · simp [start, up]
        · simp [start, up, long, next]
      have later := ih reached fun there onWay => way there ((Place.onWay_cons _ _ _ _).2 (.inr onWay))
      simp [makeWay, again, later]

theorem makeWay_makeWay {tree made : Tree} {place : Place} {names : List (List Char)}
    (reached : tree.makeWay place names = (true, made)) : made.makeWay place names = (true, made) :=
  makeWay_of_directories reached (makeWay_directory reached)

theorem writeFile_error {tree written : Tree} {path : List Char} {bytes : List UInt8} {error : IoError}
    (failed : tree.writeFile path bytes = (.error error, written)) : written = tree := by
  unfold writeFile at failed
  split at failed
  next => exact (Prod.mk.inj failed).2.symm
  next =>
    split_ifs at failed
    · exact (Prod.mk.inj failed).2.symm
    · exact (Prod.mk.inj failed).2.symm
    · split at failed
      next => exact (Prod.mk.inj failed).2.symm
      next => cases (Prod.mk.inj failed).1

def Writable (path : List Char) : Prop :=
  checkPath path = .ok () ∧ ∃ name, Path.EndsIn path name ∧ byteLength name ≤ nameLimit

theorem locate_eq_ok {tree : Tree} {path last : List Char} {place : Place}
    (located : tree.locate path = .ok (place, last)) :
    checkPath path = .ok () ∧
      (last = ['.'] ∨
        ∃ front, steps path = front ++ [last] ∧ tree.walk (tree.origin path) front = .ok place ∧
          tree.isDirectoryAt place = true) := by
  have valid : checkPath path = .ok () := by
    cases checked : checkPath path with
    | ok => rfl
    | error error =>
      unfold locate at located
      rw [checked] at located
      cases located
  refine ⟨valid, ?_⟩
  rcases List.eq_nil_or_concat (steps path) with bare | ⟨front, name, cut⟩
  · left
    unfold locate at located
    rw [valid, ← steps, bare] at located
    exact (Prod.mk.inj (Except.ok.inj located)).2.symm
  · right
    rw [List.concat_eq_append] at cut
    rw [locate_eq tree valid cut] at located
    cases walked : tree.walk (tree.origin path) front with
    | error error => simp [walked] at located
    | ok reached =>
      simp only [walked] at located
      split_ifs at located with directory
      obtain ⟨rfl, rfl⟩ := Prod.mk.inj (Except.ok.inj located)
      exact ⟨front, cut, walked, directory⟩

theorem endsIn_of_steps {path name : List Char} {front : List (List Char)} (filled : path ≠ [])
    (cut : steps path = front ++ [name]) (closed : path.getLast? ≠ some '/') (named : isIdle name = false)
    (down : isUp name = false) : Path.EndsIn path name := by
  refine ⟨?_, named, down⟩
  rcases List.eq_nil_or_concat (Path.segments path) with bare | ⟨segments, last, whole⟩
  · exact absurd bare (Path.segments_ne_nil path)
  · rw [List.concat_eq_append] at whole
    have nonempty : last ≠ [] := fun empty => closed ((Path.getLast?_eq_slash_iff whole filled).2 empty)
    have same : steps path = segments.filter (!·.isEmpty) ++ [last] := by simp [steps, whole, nonempty]
    rw [cut] at same
    obtain ⟨-, last_eq⟩ := List.append_inj' same rfl
    obtain rfl : name = last := by simpa using last_eq
    exact ⟨segments, whole⟩

theorem follow_names (tree : Tree) (path : List Char) {name : List Char} {front : List (List Char)}
    (names : Path.names path = front ++ [name]) (down : isUp name = false) :
    (tree.origin path).follow (Path.names path) = (tree.origin path).follow front ++ [name] := by
  rw [names, Place.follow_append]
  simp [Place.follow, Place.enter, down]

theorem writeFile_eq_ok_iff {tree written : Tree} {path : List Char} {bytes : List UInt8} :
    tree.writeFile path bytes = (.ok (), written) ↔
      Writable path ∧ tree.makeWay (tree.origin path) (Path.names path).dropLast = (true, tree) ∧
        tree.at? ((tree.origin path).follow (Path.names path)) ≠ some .directory ∧
        written = tree.put ((tree.origin path).follow (Path.names path)) (.file bytes) := by
  constructor
  · intro done
    unfold writeFile at done
    split at done
    next => cases (Prod.mk.inj done).1
    next place last located =>
      split_ifs at done with odd long
      · cases (Prod.mk.inj done).1
      · cases (Prod.mk.inj done).1
      simp only [Bool.or_eq_true, decide_eq_true_eq, not_or, Bool.not_eq_true] at odd
      obtain ⟨⟨closed, named⟩, down⟩ := odd
      obtain ⟨valid, dot | ⟨front, cut, walked, directory⟩⟩ := locate_eq_ok located
      · simp [dot, isIdle] at named
      have ends := endsIn_of_steps ((checkPath_eq_ok_iff path).1 valid).2.1 cut closed named down
      have way := makeWay_of_walk tree (tree.origin path) front
      rw [walked] at way
      obtain ⟨rfl, way⟩ := way
      have names := names_of_steps cut named
      have target := follow_names tree path names down
      rw [target, names, List.dropLast_concat]
      refine ⟨⟨valid, last, ends, Nat.le_of_not_lt long⟩, by rw [way, directory], ?_⟩
      split at done
      next => cases (Prod.mk.inj done).1
      next free => exact ⟨free, (Prod.mk.inj done).2.symm⟩
  · rintro ⟨⟨valid, name, ends, short⟩, way, free, rfl⟩
    obtain ⟨⟨segments, whole⟩, named, down⟩ := ends
    have cut := steps_of_settled whole named
    generalize segments.filter (!·.isEmpty) = front at cut
    have names := names_of_steps cut named
    have target := follow_names tree path names down
    rw [target] at free ⊢
    rw [names, List.dropLast_concat] at way
    have directory := makeWay_directory way _ ⟨_, List.prefix_refl _, rfl⟩
    have located := locate_eq tree valid cut
    rw [walk_of_makeWay way] at located
    simp only [directory, isDirectoryAt_iff, if_true] at located
    have closed : path.getLast? ≠ some '/' := by
      rw [ne_eq, Path.getLast?_eq_slash_iff whole ((checkPath_eq_ok_iff path).1 valid).2.1]
      rintro rfl
      cases named
    unfold writeFile
    rw [located]
    simp [closed, named, down, Nat.not_lt.2 short]

end Tree

end Catalog
