import Catalog.Proofs.SavedFiles

set_option autoImplicit false

namespace Catalog

namespace Tree

def resolve (tree : Tree) (path : String) : Except IoError Place :=
  tree.walk (tree.origin path.toList) (Path.segments path.toList)

section

variable (tree : Tree) (place : Place)

theorem walk_append (front back : List (List Char)) :
    tree.walk place (front ++ back) = (tree.walk place front).bind (tree.walk · back) := by
  induction front generalizing place with
  | nil => rfl
  | cons segment rest ih =>
    rw [List.cons_append, walk, walk]
    split_ifs
    · rfl
    · exact ih place
    · exact ih place.dropLast
    · rfl
    · cases tree.at? (place ++ [segment]) with
      | none => rfl
      | some node => exact ih (place ++ [segment])

-- A blank segment needs a directory to stand in, and so does the segment after it.
theorem walk_blank {segments : List (List Char)} (some : segments ≠ []) :
    (tree.walk place [[]]).bind (tree.walk · segments) = tree.walk place segments := by
  cases segments with
  | nil => exact absurd rfl some
  | cons segment rest =>
    cases start : tree.isDirectoryAt place with
    | true =>
      have blank : tree.walk place [[]] = .ok place := by simp [walk, start, Path.isIdle]
      rw [blank]
      rfl
    | false =>
      have blocked (segments : List (List Char)) : tree.walk place (segment :: segments) = .error .notDirectory := by
        simp [walk, start]
      have blank : tree.walk place [[]] = .error .notDirectory := by simp [walk, start]
      rw [blank, blocked]
      rfl

end

variable {tree : Tree} {item : ContentItem} {directory : String}

theorem bind_walk_below (tree : Tree) (place : Place) (directory path : List Char) :
    tree.walk place (Path.segments (Path.below directory path)) =
      (tree.walk place (Path.segments directory)).bind (tree.walk · (Path.segments path)) := by
  have segments := Path.segments_ne_nil path
  unfold Path.below
  split
  next bare =>
    rw [List.getLast?_eq_none_iff] at bare
    rw [bare]
    exact (tree.walk_blank place segments).symm
  next closed =>
    obtain ⟨front, rfl⟩ := List.getLast?_eq_some_iff.1 closed
    have blank : Path.segments (front ++ ['/']) = Path.segments front ++ [[]] := Path.segments_append_slash front []
    rw [List.append_assoc, List.singleton_append, Path.segments_append_slash, blank, walk_append, walk_append]
    cases tree.walk place (Path.segments front) with
    | error error => rfl
    | ok reached => exact (tree.walk_blank reached segments).symm
  next => rw [Path.segments_append_slash, walk_append]

theorem resolve_target (tree : Tree) (accepted : item.refusal? directory = none) :
    tree.resolve (item.target directory) =
      (tree.resolve directory).bind (tree.walk · (Path.segments item.path.toList)) := by
  rw [resolve, origin_target tree accepted, toList_target, bind_walk_below]
  rfl

theorem eq_append_of_walk {place reached : Place} {segments : List (List Char)}
    (down : ∀ segment ∈ segments, Path.isUp segment = false) (walked : tree.walk place segments = .ok reached) :
    reached = place ++ segments.filter (!Path.isIdle ·) := by
  have way := tree.makeWay_of_walk place segments
  rw [walked] at way
  rw [way.1, Place.follow_eq_append _ _ fun name member => down name (List.mem_of_mem_filter member)]

end Tree

inductive SaveFault.Refuses : SaveFault → Prop where
  | emptyPath (id : UInt32) : Refuses (.emptyPath id)
  | outside (path directory : String) : Refuses (.outside path directory)

namespace Tree

variable {tree after : Tree} {item : ContentItem} {directory : String} {bytes : List UInt8} {fault : SaveFault}

theorem refuses_refusal? (refused : item.refusal? directory = some fault) : fault.Refuses := by
  unfold ContentItem.refusal? at refused
  split_ifs at refused
  · obtain rfl := Option.some.inj refused
    exact .emptyPath item.id
  · obtain rfl := Option.some.inj refused
    exact .outside item.path directory

theorem not_refuses_prepare {path : String} {made : Tree} (failed : tree.prepare path = (.error fault, made)) :
    ¬ fault.Refuses := by
  have ways := prepare_cases tree path.toList
  rw [String.ofList_toList, failed] at ways
  rcases ways with ⟨same, -⟩ | ⟨above, -, -, same⟩
  · cases same
  · cases made : (tree.makeDirectories above).1 with
    | ok => simp [made, Except.mapError] at same
    | error error =>
      obtain ⟨rfl, -⟩ : fault = .create (String.ofList above) error ∧ _ := by
        simpa [made, Except.mapError] using same
      rintro ⟨⟩

theorem not_refuses_save (accepted : item.refusal? directory = none)
    (failed : tree.save item directory bytes = (.error fault, after)) : ¬ fault.Refuses := by
  rw [save_of_accepted accepted] at failed
  rcases prepared : tree.prepare (item.target directory) with ⟨other | _, made⟩
  · simp only [prepared, Prod.mk.injEq, Except.error.injEq] at failed
    exact failed.1 ▸ not_refuses_prepare prepared
  · rcases wrote : made.writeFile (item.target directory).toList bytes with ⟨error | _, written⟩
    · simp only [prepared, wrote, Prod.mk.injEq, Except.error.injEq] at failed
      rw [← failed.1]
      rintro ⟨⟩
    · simp [prepared, wrote] at failed

theorem refusal?_eq_none_iff_save (tree : Tree) (item : ContentItem) (directory : String) (bytes : List UInt8) :
    item.refusal? directory = none ↔
      ∀ fault after, tree.save item directory bytes = (.error fault, after) → ¬ fault.Refuses := by
  constructor
  · exact fun accepted fault after failed => not_refuses_save accepted failed
  · intro passes
    cases refused : item.refusal? directory with
    | none => rfl
    | some fault => exact absurd (refuses_refusal? refused) (passes fault tree (save_of_refused refused))

end Tree

namespace ContentItem

variable (item : ContentItem) (directory : String)

structure Adds (kept : List (List Char)) : Prop where
  names : (Path.components item.path.toList).filterMap Path.Component.name? = kept
  place : ∀ tree : Tree, (tree.origin (item.target directory).toList).follow
    (Path.names (item.target directory).toList) = tree.output directory ++ kept
  resolve : ∀ (tree : Tree) (place : Place), tree.resolve (item.target directory) = .ok place ↔
    ∃ base, tree.resolve directory = .ok base ∧ tree.walk base (Path.segments item.path.toList) = .ok place ∧
      place = base ++ kept

def kept : List (List Char) :=
  (Path.segments item.path.toList).filter fun segment => segment ≠ [] ∧ segment ≠ ['.']

theorem kept_eq_names : item.kept = Path.names item.path.toList := by
  rw [kept, Path.names]
  congr 1
  funext segment
  rw [Bool.eq_iff_iff]
  simp [Path.isIdle]

variable {item} {directory}

theorem adds_of_accepted (accepted : item.refusal? directory = none) : item.Adds directory item.kept := by
  have down := Tree.isUp_of_accepted accepted
  rw [kept_eq_names]
  constructor
  case names =>
    rw [Path.filterMap_name?_components, Path.names]
    refine List.filter_congr fun segment member => ?_
    rw [down segment member, Bool.or_false]
  case place => exact fun tree => Tree.follow_target tree accepted
  case resolve =>
    intro tree place
    rw [Tree.resolve_target tree accepted]
    cases tree.resolve directory with
    | error error => simp [Except.bind]
    | ok base =>
      constructor
      · intro walked
        exact ⟨base, rfl, walked, Tree.eq_append_of_walk down walked⟩
      · rintro ⟨again, same, walked, -⟩
        obtain rfl := Except.ok.inj same
        exact walked

/-- A path is accepted exactly if it is not empty, does not start at the root and has no segment that leads upwards;
and then it adds what it names. -/
theorem path_accepted (item : ContentItem) (directory : String) :
    (item.refusal? directory = none ↔
      item.path ≠ "" ∧ item.path.toList.head? ≠ some '/' ∧ ['.', '.'] ∉ Path.segments item.path.toList) ∧
    (∀ (tree : Tree) (bytes : List UInt8), item.refusal? directory = none ↔
      ∀ fault after, tree.save item directory bytes = (.error fault, after) → ¬ fault.Refuses) ∧
    (item.refusal? directory = none → item.Adds directory item.kept) := by
  refine ⟨?_, fun tree bytes => tree.refusal?_eq_none_iff_save item directory bytes, adds_of_accepted⟩
  rw [refusal?_eq_none_iff, Refused, not_or, not_or, Path.isAbsolute, beq_iff_eq]

end ContentItem

namespace Sample

def deep : Tree :=
  ⟨[([['o']], .directory), ([['o'], ['b']], .directory), ([['o'], ['b'], "...".toList], .directory),
    ([['o'], ['b'], "...".toList, "..c".toList], .file [])], []⟩

def wordy : ContentItem := ⟨3, "./b//.../././..c"⟩

end Sample

theorem ContentItem.path_accepted_second :
    Sample.wordy.refusal? "o/" = none ∧
      (Path.components Sample.wordy.path.toList).filterMap Path.Component.name? =
        [['b'], "...".toList, "..c".toList] ∧
      Sample.deep.resolve "o/" = .ok [['o']] ∧
      Sample.deep.resolve (Sample.wordy.target "o/") = .ok [['o'], ['b'], "...".toList, "..c".toList] := by
  have accepted : Sample.wordy.refusal? "o/" = none :=
    (path_accepted Sample.wordy "o/").1.2 ⟨by decide, by decide, by decide⟩
  have adds := (path_accepted Sample.wordy "o/").2.2 accepted
  have names : Sample.wordy.kept = [['b'], "...".toList, "..c".toList] := by rfl
  rw [names] at adds
  have base : Sample.deep.resolve "o/" = .ok [['o']] := by rfl
  exact ⟨accepted, adds.names, base, (adds.resolve _ _).2 ⟨_, base, by rfl, by rfl⟩⟩

end Catalog
