import Catalog.Proofs.Saving

set_option autoImplicit false

namespace Catalog

namespace Tree

def read? (tree : Tree) (path : String) : Option (List UInt8) :=
  match tree.locate path.toList with
  | .error _ => none
  | .ok (place, last) =>
    match tree.walk place [last] with
    -- A path that ends in a slash cannot name a file.
    | .ok reached => if path.toList.getLast? = some '/' then none else tree.fileAt? reached
    | .error _ => none

theorem read?_eq_fileAt? {tree : Tree} {path : String} (writable : Writable path.toList)
    (way : tree.makeWay (tree.origin path.toList) (Path.names path.toList).dropLast = (true, tree))
    {bytes : List UInt8}
    (present : tree.at? ((tree.origin path.toList).follow (Path.names path.toList)) = some (.file bytes)) :
    tree.read? path = some bytes := by
  obtain ⟨valid, name, ⟨⟨segments, whole⟩, named, down⟩, short⟩ := writable
  have cut := steps_of_settled whole named
  generalize segments.filter (!·.isEmpty) = front at cut
  have names := names_of_steps cut named
  rw [follow_names tree path.toList names down] at present
  rw [names, List.dropLast_concat] at way
  have directory := makeWay_directory way _ ⟨_, List.prefix_refl _, rfl⟩
  have located := locate_eq tree valid cut
  rw [walk_of_makeWay way] at located
  simp only [directory, isDirectoryAt_iff, if_true] at located
  have closed : path.toList.getLast? ≠ some '/' := by
    rw [ne_eq, Path.getLast?_eq_slash_iff whole ((checkPath_eq_ok_iff _).1 valid).2.1]
    rintro rfl
    cases named
  unfold read?
  rw [located]
  simp [walk, directory, named, down, Nat.not_lt.2 short, present, closed, fileAt?]

section

variable {tree saved later : Tree} {item : ContentItem} {directory path : String} {bytes : List UInt8}

theorem read?_of_save (result : tree.save item directory bytes = (.ok path, saved)) (kept : saved.Keeps later)
    (home : later.home = saved.home) : later.read? path = later.fileAt? (item.place tree directory) := by
  have present := at?_of_saved result
  have sameHome := home_of_save result
  obtain ⟨accepted, rfl, writable, made, reached, -⟩ := save_eq_ok_iff.1 result
  obtain ⟨others, file⟩ := kept.file present.1
  have origin : later.origin (item.target directory).toList = tree.origin directory.toList := by
    rw [origin_target later accepted, origin, origin, home, sameHome]
  have way := makeWay_of_directories reached fun there onWay => kept.directory (present.2 there onWay)
  rw [← origin, ← names_target] at way
  have target : (later.origin (item.target directory).toList).follow (Path.names (item.target directory).toList) =
      item.place tree directory := by
    rw [follow_target later accepted, place_eq (home.trans sameHome)]
  rw [fileAt?, file]
  exact read?_eq_fileAt? writable way (target ▸ file)

end

end Tree

namespace ContentItem

variable (item : ContentItem)

def Refused : Prop :=
  item.path = "" ∨ Path.isAbsolute item.path.toList = true ∨ ['.', '.'] ∈ Path.segments item.path.toList

def refusal (directory : String) : SaveFault :=
  if item.path = "" then .emptyPath item.id else .outside item.path directory

structure Savable (tree : Tree) (directory : String) : Prop where
  accepted : ¬ item.Refused
  writable : Tree.Writable (item.target directory).toList
  way : (tree.makeWay (tree.origin directory.toList)
    (Path.names directory.toList ++ Path.names item.path.toList).dropLast).1 = true
  free : (tree.makeWay (tree.origin directory.toList)
    (Path.names directory.toList ++ Path.names item.path.toList).dropLast).2.at? (item.place tree directory) ≠
      some .directory

-- The tree in which the way to an item has been made and its file written.
def stored (tree : Tree) (directory : String) (bytes : List UInt8) : Tree :=
  (tree.makeWay (tree.origin directory.toList)
    (Path.names directory.toList ++ Path.names item.path.toList).dropLast).2.put (item.place tree directory) (.file bytes)

structure Saved (directory : String) (bytes : List UInt8) (before : Tree) (path : String) (after : Tree) : Prop where
  target : path = item.target directory
  holds : after.read? path = some bytes
  file : after.at? (item.place before directory) = some (.file bytes)
  parents : ∀ place, item.OnWay before directory place → after.at? place = some .directory
  elsewhere : Tree.Grown (· = item.place before directory) (item.OnWay before directory) before after

theorem refusal?_eq_none_iff (directory : String) : item.refusal? directory = none ↔ ¬ item.Refused := by
  rw [Tree.refusal?_eq_none_iff, Path.staysBelow_iff, Refused, not_or, not_or, Bool.not_eq_true]
  have up : (∀ segment ∈ Path.segments item.path.toList, Path.isUp segment = false) ↔
      ['.', '.'] ∉ Path.segments item.path.toList := by
    constructor
    · intro down member
      exact absurd (down _ member) (by decide)
    · intro absent segment member
      rw [Bool.eq_false_iff]
      intro isUp
      exact absent ((Path.isUp_eq_true_iff segment).1 isUp ▸ member)
  rw [up]

theorem refusal?_of_refused {item : ContentItem} (refused : item.Refused) (directory : String) :
    item.refusal? directory = some (item.refusal directory) := by
  have none := Path.isEmpty_components_iff item.path
  by_cases bare : item.path = ""
  · rw [refusal?, refusal, if_pos (none.2 bare), if_pos bare]
  · have leaves : Path.staysBelow item.path.toList = false := by
      rw [Bool.eq_false_iff]
      intro stays
      exact (item.refusal?_eq_none_iff directory).1 ((Tree.refusal?_eq_none_iff _ _).2 ⟨bare, stays⟩) refused
    rw [refusal?, refusal, if_neg (none.not.2 bare), leaves, if_neg bare]
    rfl

end ContentItem

namespace Tree

section

variable {tree saved after : Tree} {item : ContentItem} {directory path : String} {bytes : List UInt8}
  {fault : SaveFault}

theorem save_eq_ok_iff_savable :
    tree.save item directory bytes = (.ok path, saved) ↔
      item.Savable tree directory ∧ path = item.target directory ∧ saved = item.stored tree directory bytes := by
  constructor
  · intro result
    obtain ⟨accepted, target, writable, made, way, free, rfl⟩ := save_eq_ok_iff.1 result
    refine ⟨⟨(item.refusal?_eq_none_iff directory).1 accepted, writable, by rw [way], by rwa [way]⟩, target, ?_⟩
    rw [ContentItem.stored, way]
  · rintro ⟨⟨accepted, writable, way, free⟩, target, rfl⟩
    exact save_eq_ok_iff.2
      ⟨(item.refusal?_eq_none_iff directory).2 accepted, target, writable, _, Prod.ext way rfl, free, rfl⟩

theorem savable_iff (bytes : List UInt8) :
    item.Savable tree directory ↔ ∃ path saved, tree.save item directory bytes = (.ok path, saved) := by
  simp [save_eq_ok_iff_savable]

theorem not_savable_of_error (failed : tree.save item directory bytes = (.error fault, after)) :
    ¬ item.Savable tree directory := by
  intro savable
  obtain ⟨path, saved, result⟩ := (savable_iff bytes).1 savable
  cases failed.symm.trans result

theorem saved_of_save (result : tree.save item directory bytes = (.ok path, saved)) :
    item.Saved directory bytes tree path saved := by
  have present := at?_of_saved result
  have grown := save_grown tree item directory bytes
  rw [result] at grown
  refine ⟨(save_eq_ok_iff.1 result).2.1, ?_, present.1, present.2, grown.mono (fun _ => And.left) fun _ => id⟩
  rw [read?_of_save result (.refl saved) rfl, fileAt?, present.1]

theorem grown_of_save_error (result : tree.save item directory bytes = (.error fault, after)) :
    Grown (fun _ => False) (item.OnWay tree directory) tree after := by
  have grown := save_grown tree item directory bytes
  rw [result] at grown
  exact grown.mono (fun _ saved => by cases saved.2) fun _ => id

end

/-- The exact effect of saving an item. It succeeds if the item can be saved, and then the item is there; if it fails,
every file is as it was and only directories on the way may be new; and if the path is refused nothing is new. -/
theorem save_exact (tree : Tree) (item : ContentItem) (directory : String) (bytes : List UInt8) :
    (item.Savable tree directory ↔ ∃ path saved, tree.save item directory bytes = (.ok path, saved)) ∧
      (∀ path saved, tree.save item directory bytes = (.ok path, saved) →
        item.Saved directory bytes tree path saved) ∧
      (∀ fault after, tree.save item directory bytes = (.error fault, after) →
        Grown (fun _ => False) (item.OnWay tree directory) tree after ∧
          ∀ place, after.fileAt? place = tree.fileAt? place) ∧
      (item.Refused → tree.save item directory bytes = (.error (item.refusal directory), tree)) := by
  refine ⟨savable_iff bytes, fun path saved => saved_of_save, fun fault after failed => ?_, fun refused => ?_⟩
  · have grown := grown_of_save_error failed
    exact ⟨grown, fun place => grown.fileAt? fun never => never⟩
  · exact save_of_refused (ContentItem.refusal?_of_refused refused directory)

end Tree

namespace Sample

-- A longer file stands where the item goes.
def stored : Tree := ⟨[([['o']], .directory), ([['o'], ['a']], .file [9, 9, 9])], []⟩

def entry : ContentItem := ⟨1, "./a"⟩

def stray : ContentItem := ⟨2, "b/../../c"⟩

end Sample

theorem Tree.save_exact_second :
    ∃ saved, Sample.stored.save Sample.entry "o" [1] = (.ok "o/./a", saved) ∧
      Sample.entry.Saved "o" [1] Sample.stored "o/./a" saved ∧
      Sample.stored.save Sample.stray "o" [1] = (.error (.outside "b/../../c" "o"), Sample.stored) := by
  have result : (Sample.stored.save Sample.entry "o" [1]).1 = .ok "o/./a" := by rfl
  have refused : Sample.stray.Refused := .inr (.inr (by decide))
  exact ⟨_, Prod.ext result rfl, (save_exact Sample.stored Sample.entry "o" [1]).2.1 _ _ (Prod.ext result rfl),
    (save_exact Sample.stored Sample.stray "o" [1]).2.2.2 refused⟩

end Catalog
