import Catalog.Proofs.Files.Writing
import Catalog.Proofs.Running

set_option autoImplicit false

namespace Catalog

namespace Tree

def disk : Disk (StateM Tree) where
  makeDirectories := fun path tree => tree.makeDirectories path.toList
  writeFile := fun path bytes tree => tree.writeFile path.toList bytes

def prepare (tree : Tree) (path : String) : Except SaveFault Unit × Tree :=
  perform (disk.prepare path) tree

def save (tree : Tree) (item : ContentItem) (directory : String) (bytes : List UInt8) :
    Except SaveFault String × Tree :=
  perform (item.save disk (fun _ => pure ()) directory bytes) tree

theorem save_of_refused {tree : Tree} {item : ContentItem} {directory : String} {bytes : List UInt8}
    {fault : SaveFault} (refused : item.refusal? directory = some fault) :
    tree.save item directory bytes = (.error fault, tree) := by
  unfold save ContentItem.save
  rw [refused]
  rfl

theorem save_of_accepted {tree : Tree} {item : ContentItem} {directory : String} {bytes : List UInt8}
    (accepted : item.refusal? directory = none) :
    tree.save item directory bytes =
      match tree.prepare (item.target directory) with
      | (.error fault, made) => (.error fault, made)
      | (.ok (), made) =>
        match made.writeFile (item.target directory).toList bytes with
        | (.error error, written) => (.error (.write (item.target directory) error), written)
        | (.ok (), written) => (.ok (item.target directory), written) := by
  have prepared : perform (disk.prepare (item.target directory)) tree = tree.prepare (item.target directory) := rfl
  unfold save ContentItem.save
  simp only [accepted, perform_bind, prepared, perform_mapError, perform_lift, perform_pure]
  rcases tree.prepare (item.target directory) with ⟨_ | _, made⟩
  · rfl
  have wrote : disk.writeFile (item.target directory) bytes made =
      made.writeFile (item.target directory).toList bytes := rfl
  simp only [wrote]
  rcases made.writeFile (item.target directory).toList bytes with ⟨_ | _, written⟩
  · rfl
  · rfl

theorem prepare_of_unneeded {path : String} (none : neededDirectory? path = none) (tree : Tree) :
    tree.prepare path = (.ok (), tree) := by
  unfold prepare Disk.prepare
  rw [none]
  rfl

theorem prepare_of_needed {path above : String} (needed : neededDirectory? path = some above) (tree : Tree) :
    tree.prepare path = ((tree.makeDirectories above.toList).1.mapError (.create above),
      (tree.makeDirectories above.toList).2) := by
  unfold prepare Disk.prepare
  rw [needed]
  exact perform_mapError ..

theorem prepare_cases (tree : Tree) (path : List Char) :
    tree.prepare (String.ofList path) = (.ok (), tree) ∧ (Path.names path).dropLast = [] ∨
      ∃ above, Path.parent? path = some above ∧ above ≠ [] ∧
        tree.prepare (String.ofList path) =
          ((tree.makeDirectories above).1.mapError (.create (String.ofList above)),
            (tree.makeDirectories above).2) := by
  cases found : Path.parent? path with
  | none =>
    left
    refine ⟨prepare_of_unneeded (by simp [neededDirectory?, found]) tree, ?_⟩
    by_contra named
    obtain ⟨above, parent⟩ := Path.parent?_isSome path fun bare => named (by simp [bare])
    simp [found] at parent
  | some above =>
    cases above with
    | nil =>
      -- The parent is where the path starts.
      left
      refine ⟨prepare_of_unneeded (by simp [neededDirectory?, found]) tree, ?_⟩
      rw [← Path.names_parent found, Path.names_nil]
    | cons c rest =>
      right
      have needed : neededDirectory? (String.ofList path) = some (String.ofList (c :: rest)) := by
        simp [neededDirectory?, found]
      refine ⟨c :: rest, rfl, by simp, ?_⟩
      rw [prepare_of_needed needed, String.toList_ofList]

section

variable {path : List Char}

theorem outcome_prepare (tree : Tree) (valid : checkPath path = .ok ()) :
    outcome (tree.prepare (String.ofList path)) = tree.makeWay (tree.origin path) (Path.names path).dropLast ∨
      tree.prepare (String.ofList path) = (.ok (), tree) ∧ (Path.names path).dropLast = [] := by
  rcases prepare_cases tree path with ⟨prepared, bare⟩ | ⟨above, found, filled, prepared⟩
  · exact .inr ⟨prepared, bare⟩
  · left
    have way := outcome_makeDirectories tree
      (checkPath_of_isPrefix valid filled (Path.isPrefix_of_parent? found)) (Path.settled_parent found)
    have origin : tree.origin above = tree.origin path := by
      simp [origin, Path.isAbsolute_parent found filled]
    rw [prepared, outcome_mapError, ← Path.names_parent found, ← origin]
    exact way

theorem prepare_grown (tree : Tree) (path : List Char) :
    Grown (fun _ => False) ((tree.origin path).OnWay (Path.names path).dropLast) tree
      (tree.prepare (String.ofList path)).2 := by
  rcases prepare_cases tree path with ⟨prepared, -⟩ | ⟨above, found, filled, prepared⟩
  · rw [prepared]
    exact .refl _ _ tree
  · rw [prepared]
    by_cases valid : checkPath above = .ok ()
    · have way := outcome_makeDirectories tree valid (Path.settled_parent found)
      have origin : tree.origin above = tree.origin path := by
        simp [origin, Path.isAbsolute_parent found filled]
      rw [Path.names_parent found, origin] at way
      have grown := makeWay_grown tree (tree.origin path) (Path.names path).dropLast
      rw [← way] at grown
      exact grown
    · have same := congrArg Prod.snd (outcome_makeDirectories_of_invalid tree filled valid)
      have unchanged : (tree.makeDirectories above).2 = tree := same
      simp only [unchanged]
      exact .refl _ _ tree

theorem prepare_writeFile_eq_ok_iff (tree written : Tree) (path : List Char) (bytes : List UInt8) :
    (∃ made, tree.prepare (String.ofList path) = (.ok (), made) ∧
        made.writeFile path bytes = (.ok (), written)) ↔
      Writable path ∧ ∃ made, tree.makeWay (tree.origin path) (Path.names path).dropLast = (true, made) ∧
        made.at? ((tree.origin path).follow (Path.names path)) ≠ some .directory ∧
        written = made.put ((tree.origin path).follow (Path.names path)) (.file bytes) := by
  have sameOrigin (made : Tree) (home : made.home = tree.home) : made.origin path = tree.origin path := by
    rw [origin, origin, home]
  constructor
  · rintro ⟨made, prepared, wrote⟩
    have home := (prepare_grown tree path).home
    rw [prepared] at home
    rw [writeFile_eq_ok_iff, sameOrigin made home] at wrote
    obtain ⟨writable, way, free, written⟩ := wrote
    refine ⟨writable, made, ?_, free, written⟩
    rcases outcome_prepare tree writable.1 with reached | ⟨unprepared, bare⟩
    · rw [← reached, prepared]
      rfl
    · rw [prepared] at unprepared
      obtain rfl := (Prod.mk.inj unprepared).2
      exact way
  · rintro ⟨writable, made, way, free, written⟩
    have home := (makeWay_grown tree (tree.origin path) (Path.names path).dropLast).home
    rw [way] at home
    refine ⟨made, ?_, ?_⟩
    · rcases outcome_prepare tree writable.1 with reached | ⟨unprepared, bare⟩
      · rw [way] at reached
        rcases prepared : tree.prepare (String.ofList path) with ⟨_ | _, after⟩
        · simp [prepared, outcome, Except.isOk, Except.toBool] at reached
        · rw [prepared] at reached
          rw [← (Prod.mk.inj reached).2]
      · rw [bare] at way
        rw [unprepared, ← (Prod.mk.inj way).2]
    · rw [writeFile_eq_ok_iff, sameOrigin made home]
      exact ⟨writable, makeWay_makeWay way, free, written⟩

end

def output (tree : Tree) (directory : String) : Place :=
  (tree.origin directory.toList).follow (Path.names directory.toList)

end Tree

def ContentItem.place (item : ContentItem) (tree : Tree) (directory : String) : Place :=
  tree.output directory ++ Path.names item.path.toList

def ContentItem.OnWay (item : ContentItem) (tree : Tree) (directory : String) (place : Place) : Prop :=
  (tree.origin directory.toList).OnWay (Path.names directory.toList ++ Path.names item.path.toList).dropLast place

namespace Tree

theorem place_ne_nil {tree : Tree} {place : Place} (free : tree.at? place ≠ some .directory) : place ≠ [] := by
  rintro rfl
  exact free rfl

theorem keeps_put_file {tree : Tree} {place : Place} (free : tree.at? place ≠ some .directory) (bytes : List UInt8) :
    tree.Keeps (tree.put place (.file bytes)) := by
  have grown : Grown (fun _ => True) (fun _ => False) tree (tree.put place (.file bytes)) :=
    grown_put_file (place_ne_nil free) trivial free bytes
  exact grown.keeps

theorem place_eq {tree other : Tree} (home : other.home = tree.home) (item : ContentItem) (directory : String) :
    item.place other directory = item.place tree directory := by
  simp [ContentItem.place, output, origin, home]

theorem onWay_eq {tree other : Tree} (home : other.home = tree.home) (item : ContentItem) (directory : String) :
    item.OnWay other directory = item.OnWay tree directory := by
  funext place
  simp [ContentItem.OnWay, origin, home]

section

variable {tree saved other again whole : Tree} {item : ContentItem} {directory path : String} {bytes : List UInt8}

theorem refusal?_eq_none_iff (item : ContentItem) (directory : String) :
    item.refusal? directory = none ↔ item.path ≠ "" ∧ Path.staysBelow item.path.toList = true := by
  have bare := Path.isEmpty_components_iff item.path
  unfold ContentItem.refusal?
  split_ifs <;> simp_all

theorem toList_target (item : ContentItem) (directory : String) :
    (item.target directory).toList = Path.below directory.toList item.path.toList :=
  String.toList_ofList

theorem names_target (item : ContentItem) (directory : String) :
    Path.names (item.target directory).toList = Path.names directory.toList ++ Path.names item.path.toList := by
  rw [toList_target, Path.names_below]

theorem origin_target (tree : Tree) (accepted : item.refusal? directory = none) :
    tree.origin (item.target directory).toList = tree.origin directory.toList := by
  rw [refusal?_eq_none_iff] at accepted
  rw [origin, origin, toList_target,
    Path.isAbsolute_below _ _ ((Path.staysBelow_iff _).1 accepted.2).1]

theorem isUp_of_accepted (accepted : item.refusal? directory = none) :
    ∀ segment ∈ Path.segments item.path.toList, Path.isUp segment = false := by
  rw [refusal?_eq_none_iff] at accepted
  exact ((Path.staysBelow_iff _).1 accepted.2).2

theorem follow_target (tree : Tree) (accepted : item.refusal? directory = none) :
    (tree.origin (item.target directory).toList).follow (Path.names (item.target directory).toList) =
      item.place tree directory := by
  have down : ∀ name ∈ Path.names item.path.toList, Path.isUp name = false :=
    fun name member => isUp_of_accepted accepted name (List.mem_of_mem_filter member)
  rw [origin_target tree accepted, names_target, Place.follow_append, Place.follow_eq_append _ _ down]
  rfl

theorem save_eq_ok_iff :
    tree.save item directory bytes = (.ok path, saved) ↔
      item.refusal? directory = none ∧ path = item.target directory ∧
        Writable (item.target directory).toList ∧
        ∃ made, tree.makeWay (tree.origin directory.toList)
            (Path.names directory.toList ++ Path.names item.path.toList).dropLast = (true, made) ∧
          made.at? (item.place tree directory) ≠ some .directory ∧
          saved = made.put (item.place tree directory) (.file bytes) := by
  cases accepted : item.refusal? directory with
  | some fault => simp [save_of_refused accepted]
  | none =>
    have both := prepare_writeFile_eq_ok_iff tree saved (item.target directory).toList bytes
    rw [String.ofList_toList, follow_target tree accepted, origin_target tree accepted, names_target] at both
    rw [← both, save_of_accepted accepted]
    rcases tree.prepare (item.target directory) with ⟨_ | _, made⟩
    · simp
    rcases wrote : made.writeFile (item.target directory).toList bytes with ⟨_ | _, written⟩
    · simp [wrote]
    · simp [wrote, eq_comm]

theorem save_error {fault : SaveFault} (accepted : item.refusal? directory = none)
    (result : tree.save item directory bytes = (.error fault, saved)) :
    saved = (tree.prepare (item.target directory)).2 := by
  rw [save_of_accepted accepted] at result
  rcases prepared : tree.prepare (item.target directory) with ⟨_ | _, made⟩
  · simp only [prepared, Prod.mk.injEq] at result
    exact result.2.symm
  simp only [prepared] at result
  rcases wrote : made.writeFile (item.target directory).toList bytes with ⟨_ | _, written⟩
  · simp only [wrote, Prod.mk.injEq] at result
    rw [← result.2]
    exact writeFile_error wrote
  · simp [wrote] at result

theorem save_grown (tree : Tree) (item : ContentItem) (directory : String) (bytes : List UInt8) :
    Grown (fun place => place = item.place tree directory ∧ (tree.save item directory bytes).1.isOk = true)
      (item.OnWay tree directory) tree (tree.save item directory bytes).2 := by
  cases accepted : item.refusal? directory with
  | some fault =>
    rw [save_of_refused accepted]
    exact .refl _ _ tree
  | none =>
    rcases result : tree.save item directory bytes with ⟨fault | path, after⟩
    · have way := prepare_grown tree (item.target directory).toList
      rw [String.ofList_toList, origin_target tree accepted, names_target, ← save_error accepted result] at way
      exact way.mono (fun _ => False.elim) (fun _ => id)
    · obtain ⟨-, -, -, made, reached, free, rfl⟩ := save_eq_ok_iff.1 result
      have grown := makeWay_grown tree (tree.origin directory.toList)
        (Path.names directory.toList ++ Path.names item.path.toList).dropLast
      rw [reached] at grown
      refine (grown.mono (fun _ => False.elim) (fun _ => id)).trans ?_
      exact (grown_put_file (place_ne_nil free) ⟨rfl, rfl⟩ free bytes).mono (fun _ => id) (fun _ => False.elim)

theorem at?_of_saved (result : tree.save item directory bytes = (.ok path, saved)) :
    saved.at? (item.place tree directory) = some (.file bytes) ∧
      ∀ place, item.OnWay tree directory place → saved.at? place = some .directory := by
  obtain ⟨-, -, -, made, reached, free, rfl⟩ := save_eq_ok_iff.1 result
  have named := place_ne_nil free
  refine ⟨by simp [at?_put made _ _ _ named], fun place onWay => ?_⟩
  have directoryThere := makeWay_directory reached place onWay
  rw [at?_put made _ _ _ named, if_neg]
  · exact directoryThere
  · rintro rfl
    exact free directoryThere

theorem save_unchanged (result : tree.save item directory bytes = (.ok path, saved)) (place : Place)
    (elsewhere : place ≠ item.place tree directory) (off : ¬ item.OnWay tree directory place) :
    saved.at? place = tree.at? place := by
  have grown := save_grown tree item directory bytes
  rw [result] at grown
  exact grown.unchanged (fun here => elsewhere here.1) off

theorem home_of_save (result : tree.save item directory bytes = (.ok path, saved)) : saved.home = tree.home := by
  have grown := save_grown tree item directory bytes
  rw [result] at grown
  exact grown.home

theorem save_alike (result : tree.save item directory bytes = (.ok path, saved))
    (repeated : other.save item directory bytes = (.ok path, again)) (home : other.home = tree.home) {place : Place}
    (alike : other.at? place = tree.at? place ∨ place = item.place tree directory ∨
      item.OnWay tree directory place) :
    again.at? place = saved.at? place := by
  have first := at?_of_saved result
  have second := at?_of_saved repeated
  rw [place_eq home, onWay_eq home] at second
  by_cases here : place = item.place tree directory
  · rw [here, first.1, second.1]
  by_cases onWay : item.OnWay tree directory place
  · rw [first.2 place onWay, second.2 place onWay]
  rcases alike with same | same | same
  · have unchanged := save_unchanged repeated place
    rw [place_eq home, onWay_eq home] at unchanged
    rw [unchanged here onWay, save_unchanged result place here onWay, same]
  · exact absurd same here
  · exact absurd same onWay

theorem save_of_makeWay {made : Tree} {others : List UInt8} (accepted : item.refusal? directory = none)
    (writable : Writable (item.target directory).toList)
    (reached : tree.makeWay (tree.origin directory.toList)
      (Path.names directory.toList ++ Path.names item.path.toList).dropLast = (true, made))
    (within : tree.Keeps whole) (file : whole.at? (item.place tree directory) = some (.file others))
    (way : ∀ place, item.OnWay tree directory place → whole.at? place = some .directory) :
    ∃ again, tree.save item directory bytes = (.ok (item.target directory), again) ∧ again.Keeps whole := by
  have wayGrown := makeWay_grown tree (tree.origin directory.toList)
    (Path.names directory.toList ++ Path.names item.path.toList).dropLast
  rw [reached] at wayGrown
  have kept := wayGrown.keeps_within within (fun _ => False.elim) way
  have free : made.at? (item.place tree directory) ≠ some .directory := by
    intro blocked
    rw [kept.directory blocked] at file
    cases file
  have result : tree.save item directory bytes =
      (.ok (item.target directory), made.put (item.place tree directory) (.file bytes)) :=
    save_eq_ok_iff.2 ⟨accepted, rfl, writable, made, reached, free, rfl⟩
  have grown := save_grown tree item directory bytes
  rw [result] at grown
  refine ⟨_, result, grown.keeps_within within ?_ way⟩
  rintro place ⟨rfl, -⟩
  exact ⟨others, file⟩

theorem save_of_keeps (result : tree.save item directory bytes = (.ok path, saved)) (home : other.home = tree.home)
    (more : tree.Keeps other) (within : other.Keeps whole) (holds : saved.Keeps whole) :
    ∃ again, other.save item directory bytes = (.ok path, again) ∧ saved.Keeps again ∧ again.Keeps whole := by
  have present := at?_of_saved result
  obtain ⟨bytesThere, file⟩ := holds.file present.1
  have way : ∀ place, item.OnWay tree directory place → whole.at? place = some .directory :=
    fun place onWay => holds.directory (present.2 place onWay)
  -- The way can be made again, since every place on it is a directory in the tree that holds both.
  obtain ⟨again, repeated, inside⟩ :
      ∃ again, other.save item directory bytes = (.ok path, again) ∧ again.Keeps whole := by
    obtain ⟨accepted, rfl, writable, made, reached, free, rfl⟩ := save_eq_ok_iff.1 result
    have origin : tree.origin directory.toList = other.origin directory.toList := by simp [origin, home]
    have inner : made.Keeps whole := (keeps_put_file free bytes).trans holds
    obtain ⟨remade, reached⟩ := makeWay_of_keeps reached more within inner
    rw [origin] at reached
    rw [← place_eq home] at file
    rw [← onWay_eq home] at way
    exact save_of_makeWay accepted writable reached within file way
  have grown := save_grown other item directory bytes
  rw [repeated, place_eq home, onWay_eq home] at grown
  refine ⟨again, repeated, ?_, inside⟩
  intro place node there
  by_cases touched : place = item.place tree directory ∨ item.OnWay tree directory place
  · exact ⟨node, by rw [save_alike result repeated home (.inr touched), there], rfl⟩
  · rw [not_or] at touched
    rw [save_unchanged result place touched.1 touched.2] at there
    obtain ⟨kept, stays, same⟩ := more place node there
    refine ⟨kept, ?_, same⟩
    rw [grown.unchanged (fun here => touched.1 here.1) touched.2, stays]

end

end Tree

end Catalog
