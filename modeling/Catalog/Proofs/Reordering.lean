import Mathlib.Data.List.Infix
import Catalog.Proofs.Finished
import Catalog.Proofs.Retry

set_option autoImplicit false

namespace Catalog

namespace Path

theorem segments_below (directory path : List Char) :
    ∃ front, segments (below directory path) = front ++ segments path := by
  unfold below
  split
  next => exact ⟨[], rfl⟩
  next last =>
    obtain ⟨front, rfl⟩ := List.getLast?_eq_some_iff.1 last
    exact ⟨segments front, by rw [List.append_assoc, List.singleton_append, segments_append_slash]⟩
  next => exact ⟨segments directory, segments_append_slash directory path⟩

theorem names_ne_nil_of_below {directory path name : List Char} (ends : EndsIn (below directory path) name) :
    names path ≠ [] := by
  obtain ⟨⟨front, whole⟩, named, -⟩ := ends
  obtain ⟨before, cut⟩ := segments_below directory path
  rcases List.eq_nil_or_concat (segments path) with bare | ⟨earlier, last, split⟩
  · exact absurd bare (segments_ne_nil path)
  · rw [List.concat_eq_append] at split
    rw [cut, split, ← List.append_assoc] at whole
    obtain ⟨-, same⟩ := List.append_inj' whole rfl
    obtain rfl : last = name := by simpa using same
    simp [names, split, named]

end Path

namespace ContentItem

structure Placed (item : ContentItem) (tree : Tree) (directory : String) (whole : Tree) : Prop where
  accepted : item.refusal? directory = none
  writable : Tree.Writable (item.target directory).toList
  short : ∀ name ∈ item.names.dropLast, Tree.byteLength name ≤ Tree.nameLimit
  file : ∃ bytes, whole.at? (item.place tree directory) = some (.file bytes)
  way : ∀ place, item.OnWay tree directory place → whole.at? place = some .directory

end ContentItem

namespace Tree

section

variable {tree saved whole other : Tree} {item : ContentItem} {directory path : String} {bytes : List UInt8}

theorem names_ne_nil (writable : Writable (item.target directory).toList) : item.names ≠ [] := by
  obtain ⟨-, name, ends, -⟩ := writable
  rw [toList_target] at ends
  exact Path.names_ne_nil_of_below ends

theorem way_eq_append (writable : Writable (item.target directory).toList) :
    (Path.names directory.toList ++ Path.names item.path.toList).dropLast =
      Path.names directory.toList ++ item.names.dropLast :=
  List.dropLast_append_of_ne_nil (names_ne_nil writable)

def Opens (tree : Tree) (directory : String) (whole : Tree) : Prop :=
  ∃ made, tree.makeWay (tree.origin directory.toList) (Path.names directory.toList) = (true, made) ∧ made.Keeps whole

theorem parts_of_makeWay {made : Tree} {place : Place} {front back : List (List Char)}
    (reached : tree.makeWay place (front ++ back) = (true, made)) :
    ∃ between, tree.makeWay place front = (true, between) ∧ between.makeWay (place.follow front) back = (true, made) := by
  rw [makeWay_append] at reached
  rcases first : tree.makeWay place front with ⟨_ | _, between⟩
  · simp [first] at reached
  · exact ⟨between, rfl, by simpa [first] using reached⟩

theorem opens_of_save (result : tree.save item directory bytes = (.ok path, saved)) : tree.Opens directory saved := by
  obtain ⟨-, -, writable, made, reached, free, rfl⟩ := save_eq_ok_iff.1 result
  rw [way_eq_append writable] at reached
  obtain ⟨between, output, further⟩ := parts_of_makeWay reached
  have grown := makeWay_grown between ((tree.origin directory.toList).follow (Path.names directory.toList))
    item.names.dropLast
  rw [further] at grown
  exact ⟨between, output, grown.keeps.trans (keeps_put_file free bytes)⟩

theorem Opens.mono (opens : tree.Opens directory saved) (kept : saved.Keeps whole) : tree.Opens directory whole := by
  obtain ⟨made, output, inside⟩ := opens
  exact ⟨made, output, inside.trans kept⟩

theorem placed_of_save (result : tree.save item directory bytes = (.ok path, saved)) (kept : saved.Keeps whole) :
    item.Placed tree directory whole := by
  have present := at?_of_saved result
  obtain ⟨accepted, -, writable, made, reached, -⟩ := save_eq_ok_iff.1 result
  refine ⟨accepted, writable, ?_, kept.file present.1, fun place onWay => kept.directory (present.2 place onWay)⟩
  rw [way_eq_append writable] at reached
  intro name member
  have down := isUp_of_accepted accepted name (List.mem_of_mem_filter (List.mem_of_mem_dropLast member))
  exact short_of_makeWay reached name (List.mem_append_right _ member) down

theorem makeWay_of_placed (placed : item.Placed tree directory whole) (opens : tree.Opens directory whole)
    (more : tree.Keeps other) (within : other.Keeps whole) :
    ∃ made, other.makeWay (tree.origin directory.toList)
      (Path.names directory.toList ++ Path.names item.path.toList).dropLast = (true, made) := by
  obtain ⟨made, output, inside⟩ := opens
  obtain ⟨opened, output⟩ := makeWay_of_keeps output more within inside
  rw [way_eq_append placed.writable, makeWay_append, output]
  -- Steps upwards are on the way to the output directory only; from there on all leads down.
  have onWay {names : List (List Char)} (front : names <+: Path.names directory.toList ++ item.names.dropLast) :
      whole.at? ((tree.origin directory.toList).follow names) = some .directory :=
    placed.way _ ⟨names, way_eq_append placed.writable ▸ front, rfl⟩
  have grown := makeWay_grown other (tree.origin directory.toList) (Path.names directory.toList)
  rw [output] at grown
  have kept : opened.Keeps whole := by
    refine grown.keeps_within within (fun _ => False.elim) ?_
    rintro place ⟨names, front, rfl⟩
    exact onWay (front.trans (List.prefix_append _ _))
  have start := makeWay_directory output _ ⟨_, List.prefix_refl _, rfl⟩
  refine makeWay_within kept start ?_ placed.short ?_
  · exact fun name member =>
      isUp_of_accepted placed.accepted name (List.mem_of_mem_filter (List.mem_of_mem_dropLast member))
  · rintro place ⟨names, front, rfl⟩
    rw [← Place.follow_append]
    exact onWay ((List.prefix_append_right_inj _).2 front)

theorem save_of_placed (placed : item.Placed tree directory whole) (opens : tree.Opens directory whole)
    (home : other.home = tree.home) (more : tree.Keeps other) (within : other.Keeps whole) (bytes : List UInt8) :
    ∃ again, other.save item directory bytes = (.ok (item.target directory), again) ∧ again.Keeps whole := by
  obtain ⟨made, reached⟩ := makeWay_of_placed placed opens more within
  obtain ⟨others, file⟩ := placed.file
  have way := placed.way
  have origin : tree.origin directory.toList = other.origin directory.toList := by simp [origin, home]
  rw [origin] at reached
  rw [← place_eq home] at file
  rw [← onWay_eq home] at way
  exact save_of_makeWay placed.accepted placed.writable reached within file way

end

section

variable {tree saved whole other : Tree} {directory : String} {done others : List (ContentItem × List UInt8)}

theorem placed_of_saveAll (stored : tree.saveAll directory done = some saved) :
    ∀ entry ∈ done, entry.1.Placed tree directory saved := by
  induction done generalizing tree with
  | nil => simp
  | cons entry rest ih =>
    obtain ⟨item, bytes⟩ := entry
    obtain ⟨path, next, result, later⟩ := saveAll_cons stored
    have home := home_of_save result
    refine List.forall_mem_cons.2 ⟨placed_of_save result (saveAll_grown later).keeps, fun entry member => ?_⟩
    obtain ⟨accepted, writable, short, file, way⟩ := ih later entry member
    rw [place_eq home] at file
    rw [onWay_eq home] at way
    exact ⟨accepted, writable, short, file, way⟩

theorem saveAll_of_placed (opens : tree.Opens directory whole)
    (placed : ∀ entry ∈ done, entry.1.Placed tree directory whole) (home : other.home = tree.home)
    (more : tree.Keeps other) (within : other.Keeps whole) : ∃ again, other.saveAll directory done = some again := by
  induction done generalizing other with
  | nil => exact ⟨other, rfl⟩
  | cons entry rest ih =>
    obtain ⟨item, bytes⟩ := entry
    rw [List.forall_mem_cons] at placed
    obtain ⟨next, result, inside⟩ := save_of_placed placed.1 opens home more within bytes
    have grown := save_grown other item directory bytes
    rw [result] at grown
    obtain ⟨again, later⟩ := ih placed.2 (grown.home.trans home) (more.trans grown.keeps) inside
    exact ⟨again, by simpa [saveAll, result] using later⟩

theorem saveAll_of_perm (stored : tree.saveAll directory done = some saved) (order : done.Perm others) :
    ∃ again, tree.saveAll directory others = some again := by
  cases done with
  | nil => exact ⟨tree, by rw [List.nil_perm.1 order]; rfl⟩
  | cons entry rest =>
    obtain ⟨item, bytes⟩ := entry
    obtain ⟨path, next, result, later⟩ := saveAll_cons stored
    have opens := (opens_of_save result).mono (saveAll_grown later).keeps
    have placed : ∀ entry ∈ others, entry.1.Placed tree directory saved :=
      fun entry member => placed_of_saveAll stored entry (order.mem_iff.2 member)
    exact saveAll_of_placed opens placed rfl (.refl tree) (saveAll_grown stored).keeps

end

end Tree

theorem lastBytes?_eq_some_iff {done : List (ContentItem × List UInt8)}
    (distinct : (done.map fun entry => entry.1.names).Nodup) (names : List (List Char)) (bytes : List UInt8) :
    lastBytes? done names = some bytes ↔ ∃ entry ∈ done, entry.1.names = names ∧ entry.2 = bytes := by
  induction done generalizing bytes with
  | nil => simp [lastBytes?]
  | cons entry rest ih =>
    obtain ⟨apart, distinct⟩ := List.nodup_cons.1 distinct
    rw [lastBytes?_cons, Option.or_eq_some_iff, ih distinct bytes, List.exists_mem_cons_iff]
    by_cases same : entry.1.names = names
    · have alone : ∀ other ∈ rest, other.1.names ≠ names :=
        fun other member again => apart (List.mem_map.2 ⟨other, member, again.trans same.symm⟩)
      have last : lastBytes? rest names = none := by
        rw [Option.eq_none_iff_forall_ne_some]
        intro found later
        obtain ⟨other, member, again, -⟩ := (ih distinct found).1 later
        exact alone other member again
      simp [same, last, or_comm]
    · simp [same]

theorem lastBytes?_perm {done others : List (ContentItem × List UInt8)}
    (distinct : (done.map fun entry => entry.1.names).Nodup) (order : done.Perm others) (names : List (List Char)) :
    lastBytes? others names = lastBytes? done names := by
  have again : (others.map fun entry => entry.1.names).Nodup := (order.map _).nodup_iff.1 distinct
  apply Option.ext
  intro bytes
  rw [lastBytes?_eq_some_iff again, lastBytes?_eq_some_iff distinct]
  simp only [order.mem_iff]

namespace Tree

section

variable {tree saved again : Tree} {directory : String} {done others : List (ContentItem × List UInt8)}

theorem fileAt?_eq_some_iff (tree : Tree) (place : Place) (bytes : List UInt8) :
    tree.fileAt? place = some bytes ↔ tree.at? place = some (.file bytes) := by
  unfold fileAt?
  split
  next found => simp [found]
  next other =>
    simp only [reduceCtorEq, false_iff]
    exact other bytes

theorem saveAll_at? (stored : tree.saveAll directory done = some saved) {item : ContentItem}
    (member : item ∈ done.map Prod.fst) :
    ∃ bytes, lastBytes? done item.names = some bytes ∧ saved.at? (item.place tree directory) = some (.file bytes) := by
  obtain ⟨entry, among, rfl⟩ := List.mem_map.1 member
  obtain ⟨bytes, last⟩ := lastBytes?_isSome among
  have file := saveAll_fileAt?_eq stored entry.1.names
  rw [last] at file
  exact ⟨bytes, last, (fileAt?_eq_some_iff _ _ _).1 file⟩

theorem same_of_saveAll (distinct : (done.map fun entry => entry.1.names).Nodup) (order : done.Perm others)
    (stored : tree.saveAll directory done = some saved) (repeated : tree.saveAll directory others = some again) :
    saved.Same again := by
  have grown := saveAll_grown stored
  have regrown := saveAll_grown repeated
  have items : ∀ item, item ∈ done.map Prod.fst ↔ item ∈ others.map Prod.fst := fun item => (order.map _).mem_iff
  refine ⟨regrown.home.trans grown.home.symm, fun place => ?_⟩
  by_cases here : tree.Places directory (done.map Prod.fst) place
  · obtain ⟨item, member, rfl⟩ := here
    obtain ⟨bytes, last, file⟩ := saveAll_at? stored member
    obtain ⟨others, relast, refile⟩ := saveAll_at? repeated ((items item).1 member)
    rw [lastBytes?_perm distinct order, last] at relast
    rw [file, refile, Option.some.inj relast]
  by_cases onWay : tree.Ways directory (done.map Prod.fst) place
  · obtain ⟨item, member, onWay⟩ := onWay
    rw [(saveAll_holds stored).2 place ⟨item, member, onWay⟩,
      (saveAll_holds repeated).2 place ⟨item, (items item).1 member, onWay⟩]
  · rw [grown.unchanged here onWay]
    refine regrown.unchanged ?_ ?_
    · rintro ⟨item, member, same⟩
      exact here ⟨item, (items item).2 member, same⟩
    · rintro ⟨item, member, same⟩
      exact onWay ⟨item, (items item).2 member, same⟩

/-- Items whose paths have different names can be saved in any order if they can be saved in one, and the files and
directories are the same in the end. -/
theorem saveAll_reordered (distinct : (done.map fun entry => entry.1.names).Nodup) (order : done.Perm others)
    (stored : tree.saveAll directory done = some saved) :
    ∃ again, tree.saveAll directory others = some again ∧ saved.Same again := by
  obtain ⟨again, repeated⟩ := saveAll_of_perm stored order
  exact ⟨again, repeated, same_of_saveAll distinct order stored repeated⟩

end

end Tree

namespace Sample

-- The items share a directory, and the output directory is reached by a step upwards.
def parcel : List (ContentItem × List UInt8) := [(⟨1, "d/./a"⟩, [1]), (⟨2, "d/e/a"⟩, [2, 2]), (⟨3, "d//b"⟩, [])]

end Sample

theorem Tree.saveAll_reordered_second :
    ∃ saved again, Sample.stored.saveAll "o/../n" Sample.parcel = some saved ∧
      Sample.stored.saveAll "o/../n" Sample.parcel.reverse = some again ∧ saved.Same again := by
  have distinct : (Sample.parcel.map fun entry => entry.1.names).Nodup := by decide
  have all : (Sample.stored.saveAll "o/../n" Sample.parcel).isSome = true := by decide +kernel
  obtain ⟨saved, stored⟩ := Option.isSome_iff_exists.1 all
  obtain ⟨again, repeated, same⟩ := saveAll_reordered distinct (List.reverse_perm Sample.parcel).symm stored
  exact ⟨saved, again, stored, repeated, same⟩

end Catalog
