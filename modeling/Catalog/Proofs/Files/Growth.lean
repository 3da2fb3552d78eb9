import Mathlib.Tactic.SplitIfs
import Catalog.Files.Tree

set_option autoImplicit false
namespace Catalog

def Node.isFile : Node → Bool
  | .file _ => true
  | .directory => false

namespace Tree

@[simp] theorem isDirectoryAt_iff (tree : Tree) (place : Place) :
    tree.isDirectoryAt place = true ↔ tree.at? place = some .directory := by
  simp [isDirectoryAt]

@[simp] theorem isDirectoryAt_eq_false_iff (tree : Tree) (place : Place) :
    tree.isDirectoryAt place = false ↔ tree.at? place ≠ some .directory := by
  simp [isDirectoryAt]

def fileAt? (tree : Tree) (place : Place) : Option (List UInt8) :=
  match tree.at? place with
  | some (.file bytes) => some bytes
  | _ => none

def Keeps (before after : Tree) : Prop :=
  ∀ place node, before.at? place = some node →
    ∃ kept, after.at? place = some kept ∧ kept.isFile = node.isFile

theorem Keeps.refl (tree : Tree) : tree.Keeps tree :=
  fun _ node present => ⟨node, present, rfl⟩

theorem Keeps.trans {first second third : Tree} (before : first.Keeps second) (after : second.Keeps third) :
    first.Keeps third := by
  intro place node present
  obtain ⟨kept, present, same⟩ := before place node present
  obtain ⟨again, present, still⟩ := after place kept present
  exact ⟨again, present, still.trans same⟩

theorem Keeps.directory {before after : Tree} (keeps : before.Keeps after) {place : Place}
    (present : before.at? place = some .directory) : after.at? place = some .directory := by
  obtain ⟨kept, present, same⟩ := keeps place _ present
  cases kept with
  | file => cases same
  | directory => exact present

theorem Keeps.file {before after : Tree} (keeps : before.Keeps after) {place : Place} {bytes : List UInt8}
    (present : before.at? place = some (.file bytes)) : ∃ bytes, after.at? place = some (.file bytes) := by
  obtain ⟨kept, present, same⟩ := keeps place _ present
  cases kept with
  | file bytes => exact ⟨bytes, present⟩
  | directory => cases same

theorem Keeps.directory_left {before after : Tree} (keeps : before.Keeps after) {place : Place} {node : Node}
    (there : after.at? place = some .directory) (present : before.at? place = some node) :
    before.at? place = some .directory := by
  obtain ⟨kept, same, kind⟩ := keeps place node present
  obtain rfl : Node.directory = kept := Option.some.inj (there.symm.trans same)
  cases node with
  | file => cases kind
  | directory => exact present

theorem Keeps.put_left {before after : Tree} (keeps : before.Keeps after) {place : Place} (named : place ≠ [])
    (present : after.at? place = some .directory) : (before.put place .directory).Keeps after := by
  intro other node there
  rw [at?_put before place other .directory named] at there
  split_ifs at there with same
  · obtain rfl := Option.some.inj there
    exact ⟨.directory, same ▸ present, rfl⟩
  · exact keeps other node there

theorem Keeps.put {before after : Tree} (keeps : before.Keeps after) {place : Place} (named : place ≠ [])
    (node : Node) : (before.put place node).Keeps (after.put place node) := by
  intro other found there
  rw [at?_put before place other node named] at there
  rw [at?_put after place other node named]
  split_ifs at there ⊢ with same
  · exact ⟨found, there, rfl⟩
  · exact keeps other found there

-- What an operation may do to a tree: it writes files at some places, where no directory is, and makes
-- directories at some places, where nothing is.
structure Grown (files directories : Place → Prop) (before after : Tree) : Prop where
  home : after.home = before.home
  change : ∀ place, after.at? place = before.at? place ∨
    (files place ∧ before.at? place ≠ some .directory ∧ ∃ bytes, after.at? place = some (.file bytes)) ∨
    (directories place ∧ before.at? place = none ∧ after.at? place = some .directory)

section

variable {files directories : Place → Prop} {before after : Tree}

theorem Grown.refl (files directories : Place → Prop) (tree : Tree) : Grown files directories tree tree :=
  ⟨rfl, fun _ => .inl rfl⟩

theorem Grown.trans {between : Tree} (first : Grown files directories before between)
    (second : Grown files directories between after) : Grown files directories before after := by
  refine ⟨second.home.trans first.home, fun place => ?_⟩
  rcases second.change place with same | ⟨allowed, free, bytes, written⟩ | ⟨allowed, absent, made⟩
  · rw [same]
    exact first.change place
  · rcases first.change place with earlier | ⟨-, clear, -⟩ | ⟨-, -, made⟩
    · exact .inr (.inl ⟨allowed, earlier ▸ free, bytes, written⟩)
    · exact .inr (.inl ⟨allowed, clear, bytes, written⟩)
    · exact absurd made free
  · rcases first.change place with earlier | ⟨-, -, bytes, written⟩ | ⟨-, -, earlier⟩
    · exact .inr (.inr ⟨allowed, earlier ▸ absent, made⟩)
    · simp [written] at absent
    · simp [earlier] at absent

theorem Grown.mono {moreFiles moreDirectories : Place → Prop} (grown : Grown files directories before after)
    (wider : ∀ place, files place → moreFiles place)
    (further : ∀ place, directories place → moreDirectories place) :
    Grown moreFiles moreDirectories before after := by
  refine ⟨grown.home, fun place => ?_⟩
  rcases grown.change place with same | ⟨allowed, changed⟩ | ⟨allowed, changed⟩
  · exact .inl same
  · exact .inr (.inl ⟨wider place allowed, changed⟩)
  · exact .inr (.inr ⟨further place allowed, changed⟩)

theorem Grown.keeps (grown : Grown files directories before after) : before.Keeps after := by
  intro place node present
  rcases grown.change place with same | ⟨-, free, bytes, written⟩ | ⟨-, absent, -⟩
  · exact ⟨node, same.trans present, rfl⟩
  · cases node with
    | file => exact ⟨.file bytes, written, rfl⟩
    | directory => exact absurd present free
  · simp [present] at absent

theorem Grown.unchanged (grown : Grown files directories before after) {place : Place}
    (noFile : ¬ files place) (noDirectory : ¬ directories place) : after.at? place = before.at? place := by
  rcases grown.change place with same | ⟨allowed, -⟩ | ⟨allowed, -⟩
  · exact same
  · exact absurd allowed noFile
  · exact absurd allowed noDirectory

theorem Grown.fileAt? (grown : Grown files directories before after) {place : Place} (noFile : ¬ files place) :
    after.fileAt? place = before.fileAt? place := by
  rcases grown.change place with same | ⟨allowed, -⟩ | ⟨-, absent, made⟩
  · simp [Tree.fileAt?, same]
  · exact absurd allowed noFile
  · simp [Tree.fileAt?, absent, made]

theorem Grown.keeps_within {whole : Tree} (grown : Grown files directories before after)
    (within : before.Keeps whole)
    (hasFiles : ∀ place, files place → ∃ bytes, whole.at? place = some (.file bytes))
    (hasDirectories : ∀ place, directories place → whole.at? place = some .directory) : after.Keeps whole := by
  intro place node present
  rcases grown.change place with same | ⟨allowed, -, bytes, written⟩ | ⟨allowed, -, made⟩
  · exact within place node (same ▸ present)
  · obtain ⟨others, there⟩ := hasFiles place allowed
    obtain rfl : Node.file bytes = node := Option.some.inj (written.symm.trans present)
    exact ⟨.file others, there, rfl⟩
  · obtain rfl : Node.directory = node := Option.some.inj (made.symm.trans present)
    exact ⟨.directory, hasDirectories place allowed, rfl⟩

end

theorem grown_put_directory {directories : Place → Prop} {tree : Tree} {place : Place} (named : place ≠ [])
    (allowed : directories place) (absent : tree.at? place = none) :
    Grown (fun _ => False) directories tree (tree.put place .directory) := by
  refine ⟨rfl, fun other => ?_⟩
  rw [at?_put tree place other .directory named]
  split
  next same => exact .inr (.inr ⟨same ▸ allowed, same ▸ absent, rfl⟩)
  next => exact .inl rfl

theorem grown_put_file {files : Place → Prop} {tree : Tree} {place : Place} (named : place ≠ [])
    (allowed : files place) (free : tree.at? place ≠ some .directory) (bytes : List UInt8) :
    Grown files (fun _ => False) tree (tree.put place (.file bytes)) := by
  refine ⟨rfl, fun other => ?_⟩
  rw [at?_put tree place other (.file bytes) named]
  split
  next same => exact .inr (.inl ⟨same ▸ allowed, same ▸ free, bytes, rfl⟩)
  next => exact .inl rfl

end Tree

end Catalog
