import Catalog.Proofs.Downloads
import Catalog.Proofs.LostReplies
import Catalog.Proofs.SavedFiles

set_option autoImplicit false

namespace Catalog

def ContentItem.names (item : ContentItem) : List (List Char) :=
  Path.names item.path.toList

def lastBytes? (done : List (ContentItem × List UInt8)) (names : List (List Char)) : Option (List UInt8) :=
  (done.reverse.find? fun entry => entry.1.names == names).map Prod.snd

theorem lastBytes?_cons (entry : ContentItem × List UInt8) (rest : List (ContentItem × List UInt8))
    (names : List (List Char)) :
    lastBytes? (entry :: rest) names =
      (lastBytes? rest names).or (if entry.1.names = names then some entry.2 else none) := by
  rw [lastBytes?, lastBytes?, List.reverse_cons, List.find?_append]
  cases rest.reverse.find? fun entry => entry.1.names == names with
  | some later => rfl
  | none => by_cases same : entry.1.names = names <;> simp [same]

theorem lastBytes?_isSome {done : List (ContentItem × List UInt8)} {entry : ContentItem × List UInt8}
    (member : entry ∈ done) : ∃ bytes, lastBytes? done entry.1.names = some bytes := by
  induction done with
  | nil => cases member
  | cons first rest ih =>
    rw [lastBytes?_cons]
    rcases List.mem_cons.1 member with rfl | among
    · cases lastBytes? rest entry.1.names with
      | some bytes => exact ⟨bytes, rfl⟩
      | none => exact ⟨entry.2, by simp⟩
    · obtain ⟨bytes, last⟩ := ih among
      exact ⟨bytes, by rw [last]; rfl⟩

namespace Tree

variable {tree saved later : Tree} {directory : String} {done : List (ContentItem × List UInt8)}

theorem saveAll_cons {item : ContentItem} {bytes : List UInt8}
    (stored : tree.saveAll directory ((item, bytes) :: done) = some saved) :
    ∃ path next, tree.save item directory bytes = (.ok path, next) ∧ next.saveAll directory done = some saved := by
  rcases result : tree.save item directory bytes with ⟨_ | path, next⟩
  · simp [saveAll, result] at stored
  · exact ⟨path, next, rfl, by simpa [saveAll, result] using stored⟩

theorem saveAll_fileAt?_eq (stored : tree.saveAll directory done = some saved) (names : List (List Char)) :
    saved.fileAt? (tree.output directory ++ names) =
      (lastBytes? done names).or (tree.fileAt? (tree.output directory ++ names)) := by
  induction done generalizing tree with
  | nil =>
    obtain rfl := Option.some.inj stored
    rfl
  | cons entry rest ih =>
    obtain ⟨item, bytes⟩ := entry
    obtain ⟨path, next, result, later⟩ := saveAll_cons stored
    have home := home_of_save result
    have output : next.output directory = tree.output directory := by simp [Tree.output, origin, home]
    have first : next.fileAt? (tree.output directory ++ names) =
        (if item.names = names then some bytes else none).or (tree.fileAt? (tree.output directory ++ names)) := by
      by_cases same : item.names = names
      · have here : tree.output directory ++ names = item.place tree directory := by rw [← same]; rfl
        rw [if_pos same, here, fileAt?, (at?_of_saved result).1]
        rfl
      · have grown := save_grown tree item directory bytes
        rw [result] at grown
        rw [if_neg same, grown.fileAt? fun there => same (List.append_cancel_left there.1).symm]
        rfl
    rw [← output, ih later, output, first, lastBytes?_cons, Option.or_assoc]

theorem read?_of_saveAll (stored : tree.saveAll directory done = some saved) (kept : saved.Keeps later)
    (home : later.home = saved.home) {entry : ContentItem × List UInt8} (member : entry ∈ done) :
    later.read? (entry.1.target directory) = later.fileAt? (entry.1.place tree directory) := by
  induction done generalizing tree with
  | nil => cases member
  | cons first rest ih =>
    obtain ⟨item, bytes⟩ := first
    obtain ⟨path, next, result, others⟩ := saveAll_cons stored
    have grown := saveAll_grown others
    rcases List.mem_cons.1 member with rfl | among
    · have target := (save_eq_ok_iff.1 result).2.1
      rw [← target]
      exact read?_of_save result (grown.keeps.trans kept) (home.trans grown.home)
    · rw [ih others among, place_eq (home_of_save result)]

-- Directories that come up later do not matter.
theorem read?_last {ways : Place → Prop} (stored : tree.saveAll directory done = some saved)
    (grown : Grown (fun _ => False) ways saved later) {entry : ContentItem × List UInt8} (member : entry ∈ done) :
    ∃ bytes, lastBytes? done entry.1.names = some bytes ∧ later.read? (entry.1.target directory) = some bytes := by
  obtain ⟨bytes, last⟩ := lastBytes?_isSome member
  refine ⟨bytes, last, ?_⟩
  have file := saveAll_fileAt?_eq stored entry.1.names
  rw [last] at file
  rw [read?_of_saveAll stored grown.keeps grown.home member, grown.fileAt? fun never => never]
  exact file

end Tree

section

variable {config : Config} {locator : Locator} {directory : String}

end

namespace Sample

end Sample

end Catalog
