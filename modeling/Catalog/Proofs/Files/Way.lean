import Catalog.Proofs.Files.Growth
import Catalog.Proofs.Files.Names

set_option autoImplicit false

namespace Catalog

namespace Place

def enter (place : Place) (name : List Char) : Place :=
  if Path.isUp name then place.dropLast else place ++ [name]

def follow (place : Place) (names : List (List Char)) : Place :=
  names.foldl enter place

def OnWay (start : Place) (names : List (List Char)) (place : Place) : Prop :=
  ∃ way, way <+: names ∧ place = start.follow way

theorem follow_append (place : Place) (front back : List (List Char)) :
    place.follow (front ++ back) = (place.follow front).follow back :=
  List.foldl_append

theorem follow_eq_append (place : Place) (names : List (List Char))
    (down : ∀ name ∈ names, Path.isUp name = false) : place.follow names = place ++ names := by
  induction names generalizing place with
  | nil => simp [follow]
  | cons name rest ih =>
    have step : place.enter name = place ++ [name] := by simp [enter, down name]
    calc
      place.follow (name :: rest) = (place.enter name).follow rest := rfl
      _ = place.enter name ++ rest := ih _ fun other member => down other (List.mem_cons_of_mem _ member)
      _ = place ++ name :: rest := by simp [step]

theorem onWay_nil (start place : Place) : OnWay start [] place ↔ place = start := by
  simp [OnWay, follow]

theorem onWay_cons (start : Place) (name : List Char) (rest : List (List Char)) (place : Place) :
    OnWay start (name :: rest) place ↔ place = start ∨ OnWay (start.enter name) rest place := by
  constructor
  · rintro ⟨way, inside, rfl⟩
    cases way with
    | nil => exact .inl rfl
    | cons first later =>
      obtain ⟨rfl, short⟩ := List.cons_prefix_cons.1 inside
      exact .inr ⟨later, short, rfl⟩
  · rintro (rfl | ⟨way, inside, rfl⟩)
    · exact ⟨[], List.nil_prefix, rfl⟩
    · exact ⟨name :: way, List.cons_prefix_cons.2 ⟨rfl, inside⟩, rfl⟩

theorem OnWay.mono {start place : Place} {names more : List (List Char)} (onWay : OnWay start names place)
    (longer : names <+: more) : OnWay start more place := by
  obtain ⟨way, inside, reached⟩ := onWay
  exact ⟨way, inside.trans longer, reached⟩

end Place

namespace Tree

def pass? (tree : Tree) (place : Place) (name : List Char) : Option Tree :=
  if !tree.isDirectoryAt place then none
  else if Path.isUp name then some tree
  else if byteLength name > nameLimit then none
  else
    match tree.at? (place.enter name) with
    | some _ => some tree
    | none => some (tree.put (place.enter name) .directory)

-- Makes the directories that are missing where names lead, from the first to the last. It succeeds if
-- all names can be entered and there is a directory at the end.
def makeWay (tree : Tree) (place : Place) : List (List Char) → Bool × Tree
  | [] => (tree.isDirectoryAt place, tree)
  | name :: rest =>
    match tree.pass? place name with
    | none => (false, tree)
    | some passed => makeWay passed (place.enter name) rest

theorem enter_ne_nil (place : Place) {name : List Char} (down : Path.isUp name = false) :
    place.enter name ≠ [] := by
  simp [Place.enter, down]

theorem pass?_eq_none_of_not_directory (tree : Tree) (place : Place) (name : List Char)
    (blocked : tree.isDirectoryAt place = false) : tree.pass? place name = none := by
  simp [pass?, blocked]

theorem directory_of_pass? {tree passed : Tree} {place : Place} {name : List Char}
    (entered : tree.pass? place name = some passed) : tree.at? place = some .directory := by
  by_contra blocked
  rw [pass?_eq_none_of_not_directory tree place name ((isDirectoryAt_eq_false_iff tree place).2 blocked)] at entered
  cases entered

theorem pass?_grown {tree passed : Tree} {place : Place} {name : List Char}
    (entered : tree.pass? place name = some passed) :
    Grown (fun _ => False) (fun other => other = place.enter name) tree passed := by
  unfold pass? at entered
  split_ifs at entered with blocked up long
  · obtain rfl := Option.some.inj entered
    exact .refl _ _ tree
  · rw [Bool.not_eq_true] at up
    split at entered
    next =>
      obtain rfl := Option.some.inj entered
      exact .refl _ _ tree
    next absent =>
      obtain rfl := Option.some.inj entered
      exact grown_put_directory (enter_ne_nil place up) rfl absent

theorem makeWay_grown (tree : Tree) (place : Place) (names : List (List Char)) :
    Grown (fun _ => False) (place.OnWay names) tree (tree.makeWay place names).2 := by
  induction names generalizing tree place with
  | nil => exact .refl _ _ tree
  | cons name rest ih =>
    have further : ∀ other, (place.enter name).OnWay rest other → place.OnWay (name :: rest) other :=
      fun other onWay => (Place.onWay_cons place name rest other).2 (.inr onWay)
    cases entered : tree.pass? place name with
    | none => simpa [makeWay, entered] using Grown.refl _ _ tree
    | some passed =>
      have here : place.OnWay (name :: rest) (place.enter name) := further _ ⟨[], List.nil_prefix, rfl⟩
      have step := (pass?_grown entered).mono (fun _ => id) fun other same => same ▸ here
      simpa [makeWay, entered] using step.trans ((ih passed (place.enter name)).mono (fun _ => id) further)

theorem makeWay_directory {tree made : Tree} {place : Place} {names : List (List Char)}
    (reached : tree.makeWay place names = (true, made)) :
    ∀ other, place.OnWay names other → made.at? other = some .directory := by
  induction names generalizing tree place with
  | nil =>
    intro other onWay
    rw [Place.onWay_nil] at onWay
    simp only [makeWay, Prod.mk.injEq, isDirectoryAt_iff] at reached
    rw [onWay, ← reached.2]
    exact reached.1
  | cons name rest ih =>
    intro other onWay
    cases entered : tree.pass? place name with
    | none => simp [makeWay, entered] at reached
    | some passed =>
      simp only [makeWay, entered] at reached
      rcases (Place.onWay_cons place name rest other).1 onWay with rfl | later
      · have later := (makeWay_grown passed (other.enter name) rest).keeps
        rw [reached] at later
        exact ((pass?_grown entered).keeps.trans later).directory (directory_of_pass? entered)
      · exact ih reached other later

theorem makeWay_of_not_directory (tree : Tree) (place : Place) (names : List (List Char))
    (blocked : tree.isDirectoryAt place = false) : tree.makeWay place names = (false, tree) := by
  cases names with
  | nil => simp [makeWay, blocked]
  | cons name rest => simp [makeWay, pass?_eq_none_of_not_directory tree place name blocked]

theorem makeWay_append (tree : Tree) (place : Place) (front back : List (List Char)) :
    tree.makeWay place (front ++ back) =
      if (tree.makeWay place front).1 then (tree.makeWay place front).2.makeWay (place.follow front) back
      else (false, (tree.makeWay place front).2) := by
  induction front generalizing tree place with
  | nil =>
    cases reached : tree.isDirectoryAt place with
    | true => simp [makeWay, reached, Place.follow]
    | false => simp [makeWay, reached, makeWay_of_not_directory]
  | cons name rest ih =>
    cases entered : tree.pass? place name with
    | none => simp [makeWay, entered]
    | some passed => simpa [makeWay, entered, Place.follow] using ih passed (place.enter name)

theorem pass?_of_keeps {tree passed other whole : Tree} {place : Place} {name : List Char}
    (entered : tree.pass? place name = some passed) (more : tree.Keeps other) (within : other.Keeps whole)
    (holds : passed.Keeps whole) :
    ∃ again, other.pass? place name = some again ∧ passed.Keeps again ∧ again.Keeps whole := by
  have start := more.directory (directory_of_pass? entered)
  unfold pass? at entered
  split_ifs at entered with blocked up long
  · obtain rfl := Option.some.inj entered
    exact ⟨other, by simp [pass?, start, up], more, within⟩
  split at entered
  next node present =>
    obtain rfl := Option.some.inj entered
    obtain ⟨kept, present, -⟩ := more _ node present
    exact ⟨other, by simp [pass?, start, up, long, present], more, within⟩
  next absent =>
    obtain rfl := Option.some.inj entered
    rw [Bool.not_eq_true] at up
    have named := enter_ne_nil place up
    have put (tree : Tree) : (tree.put (place.enter name) .directory).at? (place.enter name) = some .directory := by
      simp [at?_put tree _ _ _ named]
    cases present : other.at? (place.enter name) with
    | none =>
      -- It is missing in both trees, so both get it.
      refine ⟨other.put (place.enter name) .directory, by simp [pass?, start, up, long, present], ?_, ?_⟩
      · exact more.put named .directory
      · exact within.put_left named (holds.directory (put tree))
    | some node =>
      -- The tree that holds both has a directory here, so the other tree can have nothing else.
      have there : other.at? (place.enter name) = some .directory :=
        within.directory_left (holds.directory (put tree)) present
      refine ⟨other, by simp [pass?, start, up, long, present], ?_, within⟩
      exact more.put_left named there

theorem makeWay_of_keeps {tree made other whole : Tree} {place : Place} {names : List (List Char)}
    (reached : tree.makeWay place names = (true, made)) (more : tree.Keeps other) (within : other.Keeps whole)
    (holds : made.Keeps whole) :
    ∃ remade, other.makeWay place names = (true, remade) := by
  induction names generalizing tree other place with
  | nil =>
    simp only [makeWay, Prod.mk.injEq, isDirectoryAt_iff] at reached
    refine ⟨other, ?_⟩
    simp [makeWay, more.directory reached.1]
  | cons name rest ih =>
    cases entered : tree.pass? place name with
    | none => simp [makeWay, entered] at reached
    | some passed =>
      have later : passed.makeWay (place.enter name) rest = (true, made) := by
        simpa [makeWay, entered] using reached
      have wayKept := (makeWay_grown passed (place.enter name) rest).keeps
      rw [later] at wayKept
      obtain ⟨again, entered, kept, within⟩ := pass?_of_keeps entered more within (wayKept.trans holds)
      obtain ⟨remade, reached⟩ := ih later kept within
      exact ⟨remade, by simpa [makeWay, entered] using reached⟩

theorem pass?_within {tree whole : Tree} {place : Place} {name : List Char} (within : tree.Keeps whole)
    (start : tree.at? place = some .directory) (down : Path.isUp name = false) (short : byteLength name ≤ nameLimit)
    (there : whole.at? (place.enter name) = some .directory) :
    ∃ passed, tree.pass? place name = some passed ∧ passed.at? (place.enter name) = some .directory ∧
      passed.Keeps whole := by
  have fits : ¬ byteLength name > nameLimit := Nat.not_lt.2 short
  cases present : tree.at? (place.enter name) with
  | none =>
    have named := enter_ne_nil place down
    refine ⟨tree.put (place.enter name) .directory, by simp [pass?, start, down, fits, present], ?_,
      within.put_left named there⟩
    simp [at?_put tree _ _ _ named]
  | some node =>
    exact ⟨tree, by simp [pass?, start, down, fits, present], within.directory_left there present, within⟩

theorem makeWay_within {tree whole : Tree} {place : Place} {names : List (List Char)} (within : tree.Keeps whole)
    (start : tree.at? place = some .directory) (down : ∀ name ∈ names, Path.isUp name = false)
    (short : ∀ name ∈ names, byteLength name ≤ nameLimit)
    (there : ∀ other, place.OnWay names other → whole.at? other = some .directory) :
    ∃ made, tree.makeWay place names = (true, made) := by
  induction names generalizing tree place with
  | nil => exact ⟨tree, by simp [makeWay, start]⟩
  | cons name rest ih =>
    rw [List.forall_mem_cons] at down short
    have next : ∀ other, (place.enter name).OnWay rest other → whole.at? other = some .directory :=
      fun other onWay => there other ((Place.onWay_cons place name rest other).2 (.inr onWay))
    obtain ⟨passed, entered, reached, inside⟩ :=
      pass?_within within start down.1 short.1 (next _ ⟨[], List.nil_prefix, rfl⟩)
    obtain ⟨made, later⟩ := ih inside reached down.2 short.2 next
    exact ⟨made, by simpa [makeWay, entered] using later⟩

theorem short_of_pass? {tree passed : Tree} {place : Place} {name : List Char}
    (entered : tree.pass? place name = some passed) (down : Path.isUp name = false) : byteLength name ≤ nameLimit := by
  unfold pass? at entered
  split_ifs at entered with blocked up long
  · rw [down] at up
    cases up
  · exact Nat.le_of_not_lt long

theorem short_of_makeWay {tree made : Tree} {place : Place} {names : List (List Char)}
    (reached : tree.makeWay place names = (true, made)) :
    ∀ name ∈ names, Path.isUp name = false → byteLength name ≤ nameLimit := by
  induction names generalizing tree place with
  | nil => simp
  | cons name rest ih =>
    cases entered : tree.pass? place name with
    | none => simp [makeWay, entered] at reached
    | some passed =>
      simp only [makeWay, entered] at reached
      exact List.forall_mem_cons.2 ⟨short_of_pass? entered, ih reached⟩

end Tree

end Catalog
