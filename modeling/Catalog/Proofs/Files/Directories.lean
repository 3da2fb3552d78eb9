import Catalog.Proofs.Files.Way

set_option autoImplicit false

namespace Catalog

namespace Tree

open Catalog.Path (isIdle isUp)

def steps (path : List Char) : List (List Char) :=
  (Path.segments path).filter (!·.isEmpty)

theorem names_steps (path : List Char) : (steps path).filter (!isIdle ·) = Path.names path := by
  rw [steps, List.filter_filter, Path.names]
  congr 1
  funext segment
  cases segment with
  | nil => rfl
  | cons => simp

theorem makeWay_of_walk (tree : Tree) (place : Place) (segments : List (List Char)) :
    match tree.walk place segments with
    | .ok reached =>
      reached = place.follow (segments.filter (!isIdle ·)) ∧
        tree.makeWay place (segments.filter (!isIdle ·)) = (tree.isDirectoryAt reached, tree)
    | .error error => error ≠ .notFound → tree.makeWay place (segments.filter (!isIdle ·)) = (false, tree) := by
  induction segments generalizing place with
  | nil => exact ⟨rfl, rfl⟩
  | cons segment rest ih =>
    rw [walk]
    split_ifs with blocked idle up long
    · intro _
      rw [Bool.not_eq_true'] at blocked
      exact makeWay_of_not_directory tree place _ blocked
    · simpa [idle] using ih place
    · have named := Path.not_isIdle_of_isUp up
      have entered : tree.pass? place segment = some tree := by simpa [pass?, up] using blocked
      have next : place.enter segment = place.dropLast := by simp [Place.enter, up]
      simpa [named, makeWay, entered, next, Place.follow] using ih place.dropLast
    · intro _
      have stopped : tree.pass? place segment = none := by simp [pass?, up, long]
      simp [idle, makeWay, stopped]
    · rw [Bool.not_eq_true] at up
      have next : place.enter segment = place ++ [segment] := by simp [Place.enter, up]
      cases present : tree.at? (place ++ [segment]) with
      | none =>
        intro other
        exact absurd rfl other
      | some node =>
        have entered : tree.pass? place segment = some tree := by
          simpa [pass?, up, long, next, present] using blocked
        simpa [idle, makeWay, entered, next, Place.follow] using ih (place ++ [segment])

theorem locate_eq (tree : Tree) {path name : List Char} {front : List (List Char)} (valid : checkPath path = .ok ())
    (cut : steps path = front ++ [name]) :
    tree.locate path =
      match tree.walk (tree.origin path) front with
      | .ok place => if tree.isDirectoryAt place then .ok (place, name) else .error .notDirectory
      | .error error => .error error := by
  have reversed : ((Path.segments path).filter (!·.isEmpty)).reverse = name :: front.reverse := by
    rw [← steps, cut, List.reverse_append]
    rfl
  unfold locate
  rw [valid, reversed]
  simp only [List.reverse_reverse]
  cases tree.walk (tree.origin path) front <;> rfl

theorem isDirectory_eq {tree : Tree} {path name : List Char} {place : Place}
    (located : tree.locate path = .ok (place, name)) :
    tree.isDirectory path =
      match tree.walk place [name] with
      | .ok reached => tree.isDirectoryAt reached
      | .error _ => false := by
  cases walked : tree.walk place [name] with
  | ok reached => simp [isDirectory, located, walked]
  | error error => simp [isDirectory, located, walked]

def outcome {ε : Type} (result : Except ε Unit × Tree) : Bool × Tree :=
  (result.1.isOk, result.2)

theorem outcome_mapError {ε δ : Type} (change : ε → δ) (result : Except ε Unit) (tree : Tree) :
    outcome (result.mapError change, tree) = outcome (result, tree) := by
  cases result <;> rfl

theorem outcome_orPresent (tree : Tree) (path : List Char) (error : IoError) :
    outcome (makeDirectoriesFrom.orPresent path (.error error, tree)) = (tree.isDirectory path, tree) := by
  rw [makeDirectoriesFrom.orPresent]
  cases tree.isDirectory path <;> rfl

theorem outcome_makeDirectory {tree : Tree} {path name : List Char} {place : Place}
    (located : tree.locate path = .ok (place, name)) (named : isIdle name = false)
    (reached : tree.isDirectoryAt place = true) :
    outcome (makeDirectoriesFrom.orPresent path (tree.makeDirectory path)) = tree.makeWay place [name] := by
  unfold makeDirectory
  rw [located]
  dsimp only
  split_ifs with up long present
  · have up : isUp name = true := by simpa [named] using up
    have walked : tree.walk place [name] = .ok place.dropLast := by simp [walk, reached, named, up]
    rw [outcome_orPresent, isDirectory_eq located, walked]
    simp [makeWay, pass?, reached, up, Place.enter]
  · have down : isUp name = false := by simp_all
    have walked : tree.walk place [name] = .error .nameTooLong := by simp [walk, reached, named, down, long]
    rw [outcome_orPresent, isDirectory_eq located, walked]
    simp [makeWay, pass?, reached, down, long]
  · have down : isUp name = false := by simp_all
    obtain ⟨node, present⟩ := Option.isSome_iff_exists.1 present
    have walked : tree.walk place [name] = .ok (place ++ [name]) := by
      simp [walk, reached, named, down, long, present]
    rw [outcome_orPresent, isDirectory_eq located, walked]
    simp [makeWay, pass?, reached, down, long, Place.enter, present]
  · have down : isUp name = false := by simp_all
    have absent : tree.at? (place ++ [name]) = none := by simpa using present
    have put : (tree.put (place ++ [name]) .directory).isDirectoryAt (place ++ [name]) = true := by
      simp [at?_put]
    simp [outcome, makeDirectoriesFrom.orPresent, Except.isOk, Except.toBool, makeWay, pass?, reached, down, long,
      Place.enter, absent, put]

theorem outcome_of_locate_error {tree : Tree} {path : List Char} {error : IoError}
    (missed : tree.locate path = .error error) :
    outcome (makeDirectoriesFrom.orPresent path (tree.makeDirectory path)) = (false, tree) := by
  have absent : tree.isDirectory path = false := by
    unfold isDirectory
    rw [missed]
  unfold makeDirectory
  rw [missed]
  dsimp only
  rw [outcome_orPresent, absent]

theorem onWay_start (place : Place) (names : List (List Char)) : place.OnWay names place :=
  ⟨[], List.nil_prefix, rfl⟩

theorem walk_of_makeWay {tree made : Tree} {place : Place} {segments : List (List Char)}
    (reached : tree.makeWay place (segments.filter (!isIdle ·)) = (true, made)) :
    made.walk place segments = .ok (place.follow (segments.filter (!isIdle ·))) := by
  induction segments generalizing tree place with
  | nil => rfl
  | cons segment rest ih =>
    have start : made.isDirectoryAt place = true := by
      rw [isDirectoryAt_iff]
      exact makeWay_directory reached place (onWay_start place _)
    cases idle : isIdle segment with
    | true =>
      have later : tree.makeWay place (rest.filter (!isIdle ·)) = (true, made) := by simpa [idle] using reached
      simpa [walk, start, idle] using ih later
    | false =>
      have whole : (segment :: rest).filter (!isIdle ·) = segment :: rest.filter (!isIdle ·) := by simp [idle]
      rw [whole] at reached ⊢
      have next : made.at? (place.enter segment) = some .directory :=
        makeWay_directory reached _ ((Place.onWay_cons _ _ _ _).2 (.inr (onWay_start _ _)))
      cases entered : tree.pass? place segment with
      | none => simp [makeWay, entered] at reached
      | some passed =>
        simp only [makeWay, entered] at reached
        have walked := ih reached
        unfold pass? at entered
        split_ifs at entered with blocked up long
        · simpa [walk, start, idle, up, Place.enter, Place.follow] using walked
        · rw [Bool.not_eq_true] at up
          have there : made.at? (place ++ [segment]) = some .directory := by simpa [Place.enter, up] using next
          simpa [walk, start, idle, up, long, there, Place.enter, Place.follow] using walked

theorem walk_idle (tree : Tree) (place : Place) {segments : List (List Char)}
    (idle : ∀ segment ∈ segments, isIdle segment = true) :
    tree.walk place segments = .ok place ∨
      tree.walk place segments = .error .notDirectory ∧ tree.isDirectoryAt place = false := by
  induction segments with
  | nil => exact .inl rfl
  | cons segment rest ih =>
    cases reached : tree.isDirectoryAt place with
    | true =>
      have := ih fun other member => idle other (List.mem_cons_of_mem _ member)
      simpa [walk, reached, idle segment] using this
    | false => simp [walk, reached]

theorem byteLength_append (front back : List Char) :
    byteLength (front ++ back) = byteLength front + byteLength back := by
  induction front with
  | nil => simp [byteLength]
  | cons c rest ih => simp [byteLength, ih, Nat.add_assoc]

theorem checkPath_eq_ok_iff (path : List Char) :
    checkPath path = .ok () ↔ '\x00' ∉ path ∧ path ≠ [] ∧ byteLength path < pathLimit := by
  unfold checkPath
  split_ifs <;> simp_all

theorem checkPath_of_isPrefix {path above : List Char} (valid : checkPath path = .ok ()) (filled : above ≠ [])
    (front : above <+: path) : checkPath above = .ok () := by
  obtain ⟨rest, rfl⟩ := front
  rw [checkPath_eq_ok_iff, byteLength_append] at valid
  rw [checkPath_eq_ok_iff]
  refine ⟨fun zero => valid.1 (List.mem_append_left rest zero), filled, ?_⟩
  omega

theorem steps_of_settled {path name : List Char} {front : List (List Char)}
    (whole : Path.segments path = front ++ [name]) (named : isIdle name = false) :
    steps path = front.filter (!·.isEmpty) ++ [name] := by
  have filled : name.isEmpty = false := by
    cases name with
    | nil => cases named
    | cons => rfl
  simp [steps, whole, filled]

theorem isAbsolute_of_steps_eq_nil {path : List Char} (filled : path ≠ []) (bare : steps path = []) :
    Path.isAbsolute path = true := by
  cases path with
  | nil => exact absurd rfl filled
  | cons c rest =>
    by_cases slash : c = '/'
    · simp [Path.isAbsolute, slash]
    · cases found : Text.splitAt '/' rest with
      | nil => exact absurd found (Text.splitAt_ne_nil '/' rest)
      | cons piece pieces => simp [steps, Path.segments, Text.splitAt, slash, found] at bare

theorem locate_of_unnamed (tree : Tree) {path : List Char} (valid : checkPath path = .ok ())
    (unnamed : Path.names path = []) :
    (tree.isDirectoryAt (tree.origin path) = true ∧
        ∃ last, isIdle last = true ∧ tree.locate path = .ok (tree.origin path, last)) ∨
      (tree.isDirectoryAt (tree.origin path) = false ∧ tree.locate path = .error .notDirectory) := by
  have idle : ∀ segment ∈ steps path, isIdle segment = true := by
    rw [← names_steps] at unnamed
    simpa using unnamed
  rcases List.eq_nil_or_concat (steps path) with bare | ⟨front, last, cut⟩
  · have root : tree.origin path = [] := by
      simp [origin, isAbsolute_of_steps_eq_nil ((checkPath_eq_ok_iff path).1 valid).2.1 bare]
    left
    rw [root]
    refine ⟨rfl, ['.'], rfl, ?_⟩
    unfold locate
    rw [valid, ← steps, bare]
    rfl
  · rw [List.concat_eq_append] at cut
    rw [cut] at idle
    have located := locate_eq tree valid cut
    have idleFront : ∀ segment ∈ front, isIdle segment = true :=
      fun segment member => idle segment (by simp [member])
    rcases walk_idle tree (tree.origin path) idleFront with walked | ⟨walked, blocked⟩
    · rw [walked] at located
      cases reached : tree.isDirectoryAt (tree.origin path) with
      | true => exact .inl ⟨rfl, last, idle last (by simp), by simpa [reached] using located⟩
      | false => exact .inr ⟨rfl, by simpa [reached] using located⟩
    · rw [walked] at located
      exact .inr ⟨blocked, located⟩

theorem outcome_makeDirectory_of_unnamed {tree : Tree} {path : List Char} (valid : checkPath path = .ok ())
    (unnamed : Path.names path = []) :
    outcome (makeDirectoriesFrom.orPresent path (tree.makeDirectory path)) =
      (tree.isDirectoryAt (tree.origin path), tree) := by
  rcases locate_of_unnamed tree valid unnamed with ⟨reached, last, idle, located⟩ | ⟨blocked, missed⟩
  · have made : tree.makeDirectory path = (.error .exists, tree) := by
      unfold makeDirectory
      rw [located]
      simp [idle]
    have walked : tree.walk (tree.origin path) [last] = .ok (tree.origin path) := by simp [walk, reached, idle]
    rw [made, outcome_orPresent, isDirectory_eq located, walked]
  · rw [outcome_of_locate_error missed, blocked]

theorem makeDirectory_ne_notFound {tree : Tree} {path name : List Char} {place : Place}
    (located : tree.locate path = .ok (place, name)) : (tree.makeDirectory path).1 ≠ .error .notFound := by
  unfold makeDirectory
  rw [located]
  dsimp only
  split_ifs <;> simp

theorem makeDirectoriesFrom_succ {tree : Tree} {path : List Char} (filled : path ≠ []) (fuel : Nat)
    (found : (tree.makeDirectory path).1 ≠ .error .notFound) :
    makeDirectoriesFrom (fuel + 1) path tree = makeDirectoriesFrom.orPresent path (tree.makeDirectory path) := by
  have nonempty : path.isEmpty = false := by simpa using filled
  rw [makeDirectoriesFrom]
  simp only [nonempty, Bool.false_eq_true, if_false]
  split
  next done =>
    rw [done]
    rfl
  next missing => exact absurd (congrArg Prod.fst missing) found
  next => rfl

theorem makeDirectory_ne_notFound_of_missed {tree : Tree} {path : List Char} {error : IoError}
    (missed : tree.locate path = .error error) (other : error ≠ .notFound) :
    (tree.makeDirectory path).1 ≠ .error .notFound := by
  unfold makeDirectory
  rw [missed]
  simpa using other

theorem makeDirectoriesFrom_missing {tree : Tree} {path above : List Char} (filled : path ≠ []) (fuel : Nat)
    (missed : tree.locate path = .error .notFound) (found : Path.parent? path = some above) :
    makeDirectoriesFrom (fuel + 1) path tree =
      match makeDirectoriesFrom fuel above tree with
      | (.error error, made) => (.error error, made)
      | (.ok (), made) => makeDirectoriesFrom.orPresent path (made.makeDirectory path) := by
  have nonempty : path.isEmpty = false := by simpa using filled
  have failed : tree.makeDirectory path = (.error .notFound, tree) := by
    unfold makeDirectory
    rw [missed]
  rw [makeDirectoriesFrom]
  rcases ran : makeDirectoriesFrom fuel above tree with ⟨_ | _, made⟩
  · simp [nonempty, failed, found, ran]
  · simp [nonempty, failed, found, ran]

theorem outcome_makeDirectoriesFrom_of_missed {tree : Tree} {path : List Char} (filled : path ≠ []) (fuel : Nat)
    {error : IoError} (missed : tree.locate path = .error error) (other : error ≠ .notFound) :
    outcome (makeDirectoriesFrom (fuel + 1) path tree) = (false, tree) := by
  rw [makeDirectoriesFrom_succ filled fuel (makeDirectory_ne_notFound_of_missed missed other),
    outcome_of_locate_error missed]

section

variable {tree : Tree} {path name : List Char} {front : List (List Char)}

theorem names_of_steps (cut : steps path = front ++ [name]) (named : isIdle name = false) :
    Path.names path = front.filter (!isIdle ·) ++ [name] := by
  rw [← names_steps, cut]
  simp [named]

theorem outcome_makeDirectoriesFrom_of_walked (valid : checkPath path = .ok ()) (cut : steps path = front ++ [name])
    (named : isIdle name = false) (fuel : Nat) {place : Place}
    (walked : tree.walk (tree.origin path) front = .ok place) :
    outcome (makeDirectoriesFrom (fuel + 1) path tree) = tree.makeWay (tree.origin path) (Path.names path) := by
  have filled := ((checkPath_eq_ok_iff path).1 valid).2.1
  have located := locate_eq tree valid cut
  have way := makeWay_of_walk tree (tree.origin path) front
  simp only [walked] at located way
  obtain ⟨rfl, way⟩ := way
  rw [names_of_steps cut named, makeWay_append, way]
  cases reached : tree.isDirectoryAt ((tree.origin path).follow (front.filter (!isIdle ·))) with
  | true =>
    simp only [reached, if_true] at located ⊢
    rw [makeDirectoriesFrom_succ filled fuel (makeDirectory_ne_notFound located),
      outcome_makeDirectory located named reached]
  | false =>
    simp only [reached, Bool.false_eq_true, if_false] at located ⊢
    exact outcome_makeDirectoriesFrom_of_missed filled fuel located (by simp)

theorem outcome_makeDirectoriesFrom_of_missing (valid : checkPath path = .ok ()) (cut : steps path = front ++ [name])
    (named : isIdle name = false) (fuel : Nat) {above : List Char} (found : Path.parent? path = some above)
    (missing : tree.walk (tree.origin path) front = .error .notFound)
    (aboveMade : outcome (makeDirectoriesFrom fuel above tree) =
      tree.makeWay (tree.origin path) (front.filter (!isIdle ·))) :
    outcome (makeDirectoriesFrom (fuel + 1) path tree) = tree.makeWay (tree.origin path) (Path.names path) := by
  have filled := ((checkPath_eq_ok_iff path).1 valid).2.1
  have located := locate_eq tree valid cut
  simp only [missing] at located
  rw [names_of_steps cut named, makeWay_append, makeDirectoriesFrom_missing filled fuel located found, ← aboveMade]
  rcases ran : makeDirectoriesFrom fuel above tree with ⟨result, made⟩
  rw [ran] at aboveMade
  cases result with
  | error error => rfl
  | ok =>
    have way : tree.makeWay (tree.origin path) (front.filter (!isIdle ·)) = (true, made) := aboveMade.symm
    have home := (makeWay_grown tree (tree.origin path) (front.filter (!isIdle ·))).home
    rw [way] at home
    have sameOrigin : made.origin path = tree.origin path := by rw [origin, origin, home]
    have reached := makeWay_directory way _ ⟨_, List.prefix_refl _, rfl⟩
    rw [← isDirectoryAt_iff] at reached
    have located := locate_eq made valid cut
    rw [sameOrigin, walk_of_makeWay way] at located
    simp only [reached, if_true] at located
    exact outcome_makeDirectory located named reached

end

theorem outcome_makeDirectoriesFrom {tree : Tree} {path : List Char} {fuel : Nat} (enough : path.length < fuel)
    (valid : checkPath path = .ok ()) (settled : Path.Settled path) :
    outcome (makeDirectoriesFrom fuel path tree) = tree.makeWay (tree.origin path) (Path.names path) := by
  -- The path of the parent is shorter and settled too, so the fuel that is left is enough for it.
  induction fuel generalizing path with
  | zero => omega
  | succ fuel ih =>
    have filled : path ≠ [] := ((checkPath_eq_ok_iff path).1 valid).2.1
    rcases settled with unnamed | ⟨segments, name, whole, named⟩
    · have found : (tree.makeDirectory path).1 ≠ .error .notFound := by
        rcases locate_of_unnamed tree valid unnamed with ⟨-, last, -, located⟩ | ⟨-, missed⟩
        · exact makeDirectory_ne_notFound located
        · exact makeDirectory_ne_notFound_of_missed missed (by simp)
      rw [unnamed, makeWay, ← outcome_makeDirectory_of_unnamed valid unnamed,
        makeDirectoriesFrom_succ filled fuel found]
    · have cut := steps_of_settled whole named
      generalize segments.filter (!·.isEmpty) = front at cut
      have names := names_of_steps cut named
      cases walked : tree.walk (tree.origin path) front with
      | ok place => exact outcome_makeDirectoriesFrom_of_walked valid cut named fuel walked
      | error error =>
        by_cases missing : error = .notFound
        · subst missing
          obtain ⟨above, found⟩ := Path.parent?_isSome path (by simp [names])
          have aboveNames : Path.names above = front.filter (!isIdle ·) := by
            rw [Path.names_parent found, names, List.dropLast_concat]
          -- Without a name before the last the walk is over at once, and finds what it looks for or a file.
          have aboveFilled : above ≠ [] := by
            rintro rfl
            have idle : ∀ segment ∈ front, isIdle segment = true := by simpa using aboveNames.symm
            rcases walk_idle tree (tree.origin path) idle with ok | ⟨blocked, -⟩
            · simp [ok] at walked
            · simp [blocked] at walked
          have sameOrigin : tree.origin above = tree.origin path := by
            simp [origin, Path.isAbsolute_parent found aboveFilled]
          have shorter := Path.length_parent_lt found
          have aboveMade := ih (by omega)
            (checkPath_of_isPrefix valid aboveFilled (Path.isPrefix_of_parent? found)) (Path.settled_parent found)
          rw [aboveNames, sameOrigin] at aboveMade
          exact outcome_makeDirectoriesFrom_of_missing valid cut named fuel found walked aboveMade
        · have located := locate_eq tree valid cut
          have way := makeWay_of_walk tree (tree.origin path) front
          simp only [walked] at located way
          rw [names, makeWay_append, way missing]
          exact outcome_makeDirectoriesFrom_of_missed filled fuel located missing

theorem outcome_makeDirectories {path : List Char} (tree : Tree) (valid : checkPath path = .ok ())
    (settled : Path.Settled path) :
    outcome (tree.makeDirectories path) = tree.makeWay (tree.origin path) (Path.names path) :=
  outcome_makeDirectoriesFrom (Nat.lt_succ_self _) valid settled

theorem outcome_makeDirectories_of_invalid {path : List Char} (tree : Tree) (filled : path ≠ [])
    (invalid : checkPath path ≠ .ok ()) : outcome (tree.makeDirectories path) = (false, tree) := by
  cases checked : checkPath path with
  | ok => exact absurd checked invalid
  | error error =>
    have missed : tree.locate path = .error error := by
      unfold locate
      rw [checked]
      rfl
    have other : error ≠ .notFound := by
      rintro rfl
      unfold checkPath at checked
      split_ifs at checked <;> simp_all
    exact outcome_makeDirectoriesFrom_of_missed filled _ missed other

end Tree

end Catalog
