import Mathlib.Tactic.SplitIfs
import Catalog.CommandLine.Arguments
import Catalog.Proofs.Text.Numerals

set_option autoImplicit false

namespace Catalog.CommandLine

def Given.Proper : Given → Prop
  | .timeout seconds => 1 ≤ seconds ∧ seconds < Unsigned.word
  | .text .outputDir value => value ≠ ""
  | _ => True

theorem readValue_proper {setting : Setting} {value : String} {given : Given}
    (read : readValue setting value = .ok given) : given.Proper := by
  cases setting with
  | timeout =>
    simp only [readValue] at read
    split at read
    · cases read
    next seconds number =>
      split_ifs at read with zero
      obtain rfl := Except.ok.inj read
      have small := ((Unsigned.read_eq_ok_iff (by decide) _ _).1 number).2
      exact ⟨Nat.one_le_iff_ne_zero.2 zero, small⟩
  | outputDir =>
    simp only [readValue] at read
    split_ifs at read with bare
    obtain rfl := Except.ok.inj read
    simpa [Given.Proper] using bare
  | baseUrl | cookie | name | kind | category | verbose | quiet | help | version =>
    obtain rfl := Except.ok.inj read
    trivial

theorem exists_of_bind {ε α β : Type} {first : Except ε α} {rest : α → Except ε β} {result : β}
    (done : first >>= rest = .ok result) : ∃ between, first = .ok between ∧ rest between = .ok result := by
  cases first with
  | error error => cases done
  | ok between => exact ⟨between, rfl, done⟩

namespace State

def Proper (state : State) : Prop :=
  ∀ given ∈ state.given, given.Proper

theorem start_proper : start.Proper := by
  simp [start, Proper]

section

variable {state next : State} {setting : Setting}

theorem has_eq_true_iff (setting : Setting) :
    state.has setting = true ↔ ∃ given ∈ state.given, given.setting = setting := by
  simp [has]

theorem mem_of_text? {setting : Setting} {value : String} (found : state.text? setting = some value) :
    .text setting value ∈ state.given := by
  obtain ⟨given, member, read⟩ := List.exists_of_findSome?_eq_some found
  cases given with
  | text other held =>
    simp only at read
    split_ifs at read with same
    obtain rfl := Option.some.inj read
    exact same ▸ member
  | timeout | verbose | quiet => cases read

theorem mem_of_timeout? {seconds : Nat} (found : state.timeout? = some seconds) : .timeout seconds ∈ state.given := by
  obtain ⟨given, member, read⟩ := List.exists_of_findSome?_eq_some found
  cases given with
  | timeout others =>
    obtain rfl := Option.some.inj read
    exact member
  | text | verbose | quiet => cases read

theorem Proper.of_eq (proper : state.Proper) (same : next.given = state.given) : next.Proper := by
  rwa [Proper, same]

theorem Proper.add (proper : state.Proper) {given : Given} (fits : given.Proper) : (state.add given).Proper := by
  intro other member
  rcases List.mem_append.1 member with earlier | last
  · exact proper other earlier
  · obtain rfl := List.mem_singleton.1 last
    exact fits

theorem Proper.settle (proper : state.Proper) {value : Option String}
    (settled : state.settle setting value = .ok next) : next.Proper := by
  cases value with
  | none => cases settled
  | some value =>
    simp only [State.settle] at settled
    split_ifs at settled
    split at settled
    · cases settled
    next given read =>
      obtain rfl := Except.ok.inj settled
      exact proper.add (readValue_proper read)

theorem Proper.flush (proper : state.Proper) (flushed : state.flush = .ok next) : next.Proper := by
  unfold State.flush at flushed
  split at flushed
  · obtain rfl := Except.ok.inj flushed
    exact proper
  · have free : ({ state with pending := none } : State).Proper := proper.of_eq rfl
    exact free.settle flushed

theorem Proper.flag (proper : state.Proper) (flagged : state.flag setting = .ok next) : next.Proper := by
  obtain ⟨flushed, first, done⟩ := exists_of_bind flagged
  have between := proper.flush first
  cases setting with
  | help | version => cases done
  | verbose =>
    obtain rfl := Except.ok.inj done
    intro given member
    rcases List.mem_append.1 member with kept | last
    · exact between given (List.mem_filter.1 kept).1
    · obtain rfl := List.mem_singleton.1 last
      trivial
  | quiet =>
    simp only at done
    split_ifs at done
    obtain rfl := Except.ok.inj done
    exact between.add trivial
  | baseUrl | timeout | cookie | name | kind | category | outputDir =>
    obtain rfl := Except.ok.inj done
    exact between

theorem Proper.attached (proper : state.Proper) {value : String}
    (taken : state.attached setting value = .ok next) : next.Proper := by
  obtain ⟨flushed, first, done⟩ := exists_of_bind taken
  exact (proper.flush first).settle done

theorem Proper.expect (proper : state.Proper) (taken : state.expect setting = .ok next) : next.Proper := by
  obtain ⟨flushed, first, done⟩ := exists_of_bind taken
  obtain rfl := Except.ok.inj done
  exact (proper.flush first).of_eq rfl

theorem Proper.plain (proper : state.Proper) {argument : String}
    (taken : state.plain argument = .ok next) : next.Proper := by
  unfold State.plain at taken
  split at taken
  · obtain rfl := Except.ok.inj taken
    exact proper.of_eq rfl
  · cases taken

theorem Proper.longOption (proper : state.Proper) {text : List Char}
    (taken : state.longOption text = .ok next) : next.Proper := by
  unfold State.longOption at taken
  dsimp only at taken
  split at taken
  · cases taken
  · split_ifs at taken
    exact proper.attached taken
  · split_ifs at taken
    · exact proper.expect taken
    · exact proper.flag taken

theorem Proper.shortOptions (proper : state.Proper) {letters : List Char}
    (taken : state.shortOptions letters = .ok next) : next.Proper := by
  induction letters generalizing state with
  | nil =>
    obtain rfl := Except.ok.inj taken
    exact proper
  | cons c rest ih =>
    rw [State.shortOptions] at taken
    split at taken
    · cases taken
    next setting found =>
      split_ifs at taken with valued
      · split at taken
        · exact proper.expect taken
        · exact proper.attached taken
        · exact proper.attached taken
      · obtain ⟨between, flagged, later⟩ := exists_of_bind taken
        exact ih (proper.flag flagged) later

theorem Proper.take (proper : state.Proper) {argument : String} (taken : state.take argument = .ok next) :
    next.Proper := by
  unfold State.take at taken
  split_ifs at taken
  · exact proper.plain taken
  · split at taken
    · obtain rfl := Except.ok.inj taken
      exact proper.of_eq rfl
    · exact proper.longOption taken
    · exact proper.shortOptions taken
    · exact proper.plain taken

theorem Proper.takeAll (proper : state.Proper) {arguments : List String}
    (taken : state.takeAll arguments = .ok next) : next.Proper := by
  induction arguments generalizing state with
  | nil => exact proper.flush taken
  | cons argument rest ih =>
    rw [State.takeAll] at taken
    obtain ⟨between, first, later⟩ := exists_of_bind taken
    exact ih (proper.take first) later

theorem Proper.timeout (proper : state.Proper) {seconds : Nat} (found : state.timeout? = some seconds) :
    1 ≤ seconds ∧ seconds < Unsigned.word :=
  proper _ (mem_of_timeout? found)

theorem Proper.outputDir (proper : state.Proper) {value : String} (found : state.text? .outputDir = some value) :
    value ≠ "" :=
  proper _ (mem_of_text? found)

theorem has_of_verbosity (loud : 0 < state.verbosity) : state.has .verbose = true := by
  unfold State.verbosity at loud
  split at loud
  next count found =>
    exact (has_eq_true_iff _).2 ⟨_, List.mem_of_find?_eq_some found, rfl⟩
  next => cases loud

theorem conflict?_isSome (quiet : state.has .quiet = true) (verbose : state.has .verbose = true) :
    state.conflict? ≠ none := by
  have among {setting : Setting} (present : state.has setting = true)
      (counts : (setting == .verbose || setting == .quiet) = true) :
      setting ∈ (state.given.map Given.setting).filter fun setting => setting == .verbose || setting == .quiet := by
    obtain ⟨given, member, rfl⟩ := (has_eq_true_iff _).1 present
    exact List.mem_filter.2 ⟨List.mem_map_of_mem member, counts⟩
  have first := among quiet (by decide)
  have second := among verbose (by decide)
  unfold State.conflict?
  -- Two different settings do not fit into a list of at most one.
  split
  next => simp
  next short =>
    intro _
    match found : (state.given.map Given.setting).filter fun setting => setting == .verbose || setting == .quiet with
    | [] => simp [found] at first
    | [only] =>
      rw [found, List.mem_singleton] at first second
      cases first.trans second.symm
    | one :: two :: more => exact short one two more found

end

end State

end Catalog.CommandLine
