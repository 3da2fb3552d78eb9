import Mathlib.Data.List.Nodup
import Catalog.Proofs.CommandLine.Values

set_option autoImplicit false

namespace Catalog.CommandLine

inductive Word where
  | text (setting : Setting) (value : String)
  | timeout (seconds : Nat)
  | verbose
  | quiet
  deriving DecidableEq

namespace Word

def setting : Word → Setting
  | text setting _ => setting
  | timeout _ => .timeout
  | verbose => .verbose
  | quiet => .quiet

def value? : Word → Option String
  | text _ value => some value
  | timeout seconds => some (toString seconds)
  | verbose => none
  | quiet => none

def written (word : Word) : String :=
  match word.value? with
  | some value => "--" ++ word.setting.long ++ "=" ++ value
  | none => "--" ++ word.setting.long

end Word

namespace Setting

theorem ofLong?_long (setting : Setting) : ofLong? setting.long.toList = some setting := by
  cases setting <;> rfl

theorem notMem_long (setting : Setting) : '=' ∉ setting.long.toList := by
  cases setting <;> decide

theorem passes_long (setting : Setting) : ∀ c ∈ setting.long.toList, (c != '=') = true :=
  fun _ member => bne_iff_ne.2 fun same => setting.notMem_long (same ▸ member)

theorem long_ne_nil (setting : Setting) : setting.long.toList ≠ [] := by
  cases setting <;> decide

end Setting

namespace State

section

variable {state : State}

theorem flush_of_settled (settled : state.pending = none) : state.flush = .ok state := by
  simp [flush, settled]

theorem attached_of_settled (settled : state.pending = none) (setting : Setting) (value : String) :
    state.attached setting value = state.settle setting (some value) := by
  rw [attached, flush_of_settled settled]
  rfl

theorem take_long (leading : state.isTrailing = false) {argument : String} {text : List Char} (filled : text ≠ [])
    (long : argument.toList = '-' :: '-' :: text) : state.take argument = state.longOption text := by
  obtain ⟨c, rest, rfl⟩ := List.exists_cons_of_ne_nil filled
  simp [take, leading, long]

theorem longOption_value (setting : Setting) (value : String) (takes : setting.takesValue = true) :
    state.longOption (setting.long.toList ++ '=' :: value.toList) = state.attached setting value := by
  unfold longOption
  rw [List.takeWhile_append_of_pos setting.passes_long, List.dropWhile_append_of_pos setting.passes_long]
  simp [Setting.ofLong?_long, takes]

theorem longOption_flag (setting : Setting) (bare : setting.takesValue = false) :
    state.longOption setting.long.toList = state.flag setting := by
  have front : (setting.long.toList ++ []).takeWhile (· != '=') = setting.long.toList := by
    rw [List.takeWhile_append_of_pos setting.passes_long, List.takeWhile_nil, List.append_nil]
  have back : (setting.long.toList ++ []).dropWhile (· != '=') = [] := List.dropWhile_append_of_pos setting.passes_long
  rw [List.append_nil] at front back
  unfold longOption
  rw [front, back]
  simp [Setting.ofLong?_long, bare]

theorem take_written (settled : state.pending = none) (leading : state.isTrailing = false) (word : Word)
    (fits : word.setting.takesValue = word.value?.isSome) :
    state.take word.written =
      match word.value? with
      | some value => state.settle word.setting (some value)
      | none => state.flag word.setting := by
  cases valued : word.value? with
  | some value =>
    rw [valued] at fits
    have long : word.written.toList = '-' :: '-' :: (word.setting.long.toList ++ '=' :: value.toList) := by
      simp [Word.written, valued]
    rw [take_long leading (by simp) long, longOption_value _ _ fits, attached_of_settled settled]
  | none =>
    rw [valued] at fits
    have long : word.written.toList = '-' :: '-' :: word.setting.long.toList := by
      simp [Word.written, valued]
    rw [take_long leading word.setting.long_ne_nil long, longOption_flag _ fits]

theorem settle_new {setting : Setting} {value : String} {given : Given} (absent : state.has setting = false)
    (read : readValue setting value = .ok given) : state.settle setting (some value) = .ok (state.add given) := by
  simp [settle, absent, read]

end

end State

def Word.Fits : Word → Prop
  | .text setting value => setting.takesValue = true ∧ setting ≠ .timeout ∧ (setting = .outputDir → value ≠ "")
  | .timeout seconds => 1 ≤ seconds ∧ seconds < Unsigned.word
  | .verbose => True
  | .quiet => True

def Word.Apart (first second : Word) : Prop :=
  first.setting = second.setting → first.setting = .verbose

theorem Word.Apart.symm {first second : Word} (apart : first.Apart second) : second.Apart first :=
  fun same => same.trans (apart same.symm)

def Given.Told (words : List Word) : Given → Prop
  | .text setting value => .text setting value ∈ words
  | .timeout seconds => .timeout seconds ∈ words
  | .verbose count => 0 < words.count .verbose ∧ count = min (words.count .verbose) countLimit
  | .quiet => .quiet ∈ words

theorem Given.Told.word {words : List Word} {given : Given} (told : given.Told words) :
    ∃ word ∈ words, word.setting = given.setting := by
  cases given with
  | text setting value => exact ⟨_, told, rfl⟩
  | timeout seconds => exact ⟨_, told, rfl⟩
  | verbose count => exact ⟨.verbose, List.count_pos_iff.1 told.1, rfl⟩
  | quiet => exact ⟨_, told, rfl⟩

theorem readValue_text {setting : Setting} {value : String} (fits : (Word.text setting value).Fits) :
    readValue setting value = .ok (.text setting value) := by
  obtain ⟨takes, other, filled⟩ := fits
  cases setting with
  | timeout => exact absurd rfl other
  | outputDir => simp [readValue, filled rfl]
  | baseUrl | cookie | name | kind | category => rfl
  | verbose | quiet | help | version => cases takes

theorem readValue_timeout {seconds : Nat} (fits : (Word.timeout seconds).Fits) :
    readValue .timeout (toString seconds) = .ok (.timeout seconds) := by
  have number : Unsigned.readWord (toString seconds) = .ok seconds :=
    (Unsigned.read_eq_ok_iff (by decide) _ _).2 ⟨Unsigned.isNumeral_toString seconds, fits.2⟩
  have positive : seconds ≠ 0 := Nat.one_le_iff_ne_zero.1 fits.1
  simp only [readValue, number, if_neg positive]

namespace State

structure Holds (state : State) (words : List Word) : Prop where
  settled : state.pending = none
  leading : state.isTrailing = false
  distinct : (state.given.map Given.setting).Nodup
  fits : ∀ word ∈ words, word.Fits
  told : ∀ given, given ∈ state.given ↔ given.Told words

theorem start_holds : start.Holds [] where
  settled := rfl
  leading := rfl
  distinct := List.nodup_nil
  fits := by simp
  told := by
    intro given
    cases given with
    | text | timeout | verbose | quiet => simp [start, Given.Told]

section

variable {state : State} {words : List Word} {word : Word}

theorem Holds.has_eq_false (holds : state.Holds words) (apart : ∀ other ∈ words, other.Apart word)
    (silent : word.setting ≠ .verbose) : state.has word.setting = false := by
  rw [Bool.eq_false_iff]
  intro present
  obtain ⟨given, member, same⟩ := (has_eq_true_iff _).1 present
  obtain ⟨other, earlier, told⟩ := ((holds.told given).1 member).word
  have shared : other.setting = word.setting := told.trans same
  exact silent (shared ▸ apart other earlier shared)

theorem Holds.unique (holds : state.Holds words) {first second : Given} (one : first ∈ state.given)
    (other : second ∈ state.given) (same : first.setting = second.setting) : first = second :=
  List.inj_on_of_nodup_map holds.distinct one other same

theorem Holds.fits_concat (holds : state.Holds words) (fits : word.Fits) : ∀ other ∈ words ++ [word], other.Fits := by
  intro other member
  rcases List.mem_append.1 member with earlier | last
  · exact holds.fits other earlier
  · exact List.mem_singleton.1 last ▸ fits

theorem distinct_concat {given : List Given} {last : Given} (distinct : (given.map Given.setting).Nodup)
    (new : last.setting ∉ given.map Given.setting) : ((given ++ [last]).map Given.setting).Nodup := by
  rw [List.map_append, List.map_singleton]
  exact distinct.append (List.nodup_singleton _) (List.disjoint_singleton.2 new)

theorem Holds.add (holds : state.Holds words) (fits : word.Fits) {given : Given}
    (absent : state.has given.setting = false)
    (told : ∀ other, other.Told (words ++ [word]) ↔ other.Told words ∨ other = given) :
    (state.add given).Holds (words ++ [word]) where
  settled := holds.settled
  leading := holds.leading
  distinct := by
    have new : given.setting ∉ state.given.map Given.setting := by
      intro member
      obtain ⟨other, earlier, same⟩ := List.mem_map.1 member
      rw [(has_eq_true_iff _).2 ⟨other, earlier, same⟩] at absent
      cases absent
    exact distinct_concat holds.distinct new
  fits := holds.fits_concat fits
  told := by
    intro other
    rw [told, State.add, List.mem_append, List.mem_singleton, holds.told]

theorem Holds.verbosity (holds : state.Holds words) :
    state.verbosity = min (words.count .verbose) countLimit := by
  by_cases silent : words.count .verbose = 0
  · have none (count : Nat) : .verbose count ∉ state.given := by
      rw [holds.told]
      simp [Given.Told, silent]
    unfold State.verbosity
    split
    next count found => exact absurd (List.mem_of_find?_eq_some found) (none count)
    next => simp [silent]
  · have there : .verbose (min (words.count .verbose) countLimit) ∈ state.given := by
      rw [holds.told]
      exact ⟨Nat.pos_of_ne_zero silent, rfl⟩
    have found : state.given.find? (·.setting == .verbose) =
        some (.verbose (min (words.count .verbose) countLimit)) := by
      cases found : state.given.find? (·.setting == .verbose) with
      | none => exact absurd rfl (List.find?_eq_none.1 found _ there)
      | some given =>
        have same : given.setting = .verbose := by simpa using List.find?_some found
        rw [holds.unique (List.mem_of_find?_eq_some found) there same]
    rw [State.verbosity, found]

theorem Holds.louder (holds : state.Holds words) :
    ∃ next, state.flag .verbose = .ok next ∧ next.Holds (words ++ [.verbose]) := by
  let others := state.given.filter (·.setting != .verbose)
  have kept (given : Given) : given ∈ others ↔ given ∈ state.given ∧ given.setting ≠ .verbose := by
    simp [others]
  refine ⟨{ state with given := others ++ [.verbose (min (state.verbosity + 1) countLimit)] }, ?_, ?_⟩
  · rw [flag, flush_of_settled holds.settled]
    rfl
  · refine ⟨holds.settled, holds.leading, ?_, holds.fits_concat trivial, ?_⟩
    · have silent : Setting.verbose ∉ others.map Given.setting := by
        intro member
        obtain ⟨given, other, same⟩ := List.mem_map.1 member
        exact ((kept given).1 other).2 same
      exact distinct_concat ((List.filter_sublist.map _).nodup holds.distinct) silent
    · intro given
      rw [List.mem_append, List.mem_singleton, kept, holds.told, holds.verbosity]
      cases given with
      | text setting value =>
        have loud : .text setting value ∈ words → setting ≠ .verbose := by
          rintro member rfl
          cases (holds.fits _ member).1
        simpa [Given.Told, Given.setting] using loud
      | timeout seconds => simp [Given.Told, Given.setting]
      | verbose count =>
        have counted : (words ++ [Word.verbose]).count .verbose = words.count .verbose + 1 := by simp
        simp only [Given.Told, Given.setting, counted, ne_eq, not_true_eq_false, and_false, false_or,
          Given.verbose.injEq]
        omega
      | quiet => simp [Given.Told, Given.setting]

theorem Holds.take (holds : state.Holds words) (fits : word.Fits) (apart : ∀ other ∈ words, other.Apart word) :
    ∃ next, state.take word.written = .ok next ∧ next.Holds (words ++ [word]) := by
  cases word with
  | text setting value =>
    have silent : setting ≠ .verbose := by
      rintro rfl
      cases fits.1
    have absent := holds.has_eq_false apart silent
    refine ⟨state.add (.text setting value), ?_, holds.add fits absent ?_⟩
    · rw [take_written holds.settled holds.leading (.text setting value) fits.1]
      exact settle_new absent (readValue_text fits)
    · intro other
      cases other with
      | text | timeout | verbose | quiet => simp [Given.Told]
  | timeout seconds =>
    have absent := holds.has_eq_false apart (by simp [Word.setting])
    refine ⟨state.add (.timeout seconds), ?_, holds.add fits absent ?_⟩
    · rw [take_written holds.settled holds.leading _ rfl]
      exact settle_new absent (readValue_timeout fits)
    · intro other
      cases other with
      | text | timeout | verbose | quiet => simp [Given.Told]
  | verbose =>
    rw [take_written holds.settled holds.leading _ rfl]
    exact holds.louder
  | quiet =>
    have absent := holds.has_eq_false apart (by simp [Word.setting])
    refine ⟨state.add .quiet, ?_, holds.add fits absent ?_⟩
    · rw [take_written holds.settled holds.leading _ rfl]
      simp only [Word.value?, Word.setting, flag, flush_of_settled holds.settled]
      simp [bind, Except.bind, show state.has .quiet = false from absent]
    · intro other
      cases other with
      | text | timeout | verbose | quiet => simp [Given.Told]

theorem Holds.takeAll {taken : List Word} (holds : state.Holds taken) (fits : ∀ word ∈ words, word.Fits)
    (apart : (taken ++ words).Pairwise Word.Apart) :
    ∃ final, state.takeAll (words.map Word.written) = .ok final ∧ final.Holds (taken ++ words) := by
  induction words generalizing state taken with
  | nil =>
    refine ⟨state, flush_of_settled holds.settled, ?_⟩
    rwa [List.append_nil]
  | cons word rest ih =>
    have before : ∀ other ∈ taken, other.Apart word :=
      fun other member => (List.pairwise_append.1 apart).2.2 other member word (by simp)
    obtain ⟨next, first, holds⟩ := holds.take (fits word (by simp)) before
    have whole : taken ++ word :: rest = (taken ++ [word]) ++ rest := by simp
    rw [whole] at apart ⊢
    obtain ⟨final, later, holds⟩ := ih holds (fun other member => fits other (by simp [member])) apart
    refine ⟨final, ?_, holds⟩
    rw [List.map_cons, State.takeAll, first]
    exact later

theorem Holds.text?_eq_some_iff (holds : state.Holds words) (setting : Setting) (value : String) :
    state.text? setting = some value ↔ .text setting value ∈ words := by
  have told : .text setting value ∈ state.given ↔ .text setting value ∈ words := holds.told _
  rw [← told]
  refine ⟨mem_of_text?, fun member => ?_⟩
  cases found : state.text? setting with
  | none =>
    have unread := List.findSome?_eq_none_iff.1 found _ member
    simp at unread
  | some other =>
    -- An option is given once, so what was found is this value.
    cases holds.unique (mem_of_text? found) member rfl
    rfl

theorem Holds.timeout?_eq_some_iff (holds : state.Holds words) (seconds : Nat) :
    state.timeout? = some seconds ↔ .timeout seconds ∈ words := by
  have told : .timeout seconds ∈ state.given ↔ .timeout seconds ∈ words := holds.told _
  rw [← told]
  refine ⟨mem_of_timeout?, fun member => ?_⟩
  cases found : state.timeout? with
  | none =>
    have unread := List.findSome?_eq_none_iff.1 found _ member
    simp at unread
  | some other =>
    cases holds.unique (mem_of_timeout? found) member rfl
    rfl

theorem Holds.has_verbose (holds : state.Holds words) (present : state.has .verbose = true) :
    0 < words.count .verbose := by
  obtain ⟨given, member, same⟩ := (has_eq_true_iff _).1 present
  have told := (holds.told given).1 member
  cases given with
  | verbose count => exact told.1
  | text setting value =>
    obtain rfl : setting = .verbose := same
    cases (holds.fits _ told).1
  | timeout | quiet => cases same

theorem Holds.both_of_conflict (holds : state.Holds words) {fault : Fault} (conflict : state.conflict? = some fault) :
    state.has .quiet = true ∧ state.has .verbose = true := by
  unfold State.conflict? at conflict
  split at conflict
  next first second rest found =>
    have different : first ≠ second := by
      have distinct : (first :: second :: rest).Nodup := found ▸ holds.distinct.filter _
      simp at distinct
      exact distinct.1.1
    have among (setting : Setting) (member : setting ∈ first :: second :: rest) :
        state.has setting = true ∧ (setting = .verbose ∨ setting = .quiet) := by
      rw [← found] at member
      obtain ⟨present, counts⟩ := List.mem_filter.1 member
      obtain ⟨given, there, same⟩ := List.mem_map.1 present
      exact ⟨(has_eq_true_iff _).2 ⟨given, there, same⟩, by simpa using counts⟩
    obtain ⟨one, rfl | rfl⟩ := among first (by simp)
    · obtain ⟨other, rfl | rfl⟩ := among second (by simp)
      · exact absurd rfl different
      · exact ⟨other, one⟩
    · obtain ⟨other, rfl | rfl⟩ := among second (by simp)
      · exact ⟨one, other⟩
      · exact absurd rfl different
  next => cases conflict

theorem Holds.has_quiet_iff (holds : state.Holds words) : state.has .quiet = true ↔ .quiet ∈ words := by
  have told : .quiet ∈ state.given ↔ .quiet ∈ words := holds.told _
  rw [← told, has_eq_true_iff]
  constructor
  · rintro ⟨given, member, same⟩
    cases given with
    | quiet => exact member
    | text setting value =>
      obtain rfl : setting = .quiet := same
      cases (holds.fits _ ((holds.told _).1 member)).1
    | timeout | verbose => cases same
  · exact fun member => ⟨.quiet, member, rfl⟩

end

end State

end Catalog.CommandLine
