import Mathlib.Data.List.Perm.Basic
import Catalog.Proofs.CommandLine.Words

set_option autoImplicit false

namespace Catalog.CommandLine

inductive Volume where
  | quiet
  | verbose (count : Nat) (small : count ≤ 255)

def Volume.isQuiet : Volume → Bool
  | .quiet => true
  | .verbose _ _ => false

def Volume.count : Volume → Nat
  | .quiet => 0
  | .verbose count _ => count

structure Choices where
  baseUrl : Option String
  timeout : Option { seconds : Nat // 1 ≤ seconds ∧ seconds < UInt64.size }
  cookie : Option String
  name : Option String
  kind : Option String
  category : Option String
  outputDir : Option { directory : String // directory ≠ "" }
  volume : Volume

namespace Choices

def word? (choices : Choices) : Setting → Option Word
  | .baseUrl => choices.baseUrl.map (.text .baseUrl)
  | .timeout => choices.timeout.map fun seconds => .timeout seconds.val
  | .cookie => choices.cookie.map (.text .cookie)
  | .name => choices.name.map (.text .name)
  | .kind => choices.kind.map (.text .kind)
  | .category => choices.category.map (.text .category)
  | .outputDir => choices.outputDir.map fun directory => .text .outputDir directory.val
  | .quiet => if choices.volume.isQuiet then some .quiet else none
  | .verbose | .help | .version => none

def words (choices : Choices) : List Word :=
  Setting.all.filterMap choices.word? ++ List.replicate choices.volume.count .verbose

def arguments (choices : Choices) (environment : Environment) : Arguments where
  baseUrl := (choices.baseUrl <|> environment.baseUrl).getD defaultBaseUrl
  timeout := (choices.timeout.map Subtype.val).getD defaultTimeoutSeconds
  cookie := choices.cookie <|> environment.cookie
  name := choices.name
  kind := choices.kind.getD "d64"
  category := choices.category.getD "games"
  outputDir := (choices.outputDir.map Subtype.val).getD "."
  verbose := choices.volume.count
  quiet := choices.volume.isQuiet

end Choices

namespace Setting

theorem mem_all (setting : Setting) : setting ∈ all := by
  cases setting <;> decide

theorem nodup_all : all.Nodup := by
  decide

end Setting

namespace Choices

variable (choices : Choices)

theorem of_word?_eq_some {setting : Setting} {word : Word} (chosen : choices.word? setting = some word) :
    word.setting = setting ∧ word.Fits ∧ word ≠ .verbose := by
  cases setting with
  | baseUrl | cookie | name | kind | category =>
    obtain ⟨value, -, rfl⟩ := Option.map_eq_some_iff.1 chosen
    exact ⟨rfl, ⟨rfl, by simp, by simp⟩, by simp⟩
  | timeout =>
    obtain ⟨seconds, -, rfl⟩ := Option.map_eq_some_iff.1 chosen
    exact ⟨rfl, seconds.2, by simp⟩
  | outputDir =>
    obtain ⟨directory, -, rfl⟩ := Option.map_eq_some_iff.1 chosen
    exact ⟨rfl, ⟨rfl, by simp, fun _ => directory.2⟩, by simp⟩
  | quiet =>
    simp only [word?] at chosen
    split_ifs at chosen
    obtain rfl := Option.some.inj chosen
    exact ⟨rfl, trivial, by simp⟩
  | verbose | help | version => cases chosen

theorem mem_words (word : Word) :
    word ∈ choices.words ↔
      choices.word? word.setting = some word ∨ word = .verbose ∧ 0 < choices.volume.count := by
  simp only [words, List.mem_append, List.mem_filterMap, List.mem_replicate]
  constructor
  · rintro (⟨setting, -, chosen⟩ | ⟨loud, rfl⟩)
    · rw [(choices.of_word?_eq_some chosen).1]
      exact .inl chosen
    · exact .inr ⟨rfl, Nat.pos_of_ne_zero loud⟩
  · rintro (chosen | ⟨rfl, loud⟩)
    · exact .inl ⟨word.setting, Setting.mem_all _, chosen⟩
    · exact .inr ⟨Nat.ne_zero_of_lt loud, rfl⟩

theorem fits_of_mem_words {word : Word} (member : word ∈ choices.words) : word.Fits := by
  rcases (choices.mem_words word).1 member with chosen | ⟨rfl, -⟩
  · exact (choices.of_word?_eq_some chosen).2.1
  · trivial

theorem count_words : choices.words.count .verbose = choices.volume.count := by
  have absent : .verbose ∉ Setting.all.filterMap choices.word? := by
    intro member
    obtain ⟨setting, -, chosen⟩ := List.mem_filterMap.1 member
    exact (choices.of_word?_eq_some chosen).2.2 rfl
  rw [words, List.count_append, List.count_eq_zero_of_not_mem absent, List.count_replicate_self, Nat.zero_add]

theorem words_apart : choices.words.Pairwise Word.Apart := by
  refine List.pairwise_append.2 ⟨?_, ?_, ?_⟩
  · refine List.pairwise_filterMap.2 (Setting.nodup_all.imp ?_)
    intro first second different one chosen other picked same
    rw [(choices.of_word?_eq_some chosen).1, (choices.of_word?_eq_some picked).1] at same
    exact absurd same different
  · exact List.pairwise_replicate.2 (.inr fun _ => rfl)
  · intro word _ loud last same
    rw [same, (List.mem_replicate.1 last).2]
    rfl

end Choices

section

variable {choices : Choices} {words : List Word} {state : State}

theorem State.Holds.text?_eq (holds : state.Holds words) (order : words.Perm choices.words) (setting : Setting)
    (value : String) : state.text? setting = some value ↔ choices.word? setting = some (.text setting value) := by
  rw [holds.text?_eq_some_iff, order.mem_iff, choices.mem_words]
  simp [Word.setting]

theorem State.Holds.timeout?_eq (holds : state.Holds words) (order : words.Perm choices.words) :
    state.timeout? = choices.timeout.map Subtype.val := by
  refine Option.ext fun seconds => ?_
  rw [holds.timeout?_eq_some_iff, order.mem_iff, choices.mem_words]
  simp [Word.setting, Choices.word?]

theorem State.Holds.verbosity_eq (holds : state.Holds words) (order : words.Perm choices.words) :
    state.verbosity = choices.volume.count := by
  rw [holds.verbosity, order.count_eq, choices.count_words]
  cases choices.volume with
  | quiet => rfl
  | verbose count small => exact Nat.min_eq_left small

theorem State.Holds.has_quiet_eq (holds : state.Holds words) (order : words.Perm choices.words) :
    state.has .quiet = choices.volume.isQuiet := by
  rw [Bool.eq_iff_iff, holds.has_quiet_iff, order.mem_iff, choices.mem_words]
  simp [Word.setting, Choices.word?]

theorem State.Holds.conflict?_eq_none (holds : state.Holds words) (order : words.Perm choices.words) :
    state.conflict? = none := by
  cases conflict : state.conflict? with
  | none => rfl
  | some fault =>
    obtain ⟨quiet, verbose⟩ := holds.both_of_conflict conflict
    have loud := holds.has_verbose verbose
    rw [holds.has_quiet_eq order] at quiet
    rw [order.count_eq, choices.count_words] at loud
    cases volume : choices.volume with
    | quiet =>
      rw [volume] at loud
      cases loud
    | verbose count small =>
      rw [volume] at quiet
      cases quiet

theorem State.Holds.arguments_eq (holds : state.Holds words) (order : words.Perm choices.words)
    (environment : Environment) : state.arguments environment = choices.arguments environment := by
  have read {setting : Setting} {chosen : Option String}
      (same : ∀ value, choices.word? setting = some (.text setting value) ↔ chosen = some value) :
      state.text? setting = chosen :=
    Option.ext fun value => (holds.text?_eq order setting value).trans (same value)
  have baseUrl : state.text? .baseUrl = choices.baseUrl := read (by simp [Choices.word?])
  have cookie : state.text? .cookie = choices.cookie := read (by simp [Choices.word?])
  have name : state.text? .name = choices.name := read (by simp [Choices.word?])
  have kind : state.text? .kind = choices.kind := read (by simp [Choices.word?])
  have category : state.text? .category = choices.category := read (by simp [Choices.word?])
  have outputDir : state.text? .outputDir = choices.outputDir.map Subtype.val := read (by simp [Choices.word?])
  simp only [arguments, Choices.arguments, baseUrl, cookie, name, kind, category, outputDir,
    holds.timeout?_eq order, holds.verbosity_eq order, holds.has_quiet_eq order]

end

/-- Options that are written out are read back as they were chosen, in whatever order they stand. What is not chosen
comes from the environment, if it has it, or is the default. -/
theorem parse_written (environment : Environment) (choices : Choices) {words : List Word}
    (order : words.Perm choices.words) :
    parse environment (words.map Word.written) = .ok (choices.arguments environment) := by
  have fits : ∀ word ∈ words, word.Fits := fun word member => choices.fits_of_mem_words (order.mem_iff.1 member)
  have apart : words.Pairwise Word.Apart := (order.pairwise_iff Word.Apart.symm).2 choices.words_apart
  obtain ⟨final, taken, holds⟩ := State.start_holds.takeAll fits apart
  unfold parse
  rw [taken]
  simp only [bind, Except.bind, holds.conflict?_eq_none order, holds.arguments_eq order]

theorem parse_written_second :
    ∃ (choices : Choices) (words : List Word), words.Perm choices.words ∧
      words.map Word.written =
        ["--verbose", "--output-dir=o", "--name=-x=y", "--verbose", "--timeout=18446744073709551615", "--base-url="] ∧
      parse ⟨some "http://e", some "s", none⟩ (words.map Word.written) =
        .ok ⟨"", 18446744073709551615, some "s", some "-x=y", "d64", "games", "o", 2, false⟩ := by
  let choices : Choices :=
    ⟨some "", some ⟨18446744073709551615, by decide⟩, none, some "-x=y", none, none, some ⟨"o", by decide⟩,
      .verbose 2 (by decide)⟩
  let words : List Word :=
    [.verbose, .text .outputDir "o", .text .name "-x=y", .verbose, .timeout 18446744073709551615, .text .baseUrl ""]
  have order : words.Perm choices.words := by decide
  exact ⟨choices, words, order, by decide, parse_written _ choices order⟩

end Catalog.CommandLine
