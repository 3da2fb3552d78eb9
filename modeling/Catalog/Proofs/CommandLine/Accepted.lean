import Catalog.App
import Catalog.Proofs.CommandLine.Values
import Catalog.Proofs.Running

set_option autoImplicit false

namespace Catalog.CommandLine

structure Arguments.Usable (arguments : Arguments) : Prop where
  timeout : 1 ≤ arguments.timeout ∧ arguments.timeout < UInt64.size
  settings : ∃ config, App.config arguments = .ok config ∧
    config.timeout.duration = .ofSeconds (.ofNat arguments.timeout) ∧
    config.timeout.duration.seconds.toNat = arguments.timeout
  unrefused : ∀ {σ : Type} (connect : Config → Client (StateM σ)) (console : Console (StateM σ))
    (disk : Disk (StateM σ)) (record : Event → StateM σ Unit) (state : σ) (error : Error),
    (perform (App.runWith connect console disk record arguments) state).1 ≠ .error (.setting error)
  outputDir : arguments.outputDir ≠ ""
  exclusive : ¬ (arguments.quiet = true ∧ 0 < arguments.verbose)
  quiet : arguments.logLevel = .error ↔ arguments.quiet = true
  loud : arguments.quiet = false →
    (arguments.verbose = 0 → arguments.logLevel = .warn) ∧
      (arguments.verbose = 1 → arguments.logLevel = .debug) ∧
      (2 ≤ arguments.verbose → arguments.logLevel = .trace)

namespace Arguments

variable {arguments : Arguments}

theorem exists_config (positive : 1 ≤ arguments.timeout) (small : arguments.timeout < Unsigned.word) :
    ∃ config, App.config arguments = .ok config ∧
      config.timeout.duration = .ofSeconds (.ofNat arguments.timeout) ∧
      config.timeout.duration.seconds.toNat = arguments.timeout := by
  have seconds : (UInt64.ofNat arguments.timeout).toNat = arguments.timeout := UInt64.toNat_ofNat_of_lt' small
  have nonzero : Duration.ofSeconds (.ofNat arguments.timeout) ≠ .zero := by
    intro same
    have none := congrArg (fun duration => duration.seconds.toNat) same
    rw [Duration.ofSeconds, seconds] at none
    simp only [Duration.zero] at none
    rw [none] at positive
    cases positive
  have checked : Timeout.check (.ofSeconds (.ofNat arguments.timeout)) = .ok ⟨_, nonzero⟩ := by
    simp [Timeout.check, Timeout.of?, nonzero]
  unfold App.config
  rw [checked]
  cases arguments.cookie with
  | none => exact ⟨_, rfl, rfl, seconds⟩
  | some cookie => exact ⟨_, rfl, rfl, seconds⟩

theorem runWith_ne_setting {σ : Type} (connect : Config → Client (StateM σ)) (console : Console (StateM σ))
    (disk : Disk (StateM σ)) (record : Event → StateM σ Unit) (state : σ) {config : Config}
    (set : App.config arguments = .ok config) (error : Error) :
    (perform (App.runWith connect console disk record arguments) state).1 ≠ .error (.setting error) := by
  unfold App.runWith
  simp only [set, perform_bind, perform_lift, perform_adapt]
  generalize (perform (session (connect config) console disk (App.searchOptions arguments)) _).1 = result
  cases result with
  | ok => simp [Except.mapError]
  | error failure => simp [Except.mapError]

theorem logLevel_eq (quiet : arguments.quiet = false) :
    (arguments.verbose = 0 → arguments.logLevel = .warn) ∧ (arguments.verbose = 1 → arguments.logLevel = .debug) ∧
      (2 ≤ arguments.verbose → arguments.logLevel = .trace) := by
  simp only [logLevel, quiet, Bool.false_eq_true, if_false]
  match arguments.verbose with
  | 0 => simp
  | 1 => simp
  | count + 2 => simp

theorem logLevel_eq_error_iff : arguments.logLevel = .error ↔ arguments.quiet = true := by
  cases quiet : arguments.quiet with
  | true => simp [logLevel, quiet]
  | false =>
    obtain ⟨silent, once, often⟩ := logLevel_eq quiet
    match counted : arguments.verbose with
    | 0 => simp [silent counted]
    | 1 => simp [once counted]
    | count + 2 => simp [often (by omega)]

end Arguments

section

variable {environment : Environment} {arguments : List String} {parsed : Arguments}

theorem exists_of_parse (accepted : parse environment arguments = .ok parsed) :
    ∃ state, State.start.takeAll arguments = .ok state ∧ state.conflict? = none ∧
      parsed = state.arguments environment := by
  obtain ⟨state, taken, settled⟩ := exists_of_bind accepted
  cases conflict : state.conflict? with
  | some fault =>
    rw [conflict] at settled
    cases settled
  | none =>
    rw [conflict] at settled
    exact ⟨state, taken, conflict, (Except.ok.inj settled).symm⟩

theorem timeout_of_parse (accepted : parse environment arguments = .ok parsed) :
    1 ≤ parsed.timeout ∧ parsed.timeout < Unsigned.word := by
  obtain ⟨state, taken, -, rfl⟩ := exists_of_parse accepted
  have proper := State.start_proper.takeAll taken
  rw [State.arguments]
  cases found : state.timeout? with
  | none =>
    have whole : 1 ≤ defaultTimeoutSeconds ∧ defaultTimeoutSeconds < Unsigned.word := by decide
    exact whole
  | some seconds => exact proper.timeout found

theorem outputDir_of_parse (accepted : parse environment arguments = .ok parsed) : parsed.outputDir ≠ "" := by
  obtain ⟨state, taken, -, rfl⟩ := exists_of_parse accepted
  have proper := State.start_proper.takeAll taken
  rw [State.arguments]
  cases found : state.text? .outputDir with
  | none =>
    have here : "." ≠ "" := by decide
    exact here
  | some value => exact proper.outputDir found

theorem exclusive_of_parse (accepted : parse environment arguments = .ok parsed) :
    ¬ (parsed.quiet = true ∧ 0 < parsed.verbose) := by
  obtain ⟨state, -, free, rfl⟩ := exists_of_parse accepted
  rintro ⟨quiet, loud⟩
  exact State.conflict?_isSome quiet (State.has_of_verbosity loud) free

theorem usable_of_parse (accepted : parse environment arguments = .ok parsed) : parsed.Usable := by
  have timeout := timeout_of_parse accepted
  obtain ⟨config, set, -⟩ := Arguments.exists_config timeout.1 timeout.2
  exact
    { timeout := timeout
      settings := Arguments.exists_config timeout.1 timeout.2
      unrefused := fun connect console disk record state error =>
        Arguments.runWith_ne_setting connect console disk record state set error
      outputDir := outputDir_of_parse accepted
      exclusive := exclusive_of_parse accepted
      quiet := Arguments.logLevel_eq_error_iff
      loud := Arguments.logLevel_eq }

end

inductive VerboseFlags where
  | long
  | letters (more : Nat)

namespace VerboseFlags

def text : VerboseFlags → String
  | long => "--verbose"
  | letters more => String.ofList ('-' :: List.replicate (more + 1) 'v')

def count : VerboseFlags → Nat
  | long => 1
  | letters more => more + 1

def total : List VerboseFlags → Nat
  | [] => 0
  | flags :: rest => flags.count + total rest

end VerboseFlags

namespace State

def counted : Nat → State
  | 0 => start
  | count + 1 => ⟨[.verbose (min (count + 1) countLimit)], none, false⟩

theorem verbosity_counted (count : Nat) : (counted count).verbosity = min count countLimit := by
  cases count with
  | zero => rfl
  | succ count => rfl

theorem flag_counted (count : Nat) : (counted count).flag .verbose = .ok (counted (count + 1)) := by
  have next : min ((counted count).verbosity + 1) countLimit = min (count + 1) countLimit := by
    rw [verbosity_counted]
    omega
  cases count with
  | zero => rfl
  | succ count =>
    calc
      (counted (count + 1)).flag .verbose =
          .ok ⟨[.verbose (min ((counted (count + 1)).verbosity + 1) countLimit)], none, false⟩ := rfl
      _ = .ok (counted (count + 2)) := by rw [next]; rfl

theorem shortOptions_counted (count more : Nat) :
    (counted count).shortOptions (List.replicate more 'v') = .ok (counted (count + more)) := by
  induction more generalizing count with
  | zero => rfl
  | succ more ih =>
    have verbose : Setting.ofShort? 'v' = some .verbose := by decide
    calc
      (counted count).shortOptions (List.replicate (more + 1) 'v') =
          (do
            let state ← (counted count).flag .verbose
            state.shortOptions (List.replicate more 'v')) := by
        rw [List.replicate_succ, shortOptions, verbose]
        rfl
      _ = (counted (count + 1)).shortOptions (List.replicate more 'v') := by rw [flag_counted]; rfl
      _ = .ok (counted (count + (more + 1))) := by rw [ih, Nat.add_right_comm]; rfl

theorem take_counted (count : Nat) (flags : VerboseFlags) :
    (counted count).take flags.text = .ok (counted (count + flags.count)) := by
  have leading : (counted count).isTrailing = false := by cases count <;> rfl
  cases flags with
  | long =>
    calc
      (counted count).take "--verbose" = (counted count).flag .verbose := by
        simp only [take, leading]
        rfl
      _ = .ok (counted (count + 1)) := flag_counted count
  | letters more =>
    have text : (VerboseFlags.letters more).text.toList = '-' :: 'v' :: List.replicate more 'v' := by
      rw [VerboseFlags.text, String.toList_ofList, List.replicate_succ]
    calc
      (counted count).take (VerboseFlags.letters more).text =
          (counted count).shortOptions (List.replicate (more + 1) 'v') := by
        simp only [take, leading, text]
        rfl
      _ = .ok (counted (count + (more + 1))) := shortOptions_counted count (more + 1)

theorem takeAll_counted (count : Nat) (flags : List VerboseFlags) :
    (counted count).takeAll (flags.map VerboseFlags.text) =
      .ok (counted (count + VerboseFlags.total flags)) := by
  induction flags generalizing count with
  | nil => cases count <;> rfl
  | cons flag rest ih =>
    calc
      (counted count).takeAll ((flag :: rest).map VerboseFlags.text) =
          (counted (count + flag.count)).takeAll (rest.map VerboseFlags.text) := by
        rw [List.map_cons, takeAll, take_counted]
        rfl
      _ = .ok (counted (count + VerboseFlags.total (flag :: rest))) := by
        rw [ih, VerboseFlags.total, Nat.add_assoc]

theorem conflict?_counted (count : Nat) : (counted count).conflict? = none := by
  cases count with
  | zero => rfl
  | succ count => rfl

end State

theorem parse_verbose (environment : Environment) (flags : List VerboseFlags) :
    parse environment (flags.map VerboseFlags.text) =
      .ok ((State.counted (VerboseFlags.total flags)).arguments environment) := by
  have taken := State.takeAll_counted 0 flags
  rw [Nat.zero_add] at taken
  unfold parse
  rw [show State.start = State.counted 0 from rfl, taken]
  simp only [bind, Except.bind, State.conflict?_counted]

/-- Arguments that are accepted can be run with. Flags of verbosity are accepted however many they are and however
they are written; the count stops at its limit, so that from the second flag on everything is shown. -/
theorem parse_usable (environment : Environment) :
    (∀ (arguments : List String) (parsed : Arguments), parse environment arguments = .ok parsed → parsed.Usable) ∧
      ∀ flags : List VerboseFlags, ∃ parsed : Arguments,
        parse environment (flags.map VerboseFlags.text) = .ok parsed ∧
          parsed.verbose = min (VerboseFlags.total flags) 255 ∧ parsed.quiet = false ∧
          (2 ≤ VerboseFlags.total flags → parsed.logLevel = .trace) := by
  refine ⟨fun arguments parsed accepted => usable_of_parse accepted, fun flags => ?_⟩
  generalize total : VerboseFlags.total flags = count
  have accepted := parse_verbose environment flags
  rw [total] at accepted
  have verbose : ((State.counted count).arguments environment).verbose = min count 255 :=
    State.verbosity_counted count
  have quiet : ((State.counted count).arguments environment).quiet = false := by
    cases count with
    | zero => rfl
    | succ count => rfl
  refine ⟨_, accepted, verbose, quiet, fun often => ?_⟩
  apply (Arguments.logLevel_eq quiet).2.2
  rw [verbose]
  omega

theorem parse_usable_second :
    ∃ parsed : Arguments,
      parse ⟨some "", some "s=1", none⟩ ["-vt", "+7", "--verbose", "-o=d"] = .ok parsed ∧ parsed.Usable ∧
        parsed.timeout = 7 ∧ parsed.verbose = 2 ∧ parsed.outputDir = "d" := by
  have accepted : parse ⟨some "", some "s=1", none⟩ ["-vt", "+7", "--verbose", "-o=d"] =
      .ok ⟨"", 7, some "s=1", none, "d64", "games", "d", 2, false⟩ := by rfl
  exact ⟨_, accepted, (parse_usable _).1 _ _ accepted, rfl, rfl, rfl⟩

end Catalog.CommandLine
