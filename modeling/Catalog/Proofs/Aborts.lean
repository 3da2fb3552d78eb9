import Catalog.App
import Catalog.Proofs.Endings

set_option autoImplicit false

namespace Catalog

inductive Abort where
  | noTerminal
  | belowZero
  | noEntry (index length : Nat)
  deriving DecidableEq, Repr

def lowered : Nat → Except Abort Nat
  | 0 => .error .belowZero
  | n + 1 => .ok n

def entryAt {α : Type} (xs : List α) (index : Nat) : Except Abort α :=
  match xs[index]? with
  | some x => .ok x
  | none => .error (.noEntry index xs.length)

def readIndex (count : Nat) (line : String) : Except Abort (Except String Nat) :=
  match Unsigned.readWord line with
  | .error fault => .ok (.error fault.message)
  | .ok n =>
    if n < count then .ok (.ok n)
    else do
      let most ← lowered count
      return .error s!"choose a number between 0 and {most}"

structure IndexAnswer where
  number : Option Nat
  rest : List String
  refusals : List String

def nextIndex (count : Nat) : List String → Except Abort IndexAnswer
  | [] => .ok ⟨none, [], []⟩
  | line :: rest =>
    if line.isEmpty then nextIndex count rest
    else do
      match ← readIndex count line with
      | .ok n => return ⟨some n, rest, []⟩
      | .error refusal =>
        let later ← nextIndex count rest
        return { later with refusals := refusal :: later.refusals }

def Terminal.pick (terminal : Terminal) (results : List SearchResult) :
    Except Abort (Except PromptFault SearchResult × Terminal) :=
  if terminal.isAttended then do
    let answer ← nextIndex results.length terminal.lines
    let asked := { terminal with lines := answer.rest, refusals := terminal.refusals ++ answer.refusals }
    match answer.number with
    | some index => return (.ok (← entryAt results index), asked)
    | none => return (.error .endOfInput, asked)
  else .error .noTerminal

theorem readIndex_eq {count : Nat} (some : 0 < count) (line : String) :
    readIndex count line = .ok ((readNumber count line).map Fin.val) := by
  rw [readIndex, readNumber]
  cases Unsigned.readWord line with
  | error fault => rfl
  | ok n =>
    by_cases below : n < count
    · simp only [if_pos below, dif_pos below]
      rfl
    · obtain ⟨most, rfl⟩ := Nat.exists_eq_succ_of_ne_zero (Nat.ne_of_gt some)
      simp only [if_neg below, dif_neg below]
      rfl

theorem nextIndex_eq {count : Nat} (some : 0 < count) (lines : List String) :
    nextIndex count lines = .ok ⟨(nextNumber count lines).number.map Fin.val, (nextNumber count lines).rest,
      (nextNumber count lines).refusals⟩ := by
  induction lines with
  | nil => rfl
  | cons line rest ih =>
    rw [nextIndex, nextNumber]
    by_cases empty : line.isEmpty = true
    · rw [if_pos empty, if_pos empty, ih]
    · rw [if_neg empty, if_neg empty, readIndex_eq some, ih]
      cases readNumber count line with
      | ok n => rfl
      | error refusal => rfl

theorem entryAt_get {α : Type} (xs : List α) (index : Fin xs.length) : entryAt xs index = .ok (xs.get index) := by
  simp [entryAt]

theorem Terminal.pick_attended {terminal : Terminal} {results : List SearchResult}
    (attended : terminal.isAttended = true) (found : results ≠ []) :
    terminal.pick results = .ok ((terminal.askNumber results.length).1.map results.get,
      (terminal.askNumber results.length).2) := by
  rw [pick, askNumber, if_pos attended, if_pos attended, nextIndex_eq (List.length_pos_of_ne_nil found)]
  generalize nextNumber results.length terminal.lines = answer
  rcases answer with ⟨_ | index, rest, refusals⟩
  · rfl
  · simp only [Option.map_some, bind, Except.bind, entryAt_get]
    rfl

theorem Terminal.pick_unattended {terminal : Terminal} (unattended : terminal.isAttended = false)
    (results : List SearchResult) : terminal.pick results = .error .noTerminal := by
  rw [pick, unattended]
  rfl

theorem Terminal.isAttended_name (terminal : Terminal) (name? : Option String) :
    (terminal.name name?).2.isAttended = terminal.isAttended := by
  cases name? with
  | some name => rfl
  | none =>
    rw [name, askText]
    split
    · split <;> rfl
    · rfl

theorem Terminal.name_ne_noTerminal {terminal asked : Terminal} {name? : Option String} :
    terminal.name name? ≠ (.error .noTerminal, asked) := by
  intro broken
  cases name? with
  | some name => cases broken
  | none =>
    rw [name, askText] at broken
    split at broken
    · split at broken <;> cases broken
    · cases broken

theorem Download.ne_prompt {config : Config} {choice : SearchResult} {directory : String} {before : World}
    {result : Except Failure (List (String × Nat)) × World} (ended : Download config choice directory before result)
    (fault : PromptFault) : result.1 ≠ .error (.prompt fault) := by
  intro failed
  cases ended with
  | unlocated absent => cases failed
  | unlisted locator answer channel error located sent unlisted => cases failed
  | listed locator answer channel entries _ located sent given ended =>
    cases ended with
    | finished done after all downloaded => cases failed
    | stopped done item rest between failure after cut downloaded missed =>
      obtain rfl := Except.error.inj failed
      cases missed

def brokenOff : Except Failure Unit × World → Except Abort (Except Failure Unit) × World
  | (.error (.prompt .noTerminal), after) => (.error .noTerminal, after)
  | (result, after) => (.ok result, after)

theorem brokenOff_of_ne {result : Except Failure Unit} (reported : result ≠ .error (.prompt .noTerminal))
    (after : World) : brokenOff (result, after) = (.ok result, after) := by
  rcases result with ⟨_ | ⟨_ | _⟩ | _ | _⟩ | _
  · rfl
  · rfl
  · exact absurd rfl reported
  · rfl
  · rfl
  · rfl

theorem brokenOff_eq_error_iff {result : Except Failure Unit × World} {abort : Abort} :
    (brokenOff result).1 = .error abort ↔ result.1 = .error (.prompt .noTerminal) ∧ abort = .noTerminal := by
  obtain ⟨ended, after⟩ := result
  by_cases broken : ended = .error (.prompt .noTerminal)
  · subst broken
    simp [brokenOff, eq_comm]
  · rw [brokenOff_of_ne broken]
    simp [broken]

theorem brokenOff_snd (result : Except Failure Unit × World) : (brokenOff result).2 = result.2 := by
  obtain ⟨ended, after⟩ := result
  by_cases broken : ended = .error (.prompt .noTerminal)
  · rw [broken]
    rfl
  · rw [brokenOff_of_ne broken]

theorem brokenOff_eq_ok_iff {result : Except Failure Unit × World} {ended : Except Failure Unit} :
    (brokenOff result).1 = .ok ended ↔ result.1 = ended ∧ ended ≠ .error (.prompt .noTerminal) := by
  obtain ⟨given, after⟩ := result
  by_cases broken : given = .error (.prompt .noTerminal)
  · subst broken
    simp only [brokenOff]
    constructor
    · intro same
      cases same
    · rintro ⟨rfl, other⟩
      exact absurd rfl other
  · rw [brokenOff_of_ne broken]
    constructor
    · intro same
      cases same
      exact ⟨rfl, broken⟩
    · rintro ⟨rfl, -⟩
      rfl

namespace World

variable (config : Config) (span : Span)

-- A session whose choice is picked without a promise about the number.
def runPicking (options : SearchOptions) (world : World) : Except Abort (Except Failure Unit) × World :=
  match perform (greet ((World.client config).withSpan span) console options.name) world with
  | (.error failure, after) => (.ok (.error failure), after)
  | (.ok name, greeted) =>
    match perform (find ((World.client config).withSpan span) (options.query name)) greeted with
    | (.error failure, after) => (.ok (.error failure), after)
    | (.ok [], after) =>
      (.ok (.ok ()), { after with terminal := after.terminal.print ("No results for '" ++ name ++ "'.") })
    | (.ok (first :: others), found) =>
      let shown := found.terminal.shows (listing (first :: others))
      match shown.pick (first :: others) with
      | .error abort => (.error abort, { found with terminal := shown })
      | .ok (.error fault, terminal) => (.ok (.error (.prompt fault)), { found with terminal })
      | .ok (.ok choice, terminal) =>
        let chosen := { found with terminal, channel := found.channel.record (selectedEvent choice) }
        match perform (deliver ((World.client config).withSpan span) console disk options.directory choice) chosen with
        | (result, after) => (.ok result, after)

theorem runPicking_eq (options : SearchOptions) (world : World) :
    runPicking config span options world = brokenOff (runSession config span options world) := by
  rw [runPicking, runSession_eq, perform_greet]
  rcases world.channel.ask config span config.presetsCall with ⟨error | presets, channel⟩
  · rfl
  rcases named : (world.terminal.shows (presetLines presets)).name options.name with ⟨fault | name, terminal⟩
  · simp only [named, Except.mapError]
    refine (brokenOff_of_ne ?_ _).symm
    rintro ⟨⟩
    exact Terminal.name_ne_noTerminal named
  simp only [named, Except.mapError, perform_find]
  rcases (channel.record _).ask config span (config.searchCall (options.query name)) with
    ⟨error | _ | ⟨first, others⟩, channel⟩
  · rfl
  · rfl
  simp only [perform_choose]
  generalize terminal.shows (listing (first :: others)) = shown
  cases attended : shown.isAttended with
  | false =>
    rw [Terminal.pick_unattended attended, Terminal.askNumber_unattended attended]
    rfl
  | true =>
    rw [Terminal.pick_attended attended (by simp)]
    rcases asked : shown.askNumber (first :: others).length with ⟨fault | index, terminal⟩
    · refine (brokenOff_of_ne ?_ _).symm
      rintro ⟨⟩
      rw [Terminal.askNumber_noTerminal asked] at attended
      cases attended
    · simp only [Except.map, perform_deliver_settled]
      refine (brokenOff_of_ne ?_ _).symm
      rw [Ne, settled_eq_error_iff]
      exact (runDownload_ends ..).ne_prompt .noTerminal

end World

inductive Found (config : Config) (options : SearchOptions) (start final : Channel) : Prop where
  | intro (first second : Answer) (presets : List Preset) (results : List SearchResult)
    (calls : List (Request × Answer))
    (sent : start.Sent ((config.presetsCall.request config, first) ::
      ((config.searchCall (options.query (options.name.getD ""))).request config, second) :: calls) final)
    (greeted : config.presetsCall.Gives first presets)
    (given : (config.searchCall (options.query (options.name.getD ""))).Gives second results) (found : results ≠ [])

section

variable {config : Config} {options : SearchOptions} {start : World} {result : Except Failure Unit × World}

theorem Progress.Step.unattended {tree : Tree} {terminal asked : Terminal} {answer : Answer} {name : String}
    (greeted : Progress.Step config options tree (.presets terminal) answer (.search name asked))
    (unattended : terminal.isAttended = false) :
    name = options.name.getD "" ∧ asked.isAttended = false ∧ ∃ presets, config.presetsCall.Gives answer presets := by
  cases greeted with
  | presets _ _ _ presets _ given named typed alone =>
    have shown : (terminal.shows (presetLines presets)).isAttended = false := unattended
    rw [Terminal.name_unattended shown] at named
    obtain ⟨same, rfl⟩ := Prod.mk.inj named
    exact ⟨(Except.ok.inj same).symm, unattended, presets, given⟩

theorem Progress.Step.isAttended_search {tree : Tree} {terminal asked : Terminal} {answer : Answer} {name : String}
    (greeted : Progress.Step config options tree (.presets terminal) answer (.search name asked)) :
    asked.isAttended = terminal.isAttended := by
  cases greeted with
  | presets _ _ _ presets _ given named typed alone =>
    have kept := (terminal.shows (presetLines presets)).isAttended_name options.name
    rwa [named] at kept

theorem Ending.noTerminal (ending : Ending config options start result)
    (broken : result.1 = .error (.prompt .noTerminal)) :
    start.terminal.isAttended = false ∧ result.2.tree = start.tree ∧
      ∃ first second presets results, start.channel.Sent [(config.presetsCall.request config, first),
          ((config.searchCall (options.query (options.name.getD ""))).request config, second)] result.2.channel ∧
        config.presetsCall.Gives first presets ∧
        (config.searchCall (options.query (options.name.getD ""))).Gives second results ∧ results ≠ [] := by
  cases ending with
  | unanswered => cases broken
  | unnamed answer presets fault channel terminal sent given unnamed =>
    cases broken
    exact absurd unnamed Terminal.name_ne_noTerminal
  | unsearched => cases broken
  | unmatched => cases broken
  | unchosen first second name results fault channel terminal asked greeted sent given found unpicked =>
    cases broken
    have alone := Terminal.askNumber_noTerminal unpicked
    have unattended : start.terminal.isAttended = false := greeted.isAttended_search.symm.trans alone
    obtain ⟨rfl, -, presets, met⟩ := greeted.unattended unattended
    exact ⟨unattended, rfl, first, second, presets, results, sent, met, given, found⟩
  | chosen first second name results index channel terminal asked result greeted sent given picked ended =>
    exact absurd (settled_eq_error_iff.1 broken) (ended.ne_prompt .noTerminal)

theorem Ending.noTerminal_of_found (ending : Ending config options start result)
    (unattended : start.terminal.isAttended = false) (found : Found config options start.channel result.2.channel) :
    result.1 = .error (.prompt .noTerminal) := by
  obtain ⟨first, second, presets, results, calls, both, met, listed, some⟩ := found
  have short {call : Request × Answer} (sent : start.channel.Sent [call] result.2.channel) : False := by
    have lengths := congrArg List.length (both.unique sent)
    simp at lengths
  have same {calls : List (Request × Answer)} {name : String} {one two : Answer}
      (sent : start.channel.Sent ((config.presetsCall.request config, one) ::
        ((config.searchCall (options.query name)).request config, two) :: calls) result.2.channel) : two = second := by
    obtain ⟨-, later⟩ := List.cons.inj (sent.unique both)
    exact (Prod.mk.inj (List.cons.inj later).1).2
  cases ending with
  | unanswered answer error channel sent failed => exact (short sent).elim
  | unnamed answer presets fault channel terminal sent given unnamed => exact (short sent).elim
  | unsearched first second name error channel terminal greeted sent failed =>
    obtain rfl := same sent
    exact absurd failed listed.not_error
  | unmatched first second name channel terminal greeted sent given =>
    obtain rfl := same sent
    exact absurd (listed.unique given) some
  | unchosen first second name results fault channel terminal asked greeted sent given found unpicked =>
    have alone : (terminal.shows (listing results)).isAttended = false := (greeted.unattended unattended).2.1
    rw [Terminal.askNumber_unattended alone] at unpicked
    cases unpicked
    rfl
  | chosen first second name results index channel terminal asked result greeted sent given picked ended =>
    have alone : (terminal.shows (listing results)).isAttended = false := (greeted.unattended unattended).2.1
    rw [Terminal.askNumber_unattended alone] at picked
    cases picked

end

def isReturned : Answer → Bool
  | .error (.transport _ .endless) => false
  | _ => true

def Channel.Returned (channel : Channel) : Prop :=
  ∀ answer ∈ channel.answers, isReturned answer = true

instance (channel : Channel) : Decidable channel.Returned :=
  inferInstanceAs (Decidable (∀ answer ∈ channel.answers, isReturned answer = true))

theorem App.exitCode_ofSession (result : Except Failure Unit) :
    (ofSession (result.mapError .session)).exitCode = 101 ↔
      result = .error (.prompt .noTerminal) ∨
        ∃ stage url, result = .error (.exchange stage (.transport url .endless)) := by
  cases result with
  | ok done => simp [ofSession, Except.mapError]
  | error failure =>
    cases failure with
    | exchange stage error =>
      cases error with
      | transport url fault => cases fault <;> simp [ofSession, Except.mapError]
      | _ => simp [ofSession, Except.mapError]
    | prompt fault => cases fault <;> simp [ofSession, Except.mapError]
    | _ => simp [ofSession, Except.mapError]

section

variable (config : Config) (span : Span) (options : SearchOptions) (start : World)

/-- A session is broken off exactly if there is no terminal when something was found, and then after two calls and
with nothing saved; otherwise it ends as one whose numbers are promised to be in range. -/
theorem World.runSession_aborts (returned : (runSession config span options start).2.channel.Returned) :
    ((∃ abort, (runPicking config span options start).1 = .error abort) ↔
      start.terminal.isAttended = false ∧
        Found config options start.channel (runPicking config span options start).2.channel) ∧
    (∀ abort, (runPicking config span options start).1 = .error abort →
      abort = .noTerminal ∧ (runPicking config span options start).2.tree = start.tree ∧
        ∃ first second, start.channel.Sent [(config.presetsCall.request config, first),
          ((config.searchCall (options.query (options.name.getD ""))).request config, second)]
          (runPicking config span options start).2.channel) ∧
    (∀ result, (runPicking config span options start).1 = .ok result →
      runSession config span options start = (result, (runPicking config span options start).2)) ∧
    ((App.ofSession ((runSession config span options start).1.mapError .session)).exitCode = 101 ↔
      ∃ abort, (runPicking config span options start).1 = .error abort) := by
  have ending := runSession_ending config span options start
  rw [runPicking_eq, brokenOff_snd]
  simp only [brokenOff_eq_error_iff, exists_eq_right]
  refine ⟨⟨?_, ?_⟩, ?_, ?_, ?_⟩
  · intro broken
    obtain ⟨unattended, -, first, second, presets, results, sent, met, given, found⟩ := ending.noTerminal broken
    exact ⟨unattended, .intro first second presets results [] sent met given found⟩
  · rintro ⟨unattended, found⟩
    exact ending.noTerminal_of_found unattended found
  · rintro abort ⟨broken, rfl⟩
    obtain ⟨-, tree, first, second, -, -, sent, -⟩ := ending.noTerminal broken
    exact ⟨rfl, tree, first, second, sent⟩
  · intro result ended
    exact Prod.ext (brokenOff_eq_ok_iff.1 ended).1 rfl
  · rw [App.exitCode_ofSession]
    constructor
    · rintro (broken | ⟨stage, url, failed⟩)
      · exact broken
      · have lost := returned _ (ending.answered failed rfl)
        cases lost
    · exact .inl

end

namespace Sample

-- Two results are found, and nobody is there to choose one.
def unattended : World := { world [bytes [], found] with terminal := ⟨false, [], [], []⟩ }

end Sample

theorem World.runSession_aborts_second :
    (runSession Sample.config Sample.span Sample.options Sample.unattended).2.channel.Returned ∧
      (runPicking Sample.config Sample.span Sample.options Sample.unattended).1 = .error .noTerminal ∧
      (App.ofSession ((runSession Sample.config Sample.span Sample.options Sample.unattended).1.mapError
        .session)).exitCode = 101 := by
  have returned : (runSession Sample.config Sample.span Sample.options Sample.unattended).2.channel.Returned := by
    decide +kernel
  have code : (App.ofSession ((runSession Sample.config Sample.span Sample.options Sample.unattended).1.mapError
      .session)).exitCode = 101 := by
    decide +kernel
  obtain ⟨-, broken, -, exits⟩ :=
    runSession_aborts Sample.config Sample.span Sample.options Sample.unattended returned
  obtain ⟨abort, aborted⟩ := exits.1 code
  exact ⟨returned, (broken abort aborted).1 ▸ aborted, code⟩

end Catalog
