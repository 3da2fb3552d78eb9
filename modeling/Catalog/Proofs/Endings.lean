import Catalog.Proofs.Course

set_option autoImplicit false

namespace Catalog

-- A session without content to download says so.
def settled (choice : SearchResult) :
    Except Failure (List (String × Nat)) × World → Except Failure Unit × World
  | (.error failure, after) => (.error failure, after)
  | (.ok [], after) => (.ok (), { after with terminal := after.terminal.print (noContentLine choice) })
  | (.ok (_ :: _), after) => (.ok (), after)

section

variable (choice : SearchResult) (result : Except Failure (List (String × Nat)) × World)

theorem settled_fst : (settled choice result).1 = result.1.map fun _ => () := by
  rcases result with ⟨_ | _ | _, after⟩ <;> rfl

@[simp] theorem channel_settled : (settled choice result).2.channel = result.2.channel := by
  rcases result with ⟨_ | _ | _, after⟩ <;> rfl

@[simp] theorem tree_settled : (settled choice result).2.tree = result.2.tree := by
  rcases result with ⟨_ | _ | _, after⟩ <;> rfl

end

def noResultsLine (name : String) : String :=
  "No results for '" ++ name ++ "'."

inductive Ending (config : Config) (options : SearchOptions) (start : World) :
    Except Failure Unit × World → Prop where
  | unanswered (answer : Answer) (error : Error) (channel : Channel)
    (sent : start.channel.Sent [(config.presetsCall.request config, answer)] channel)
    (failed : config.presetsCall.outcome answer = .error error) :
    Ending config options start (.error (.exchange .presets error), { start with channel })
  | unnamed (answer : Answer) (presets : List Preset) (fault : PromptFault) (channel : Channel) (terminal : Terminal)
    (sent : start.channel.Sent [(config.presetsCall.request config, answer)] channel)
    (given : config.presetsCall.Gives answer presets)
    (unnamed : (start.terminal.shows (presetLines presets)).name options.name = (.error fault, terminal)) :
    Ending config options start (.error (.prompt fault), { start with channel, terminal })
  | unsearched (first second : Answer) (name : String) (error : Error) (channel : Channel) (terminal : Terminal)
    (greeted : Progress.Step config options start.tree (.presets start.terminal) first (.search name terminal))
    (sent : start.channel.Sent [(config.presetsCall.request config, first),
      ((config.searchCall (options.query name)).request config, second)] channel)
    (failed : (config.searchCall (options.query name)).outcome second = .error error) :
    Ending config options start (.error (.exchange .search error), { start with channel, terminal })
  | unmatched (first second : Answer) (name : String) (channel : Channel) (terminal : Terminal)
    (greeted : Progress.Step config options start.tree (.presets start.terminal) first (.search name terminal))
    (sent : start.channel.Sent [(config.presetsCall.request config, first),
      ((config.searchCall (options.query name)).request config, second)] channel)
    (given : (config.searchCall (options.query name)).Gives second []) :
    Ending config options start
      (.ok (), { start with channel, terminal := terminal.print (noResultsLine name) })
  | unchosen (first second : Answer) (name : String) (results : List SearchResult) (fault : PromptFault)
    (channel : Channel) (terminal asked : Terminal)
    (greeted : Progress.Step config options start.tree (.presets start.terminal) first (.search name terminal))
    (sent : start.channel.Sent [(config.presetsCall.request config, first),
      ((config.searchCall (options.query name)).request config, second)] channel)
    (given : (config.searchCall (options.query name)).Gives second results) (found : results ≠ [])
    (unpicked : (terminal.shows (listing results)).askNumber results.length = (.error fault, asked)) :
    Ending config options start (.error (.prompt fault), { start with channel, terminal := asked })
  | chosen (first second : Answer) (name : String) (results : List SearchResult) (index : Fin results.length)
    (channel : Channel) (terminal asked : Terminal) (result : Except Failure (List (String × Nat)) × World)
    (greeted : Progress.Step config options start.tree (.presets start.terminal) first (.search name terminal))
    (sent : start.channel.Sent [(config.presetsCall.request config, first),
      ((config.searchCall (options.query name)).request config, second)] channel)
    (given : (config.searchCall (options.query name)).Gives second results)
    (picked : (terminal.shows (listing results)).askNumber results.length = (.ok index, asked))
    (ended : Download config (results.get index) options.directory { start with channel, terminal := asked } result) :
    Ending config options start (settled (results.get index) result)

namespace World

theorem perform_deliver_settled (config : Config) (span : Span) (directory : String) (choice : SearchResult)
    (world : World) :
    perform (deliver ((World.client config).withSpan span) console disk directory choice) world =
      settled choice (runDownload config span choice directory world) := by
  rw [perform_deliver]
  rcases runDownload config span choice directory world with ⟨_ | _ | _, after⟩
  · rfl
  · rfl
  · rfl

theorem runSession_ending (config : Config) (span : Span) (options : SearchOptions) (start : World) :
    Ending config options start (runSession config span options start) := by
  rw [runSession_eq, perform_greet]
  obtain ⟨first, asked, received⟩ := start.channel.ask_sent config span config.presetsCall
  rcases result : start.channel.ask config span config.presetsCall with ⟨error | presets, channel⟩
  · rw [result] at asked received
    exact .unanswered first error channel asked received.symm
  rw [result] at asked received
  have given := (Call.outcome_eq_ok_iff _ _ _).1 received.symm
  rcases named : (start.terminal.shows (presetLines presets)).name options.name with ⟨fault | name, terminal⟩
  · simp only [named, Except.mapError]
    exact .unnamed first presets fault channel terminal asked given named
  simp only [named, Except.mapError, perform_find]
  have greeted : Progress.Step config options start.tree (.presets start.terminal) first (.search name terminal) :=
    .greets start.tree given named
  obtain ⟨second, searched, received⟩ :=
    (channel.record (searchingEvent (options.query name))).ask_sent config span
      (config.searchCall (options.query name))
  have both := asked.trans ((channel.sent_record _).trans searched)
  rcases result : (channel.record (searchingEvent (options.query name))).ask config span
    (config.searchCall (options.query name)) with ⟨error | results, channel⟩
  · rw [result] at both received
    exact .unsearched first second name error channel terminal greeted both received.symm
  rw [result] at both received
  have given := (Call.outcome_eq_ok_iff _ _ _).1 received.symm
  cases results with
  | nil => exact .unmatched first second name channel terminal greeted both given
  | cons best others =>
    simp only [perform_choose]
    rcases picked : (terminal.shows (listing (best :: others))).askNumber (best :: others).length with
      ⟨fault | index, asked⟩
    · exact .unchosen first second name _ fault channel terminal asked greeted both given (by simp) picked
    · simp only [perform_deliver_settled]
      exact .chosen first second name _ index _ terminal asked _ greeted (both.trans (channel.sent_record _)) given
        picked (runDownload_ends ..)

end World

def Error.isOfTransport : Error → Bool
  | .config _ | .transport .. => true
  | .http .. | .json _ | .utf8 _ => false

section

variable {α : Type} {config : Config} {options : SearchOptions} {stage : Stage} {error : Error}

theorem readJson_error {read : Json.Reader α} {body : List UInt8} (failed : readJson read body = .error error) :
    error.isOfTransport = false := by
  obtain ⟨failure, rfl⟩ := exists_failure_of_readJson failed
  rfl

theorem Call.outcome_ofTransport {call : Call α}
    (reads : ∀ body error, call.read body = .error error → error.isOfTransport = false) {answer : Answer}
    (failed : call.outcome answer = .error error) (own : error.isOfTransport = true) : answer = .error error := by
  cases answer with
  | error given =>
    rw [outcome_error] at failed
    rw [Except.error.inj failed]
  | ok response =>
    rw [outcome_ok] at failed
    split_ifs at failed
    · rw [reads _ _ failed] at own
      cases own
    · rw [← Except.error.inj failed] at own
      cases own

theorem Missed.answered {locator : Locator} {directory : String} {item : ContentItem} {before after : World}
    (missed : Missed config locator directory item before (.exchange stage error) after)
    (own : error.isOfTransport = true) : .error error ∈ after.channel.answers := by
  cases missed with
  | download answer _ channel sent failed =>
    rw [Call.outcome_ofTransport (fun _ _ read => by cases read) failed own] at sent
    exact sent.mem (List.mem_singleton.2 rfl)

theorem Download.answered {choice : SearchResult} {directory : String} {before : World}
    {result : Except Failure (List (String × Nat)) × World} (ended : Download config choice directory before result)
    (failed : result.1 = .error (.exchange stage error)) (own : error.isOfTransport = true) :
    .error error ∈ result.2.channel.answers := by
  cases ended with
  | unlocated absent => cases failed
  | unlisted locator answer channel _ located sent unlisted =>
    cases failed
    rw [Call.outcome_ofTransport (fun _ _ => readJson_error) unlisted own] at sent
    exact sent.mem (List.mem_singleton.2 rfl)
  | listed locator answer channel entries _ located sent given ended =>
    cases ended with
    | finished done after all downloaded => cases failed
    | stopped done item rest between failure after cut downloaded missed =>
      obtain rfl := Except.error.inj failed
      exact missed.answered own

theorem settled_eq_error_iff {choice : SearchResult} {result : Except Failure (List (String × Nat)) × World}
    {failure : Failure} : (settled choice result).1 = .error failure ↔ result.1 = .error failure := by
  rcases result with ⟨_ | _ | _, after⟩ <;> simp [settled]

theorem Ending.answered {start : World} {result : Except Failure Unit × World}
    (ending : Ending config options start result) (failed : result.1 = .error (.exchange stage error))
    (own : error.isOfTransport = true) : .error error ∈ result.2.channel.answers := by
  cases ending with
  | unanswered answer _ channel sent unanswered =>
    cases failed
    rw [Call.outcome_ofTransport (fun _ _ => readJson_error) unanswered own] at sent
    exact sent.mem (List.mem_singleton.2 rfl)
  | unnamed answer presets fault channel terminal sent given unnamed => cases failed
  | unsearched first second name _ channel terminal greeted sent unsearched =>
    cases failed
    rw [Call.outcome_ofTransport (fun _ _ => readJson_error) unsearched own] at sent
    exact sent.mem (List.mem_cons_of_mem _ (List.mem_singleton.2 rfl))
  | unmatched first second name channel terminal greeted sent given => cases failed
  | unchosen first second name results fault channel terminal asked greeted sent given found unpicked => cases failed
  | chosen first second name results index channel terminal asked result greeted sent given picked ended =>
    rw [channel_settled]
    exact ended.answered (settled_eq_error_iff.1 failed) own

end

end Catalog
