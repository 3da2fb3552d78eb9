import Catalog.Proofs.Endings

set_option autoImplicit false

namespace Catalog

inductive SessionEnds (config : Config) (options : SearchOptions) (start : World) : World → Prop where
  | greeting (answer : Answer) (final : World)
    (sent : start.channel.Sent [(config.presetsCall.request config, answer)] final.channel)
    (tree : final.tree = start.tree) : SessionEnds config options start final
  | searching (first second : Answer) (name : String) (terminal : Terminal) (final : World)
    (greeted : Progress.Step config options start.tree (.presets start.terminal) first (.search name terminal))
    (sent : start.channel.Sent [(config.presetsCall.request config, first),
      ((config.searchCall (options.query name)).request config, second)] final.channel)
    (tree : final.tree = start.tree) : SessionEnds config options start final
  | choosing (first second : Answer) (name : String) (terminal : Terminal) (results : List SearchResult)
    (index : Fin results.length) (chosen : World) (ended : Except Failure (List (String × Nat)) × World)
    (final : World)
    (greeted : Progress.Step config options start.tree (.presets start.terminal) first (.search name terminal))
    (given : (config.searchCall (options.query name)).Gives second results)
    (picked : (terminal.shows (listing results)).askNumber results.length = (.ok index, chosen.terminal))
    (sent : start.channel.Sent [(config.presetsCall.request config, first),
      ((config.searchCall (options.query name)).request config, second)] chosen.channel)
    (tree : chosen.tree = start.tree)
    (download : Download config (results.get index) options.directory chosen ended)
    (sameChannel : final.channel = ended.2.channel) (sameTree : final.tree = ended.2.tree) :
    SessionEnds config options start final

theorem SessionEnds.of_ending {config : Config} {options : SearchOptions} {start : World}
    {result : Except Failure Unit × World} (ending : Ending config options start result) :
    SessionEnds config options start result.2 := by
  cases ending with
  | unanswered answer error channel sent failed => exact .greeting answer _ sent rfl
  | unnamed answer presets fault channel terminal sent given unnamed => exact .greeting answer _ sent rfl
  | unsearched first second name error channel terminal greeted sent failed =>
    exact .searching first second name terminal _ greeted sent rfl
  | unmatched first second name channel terminal greeted sent given =>
    exact .searching first second name terminal _ greeted sent rfl
  | unchosen first second name results fault channel terminal asked greeted sent given found unpicked =>
    exact .searching first second name terminal _ greeted sent rfl
  | chosen first second name results index channel terminal asked result greeted sent given picked ended =>
    exact .choosing first second name terminal results index { start with channel, terminal := asked } result _
      greeted given picked sent rfl ended (channel_settled ..) (tree_settled ..)

theorem World.runSession_ends (config : Config) (span : Span) (options : SearchOptions) (start : World) :
    SessionEnds config options start (runSession config span options start).2 :=
  .of_ending (runSession_ending config span options start)

theorem SessionEnds.course {config : Config} {options : SearchOptions} {start final : World}
    (ended : SessionEnds config options start final) :
    ∃ calls, start.channel.Sent calls final.channel ∧
      Course config options start.tree (.presets start.terminal) calls := by
  cases ended with
  | greeting answer _ sent tree => exact ⟨_, sent, .last answer rfl⟩
  | searching first second name terminal _ greeted sent tree =>
    exact ⟨_, sent, .step rfl greeted (.last second rfl)⟩
  | choosing first second name terminal results index chosen ended _ greeted given picked sent tree download
      sameChannel sameTree =>
    obtain ⟨calls, later, course⟩ := Course.of_download download
    rw [← sameChannel] at later
    refine ⟨_, sent.trans later, .step rfl greeted ?_⟩
    rcases course with rfl | ⟨locator, located, course⟩
    · exact .last second rfl
    · rw [tree] at course
      exact .step rfl (.chooses start.tree given picked located) course

end Catalog
