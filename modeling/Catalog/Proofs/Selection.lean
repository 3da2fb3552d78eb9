import Catalog.Proofs.Endings
import Catalog.Proofs.Prompts

set_option autoImplicit false

namespace Catalog

def Numbered (line : String) (n : Nat) : Prop :=
  ∃ label, line = toString n ++ ": " ++ label

-- One line for each result, and the number at its start is the one that selects the result.
structure Listed (results : List SearchResult) (lines : List String) : Prop where
  length : lines.length = results.length
  line : ∀ (i : Nat) (result : SearchResult), results[i]? = some result →
    lines[i]? = some (toString i ++ ": " ++ result.label)
  numbered : ∀ (i : Nat) (line : String), lines[i]? = some line → ∀ n, Numbered line n ↔ n = i
  selects : ∀ (i : Nat) (line : String), lines[i]? = some line → Selects results.length (toString i) i

-- A terminal with these lines left to read, on which more has been shown and turned down.
def Terminal.after (terminal : Terminal) (lines shown refusals : List String) : Terminal :=
  { terminal with lines, shown := terminal.shown ++ shown, refusals := terminal.refusals ++ refusals }

-- How far an attended session gets with the lines typed, and what its terminal has come to then. The number is
-- asked for on a terminal that shows the listing already.
inductive Prompted (config : Config) (options : SearchOptions) (start : World) :
    Except Failure Unit × World → Prop where
  | unasked (first : Answer) (error : Error) (final : World)
    (sent : start.channel.Sent [(config.presetsRequest, first)] final.channel)
    (left : final.terminal = start.terminal) :
    Prompted config options start (.error (.exchange .presets error), final)
  | unnamed (first : Answer) (presets : List Preset) (final : World) (absent : options.name = none)
    (empty : ∀ line ∈ start.terminal.lines, line = "")
    (sent : start.channel.Sent [(config.presetsRequest, first)] final.channel)
    (greeted : config.presetsCall.Gives first presets)
    (left : final.terminal = start.terminal.after [] (presetLines presets) []) :
    Prompted config options start (.error (.prompt .endOfInput), final)
  | unsearched (first second : Answer) (presets : List Preset) (name : String) (lines : List String) (error : Error)
    (final : World) (greeted : config.presetsCall.Gives first presets)
    (named : Named options.name start.terminal.lines name lines)
    (sent : start.channel.Sent [(config.presetsRequest, first),
      (config.searchRequest (buildQuery (titleFilters name options.kind options.category)), second)] final.channel)
    (failed : (config.searchCall (options.query name)).outcome second = .error error)
    (left : final.terminal = start.terminal.after lines (presetLines presets) []) :
    Prompted config options start (.error (.exchange .search error), final)
  | unmatched (first second : Answer) (presets : List Preset) (name : String) (lines : List String) (final : World)
    (greeted : config.presetsCall.Gives first presets)
    (named : Named options.name start.terminal.lines name lines)
    (sent : start.channel.Sent [(config.presetsRequest, first),
      (config.searchRequest (buildQuery (titleFilters name options.kind options.category)), second)] final.channel)
    (given : (config.searchCall (options.query name)).Gives second [])
    (left : final.terminal =
      start.terminal.after lines (presetLines presets ++ ["No results for '" ++ name ++ "'."]) []) :
    Prompted config options start (.ok (), final)
  | unchosen (first second : Answer) (presets : List Preset) (name : String) (lines listed refusals : List String)
    (results : List SearchResult) (final : World) (greeted : config.presetsCall.Gives first presets)
    (named : Named options.name start.terminal.lines name lines)
    (sent : start.channel.Sent [(config.presetsRequest, first),
      (config.searchRequest (buildQuery (titleFilters name options.kind options.category)), second)] final.channel)
    (given : (config.searchCall (options.query name)).Gives second results) (found : results ≠ [])
    (shown : Listed results listed)
    (asked : (start.terminal.after lines (presetLines presets ++ listed) []).askNumber results.length =
      (.error .endOfInput, final.terminal))
    (past : PassedOver results.length lines refusals) (zero : "0" ∉ lines)
    (left : final.terminal = start.terminal.after [] (presetLines presets ++ listed) refusals) :
    Prompted config options start (.error (.prompt .endOfInput), final)
  | chosen (first second : Answer) (presets : List Preset) (name : String) (passed : List String) (line : String)
    (rest listed refusals more : List String) (results : List SearchResult) (index : Fin results.length)
    (calls : List (Request × Answer)) (result : Except Failure Unit) (final : World)
    (greeted : config.presetsCall.Gives first presets)
    (named : Named options.name start.terminal.lines name (passed ++ line :: rest))
    (sent : start.channel.Sent ((config.presetsRequest, first) ::
      (config.searchRequest (buildQuery (titleFilters name options.kind options.category)), second) :: calls)
      final.channel)
    (given : (config.searchCall (options.query name)).Gives second results) (shown : Listed results listed)
    (asked : (start.terminal.after (passed ++ line :: rest) (presetLines presets ++ listed) []).askNumber
        results.length = (.ok index, start.terminal.after rest (presetLines presets ++ listed) refusals))
    (past : PassedOver results.length passed refusals) (selects : Selects results.length line index)
    (next : (calls.map Prod.fst).head? = (results.get index).locator?.map config.entriesRequest)
    (left : final.terminal = start.terminal.after rest (presetLines presets ++ listed ++ more) refusals) :
    Prompted config options start (result, final)

theorem numbered_line (n : Nat) (result : SearchResult) : Numbered (result.line n) n :=
  ⟨result.label, rfl⟩

theorem Numbered.unique {line : String} {n k : Nat} (first : Numbered line n) (second : Numbered line k) : n = k := by
  obtain ⟨label, rfl⟩ := first
  obtain ⟨other, same⟩ := second
  -- The digits of a number end where the colon stands.
  have digits (i : Nat) (text : List Char) :
      ((toString i).toList ++ ':' :: text).takeWhile Char.isDigit = (toString i).toList := by
    have all : ∀ c ∈ (toString i).toList, c.isDigit = true := by
      rw [Nat.toString_eq_repr, Nat.toList_repr]
      exact fun c member => Nat.isDigit_of_mem_toDigits (by decide) (by decide) member
    rw [List.takeWhile_append_of_pos all]
    simp
  have texts := congrArg (fun line => line.toList.takeWhile Char.isDigit) same
  simp only [String.toList_append, List.append_assoc] at texts
  have colon (text : List Char) : ": ".toList ++ text = ':' :: ' ' :: text := rfl
  rw [colon, colon, digits, digits] at texts
  exact (texts ▸ Unsigned.isNumeral_toString n).unique (Unsigned.isNumeral_toString k)

theorem listing_numbered {results : List SearchResult} {i : Nat} {line : String}
    (shown : (listing results)[i]? = some line) (n : Nat) : Numbered line n ↔ n = i := by
  rw [listing, List.getElem?_mapIdx, Option.map_eq_some_iff] at shown
  obtain ⟨result, -, rfl⟩ := shown
  constructor
  · exact fun numbered => numbered.unique (numbered_line i result)
  · rintro rfl
    exact numbered_line _ result

theorem listed_listing (results : List SearchResult) : Listed results (listing results) where
  length := listing_length results
  line := by
    intro i result here
    rw [listing, List.getElem?_mapIdx, here]
    rfl
  numbered := fun _ _ shown => listing_numbered shown
  selects := by
    intro i line shown
    have short := (List.getElem?_eq_some_iff.1 shown).1
    rw [listing_length] at short
    exact selects_toString short

section

variable {terminal asked : Terminal}

theorem Terminal.shows_after (lines shown refusals more : List String) :
    (terminal.after lines shown refusals).shows more = terminal.after lines (shown ++ more) refusals := by
  simp [after, shows]

theorem Terminal.askNumber_after {bound : Nat} {lines shown : List String} {result : Except PromptFault (Fin bound)}
    (attended : terminal.isAttended = true) (fits : bound ≤ Unsigned.word)
    (picked : (terminal.after lines shown []).askNumber bound = (result, asked)) :
    ∃ number rest refusals, NumberTaken bound lines ⟨number, rest, refusals⟩ ∧
      asked = terminal.after rest shown refusals ∧
      result = match number with | some n => .ok n | none => .error .endOfInput := by
  obtain ⟨number, refusals, taken, left, same⟩ := Terminal.askNumber_taken picked fits attended
  exact ⟨number, asked.lines, refusals, taken, by rw [left]; simp [Terminal.after], same⟩

end

section

variable {config : Config} {choice : SearchResult} {directory : String} {before : World}
  {result : Except Failure (List (String × Nat)) × World}

theorem Downloads.shown {locator : Locator} {items : List ContentItem}
    (ended : Downloads config locator directory items before result) :
    ∃ lines, result.2.terminal = before.terminal.shows lines := by
  cases ended with
  | finished done after all downloaded => exact ⟨_, downloaded.terminal⟩
  | stopped done item rest between failure after cut downloaded missed =>
    exact ⟨_, missed.terminal.trans downloaded.terminal⟩

theorem Downloads.sent {locator : Locator} {items : List ContentItem}
    (ended : Downloads config locator directory items before result) :
    ∃ calls, before.channel.Sent calls result.2.channel := by
  cases ended with
  | finished done after all downloaded =>
    obtain ⟨calls, -, sent⟩ := downloaded.calls
    exact ⟨calls, sent⟩
  | stopped done item rest between failure after cut downloaded missed =>
    obtain ⟨calls, -, sent⟩ := downloaded.calls
    obtain ⟨answer, tried⟩ := missed.sent
    exact ⟨_, sent.trans tried⟩

theorem Download.shown (ended : Download config choice directory before result) :
    ∃ lines, result.2.terminal = before.terminal.shows lines := by
  cases ended with
  | unlocated absent => exact ⟨[], by simp [Terminal.shows]⟩
  | unlisted => exact ⟨[], by simp [Terminal.shows]⟩
  | listed locator answer channel entries _ located sent given ended => exact ended.shown

theorem settled_shown (ended : Download config choice directory before result) :
    ∃ lines, (settled choice result).2.terminal = before.terminal.shows lines := by
  obtain ⟨lines, shown⟩ := ended.shown
  rcases result with ⟨_ | _ | _, after⟩
  · exact ⟨lines, shown⟩
  · exact ⟨lines ++ [noContentLine choice], by simp_all [settled, Terminal.print, Terminal.shows]⟩
  · exact ⟨lines, shown⟩

theorem Download.first_call (ended : Download config choice directory before result) :
    ∃ calls, before.channel.Sent calls result.2.channel ∧
      (calls.map Prod.fst).head? =
        choice.locator?.map fun locator => (config.entriesCall locator).request config := by
  cases ended with
  | unlocated absent => exact ⟨[], .refl _, by rw [absent]; rfl⟩
  | unlisted locator answer channel error located sent failed => exact ⟨_, sent, by rw [located]; rfl⟩
  | listed locator answer channel entries _ located sent given ended =>
    obtain ⟨calls, later⟩ := ended.sent
    exact ⟨_, sent.trans later, by rw [located]; rfl⟩

end

def listedResults (answer : Answer) : List SearchResult :=
  match orBlank [] (readBody (readJson (Json.list SearchResult.schema.read)) (answer.bind Response.outcome)) with
  | .ok results => results
  | .error _ => []

theorem listedResults_of_gives {config : Config} {query : String} {answer : Answer} {results : List SearchResult}
    (given : (config.searchCall query).Gives answer results) : listedResults answer = results := by
  have outcome : orBlank [] (readBody (readJson (Json.list SearchResult.schema.read))
      (answer.bind Response.outcome)) = .ok results := (Call.outcome_eq_ok_iff _ _ _).2 given
  simp [listedResults, outcome]

-- No answer lists more results than a word can count. A list in memory never has more.
def Channel.Countable (channel : Channel) : Prop :=
  ∀ answer ∈ channel.answers, (listedResults answer).length ≤ Unsigned.word

instance (channel : Channel) : Decidable channel.Countable :=
  inferInstanceAs (Decidable (∀ answer ∈ channel.answers, (listedResults answer).length ≤ Unsigned.word))

theorem Channel.Countable.few {config : Config} {before after : Channel} {first : Request × Answer}
    {request : Request} {answer : Answer} {calls : List (Request × Answer)} {query : String}
    {results : List SearchResult} (countable : after.Countable)
    (sent : before.Sent (first :: (request, answer) :: calls) after)
    (given : (config.searchCall query).Gives answer results) : results.length ≤ Unsigned.word := by
  have few := countable answer (sent.mem (List.mem_cons_of_mem first List.mem_cons_self))
  rwa [listedResults_of_gives given] at few

theorem Progress.Step.named {config : Config} {options : SearchOptions} {tree : Tree} {terminal asked : Terminal}
    {answer : Answer} {name : String}
    (greeted : Progress.Step config options tree (.presets terminal) answer (.search name asked))
    (attended : terminal.isAttended = true) :
    ∃ presets lines, config.presetsCall.Gives answer presets ∧ Named options.name terminal.lines name lines ∧
      asked = terminal.after lines (presetLines presets) [] := by
  cases greeted with
  | presets _ _ _ presets _ given named typed alone =>
    obtain ⟨lines, taken, rfl⟩ := Terminal.name_ok named attended
    exact ⟨presets, lines, given, taken, by simp [Terminal.after, Terminal.shows]⟩

theorem PassedOver.zero_notMem {bound : Nat} {lines refusals : List String} (past : PassedOver bound lines refusals)
    (some : 0 < bound) : "0" ∉ lines :=
  fun typed => past.untaken "0" typed 0 (selects_toString some)

theorem Prompted.of_ending {config : Config} {options : SearchOptions} {start : World}
    {result : Except Failure Unit × World} (attended : start.terminal.isAttended = true)
    (fits : result.2.channel.Countable) (ending : Ending config options start result) :
    Prompted config options start result := by
  cases ending with
  | unanswered answer error channel sent failed => exact .unasked answer error _ sent rfl
  | unnamed answer presets fault channel terminal sent given unnamed =>
    obtain ⟨absent, empty, rfl, rfl⟩ := Terminal.name_error unnamed
    exact .unnamed answer presets _ absent empty sent given (by simp [Terminal.after, Terminal.shows])
  | unsearched first second name error channel terminal greeted sent failed =>
    obtain ⟨presets, lines, given, named, rfl⟩ := greeted.named attended
    exact .unsearched first second presets name lines error _ given named sent failed rfl
  | unmatched first second name channel terminal greeted sent none =>
    obtain ⟨presets, lines, given, named, rfl⟩ := greeted.named attended
    exact .unmatched first second presets name lines _ given named sent none (Terminal.shows_after ..)
  | unchosen first second name results fault channel terminal asked greeted sent given found unpicked =>
    obtain ⟨presets, lines, come, named, rfl⟩ := greeted.named attended
    rw [Terminal.shows_after] at unpicked
    have few := fits.few sent given
    obtain ⟨number, rest, refusals, taken, rfl, same⟩ := Terminal.askNumber_after attended few unpicked
    cases taken with
    | taken passed line _ _ index split past selects => cases same
    | ended _ past =>
      obtain rfl := Except.error.inj same
      have zero := past.zero_notMem (List.length_pos_of_ne_nil found)
      exact .unchosen first second presets name lines _ refusals results _ come named sent given found
        (listed_listing results) unpicked past zero rfl
  | chosen first second name results index channel terminal asked result greeted sent given picked ended =>
    obtain ⟨presets, lines, come, named, rfl⟩ := greeted.named attended
    rw [Terminal.shows_after] at picked
    obtain ⟨calls, more, next⟩ := ended.first_call
    have whole := sent.trans more
    rw [← channel_settled (results.get index)] at whole
    have few := fits.few whole given
    obtain ⟨number, rest, refusals, taken, rfl, same⟩ := Terminal.askNumber_after attended few picked
    obtain ⟨later, after⟩ := settled_shown ended
    rw [Terminal.shows_after] at after
    cases taken with
    | taken passed line _ _ _ split past selects =>
      obtain rfl := Except.ok.inj same
      subst split
      exact .chosen first second presets name passed line rest _ refusals later results index calls _ _ come named
        whole given (listed_listing results) picked past selects next after
    | ended _ past => cases same

namespace Sample

end Sample

end Catalog
