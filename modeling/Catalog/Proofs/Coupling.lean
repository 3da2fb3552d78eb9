import Catalog.Proofs.Stages

set_option autoImplicit false

namespace Catalog

def Channel.Agree (first second : Channel) : Prop :=
  ∀ (i : Nat) (answer other : Answer), first.answers[i]? = some answer → second.answers[i]? = some other →
    answer = other

def Channel.Before (channel later : Channel) : Prop :=
  channel.answers <+: later.answers

theorem Channel.Before.refl (channel : Channel) : channel.Before channel :=
  List.prefix_refl _

theorem Channel.Before.trans {first second third : Channel} (one : first.Before second) (two : second.Before third) :
    first.Before third :=
  List.IsPrefix.trans one two

theorem Channel.Agree.before {first second final last : Channel} (agree : final.Agree last)
    (one : first.Before final) (two : second.Before last) : first.Agree second := by
  obtain ⟨more, one⟩ := one
  obtain ⟨others, two⟩ := two
  intro i answer other here there
  have early := (List.getElem?_eq_some_iff.1 here).1
  have soon := (List.getElem?_eq_some_iff.1 there).1
  apply agree i
  · rw [← one, List.getElem?_append_left early, here]
  · rw [← two, List.getElem?_append_left soon, there]

structure World.Alike (alike : Channel → Channel → Prop) (first second : World) : Prop where
  terminal : second.terminal = first.terminal
  tree : second.tree = first.tree
  channel : alike first.channel second.channel

structure Coupled {α : Type} (alike : Channel → Channel → Prop) (first second : StateM World α) : Prop where
  first_before : ∀ world : World, world.channel.Before (first world).2.channel
  second_before : ∀ world : World, world.channel.Before (second world).2.channel
  alike : ∀ world other : World, World.Alike alike world other →
    (first world).2.channel.Agree (second other).2.channel →
      (second other).1 = (first world).1 ∧ World.Alike alike (first world).2 (second other).2

section

variable {alike : Channel → Channel → Prop} {ε α β : Type}

theorem Coupled.pure (x : α) : Coupled alike (pure x) (pure x) where
  first_before := fun world => .refl world.channel
  second_before := fun world => .refl world.channel
  alike := fun _ _ same _ => ⟨rfl, same⟩

theorem Coupled.bind {first second : StateM World α} {next after : α → StateM World β}
    (act : Coupled alike first second) (later : ∀ x, Coupled alike (next x) (after x)) :
    Coupled alike (first >>= next) (second >>= after) where
  first_before := fun world => (act.first_before world).trans ((later _).first_before _)
  second_before := fun world => (act.second_before world).trans ((later _).second_before _)
  alike := by
    intro world other same agree
    simp only [bind_apply] at agree ⊢
    -- Networks that agree in the end have agreed on every call before.
    have early := agree.before ((later _).first_before _) ((later _).second_before _)
    obtain ⟨given, still⟩ := act.alike world other same early
    rw [given] at agree ⊢
    exact (later _).alike _ _ still agree

theorem Coupled.onTerminal (act : Terminal → α × Terminal) :
    Coupled alike (World.onTerminal act) (World.onTerminal act) where
  first_before := fun world => .refl world.channel
  second_before := fun world => .refl world.channel
  alike := by
    intro world other same _
    dsimp only [World.onTerminal]
    rw [same.terminal]
    exact ⟨rfl, rfl, same.tree, same.channel⟩

theorem Coupled.onTree (act : Tree → α × Tree) : Coupled alike (World.onTree act) (World.onTree act) where
  first_before := fun world => .refl world.channel
  second_before := fun world => .refl world.channel
  alike := by
    intro world other same _
    dsimp only [World.onTree]
    rw [same.tree]
    exact ⟨rfl, same.terminal, rfl, same.channel⟩

theorem Coupled.onChannel {first second : Channel → α × Channel}
    (one : ∀ channel : Channel, channel.Before (first channel).2)
    (two : ∀ channel : Channel, channel.Before (second channel).2)
    (kept : ∀ channel other, alike channel other → (first channel).2.Agree (second other).2 →
      (second other).1 = (first channel).1 ∧ alike (first channel).2 (second other).2) :
    Coupled alike (World.onChannel first) (World.onChannel second) where
  first_before := fun world => one world.channel
  second_before := fun world => two world.channel
  alike := by
    intro world other same agree
    obtain ⟨given, still⟩ := kept _ _ same.channel agree
    exact ⟨given, same.terminal, same.tree, still⟩

theorem Coupled.forM {γ : Type} {first second : γ → StateM World PUnit} (act : ∀ x, Coupled alike (first x) (second x))
    (xs : List γ) : Coupled alike (xs.forM first) (xs.forM second) := by
  induction xs with
  | nil => exact .pure ()
  | cons x rest ih => exact (act x).bind fun _ => ih

theorem Coupled.exceptBind {first second : ExceptT ε (StateM World) α} {next after : α → ExceptT ε (StateM World) β}
    (act : Coupled alike first.run second.run) (later : ∀ x, Coupled alike (next x).run (after x).run) :
    Coupled alike (first >>= next).run (second >>= after).run := by
  change Coupled alike (first.run >>= ExceptT.bindCont next) (second.run >>= ExceptT.bindCont after)
  refine Coupled.bind act fun result => ?_
  cases result with
  | ok x => exact later x
  | error error => exact .pure _

theorem Coupled.map {first second : StateM World α} (act : Coupled alike first second) (change : α → β) :
    Coupled alike (do return change (← first)) (do return change (← second)) :=
  act.bind fun x => .pure (change x)

theorem Coupled.lift {first second : StateM World α} (act : Coupled alike first second) :
    Coupled alike (ExceptT.lift first : ExceptT ε (StateM World) α).run
      (ExceptT.lift second : ExceptT ε (StateM World) α).run :=
  act.map Except.ok

theorem Coupled.mapError {δ : Type} {first second : StateM World (Except δ α)} (act : Coupled alike first second)
    (change : δ → ε) :
    Coupled alike (ExceptT.mk do return (← first).mapError change : ExceptT ε (StateM World) α).run
      (ExceptT.mk do return (← second).mapError change : ExceptT ε (StateM World) α).run :=
  act.map fun result => result.mapError change

theorem Coupled.adapt {δ : Type} {first second : ExceptT δ (StateM World) α} (act : Coupled alike first.run second.run)
    (change : δ → ε) : Coupled alike (first.adapt change).run (second.adapt change).run :=
  act.map fun result => result.mapError change

theorem Coupled.keeps {kept : Channel → Prop} {act : StateM World α}
    (coupled : Coupled (fun first second => second = first ∧ kept first) act act) {world : World}
    (begun : kept world.channel) : kept (act world).2.channel := by
  have itself : (act world).2.channel.Agree (act world).2.channel := by
    intro i answer other here there
    exact Option.some.inj (here.symm.trans there)
  exact (coupled.alike world world ⟨rfl, rfl, rfl, begun⟩ itself).2.channel.2

end

section

variable {alike : Channel → Channel → Prop} {α : Type} {config other : Config} {span : Span}

theorem Channel.before_ask (channel : Channel) (call : Call α) :
    channel.Before (channel.ask config span call).2 := by
  unfold Channel.Before
  rw [Channel.answers_ask]
  exact List.prefix_append ..

theorem Coupled.ask {call another : Call α}
    (kept : ∀ first second : Channel, alike first second →
      (first.ask config span call).2.Agree (second.ask other span another).2 →
        (second.ask other span another).1 = (first.ask config span call).1 ∧
          alike (first.ask config span call).2 (second.ask other span another).2) :
    Coupled alike (((World.client config).withSpan span).ask call)
      (((World.client other).withSpan span).ask another) := by
  have lifted (config : Config) (call : Call α) : ((World.client config).withSpan span).ask call =
      World.onChannel fun channel => channel.ask config span call :=
    funext (World.ask_eq config span call)
  rw [lifted, lifted]
  exact .onChannel (fun channel => channel.before_ask call) (fun channel => channel.before_ask another) kept

theorem Coupled.record {event : Event}
    (kept : ∀ first second : Channel, alike first second → alike (first.logs [event]) (second.logs [event])) :
    Coupled alike (((World.client config).withSpan span).record event)
      (((World.client other).withSpan span).record event) := by
  change Coupled alike (World.onChannel fun channel => ((), channel.logs [event]))
    (World.onChannel fun channel => ((), channel.logs [event]))
  exact .onChannel (fun channel => .refl channel) (fun channel => .refl channel)
    fun first second same _ => ⟨rfl, kept first second same⟩

end

inductive Endpoint where
  | presets
  | search (query : String)
  | entries (locator : Locator)
  | download (locator : Locator) (item : UInt32)

inductive Reply where
  | presets (result : Except Error (List Preset))
  | search (result : Except Error (List SearchResult))
  | entries (result : Except Error ContentEntries)
  | download (result : Except Error (List UInt8))

section

variable {m : Type → Type} [Monad m]

def Client.call (client : Client m) : Endpoint → m Reply
  | .presets => return .presets (← client.presets)
  | .search query => return .search (← client.search query)
  | .entries locator => return .entries (← client.entries locator)
  | .download locator item => return .download (← client.download locator item)

def Client.callAll (client : Client m) : List Endpoint → m (List Reply)
  | [] => return []
  | endpoint :: rest => do
    let reply ← client.call endpoint
    let others ← client.callAll rest
    return reply :: others

end

structure Coupling (alike : Channel → Channel → Prop) (first second : Client (StateM World)) : Prop where
  presets : Coupled alike first.presets second.presets
  search : ∀ query, Coupled alike (first.search query) (second.search query)
  entries : ∀ locator, Coupled alike (first.entries locator) (second.entries locator)
  download : ∀ locator item, Coupled alike (first.download locator item) (second.download locator item)
  record : ∀ event, Coupled alike (first.record event) (second.record event)

namespace Coupling

open World (console disk)

variable {alike : Channel → Channel → Prop} {first second : Client (StateM World)}

theorem call (coupling : Coupling alike first second) (endpoint : Endpoint) :
    Coupled alike (first.call endpoint) (second.call endpoint) := by
  cases endpoint with
  | presets => exact coupling.presets.map Reply.presets
  | search query => exact (coupling.search query).map Reply.search
  | entries locator => exact (coupling.entries locator).map Reply.entries
  | download locator item => exact (coupling.download locator item).map Reply.download

theorem callAll (coupling : Coupling alike first second) (endpoints : List Endpoint) :
    Coupled alike (first.callAll endpoints) (second.callAll endpoints) := by
  induction endpoints with
  | nil => exact .pure []
  | cons endpoint rest ih => exact (coupling.call endpoint).bind fun reply => ih.map (reply :: ·)

theorem print (line : String) : Coupled alike (console.print line) (console.print line) :=
  .onTerminal fun terminal => ((), terminal.print line)

theorem askText (title : String) : Coupled alike (console.askText title) (console.askText title) :=
  .onTerminal Terminal.askText

theorem askNumber (title : String) (bound : Nat) :
    Coupled alike (console.askNumber title bound) (console.askNumber title bound) :=
  .onTerminal fun terminal => terminal.askNumber bound

theorem makeDirectories (path : String) : Coupled alike (disk.makeDirectories path) (disk.makeDirectories path) :=
  .onTree fun tree => tree.makeDirectories path.toList

theorem writeFile (path : String) (bytes : List UInt8) :
    Coupled alike (disk.writeFile path bytes) (disk.writeFile path bytes) :=
  .onTree fun tree => tree.writeFile path.toList bytes

theorem greet (coupling : Coupling alike first second) (name? : Option String) :
    Coupled alike (greet first console name?).run (greet second console name?).run := by
  refine .exceptBind (coupling.presets.mapError _) fun presets => ?_
  refine .exceptBind (.lift (.forM print _)) fun _ => ?_
  cases name? with
  | some name => exact .pure _
  | none => exact (askText _).mapError _

theorem find (coupling : Coupling alike first second) (query : String) :
    Coupled alike (find first query).run (find second query).run :=
  .exceptBind (.lift (coupling.record _)) fun _ => (coupling.search query).mapError _

theorem choose (coupling : Coupling alike first second) (results : List SearchResult) :
    Coupled alike (choose first console results).run (choose second console results).run := by
  refine .exceptBind (.lift (.forM print _)) fun _ => ?_
  refine .exceptBind ((askNumber _ _).mapError _) fun index => ?_
  exact .exceptBind (.lift (coupling.record _)) fun _ => .pure _

theorem save (coupling : Coupling alike first second) (item : ContentItem) (directory : String) (bytes : List UInt8) :
    Coupled alike (item.save disk first.record directory bytes).run
      (item.save disk second.record directory bytes).run := by
  unfold ContentItem.save
  cases item.refusal? directory with
  | some fault => exact .pure _
  | none =>
    have prepare : Coupled alike (disk.prepare (item.target directory)).run
        (disk.prepare (item.target directory)).run := by
      unfold Disk.prepare
      cases neededDirectory? (item.target directory) with
      | none => exact .pure _
      | some needed => exact (makeDirectories needed).mapError _
    refine .exceptBind prepare fun _ => ?_
    refine .exceptBind ((writeFile _ bytes).mapError _) fun _ => ?_
    exact .exceptBind (.lift (coupling.record _)) fun _ => .pure _

theorem downloadItem (coupling : Coupling alike first second) (locator : Locator) (directory : String)
    (item : ContentItem) :
    Coupled alike (downloadItem first console disk locator directory item).run
      (downloadItem second console disk locator directory item).run := by
  refine .exceptBind ((coupling.download locator item.id).mapError _) fun bytes => ?_
  refine .exceptBind ((coupling.save item directory bytes).adapt _) fun path => ?_
  exact .exceptBind (.lift (print _)) fun _ => .pure _

theorem downloadItems (coupling : Coupling alike first second) (locator : Locator) (directory : String)
    (items : List ContentItem) :
    Coupled alike (downloadItems first console disk locator directory items).run
      (downloadItems second console disk locator directory items).run := by
  induction items with
  | nil => exact .pure _
  | cons item rest ih =>
    refine .exceptBind (coupling.downloadItem locator directory item) fun written => ?_
    exact .exceptBind ih fun others => .pure _

theorem downloadChoice (coupling : Coupling alike first second) (choice : SearchResult) (directory : String) :
    Coupled alike (Catalog.download first console disk choice directory).run
      (Catalog.download second console disk choice directory).run := by
  unfold Catalog.download
  cases choice.locator? with
  | none => exact .pure _
  | some locator =>
    refine .exceptBind ((coupling.entries locator).mapError _) fun entries => ?_
    exact coupling.downloadItems locator directory entries.items

theorem deliver (coupling : Coupling alike first second) (directory : String) (choice : SearchResult) :
    Coupled alike (deliver first console disk directory choice).run
      (deliver second console disk directory choice).run := by
  refine .exceptBind (coupling.downloadChoice choice directory) fun written => ?_
  cases written with
  | nil => exact .lift (print _)
  | cons first others => exact .pure _

theorem session (coupling : Coupling alike first second) (options : SearchOptions) :
    Coupled alike (session first console disk options).run (session second console disk options).run := by
  refine .exceptBind (coupling.greet options.name) fun name => ?_
  refine .exceptBind (coupling.find (options.query name)) fun results => ?_
  cases results with
  | nil => exact .lift (print _)
  | cons best others =>
    refine .exceptBind (coupling.choose (best :: others)) fun choice => ?_
    exact coupling.deliver options.directory choice

end Coupling

def Config.headers (config : Config) : List Header :=
  (config.presetsCall.request config).headers

section

variable {config : Config} {span : Span} {kept : Channel → Prop}

theorem Coupling.of_asked (asked : Request → Prop) (presets : asked (config.presetsCall.request config))
    (search : ∀ query, asked ((config.searchCall query).request config))
    (entries : ∀ locator, asked ((config.entriesCall locator).request config))
    (download : ∀ locator item, asked ((config.downloadCall locator ⟨item, ""⟩).request config))
    (transmits : ∀ (channel : Channel) (request : Request), asked request → kept channel →
      kept (channel.transmit (some span) request).2)
    (logs : ∀ (channel : Channel) (events : List Event), kept channel → kept (channel.logs events)) :
    Coupling (fun first second => second = first ∧ kept first) ((World.client config).withSpan span)
      ((World.client config).withSpan span) := by
  -- One run stands on both sides, so agreement says nothing here.
  have asks {α : Type} (call : Call α) (request : asked (call.request config)) :
      Coupled (fun first second => second = first ∧ kept first) (((World.client config).withSpan span).ask call)
        (((World.client config).withSpan span).ask call) := by
    refine .ask ?_
    rintro _ channel ⟨rfl, begun⟩ _
    have handed : kept (channel.hand config span call).2 := transmits _ _ request (logs _ _ begun)
    rw [Channel.ask_eq]
    exact ⟨rfl, rfl, logs _ _ handed⟩
  constructor
  case presets => exact asks config.presetsCall presets
  case search => exact fun query => asks (config.searchCall query) (search query)
  case entries => exact fun locator => asks (config.entriesCall locator) (entries locator)
  case download => exact fun locator item => asks (config.downloadCall locator ⟨item, ""⟩) (download locator item)
  case record =>
    refine fun event => .record ?_
    rintro _ channel ⟨rfl, begun⟩
    exact ⟨rfl, logs _ _ begun⟩

theorem Coupling.of_kept
    (transmits : ∀ (channel : Channel) (request : Request), request.headers = config.headers → kept channel →
      kept (channel.transmit (some span) request).2)
    (logs : ∀ (channel : Channel) (events : List Event), kept channel → kept (channel.logs events)) :
    Coupling (fun first second => second = first ∧ kept first) ((World.client config).withSpan span)
      ((World.client config).withSpan span) :=
  .of_asked (·.headers = config.headers) rfl (fun _ => rfl) (fun _ => rfl) (fun _ _ => rfl) transmits logs

theorem World.runSession_keeps {options : SearchOptions} {start : World}
    (transmits : ∀ (channel : Channel) (request : Request), request.headers = config.headers → kept channel →
      kept (channel.transmit (some span) request).2)
    (logs : ∀ (channel : Channel) (events : List Event), kept channel → kept (channel.logs events))
    (begun : kept start.channel) : kept (runSession config span options start).2.channel :=
  ((Coupling.of_kept transmits logs).session options).keeps begun

end

structure Channel.Follows (script : List Answer) (exhausted : Answer) (channel : Channel) : Prop where
  transport : channel.transport = .scripted (script.drop channel.answers.length) exhausted
  answers : ∀ (i : Nat) (answer : Answer), channel.answers[i]? = some answer → answer = (script[i]?).getD exhausted

section

variable {script : List Answer} {exhausted : Answer}

theorem Channel.Follows.agree {first second : Channel} (one : first.Follows script exhausted)
    (two : second.Follows script exhausted) : first.Agree second :=
  fun i answer other here there => (one.answers i answer here).trans (two.answers i other there).symm

theorem Channel.Follows.transmit {channel : Channel} (follows : channel.Follows script exhausted) (span : Option Span)
    (request : Request) : (channel.transmit span request).2.Follows script exhausted := by
  have answered : (channel.transmit span request).1 = (script[channel.answers.length]?).getD exhausted ∧
      (channel.transmit span request).2.transport =
        .scripted (script.drop (channel.answers.length + 1)) exhausted := by
    rw [Channel.transmit, follows.transport, ← List.drop_drop]
    cases rest : script.drop channel.answers.length with
    | nil =>
      have ended : script[channel.answers.length]? = none := by rw [← List.head?_drop, rest, List.head?_nil]
      exact ⟨by rw [ended, Option.getD_none], follows.transport.trans (by rw [rest, List.drop_nil])⟩
    | cons answer answers =>
      have next : script[channel.answers.length]? = some answer := by rw [← List.head?_drop, rest, List.head?_cons]
      exact ⟨by rw [next, Option.getD_some], rfl⟩
  constructor
  case transport =>
    rw [Channel.answers_transmit, List.length_append, answered.2]
    rfl
  case answers =>
    intro i answer given
    rw [Channel.answers_transmit, List.getElem?_append] at given
    split_ifs at given with earlier
    · exact follows.answers i answer given
    · have last : i = channel.answers.length := by
        have short := (List.getElem?_eq_some_iff.1 given).1
        rw [List.length_singleton] at short
        omega
      rw [last, Nat.sub_self, List.getElem?_cons_zero] at given
      rw [last, ← answered.1]
      exact (Option.some.inj given).symm

end

theorem World.runSession_agree {script : List Answer} {exhausted : Answer} {config other : Config} {span another : Span}
    {options others : SearchOptions} {first second : World}
    (one : first.channel = .new (.scripted script exhausted))
    (two : second.channel = .new (.scripted script exhausted)) :
    (runSession config span options first).2.channel.Agree (runSession other another others second).2.channel := by
  have follows (config : Config) (span : Span) (options : SearchOptions) (start : World)
      (fresh : start.channel = .new (.scripted script exhausted)) :
      (runSession config span options start).2.channel.Follows script exhausted := by
    refine runSession_keeps (fun channel request _ kept => kept.transmit (some span) request)
      (fun channel events kept => ⟨kept.transport, kept.answers⟩) ?_
    rw [fresh]
    exact ⟨rfl, fun i answer given => by cases given⟩
  exact (follows config span options first one).agree (follows other another others second two)

end Catalog
