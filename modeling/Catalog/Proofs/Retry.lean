import Catalog.Proofs.Downloads

set_option autoImplicit false

namespace Catalog

namespace Tree

structure Same (tree other : Tree) : Prop where
  home : other.home = tree.home
  at? : ∀ place, other.at? place = tree.at? place

def AlikeOff (directory : String) (items : List ContentItem) (tree other : Tree) : Prop :=
  ∀ place, ¬ tree.Places directory items place → ¬ tree.Ways directory items place →
    other.at? place = tree.at? place

theorem saveAll_holds {tree saved : Tree} {directory : String} {done : List (ContentItem × List UInt8)}
    (stored : tree.saveAll directory done = some saved) :
    (∀ place, tree.Places directory (done.map Prod.fst) place → ∃ bytes, saved.at? place = some (.file bytes)) ∧
      ∀ place, tree.Ways directory (done.map Prod.fst) place → saved.at? place = some .directory := by
  induction done generalizing tree with
  | nil => simp
  | cons entry rest ih =>
    obtain ⟨item, bytes⟩ := entry
    rcases result : tree.save item directory bytes with ⟨_ | path, next⟩
    · simp [saveAll, result] at stored
    simp only [saveAll, result] at stored
    have present := at?_of_saved result
    have kept := (saveAll_grown stored).keeps
    have later := ih stored
    rw [places_eq (home_of_save result), ways_eq (home_of_save result)] at later
    constructor
    · intro place here
      rcases (places_cons ..).1 here with rfl | there
      · exact kept.file present.1
      · exact later.1 place there
    · intro place here
      rcases (ways_cons ..).1 here with onWay | there
      · exact kept.directory (present.2 place onWay)
      · exact later.2 place there

end Tree

namespace World

variable {config : Config} {span : Span} {locator : Locator} {directory : String}

theorem runDownloads_of_keeps {items : List ContentItem} {first final : World} {written : List (String × Nat)}
    {other : Tree} (finished : runDownloads config span locator directory items first = (.ok written, final))
    (home : other.home = first.tree.home) (more : first.tree.Keeps other) (within : other.Keeps final.tree)
    (alike : first.tree.AlikeOff directory items other) :
    ∃ again, runDownloads config span locator directory items { first with tree := other } =
        (.ok written, { final with tree := again }) ∧ final.tree.Same again := by
  -- The other tree keeps all of the first and lies within the last one, and the two differ only where items
  -- that are still to come will make them alike.
  induction items generalizing first written other with
  | nil =>
    rw [runDownloads_nil, Prod.mk.injEq] at finished
    obtain ⟨ended, rfl⟩ := finished
    exact ⟨other, by rw [runDownloads_nil, ended], home, fun place => alike place (by simp) (by simp)⟩
  | cons item rest ih =>
    rw [runDownloads_cons, perform_downloadItem] at finished ⊢
    rcases asked : first.channel.ask config span (config.downloadCall locator item) with ⟨error | bytes, channel⟩
    · simp [asked] at finished
    rcases result : first.tree.save item directory bytes with ⟨fault | path, saved⟩
    · simp [asked, result] at finished
    simp only [asked, result] at finished ⊢
    rcases later : runDownloads config span locator directory rest
      ⟨channel.record (savedEvent path bytes.length), first.terminal.print (savedLine item bytes), saved⟩ with
      ⟨failure | others, after⟩
    · simp [later] at finished
    simp only [later, Prod.mk.injEq, Except.ok.injEq] at finished
    obtain ⟨rfl, rfl⟩ := finished
    have ended := runDownloads_ends config span locator directory rest
      ⟨channel.record (savedEvent path bytes.length), first.terminal.print (savedLine item bytes), saved⟩
    rw [later] at ended
    obtain ⟨again, repeated, kept, inside⟩ := Tree.save_of_keeps result home more within ended.grown.keeps
    have sameHome : again.home = saved.home := by
      rw [Tree.home_of_save repeated, home, Tree.home_of_save result]
    have alikeAfter : saved.AlikeOff directory rest again := by
      intro place apart off
      rw [Tree.places_eq (Tree.home_of_save result)] at apart
      rw [Tree.ways_eq (Tree.home_of_save result)] at off
      apply Tree.save_alike result repeated home
      by_cases touched : place = item.place first.tree directory ∨ item.OnWay first.tree directory place
      · exact .inr touched
      · rw [not_or] at touched
        exact .inl (alike place (by simp [touched.1, apart]) (by simp [touched.2, off]))
    obtain ⟨last, rerun, same⟩ := ih later sameHome kept inside alikeAfter
    exact ⟨last, by simp [repeated, rerun], same⟩

theorem runDownload_listed {choice : SearchResult} (directory : String) (world : World) {entries : ContentEntries}
    (located : choice.locator? = some locator)
    (listed : (world.channel.ask config span (config.entriesCall locator)).1 = .ok entries) :
    runDownload config span choice directory world =
      runDownloads config span locator directory entries.items
        { world with channel := (world.channel.ask config span (config.entriesCall locator)).2 } := by
  rw [runDownload_eq]
  rcases asked : world.channel.ask config span (config.entriesCall locator) with ⟨_ | entries, channel⟩
  · simp [asked] at listed
  · rw [asked] at listed
    obtain rfl := Except.ok.inj listed
    simp [located, asked]

theorem exists_listed_of_ok {choice : SearchResult} {world final : World} {written : List (String × Nat)}
    (finished : runDownload config span choice directory world = (.ok written, final)) :
    ∃ locator entries, choice.locator? = some locator ∧
      (world.channel.ask config span (config.entriesCall locator)).1 = .ok entries := by
  rw [runDownload_eq] at finished
  cases located : choice.locator? with
  | none => simp [located] at finished
  | some locator =>
    rcases asked : world.channel.ask config span (config.entriesCall locator) with ⟨_ | entries, channel⟩
    · simp [located, asked] at finished
    · exact ⟨locator, entries, rfl, by rw [asked]⟩

theorem runDownload_grown {choice : SearchResult} (directory : String) (world : World) {entries : ContentEntries}
    (located : choice.locator? = some locator)
    (listed : ∀ others, (world.channel.ask config span (config.entriesCall locator)).1 = .ok others →
      others = entries) :
    Tree.Grown (world.tree.Places directory entries.items) (world.tree.Ways directory entries.items) world.tree
      (runDownload config span choice directory world).2.tree := by
  rcases asked : world.channel.ask config span (config.entriesCall locator) with ⟨error | others, channel⟩
  · have failed : (runDownload config span choice directory world).2.tree = world.tree := by
      rw [runDownload_eq]
      simp [located, asked]
    rw [failed]
    exact .refl _ _ _
  · have given : (world.channel.ask config span (config.entriesCall locator)).1 = .ok others := by rw [asked]
    rw [runDownload_listed directory world located given, listed others given]
    exact (runDownloads_ends config span locator directory entries.items
      { world with channel := (world.channel.ask config span (config.entriesCall locator)).2 }).grown

section

variable {laterConfig : Config} {laterSpan : Span} {choice : SearchResult} {first second final : World}
  {written : List (String × Nat)}

theorem runDownload_after
    (finished : runDownload laterConfig laterSpan choice directory second = (.ok written, final))
    (tree : second.tree = first.tree)
    (listed : ∀ locator entries, choice.locator? = some locator →
      (first.channel.ask config span (config.entriesCall locator)).1 = .ok entries →
        (second.channel.ask laterConfig laterSpan (laterConfig.entriesCall locator)).1 = .ok entries) :
    ∃ again, runDownload laterConfig laterSpan choice directory
          { second with tree := (runDownload config span choice directory first).2.tree } =
        (.ok written, { final with tree := again }) ∧ final.tree.Same again := by
  obtain ⟨locator, entries, located, given⟩ := exists_listed_of_ok finished
  -- The earlier run changed only what belongs to the items, and the later run ends with all of that in place.
  have left := runDownload_grown directory first located fun others asked =>
    Except.ok.inj ((listed locator others located asked).symm.trans given)
  generalize (runDownload config span choice directory first).2.tree = leftover at left ⊢
  rw [← tree] at left
  rw [runDownload_listed directory second located given] at finished
  rw [runDownload_listed directory { second with tree := leftover } located given]
  have ended := runDownloads_ends laterConfig laterSpan locator directory entries.items
    { second with channel := (second.channel.ask laterConfig laterSpan (laterConfig.entriesCall locator)).2 }
  rw [finished] at ended
  have kept := ended.grown.keeps
  cases ended with
  | finished done _ all downloaded =>
    obtain ⟨files, ways⟩ := Tree.saveAll_holds downloaded.tree
    rw [all] at files ways
    exact runDownloads_of_keeps finished left.home left.keeps (left.keeps_within kept files ways)
      fun place apart off => left.unchanged apart off

/-- A run that is finished is finished all the same after an earlier run over the same items, wherever that one
ended: it gives and shows the same and leaves the same tree. So does repeating it. -/
theorem runDownload_retried
    (finished : runDownload laterConfig laterSpan choice directory second = (.ok written, final))
    (tree : second.tree = first.tree)
    (listed : ∀ locator entries, choice.locator? = some locator →
      (first.channel.ask config span (config.entriesCall locator)).1 = .ok entries →
        (second.channel.ask laterConfig laterSpan (laterConfig.entriesCall locator)).1 = .ok entries) :
    (∃ again, runDownload laterConfig laterSpan choice directory
          { second with tree := (runDownload config span choice directory first).2.tree } =
        (.ok written, { final with tree := again }) ∧ final.tree.Same again) ∧
      ∃ still, runDownload laterConfig laterSpan choice directory { second with tree := final.tree } =
        (.ok written, { final with tree := still }) ∧ final.tree.Same still := by
  refine ⟨runDownload_after finished tree listed, ?_⟩
  have repeated := runDownload_after finished rfl fun _ _ _ given => given
  rw [finished] at repeated
  exact repeated

end

theorem runDownload_retried_second :
    ∃ final, runDownload Sample.config Sample.span Sample.choice "out" Sample.whole =
        (.ok [("out/a", 1), ("out/b", 2)], final) ∧
      (∃ again, runDownload Sample.config Sample.span Sample.choice "out"
            { Sample.whole with
              tree := (runDownload Sample.config Sample.span Sample.choice "out" Sample.broken).2.tree } =
          (.ok [("out/a", 1), ("out/b", 2)], { final with tree := again }) ∧ final.tree.Same again) ∧
      ∃ still, runDownload Sample.config Sample.span Sample.choice "out" { Sample.whole with tree := final.tree } =
        (.ok [("out/a", 1), ("out/b", 2)], { final with tree := still }) ∧ final.tree.Same still := by
  have result : (runDownload Sample.config Sample.span Sample.choice "out" Sample.whole).1.toOption =
      some [("out/a", 1), ("out/b", 2)] := by decide +kernel
  rcases ended : runDownload Sample.config Sample.span Sample.choice "out" Sample.whole with ⟨_ | written, final⟩
  · rw [ended] at result
    cases result
  · rw [ended] at result
    obtain rfl := Option.some.inj result
    exact ⟨final, rfl, runDownload_retried ended rfl fun _ _ _ given => given⟩

end World

end Catalog
