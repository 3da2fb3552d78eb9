import Catalog.Proofs.Forms
import Catalog.Proofs.Queries
import Catalog.Proofs.Sessions

set_option autoImplicit false

namespace Catalog

def plan (config : Config) (query : String) (locator : Locator) (items : List ContentItem) : List Request :=
  config.presetsRequest :: config.searchRequest query :: config.entriesRequest locator ::
    items.map (config.downloadRequest locator)

-- What a title is searched for with, and that a server reads it from the address.
structure TitleQuery (options : SearchOptions) (name query : String) : Prop where
  built : query = buildQuery (titleFilters name options.kind options.category)
  text : query = "(name:\"" ++ name ++ "\") & (type:" ++ options.kind ++ ") & (category:" ++ options.category ++ ")"
  read : Form.read (Form.encode [⟨"query", query⟩]).toList = some [⟨"query", query⟩]

structure Request.Plain (config : Config) (request : Request) : Prop where
  method : request.method = .get
  body : request.body = none
  timeout : request.timeout = config.timeout.duration
  bounded : request.timeout ≠ .zero
  headers : request.headers =
    match config.cookie with
    | some cookie =>
      [⟨"cookie", cookie⟩, ⟨"origin", config.baseUrl⟩, ⟨"accept", "text/html"⟩, ⟨"cache-control", "max-age=0"⟩]
    | none => []

theorem plain_getting (config : Config) (url : String) : Request.Plain config (config.getting url) :=
  ⟨rfl, rfl, rfl, config.timeout.nonzero, rfl⟩

theorem buildQuery_titleFilters (name kind category : String) : buildQuery (titleFilters name kind category) =
    "(name:\"" ++ name ++ "\") & (type:" ++ kind ++ ") & (category:" ++ category ++ ")" := by
  apply String.toList_injective
  rw [toList_titleQuery]
  simp [nameEnd, kindEnd]

theorem titleQuery (options : SearchOptions) (name : String) :
    TitleQuery options name (buildQuery (titleFilters name options.kind options.category)) where
  built := rfl
  text := buildQuery_titleFilters name options.kind options.category
  read := Form.read_encode (List.cons_ne_nil _ _)

section

variable {config : Config} {options : SearchOptions} {tree : Tree} {calls : List (Request × Answer)}

theorem Course.first {progress : Progress} {request : Request} (course : Course config options tree progress calls)
    (next : progress.request? config options = some request) :
    calls.map Prod.fst <+: [request] ∨
      ∃ answer further later, Progress.Step config options tree progress answer further ∧
        Course config options tree further later ∧ calls = (request, answer) :: later := by
  cases course with
  | ended => exact .inl List.nil_prefix
  | last answer same =>
    obtain rfl := Option.some.inj (next.symm.trans same)
    exact .inl (List.prefix_refl _)
  | step same led later =>
    obtain rfl := Option.some.inj (next.symm.trans same)
    exact .inr ⟨_, _, _, led, later, rfl⟩

theorem Course.downloads_isPrefix {locator : Locator} {items : List ContentItem} {before : Tree}
    (course : Course config options tree (.downloads locator items before) calls) :
    calls.map Prod.fst <+: items.map (config.downloadRequest locator) := by
  induction items generalizing before calls with
  | nil =>
    cases course with
    | ended => exact List.nil_prefix
    | last answer next => cases next
    | step next led later => cases next
  | cons item rest ih =>
    rcases course.first rfl with short | ⟨answer, further, later, led, course, rfl⟩
    · exact short.trans (by simp)
    · cases led with
      | download => exact List.cons_prefix_cons.2 ⟨rfl, ih course⟩

theorem Course.entries_isPrefix {locator : Locator} (course : Course config options tree (.entries locator) calls) :
    ∃ items : List ContentItem, calls.map Prod.fst <+:
      config.entriesRequest locator :: items.map (config.downloadRequest locator) := by
  rcases course.first rfl with short | ⟨answer, further, later, led, course, rfl⟩
  · exact ⟨[], short⟩
  · cases led with
    | entries _ _ entries given =>
      exact ⟨entries.items, List.cons_prefix_cons.2 ⟨rfl, course.downloads_isPrefix⟩⟩

theorem Course.isPrefix {terminal : Terminal} (course : Course config options tree (.presets terminal) calls) :
    ∃ name query locator items, TitleQuery options name query ∧
      calls.map Prod.fst <+: plan config query locator items := by
  rcases course.first rfl with short | ⟨answer, further, later, led, course, rfl⟩
  · exact ⟨"", _, ⟨"", 0⟩, [], titleQuery options "", short.trans (by simp [plan])⟩
  cases led with
  | presets _ asked _ presets name given named typed alone =>
    rcases course.first rfl with short | ⟨answer, further, later, led, course, rfl⟩
    · exact ⟨name, _, ⟨"", 0⟩, [], titleQuery options name, List.cons_prefix_cons.2 ⟨rfl, short.trans (by simp)⟩⟩
    cases led with
    | search _ _ chosen _ results index locator given picked typed located =>
      obtain ⟨items, later⟩ := course.entries_isPrefix
      exact ⟨name, _, locator, items, titleQuery options name,
        List.cons_prefix_cons.2 ⟨rfl, List.cons_prefix_cons.2 ⟨rfl, later⟩⟩⟩

end

theorem toString_injective {n k : UInt32} (same : toString n = toString k) : n = k := by
  have digits : Nat.toDigits 10 n.toNat = Nat.toDigits 10 k.toNat := String.ofList_injective same
  have values := congrArg (Nat.ofDigitChars 10 · 0) digits
  simp only [Nat.ofDigitChars_toDigits (by decide : 1 < 10) (by decide : 10 ≤ 10)] at values
  exact UInt32.toNat_inj.1 values

section

variable (config : Config) (query : String) (locator : Locator) (item : ContentItem)

theorem url_presets : (config.presetsCall.request config).url.toList =
    config.baseUrl.toList ++ "/search/aql/presets".toList :=
  String.toList_append

theorem url_search : ((config.searchCall query).request config).url.toList =
    config.baseUrl.toList ++ ("/search/aql?".toList ++ (Form.encode [⟨"query", query⟩]).toList) := by
  change (config.baseUrl ++ "/search/aql" ++ "?" ++ Form.encode [⟨"query", query⟩]).toList = _
  simp

theorem url_entries : ((config.entriesCall locator).request config).url.toList =
    config.baseUrl.toList ++
      ("/search/entries/".toList ++ (locator.id ++ "/" ++ toString locator.category).toList) := by
  change (config.baseUrl ++ ("/search/entries/" ++ locator.id ++ "/" ++ toString locator.category)).toList = _
  simp

theorem url_download : ((config.downloadCall locator item).request config).url.toList =
    config.baseUrl.toList ++ ("/search/bin/".toList ++
      ((locator.id ++ "/" ++ toString locator.category ++ "/").toList ++ (toString item.id).toList)) := by
  change (config.baseUrl ++ ("/search/bin/" ++ locator.id ++ "/" ++ toString locator.category ++ "/" ++
    toString item.id)).toList = _
  simp

variable {config query locator}

end

end Catalog
