import Catalog.Proofs.Coupling
import Catalog.Proofs.Forms
import Catalog.Proofs.Locators

set_option autoImplicit false

namespace Catalog

namespace Endpoint

def request (config : Config) : Endpoint → Request
  | .presets => config.presetsCall.request config
  | .search query => (config.searchCall query).request config
  | .entries locator => (config.entriesCall locator).request config
  | .download locator item => (config.downloadCall locator ⟨item, ""⟩).request config

end Endpoint

inductive Resource where
  | presets
  | search
  | entries
  | download
  deriving DecidableEq, Repr

def Resource.path : Resource → String
  | .presets => "/search/aql/presets"
  | .search => "/search/aql?"
  | .entries => "/search/entries/"
  | .download => "/search/bin/"

namespace Endpoint

def resource : Endpoint → Resource
  | .presets => .presets
  | .search _ => .search
  | .entries _ => .entries
  | .download _ _ => .download

def detail : Endpoint → List Char
  | .presets => []
  | .search query => (Form.encode [⟨"query", query⟩]).toList
  | .entries locator => locator.id.toList ++ '/' :: (toString locator.category).toList
  | .download locator item =>
    (locator.id.toList ++ '/' :: (toString locator.category).toList) ++ '/' :: (toString item).toList

end Endpoint

-- Each path ends where it is told apart from the others.
theorem Resource.eq_of_isPrefix {first second : Resource} (starts : first.path.toList <+: second.path.toList) :
    first = second := by
  revert starts
  cases first <;> cases second <;> decide

theorem Resource.split_path {first second : Resource} {rest other : List Char}
    (same : first.path.toList ++ rest = second.path.toList ++ other) : first = second ∧ rest = other := by
  have alike : first = second := by
    have before : first.path.toList <+: second.path.toList ++ other := same ▸ List.prefix_append _ _
    rcases List.prefix_or_prefix_of_prefix before (List.prefix_append _ _) with starts | starts
    · exact eq_of_isPrefix starts
    · exact (eq_of_isPrefix starts).symm
  subst alike
  exact ⟨rfl, List.append_cancel_left same⟩

theorem Text.split_last {mark : Char} {front back other last : List Char} (free : mark ∉ back) (alone : mark ∉ last)
    (same : front ++ mark :: back = other ++ mark :: last) : front = other ∧ back = last := by
  have pieces := congrArg (splitAt mark) same
  rw [splitAt_append, splitAt_append, splitAt_of_notMem mark back free, splitAt_of_notMem mark last alone] at pieces
  obtain ⟨before, after⟩ := List.append_inj' pieces rfl
  refine ⟨?_, List.singleton_inj.1 after⟩
  rw [← joinWith_splitAt mark front, before, joinWith_splitAt]

namespace Endpoint

theorem slash_notMem_toString (n : UInt32) : '/' ∉ (toString n).toList :=
  fun member => (isPathChar_of_isDigit (isDigit_toString n _ member)).2 rfl

theorem split_number {front other : List Char} {n k : UInt32}
    (same : front ++ '/' :: (toString n).toList = other ++ '/' :: (toString k).toList) : front = other ∧ n = k := by
  obtain ⟨before, numbers⟩ := Text.split_last (slash_notMem_toString _) (slash_notMem_toString _) same
  exact ⟨before, toString_injective (String.toList_injective numbers)⟩

theorem eq_of_id {locator other : Locator} (id : locator.id.toList = other.id.toList)
    (category : locator.category = other.category) : locator = other := by
  obtain ⟨text, number⟩ := locator
  obtain ⟨again, other⟩ := other
  cases String.toList_injective id
  cases category
  rfl

theorem eq_of_detail {first second : Endpoint} (resource : first.resource = second.resource)
    (same : first.detail = second.detail) : first = second := by
  cases first with
  | presets =>
    cases second with
    | presets => rfl
    | _ => cases resource
  | search query =>
    cases second with
    | search other =>
      cases Form.encode_injective (String.toList_injective same)
      rfl
    | _ => cases resource
  | entries locator =>
    cases second with
    | entries other =>
      obtain ⟨id, category⟩ := split_number same
      rw [eq_of_id id category]
    | _ => cases resource
  | download locator item =>
    cases second with
    | download other number =>
      obtain ⟨front, items⟩ := split_number same
      obtain ⟨id, category⟩ := split_number front
      rw [eq_of_id id category, items]
    | _ => cases resource

section

variable (config : Config) (endpoint : Endpoint)

theorem url_request : (endpoint.request config).url.toList =
    config.baseUrl.toList ++ (endpoint.resource.path.toList ++ endpoint.detail) := by
  cases endpoint with
  | presets => rw [request, url_presets, resource, Resource.path, detail, List.append_nil]
  | search query => rw [request, url_search, resource, Resource.path, detail]
  | entries locator =>
    rw [request, url_entries, resource, Resource.path, detail]
    simp
  | download locator item =>
    rw [request, url_download, resource, Resource.path, detail]
    simp

theorem sent_call (span : Span) (channel : Channel) :
    ∃ answer, channel.Sent [(endpoint.request config, answer)]
      (((Client.over config).withSpan span).call endpoint channel).2 := by
  have once {α : Type} (call : Call α) :
      ∃ answer, channel.Sent [(call.request config, answer)] (channel.ask config span call).2 := by
    obtain ⟨answer, sent, -⟩ := channel.ask_sent config span call
    exact ⟨answer, sent⟩
  cases endpoint with
  | presets => exact once config.presetsCall
  | search query => exact once (config.searchCall query)
  | entries locator => exact once (config.entriesCall locator)
  | download locator item => exact once (config.downloadCall locator ⟨item, ""⟩)

end

/-- Each call sends one request, and two calls send requests to the same address exactly if they are the same call. -/
theorem told_by_url (config : Config) (span : Span) (first second : Endpoint) (channel other : Channel) :
    ∃ request again : Request,
      (∃ answer, channel.Sent [(request, answer)] (((Client.over config).withSpan span).call first channel).2) ∧
      (∃ answer, other.Sent [(again, answer)] (((Client.over config).withSpan span).call second other).2) ∧
      (request.url = again.url ↔ first = second) := by
  refine ⟨_, _, first.sent_call config span channel, second.sent_call config span other, ?_, ?_⟩
  · intro same
    have urls := congrArg String.toList same
    rw [url_request, url_request] at urls
    obtain ⟨resource, detail⟩ := Resource.split_path (List.append_cancel_left urls)
    exact eq_of_detail resource detail
  · rintro rfl
    rfl

end Endpoint

end Catalog
