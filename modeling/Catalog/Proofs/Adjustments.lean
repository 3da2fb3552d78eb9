import Catalog.Exchange

set_option autoImplicit false

namespace Catalog

inductive Aspect where
  | query
  | body
  | contentType
  | method
  | cookie
  deriving DecidableEq, Repr

inductive Adjustment where
  | parameter (pair : Form.Pair)
  | body (text : String)
  | contentType (type : String)
  | method (method : Method)
  | cookie (cookie : Option String)
  deriving DecidableEq, Repr

namespace Adjustment

def aspect : Adjustment → Aspect
  | .parameter _ => .query
  | .body _ => .body
  | .contentType _ => .contentType
  | .method _ => .method
  | .cookie _ => .cookie

def parameter? : Adjustment → Option Form.Pair
  | .parameter pair => some pair
  | _ => none

def body? : Adjustment → Option String
  | .body text => some text
  | _ => none

def contentType? : Adjustment → Option String
  | .contentType type => some type
  | _ => none

def method? : Adjustment → Option Method
  | .method given => some given
  | _ => none

def cookie? : Adjustment → Option (Option String)
  | .cookie given => some given
  | _ => none

def last? {α : Type} (value? : Adjustment → Option α) (adjustments : List Adjustment) : Option α :=
  (adjustments.filterMap value?).getLast?

structure Agree (first second : List Adjustment) : Prop where
  parameters : second.filterMap parameter? = first.filterMap parameter?
  body : last? body? second = last? body? first
  contentType : (last? contentType? second).getD "application/json" =
    (last? contentType? first).getD "application/json"
  method : last? method? second = last? method? first
  cookie : (last? cookie? second).getD none = (last? cookie? first).getD none

def Rearranged (first second : List Adjustment) : Prop :=
  ∀ aspect : Aspect, second.filter (·.aspect = aspect) = first.filter (·.aspect = aspect)

theorem filterMap_filter_aspect {α : Type} {value? : Adjustment → Option α} {aspect : Aspect}
    (only : ∀ adjustment : Adjustment, adjustment.aspect ≠ aspect → value? adjustment = none)
    (adjustments : List Adjustment) :
    (adjustments.filter (·.aspect = aspect)).filterMap value? = adjustments.filterMap value? := by
  induction adjustments with
  | nil => rfl
  | cons adjustment rest ih =>
    by_cases concerned : adjustment.aspect = aspect
    · simp [concerned, List.filterMap_cons, ih]
    · simp [concerned, ih, only adjustment concerned]

section

variable {α : Type} {value? : Adjustment → Option α} {first second : List Adjustment}

theorem Rearranged.filterMap_eq (rearranged : Rearranged first second) (aspect : Aspect)
    (only : ∀ adjustment : Adjustment, adjustment.aspect ≠ aspect → value? adjustment = none) :
    second.filterMap value? = first.filterMap value? := by
  rw [← filterMap_filter_aspect only second, rearranged aspect, filterMap_filter_aspect only]

theorem Rearranged.last?_eq (rearranged : Rearranged first second) (aspect : Aspect)
    (only : ∀ adjustment : Adjustment, adjustment.aspect ≠ aspect → value? adjustment = none) :
    last? value? second = last? value? first := by
  rw [last?, rearranged.filterMap_eq aspect only, last?]

theorem Rearranged.agree (rearranged : Rearranged first second) : Agree first second where
  parameters := rearranged.filterMap_eq .query fun adjustment other => by cases adjustment <;> trivial
  body := rearranged.last?_eq .body fun adjustment other => by cases adjustment <;> trivial
  contentType := by rw [rearranged.last?_eq .contentType fun adjustment other => by cases adjustment <;> trivial]
  method := rearranged.last?_eq .method fun adjustment other => by cases adjustment <;> trivial
  cookie := by rw [rearranged.last?_eq .cookie fun adjustment other => by cases adjustment <;> trivial]

end

end Adjustment

attribute [ext] Exchange

namespace Exchange

open Adjustment (last? parameter? body? contentType? method? cookie?)

def adjust (exchange : Exchange) : Adjustment → Exchange
  | .parameter pair => exchange.withParameter pair.name pair.value
  | .body text => exchange.withBody text
  | .contentType type => exchange.withContentType type
  | .method method => exchange.withMethod method
  | .cookie cookie => exchange.withCookie cookie

def adjustAll (exchange : Exchange) (adjustments : List Adjustment) : Exchange :=
  adjustments.foldl adjust exchange

theorem adjustAll_last {α : Type} (part : Exchange → Option α) (value? : Adjustment → Option α)
    (step : ∀ (exchange : Exchange) (adjustment : Adjustment),
      part (exchange.adjust adjustment) = (value? adjustment).or (part exchange))
    (exchange : Exchange) (adjustments : List Adjustment) :
    part (exchange.adjustAll adjustments) = (last? value? adjustments).or (part exchange) := by
  induction adjustments generalizing exchange with
  | nil => rfl
  | cons adjustment rest ih =>
    have later : part (exchange.adjustAll (adjustment :: rest)) =
        (last? value? rest).or ((value? adjustment).or (part exchange)) := by
      rw [← step]
      exact ih (exchange.adjust adjustment)
    -- What comes later wins over this adjustment, and this one over what was there before.
    rw [later, last?, last?, List.filterMap_cons]
    cases value? adjustment with
    | none => rfl
    | some value => cases found : (rest.filterMap value?).getLast? <;> simp [List.getLast?_cons, found]

def addPairs (query : Option (List Form.Pair)) : List Form.Pair → Option (List Form.Pair)
  | [] => query
  | pairs => some (query.getD [] ++ pairs)

theorem addPairs_cons (query : Option (List Form.Pair)) (pair : Form.Pair) (rest : List Form.Pair) :
    addPairs query (pair :: rest) = addPairs (some (query.getD [] ++ [pair])) rest := by
  cases rest <;> simp [addPairs]

section

variable (exchange : Exchange) (adjustments : List Adjustment)

theorem path_adjustAll : (exchange.adjustAll adjustments).path = exchange.path := by
  induction adjustments generalizing exchange with
  | nil => rfl
  | cons adjustment rest ih =>
    have kept : (exchange.adjust adjustment).path = exchange.path := by cases adjustment <;> rfl
    exact (ih (exchange.adjust adjustment)).trans kept

theorem body_adjustAll : (exchange.adjustAll adjustments).body = (last? body? adjustments).or exchange.body :=
  adjustAll_last Exchange.body body? (fun _ adjustment => by cases adjustment <;> rfl) exchange adjustments

theorem method_adjustAll : (exchange.adjustAll adjustments).method = (last? method? adjustments).or exchange.method :=
  adjustAll_last Exchange.method method? (fun _ adjustment => by cases adjustment <;> rfl) exchange adjustments

theorem contentType_adjustAll : (exchange.adjustAll adjustments).contentType =
    (last? contentType? adjustments).getD exchange.contentType := by
  have present := adjustAll_last (fun exchange => some exchange.contentType) contentType?
    (fun _ adjustment => by cases adjustment <;> rfl) exchange adjustments
  rw [Option.or_some] at present
  exact Option.some.inj present

theorem cookie_adjustAll : (exchange.adjustAll adjustments).cookie =
    (last? cookie? adjustments).getD exchange.cookie := by
  have present := adjustAll_last (fun exchange => some exchange.cookie) cookie?
    (fun _ adjustment => by cases adjustment <;> rfl) exchange adjustments
  rw [Option.or_some] at present
  exact Option.some.inj present

theorem query_adjustAll : (exchange.adjustAll adjustments).query =
    addPairs exchange.query (adjustments.filterMap parameter?) := by
  induction adjustments generalizing exchange with
  | nil => rfl
  | cons adjustment rest ih =>
    have later : (exchange.adjustAll (adjustment :: rest)).query =
        addPairs (exchange.adjust adjustment).query (rest.filterMap parameter?) := ih (exchange.adjust adjustment)
    rw [later]
    cases adjustment with
    | parameter pair => exact (addPairs_cons exchange.query pair _).symm
    | body | contentType | method | cookie => rfl

end

def adjusted (path : String) (adjustments : List Adjustment) : Exchange where
  path := path
  body := last? body? adjustments
  query := addPairs none (adjustments.filterMap parameter?)
  contentType := (last? contentType? adjustments).getD "application/json"
  method := last? method? adjustments
  cookie := (last? cookie? adjustments).getD none

theorem adjustAll_new (path : String) (adjustments : List Adjustment) :
    (Exchange.new path).adjustAll adjustments = adjusted path adjustments := by
  ext1
  case path => exact path_adjustAll _ _
  case body => exact (body_adjustAll _ _).trans Option.or_none
  case query => exact query_adjustAll _ _
  case contentType => exact contentType_adjustAll _ _
  case method => exact (method_adjustAll _ _).trans Option.or_none
  case cookie => exact cookie_adjustAll _ _

theorem adjusted_of_agree {first second : List Adjustment} (agree : Adjustment.Agree first second) (path : String) :
    adjusted path second = adjusted path first := by
  rw [adjusted, agree.body, agree.parameters, agree.contentType, agree.method, agree.cookie, adjusted]

structure Made (config : Config) (path : String) (timeout : Timeout) (adjustments : List Adjustment)
    (request : Request) : Prop where
  given : ∀ method, last? method? adjustments = some method → request.method = method
  inferred : last? method? adjustments = none →
    (request.method = .post ↔ ∃ text, Adjustment.body text ∈ adjustments) ∧
      (request.method = .get ↔ ¬ ∃ text, Adjustment.body text ∈ adjustments)
  url : request.url = config.baseUrl ++ path ++
    match adjustments.filterMap parameter? with
    | [] => ""
    | pairs => "?" ++ Form.encode pairs
  body : request.body = (last? body? adjustments).map fun text => Utf8.encode text.toList
  typed : (∃ header ∈ request.headers, header.name = "Content-Type") ↔ ∃ text, Adjustment.body text ∈ adjustments
  headers : request.headers =
    (match last? body? adjustments with
      | some _ => [⟨"Content-Type", (last? contentType? adjustments).getD "application/json"⟩]
      | none => []) ++
    match last? cookie? adjustments with
      | some (some cookie) => [⟨"cookie", cookie⟩, ⟨"origin", config.baseUrl⟩, ⟨"accept", "text/html"⟩,
        ⟨"cache-control", "max-age=0"⟩]
      | _ => []
  timeout : request.timeout = timeout.duration

theorem isSome_body_iff (adjustments : List Adjustment) :
    (last? body? adjustments).isSome = true ↔ ∃ text, Adjustment.body text ∈ adjustments := by
  rw [last?, List.getLast?_isSome]
  constructor
  · intro some
    obtain ⟨text, member⟩ := List.exists_mem_of_ne_nil _ some
    obtain ⟨adjustment, there, found⟩ := List.mem_filterMap.1 member
    cases adjustment with
    | body text => exact ⟨text, there⟩
    | parameter | contentType | method | cookie => cases found
  · rintro ⟨text, member⟩
    exact List.ne_nil_of_mem (List.mem_filterMap.2 ⟨_, member, rfl⟩)

theorem made_request (config : Config) (path : String) (timeout : Timeout) (adjustments : List Adjustment) :
    Made config path timeout adjustments ((adjusted path adjustments).request config timeout) := by
  have posts := isSome_body_iff adjustments
  constructor
  case given =>
    intro method last
    rw [request, adjusted, last]
    rfl
  case inferred =>
    intro none
    rw [← posts, request, adjusted, none]
    cases last? body? adjustments <;> simp
  case url =>
    rw [request, url, adjusted]
    cases adjustments.filterMap parameter? with
    | nil => simp [addPairs]
    | cons pair rest => simp [addPairs, String.append_assoc]
  case body => rfl
  case typed =>
    rw [← posts, request, headers, adjusted]
    cases last? body? adjustments <;> cases (last? cookie? adjustments).getD none <;> simp [sessionHeaders]
  case headers =>
    rw [request, headers, adjusted]
    rcases last? cookie? adjustments with _ | _ | cookie
    · cases last? body? adjustments <;> rfl
    · cases last? body? adjustments <;> rfl
    · cases last? body? adjustments <;> rfl
  case timeout => rfl

/-- A request depends on what its adjustments come to, and so not on the order of those of different aspects. -/
theorem adjusted_in_any_order (config : Config) (path : String) (timeout : Timeout) (adjustments : List Adjustment) :
    Made config path timeout adjustments (((Exchange.new path).adjustAll adjustments).request config timeout) ∧
    (∀ others, Adjustment.Agree adjustments others →
      ((Exchange.new path).adjustAll others).request config timeout =
        ((Exchange.new path).adjustAll adjustments).request config timeout) ∧
    ∀ others, Adjustment.Rearranged adjustments others →
      ((Exchange.new path).adjustAll others).request config timeout =
        ((Exchange.new path).adjustAll adjustments).request config timeout := by
  have agreeing (others : List Adjustment) (agree : Adjustment.Agree adjustments others) :
      ((Exchange.new path).adjustAll others).request config timeout =
        ((Exchange.new path).adjustAll adjustments).request config timeout := by
    rw [adjustAll_new, adjustAll_new, adjusted_of_agree agree]
  refine ⟨?_, agreeing, fun others rearranged => agreeing others rearranged.agree⟩
  rw [adjustAll_new]
  exact made_request config path timeout adjustments

end Exchange

namespace Sample

def patience : Timeout := ⟨⟨5, 0⟩, by decide⟩

def draft : List Adjustment :=
  [.contentType "text/plain", .parameter ⟨"a", "1"⟩, .cookie (some "s"), .body "x", .method .put, .body "y",
    .cookie none, .parameter ⟨"b", "2"⟩, .cookie (some "t")]

-- The type of the body is given after it, and the parameters come last.
def redraft : List Adjustment :=
  [.body "x", .body "y", .cookie (some "s"), .method .put, .contentType "text/plain", .cookie none,
    .cookie (some "t"), .parameter ⟨"a", "1"⟩, .parameter ⟨"b", "2"⟩]

def fair : List Adjustment :=
  [.parameter ⟨"a", "1"⟩, .parameter ⟨"b", "2"⟩, .cookie (some "t"), .method .put, .contentType "text/plain", .body "y"]

end Sample

theorem Exchange.adjusted_in_any_order_second :
    Adjustment.Rearranged Sample.draft Sample.redraft ∧ Adjustment.Agree Sample.draft Sample.fair ∧
      ((Exchange.new "/p").adjustAll Sample.redraft).request (.new "http://h" Sample.patience) Sample.patience =
        ((Exchange.new "/p").adjustAll Sample.draft).request (.new "http://h" Sample.patience) Sample.patience ∧
      ((Exchange.new "/p").adjustAll Sample.fair).request (.new "http://h" Sample.patience) Sample.patience =
        ((Exchange.new "/p").adjustAll Sample.draft).request (.new "http://h" Sample.patience) Sample.patience := by
  have rearranged : Adjustment.Rearranged Sample.draft Sample.redraft := by
    intro aspect
    cases aspect <;> rfl
  have agree : Adjustment.Agree Sample.draft Sample.fair := ⟨rfl, rfl, rfl, rfl, rfl⟩
  obtain ⟨-, agreeing, ordered⟩ :=
    adjusted_in_any_order (.new "http://h" Sample.patience) "/p" Sample.patience Sample.draft
  exact ⟨rearranged, agree, ordered _ rearranged, agreeing _ agree⟩

end Catalog
