import Catalog.Proofs.Addresses
import Catalog.Proofs.Misconfiguration
import Catalog.Proofs.Served

set_option autoImplicit false

namespace Catalog

namespace Exchange

def withParameters (exchange : Exchange) (pairs : List Form.Pair) : Exchange :=
  pairs.foldl (fun exchange pair => exchange.withParameter pair.name pair.value) exchange

def asking (exchange : Exchange) (pairs : List Form.Pair) : Exchange :=
  { exchange with query := some pairs }

theorem url_request (exchange : Exchange) (config : Config) (timeout : Timeout) :
    (exchange.request config timeout).url = exchange.url config.baseUrl :=
  rfl

theorem url_asking (exchange : Exchange) (baseUrl : String) (pairs : List Form.Pair) :
    (exchange.asking pairs).url baseUrl = baseUrl ++ exchange.path ++ "?" ++ Form.encode pairs :=
  rfl

theorem request_search (config : Config) (query : String) : (config.searchCall query).request config =
    ((config.endpoint "/search/aql").asking [⟨"query", query⟩]).request config config.timeout :=
  rfl

theorem withParameters_asking (exchange : Exchange) (before pairs : List Form.Pair) :
    (exchange.asking before).withParameters pairs = exchange.asking (before ++ pairs) := by
  induction pairs generalizing before with
  | nil => rw [List.append_nil]; rfl
  | cons pair rest ih =>
    have first : (exchange.asking before).withParameter pair.name pair.value = exchange.asking (before ++ [pair]) := rfl
    calc (exchange.asking before).withParameters (pair :: rest)
        = ((exchange.asking before).withParameter pair.name pair.value).withParameters rest := rfl
      _ = exchange.asking (before ++ pair :: rest) := by rw [first, ih, List.append_assoc, List.singleton_append]

theorem withParameters_eq {exchange : Exchange} (unasked : exchange.query = none) {pairs : List Form.Pair}
    (some : pairs ≠ []) : exchange.withParameters pairs = exchange.asking pairs := by
  cases pairs with
  | nil => exact absurd rfl some
  | cons pair rest =>
    have first : exchange.withParameter pair.name pair.value = exchange.asking [pair] := by
      rw [withParameter, unasked]
      rfl
    calc exchange.withParameters (pair :: rest)
        = (exchange.withParameter pair.name pair.value).withParameters rest := rfl
      _ = exchange.asking (pair :: rest) := by rw [first, withParameters_asking, List.singleton_append]

theorem url_asking_injective {exchange : Exchange} {baseUrl : String} {pairs others : List Form.Pair}
    (same : (exchange.asking pairs).url baseUrl = (exchange.asking others).url baseUrl) : pairs = others := by
  rw [url_asking, url_asking] at same
  exact Form.encode_injective (String.append_right_inj _ |>.1 same)

end Exchange

namespace Wire

def Message.parameters? (message : Message) : Option (List Form.Pair) :=
  (Text.cut '?' message.target.toList).2.bind Form.read

theorem parameters_sent {agent : String} {server : Server} {replies : List Reply} {config : Config} {timeout : Timeout}
    {exchange : Exchange} {pairs : List Form.Pair} {message : Message} (some : pairs ≠ [])
    (bare : '?' ∉ (config.baseUrl ++ exchange.path).toList ∧ '#' ∉ (config.baseUrl ++ exchange.path).toList)
    (sent : (send agent server replies ((exchange.asking pairs).request config timeout)).2.1 = .some message) :
    message.parameters? = .some pairs := by
  obtain ⟨address, checked, owned, rfl⟩ := send_arrived sent
  have text : (exchange.asking pairs).url config.baseUrl =
      String.ofList ((config.baseUrl ++ exchange.path).toList ++ '?' :: Form.encodePairs pairs) := by
    rw [Exchange.url_asking]
    apply String.toList_injective
    simp [Form.encode]
  have read := read_of_check checked
  rw [Exchange.url_request, text] at read
  -- A server is reached over one scheme only, whose addresses always have a path.
  have http : address.scheme = "http" := by
    simp only [Server.owns, Bool.and_eq_true, beq_iff_eq] at owned
    exact owned.1.1
  have inert : ∀ c ∈ Form.encodePairs pairs, Url.isQueryChar c = true := fun c member =>
    Form.isQueryChar_of_isFormChar (Form.mem_encodePairs pairs c member)
  obtain ⟨query, rest, path⟩ := Url.read_query inert bare read http
  have free : '?' ∉ address.path.toList := path ▸ Url.notMem_pathAfter rest
  have target : (Wire.message agent ((exchange.asking pairs).request config timeout) address).target.toList =
      address.path.toList ++ '?' :: (Form.encode pairs).toList := by
    change address.target.toList = _
    simp [Url.Address.target, query, Form.encode]
  rw [Message.parameters?, target, Text.cut_append _ _ _ free]
  exact Form.read_encode some

end Wire

/-- Parameters are read by the server as they were given, whatever they are made of. -/
theorem Exchange.parameters_arrive (config : Config) (timeout : Timeout) (exchange : Exchange) :
    (∀ pairs : List Form.Pair, ∃ form : String,
      ((exchange.asking pairs).request config timeout).url = config.baseUrl ++ exchange.path ++ "?" ++ form ∧
        (∀ c ∈ form.toList, Form.isFormChar c = true) ∧ (pairs ≠ [] → Form.read form.toList = some pairs)) ∧
    (∀ pairs others : List Form.Pair, ((exchange.asking pairs).request config timeout).url =
      ((exchange.asking others).request config timeout).url → pairs = others) ∧
    (exchange.query = none → ∀ pairs, pairs ≠ [] → exchange.withParameters pairs = exchange.asking pairs) ∧
    ∀ query : String,
      (∃ form : String, ((config.searchCall query).request config).url =
          config.baseUrl ++ "/search/aql" ++ "?" ++ form ∧ Form.read form.toList = some [⟨"query", query⟩]) ∧
      ('?' ∉ config.baseUrl.toList ∧ '#' ∉ config.baseUrl.toList →
        ∀ (agent : String) (server : Wire.Server) (replies : List Wire.Reply) (message : Wire.Message),
          (Wire.send agent server replies ((config.searchCall query).request config)).2.1 = some message →
            message.parameters? = some [⟨"query", query⟩]) := by
  refine ⟨fun pairs => ⟨Form.encode pairs, rfl, ?_, fun some => Form.read_encode some⟩, ?_, ?_,
    fun query => ⟨?_, ?_⟩⟩
  · intro c member
    rw [Form.encode, String.toList_ofList] at member
    exact Form.mem_encodePairs pairs c member
  · exact fun pairs others same => url_asking_injective same
  · exact fun unasked pairs some => withParameters_eq unasked some
  · exact ⟨Form.encode [⟨"query", query⟩], rfl, Form.read_encode (List.cons_ne_nil _ _)⟩
  · intro bare agent server replies message sent
    rw [request_search] at sent
    refine Wire.parameters_sent (List.cons_ne_nil _ _) ?_ sent
    have path : (config.endpoint "/search/aql").path = "/search/aql" := rfl
    rw [path, String.toList_append, List.mem_append, List.mem_append, not_or, not_or]
    exact ⟨⟨bare.1, by decide⟩, bare.2, by decide⟩

namespace Sample

def page : Exchange := .new "/p"

def parameters : List Form.Pair := [⟨"a&b", "c=d +#"⟩, ⟨"", "é%"⟩, ⟨"", "é%"⟩]

end Sample

theorem Exchange.parameters_arrive_second :
    Sample.parameters ≠ [] ∧
      (∃ form : String, (Sample.page.asking Sample.parameters).url "http://h" = "http://h" ++ "/p" ++ "?" ++ form ∧
        Form.read form.toList = some Sample.parameters) ∧
      (Sample.page.asking Sample.parameters).url "http://h" ≠ (Sample.page.asking []).url "http://h" ∧
      Sample.page.withParameters Sample.parameters = Sample.page.asking Sample.parameters ∧
      ∃ message, (Wire.send "" Sample.server [] (((Sample.signed "s").searchCall "é&").request
          (Sample.signed "s"))).2.1 = some message ∧ message.parameters? = some [⟨"query", "é&"⟩] := by
  have some : Sample.parameters ≠ [] := List.cons_ne_nil _ _
  have sent : (Wire.send "" Sample.server [] (((Sample.signed "s").searchCall "é&").request
      (Sample.signed "s"))).2.1.isSome = true := by decide +kernel
  obtain ⟨message, sent⟩ := Option.isSome_iff_exists.1 sent
  obtain ⟨given, unique, set, -⟩ :=
    parameters_arrive { Sample.config with baseUrl := "http://h" } Sample.config.timeout Sample.page
  obtain ⟨form, url, -, read⟩ := given Sample.parameters
  obtain ⟨-, -, -, search⟩ := parameters_arrive (Sample.signed "s") Sample.config.timeout Sample.page
  exact ⟨some, ⟨form, url, read some⟩, fun same => some (unique _ _ same), set rfl _ some, message, sent,
    (search "é&").2 (by decide) "" Sample.server [] message sent⟩

end Catalog
