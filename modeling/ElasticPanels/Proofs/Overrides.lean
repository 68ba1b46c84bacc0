import ElasticPanels.Proofs.ComposedRequests
import ElasticPanels.Proofs.FailedRequests
import Mathlib.Data.List.DropRight

/-!
# Connections of requests

A request is answered over the connection that its headers name, or over the configured one, and
what belongs to the other makes no difference to it (`Service.connections_kept_apart`).  For all
that is done for a request is done on its own datasource (`Service.handle_of_asks`), and a
connection for one request alone has a jar of its own.  The address that is asked joins the server
and the path of the operation with one slash (`Joins`).  Another server and other credentials in
the environment change nothing but the configured connection (`Service.start_reconfigured`).
-/

namespace ElasticPanels

open Session

/-! ## Addresses -/

/-- The text is that of the server without slashes at its end, one slash, and that of the path
without slashes at its beginning. -/
def Joins (server path text : String) : Prop :=
  ∃ base trailing leading rest : List Char,
    server.toList = base ++ trailing ∧ path.toList = leading ++ rest ∧
      (∀ c ∈ trailing ++ leading, c = '/') ∧ base.getLast? ≠ some '/' ∧ rest.head? ≠ some '/' ∧
      text.toList = base ++ '/' :: rest

namespace Text

theorem toList_dropTrailing (c : Char) (s : String) :
    (dropTrailing c s).toList = s.toList.rdropWhile (· == c) := by
  rw [dropTrailing, String.toList_ofList, List.rdropWhile]

theorem dropTrailing_dropTrailing (c : Char) (s : String) :
    dropTrailing c (dropTrailing c s) = dropTrailing c s := by
  rw [← String.toList_inj, toList_dropTrailing, toList_dropTrailing, List.rdropWhile_idempotent]

end Text

namespace Connection

/-- The address of a resource joins the server and the path. -/
theorem joins_address (c : Connection) (path : String) : Joins c.url path (c.address path) := by
  refine ⟨c.url.toList.rdropWhile (· == '/'), c.url.toList.rtakeWhile (· == '/'),
    path.toList.takeWhile (· == '/'), path.toList.dropWhile (· == '/'),
    List.rdropWhile_append_rtakeWhile.symm, List.takeWhile_append_dropWhile.symm,
    ?slashes, ?base, ?rest, ?text⟩
  case slashes =>
    intro d mem
    rcases List.mem_append.1 mem with mem | mem
    · simpa using List.mem_rtakeWhile_imp mem
    · simpa using List.mem_takeWhile_imp mem
  case base =>
    intro last
    have some : c.url.toList.rdropWhile (· == '/') ≠ [] := by
      intro none
      rw [none] at last
      cases last
    have stops := List.rdropWhile_last_not _ _ some
    rw [List.getLast?_eq_some_getLast some, Option.some.injEq] at last
    exact stops (beq_iff_eq.2 last)
  case rest =>
    intro first
    have stops := List.head?_dropWhile_not (· == '/') path.toList
    rw [first] at stops
    cases stops
  case text => simp [address, base, Text.toList_dropTrailing, Text.dropLeading]

end Connection

/-! ## Headers -/

namespace Incoming

/-- The other request differs at most in the headers with the names. -/
structure SameBut (names : List String) (r other : Incoming) : Prop where
  method : other.method = r.method
  target : other.target = r.target
  body : other.body = r.body
  header : ∀ name ∉ names, other.header? name = r.header? name

/-- The headers that go with a server that a request names. -/
def serverHeaders : List String := ["x-es-user", "x-es-pass", "x-es-forward-cookies", "cookie"]

/-- What a request to an address is authorized with: the name and the password of the incoming
request if it has both, else only those that the address has in itself. -/
inductive Authorizes (r : Incoming) (url : Url) : Option String → Prop
  | named {username password : String} (name : r.header? "x-es-user" = some username)
    (secret : r.header? "x-es-pass" = some password) (known : username ≠ "" ∧ password ≠ "") :
    Authorizes r url (some (Connection.basic username password))
  | unnamed (unknown : (r.header? "x-es-user").all (·.isEmpty) ∨
      (r.header? "x-es-pass").all (·.isEmpty)) :
    Authorizes r url (url.credentials?.map fun found => Connection.basic found.1 found.2)

variable {r other : Incoming} {operation : Operation}

/-- A request asks for one operation only. -/
theorem Asks.unique {a b : Operation} (h : r.Asks a) (h' : r.Asks b) : a = b := by
  -- Either the paths differ, or what is read from the body or the query is the same.
  cases h <;> cases h' <;> simp_all

theorem SameBut.json (same : r.SameBut serverHeaders other) : other.json = r.json := by
  rw [Incoming.json, Incoming.json, same.body, same.header "content-type" (by decide)]

theorem SameBut.asks (same : r.SameBut serverHeaders other) (h : r.Asks operation) :
    other.Asks operation := by
  have json := same.json
  -- All that the checks read but the headers is the very same in both.
  obtain ⟨method, target, headers, body⟩ := other
  obtain ⟨rfl, rfl, rfl, -⟩ := same
  let other : Incoming := ⟨r.method, r.target, headers, r.body⟩
  have parameter : other.parameter? "key" = r.parameter? "key" := rfl
  have key : Service.checkKey other = Service.checkKey r := by
    simp only [Service.checkKey, parameter]
  cases h with
  | query path method read checked =>
    exact Asks.query (r := other) path method (json.trans read) checked
  | find path method read checked =>
    exact Asks.find (r := other) path method (json.trans read) checked
  | fields path method => exact Asks.fields (r := other) path method
  | tagKeys path method => exact Asks.tagKeys (r := other) path method
  | tagValues path method checked =>
    exact Asks.tagValues (r := other) path method (key.trans checked)
  | test path method => exact Asks.test (r := other) path method

/-- The server that a request names, if it does. -/
def server? (r : Incoming) : Option String := (r.header? "x-es-url").filter (!·.isEmpty)

/-- The connection of a request to a server of its own. -/
def connectionTo (r : Incoming) (forwards : Bool) (server : String) : Connection where
  url := Text.dropTrailing '/' server
  username := r.header? "x-es-user"
  password := r.header? "x-es-pass"
  cookies := if forwards then Cookies.parse ((r.header? "cookie").getD "") else []

theorem override_eq {forwards : Bool} (valid : r.forwardsCookies = .ok forwards) :
    r.override = .ok (r.server?.map (r.connectionTo forwards)) := by
  rw [Incoming.override, valid]
  rfl

theorem filter_eq_none_iff {value : Option String} :
    value.filter (!·.isEmpty) = none ↔ value.all (·.isEmpty) = true := by
  cases value <;> simp [Option.filter]

theorem authorizes_connectionTo (forwards : Bool) (server : String) (url : Url) :
    r.Authorizes url ((r.connectionTo forwards server).authorization url) := by
  rw [Connection.authorization, Connection.credentials?]
  dsimp only [connectionTo]
  cases name : (r.header? "x-es-user").filter (!·.isEmpty) with
  | none => exact .unnamed (.inl (filter_eq_none_iff.1 name))
  | some username =>
    cases secret : (r.header? "x-es-pass").filter (!·.isEmpty) with
    | none => exact .unnamed (.inr (filter_eq_none_iff.1 secret))
    | some password =>
      obtain ⟨name, known⟩ := Option.filter_eq_some_iff.1 name
      obtain ⟨secret, known'⟩ := Option.filter_eq_some_iff.1 secret
      exact .named name secret ⟨by simpa using known, by simpa using known'⟩

theorem server?_of_header {server : String} (given : r.header? "x-es-url" = some server)
    (known : server ≠ "") : r.server? = some server := by
  simp [server?, given, known]

theorem server?_of_all (unnamed : (r.header? "x-es-url").all (·.isEmpty)) : r.server? = none :=
  filter_eq_none_iff.2 unnamed

/-- A request for an operation does not ask for the counters. -/
theorem Asks.unread (h : r.Asks operation) : ¬ r.ReadsCounters := by
  rintro ⟨-, path | path⟩
  · have metrics : Endpoint.ofPath? r.path = some .metrics := by rw [path]; decide
    cases h <;> simp_all
  · have counters : Endpoint.ofPath? r.path = some .counters := by rw [path]; decide
    cases h <;> simp_all

end Incoming

/-! ## Services -/

/-- What a service reads from an environment without a NUL. -/
theorem Config.read_eq {environment : Entries String}
    (clean : (environment.any fun entry => entry.2.toList.contains '\x00') = false) :
    Config.read environment = (do
      let maximum ← (Json.str ((environment.get? "ES_MAX_CONCURRENT_SHARD_REQUESTS").getD
        "256")).wholeNumber
      let timeout ← readNumber ((environment.get? "ES_TIMEOUT").getD "30")
      return {
        url := (environment.get? "ES_URL").getD "http://elasticsearch:9200"
        index := (environment.get? "ES_INDEX").getD "logstash-*"
        version := (environment.get? "ES_VERSION").getD "5"
        maxConcurrentShardRequests := maximum
        timeField := (environment.get? "ES_TIME_FIELD").getD "@timestamp"
        username := (environment.get? "ES_USERNAME").filter (!·.isEmpty)
        password := (environment.get? "ES_PASSWORD").filter (!·.isEmpty)
        timeout }) := by
  rw [Config.read, clean]
  rfl

namespace Service

variable {s : Service} {r : Incoming} {operation : Operation}

/-- The service, configured with another server or other credentials. -/
def reconfigured (s : Service) (url : String) (username password : Option String) : Service :=
  { s with config := { s.config with url, username, password } }

/-- Another server and other credentials in the environment only reconfigure the service. -/
theorem start_reconfigured {environment other : Entries String}
    (started : start environment = .ok s) (clean : ∀ entry ∈ other, '\x00' ∉ entry.2.toList)
    (same : ∀ name ∉ ["ES_URL", "ES_USERNAME", "ES_PASSWORD"],
      other.get? name = environment.get? name) :
    ∃ url username password, start other = .ok (s.reconfigured url username password) := by
  obtain ⟨config, read, started⟩ := Outcome.bind_eq_ok.1 started
  obtain ⟨settings, checked, started⟩ := Outcome.bind_eq_ok.1 started
  obtain rfl := Outcome.pure_eq_ok.1 started
  have clean' : (other.any fun entry => entry.2.toList.contains '\x00') = false := by
    simpa using clean
  have clean : (environment.any fun entry => entry.2.toList.contains '\x00') = false := by
    cases nul : environment.any fun entry => entry.2.toList.contains '\x00' with
    | false => rfl
    | true =>
      rw [Config.read, nul] at read
      cases read
  rw [Config.read_eq clean] at read
  obtain ⟨maximum, hm, read⟩ := Outcome.bind_eq_ok.1 read
  obtain ⟨timeout, ht, read⟩ := Outcome.bind_eq_ok.1 read
  obtain rfl := Outcome.pure_eq_ok.1 read
  rw [start, Config.read_eq clean', same "ES_INDEX" (by decide), same "ES_VERSION" (by decide),
    same "ES_MAX_CONCURRENT_SHARD_REQUESTS" (by decide), same "ES_TIME_FIELD" (by decide),
    same "ES_TIMEOUT" (by decide)]
  exact ⟨_, _, _, Outcome.bind_eq_ok.2 ⟨_, Outcome.bind_eq_ok.2 ⟨_, hm,
    Outcome.bind_eq_ok.2 ⟨_, ht, rfl⟩⟩, Outcome.bind_eq_ok.2 ⟨settings, checked, rfl⟩⟩⟩

/-- The server that is asked for a request. -/
def server (s : Service) (r : Incoming) : String := r.server?.getD s.config.url

/-- The configured server makes no difference to a request that names another. -/
theorem handle_reconfigured {c : Connection} (named : r.override = .ok (some c))
    (asks : r.Asks operation) (url : String) (username password : Option String) :
    (s.reconfigured url username password).handle r = s.handle r := by
  have same : (s.reconfigured url username password).datasource (some c) =
      s.datasource (some c) := by simp only [datasource, reconfigured]
  rw [handle_of_asks named asks, handle_of_asks named asks, answerOn, answerOn, same]

/-- A run for a request that names a server depends on the time and on the reactions to come
alone. -/
theorem responds_of_named {c : Connection} (named : r.override = .ok (some c))
    (asks : r.Asks operation) (j : Journal) : s.Responds r j
      ((s.handle r).run.run { j.fresh with jar := .empty }).1
      ((s.handle r).run.run { j.fresh with jar := .empty }).2.sent := by
  have composed : Composed (s.Directs r) false (s.handle r) :=
    composed_handle asks.unread (.inr (by simp [named]))
  have apart := (composed.ignores_jar .empty j.fresh trivial).1
  have blind := composed.blind.run_eq j
  rw [Responds, apart, blind]
  exact ⟨rfl, rfl⟩

/-- What is sent first for a request is a request for the resource of its operation. -/
theorem exists_responds {override : Option Connection} (named : r.override = .ok override)
    (asks : r.Asks operation) (j : Journal) : ∃ answer new, s.Responds r j answer new ∧
      ∀ request ∈ new.head?, ∃ method path,
        operation.resource? (s.datasourceOf override) = some path ∧
          request.IsPrepared (s.datasourceOf override).connection method path := by
  have composed : Composed (s.Directs r) true (s.handle r) := composed_handle asks.unread (.inl rfl)
  obtain ⟨new, sent, first⟩ := composed.opens j
  refine ⟨_, new, ⟨rfl, sent⟩, fun request mem => ?_⟩
  obtain ⟨c, method, path, ⟨override', operation', named', asks', rfl, found⟩, prepared⟩ :=
    first request mem
  obtain rfl : override = override' := Checked.ok.inj (named.symm.trans named')
  obtain rfl : operation = operation' := asks.unique asks'
  exact ⟨method, path, found, prepared⟩

/-- The path of an operation is the same over all connections. -/
theorem resource?_datasourceOf (override : Option Connection) :
    operation.resource? (s.datasourceOf override) = operation.resource? (s.datasourceOf none) := by
  cases operation <;> rfl

theorem joins_server {forwards : Bool} (path : String) : Joins (s.server r) path
    ((s.datasourceOf (r.server?.map (r.connectionTo forwards))).connection.address path) := by
  rw [server]
  cases r.server? with
  | none => exact s.config.connection.joins_address path
  | some server =>
    have again : (Connection.mk server none none []).address path =
        (r.connectionTo forwards server).address path := by
      simp only [Connection.address, Connection.base, Incoming.connectionTo,
        Text.dropTrailing_dropTrailing]
    have joins := (Connection.mk server none none []).joins_address path
    rwa [again] at joins

/-- The configured connection and those of requests never mix.

* For a request that names a server, the configured server and credentials make no difference,
  wherever a session has come: the same answer is given and the same requests are sent, of which
  the first has no credentials but those of the request or of the address itself.
* For a request that does not, the headers that go with a server make no difference.
* The first request for the operation is sent to the address that joins the server and the path of
  the operation. -/
theorem connections_kept_apart (s : Service) {r : Incoming} {operation : Operation}
    {forwards : Bool} (asks : r.Asks operation) (valid : r.forwardsCookies = .ok forwards) :
    (∀ server, r.header? "x-es-url" = some server → server ≠ "" → ∀ now upstream, ∃ answer new,
      (∀ url username password (j : Journal), j.now = now → j.pending = upstream →
        (s.reconfigured url username password).Responds r j answer new) ∧
      ∀ request ∈ new.head?, r.Authorizes request.url request.authorization) ∧
    ((r.header? "x-es-url").all (·.isEmpty) → ∀ other forwards',
      r.SameBut Incoming.serverHeaders other → other.forwardsCookies = .ok forwards' →
      s.handle other = s.handle r) ∧
    ∀ j, ∃ answer new, s.Responds r j answer new ∧ ∀ request ∈ new.head?, ∃ path text,
      operation.resource? (s.datasourceOf none) = some path ∧ Joins (s.server r) path text ∧
        Url.taken text = .ok request.url := by
  have named := Incoming.override_eq valid
  refine ⟨fun server given known now upstream => ?_, fun unnamed other forwards' same valid' => ?_,
    fun j => ?_⟩
  · rw [Incoming.server?_of_header given known] at named
    let first : Journal := ⟨now, upstream, [], [], [], .empty⟩
    obtain ⟨answer, new, responds, prepared⟩ := exists_responds (s := s) named asks first
    refine ⟨answer, new, ?_, fun request mem => ?_⟩
    · rintro url username password j rfl rfl
      have alone := responds_of_named (s := s) named asks j
      have begun : ({ j.fresh with jar := .empty } : Journal) = first := rfl
      obtain ⟨rfl, sent⟩ := responds
      rw [begun, sent, List.nil_append] at alone
      rwa [Responds, handle_reconfigured named asks]
    · obtain ⟨method, path, -, prepared⟩ := prepared request mem
      rw [prepared.authorization]
      exact r.authorizes_connectionTo forwards server request.url
  · rw [Incoming.server?_of_all unnamed] at named
    have named' := Incoming.override_eq valid'
    have server : other.header? "x-es-url" = r.header? "x-es-url" := same.header _ (by decide)
    rw [Incoming.server?_of_all (server ▸ unnamed)] at named'
    rw [handle_of_asks named' (same.asks asks), handle_of_asks named asks]
    rfl
  · obtain ⟨answer, new, responds, prepared⟩ := exists_responds (s := s) named asks j
    refine ⟨answer, new, responds, fun request mem => ?_⟩
    obtain ⟨method, path, found, prepared⟩ := prepared request mem
    have target := prepared.target
    rw [Connection.target] at target
    exact ⟨path, _, resource?_datasourceOf _ ▸ found, joins_server path, target⟩

end Service

/-- A request for all fields of another server. -/
def fieldsElsewhere : Incoming :=
  ⟨"GET", "/api/fields", [("X-ES-URL", "http://other:9200//"), ("X-ES-User", "reader")], ""⟩

/-- The fields of another server are asked for in the same way whatever server is configured, and
without a password nothing tells who asks for them. -/
theorem fieldsElsewhere_apart : fieldsElsewhere.Asks (.fields .null) ∧
    fieldsElsewhere.forwardsCookies = .ok false ∧
    fieldsElsewhere.header? "x-es-url" = some "http://other:9200//" ∧
    (∃ answer new,
      (∀ url username password (j : Journal), j.now = 0 → j.pending = [.failure .connect "gone"] →
        (someService.reconfigured url username password).Responds fieldsElsewhere j answer new) ∧
      ∀ request ∈ new.head?, fieldsElsewhere.Authorizes request.url request.authorization) ∧
    ∃ answer new, someService.Responds fieldsElsewhere .blank answer new ∧
      ∀ request ∈ new.head?, ∃ path text,
        (Operation.fields .null).resource? (someService.datasourceOf none) = some path ∧
          Joins "http://other:9200//" path text ∧ Url.taken text = .ok request.url := by
  have unfiltered : Json.ofText? (fieldsElsewhere.parameter? "type") = .null := by
    with_unfolding_all rfl
  have asks : fieldsElsewhere.Asks (.fields .null) := unfiltered ▸ .fields (by decide +kernel) rfl
  have valid : fieldsElsewhere.forwardsCookies = .ok false := by
    have unsaid : fieldsElsewhere.header? "x-es-forward-cookies" = none := by decide +kernel
    rw [Incoming.forwardsCookies, unsaid]
  have server : fieldsElsewhere.header? "x-es-url" = some "http://other:9200//" := by
    decide +kernel
  have asked : someService.server fieldsElsewhere = "http://other:9200//" := by
    rw [Service.server, Incoming.server?_of_header server (by decide)]
    rfl
  obtain ⟨apart, -, joins⟩ := Service.connections_kept_apart someService asks valid
  rw [asked] at joins
  exact ⟨asks, valid, server, apart _ server (by decide) 0 [.failure .connect "gone"],
    joins .blank⟩

end ElasticPanels
