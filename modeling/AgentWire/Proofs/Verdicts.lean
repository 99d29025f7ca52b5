import AgentWire.Cli.Run
import AgentWire.Proofs.AsciiText
import AgentWire.Proofs.Outcomes

/-! What the check of an agent ends with. Both endpoints are asked in order and both are reported,
whatever the agent does, provided that the headers of the configured source can be sent. A
configuration is accepted even where they cannot, and then the check ends in a fault before anything
is sent. -/
namespace AgentWire

theorem mapError_eq_ok_iff {ε φ α : Type} {f : ε → φ} {x : Except ε α} {a : α} :
    x.mapError f = .ok a ↔ x = .ok a := by
  cases x <;> simp [Except.mapError]

/-! Which headers can be sent. -/

namespace Headers

theorem asciiBytes_ok_iff {cs : List Char} :
    (∃ bytes, asciiBytes cs = .ok bytes) ↔ ∀ c ∈ cs, c.toNat < 0x80 := by
  unfold asciiBytes
  cases found : cs.findIdx? fun c => 0x80 ≤ c.toNat with
  | none =>
    refine iff_of_true ⟨_, rfl⟩ fun c inside => ?_
    have below := List.findIdx?_eq_none_iff.mp found c inside
    simpa using below
  | some start =>
    refine iff_of_false (fun ⟨_, same⟩ => by cases same) fun each => ?_
    obtain ⟨inside, above, _⟩ := List.findIdx?_eq_some_iff_getElem.mp found
    have below := each cs[start] (List.getElem_mem inside)
    simp only [decide_eq_true_eq] at above
    omega

theorem sendable_of_ascii {cs : List Char} (ascii : AsciiText cs) :
    ∃ bytes, sendable (.str (String.ofList cs)) = .ok bytes := by
  refine asciiBytes_ok_iff.mpr fun c inside => ?_
  rw [String.toList_ofList] at inside
  exact Nat.lt_trans (ascii c inside).lt (by decide)

theorem configText_ok_iff {config : Datum} {text : String} :
    configText config = .ok text ↔ ∃ j, config.toJson = .ok j ∧ text = j.text ⟨.compact, true⟩ :=
  map_eq_ok_iff

theorem configText_sendable {config : Datum} {text : String}
    (written : configText config = .ok text) :
    ∃ bytes, sendable (.str text) = .ok bytes := by
  obtain ⟨j, _, rfl⟩ := configText_ok_iff.mp written
  exact sendable_of_ascii (Json.write_ascii _ _ _)

end Headers

/-- What a configuration sends about its source can be sent: the source's own configuration is JSON,
and its name is missing, text in ASCII or bytes. -/
structure Config.Sendable (c : Config) : Prop where
  source : ∀ m, c.source = some m → ∃ j, m.toDatum.toJson = .ok j
  name : c.sourceName = .null ∨ ∃ bytes, Headers.sendable c.sourceName = .ok bytes

namespace Headers

/-- The header for the name of a source. -/
def ofName : Datum → Headers
  | .null => []
  | d => [(sourceName, d)]

theorem mem_ofName_iff {name : Datum} {h : String × Datum} :
    h ∈ ofName name ↔ name ≠ .null ∧ h = (sourceName, name) := by
  cases name <;> simp [ofName]

theorem ofSource_null (name : Datum) :
    ofSource .null name = .ok (("Accept", .str "application/json") :: ofName name) := by
  cases name <;> rfl

theorem ofSource_map (m : Mapping) (name : Datum) :
    ofSource m.toDatum name = (configText m.toDatum).map fun text =>
      ("Accept", .str "application/json") :: (configName, .str text) :: ofName name := by
  unfold ofSource Mapping.toDatum
  dsimp only
  generalize configText (.map m.mark m.entries) = written
  cases written with
  | error f => rfl
  | ok text => cases name <;> rfl

theorem sent_ok_iff {hs : Headers} :
    (∃ out, hs.sent = .ok out) ↔ ∀ h ∈ hs, ∃ bytes, sendable h.2 = .ok bytes := by
  unfold sent
  induction hs with
  | nil => exact iff_of_true ⟨[], rfl⟩ fun h inside => by cases inside
  | cons h rest ih =>
    rw [List.forall_mem_cons, ← ih, List.mapM_cons]
    dsimp only
    generalize sendable h.2 = first
    generalize List.mapM (m := Except HeaderFault) _ rest = later
    cases first with
    | error f => simp [Except.map, bind, Except.bind]
    | ok bytes =>
      cases later with
      | error f => simp [Except.map, bind, Except.bind]
      | ok out => simp [Except.map, bind, Except.bind, pure, Except.pure]

theorem accept_sendable : ∃ bytes, sendable (.str "application/json") = .ok bytes :=
  ⟨_, rfl⟩

theorem ofName_sendable_iff {name : Datum} :
    (∀ h ∈ ofName name, ∃ bytes, sendable h.2 = .ok bytes) ↔
      name = .null ∨ ∃ bytes, sendable name = .ok bytes := by
  by_cases null : name = .null
  · exact iff_of_true (fun h inside => absurd null (mem_ofName_iff.mp inside).1) (.inl null)
  · simp [mem_ofName_iff, null]

end Headers

/-- A client has headers to send if those of its source are made, and each of them can be sent. -/
theorem AgentClient.sends_iff {c : AgentClient} : (∃ headers, c.Sends headers) ↔
    ∃ hs, Headers.ofSource c.config c.sourceName = .ok hs ∧
      ∀ h ∈ hs, ∃ bytes, Headers.sendable h.2 = .ok bytes := by
  constructor
  · rintro ⟨out, hs, made, sent⟩
    exact ⟨hs, mapError_eq_ok_iff.mp made, Headers.sent_ok_iff.mp ⟨out, sent⟩⟩
  · rintro ⟨hs, made, each⟩
    obtain ⟨out, sent⟩ := Headers.sent_ok_iff.mpr each
    exact ⟨out, hs, mapError_eq_ok_iff.mpr made, sent⟩

/-- An address alone does not help a request whose headers cannot be sent. -/
theorem AgentClient.request_unsendable {c : AgentClient} {path : String} {url : Url}
    (unsent : ∀ headers, ¬ c.Sends headers) (address : c.address path = .ok url) (m : Method)
    (body : Option Json) (n : Nat) : ∃ f, c.request m path body n = .error (.header f) := by
  obtain ⟨u, target, _⟩ := bind_eq_ok_iff.mp address
  have read := mapError_eq_ok_iff.mp target
  unfold request
  cases made : Headers.ofSource c.config c.sourceName with
  | error f =>
    exact ⟨f, by simp only [headers, made, Except.mapError, bind, Except.bind]⟩
  | ok hs =>
    cases sent : hs.sent with
    | error f =>
      exact ⟨f, by simp only [headers, made, read, sent, Except.mapError, bind, Except.bind]⟩
    | ok out =>
      exact absurd ⟨hs, by rw [headers, made]; rfl, sent⟩ (unsent out)

namespace Cli

/-- The client of a check sends headers exactly if the configuration can be sent. -/
theorem clientFor_sends_iff {c : Config} (url : String) :
    (∃ headers, (clientFor c url).Sends headers) ↔ c.Sendable := by
  have sends : (∃ headers, (clientFor c url).Sends headers) ↔ ∃ hs,
      Headers.ofSource ((c.source.map Mapping.toDatum).getD .null) c.sourceName = .ok hs ∧
        ∀ h ∈ hs, ∃ bytes, Headers.sendable h.2 = .ok bytes :=
    AgentClient.sends_iff
  rw [sends]
  cases source : c.source with
  | none =>
    simp only [Option.map_none, Option.getD_none, Headers.ofSource_null, Except.ok.injEq,
      exists_eq_left', List.forall_mem_cons, Headers.accept_sendable, true_and,
      Headers.ofName_sendable_iff]
    exact ⟨fun name => ⟨fun m given => by simp [source] at given, name⟩, fun able => able.name⟩
  | some m =>
    simp only [Option.map_some, Option.getD_some, Headers.ofSource_map]
    constructor
    · rintro ⟨hs, made, each⟩
      obtain ⟨text, written, rfl⟩ := map_eq_ok_iff.mp made
      obtain ⟨j, json, _⟩ := Headers.configText_ok_iff.mp written
      simp only [List.forall_mem_cons] at each
      refine ⟨fun other given => ?_, Headers.ofName_sendable_iff.mp each.2.2⟩
      cases source.symm.trans given
      exact ⟨j, json⟩
    · intro able
      obtain ⟨j, json⟩ := able.source m source
      have written := Headers.configText_ok_iff.mpr ⟨j, json, rfl⟩
      rw [written]
      refine ⟨_, rfl, ?_⟩
      simp only [List.forall_mem_cons]
      exact ⟨Headers.accept_sendable, Headers.configText_sendable written,
        Headers.ofName_sendable_iff.mpr able.name⟩

/-! One endpoint after another. -/

theorem lines_cons (line : String) (rest : List String) :
    lines (line :: rest) = line ++ "\n" ++ lines rest := by
  have join (a : String) (ls : List String) : ls.foldl (· ++ ·) a = a ++ ls.foldl (· ++ ·) "" := by
    induction ls generalizing a with
    | nil => simp
    | cons l ls ih => rw [List.foldl_cons, List.foldl_cons, ih, ih ("" ++ l), String.empty_append,
        String.append_assoc]
  rw [lines, lines, List.map_cons, String.join, List.foldl_cons, join, String.empty_append]
  rfl

/-- The line that reports an endpoint. -/
def reportLine (e : Endpoint) : Except CallFault Value → String
  | .ok _ => e.name ++ ": ok"
  | .error f => e.name ++ ": FAILED - " ++ f.message

/-- The call of an endpoint without a request. -/
def asking (w : World) (client : AgentClient) (e : Endpoint) : Outcome Value :=
  client.call e (AgentClient.bodyOf e none) w.agent

/-- A call has come to a value or to a finding about the agent. -/
def Decided (result : Except CallFault Value) : Prop :=
  ∀ f, result = .error f → isFinding f = true

theorem probe_cons {w : World} {client : AgentClient} {failures : Bool} {e : Endpoint}
    {rest : List Endpoint} (decided : Decided (asking w client e).result) :
    probe w client failures (e :: rest) =
      let o := asking w client e
      let t := probe w o.client (failures || !o.result.isOk) rest
      { t with
        stdout := reportLine e o.result ++ "\n" ++ t.stdout
        sent := o.sent ++ t.sent
        warnings := o.warnings ++ t.warnings } := by
  rw [probe]
  unfold asking at decided ⊢
  generalize client.call e (AgentClient.bodyOf e none) w.agent = o at decided ⊢
  obtain ⟨result, sent, warnings, next⟩ := o
  cases result with
  | ok v => rfl
  | error f =>
    dsimp only
    rw [if_pos (decided f rfl)]
    rfl

theorem probe_fault {w : World} {client : AgentClient} {failures : Bool} {e : Endpoint}
    {rest : List Endpoint} {f : CallFault} (faulty : (asking w client e).result = .error f)
    (other : isFinding f = false) :
    probe w client failures (e :: rest) =
      { failed w (.call f) with
        sent := (asking w client e).sent, warnings := (asking w client e).warnings } := by
  rw [probe]
  unfold asking at faulty ⊢
  generalize client.call e (AgentClient.bodyOf e none) w.agent = o at faulty ⊢
  obtain ⟨result, sent, warnings, next⟩ := o
  dsimp only at faulty ⊢
  subst faulty
  dsimp only
  rw [other]
  rfl

/-- A client that keeps the connection of its next call calls as before. -/
theorem asking_held (w : World) (c : AgentClient) (e : Endpoint) :
    asking w { c with connections := c.connections.acquire.2 } e = asking w c e := by
  have again : c.connections.acquire.2.acquire = c.connections.acquire := by
    cases held : c.connections.held <;> simp [Connections.acquire, held]
  simp only [asking, AgentClient.call, AgentClient.send, again]

def exitCode (failures : Bool) : Nat :=
  if failures then 1 else 0

/-- A run through endpoints that all come to a verdict. -/
theorem probe_decided {w : World} {client : AgentClient} {es : List Endpoint} (failures : Bool)
    (decided : ∀ e ∈ es, Decided (asking w client e).result) :
    probe w client failures es =
      { exit := .code (exitCode (failures || es.any fun e => !(asking w client e).result.isOk))
        stdout := lines (es.map fun e => reportLine e (asking w client e).result)
        sent := es.flatMap fun e => (asking w client e).sent
        warnings := es.flatMap fun e => (asking w client e).warnings
        files := w.files } := by
  induction es generalizing client failures with
  | nil =>
    cases failures <;> rfl
  | cons e rest ih =>
    rw [List.forall_mem_cons] at decided
    have next : (asking w client e).client =
        { client with connections := client.connections.acquire.2 } :=
      client.call_client e _ w.agent
    have later := @ih { client with connections := client.connections.acquire.2 }
      (failures || !(asking w client e).result.isOk) (by simpa only [asking_held] using decided.2)
    simp only [asking_held] at later
    rw [probe_cons decided.1]
    dsimp only
    rw [next, later]
    simp only [List.map_cons, lines_cons, List.flatMap_cons, List.any_cons, Bool.or_assoc]

end Cli

/-! Both endpoints. -/

/-- A reply is a success that decodes. -/
def Endpoint.Accepts (e : Endpoint) : Reply → Prop
  | .answer status bytes =>
    (200 ≤ status ∧ status < 300) ∧ ∃ v, decodeBytes e.response.shape bytes = .ok v
  | .failure _ => False

theorem Endpoint.Ends.decides {e : Endpoint} {q : Request} {reply : Reply}
    {result : Except CallFault Value} {warnings : List String}
    (ends : e.Ends q reply result warnings) (placed : q.url.scheme ≠ []) :
    Cli.Decided result ∧ (result.isOk = true ↔ e.Accepts reply) := by
  cases ends with
  | unanswered message => simp [Cli.Decided, Cli.isFinding, Accepts, Except.isOk, Except.toBool]
  | @answered status bytes _ success =>
    cases decoded : decodeBytes e.response.shape bytes with
    | ok v =>
      simp [Cli.Decided, Accepts, Except.isOk, Except.toBool, Except.mapError, success, decoded]
    | error f =>
      simp [Cli.Decided, Cli.isFinding, Accepts, Except.isOk, Except.toBool,
        Except.mapError, decoded]
  | explained _ failed =>
    simp [Cli.Decided, Cli.isFinding, Accepts, Except.isOk, Except.toBool, failed]
  | verbatim _ failed =>
    simp [Cli.Decided, Cli.isFinding, Accepts, Except.isOk, Except.toBool, failed]
  | placeless placeless => exact absurd placeless placed

namespace Cli

/-- Both endpoints that a check asks have an address under a scheme, and what names them is no
switch. -/
structure Reachable (url : String) (place : Endpoint → Url) : Prop where
  word : url.toList.head? ≠ some '-'
  addressed : ∀ e ∈ [Endpoint.capabilities, .schema],
    (AgentClient.make url .null .null .null .empty).address e.path = .ok (place e)
  placed : ∀ e ∈ [Endpoint.capabilities, .schema], (place e).scheme ≠ []

theorem asked_check {url : String} (word : url.toList.head? ≠ some '-') :
    asked ["check", url] = .task (.check url) {} := by
  have dashes : url ≠ "--" := by
    rintro rfl
    exact word rfl
  have command : classifyAll mainSwitches ["check", url] = .ok [.word "check", .word url] := by
    simp [classifyAll, classify, word, dashes, bind, Except.bind, pure, Except.pure]
  have rest : classifyAll Command.check.switches [url] = .ok [.word url] := by
    simp [classifyAll, classify, word, dashes, bind, Except.bind, pure, Except.pure]
  have found : Command.all.find? (·.name = "check") = some .check := by rfl
  simp only [asked, command, List.length_cons, List.length_nil, readMain, found, askedOf,
    List.drop_one, List.tail_cons, rest]
  rfl

theorem run_check {w : World} {c : Config} {url : String} (word : url.toList.head? ≠ some '-')
    (accepted : configAt w (FilePath.ofText Config.defaultPath) = .ok c) :
    run w ["check", url] =
      { probe w (clientFor c url) false [.capabilities, .schema] with levels := [c.logLevel] } := by
  simp [run, asked_check word, accepted, runTask]

theorem Reachable.address {url : String} {place : Endpoint → Url} (reachable : Reachable url place)
    (c : Config) {e : Endpoint} (asks : e ∈ [Endpoint.capabilities, .schema]) :
    (clientFor c url).address e.path = .ok (place e) := by
  rw [← reachable.addressed e asks]
  simp only [AgentClient.address, clientFor, AgentClient.make]

/-- An endpoint with an address, asked with headers that can be sent, comes to a verdict on the
agent's reply. -/
theorem asking_reachable {w : World} {c : Config} {url : String} {place : Endpoint → Url}
    (reachable : Reachable url place) {headers : List (String × List UInt8)}
    (sends : (clientFor c url).Sends headers) {e : Endpoint}
    (asks : e ∈ [Endpoint.capabilities, .schema]) :
    let o := asking w (clientFor c url) e
    let q : Request := ⟨if e.request?.isSome then .post else .get, place e, headers,
      ((AgentClient.bodyOf e none).map AgentClient.bodyText).getD [], 0⟩
    o.sent = [q] ∧ e.Ends q (w.agent q) o.result o.warnings := by
  have takes : e.Takes none := by
    simpa [Endpoint.Takes] using asks
  have made := AgentClient.request_addressed
    (c := { clientFor c url with connections := (clientFor c url).connections.acquire.2 }) sends
    (if e.request?.isSome then .post else .get) e.path (AgentClient.bodyOf_finite takes) 0
  have address : ({ clientFor c url with connections := (clientFor c url).connections.acquire.2 } :
      AgentClient).address e.path = .ok (place e) := reachable.address c asks
  rw [address] at made
  exact AgentClient.call_replied w.agent made

/-- Without such headers the call ends before anything is sent. -/
theorem asking_unsendable {w : World} {c : Config} {url : String} {place : Endpoint → Url}
    (reachable : Reachable url place) (unsendable : ¬ c.Sendable) {e : Endpoint}
    (asks : e ∈ [Endpoint.capabilities, .schema]) :
    ∃ f, (asking w (clientFor c url) e).result = .error (.header f) ∧
      (asking w (clientFor c url) e).sent = [] ∧
      (asking w (clientFor c url) e).warnings = [] := by
  have unsent (headers : List (String × List UInt8)) : ¬ (clientFor c url).Sends headers :=
    fun sends => unsendable ((clientFor_sends_iff url).mp ⟨headers, sends⟩)
  obtain ⟨f, refused⟩ := AgentClient.request_unsendable
    (c := { clientFor c url with connections := (clientFor c url).connections.acquire.2 }) unsent
    (reachable.address c asks) (if e.request?.isSome then .post else .get)
    (AgentClient.bodyOf e none) (clientFor c url).connections.acquire.1
  exact ⟨f, AgentClient.call_refused w.agent refused⟩

section Checks

variable {w : World} {c : Config} {url : String} {place : Endpoint → Url}
  (accepted : configAt w (FilePath.ofText Config.defaultPath) = .ok c)
  (reachable : Reachable url place)
include accepted reachable

theorem run_check_sends {headers : List (String × List UInt8)}
    (sends : (clientFor c url).Sends headers) :
    let t := run w ["check", url]
    let get : Request := ⟨.get, place .capabilities, headers, [], 0⟩
    let post : Request := ⟨.post, place .schema, headers, "\x7b\x7d".toList, 0⟩
    ∃ first second said saidLater,
      Endpoint.capabilities.Ends get (w.agent get) first said ∧
      Endpoint.schema.Ends post (w.agent post) second saidLater ∧
      t.files = w.files ∧
      t.sent = [get, post] ∧
      t.stdout = lines [reportLine .capabilities first, reportLine .schema second] ∧
      t.warnings = said ++ saidLater ∧
      (t.exit = .code 0 ∨ t.exit = .code 1) ∧
      (t.exit = .code 0 ↔
        Endpoint.capabilities.Accepts (w.agent get) ∧ Endpoint.schema.Accepts (w.agent post)) := by
  intro t get post
  obtain ⟨sent, ends⟩ : (asking w (clientFor c url) .capabilities).sent = [get] ∧
      Endpoint.capabilities.Ends get
        (w.agent get) (asking w (clientFor c url) .capabilities).result
        (asking w (clientFor c url) .capabilities).warnings :=
    asking_reachable reachable sends (by simp)
  obtain ⟨sentLater, endsLater⟩ : (asking w (clientFor c url) .schema).sent = [post] ∧
      Endpoint.schema.Ends post
        (w.agent post) (asking w (clientFor c url) .schema).result
        (asking w (clientFor c url) .schema).warnings :=
    asking_reachable reachable sends (by simp)
  have decides := ends.decides (reachable.placed _ (by simp))
  have decidesLater := endsLater.decides (reachable.placed _ (by simp))
  have trace : t = _ := run_check reachable.word accepted
  rw [probe_decided false (by simp [decides.1, decidesLater.1])] at trace
  have code : (exitCode (false || [Endpoint.capabilities, .schema].any fun e =>
      !(asking w (clientFor c url) e).result.isOk) = 0) ↔
      (asking w (clientFor c url) .capabilities).result.isOk = true ∧
        (asking w (clientFor c url) .schema).result.isOk = true := by
    simp [exitCode]
  rw [trace]
  refine ⟨_, _, _, _, ends, endsLater, rfl, ?_, ?_, ?_, ?_, ?_⟩
  · simp only [List.flatMap_cons, List.flatMap_nil, sent, sentLater, List.append_nil,
      List.singleton_append]
  · simp only [List.map_cons, List.map_nil]
  · simp only [List.flatMap_cons, List.flatMap_nil, List.append_nil]
  · unfold exitCode
    split
    · exact .inr rfl
    · exact .inl rfl
  · rw [Exit.code.injEq, code, decides.2, decidesLater.2]

theorem run_check_unsendable (unsendable : ¬ c.Sendable) :
    ∃ f, run w ["check", url] = { failed w (.call (.header f)) with levels := [c.logLevel] } := by
  obtain ⟨f, faulty, sent, quiet⟩ :=
    asking_unsendable (w := w) reachable unsendable (e := .capabilities) (by simp)
  refine ⟨f, ?_⟩
  rw [run_check reachable.word accepted, probe_fault faulty rfl, sent, quiet]
  rfl

end Checks

/-- A check at an address that is one ends with a verdict exactly if the configuration can be sent.
Then both endpoints are asked in order and reported, and the code is zero if both replies are
successes that decode. Otherwise nothing is asked and nothing reported, although the configuration
has been accepted. -/
theorem run_check_ends {w : World} {c : Config} {url : String} {place : Endpoint → Url}
    (accepted : configAt w (FilePath.ofText Config.defaultPath) = .ok c)
    (reachable : Reachable url place) :
    let t := run w ["check", url]
    (c.Sendable → ∃ headers, (clientFor c url).Sends headers ∧
      let get : Request := ⟨.get, place .capabilities, headers, [], 0⟩
      let post : Request := ⟨.post, place .schema, headers, "\x7b\x7d".toList, 0⟩
      ∃ first second said saidLater,
        Endpoint.capabilities.Ends get (w.agent get) first said ∧
        Endpoint.schema.Ends post (w.agent post) second saidLater ∧
        t.files = w.files ∧
        t.sent = [get, post] ∧
        t.stdout = lines [reportLine .capabilities first, reportLine .schema second] ∧
        t.warnings = said ++ saidLater ∧
        (t.exit = .code 0 ∨ t.exit = .code 1) ∧
        (t.exit = .code 0 ↔
          Endpoint.capabilities.Accepts (w.agent get) ∧ Endpoint.schema.Accepts (w.agent post))) ∧
    (¬ c.Sendable → ∃ f, t = { failed w (.call (.header f)) with levels := [c.logLevel] }) := by
  refine ⟨fun able => ?_, fun unsendable => run_check_unsendable accepted reachable unsendable⟩
  obtain ⟨headers, sends⟩ := (clientFor_sends_iff url).mpr able
  exact ⟨headers, sends, run_check_sends accepted reachable sends⟩

/-- Where the endpoints of the agent at `http://agent.test` are. -/
def agentTest (e : Endpoint) : Url :=
  ⟨"http".toList, [], "agent.test".toList, none, e.path.toList, none, none⟩

theorem reachable_agentTest : Reachable "http://agent.test" agentTest where
  word := by decide
  addressed := by
    simp only [List.forall_mem_cons]
    exact ⟨by cbv, by cbv, fun _ none => by cases none⟩
  placed := by
    simp only [List.forall_mem_cons]
    exact ⟨by decide, by decide, fun _ none => by cases none⟩

/-- A world with a configuration and without an agent. -/
def configured (text : String) : World :=
  ⟨Files.put .empty Config.defaultPath text, "", fun _ => .failure "no route"⟩

theorem configAt_chinook : ∃ c, configAt (configured "agent:\n  source_name: chinook\n")
    (FilePath.ofText Config.defaultPath) = .ok c ∧ c.Sendable := by
  have read : ((configAt (configured "agent:\n  source_name: chinook\n")
      (FilePath.ofText Config.defaultPath)).toOption.any
      fun c => c.source.isNone && (Headers.sendable c.sourceName).isOk) = true := by decide +kernel
  cases accepted : configAt (configured "agent:\n  source_name: chinook\n")
    (FilePath.ofText Config.defaultPath) with
  | error f =>
    rw [accepted] at read
    cases read
  | ok c =>
    rw [accepted] at read
    simp only [Except.toOption, Option.any_some, Bool.and_eq_true,
      Option.isNone_iff_eq_none] at read
    refine ⟨c, rfl, fun m given => by simp [read.1] at given, .inr ?_⟩
    cases name : Headers.sendable c.sourceName with
    | error f =>
      rw [name] at read
      cases read.2
    | ok bytes => exact ⟨bytes, rfl⟩

theorem configAt_numbered : ∃ c, configAt (configured "agent:\n  source_name: 5\n")
    (FilePath.ofText Config.defaultPath) = .ok c ∧ c.sourceName = .int 5 := by
  have read : (match configAt (configured "agent:\n  source_name: 5\n")
      (FilePath.ofText Config.defaultPath) with
    | .ok { sourceName := .int i, .. } => some i
    | _ => none) = some 5 := by decide +kernel
  split at read
  · rename_i accepted
    cases read
    exact ⟨_, accepted, rfl⟩
  · cases read

/-- Without an agent both endpoints are reported as failures. -/
theorem run_check_ends_unanswered :
    (∃ c, configAt (configured "agent:\n  source_name: chinook\n")
      (FilePath.ofText Config.defaultPath) = .ok c) ∧
    Reachable "http://agent.test" agentTest ∧
    let t := run (configured "agent:\n  source_name: chinook\n") ["check", "http://agent.test"]
    t.exit = .code 1 ∧ t.sent.length = 2 ∧
      t.stdout = lines ["capabilities: FAILED - Agent returned 0: no route",
        "schema: FAILED - Agent returned 0: no route"] := by
  obtain ⟨c, accepted, able⟩ := configAt_chinook
  refine ⟨⟨c, accepted⟩, reachable_agentTest, ?_⟩
  obtain ⟨headers, sends, first, second, said, saidLater, ends, endsLater, files, sent, stdout,
      warnings, code, zero⟩ :=
    (run_check_ends accepted reachable_agentTest).1 able
  dsimp only
  rw [sent, stdout]
  cases ends with
  | unanswered =>
    cases endsLater with
    | unanswered =>
      refine ⟨code.resolve_left fun none => (zero.mp none).1, rfl, rfl⟩

/-- A configuration whose source has a number for a name is accepted, and no check with it has a
verdict. -/
theorem run_check_numbered :
    ¬ ∀ (w : World) (c : Config) (url : String) (place : Endpoint → Url),
      configAt w (FilePath.ofText Config.defaultPath) = .ok c → Reachable url place →
      ∃ n, (run w ["check", url]).exit = .code n := by
  intro always
  obtain ⟨c, accepted, name⟩ := configAt_numbered
  have unsendable : ¬ c.Sendable := by
    rintro ⟨_, null | ⟨bytes, sendable⟩⟩
    · rw [name] at null
      cases null
    · rw [name] at sendable
      cases sendable
  obtain ⟨f, ends⟩ := run_check_unsendable accepted reachable_agentTest unsendable
  obtain ⟨n, code⟩ := always _ c _ _ accepted reachable_agentTest
  rw [ends] at code
  cases code

end Cli

end AgentWire
