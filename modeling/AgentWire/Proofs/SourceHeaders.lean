import AgentWire.Proofs.JsonText
import AgentWire.Proofs.Verdicts

/-! The header for the configuration of a source. For JSON data it is one line of printable
characters that denotes the data, so that it never keeps a request from going out, and no text in
the data can end the header. -/
namespace AgentWire

namespace Datum

section

variable (around : List Nat)

theorem toItems_ofItems {items : List Json}
    (each : ∀ x ∈ items, toJsonIn around (ofJson x) = .ok x) :
    toItems around (ofItems items) = .ok items := by
  induction items with
  | nil => rfl
  | cons x rest ih =>
    rw [List.forall_mem_cons] at each
    rw [ofItems, toItems, each.1, ih each.2]
    rfl

theorem toMembers_ofMembers {members : List (String × Json)}
    (each : ∀ m ∈ members, toJsonIn around (ofJson m.2) = .ok m.2) :
    toMembers around (ofMembers members) = .ok members := by
  induction members with
  | nil => rfl
  | cons m rest ih =>
    obtain ⟨key, x⟩ := m
    rw [List.forall_mem_cons] at each
    rw [ofMembers, toMembers, each.1, ih each.2]
    rfl

/-- JSON data carry no marks, so the collections around them do not matter. -/
theorem toJsonIn_ofJson (j : Json) : toJsonIn around (ofJson j) = .ok j := by
  induction j using Json.by_parts with
  | whole j items_back members_back =>
    cases j with
    | arr items =>
      have inner : toItems around (ofItems items) = .ok items := toItems_ofItems around items_back
      show (toItems around (ofItems items)).map Json.arr = _
      rw [inner]
      rfl
    | obj members =>
      have inner : toMembers around (ofMembers members) = .ok members :=
        toMembers_ofMembers around members_back
      show (toMembers around (ofMembers members)).map Json.obj = _
      rw [inner]
      rfl
    | _ => rfl

end

theorem toJson_ofJson (j : Json) : (ofJson j).toJson = .ok j :=
  toJsonIn_ofJson [] j

end Datum

namespace Headers

theorem asciiBytes_eq {cs : List Char} (ascii : ∀ c ∈ cs, c.toNat < 0x80) :
    asciiBytes cs = .ok (cs.map fun c => UInt8.ofNat c.toNat) := by
  have none_beyond : (cs.findIdx? fun c => 0x80 ≤ c.toNat) = none := by
    rw [List.findIdx?_eq_none_iff]
    intro c inside
    simpa using ascii c inside
  rw [asciiBytes, none_beyond]

theorem latinText_asciiBytes {s : String} (ascii : ∀ c ∈ s.toList, c.toNat < 0x80) :
    latinText (s.toList.map fun c => UInt8.ofNat c.toNat) = s := by
  have same : ∀ c ∈ s.toList, Char.ofNat (UInt8.ofNat c.toNat).toNat = c := by
    intro c inside
    have small := ascii c inside
    rw [UInt8.toNat_ofNat', Nat.mod_eq_of_lt (by omega), Char.ofNat_toNat]
  rw [latinText, List.map_map]
  calc String.ofList (s.toList.map _)
    _ = String.ofList (s.toList.map id) := congrArg String.ofList (List.map_congr_left same)
    _ = s := by rw [List.map_id, String.ofList_toList]

theorem configText_ofJson (j : Json) :
    configText (Datum.ofJson j) = .ok (j.text ⟨.compact, true⟩) := by
  rw [configText, Datum.toJson_ofJson]
  rfl

theorem configText_printable (j : Json) : PrintableText (j.text ⟨.compact, true⟩).toList := by
  rw [Json.text, String.toList_ofList]
  exact Json.write_printable (fun _ => rfl) 0 j

theorem sent_cons_iff {h : String × Datum} {rest : Headers} {out : List (String × List UInt8)} :
    sent (h :: rest) = .ok out ↔
      ∃ bytes later, sendable h.2 = .ok bytes ∧ rest.sent = .ok later ∧
        out = (h.1, bytes) :: later := by
  simp only [sent, List.mapM_cons, bind_eq_ok_iff, map_eq_ok_iff]
  constructor
  · rintro ⟨_, ⟨bytes, sends, rfl⟩, later, others, made⟩
    cases made
    exact ⟨bytes, later, sends, others, rfl⟩
  · rintro ⟨bytes, later, sends, others, rfl⟩
    exact ⟨_, ⟨bytes, sends, rfl⟩, later, others, rfl⟩

/-- Headers go out under their own names. -/
theorem sent_names {hs : Headers} {out : List (String × List UInt8)} (sends : hs.sent = .ok out) :
    out.map (·.1) = hs.map (·.1) := by
  induction hs generalizing out with
  | nil =>
    cases sends
    rfl
  | cons h rest ih =>
    obtain ⟨bytes, later, _, others, rfl⟩ := sent_cons_iff.mp sends
    rw [List.map_cons, List.map_cons, ih others]

end Headers

namespace AgentClient

/-- A request goes out with the headers of its client. -/
theorem sends_of_request {c : AgentClient} {m : Method} {path : String} {body : Option Json}
    {n : Nat} {q : Request} (made : c.request m path body n = .ok q) : c.Sends q.headers := by
  unfold request at made
  simp only [bind_eq_ok_iff, mapError_eq_ok_iff] at made
  obtain ⟨hs, of_client, url, _, headers, sent, made⟩ := made
  split at made
  · cases made
  · obtain ⟨_, _, same⟩ := bind_eq_ok_iff.mp made
    cases same
    exact ⟨hs, of_client, sent⟩

section Configured

variable {c : AgentClient} {members : List (String × Json)}
  (configured : c.config = Datum.ofJson (.obj members))
include configured

theorem ofSource_configured : Headers.ofSource c.config c.sourceName =
    .ok (("Accept", .str "application/json") ::
      (Headers.configName, .str ((Json.obj members).text ⟨.compact, true⟩)) ::
      Headers.ofName c.sourceName) := by
  have source : c.config = Mapping.toDatum ⟨none, Datum.ofMembers members⟩ := configured
  have text : Headers.configText (Mapping.toDatum ⟨none, Datum.ofMembers members⟩) = _ :=
    Headers.configText_ofJson (.obj members)
  rw [source, Headers.ofSource_map, text]
  rfl

theorem headers_configured : c.headers =
    .ok (("Accept", .str "application/json") ::
      (Headers.configName, .str ((Json.obj members).text ⟨.compact, true⟩)) ::
      Headers.ofName c.sourceName) := by
  rw [headers, ofSource_configured configured]
  rfl

/-- The name of the source alone can keep the headers from being sent. -/
theorem sends_configured_iff : (∃ headers, c.Sends headers) ↔
    c.sourceName = .null ∨ ∃ bytes, Headers.sendable c.sourceName = .ok bytes := by
  have config := Headers.configText_sendable (Headers.configText_ofJson (.obj members))
  rw [sends_iff, ofSource_configured configured]
  simp only [Except.ok.injEq, exists_eq_left', List.forall_mem_cons, Headers.accept_sendable,
    config, true_and, Headers.ofName_sendable_iff]

/-- A request carries the header for the configuration once. -/
theorem request_configured {m : Method} {path : String} {body : Option Json} {n : Nat} {q : Request}
    (made : c.request m path body n = .ok q) {bytes : List UInt8}
    (sendable : Headers.sendable (.str ((Json.obj members).text ⟨.compact, true⟩)) = .ok bytes) :
    q.headers.filter (fun h => h.1 = Headers.configName) = [(Headers.configName, bytes)] := by
  obtain ⟨hs, same, sent⟩ := sends_of_request made
  rw [headers_configured configured] at same
  cases same
  obtain ⟨_, _, _, others, made⟩ := Headers.sent_cons_iff.mp sent
  obtain ⟨_, named, first, names, rfl⟩ := Headers.sent_cons_iff.mp others
  cases sendable.symm.trans first
  have other : named.filter (fun h => h.1 = Headers.configName) = [] := by
    rw [List.filter_eq_nil_iff]
    intro h inside
    have name : h.1 ∈ (Headers.ofName c.sourceName).map (·.1) := by
      rw [← Headers.sent_names names]
      exact List.mem_map_of_mem inside
    obtain ⟨given, held, same⟩ := List.mem_map.mp name
    rw [← same, (Headers.mem_ofName_iff.mp held).2]
    exact of_decide_eq_true rfl
  rw [made, List.filter_cons_of_neg (of_decide_eq_true rfl), List.filter_cons_of_pos rfl, other]

/-- A source that has JSON data for its configuration has one header for it: a text of printable
characters that is read as the data. It is sent byte for byte in every request, and never keeps one
from going out. -/
theorem config_header (distinct : (Json.obj members).Distinct)
    (finite : (Json.obj members).Finite) :
    ∃ text bytes,
      c.headers = .ok
        (("Accept", .str "application/json") :: (Headers.configName, .str text) ::
          Headers.ofName c.sourceName) ∧
      PrintableText text.toList ∧
      Json.read text.toList = .ok (.obj members) ∧
      Headers.sendable (.str text) = .ok bytes ∧ Headers.latinText bytes = text ∧
      ((∃ headers, c.Sends headers) ↔
        c.sourceName = .null ∨ ∃ named, Headers.sendable c.sourceName = .ok named) ∧
      ∀ m path body n q, c.request m path body n = .ok q →
        q.headers.filter (fun h => h.1 = Headers.configName) = [(Headers.configName, bytes)] := by
  have printable := Headers.configText_printable (.obj members)
  have ascii : ∀ x ∈ ((Json.obj members).text ⟨.compact, true⟩).toList, x.toNat < 0x80 :=
    fun x inside => Nat.lt_trans (printable x inside).2 (by decide)
  have sendable : Headers.sendable (.str ((Json.obj members).text ⟨.compact, true⟩)) = _ :=
    Headers.asciiBytes_eq ascii
  refine ⟨_, _, headers_configured configured, printable, ?_, sendable,
    Headers.latinText_asciiBytes ascii, sends_configured_iff configured,
    fun _ _ _ _ _ made => request_configured configured made sendable⟩
  rw [Json.text, String.toList_ofList]
  exact Json.read_write _ distinct finite

end Configured

/-- A configuration with all that a text can hold, under keys and in texts, and with numbers of both
kinds. -/
def oddSource : List (String × Json) :=
  [("say \"\\\n\r\x7f😀",
    .arr [.int 1, .num 1.0, .obj [("\x00\u2028", .str "\x1b: 1\r\nHost: other\t𝄞")]]), ("", .null)]

theorem config_header_odd :
    (Json.obj oddSource).Distinct ∧ (Json.obj oddSource).Finite ∧
      ∃ text, (make "http://agent.test" (Datum.ofJson (.obj oddSource)) .null (.num 30.0)
        .empty).headers =
          .ok [("Accept", .str "application/json"), (Headers.configName, .str text)] ∧
        PrintableText text.toList ∧ Json.read text.toList = .ok (.obj oddSource) := by
  have distinct : (Json.obj oddSource).Distinct := by decide
  have finite : (Json.obj oddSource).Finite := by decide
  obtain ⟨text, _, made, printable, read, _⟩ :=
    config_header
      (c := make "http://agent.test" (Datum.ofJson (.obj oddSource)) .null (.num 30.0) .empty)
      rfl distinct finite
  exact ⟨distinct, finite, text, made, printable, read⟩

end AgentClient

end AgentWire
