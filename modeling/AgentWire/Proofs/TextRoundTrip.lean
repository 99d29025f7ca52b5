import AgentWire.Proofs.JsonText
import AgentWire.Proofs.Requests
import AgentWire.Proofs.RoundTrip
import AgentWire.Proofs.Utf8

/-! Decoding the text of a decoded value. The text denotes the JSON form of the value, whatever its
layout, so that it is decoded as that form is; so are its bytes, and the body that a client
posts. -/
namespace AgentWire

/-- Decoding a written document is decoding the document. -/
theorem decodeText_write (s : Shape) (st : Json.Style) {j : Json} (distinct : j.Distinct)
    (finite : j.Finite) :
    decodeText s (j.write st 0) = decode s j := by
  rw [decodeText, Json.read_write st distinct finite]

theorem decodeBytes_encode (s : Shape) (text : List Char) :
    decodeBytes s (Utf8.encode text) = decodeText s text := by
  rw [decodeBytes, Utf8.decode_encode]

/-- What is decoded from the text of a decoded value is decoded from its JSON form. -/
theorem decodeText_encodeText (t : WireType) {d : Json} {v : Value} (distinct : d.Distinct)
    (finite : (normal t.shape d).Finite) (reads : readShape d t.shape = .ok v)
    (indent : Option Int) :
    decodeText t.shape (encodeText t.shape indent v).toList =
      decode t.shape (normal t.shape d) := by
  rw [encodeText, Json.text, String.toList_ofList, encode_normal t.separated finite reads]
  exact decodeText_write t.shape (Value.style indent) (distinct_normal distinct) finite

/-! The round trip. -/

/-- Reading a normal form gives the value again, except for a single result set that looks like
several. -/
theorem read_normal_iff (t : WireType) {d : Json} {v : Value}
    (reads : readShape d t.shape = .ok v) :
    readShape (normal t.shape d) t.shape = .ok v ↔
      ¬ (t = .alias .queryResponse ∧ LooksForEach v) := by
  by_cases settled : t.shape.settled = true
  · have other := t.settled_iff.mp settled
    exact iff_of_true (read_normal t.separated settled reads) fun both => other both.1
  · rw [WireType.settled_iff, not_not] at settled
    subst settled
    rw [and_iff_right rfl]
    exact read_normal_queryResponse reads

theorem decodeText_again (t : WireType) {d : Json} {v : Value} (distinct : d.Distinct)
    (finite : (normal t.shape d).Finite) (reads : readShape d t.shape = .ok v)
    (indent : Option Int) :
    (∃ w, decodeText t.shape (encodeText t.shape indent v).toList = .ok w) ∧
      (decodeText t.shape (encodeText t.shape indent v).toList = .ok v ↔
        ¬ (t = .alias .queryResponse ∧ LooksForEach v)) := by
  rw [decodeText_encodeText t distinct finite reads indent]
  simp only [decode_eq_ok_iff]
  exact ⟨read_of_belongs (belongs_normal t reads) t.separated, read_normal_iff t reads⟩

/-- The body that a client posts for a record is the text of its JSON form, and is decoded as the
record. -/
theorem decodeText_posted {e : Endpoint} {r : Record} (requests : e.request? = some r) {d : Json}
    {v : Value} (distinct : d.Distinct) (finite : d.Finite)
    (reads : readShape d (.record r) = .ok v) :
    ∃ body, AgentClient.bodyOf e (some v) = some body ∧ body.isFinite = true ∧
      decodeText (.record r) (AgentClient.bodyText body) = .ok v := by
  have form := encode_read (WireType.separated (.record r)) finite reads
  have distinct_form : (normal (.record r) d).Distinct := distinct_normal distinct
  have finite_form : (normal (.record r) d).Finite := finite_normal finite
  have written : v.encode = normal (.record r) d := (encode_of_read rfl reads).trans form
  obtain ⟨_, fields, _, rfl, _⟩ := read_record_iff.mp reads
  refine ⟨_, AgentClient.bodyOf_record requests, ?_, ?_⟩
  · rw [written]
    exact Json.isFinite_of_finite finite_form
  · rw [written, AgentClient.bodyText, decodeText_write _ _ distinct_form finite_form,
      decode_eq_ok_iff]
    exact (read_normal_iff (.record r) reads).mpr fun both => by cases both.1

/-- What was decoded is decoded again from its text, with every indentation, and from the bytes of
the text. The value is the same unless it is a single result set that looks like several. For a
value that is posted there is a body, which keeps no request from going out and is decoded as the
value. -/
theorem decodeText_encoded (t : WireType) (d : Json) (v : Value) (distinct : d.Distinct)
    (finite : d.Finite) (decoded : decode t.shape d = .ok v) :
    (∀ indent, (∃ w, decodeText t.shape (encodeText t.shape indent v).toList = .ok w) ∧
      (decodeText t.shape (encodeText t.shape indent v).toList = .ok v ↔
        ¬ (t = .alias .queryResponse ∧ LooksForEach v)) ∧
      decodeBytes t.shape (Utf8.encode (encodeText t.shape indent v).toList) =
        decodeText t.shape (encodeText t.shape indent v).toList) ∧
    ∀ e r, e.request? = some r → t = .record r →
      ∃ body, AgentClient.bodyOf e (some v) = some body ∧ ∀ (c : AgentClient) (agent : Agent),
        ((c.call e (some body) agent).sent = [] ↔ (c.send .post e.path none agent).sent = []) ∧
        ∀ q ∈ (c.call e (some body) agent).sent,
          decodeText t.shape q.body = .ok v ∧ decodeBytes t.shape (Utf8.encode q.body) = .ok v := by
  have reads := decode_eq_ok_iff.mp decoded
  constructor
  · intro indent
    obtain ⟨accepted, same⟩ := decodeText_again t distinct (finite_normal finite) reads indent
    exact ⟨accepted, same, decodeBytes_encode _ _⟩
  · intro e r requests kind
    subst kind
    obtain ⟨body, made, finite_body, again⟩ := decodeText_posted requests distinct finite reads
    refine ⟨body, made, ?_⟩
    intro c agent
    constructor
    · rw [AgentClient.call_sent, requests]
      exact AgentClient.sent_finite finite_body
    · intro q sent
      rw [AgentClient.body_of_sent sent, decodeBytes_encode]
      exact ⟨again, again⟩

/-- A raw query with all that a string can hold: quotes, backslashes, control characters, and
characters inside and outside of the basic plane. -/
def oddQuery : Json :=
  .obj [("query", .str "say \"ünï\\code\"\n\t\x01\x7f \u2028 😀")]

def oddRequest : Value :=
  .record .rawRequest [("query", .text "say \"ünï\\code\"\n\t\x01\x7f \u2028 😀")]

theorem decodeText_encoded_query :
    oddQuery.Distinct ∧ oddQuery.Finite ∧ decode (.record .rawRequest) oddQuery = .ok oddRequest ∧
      decodeText (.record .rawRequest)
        (encodeText (.record .rawRequest) (some 2) oddRequest).toList = .ok oddRequest ∧
      ∃ body, AgentClient.bodyOf .raw (some oddRequest) = some body ∧
        ∀ (c : AgentClient) (agent : Agent), ∀ q ∈ (c.call .raw (some body) agent).sent,
          decodeBytes (.record .rawRequest) (Utf8.encode q.body) = .ok oddRequest := by
  have distinct : oddQuery.Distinct := by decide
  have finite : oddQuery.Finite := by decide
  have decoded : decode (.record .rawRequest) oddQuery = .ok oddRequest := rfl
  obtain ⟨texts, bodies⟩ :=
    decodeText_encoded (.record .rawRequest) oddQuery oddRequest distinct finite decoded
  obtain ⟨body, made, sent⟩ := bodies .raw .rawRequest rfl rfl
  refine ⟨distinct, finite, decoded, (texts (some 2)).2.1.mpr ?_, body, made, ?_⟩
  · rintro ⟨other, _⟩
    cases other
  · intro c agent q inside
    exact ((sent c agent).2 q inside).2

/-- The text of an empty result set whose aggregates are null is the text of an empty list of result
sets. -/
theorem decodeText_encoded_differs :
    ¬ ∀ (t : WireType) (d : Json) (v : Value) (indent : Option Int), d.Distinct → d.Finite →
      decode t.shape d = .ok v →
      decodeText t.shape (encodeText t.shape indent v).toList = .ok v := by
  intro always
  have same := always (.alias .queryResponse) (.obj [("aggregates", .null), ("rows", .arr [])])
    (.record .responseRow [("aggregates", .absent), ("rows", .list [])]) none
    (by decide) (by decide) rfl
  have form : encodeAt (.record .responseRow [("aggregates", .absent), ("rows", .list [])])
      (WireType.alias .queryResponse).shape = .obj [("rows", .arr [])] := rfl
  rw [encodeText, Json.text, String.toList_ofList, form,
    decodeText_write _ _ (by decide) (by decide)] at same
  have several : decode Alias.queryResponse.shape (.obj [("rows", .arr [])]) =
      .ok (.record .forEachResponse [("rows", .list [])]) := rfl
  cases several.symm.trans same

end AgentWire
