import AgentWire.OpenApi.Render
import AgentWire.Proofs.SavedConfigs

/-! Rendered documents. Both formats are ASCII and stand for the document that is rendered: as JSON
it is always read back, as YAML as far as it is legible on the page. -/
namespace AgentWire

open Yaml.Node (documentText isLegible isSimple isSimple_ofList lastLine memberText
  memberText_simple ofJson writeKey_eq write_members)

theorem render_json (document : Json) :
    (render document .json).toList = Json.write ⟨.indented 2, true⟩ 0 document :=
  String.toList_ofList

theorem render_yaml (document : Json) :
    (render document .yaml).toList = documentText (ofJson document) := by
  rw [render, String.toList_ofList, Yaml.Node.ofDatum_ofJson]

/-- What a rendered document is read as. -/
theorem render_reread {document : Json} (distinct : document.Distinct) (finite : document.Finite) :
    AsciiText (render document .json).toList ∧ AsciiText (render document .yaml).toList ∧
      Json.read (render document .json).toList = .ok document ∧
      (isLegible 0 false document = true →
        Yaml.read (render document .yaml).toList = .ok (Datum.ofJson document)) := by
  rw [render_json, render_yaml]
  exact ⟨Json.write_ascii _ _ _, Yaml.Node.documentText_ascii document,
    Json.read_write _ distinct finite, Yaml.read_documentText distinct⟩

/-- A document with texts that look like something else, and with one that takes several lines. -/
def oddDocument : Json :=
  .obj
    [("<<", .arr [.str "null", .str "1e3", .str "- a: b # c", .null, .num (-0.0)]),
     ("", .str "\n a\u2028b"),
     ("é 😀", .obj [("y", .arr []), ("~", .int (-12))])]

theorem render_reread_odd :
    oddDocument.Distinct ∧ oddDocument.Finite ∧ isLegible 0 false oddDocument = true ∧
      Json.read (render oddDocument .json).toList = .ok oddDocument ∧
      Yaml.read (render oddDocument .yaml).toList = .ok (Datum.ofJson oddDocument) := by
  have distinct : oddDocument.Distinct := by decide
  have finite : oddDocument.Finite := by decide
  have legible : isLegible 0 false oddDocument = true := by decide +kernel
  obtain ⟨-, -, json, yaml⟩ := render_reread distinct finite
  exact ⟨distinct, finite, legible, json, yaml legible⟩

theorem documentText_member (key : String) (x : Json) :
    documentText (ofJson (.obj [(key, x)])) = memberText 0 key x ++ ['\n'] :=
  write_members .root (key, x) [] (lastLine false)

/-- A document with one long key. -/
def faceDocument : Json :=
  .obj [(String.ofList Config.faces, .int 1)]

/-- A document with a long key is written as YAML, and cannot be read again. -/
theorem render_longKey :
    ¬ ∀ document : Json, document.Distinct → document.Finite →
      AsciiText (render document .json).toList ∧ AsciiText (render document .yaml).toList ∧
        Json.read (render document .json).toList = .ok document ∧
        Yaml.read (render document .yaml).toList = .ok (Datum.ofJson document) := by
  intro always
  have simple : isSimple (String.ofList Config.faces) = true := by
    rw [isSimple_ofList]
    decide +kernel
  have read := (always faceDocument (by decide) (by decide)).2.2.2
  rw [render_yaml, faceDocument, documentText_member, memberText_simple 0 simple, writeKey_eq,
    String.toList_ofList] at read
  have fails := congrArg Except.isOk read
  exact absurd fails (by decide +kernel)

end AgentWire
