import AgentWire.Config.File
import AgentWire.Proofs.Decimals
import AgentWire.Proofs.Yaml.Views

/-! Saved configurations. A configuration of JSON data is saved as JSON data, which are read as the
same configuration; so it survives as far as its document is read back. -/
namespace AgentWire

namespace Mapping

theorem lookup_ofMembers (key : String) (members : List (String × Json)) :
    lookup key ⟨none, Datum.ofMembers members⟩ = (Json.lookup key members).map Datum.ofJson := by
  have found : find? key (Datum.ofMembers members) =
      (Json.lookup key members).map Datum.ofJson := by
    induction members with
    | nil => rfl
    | cons m rest ih =>
      rw [Datum.ofMembers, find?, Json.lookup_cons, ih]
      split <;> rfl
  rw [lookup, found]
  cases Json.lookup key members <;> rfl

end Mapping

namespace Config

/-! What is accepted. -/

theorem section_ofMembers {name : String} {members : List (String × Json)} {m : Mapping}
    (accepted : section? name ⟨none, Datum.ofMembers members⟩ = .ok m) :
    m = ⟨none, Datum.ofMembers (((Json.lookup name members).map Json.members).getD [])⟩ := by
  rw [section?, Mapping.lookup_ofMembers] at accepted
  cases found : Json.lookup name members with
  | none =>
    rw [found] at accepted
    cases accepted
    rfl
  | some x =>
    rw [found] at accepted
    simp only [Option.map_some, Option.getD_some] at accepted ⊢
    split at accepted
    · rename_i empty
      cases accepted
      cases x with
      | obj inner =>
        cases inner with
        | nil => rfl
        | cons e rest => simp [Datum.ofJson, Datum.ofMembers, Datum.isGiven] at empty
      | _ => rfl
    · cases x with
      | obj inner =>
        cases accepted
        rfl
      | _ => cases accepted

theorem sourceOf_ofMembers {members : List (String × Json)} {source : Option Mapping}
    (accepted : sourceOf ⟨none, Datum.ofMembers members⟩ = .ok source) :
    (source.map Mapping.toDatum).getD .null =
      Datum.ofJson ((Json.lookup "config" members).getD .null) := by
  rw [sourceOf, Mapping.lookup_ofMembers] at accepted
  cases found : Json.lookup "config" members with
  | none =>
    rw [found] at accepted
    cases accepted
    rfl
  | some x =>
    rw [found] at accepted
    cases x with
    | null =>
      cases accepted
      rfl
    | obj inner =>
      cases accepted
      rfl
    | _ => cases accepted

/-- A timeout that is accepted is saved as a double that is accepted too. -/
theorem checkTimeout_ofJson {given : Option Json} {t : Timeout} {x : Float}
    (accepted : checkTimeout (given.map Datum.ofJson) = .ok t)
    (timed : seconds t.quantity = .ok x) :
    t.mark = none ∧ ¬ x ≤ 0.0 := by
  cases given with
  | none =>
    cases accepted
    cases timed
    exact ⟨rfl, by decide⟩
  | some j =>
    cases j with
    | int i =>
      rw [Option.map_some, Datum.ofJson, checkTimeout] at accepted
      split at accepted
      · cases accepted
      · rename_i positive
        cases accepted
        refine ⟨rfl, ?_⟩
        rw [seconds] at timed
        split at timed
        · cases timed
          refine Decimal.not_le_zero ?_
          have one : 1 ≤ i.natAbs := by omega
          rw [Decimal.value, zpow_zero, mul_one]
          exact_mod_cast one
        · cases timed
    | num y =>
      rw [Option.map_some, Datum.ofJson, checkTimeout] at accepted
      split at accepted
      · cases accepted
      · rename_i positive
        cases accepted
        cases timed
        exact ⟨rfl, positive⟩
    | _ => cases accepted

/-- What an agent is sent of a configuration, a member of its section `agent`. -/
def sentIn (data : Json) (key : String) : Json :=
  (Json.lookup key (((Json.lookup "agent" data.members).map Json.members).getD [])).getD .null

theorem sentIn_distinct {data : Json} (distinct : data.Distinct) (key : String) :
    (sentIn data key).Distinct := by
  rw [sentIn]
  cases agent : Json.lookup "agent" data.members with
  | none => rfl
  | some x =>
    rw [Option.map_some, Option.getD_some]
    have inside := Json.everywhere_members distinct (Json.mem_of_lookup agent)
    cases found : Json.lookup key x.members with
    | none => rfl
    | some y => exact Json.everywhere_members inside (Json.mem_of_lookup found)

/-- The parts of a configuration that are saved as they are. -/
structure Holds (c : Config) (source name : Json) : Prop where
  unmarked : c.timeoutMark = none
  positive : ¬ c.timeout ≤ 0.0
  source : (c.source.map Mapping.toDatum).getD .null = Datum.ofJson source
  name : c.sourceName = Datum.ofJson name

theorem holds_of_accepted {data : Json} {c : Config}
    (accepted : ofDatum (Datum.ofJson data) = .ok c) :
    Holds c (sentIn data "config") (sentIn data "source_name") := by
  cases data with
  | obj members =>
    simp only [ofDatum, Datum.ofJson, Datum.mapping?, pure_bind, bind_eq_ok_iff] at accepted
    obtain ⟨level, -, openApi, -, format, -, agent, isSection, given, checked, source, sourced, x,
        timed, made⟩ := accepted
    cases made
    obtain rfl := section_ofMembers isSection
    rw [Mapping.lookup_ofMembers] at checked
    obtain ⟨unmarked, positive⟩ := checkTimeout_ofJson checked timed
    refine ⟨unmarked, positive, sourceOf_ofMembers sourced, ?_⟩
    rw [Mapping.lookup_ofMembers]
    show _ = Datum.ofJson ((Json.lookup "source_name"
      (((Json.lookup "agent" members).map Json.members).getD [])).getD .null)
    generalize Json.lookup "source_name" _ = found
    cases found <;> rfl
  | _ => cases accepted

/-! What is saved. -/

theorem logLevel_saved (level : LogLevel) :
    LogLevel.ofName? (upperCaseText level.name) = some level := by
  cases level <;> decide +kernel

theorem format_saved (format : OutputFormat) : OutputFormat.ofName? format.name = some format := by
  cases format <;> decide

def saved (c : Config) (source name : Json) : Json :=
  .obj
    [("log_level", .str c.logLevel.name),
     ("openapi", .obj [("title", .str c.title), ("version", .str c.version),
       ("format", .str c.format.name)]),
     ("agent", .obj [("timeout", .num c.timeout), ("config", source), ("source_name", name)])]

section Holds

variable {c : Config} {source name : Json} (holds : Holds c source name)
include holds

theorem Holds.saved_eq : c.toDatum = Datum.ofJson (saved c source name) := by
  rw [toDatum, holds.unmarked, holds.source, holds.name]
  rfl

/-- What is saved is accepted, as the same configuration. -/
theorem Holds.ofDatum_toDatum : ofDatum c.toDatum = .ok c := by
  obtain ⟨level, title, version, format, timeout, mark, sent, sourceName⟩ := c
  obtain rfl : mark = none := holds.unmarked
  let openApi : Mapping := ⟨none, [(.str "title", .str title), (.str "version", .str version),
    (.str "format", .str format.name)]⟩
  let agent : Mapping := ⟨none, [(.str "timeout", .num timeout),
    (.str "config", (sent.map Mapping.toDatum).getD .null), (.str "source_name", sourceName)]⟩
  let whole : Mapping :=
    ⟨none, [(.str "log_level", .str level.name), (.str "openapi", openApi.toDatum),
      (.str "agent", agent.toDatum)]⟩
  have text (key default s : String) (m : Mapping) (found : m.lookup key = some (.str s)) :
      textOf key default m = s := by
    rw [textOf, found]
    exact String.ofList_toList
  have leveled : logLevelOf whole = .ok level := by
    rw [logLevelOf, text _ _ level.name _ rfl, logLevel_saved]
  have formatted : formatOf openApi = .ok format := by
    rw [formatOf, text _ _ format.name _ rfl, format_saved]
  have timed : checkTimeout (agent.lookup "timeout") = .ok ⟨.double timeout, none⟩ := by
    have found : agent.lookup "timeout" = some (.num timeout) := rfl
    rw [found, checkTimeout, if_neg holds.positive]
  have sourced : sourceOf agent = .ok sent := by
    have found : agent.lookup "config" = some ((sent.map Mapping.toDatum).getD .null) := rfl
    rw [sourceOf, found]
    cases sent <;> rfl
  have named : agent.lookup "source_name" = some sourceName := rfl
  show ofDatum (.map none whole.entries) = _
  simp only [ofDatum, Datum.mapping?, pure_bind, bind_eq_ok_iff]
  refine ⟨level, leveled, openApi, rfl, format, formatted, agent, rfl, _, timed, sent, sourced,
    timeout, rfl, ?_⟩
  rw [text "title" _ title openApi rfl, text "version" _ version openApi rfl, named]
  rfl

end Holds

theorem saved_distinct {c : Config} {source name : Json} (first : source.Distinct)
    (second : name.Distinct) :
    (saved c source name).Distinct := by
  have openApi : (Json.obj [("title", .str c.title), ("version", .str c.version),
      ("format", .str c.format.name)]).Distinct :=
    Json.everywhere_obj.mpr ⟨rfl,
      by simp only [List.forall_mem_cons]; exact ⟨rfl, rfl, rfl, by simp⟩⟩
  have agent : (Json.obj [("timeout", .num c.timeout), ("config", source),
      ("source_name", name)]).Distinct :=
    Json.everywhere_obj.mpr ⟨rfl,
      by simp only [List.forall_mem_cons]; exact ⟨rfl, first, second, by simp⟩⟩
  refine Json.everywhere_obj.mpr ⟨rfl, ?_⟩
  simp only [List.forall_mem_cons]
  exact ⟨rfl, openApi, agent, by simp⟩

open Yaml.Node (isLegible isLegibleText isSimple keyText)

/-- Whether what an agent is sent comes back from the page of a configuration. -/
def isLegibleIn (data : Json) : Bool :=
  ["config", "source_name"].all fun key => isLegible 4 true (sentIn data key)

/-- Everything else comes back whatever it holds: its keys are short, and no line that far left is
broken within an escape. -/
theorem saved_legible (c : Config) {source name : Json}
    (legible : isLegible 4 true source = true ∧ isLegible 4 true name = true) :
    isLegible 0 false (saved c source name) = true := by
  obtain ⟨first, second⟩ := legible
  have keys : ["log_level", "openapi", "title", "version", "format", "agent", "timeout", "config",
      "source_name"].all
      (fun k => isSimple k && decide ((keyText k).length ≤ Yaml.keyLimit)) = true := by
    decide +kernel
  have texts (column : Nat) (left : column < Yaml.ScalarText.width) (s : String) :
      isLegibleText column s = true := by
    simp [isLegibleText, Yaml.ScalarText.isKept, left]
  simp only [List.all_cons, List.all_nil, Bool.and_eq_true] at keys
  simp [saved, isLegible, Yaml.Node.areLegibleMembers, keys,
    texts _ (by decide : 2 < Yaml.ScalarText.width),
    texts _ (by decide : 4 < Yaml.ScalarText.width), first, second]

theorem Holds.ofFileText_saved {c : Config} {source name : Json} (holds : Holds c source name)
    (distinct : (saved c source name).Distinct)
    (legible : isLegible 0 false (saved c source name) = true) :
    ofFileText c.fileText.toList = .ok c := by
  have text : c.fileText.toList =
      Yaml.Node.documentText (Yaml.Node.ofJson (saved c source name)) := by
    rw [fileText, String.toList_ofList, holds.saved_eq, Yaml.Node.ofDatum_ofJson]
  have given : (Datum.ofJson (saved c source name)).isGiven = true := rfl
  have accepted := holds.ofDatum_toDatum
  rw [holds.saved_eq] at accepted
  rw [ofFileText, text, Yaml.read_documentText distinct legible]
  dsimp only [Except.mapError, bind, Except.bind]
  rw [given, if_pos rfl, accepted]

/-- A configuration survives saving if what an agent is sent comes back from the page. -/
theorem ofFileText_fileText {data : Json} (distinct : data.Distinct) {c : Config}
    (accepted : ofDatum (Datum.ofJson data) = .ok c) (legible : isLegibleIn data = true) :
    ofFileText c.fileText.toList = .ok c := by
  have holds := holds_of_accepted accepted
  rw [isLegibleIn, List.all_cons, List.all_cons, Bool.and_eq_true, Bool.and_eq_true] at legible
  exact holds.ofFileText_saved (saved_distinct (sentIn_distinct distinct _)
    (sentIn_distinct distinct _))
    (saved_legible c ⟨legible.1, legible.2.1⟩)

/-- A configuration with texts that look like something else. -/
def chinook : Json :=
  .obj
    [("openapi", .obj [("title", .str " 1e3: #\n~")]),
     ("agent", .obj
       [("timeout", .int 5), ("config", .obj [("<<", .arr [.int 1, .str "null"])]),
         ("source_name", .str "chinook")])]

theorem ofFileText_fileText_chinook :
    chinook.Distinct ∧ isLegibleIn chinook = true ∧
      ∃ c, ofDatum (Datum.ofJson chinook) = .ok c ∧ ofFileText c.fileText.toList = .ok c := by
  have distinct : chinook.Distinct := by decide
  have legible : isLegibleIn chinook = true := by decide +kernel
  have some : (ofDatum (Datum.ofJson chinook)).isOk = true := by decide +kernel
  refine ⟨distinct, legible, ?_⟩
  cases accepted : ofDatum (Datum.ofJson chinook) with
  | error f =>
    rw [accepted] at some
    cases some
  | ok c => exact ⟨c, rfl, ofFileText_fileText distinct accepted legible⟩

/-! A key that is too long. -/

open Yaml.Node (documentText ofJson memberText memberLine writeSimpleKey lastLine memberText_simple
  memberText_mapping)

/-- The page of a configuration up to the first key of what an agent is sent. -/
def pageBefore (c : Config) : List Char :=
  memberText 0 "log_level" (.str c.logLevel.name) ++ '\n' ::
    (memberText 0 "openapi" (.obj [("title", .str c.title), ("version", .str c.version),
      ("format", .str c.format.name)]) ++
      '\n' :: (writeSimpleKey (.key 0) (.scalar none .str "agent") ++
        ':' :: (Yaml.ScalarText.newLine 2 ++
          (memberText 2 "timeout" (.num c.timeout) ++ Yaml.ScalarText.newLine 2 ++
            (writeSimpleKey (.key 2) (.scalar none .str "config") ++
              ':' :: Yaml.ScalarText.newLine 4)))))

theorem page_eq (c : Config) (key : String) (x name : Json) :
    documentText (ofJson (saved c (.obj [(key, x)]) name)) =
      pageBefore c ++ (memberText 4 key x ++ Yaml.ScalarText.newLine 2 ++
        memberText 2 "source_name" name ++ ['\n']) := by
  have agent := @memberText_mapping 0 "agent" (by decide +kernel) ("timeout", .num c.timeout)
    [("config", .obj [(key, x)]), ("source_name", name)] (lastLine false)
  have config := @memberText_mapping 2 "config" (by decide +kernel) (key, x) []
    ⟨2, memberText 2 "source_name" name ++ '\n' :: (lastLine false).chars⟩
  calc documentText (ofJson (saved c (.obj [(key, x)]) name))
    _ = (memberLine 0
          [("log_level", .str c.logLevel.name),
           ("openapi", .obj [("title", .str c.title), ("version", .str c.version),
             ("format", .str c.format.name)]),
           ("agent", .obj [("timeout", .num c.timeout), ("config", .obj [(key, x)]),
             ("source_name", name)])]
          (lastLine false)).text := Yaml.Node.write_members .root _ _ (lastLine false)
    _ = memberText 0 "log_level" (.str c.logLevel.name) ++ '\n' ::
          (memberText 0 "openapi"
              (.obj [("title", .str c.title), ("version", .str c.version),
                ("format", .str c.format.name)]) ++
            '\n' :: (memberText 0 "agent"
                (.obj [("timeout", .num c.timeout), ("config", .obj [(key, x)]),
                  ("source_name", name)]) ++
              '\n' :: (lastLine false).chars)) := rfl
    _ = memberText 0 "log_level" (.str c.logLevel.name) ++ '\n' ::
          (memberText 0 "openapi"
              (.obj [("title", .str c.title), ("version", .str c.version),
                ("format", .str c.format.name)]) ++
            '\n' :: (writeSimpleKey (.key 0) (.scalar none .str "agent") ++
              ':' :: (Yaml.ScalarText.newLine 2 ++
                (memberText 2 "timeout" (.num c.timeout) ++
                  '\n' :: ' ' :: ' ' :: (memberText 2 "config" (.obj [(key, x)]) ++
                    '\n' ::
                      (Yaml.Line.mk 2 (memberText 2 "source_name" name ++
                        '\n' :: (lastLine false).chars)).chars))))) := by
      rw [agent]
      rfl
    _ = _ := by
      rw [config]
      simp [pageBefore, memberLine, Yaml.Line.chars, lastLine, Yaml.ScalarText.newLine,
        List.replicate_succ]

theorem read_of_ofFileText {text : List Char} {c : Config} (accepted : ofFileText text = .ok c) :
    (Yaml.read text).isOk = true := by
  cases read : Yaml.read text with
  | ok d => rfl
  | error f =>
    rw [ofFileText, read] at accepted
    cases accepted

/-- A text of 110 characters, each of them ten characters long once it is escaped. -/
def faces : List Char :=
  List.replicate 110 '😀'

/-- The configuration whose source has such a text for a key. -/
def withFaces : Config := { source := some ⟨none, [(.str (String.ofList faces), .int 1)]⟩ }

/-- A configuration with a long key is accepted and saved, and cannot be read again. -/
theorem ofFileText_longKey :
    ¬ ∀ (data : Json) (c : Config), data.Distinct → ofDatum (Datum.ofJson data) = .ok c →
      ofFileText c.fileText.toList = .ok c := by
  intro always
  have holds : Holds withFaces (.obj [(String.ofList faces, .int 1)]) .null :=
    ⟨rfl, by decide, rfl, rfl⟩
  have kept := always (.obj [("agent", .obj [("config", .obj [(String.ofList faces, .int 1)])])])
    withFaces (by decide) rfl
  have simple : Yaml.Node.isSimple (String.ofList faces) = true := by
    rw [Yaml.Node.isSimple_ofList]
    decide +kernel
  rw [fileText, String.toList_ofList, holds.saved_eq, Yaml.Node.ofDatum_ofJson, page_eq,
    memberText_simple 4 simple, Yaml.Node.writeKey_eq, String.toList_ofList] at kept
  exact absurd (read_of_ofFileText kept) (by decide +kernel)

end Config

end AgentWire
