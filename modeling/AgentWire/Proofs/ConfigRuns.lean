import AgentWire.Proofs.ConfigKinds
import AgentWire.Proofs.FileEffects
import AgentWire.Proofs.Verdicts

/-! Runs that start with a file for their configuration. The file is read before any command starts,
so a file that is refused ends the run of every command, and stays as it is even where it was to be
replaced. -/
namespace AgentWire

/-! A file that has been written is read again. -/

theorem NameTable.mem_put_names {α : Type} {name other : String} (a : α)
    {entries : List (String × α)} :
    other ∈ (put name a entries).map (·.1) ↔ other = name ∨ other ∈ entries.map (·.1) := by
  induction entries with
  | nil => simp [put]
  | cons e rest ih =>
    obtain ⟨n, b⟩ := e
    rw [put]
    split
    · rename_i same
      simp [same]
    split
    · simp
    · rw [List.map_cons, List.map_cons, List.mem_cons, List.mem_cons, ih]
      exact or_left_comm

namespace Files

theorem isDirectory_iff {fs : Files} {p : FilePlace} : fs.isDirectory p = true ↔
    p.parts = [] ∨ p.key ∈ standardDirectories ∨
      ∃ path ∈ fs.entries.map (·.1), (p.key ++ "/").toList <+: path.toList := by
  simp [isDirectory, or_assoc]

/-- Putting a file makes no directory of the place where it stands, and takes none away. -/
theorem isDirectory_put {fs : Files} {key : String} (text : String) (p : FilePlace) :
    (fs.isDirectory p = true → (fs.put key text).isDirectory p = true) ∧
      (fs.isDirectory p = false → p.key = key → (fs.put key text).isDirectory p = false) := by
  unfold put
  split
  · exact ⟨id, fun file _ => file⟩
  have names (path : String) :
      path ∈ (fs.insert key text).entries.map (·.1) ↔ path = key ∨ path ∈ fs.entries.map (·.1) :=
    NameTable.mem_put_names text
  constructor
  · rw [isDirectory_iff, isDirectory_iff]
    rintro (root | standard | ⟨path, inside, below⟩)
    · exact .inl root
    · exact .inr (.inl standard)
    · exact .inr (.inr ⟨path, (names path).mpr (.inr inside), below⟩)
  · rintro file rfl
    rw [← Bool.not_eq_true, isDirectory_iff] at file ⊢
    rintro (root | standard | ⟨path, inside, below⟩)
    · exact file (.inl root)
    · exact file (.inr (.inl standard))
    · obtain rfl | there := (names path).mp inside
      -- What lies below a place has a longer path than the place itself.
      · have length := below.length_le
        simp at length
      · exact file (.inr (.inr ⟨path, there, below⟩))

theorem textAt_put {fs : Files} {key : String} (kept : key ≠ nullDevice) (text : String) :
    (fs.put key text).textAt key = some text := by
  rw [textAt, if_neg kept, put, if_neg kept, NameTable.find?_insert, if_pos rfl]

/-- A way that leads to a place, taken or free, leads to the text that has been put there. -/
theorem follow_put {fs : Files} {start : FilePlace} {parts : List String} {key : String}
    (kept : key ≠ nullDevice) (text : String)
    (leads : fs.follow start parts = .free key ∨ ∃ old, fs.follow start parts = .file key old) :
    (fs.put key text).follow start parts = .file key text := by
  induction parts generalizing start with
  | nil => obtain leads | ⟨_, leads⟩ := leads <;> cases leads
  | cons part rest ih =>
    rw [follow] at leads ⊢
    split at leads
    · rename_i back
      rw [if_pos back]
      exact ih leads
    · rename_i down
      rw [if_neg down]
      split at leads
      · obtain leads | ⟨_, leads⟩ := leads <;> cases leads
      · rename_i short
        rw [if_neg short]
        dsimp only at leads ⊢
        -- A directory on the way is still one, and where the way ends is still none.
        cases directory : fs.isDirectory (start.down part) with
        | true =>
          rw [if_pos directory] at leads
          rw [if_pos ((isDirectory_put text _).1 directory)]
          exact ih leads
        | false =>
          have here : (start.down part).key = key ∧ rest = [] := by
            rw [if_neg (by simp [directory])] at leads
            split at leads
            · obtain leads | ⟨_, leads⟩ := leads <;> cases leads
              exact ⟨rfl, rfl⟩
            · obtain leads | ⟨_, leads⟩ := leads <;> cases leads
            · obtain leads | ⟨_, leads⟩ := leads <;> cases leads
              exact ⟨rfl, rfl⟩
            · obtain leads | ⟨_, leads⟩ := leads <;> cases leads
          obtain ⟨rfl, rfl⟩ := here
          rw [if_neg (by simp [(isDirectory_put text _).2 directory rfl]), textAt_put kept]

theorem read_put {fs : Files} {p : FilePath} {key : String} (leads : fs.Leads p key)
    (kept : key ≠ nullDevice) (text : String) :
    (fs.put key text).read p = .ok (unifyLineEnds text.toList) := by
  have found : (fs.put key text).target p = .file key text := by
    have way : fs.target p = .free key ∨ ∃ old, fs.target p = .file key old := by
      cases leads with
      | free found => exact .inl found
      | file old found => exact .inr ⟨old, found⟩
    unfold target at way ⊢
    split at way
    · obtain way | ⟨_, way⟩ := way <;> cases way
    · rename_i nameable
      rw [if_neg nameable]
      split at way
      · obtain way | ⟨_, way⟩ := way <;> cases way
      · rename_i short
        rw [if_neg short]
        exact follow_put kept text way
  rw [read, found]

theorem target_default {fs : Files}
    (place : fs.isDirectory (FilePath.ofText Config.defaultPath).place = false) :
    fs.target (FilePath.ofText Config.defaultPath) = match fs.find? Config.defaultPath with
      | some text => .file Config.defaultPath text
      | none => .free Config.defaultPath := by
  have here : FilePlace.down ⟨.here, []⟩ Config.defaultPath =
      (FilePath.ofText Config.defaultPath).place := by rfl
  have followed : fs.target (FilePath.ofText Config.defaultPath) =
      fs.follow ⟨.here, []⟩ [Config.defaultPath] := by rfl
  rw [followed, follow, if_neg (by decide), if_neg (by decide)]
  dsimp only
  rw [here, if_neg (by simp [place])]
  have key : (FilePath.ofText Config.defaultPath).place.key = Config.defaultPath := by rfl
  rw [key, textAt, if_neg (by decide)]
  cases fs.find? Config.defaultPath <;> rfl

end Files

namespace Config

theorem ofFileText_default : ofFileText (unifyLineEnds ({} : Config).fileText.toList) = .ok {} := by
  have holds : Holds {} .null .null := ⟨rfl, by decide, rfl, rfl⟩
  have text : ({} : Config).fileText.toList =
      Yaml.Node.documentText (Yaml.Node.ofJson (saved {} .null .null)) := by
    rw [fileText, String.toList_ofList, holds.saved_eq, Yaml.Node.ofDatum_ofJson]
  rw [Yaml.unifyLineEnds_ascii (text ▸ Yaml.Node.documentText_ascii _)]
  exact holds.ofFileText_saved (saved_distinct rfl rfl) (saved_legible {} ⟨rfl, rfl⟩)

/-- Data whose timeout is an integer beyond the doubles, and nothing else is wrong with. -/
def IsOverlong (d : Datum) : Prop :=
  ∃ m, d.mapping? = some m ∧ Passes m ∧ IsTooLong (valueIn "agent" "timeout" m)

theorem ofDatum_cases (d : Datum) :
    (((∃ c, ofDatum d = .ok c) ∨
        ∃ f, ofDatum d = .error f ∧ (ConfigFileFault.invalid f).isConfigError = true) ∧
      ¬ IsOverlong d) ∨
      (ofDatum d = .error .timeoutTooLarge ∧ IsOverlong d) := by
  cases shape : d.mapping? with
  | none =>
    have refused : ofDatum d = .error .noMapping := by
      simp only [ofDatum, shape]
      rfl
    refine .inl ⟨.inr ⟨_, refused, rfl⟩, ?_⟩
    rintro ⟨m, same, _⟩
    rw [shape] at same
    cases same
  | some m =>
    have whole : d = m.toDatum := by
      cases d with
      | map mark entries =>
        cases shape
        rfl
      | _ => cases shape
    have same {n : Mapping} (given : d.mapping? = some n) : n = m := by
      rw [shape] at given
      cases given
      rfl
    have ends := ofDatum_ends m
    rw [← whole] at ends
    generalize ofDatum d = outcome at ends
    cases ends with
    | accepted c passes inRange =>
      refine .inl ⟨.inl ⟨c, rfl⟩, ?_⟩
      rintro ⟨n, given, _, beyond⟩
      exact inRange (same given ▸ beyond)
    | tooLong passes beyond => exact .inr ⟨rfl, m, shape, passes, beyond⟩
    | refused f own broken =>
      refine .inl ⟨.inr ⟨f, rfl, own⟩, ?_⟩
      rintro ⟨n, given, passes, _⟩
      exact broken (same given ▸ passes)

end Config

namespace Cli

theorem configAt_read {w : World} {path : FilePath} {text : List Char}
    (found : w.files.read path = .ok text) :
    configAt w path = (Config.ofFileText text).mapError (.config path.text) := by
  have there : w.files.contains path = .ok true := by
    unfold Files.read at found
    unfold Files.contains
    split at found
    · rename_i leads
      rw [leads]
    · cases found
    · cases found
    · cases found
  unfold configAt
  rw [there, found]
  rfl

/-! A task with the configuration at a path. -/

section Asked

variable {w : World} {args : List String} {t : Task} {s : Settings} {name : String}
  (asks : asked args = .task t s) (named : s.config = some name)
include asks named

theorem run_accepted {c : Config} (accepted : configAt w (FilePath.ofText name) = .ok c) :
    run w args =
      { runTask w c (FilePath.ofText name) s t with levels := [s.logLevel.getD c.logLevel] } := by
  simp only [run, asks, named, accepted]

theorem run_refused {path : String} {f : ConfigFileFault}
    (refused : configAt w (FilePath.ofText name) = .error (.config path f))
    (own : f.isConfigError = true) :
    run w args = printed w 1 (lines ["Error: " ++ f.message path]) := by
  simp only [run, asks, named, refused, own, if_true]

theorem run_faulty {path : String} {f : ConfigFileFault}
    (faulty : configAt w (FilePath.ofText name) = .error (.config path f))
    (foreign : f.isConfigError = false) :
    run w args = failed w (.config path f) := by
  simp only [run, asks, named, faulty, foreign, Bool.false_eq_true, if_false]

end Asked

/-- A task finds data for its configuration at a path: those of the file there, or no entries at all
if the data of the file do not count as given. -/
structure Finds (w : World) (args : List String) (t : Task) (s : Settings) (name : String)
    (d : Datum) : Prop where
  asks : asked args = .task t s
  named : s.config = some name
  data : ∃ text read, w.files.read (FilePath.ofText name) = .ok text ∧ Yaml.read text = .ok read ∧
    d = if read.isGiven then read else .map none []

theorem Finds.configAt {w : World} {args : List String} {t : Task} {s : Settings} {name : String}
    {d : Datum} (finds : Finds w args t s name d) : configAt w (FilePath.ofText name) =
      (Config.ofDatum d).mapError fun f => .config (FilePath.ofText name).text (.invalid f) := by
  obtain ⟨text, read, found, document, rfl⟩ := finds.data
  rw [configAt_read found, Config.ofFileText, document]
  show ((Config.ofDatum _).mapError ConfigFileFault.invalid).mapError _ = _
  cases Config.ofDatum (if read.isGiven then read else .map none []) <;> rfl

/-- JSON data make a configuration or have a fault of the configuration, which ends every task with
a message and the code one. The one exception is a timeout beyond the doubles where nothing else is
wrong: this fault is no fault of the configuration, and no task deals with it. -/
theorem faults_reported (data : Json) :
    (¬ Config.IsOverlong (Datum.ofJson data) →
      (∃ c, Config.ofDatum (Datum.ofJson data) = .ok c) ∨
        ∃ f, Config.ofDatum (Datum.ofJson data) = .error f ∧
          (ConfigFileFault.invalid f).isConfigError = true) ∧
    (Config.IsOverlong (Datum.ofJson data) →
      Config.ofDatum (Datum.ofJson data) = .error .timeoutTooLarge) ∧
    ∀ w args t s name, Finds w args t s name (Datum.ofJson data) →
      (∀ c, Config.ofDatum (Datum.ofJson data) = .ok c →
        run w args =
          { runTask w c (FilePath.ofText name) s t with levels := [s.logLevel.getD c.logLevel] }) ∧
      (∀ f, Config.ofDatum (Datum.ofJson data) = .error f →
        ¬ Config.IsOverlong (Datum.ofJson data) →
        run w args = printed w 1 (lines ["Error: " ++ f.message])) ∧
      (Config.IsOverlong (Datum.ofJson data) →
        run w args =
          failed w (.config (FilePath.ofText name).text (.invalid .timeoutTooLarge))) := by
  have outcome := Config.ofDatum_cases (Datum.ofJson data)
  have ends (inRange : ¬ Config.IsOverlong (Datum.ofJson data)) :=
    (outcome.resolve_right fun both => inRange both.2).1
  have fails (beyond : Config.IsOverlong (Datum.ofJson data)) :=
    (outcome.resolve_left fun both => both.2 beyond).1
  refine ⟨ends, fails, fun w args t s name finds =>
    ⟨fun c accepted => ?_, fun f refused inRange => ?_, fun beyond => ?_⟩⟩
  · refine run_accepted finds.asks finds.named ?_
    rw [finds.configAt, accepted]
    rfl
  · have own : (ConfigFileFault.invalid f).isConfigError = true := by
      obtain ⟨c, accepted⟩ | ⟨g, same, own⟩ := ends inRange
      · rw [accepted] at refused
        cases refused
      · rw [same] at refused
        cases refused
        exact own
    have placed : configAt w (FilePath.ofText name) =
        .error (.config (FilePath.ofText name).text (.invalid f)) := by
      rw [finds.configAt, refused]
      rfl
    have message : (ConfigFileFault.invalid f).message (FilePath.ofText name).text =
        f.message := rfl
    rw [run_refused finds.asks finds.named placed own, message]
  · refine run_faulty finds.asks finds.named ?_ rfl
    rw [finds.configAt, fails beyond]
    rfl

theorem read_configured {text : String} (ascii : AsciiText text.toList) :
    (configured text).files.read (FilePath.ofText Config.defaultPath) = .ok text.toList := by
  have leads : Files.Leads .empty (FilePath.ofText Config.defaultPath) Config.defaultPath :=
    .free (by rfl)
  rw [configured, Files.read_put leads (by decide), Yaml.unifyLineEnds_ascii ascii]

/-- Data with a log level that is none. -/
def loud : Json :=
  .obj [("log_level", .str "LOUD")]

theorem ofDatum_loud : Config.ofDatum (Datum.ofJson loud) = .error (.logLevel "LOUD") := by rfl

theorem finds_loud :
    Finds (configured "log_level: LOUD\n") ["list"] .list {} Config.defaultPath
      (Datum.ofJson loud) := by
  have text : "log_level: LOUD\n".toList = Yaml.Node.documentText (Yaml.Node.ofJson loud) := by
    decide +kernel
  have found := read_configured (text ▸ Yaml.Node.documentText_ascii loud)
  have document : Yaml.read "log_level: LOUD\n".toList = .ok (Datum.ofJson loud) :=
    text ▸ Yaml.read_documentText (by decide) (by decide +kernel)
  exact ⟨by rfl, rfl, _, _, found, document, rfl⟩

theorem faults_reported_loud :
    Finds (configured "log_level: LOUD\n") ["list"] .list {} Config.defaultPath
      (Datum.ofJson loud) ∧
      ¬ Config.IsOverlong (Datum.ofJson loud) ∧
      run (configured "log_level: LOUD\n") ["list"] =
        printed (configured "log_level: LOUD\n") 1 (lines
        ["Error: log_level must be one of DEBUG, INFO, WARNING, ERROR, CRITICAL, got 'LOUD'"]) := by
  have inRange : ¬ Config.IsOverlong (Datum.ofJson loud) := by
    rintro ⟨m, shape, _, i, given, _⟩
    cases shape
    cases given
  have message : "Error: " ++ (ConfigFault.logLevel "LOUD").message =
      "Error: log_level must be one of DEBUG, INFO, WARNING, ERROR, CRITICAL, got 'LOUD'" := by
    decide +kernel
  have reported := ((faults_reported loud).2.2 _ _ _ _ _ finds_loud).2.1 _ ofDatum_loud inRange
  rw [message] at reported
  exact ⟨finds_loud, inRange, reported⟩

/-- Data with nothing but a timeout. -/
def timed (i : Int) : Json :=
  .obj [("agent", .obj [("timeout", .int i)])]

theorem isOverlong_timed {i : Int} (beyond : Double.tooLarge ≤ (i : ℚ)) :
    Config.IsOverlong (Datum.ofJson (timed i)) := by
  have some : (0 : ℚ) < Double.tooLarge := mul_pos (by norm_num) (by positivity)
  have positive : 0 < i := by exact_mod_cast some.trans_le beyond
  refine ⟨⟨none, _⟩, rfl, ⟨?_, ?_, ?_, ?_, ?_, ?_, fun _ _ => trivial⟩, i, rfl, beyond⟩
  · intro d given
    cases given
  · intro d given
    cases given
  · intro d given
    cases given
  · intro d given
    cases given
    exact .inl (.inr ⟨_, rfl⟩)
  · intro d given
    cases given
    exact .inl (.inl ⟨i, rfl, positive⟩)
  · intro d given
    cases given

theorem tooLarge_le_power (n : Nat) (digits : 310 ≤ n) :
    Double.tooLarge ≤ ((Int.ofNat (Nat.pow 10 n) : Int) : ℚ) := by
  have larger : (10 : ℚ) ^ 310 ≤ 10 ^ n := pow_le_pow_right₀ (by norm_num) digits
  refine Decimal.tooLarge_lt.le.trans (larger.trans (le_of_eq ?_))
  rw [Int.ofNat_eq_natCast, Nat.pow_eq]
  push_cast
  rfl

/-- A timeout that is an integer beyond the doubles is no fault of the configuration. -/
theorem faults_unreported : ¬ ∀ data : Json, (∃ c, Config.ofDatum (Datum.ofJson data) = .ok c) ∨
    ∃ f, Config.ofDatum (Datum.ofJson data) = .error f ∧
      (ConfigFileFault.invalid f).isConfigError = true := by
  intro always
  have unreported {i : Int} (beyond : Double.tooLarge ≤ (i : ℚ)) :
      ¬ ((∃ c, Config.ofDatum (Datum.ofJson (timed i)) = .ok c) ∨
        ∃ f, Config.ofDatum (Datum.ofJson (timed i)) = .error f ∧
          (ConfigFileFault.invalid f).isConfigError = true) := by
    have overlong := isOverlong_timed beyond
    have failed := ((Config.ofDatum_cases _).resolve_left fun both => both.2 overlong).1
    rw [failed]
    rintro (⟨c, accepted⟩ | ⟨f, refused, own⟩)
    · cases accepted
    · cases refused
      cases own
  exact unreported (tooLarge_le_power 400 (by decide)) (always _)

/-! Writing the default configuration. -/

/-- The default configuration stands in its place and is loaded from there; other files are as they
were. -/
structure Restores (w : World) (t : Trace) : Prop where
  exit : t.exit = .code 0
  stdout : t.stdout = lines ["Created " ++ Config.defaultPath]
  written : t.files.find? Config.defaultPath = some ({} : Config).fileText
  others : ∀ other, other ≠ Config.defaultPath → t.files.find? other = w.files.find? other
  loaded : configAt { w with files := t.files } (FilePath.ofText Config.defaultPath) = .ok {}

theorem asked_init_force : asked ["init", "--force"] = .task .init { force := true } := by rfl

section Forced

variable {w : World}
  (place : w.files.isDirectory (FilePath.ofText Config.defaultPath).place = false)
include place

theorem leads_default : w.files.Leads (FilePath.ofText Config.defaultPath) Config.defaultPath := by
  have target := Files.target_default place
  cases found : w.files.find? Config.defaultPath with
  | none => exact .free (by rw [target, found])
  | some text => exact .file text (by rw [target, found])

theorem configAt_default {text : String} (found : w.files.find? Config.defaultPath = some text) :
    configAt w (FilePath.ofText Config.defaultPath) =
      (Config.ofFileText (unifyLineEnds text.toList)).mapError (.config Config.defaultPath) := by
  have read : w.files.read (FilePath.ofText Config.defaultPath) =
      .ok (unifyLineEnds text.toList) := by
    rw [Files.read, Files.target_default place, found]
  rw [configAt_read read]
  rfl

theorem restores_of_accepted {c : Config}
    (accepted : configAt w (FilePath.ofText Config.defaultPath) = .ok c) :
    Restores w (run w ["init", "--force"]) := by
  have leads := leads_default place
  have there : ∃ b, w.files.contains (FilePath.ofText Config.defaultPath) = .ok b := by
    rw [Files.contains, Files.target_default place]
    cases w.files.find? Config.defaultPath with
    | none => exact ⟨_, rfl⟩
    | some text => exact ⟨_, rfl⟩
  have wrote : w.files.write (FilePath.ofText Config.defaultPath) ({} : Config).fileText =
      .ok (w.files.put Config.defaultPath ({} : Config).fileText) := by
    cases leads with
    | free found => rw [Files.write, found]
    | file old found => rw [Files.write, found]
  have trace : run w ["init", "--force"] =
      { printed w 0 (lines ["Created " ++ Config.defaultPath]) with
        files := w.files.put Config.defaultPath ({} : Config).fileText,
        levels := [c.logLevel] } := by
    obtain ⟨b, there⟩ := there
    rw [run_accepted asked_init_force rfl accepted]
    simp only [runTask, runInit, there, wrote, Bool.not_true, Bool.and_false,
      Bool.false_eq_true, if_false]
    rfl
  have kept : Config.defaultPath ≠ Files.nullDevice := by decide
  have read :
      ({ w with files := w.files.put Config.defaultPath ({} : Config).fileText } : World).files.read
        (FilePath.ofText Config.defaultPath) = .ok (unifyLineEnds ({} : Config).fileText.toList) :=
    Files.read_put leads kept _
  rw [trace]
  refine ⟨rfl, rfl, ?_, fun other different => Files.find?_put_other _ _ different, ?_⟩
  · show (w.files.put _ _).find? _ = _
    rw [Files.put, if_neg kept, NameTable.find?_insert, if_pos rfl]
  · show configAt { w with files := w.files.put Config.defaultPath ({} : Config).fileText } _ = _
    rw [configAt_read read, Config.ofFileText_default]
    rfl

/-- Where no file is, or one that holds a configuration, the default configuration is put, and is
loaded from there. A file that is no document, or whose data are none of a configuration, is
reported as for every other command, and stays as it is. -/
theorem run_init_forced :
    (w.files.find? Config.defaultPath = none → Restores w (run w ["init", "--force"])) ∧
    ∀ text, w.files.find? Config.defaultPath = some text →
      (∀ c, Config.ofFileText (unifyLineEnds text.toList) = .ok c →
        Restores w (run w ["init", "--force"])) ∧
      ∀ f, Config.ofFileText (unifyLineEnds text.toList) = .error f → f.isConfigError = true →
        run w ["init", "--force"] =
          printed w 1 (lines ["Error: " ++ f.message Config.defaultPath]) := by
  refine ⟨fun missing => ?_, fun text found => ⟨fun c accepted => ?_, fun f refused own => ?_⟩⟩
  · have absent : w.files.contains (FilePath.ofText Config.defaultPath) = .ok false := by
      rw [Files.contains, Files.target_default place, missing]
    exact restores_of_accepted place (configAt_absent absent)
  · refine restores_of_accepted place (c := c) ?_
    rw [configAt_default place found, accepted]
    rfl
  · refine run_refused asked_init_force rfl ?_ own
    rw [configAt_default place found, refused]
    rfl

end Forced

theorem place_configured (text : String) :
    (configured text).files.isDirectory (FilePath.ofText Config.defaultPath).place = false :=
  (Files.isDirectory_put text _).2 (by rfl) (by rfl)

theorem run_init_forced_quiet :
    (configured "log_level: debug\n").files.isDirectory (FilePath.ofText Config.defaultPath).place =
      false ∧
      Restores (configured "log_level: debug\n")
        (run (configured "log_level: debug\n") ["init", "--force"]) := by
  have place := place_configured "log_level: debug\n"
  have found : (configured "log_level: debug\n").files.find? Config.defaultPath =
      some "log_level: debug\n" := by rfl
  have accepted : (Config.ofFileText (unifyLineEnds "log_level: debug\n".toList)).isOk = true := by
    decide +kernel
  refine ⟨place, ?_⟩
  cases read : Config.ofFileText (unifyLineEnds "log_level: debug\n".toList) with
  | error f =>
    rw [read] at accepted
    cases accepted
  | ok c => exact ((run_init_forced place).2 _ found).1 c read

/-- A log level that is none keeps the file from being replaced. -/
theorem run_init_refused :
    ¬ ∀ w : World, w.files.isDirectory (FilePath.ofText Config.defaultPath).place = false →
      Restores w (run w ["init", "--force"]) := by
  intro always
  have restores := always (configured "log_level: LOUD\n") (place_configured _)
  have finds : Finds (configured "log_level: LOUD\n") ["init", "--force"] .init { force := true }
      Config.defaultPath (Datum.ofJson loud) :=
    ⟨asked_init_force, rfl, finds_loud.data⟩
  have placed : configAt (configured "log_level: LOUD\n") (FilePath.ofText Config.defaultPath) =
      .error (.config Config.defaultPath (.invalid (.logLevel "LOUD"))) := by
    rw [finds.configAt, ofDatum_loud]
    rfl
  have trace := run_refused asked_init_force rfl placed rfl
  have code := restores.exit
  rw [trace] at code
  cases code

end Cli

end AgentWire
