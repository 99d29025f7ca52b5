import AgentWire.Proofs.SavedConfigs

/-! Which mappings are accepted as configurations. Each key has a kind of its own; what is accepted
is told from what is documented by three of them: sections, the timeout and the name of the source.
A mapping that is not accepted has a fault of the configuration, unless a timeout beyond the doubles
is all that keeps it from being one. -/
namespace AgentWire

namespace Double

open Float.Model Float.Model.UnpackedFloat

/-- What is not at most zero is greater, unless it is no number. -/
theorem zero_lt_iff (x : Float) : 0.0 < x ↔ ¬ x ≤ 0.0 ∧ x.isNaN = false := by
  show decide ((unpacked 0.0).lt (unpacked x) = true) = true ↔
    ¬ decide ((unpacked x).le (unpacked 0.0) = true) = true ∧ (unpacked x).isNaN = false
  have zero : unpacked 0.0 = .zero .positive := by rfl
  rw [zero]
  cases unpacked x with
  | zero s => cases s <;> decide
  | infinity s => cases s <;> decide
  | notANumber => decide
  | finite s m e some =>
    cases s with
    | positive => exact iff_of_true rfl ⟨Bool.false_ne_true, rfl⟩
    | negative => exact iff_of_false Bool.false_ne_true fun both => both.1 rfl

end Double

/-! Data that are no texts. -/

namespace Datum

/-- What a text opens with that stands for a datum of another kind, infinity apart. -/
def openings : List Char := "0123456789-NTFnb[(s\x7b".toList

def NoWord (cs : List Char) : Prop :=
  ∃ c rest, cs = c :: rest ∧ c ∈ openings

theorem NoWord.append {cs : List Char} (opens : NoWord cs) (more : List Char) :
    NoWord (cs ++ more) := by
  obtain ⟨c, rest, rfl, known⟩ := opens
  exact ⟨c, rest ++ more, rfl, known⟩

theorem digit_opens {c : Char} (digit : c.isDigit = true) : c ∈ openings := by
  have bounds : 48 ≤ c.toNat ∧ c.toNat ≤ 57 := by
    simpa [Char.isDigit, UInt32.le_iff_toNat_le] using digit
  have each : ∀ k < 58, 48 ≤ k → Char.ofNat k ∈ openings := by decide
  have same := each c.toNat (by omega) bounds.1
  rwa [Char.ofNat_toNat] at same

theorem noWord_number {cs : List Char} {parsed : Json × List Char}
    (read : Json.number? (cs ++ []) = some parsed) :
    NoWord cs := by
  obtain ⟨c, more, digit, text⟩ := Json.number_head read
  rw [List.append_nil] at text
  rcases text with rfl | rfl
  · exact ⟨c, more, rfl, digit_opens digit⟩
  · exact ⟨'-', c :: more, rfl, by decide⟩

theorem noWord_padded (width n : Nat) : NoWord (NumberText.padded width n) := by
  unfold NumberText.padded
  dsimp only
  have digits : NoWord (Nat.toDigits 10 n) := by
    cases text : Nat.toDigits 10 n with
    | nil => exact absurd text Nat.toDigits_ne_nil
    | cons c rest =>
      exact ⟨c, rest, rfl, digit_opens (NumberText.toDigits_isDigit c (text ▸ List.mem_cons_self))⟩
  cases width - (Nat.toDigits 10 n).length with
  | zero => exact digits
  | succ zeros => exact ⟨'0', _, rfl, by decide⟩

theorem noWord_day (d : Day) : NoWord d.text :=
  ((noWord_padded 4 d.year).append _).append _

theorem noWord_float (x : Float) : floatText x = "inf".toList ∨ NoWord (floatText x) := by
  unfold floatText
  split
  · exact .inr ⟨'n', _, rfl, by decide⟩
  · split
    · rename_i finite
      exact .inr (noWord_number (Json.number_finite finite Json.numberEnds_nil))
    · split
      · exact .inr ⟨'-', _, rfl, by decide⟩
      · exact .inl rfl

/-- A datum that is no text does not read as a word, unless it is infinite. -/
theorem noWord_plain (d : Datum) : (∃ s, d = .str s) ∨ d.plain = "inf".toList ∨ NoWord d.plain := by
  cases d with
  | str s => exact .inl ⟨s, rfl⟩
  | null => exact .inr (.inr ⟨'N', _, rfl, by decide⟩)
  | bool b =>
    cases b
    · exact .inr (.inr ⟨'F', _, rfl, by decide⟩)
    · exact .inr (.inr ⟨'T', _, rfl, by decide⟩)
  | int i => exact .inr (.inr (noWord_number (Json.number_writeInt i Json.numberEnds_nil)))
  | num x => exact .inr (noWord_float x)
  | nan mark => exact .inr (.inr ⟨'n', _, rfl, by decide⟩)
  | bytes bs => exact .inr (.inr ⟨'b', _, rfl, by decide⟩)
  | day mark d => exact .inr (.inr (noWord_day d))
  | moment mark m =>
    exact .inr (.inr ((((((noWord_day m.day).append _).append _).append _).append _).append _))
  | list mark items =>
    have text : plain (.list mark items) = if isOpen [] mark then hint true
      else '[' :: (commaSeparated (inside [] mark) items ++ [']']) := rfl
    rw [text]
    split
    · exact .inr (.inr ⟨'[', _, rfl, by decide⟩)
    · exact .inr (.inr ⟨'[', _, rfl, by decide⟩)
  | pair a b => exact .inr (.inr ⟨'(', _, rfl, by decide⟩)
  | set mark members =>
    cases members with
    | nil => exact .inr (.inr ⟨'s', _, rfl, by decide⟩)
    | cons x rest => exact .inr (.inr ⟨'\x7b', _, rfl, by decide⟩)
  | map mark entries =>
    have text : plain (.map mark entries) = if isOpen [] mark then hint false
      else '\x7b' :: (entryList (inside [] mark) entries ++ ['\x7d']) := rfl
    rw [text]
    split
    · exact .inr (.inr ⟨'\x7b', _, rfl, by decide⟩)
    · exact .inr (.inr ⟨'\x7b', _, rfl, by decide⟩)
  | within mark isList =>
    cases isList
    · exact .inr (.inr ⟨'\x7b', _, rfl, by decide⟩)
    · exact .inr (.inr ⟨'[', _, rfl, by decide⟩)

theorem eq_str_of_format {d : Datum} {f : OutputFormat} (named : d.plainText = f.name) :
    d = .str f.name := by
  have letters : d.plain = f.name.toList := by
    rw [← named, plainText, String.toList_ofList]
  obtain ⟨s, rfl⟩ | infinite | ⟨c, rest, text, opens⟩ := noWord_plain d
  · rw [← named, plainText]
    exact congrArg str String.ofList_toList.symm
  · rw [infinite] at letters
    cases f <;> cases letters
  · rw [text] at letters
    cases f <;> cases letters <;> exact absurd opens (by decide)

/-- Only a text is, in upper case, the name of a log level. -/
theorem exists_str_of_level {d : Datum} {level : LogLevel}
    (named : upperCaseText d.plainText = level.name) :
    ∃ s, d = .str s := by
  have letters : d.plain.flatMap upperCase = level.name.toList := by
    rw [← named, upperCaseText, plainText, String.toList_ofList, String.toList_ofList]
  obtain text | infinite | ⟨c, rest, text, opens⟩ := noWord_plain d
  · exact text
  · have apart : (LogLevel.all.all fun l => "inf".toList.flatMap upperCase != l.name.toList) =
        true := by decide +kernel
    have different := List.all_eq_true.mp apart level (by cases level <;> decide)
    rw [infinite] at letters
    exact absurd letters (bne_iff_ne.mp different)
  · have apart : (openings.all fun c => LogLevel.all.all fun l =>
        (upperCase c).head?.isSome && (upperCase c).head? != l.name.toList.head?) = true := by
      decide +kernel
    have different :=
      List.all_eq_true.mp (List.all_eq_true.mp apart c opens) level (by cases level <;> decide)
    rw [Bool.and_eq_true, bne_iff_ne] at different
    rw [text, List.flatMap_cons] at letters
    refine absurd ?_ different.2
    rw [← letters, List.head?_append_of_ne_nil _ (by simpa using different.1)]

end Datum

namespace LogLevel

theorem ofName_name (level : LogLevel) : ofName? level.name = some level := by
  cases level <;> decide

theorem name_of_ofName {name : String} {level : LogLevel} (found : ofName? name = some level) :
    name = level.name := by
  unfold ofName? at found
  have same := List.find?_some found
  exact (of_decide_eq_true same).symm

end LogLevel

theorem OutputFormat.name_of_ofName {name : String} {f : OutputFormat}
    (found : ofName? name = some f) : name = f.name := by
  unfold ofName? at found
  have same := List.find?_some found
  exact (of_decide_eq_true same).symm

namespace Config

/-! Kinds of values. -/

/-- The value under a key of a section. A section that is no mapping has none. -/
def valueIn (name key : String) (m : Mapping) : Option Datum :=
  ((m.lookup name).bind Datum.mapping?).bind fun s => s.lookup key

def IsMapping (d : Datum) : Prop :=
  d = .null ∨ ∃ m, d.mapping? = some m

def IsText (d : Datum) : Prop :=
  d = .null ∨ ∃ s, d = .str s

/-- A number of seconds, finite and greater than zero. -/
def IsDuration (d : Datum) : Prop :=
  (∃ i : Int, d = .int i ∧ 0 < i) ∨ ∃ x : Float, d = .num x ∧ x.isFinite = true ∧ 0.0 < x

/-- No number of seconds, but none that is at most zero either: infinite, or undefined. -/
def IsUnbounded (d : Datum) : Prop :=
  (∃ x : Float, d = .num x ∧ x.isFinite = false ∧ ¬ x ≤ 0.0) ∨ ∃ mark, d = .nan mark

/-- A number of seconds that is an integer beyond the doubles. -/
def IsTooLong (given : Option Datum) : Prop :=
  ∃ i : Int, given = some (.int i) ∧ Double.tooLarge ≤ i

/-- What the values that are looked at are like, for some kinds of sections, timeouts and names of a
source. -/
structure Kinds (isSection isTimeout isName : Datum → Prop) (m : Mapping) : Prop where
  logLevel : ∀ d, m.lookup "log_level" = some d →
    ∃ s level, d = .str s ∧ upperCaseText s = LogLevel.name level
  openApi : ∀ d, m.lookup "openapi" = some d → isSection d
  format : ∀ d, valueIn "openapi" "format" m = some d → ∃ f, d = .str (OutputFormat.name f)
  agent : ∀ d, m.lookup "agent" = some d → isSection d
  timeout : ∀ d, valueIn "agent" "timeout" m = some d → isTimeout d
  source : ∀ d, valueIn "agent" "config" m = some d → IsMapping d
  sourceName : ∀ d, valueIn "agent" "source_name" m = some d → isName d

/-- Every value has the kind that is documented for it. -/
def Documented : Mapping → Prop :=
  Kinds IsMapping IsDuration IsText

/-- Every value has a kind that is let through. -/
def Passes : Mapping → Prop :=
  Kinds (fun d => IsMapping d ∨ d.isGiven = false)
    (fun d => IsDuration d ∨ IsUnbounded d) fun _ => True

/-! Checks one by one. -/

/-- A check that passes if a condition holds, and finds a fault of the configuration otherwise. -/
inductive Checks {α : Type} (x : Except ConfigFault α) (condition : Prop) : Prop
  | passes (a : α) (ok : x = .ok a) (holds : condition)
  | fails (f : ConfigFault) (failed : x = .error f)
      (own : (ConfigFileFault.invalid f).isConfigError = true) (broken : ¬ condition)

theorem textOf_given {key : String} {m : Mapping} {d : Datum} (given : m.lookup key = some d)
    (default : String) :
    textOf key default m = d.plainText := by
  rw [textOf, given]
  rfl

theorem textOf_missing {key : String} {m : Mapping} (missing : m.lookup key = none)
    (default : String) :
    textOf key default m = default := by
  rw [textOf, missing]
  rfl

theorem plainText_str (s : String) : (Datum.str s).plainText = s :=
  String.ofList_toList

theorem checks_logLevel (m : Mapping) : Checks (logLevelOf m)
    (∀ d, m.lookup "log_level" = some d →
      ∃ s level, d = .str s ∧ upperCaseText s = LogLevel.name level) := by
  unfold logLevelOf
  dsimp only
  cases found : LogLevel.ofName? (upperCaseText (textOf "log_level" LogLevel.warning.name m)) with
  | some level =>
    refine .passes level rfl fun d given => ?_
    have named := LogLevel.name_of_ofName found
    rw [textOf_given given] at named
    obtain ⟨s, rfl⟩ := Datum.exists_str_of_level named
    exact ⟨s, level, rfl, plainText_str s ▸ named⟩
  | none =>
    refine .fails _ rfl rfl fun kind => ?_
    cases given : m.lookup "log_level" with
    | none =>
      rw [textOf_missing given, logLevel_saved] at found
      cases found
    | some d =>
      obtain ⟨s, level, rfl, named⟩ := kind d given
      rw [textOf_given given, plainText_str, named, LogLevel.ofName_name] at found
      cases found

theorem checks_format (s : Mapping) : Checks (formatOf s)
    (∀ d, s.lookup "format" = some d → ∃ f, d = .str (OutputFormat.name f)) := by
  unfold formatOf
  dsimp only
  cases found : OutputFormat.ofName? (textOf "format" OutputFormat.json.name s) with
  | some f =>
    refine .passes f rfl fun d given => ?_
    have named := OutputFormat.name_of_ofName found
    rw [textOf_given given] at named
    exact ⟨f, Datum.eq_str_of_format named⟩
  | none =>
    refine .fails _ rfl rfl fun kind => ?_
    cases given : s.lookup "format" with
    | none =>
      rw [textOf_missing given, format_saved] at found
      cases found
    | some d =>
      obtain ⟨f, rfl⟩ := kind d given
      rw [textOf_given given, plainText_str, format_saved] at found
      cases found

theorem checks_section (name : String) (m : Mapping) : Checks (section? name m)
    (∀ d, m.lookup name = some d → IsMapping d ∨ d.isGiven = false) := by
  unfold section?
  dsimp only
  cases found : m.lookup name with
  | none => exact .passes .empty rfl fun d given => by cases given
  | some d =>
    rw [Option.getD_some]
    cases given : d.isGiven with
    | false =>
      refine .passes .empty rfl fun e same => .inr ?_
      cases same
      exact given
    | true =>
      cases shape : d.mapping? with
      | some s =>
        refine .passes s rfl fun e same => .inl (.inr ⟨s, ?_⟩)
        cases same
        exact shape
      | none =>
        refine .fails _ rfl rfl fun kind => ?_
        obtain (rfl | ⟨s, other⟩) | empty := kind d rfl
        · cases given
        · rw [shape] at other
          cases other
        · rw [given] at empty
          cases empty

theorem lookup_section {name : String} {m s : Mapping} (found : section? name m = .ok s)
    (key : String) :
    s.lookup key = valueIn name key m := by
  unfold section? at found
  unfold valueIn
  cases here : m.lookup name with
  | none =>
    rw [here] at found
    cases found
    rfl
  | some d =>
    rw [here] at found
    dsimp only [Option.getD_some, Option.bind_some] at found ⊢
    split at found
    · rename_i empty
      cases found
      cases d with
      | map mark entries =>
        cases entries with
        | nil => rfl
        | cons e rest => simp [Datum.isGiven] at empty
      | _ => rfl
    · cases shape : d.mapping? with
      | some inner =>
        rw [shape] at found
        cases found
        rfl
      | none =>
        rw [shape] at found
        cases found

theorem checks_timeout (given : Option Datum) : Checks (checkTimeout given)
    (∀ d, given = some d → IsDuration d ∨ IsUnbounded d) := by
  cases given with
  | none => exact .passes _ rfl fun d given => by cases given
  | some d =>
    have refused (rejects : checkTimeout (some d) = .error (.timeout d)) (other : ¬ (IsDuration d ∨
        IsUnbounded d)) :
        Checks (checkTimeout (some d)) (∀ e, some d = some e → IsDuration e ∨ IsUnbounded e) :=
      .fails _ rejects rfl fun kind => other (kind d rfl)
    cases d with
    | int i =>
      by_cases positive : 0 < i
      · refine .passes ⟨.exact i, none⟩ (if_neg (by omega)) fun d same => ?_
        cases same
        exact .inl (.inl ⟨i, rfl, positive⟩)
      · refine refused (if_pos (by omega)) ?_
        rintro ((⟨_, same, above⟩ | ⟨_, same, _⟩) | (⟨_, same, _⟩ | ⟨_, same⟩)) <;> cases same
        exact positive above
    | num x =>
      by_cases low : x ≤ 0.0
      · refine refused (if_pos low) ?_
        rintro ((⟨_, same, _⟩ | ⟨_, same, _, above⟩) | (⟨_, same, _, above⟩ | ⟨_, same⟩)) <;>
          cases same
        · exact ((Double.zero_lt_iff x).mp above).1 low
        · exact above low
      · refine .passes ⟨.double x, none⟩ (if_neg low) fun d same => ?_
        cases same
        cases finite : x.isFinite with
        | true =>
          exact .inl (.inr ⟨x, rfl, finite,
            (Double.zero_lt_iff x).mpr ⟨low, Json.isNaN_of_finite finite⟩⟩)
        | false => exact .inr (.inl ⟨x, rfl, finite, low⟩)
    | nan mark =>
      refine .passes ⟨.double NumberText.notANumber, some mark⟩ rfl fun d same => ?_
      cases same
      exact .inr (.inr ⟨mark, rfl⟩)
    | _ =>
      refine refused rfl ?_
      rintro ((⟨_, same, _⟩ | ⟨_, same, _⟩) | (⟨_, same, _⟩ | ⟨_, same⟩)) <;> cases same

theorem checks_source (s : Mapping) :
    Checks (sourceOf s) (∀ d, s.lookup "config" = some d → IsMapping d) := by
  unfold sourceOf
  cases found : s.lookup "config" with
  | none => exact .passes none rfl fun d given => by cases given
  | some d =>
    cases shape : d.mapping? with
    | some inner =>
      cases d with
      | map mark entries =>
        refine .passes (some ⟨mark, entries⟩) rfl fun d same => .inr ⟨⟨mark, entries⟩, ?_⟩
        cases same
        rfl
      | _ => cases shape
    | none =>
      cases d with
      | null =>
        refine .passes none rfl fun d same => .inl ?_
        cases same
        rfl
      | map mark entries => cases shape
      | _ =>
        refine .fails .source rfl rfl fun kind => ?_
        obtain same | ⟨_, same⟩ := kind _ rfl <;> cases same

/-- A timeout that passes is a double, unless it is an integer beyond all of them. -/
theorem seconds_cases {given : Option Datum} {t : Timeout} (checked : checkTimeout given = .ok t) :
    ((∃ x, seconds t.quantity = .ok x) ∧ ¬ IsTooLong given) ∨
      (seconds t.quantity = .error .timeoutTooLarge ∧ IsTooLong given) := by
  have inRange (x : Float) (other : ∀ i, given ≠ some (.int i)) :
      (∃ y, seconds (.double x) = .ok y) ∧ ¬ IsTooLong given :=
    ⟨⟨x, rfl⟩, fun ⟨i, same, _⟩ => other i same⟩
  cases given with
  | none =>
    cases checked
    exact .inl (inRange _ fun i same => by cases same)
  | some d =>
    cases d with
    | int i =>
      by_cases positive : 0 < i
      · have passed : checkTimeout (some (.int i)) = .ok ⟨.exact i, none⟩ := if_neg (by omega)
        cases passed.symm.trans checked
        have value : Decimal.value ⟨i.natAbs, 0⟩ = i := by
          have size : ((i.natAbs : Int) : ℚ) = i := by rw [Int.natAbs_of_nonneg (by omega)]
          simpa [Decimal.value] using size
        by_cases finite : (Decimal.toFloat ⟨i.natAbs, 0⟩).isFinite = true
        · refine .inl ⟨⟨_, if_pos finite⟩, ?_⟩
          rintro ⟨j, same, beyond⟩
          cases same
          rw [Decimal.isFinite_toFloat_iff, value] at finite
          exact absurd finite (not_lt.mpr beyond)
        · refine .inr ⟨if_neg finite, i, rfl, ?_⟩
          rw [Decimal.isFinite_toFloat_iff, value] at finite
          exact not_lt.mp finite
      · have failed : checkTimeout (some (.int i)) = .error (.timeout (.int i)) := if_pos (by omega)
        cases failed.symm.trans checked
    | num x =>
      rw [checkTimeout] at checked
      split at checked
      · cases checked
      · cases checked
        exact .inl (inRange _ fun i same => by cases same)
    | nan mark =>
      cases checked
      exact .inl (inRange _ fun i same => by cases same)
    | _ => cases checked

/-! All checks. -/

/-- What a mapping ends as, by the kinds of its values. -/
inductive Ends (m : Mapping) : Except ConfigFault Config → Prop
  | accepted (c : Config) (passes : Passes m)
      (inRange : ¬ IsTooLong (valueIn "agent" "timeout" m)) : Ends m (.ok c)
  | tooLong (passes : Passes m) (beyond : IsTooLong (valueIn "agent" "timeout" m)) :
      Ends m (.error .timeoutTooLarge)
  | refused (f : ConfigFault) (own : (ConfigFileFault.invalid f).isConfigError = true)
      (broken : ¬ Passes m) :
      Ends m (.error f)

theorem ofDatum_ends (m : Mapping) : Ends m (ofDatum m.toDatum) := by
  simp only [ofDatum, Mapping.toDatum, Datum.mapping?, pure_bind]
  -- One check after another: the first that fails is the fault, and what a check needs of a section
  -- is what stands there.
  cases checks_logLevel m with
  | fails f failed own broken =>
    rw [failed]
    exact .refused f own fun passes => broken passes.logLevel
  | passes level ok logLevel =>
  rw [ok]
  dsimp only [bind, Except.bind]
  cases checks_section "openapi" m with
  | fails f failed own broken =>
    rw [failed]
    exact .refused f own fun passes => broken passes.openApi
  | passes openApiSection found openApi =>
  rw [found]
  dsimp only
  cases checks_format openApiSection with
  | fails f failed own broken =>
    rw [failed]
    refine .refused f own fun passes => broken ?_
    rw [lookup_section found]
    exact passes.format
  | passes format ok formatted =>
  rw [ok]
  rw [lookup_section found] at formatted
  dsimp only
  cases checks_section "agent" m with
  | fails f failed own broken =>
    rw [failed]
    exact .refused f own fun passes => broken passes.agent
  | passes agentSection found agent =>
  rw [found]
  dsimp only
  rw [lookup_section found "timeout"]
  cases checks_timeout (valueIn "agent" "timeout" m) with
  | fails f failed own broken =>
    rw [failed]
    exact .refused f own fun passes => broken passes.timeout
  | passes given checked timeout =>
  rw [checked]
  dsimp only
  cases checks_source agentSection with
  | fails f failed own broken =>
    rw [failed]
    refine .refused f own fun passes => broken ?_
    rw [lookup_section found]
    exact passes.source
  | passes source ok sourced =>
  rw [ok]
  rw [lookup_section found] at sourced
  dsimp only
  have passes : Passes m :=
    ⟨logLevel, openApi, formatted, agent, timeout, sourced, fun _ _ => trivial⟩
  obtain ⟨⟨x, timed⟩, inRange⟩ | ⟨failed, beyond⟩ := seconds_cases checked
  · rw [timed]
    exact .accepted _ passes inRange
  · rw [failed]
    exact .tooLong passes beyond

theorem not_unbounded {d : Datum} (duration : IsDuration d) : ¬ IsUnbounded d := by
  rintro (⟨x, rfl, infinite, _⟩ | ⟨mark, rfl⟩)
  · obtain ⟨_, other, _⟩ | ⟨_, same, finite, _⟩ := duration
    · cases other
    · cases same
      rw [infinite] at finite
      cases finite
  · obtain ⟨_, other, _⟩ | ⟨_, other, _⟩ := duration <;> cases other

theorem ofDatum_ok_iff (m : Mapping) :
    (∃ c, ofDatum m.toDatum = .ok c) ↔ Passes m ∧ ¬ IsTooLong (valueIn "agent" "timeout" m) := by
  have ends := ofDatum_ends m
  generalize ofDatum m.toDatum = outcome at ends
  cases ends with
  | accepted c passes inRange => exact iff_of_true ⟨c, rfl⟩ ⟨passes, inRange⟩
  | tooLong passes beyond =>
    exact iff_of_false (fun ⟨_, same⟩ => by cases same) fun both => both.2 beyond
  | refused f own broken =>
    exact iff_of_false (fun ⟨_, same⟩ => by cases same) fun both => broken both.1

theorem documented_iff (m : Mapping) : Documented m ↔ Passes m ∧
    (∀ name ∈ ["openapi", "agent"], ∀ d, m.lookup name = some d → IsMapping d) ∧
    (∀ d, valueIn "agent" "timeout" m = some d → ¬ IsUnbounded d) ∧
    ∀ d, valueIn "agent" "source_name" m = some d → IsText d := by
  constructor
  · rintro ⟨logLevel, openApi, format, agent, timeout, source, sourceName⟩
    refine ⟨⟨logLevel, fun d given => .inl (openApi d given), format,
      fun d given => .inl (agent d given), fun d given => .inl (timeout d given), source,
      fun _ _ => trivial⟩, ?_, fun d given => ?_, sourceName⟩
    · rw [List.forall_mem_cons, List.forall_mem_singleton]
      exact ⟨openApi, agent⟩
    · exact not_unbounded (timeout d given)
  · rintro ⟨passes, sections, bounded, named⟩
    rw [List.forall_mem_cons, List.forall_mem_singleton] at sections
    exact ⟨passes.logLevel, sections.1, passes.format, sections.2,
      fun d given => (passes.timeout d given).resolve_right (bounded d given), passes.source, named⟩

/-- A mapping is accepted exactly if its values pass, and the timeout is no integer beyond the
doubles. What passes is documented as far as its sections are null or mappings, its timeout is
finite, and the name of its source is null or a text: nothing of this is asked for. -/
theorem accepted_kinds (m : Mapping) :
    ((∃ c, ofDatum m.toDatum = .ok c) ↔ Passes m ∧ ¬ IsTooLong (valueIn "agent" "timeout" m)) ∧
    (Documented m ↔ Passes m ∧
      (∀ name ∈ ["openapi", "agent"], ∀ d, m.lookup name = some d → IsMapping d) ∧
      (∀ d, valueIn "agent" "timeout" m = some d → ¬ IsUnbounded d) ∧
      ∀ d, valueIn "agent" "source_name" m = some d → IsText d) :=
  ⟨ofDatum_ok_iff m, documented_iff m⟩

/-- A source may have a number for its name, which is documented to be a text. -/
theorem accepted_numbered :
    ¬ ∀ (m : Mapping) (c : Config), ofDatum m.toDatum = .ok c → Documented m := by
  intro always
  have documented := always ⟨none, [(.str "agent", .map none [(.str "source_name", .int 5)])]⟩
    { sourceName := .int 5 } rfl
  obtain null | ⟨s, text⟩ := documented.sourceName (.int 5) rfl
  · cases null
  · cases text

end Config

end AgentWire
