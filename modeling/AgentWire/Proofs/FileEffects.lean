import AgentWire.Cli.Run
import AgentWire.Proofs.NameTables

/-! What runs of the command line do to files: one run changes one file at most, only if it was
asked to write it and ends with code zero. A run that ends otherwise leaves all files as they are,
and so does a sequence of such runs. -/
namespace AgentWire

namespace Files

theorem find?_put_other (fs : Files) {key other : String} (text : String)
    (different : other ≠ key) :
    (fs.put key text).find? other = fs.find? other := by
  unfold put
  split
  · rfl
  · rw [NameTable.find?_insert, if_neg different.symm]

/-- A path leads to the place of a file, which may be there already. -/
inductive Leads (fs : Files) (p : FilePath) (key : String) : Prop
  | free (found : fs.target p = .free key)
  | file (old : String) (found : fs.target p = .file key old)

theorem write_eq_ok {fs after : Files} {p : FilePath} {text : String}
    (done : fs.write p text = .ok after) :
    ∃ key, fs.Leads p key ∧ after = fs.put key text := by
  unfold write at done
  split at done
  · rename_i key old found
    cases done
    exact ⟨key, .file old found, rfl⟩
  · rename_i key found
    cases done
    exact ⟨key, .free found, rfl⟩
  · cases done
  · cases done

theorem textAt_of_follow {fs : Files} {start : FilePlace} {parts : List String} {key : String}
    (found : fs.follow start parts = .free key) : fs.textAt key = none := by
  induction parts generalizing start with
  | nil => cases found
  | cons part rest ih =>
    unfold follow at found
    split at found
    · exact ih found
    · split at found
      · cases found
      · dsimp only at found
        split at found
        · exact ih found
        · split at found
          · cases found
          · cases found
          · rename_i missing
            cases found
            exact missing
          · cases found

theorem textAt_of_free {fs : Files} {p : FilePath} {key : String}
    (found : fs.target p = .free key) :
    fs.textAt key = none := by
  unfold target at found
  split at found
  · cases found
  · split at found
    · cases found
    · exact textAt_of_follow found

/-- Where nothing is, a path can only lead to a free place. -/
theorem free_of_not_contains {fs : Files} {p : FilePath} {key : String}
    (absent : fs.contains p = .ok false) (leads : fs.Leads p key) : fs.textAt key = none := by
  cases leads with
  | free found => exact textAt_of_free found
  | file old found => simp [contains, found] at absent

end Files

namespace Cli

/-- One run in a sequence of them: the files come from the run before. -/
structure Invocation where
  args : List String
  stdin : String
  agent : Agent

def Invocation.trace (i : Invocation) (fs : Files) : Trace :=
  run ⟨fs, i.stdin, i.agent⟩ i.args

def filesAfter (fs : Files) (is : List Invocation) : Files :=
  is.foldl (fun fs i => (i.trace fs).files) fs

/-- Arguments ask for a file to be written: the configuration, which must not be there unless it may
be replaced, or the output of the exported document. -/
inductive AsksToWrite (fs : Files) (args : List String) (key : String) : Prop
  | configuration (s : Settings) (path : String) (asks : asked args = .task .init s)
      (named : s.config = some path) (leads : fs.Leads (FilePath.ofText path) key)
      (allowed : s.force = true ∨ fs.textAt key = none)
  | output (s : Settings) (name : String) (asks : asked args = .task .openapi s)
      (named : s.output = some name) (leads : fs.Leads (FilePath.ofText name) key)

structure Touches (fs : Files) (args : List String) (t : Trace) : Prop where
  /-- All files but one keep their text. -/
  one : ∃ key, ∀ other, other ≠ key → t.files.find? other = fs.find? other
  /-- A file that changes was to be written, and the run is a success. -/
  asked : ∀ key, t.files.find? key ≠ fs.find? key → t.exit = .code 0 ∧ AsksToWrite fs args key
  /-- Any other end leaves all files as they are. -/
  spared : t.exit ≠ .code 0 → t.files = fs

namespace Touches

variable {fs : Files} {args : List String} {t : Trace}

theorem nothing (same : t.files = fs) : Touches fs args t :=
  ⟨⟨"", fun _ _ => by rw [same]⟩, fun _ changed => absurd (by rw [same]) changed, fun _ => same⟩

theorem written {key text : String} (success : t.exit = .code 0) (put : t.files = fs.put key text)
    (asks : AsksToWrite fs args key) : Touches fs args t := by
  have others : ∀ other, other ≠ key → t.files.find? other = fs.find? other := by
    intro other different
    rw [put, Files.find?_put_other fs text different]
  refine ⟨⟨key, others⟩, ?_, fun failed => absurd success failed⟩
  intro other changed
  by_cases same : other = key
  · exact ⟨success, same ▸ asks⟩
  · exact absurd (others other same) changed

theorem printed (w : World) (args : List String) (code : Nat) (text : String) :
    Touches w.files args (printed w code text) :=
  .nothing rfl

theorem failed (w : World) (args : List String) (f : Fault) : Touches w.files args (failed w f) :=
  .nothing rfl

end Touches

/-! Each command. -/

theorem runInit_touches {w : World} {args : List String} {s : Settings} {path : String}
    (asks : asked args = .task .init s) (named : s.config = some path) :
    Touches w.files args (runInit w (FilePath.ofText path) s.force) := by
  unfold runInit
  split
  · exact .nothing rfl
  · rename_i there found
    split
    · exact .nothing rfl
    · rename_i allowed
      split
      · rename_i files done
        obtain ⟨key, leads, rfl⟩ := Files.write_eq_ok done
        refine .written rfl rfl (.configuration s path asks named leads ?_)
        cases force : s.force with
        | true => exact .inl rfl
        | false =>
          cases there with
          | true => simp [force] at allowed
          | false => exact .inr (Files.free_of_not_contains found leads)
      · exact .nothing rfl

theorem runOpenApi_touches {w : World} {args : List String} {s : Settings} (c : Config)
    (asks : asked args = .task .openapi s) :
    Touches w.files args (runOpenApi w c s.output s.format) := by
  rw [runOpenApi]
  generalize Document.ofRegistry Registry.standard c.title c.version = exported
  obtain ⟨document, warnings⟩ := exported
  dsimp only
  generalize render document (s.format.getD c.format) = text
  split
  · exact .nothing rfl
  · exact .nothing rfl
  · rename_i name _ named
    split
    · rename_i files done
      obtain ⟨key, leads, rfl⟩ := Files.write_eq_ok done
      exact .written rfl rfl (.output s name asks named leads)
    · exact .nothing rfl

theorem runList_touches (w : World) (args : List String) (kinds : Bool) :
    Touches w.files args (runList w kinds) := by
  rw [runList]
  generalize Registry.standard.entries = entries
  exact .printed w args _ _

theorem runDecode_touches (w : World) (args : List String) (typeName source : String) :
    Touches w.files args (runDecode w typeName source) := by
  unfold runDecode
  generalize Registry.standard.get typeName = found
  cases found with
  | error u => exact .nothing rfl
  | ok t =>
    dsimp only
    generalize inputText w source = input
    cases input with
    | error f =>
      cases f with
      | unnameable => exact .nothing rfl
      | _ => exact .nothing rfl
    | ok text =>
      dsimp only
      generalize decodeText t.shape text = decoded
      cases decoded with
      | error e => exact .nothing rfl
      | ok v => exact .nothing rfl

theorem probe_files (w : World) (client : AgentClient) (failures : Bool) (es : List Endpoint) :
    (probe w client failures es).files = w.files := by
  induction es generalizing client failures with
  | nil => rfl
  | cons e rest ih =>
    unfold probe
    dsimp only
    split
    · exact ih _ _
    · split
      · exact ih _ _
      · rfl

theorem probe_touches (w : World) (args : List String) (client : AgentClient) (failures : Bool)
    (es : List Endpoint) :
    Touches w.files args (probe w client failures es) :=
  .nothing (probe_files w client failures es)

theorem runTask_touches {w : World} {args : List String} {t : Task} {s : Settings} {path : String}
    (c : Config) (asks : asked args = .task t s) (named : s.config = some path) :
    Touches w.files args (runTask w c (FilePath.ofText path) s t) := by
  unfold runTask
  cases t with
  | init => exact runInit_touches asks named
  | list => exact runList_touches w args s.kinds
  | decode type file => exact runDecode_touches w args type file
  | openapi => exact runOpenApi_touches c asks
  | check url => exact probe_touches w args _ _ _

theorem run_touches (w : World) (args : List String) : Touches w.files args (run w args) := by
  unfold run
  split
  · exact .printed w args _ _
  · exact .printed w args _ _
  · exact .printed w args _ _
  · exact .printed w args _ _
  · exact .printed w args _ _
  · rename_i t s asks
    split
    · exact .failed w args _
    · rename_i text named
      dsimp only
      split
      · rename_i c _
        have task := runTask_touches (w := w) c asks named
        exact ⟨task.one, task.asked, task.spared⟩
      · split
        · exact .printed w args _ _
        · exact .failed w args _
      · exact .failed w args _

/-! Sequences of runs. -/

@[simp] theorem filesAfter_nil (fs : Files) : filesAfter fs [] = fs := rfl

@[simp] theorem filesAfter_cons (fs : Files) (i : Invocation) (rest : List Invocation) :
    filesAfter fs (i :: rest) = filesAfter (i.trace fs).files rest := rfl

/-- The run `i` stands in a sequence of runs and meets the files `here`. -/
inductive Occurs : Files → List Invocation → Invocation → Files → Prop
  | first (fs : Files) (i : Invocation) (rest : List Invocation) : Occurs fs (i :: rest) i fs
  | later {fs here : Files} {j i : Invocation} {rest : List Invocation}
      (after : Occurs (j.trace fs).files rest i here) :
      Occurs fs (j :: rest) i here

/-- A file that a sequence of runs changes is one that a successful run among them was asked to
write. -/
theorem asked_of_changed {fs : Files} {is : List Invocation} {key : String}
    (changed : (filesAfter fs is).find? key ≠ fs.find? key) :
    ∃ i here, Occurs fs is i here ∧ (i.trace here).exit = .code 0 ∧
      AsksToWrite here i.args key := by
  induction is generalizing fs with
  | nil => exact absurd rfl changed
  | cons i rest ih =>
    by_cases here : (i.trace fs).files.find? key = fs.find? key
    · rw [filesAfter_cons, ← here] at changed
      obtain ⟨j, there, occurs, facts⟩ := ih changed
      exact ⟨j, there, .later occurs, facts⟩
    · exact ⟨i, fs, .first fs i rest, (run_touches ⟨fs, i.stdin, i.agent⟩ i.args).asked key here⟩

/-- Runs that all fail leave the files as they are. -/
theorem filesAfter_failing {fs : Files} {is : List Invocation}
    (failing : ∀ i here, Occurs fs is i here → (i.trace here).exit ≠ .code 0) :
    filesAfter fs is = fs := by
  induction is generalizing fs with
  | nil => rfl
  | cons i rest ih =>
    have same : (i.trace fs).files = fs :=
      (run_touches ⟨fs, i.stdin, i.agent⟩ i.args).spared (failing i fs (.first fs i rest))
    rw [filesAfter_cons, ih fun j here occurs => failing j here (.later occurs), same]

/-- In every sequence of runs each run changes one file at most, and that only with success and
where it was asked to write; what a whole sequence changes has been asked for by a successful run in
it, and runs that fail change nothing. -/
theorem runs_touch (fs : Files) (is : List Invocation) :
    (∀ i here, Occurs fs is i here → Touches here i.args (i.trace here)) ∧
    (∀ key, (filesAfter fs is).find? key ≠ fs.find? key →
      ∃ i here, Occurs fs is i here ∧ (i.trace here).exit = .code 0 ∧ AsksToWrite here i.args key) ∧
    ((∀ i here, Occurs fs is i here → (i.trace here).exit ≠ .code 0) → filesAfter fs is = fs) :=
  ⟨fun i here _ => run_touches ⟨here, i.stdin, i.agent⟩ i.args,
    fun _ changed => asked_of_changed changed, fun failing => filesAfter_failing failing⟩

theorem configAt_absent {w : World} {path : FilePath} (absent : w.files.contains path = .ok false) :
    configAt w path = .ok {} := by
  unfold configAt
  rw [absent]
  rfl

/-- A run that nobody understands, then one that writes the configuration. -/
def misusedThenInit : List Invocation :=
  [⟨["init", "--nope"], "", fun _ => .failure "no route"⟩,
    ⟨["init"], "", fun _ => .failure "no route"⟩]

theorem runs_touch_init :
    (filesAfter .empty misusedThenInit).find? Config.defaultPath = some ({} : Config).fileText ∧
      (∃ i here, Occurs .empty misusedThenInit i here ∧ (i.trace here).exit = .code 0 ∧
        AsksToWrite here i.args Config.defaultPath) ∧
      filesAfter .empty (misusedThenInit.take 1) = .empty := by
  have misused : asked ["init", "--nope"] = .misuse := by rfl
  have init : asked ["init"] = .task .init {} := by rfl
  have free : Files.target .empty (FilePath.ofText Config.defaultPath) =
      .free Config.defaultPath := by rfl
  have none_there : Files.contains .empty (FilePath.ofText Config.defaultPath) = .ok false := by
    simp only [Files.contains, free]
  have spared : filesAfter .empty (misusedThenInit.take 1) = .empty := by
    refine (runs_touch .empty (misusedThenInit.take 1)).2.2 ?_
    rintro i here (_ | later) success
    · simp [Invocation.trace, run, misused, printed] at success
    · cases later
  have wrote : filesAfter .empty misusedThenInit =
      Files.put .empty Config.defaultPath ({} : Config).fileText := by
    show ((Invocation.mk ["init"] "" _).trace (filesAfter .empty (misusedThenInit.take 1))).files =
        _
    rw [spared]
    simp [Invocation.trace, run, init, configAt_absent, runTask, runInit, none_there,
      Files.write, free]
  have there : (filesAfter .empty misusedThenInit).find? Config.defaultPath =
      some ({} : Config).fileText := by
    rw [wrote, Files.put, if_neg (by decide), NameTable.find?_insert, if_pos rfl]
  have changed : (filesAfter .empty misusedThenInit).find? Config.defaultPath ≠
      NameTable.empty.find? Config.defaultPath := by
    rw [there]
    exact Option.some_ne_none _
  exact ⟨there, (runs_touch .empty misusedThenInit).2.1 _ changed, spared⟩

end Cli

end AgentWire
