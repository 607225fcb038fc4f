import SeriesScript.CommandLine.Execute
import SeriesScript.Proofs.Evaluation.Streams
import SeriesScript.Proofs.Scope.Runs

/-!
# What a check says about a run

A check and a run of one script file over one data file know the same streams. All of these can be
read, so after a check without errors a run fails, if it does, for the values that it computes with.
-/
namespace SeriesScript

/-! ## The streams of data files -/

namespace DataFile

theorem readable_of_stream? {j : Json} {s : PointStream} (h : stream? j = some s) : s.Readable := by
  simp only [stream?, Option.bind_eq_bind, Option.bind_eq_some_iff] at h
  obtain ⟨fields, -, h⟩ := h
  split at h
  · simp only [Option.bind_eq_some_iff] at h
    obtain ⟨_, -, _, -, _, -, points, -, h⟩ := h
    cases h
    exact ⟨rfl, points, rfl⟩
  · cases h

theorem readable_of_mapM {members : List (String × Json)} {entries : List (String × PointStream)}
    (h : members.mapM entry? = some entries) : ∀ entry ∈ entries, entry.2.Readable := by
  induction members generalizing entries with
  | nil =>
    cases h
    simp
  | cons member rest ih =>
    simp only [List.mapM_cons, Option.bind_eq_bind, Option.bind_eq_some_iff] at h
    obtain ⟨first, found, others, read, h⟩ := h
    cases h
    obtain ⟨s, hs, rfl⟩ := Option.map_eq_some_iff.mp found
    exact List.forall_mem_cons.mpr ⟨readable_of_stream? hs, ih read⟩

theorem readable_of_parse? {source : String} {store : Store} (h : parse? source = some store) :
    ∀ entry ∈ store.streams, entry.2.Readable := by
  rw [parse?] at h
  split at h
  · obtain ⟨entries, read, rfl⟩ := Option.map_eq_some_iff.mp h
    intro entry mem
    have given : entry ∈ entries := Store.mem_ofList ((List.mergeSort_perm _ _).mem_iff.mp mem)
    exact readable_of_mapM read entry given
  · cases h

end DataFile

namespace World

variable {w : World} {script source : String} {data settings : Option String} {store : Store}
  {prefs : Window.Preferences}

theorem readable_of_readData (h : w.readData data = .ok store) :
    ∀ entry ∈ store.streams, entry.2.Readable := by
  cases data with
  | none =>
    cases h
    simp [Store.empty]
  | some path =>
    rw [readData] at h
    split at h
    · cases h
    · split at h
      · rename_i parsed
        cases h
        exact DataFile.readable_of_parse? parsed
      · cases h

/-! ## Check and run -/

theorem runFile_eq (settled : w.preferences script settings = .ok prefs)
    (scriptRead : w.readScript script = .ok source) (dataRead : w.readData data = .ok store) :
    w.runFile script data settings = .ok (runScript prefs store source) := by
  rw [runFile, settled, scriptRead, dataRead]
  rfl

theorem checkFile_of_parse_error {e : SyntaxError} (scriptRead : w.readScript script = .ok source)
    (parsed : Program.parse source true = .error e) (streams : List String) :
    w.checkFile script data streams =
      .error (.script ("Failed to parse " ++ script) (.notParsed e)) := by
  simp only [checkFile, scriptRead, parsed, bind, Except.bind]
  rfl

theorem checkFile_of_parse_ok {program : Program} (scriptRead : w.readScript script = .ok source)
    (dataRead : w.readData data = .ok store) (parsed : Program.parse source true = .ok program)
    (streams : List String) :
    w.checkFile script data streams = .ok (program.scopeErrors (streams ++ store.names)) := by
  simp only [checkFile, scriptRead, dataRead, parsed, bind, Except.bind]
  rfl

end World

/-- Over readable streams, a program without scope errors fails for its values only. -/
theorem Program.evaluate_failsOnValues {prefs : Window.Preferences} {store : Store}
    {program : Program} (readable : ∀ entry ∈ store.streams, entry.2.Readable)
    (clean : program.scopeErrors store.names = []) :
    FailsOnValues (program.evaluate prefs store).result := by
  obtain ⟨start, seeded, agrees⟩ := Store.bindings_of_readable readable
  rw [evaluate, seeded]
  exact fun e h => concernsValues_of_scopeErrors_eq_nil clean agrees h

namespace World

/-- A check of a script and a run of it over the same data agree. A script that cannot be read is
refused by both with the same fault. What a check reports, a run is refused with, and without a
report a run evaluates the script and breaks no rule of declaration. -/
theorem checkFile_predicts_runFile (w : World) (script : String) (data settings : Option String)
    (source : String) (store : Store) (prefs : Window.Preferences)
    (scriptRead : w.readScript script = .ok source) (dataRead : w.readData data = .ok store)
    (settled : w.preferences script settings = .ok prefs) :
    (∀ e, Program.parse source true = .error e →
      w.checkFile script data [] =
        .error (.script ("Failed to parse " ++ script) (.notParsed e)) ∧
      w.runFile script data settings = .ok (.failed (.notParsed e))) ∧
    ∀ program, Program.parse source true = .ok program →
      ∃ errors, w.checkFile script data [] = .ok errors ∧
        (errors ≠ [] → w.runFile script data settings = .ok (.failed (.invalid errors))) ∧
        (errors = [] → w.runFile script data settings = .ok (program.evaluate prefs store) ∧
          ∀ e, (program.evaluate prefs store).result = .error e →
            (∀ reported, e ≠ .invalid reported) ∧
            ∀ name span, e ≠ .notDeclared name span ∧ e ≠ .doubleDeclaration name span) := by
  rw [runFile_eq settled scriptRead dataRead]
  constructor
  · intro e parsed
    refine ⟨checkFile_of_parse_error scriptRead parsed [], ?_⟩
    rw [runScript, parsed]
  · intro program parsed
    refine ⟨_, checkFile_of_parse_ok scriptRead dataRead parsed [], ?_⟩
    rw [List.nil_append, runScript, parsed]
    constructor
    · intro reported
      simp only [Program.run]
    · intro clean
      simp only [Program.run, clean, true_and]
      intro e failed
      have concerned := Program.evaluate_failsOnValues (readable_of_readData dataRead) clean e failed
      constructor
      · rintro reported rfl
        cases concerned
      · intro name span
        constructor <;> rintro rfl <;> cases concerned

/-- Two scripts beside a data file with one stream, and no settings. One misspells the name of the
stream, the other divides the stream by a time of no length. -/
def twoScripts : World where
  file
    | "misspelt.tfs" => .text "print(laod)"
    | "halting.tfs" => .text "print(load / (DAY - DAY))"
    | "load.json" => .text "\x7b\"load\": \x7b\"kind\": \"numerical\"\x7d\x7d"
    | _ => .missing
  environment := []

theorem exists_of_isOk {ε α : Type} {r : Except ε α} (h : r.isOk = true) : ∃ a, r = .ok a := by
  cases r with
  | ok a => exact ⟨a, rfl⟩
  | error e => cases h

theorem checkFile_predicts_runFile_twoScripts :
    (∃ errors, errors = [⟨.unknownVariable, "laod", ⟨⟨1, 6⟩, ⟨1, 10⟩⟩⟩] ∧
      twoScripts.checkFile "misspelt.tfs" (some "load.json") [] = .ok errors ∧
      twoScripts.runFile "misspelt.tfs" (some "load.json") none = .ok (.failed (.invalid errors))) ∧
    ∃ o, twoScripts.checkFile "halting.tfs" (some "load.json") [] = .ok [] ∧
      twoScripts.runFile "halting.tfs" (some "load.json") none = .ok o ∧
      ∀ e, o.result = .error e → ∀ reported, e ≠ .invalid reported := by
  obtain ⟨store, dataRead⟩ : ∃ store, twoScripts.readData (some "load.json") = .ok store :=
    exists_of_isOk (by decide +kernel)
  constructor
  · obtain ⟨prefs, settled⟩ : ∃ prefs, twoScripts.preferences "misspelt.tfs" none = .ok prefs :=
      exists_of_isOk (by decide +kernel)
    obtain ⟨program, parsed⟩ : ∃ program, Program.parse "print(laod)" true = .ok program :=
      exists_of_isOk (by decide +kernel)
    have reported : (twoScripts.checkFile "misspelt.tfs" (some "load.json") []).toOption =
        some [⟨.unknownVariable, "laod", ⟨⟨1, 6⟩, ⟨1, 10⟩⟩⟩] := by
      decide +kernel
    obtain ⟨errors, checked, refused, -⟩ := (checkFile_predicts_runFile twoScripts "misspelt.tfs"
      (some "load.json") none _ store prefs rfl dataRead settled).2 program parsed
    rw [checked] at reported
    cases reported
    exact ⟨_, rfl, checked, refused (by simp)⟩
  · obtain ⟨prefs, settled⟩ : ∃ prefs, twoScripts.preferences "halting.tfs" none = .ok prefs :=
      exists_of_isOk (by decide +kernel)
    obtain ⟨program, parsed⟩ :
        ∃ program, Program.parse "print(load / (DAY - DAY))" true = .ok program :=
      exists_of_isOk (by decide +kernel)
    have clean : (twoScripts.checkFile "halting.tfs" (some "load.json") []).toOption = some [] := by
      decide +kernel
    obtain ⟨errors, checked, -, run⟩ := (checkFile_predicts_runFile twoScripts "halting.tfs"
      (some "load.json") none _ store prefs rfl dataRead settled).2 program parsed
    rw [checked] at clean
    cases clean
    obtain ⟨ran, kept⟩ := run rfl
    exact ⟨_, checked, ran, fun e failed => (kept e failed).1⟩

end World

end SeriesScript
