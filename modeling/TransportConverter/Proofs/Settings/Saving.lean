import TransportConverter.Proofs.Settings.Parts
import TransportConverter.Proofs.Storage.Writing
import TransportConverter.Settings.File
/-!
# Saving and loading settings

Saving succeeds wherever there is room for the file, and settings that are saved are loaded as they were. A
file that gives a part of the settings is loaded as the defaults with that part in their place, and those are
saved and loaded like any others (`Settings.loads_saved_and_given`).
-/
namespace TransportConverter

namespace Settings

open JsonValue (Gives)
open FileTree (run_bind run_leadsSomewhere run_read run_write run_write_error takesFile_iff)

variable {t : FileTree} {path : Path} {content : Bytes}

/-- The directory of the path is there or can be made, and then there is a file at the path or room for one. -/
def HasRoom (t : FileTree) (path : Path) : Prop :=
  ∃ prepared, (prepareDirectory (m := StateM FileTree) path).run t = (.ok (), prepared) ∧
    prepared.TakesFile path

theorem run_saveTo (room : HasRoom t path) (s : Settings) :
    ∃ t', (s.saveTo (m := StateM FileTree) path).run t = (.ok (), t') ∧
      t'.Holds path (Utf8.encode s.text) := by
  obtain ⟨prepared, prepares, takes⟩ := room
  generalize text : Utf8.encode s.text = content
  obtain ⟨t', written, holds⟩ := takes.write content
  refine ⟨t', ?_, holds⟩
  rw [saveTo, text, run_bind prepares, run_bind (run_write written)]
  rfl

/-- There is room for settings exactly where saving them makes a file. -/
theorem hasRoom_iff (s : Settings) :
    HasRoom t path ↔
      ∃ t' content, (s.saveTo (m := StateM FileTree) path).run t = (.ok (), t') ∧ t'.Holds path content := by
  constructor
  · intro room
    obtain ⟨t', saved, holds⟩ := run_saveTo room s
    exact ⟨t', _, saved, holds⟩
  · rintro ⟨t', content, saved, holds⟩
    generalize text : Utf8.encode s.text = written at saved
    cases prepares : (prepareDirectory (m := StateM FileTree) path).run t with
    | mk result prepared =>
      rw [saveTo, text, run_bind prepares] at saved
      cases result with
      | error error => cases saved
      | ok =>
        refine ⟨prepared, prepares, (takesFile_iff written).mpr ⟨t', content, ?_, holds⟩⟩
        cases writes : prepared.write path written with
        | error error =>
          rw [run_bind (run_write_error writes)] at saved
          cases saved
        | ok changed =>
          rw [run_bind (run_write writes)] at saved
          cases saved
          rfl

theorem run_load (reads : t.read path = .ok content) :
    (load (m := StateM FileTree) path).run t =
      ((ofContent content).map fun settings => { settings with path := some path }, t) := by
  rw [load, run_bind (run_leadsSomewhere reads), if_pos rfl, run_bind (run_read reads)]
  rfl

theorem ofContent_encode {text : String} {s : Settings} (means : ofText? text = some s) :
    ofContent (Utf8.encode text) = .ok s := by
  rw [ofContent, Utf8.decode?_encode]
  simp only [means]

/-- Wherever there is room for them, the settings are saved, and loaded as they were. -/
def SurvivesSaving (s : Settings) : Prop :=
  ∀ (path : Path) (t : FileTree), HasRoom t path →
    ∃ t', (s.saveTo (m := StateM FileTree) path).run t = (.ok (), t') ∧
      (load (m := StateM FileTree) path).run t' = (.ok { s with path := some path }, t')

theorem survivesSaving (s : Settings) : SurvivesSaving s := by
  intro path t room
  obtain ⟨t', saved, holds⟩ := run_saveTo room s
  refine ⟨t', saved, ?_⟩
  rw [run_load holds.read, ofContent_encode s.ofText?_text]
  rfl

/-- **All settings survive saving, and a file that gives a part of the settings is loaded as that part**, with
the defaults for all else; what is loaded so survives saving as well. -/
theorem loads_saved_and_given :
    (∀ s : Settings, s.SurvivesSaving) ∧
    ∀ (p : SettingsPart) (v : JsonValue) (text : String) (path : Path) (t : FileTree), p.GivenBy v →
      JsonValue.ofText? text.toList = some v → t.read path = .ok (Utf8.encode text) →
      (load (m := StateM FileTree) path).run t = (.ok { p.settings with path := some path }, t) ∧
        SurvivesSaving { p.settings with path := some path } := by
  refine ⟨survivesSaving, fun p v text path t given parses reads => ⟨?_, survivesSaving _⟩⟩
  have means : ofText? text = some p.settings := by
    rw [ofText?, parses, Option.bind_some, ofJson?_of_givenBy given]
  rw [run_load reads, ofContent_encode means]
  rfl

/-- A file with one flag of the log and something unknown, which is then saved to another path. -/
theorem loads_saved_and_given_verbose :
    let text := "\x7b\"x\": [1], \"log\": \x7b\"verbose\": true\x7d\x7d"
    let t : FileTree := { nodes := [([[112]], .file (Utf8.encode text))] }
    let s : Settings := { log.verbose := true, path := some ⟨[47, 112]⟩ }
    (load (m := StateM FileTree) ⟨[47, 112]⟩).run t = (.ok s, t) ∧ HasRoom t ⟨[47, 115]⟩ ∧
      ∃ t', (s.saveTo (m := StateM FileTree) ⟨[47, 115]⟩).run t = (.ok (), t') ∧
        (load (m := StateM FileTree) ⟨[47, 115]⟩).run t' = (.ok { s with path := some ⟨[47, 115]⟩ }, t') := by
  have parses : JsonValue.ofText? "\x7b\"x\": [1], \"log\": \x7b\"verbose\": true\x7d\x7d".toList =
      some (.object [(some "x", .array [.number ['1']]),
        (some "log", .object [(some "verbose", .bool true)])]) := by
    rfl
  intro text t s
  let p : SettingsPart := { log := some { verbose := some true } }
  have ofLog : Gives LogSettings.fieldNames [none, some (.bool true), none]
      (.object [(some "verbose", .bool true)]) := .object [] (.refl _) (by simp)
  have given : p.GivenBy (.object [(some "x", .array [.number ['1']]), (some "log", _)]) :=
    ⟨none, none, _, .none, .none, .some ofLog, .object [(some "x", _)] (.swap ..) (by simp [sectionNames])⟩
  have room : HasRoom t ⟨[47, 115]⟩ := ⟨t, rfl, [[115]], rfl, .inl rfl⟩
  obtain ⟨loads, survives⟩ := loads_saved_and_given.2 p _ text ⟨[47, 112]⟩ t given parses rfl
  exact ⟨loads, room, survives _ t room⟩

end Settings

end TransportConverter
