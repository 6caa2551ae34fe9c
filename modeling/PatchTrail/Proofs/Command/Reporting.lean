import PatchTrail.Command.Basic
import PatchTrail.Proofs.Manifest.Arrangement
import PatchTrail.Proofs.Run.Obeying
import PatchTrail.Proofs.Run.Replaying

/-!
# What an application reports

Patches are applied to a directory only when all manifests have been loaded; if one cannot be,
nothing is done and nothing printed. Else the files of the directory are left as the run leaves
them, and the whole trail is handed out, whether or not the run fails (`Application.Reports`).

The diff is written when the run is over, and a run may have made a directory at the place where the
diff was to go. Then and only then it is not written and the application fails after a run that did
not (`Application.run_reports`). A run whose paths stay in its directory never does this.
-/

namespace PatchTrail.Command

open PatchTrail.Path (Inside spelled)

/-- How a run has failed, as it is shown, if it has. -/
def failureOf? : EStateM.Result Patch.Error WorkTree Run.Summary → Option Text
  | .ok _ _ => none
  | .error e _ => some e.describe

namespace Application

/-- The settings of the run that an application asks for. -/
def config (a : Application) : Run.Config := { skip := a.skip, contextLines := a.contextLines }

/-- The directory of an application is there, and its diff can be written outside of it. -/
structure Sound (a : Application) (disk : Disk) : Prop where
  directory : disk.isDirectory a.directory = true
  writable : ∀ path, a.diffPath? = some path → ∃ content d, disk.write path content = .ok d
  outside : ∀ path, a.diffPath? = some path →
    ¬ Inside disk.here a.directory (spelled disk.here path)

/-- An application leaves what is in its directory as a run has left it, hands out the trail of the
run wherever it was asked for, and ends well if and only if the run has. -/
structure Reports (a : Application) (disk : Disk)
    (result : EStateM.Result Patch.Error WorkTree Run.Summary) (o : Outcome) : Prop where
  files : ∀ p, Inside disk.here a.directory p →
    o.disk.entry? p = Disk.entry? (finalTree result).disk p
  output : o.output = if a.isQuiet then [] else (finalTree result).trail.text
  diff : ∀ path, a.diffPath? = some path → o.disk.file? (spelled disk.here path) =
    some (Text.encode (finalTree result).trail.text)
  well : o.status = 0 ↔ ∃ summary tree, result = .ok summary tree
  ill : o.status = 1 ↔ ∃ e tree, result = .error e tree

/-- What is left when the trail of a run has been handed out. -/
def handOut (a : Application) (disk : Disk) (trail : Text) (failure? : Option Text) : Outcome :=
  let output := if a.isQuiet then [] else trail
  match a.diffPath? with
  | none => { disk, output, failure? }
  | some path =>
    match disk.write path (Text.encode trail) with
    | .ok disk => { disk, output, failure? }
    | .error fault => { disk, output, failure? := some fault.describe }

variable {a : Application} {disk : Disk} {registry : Registry}

theorem run_of_error {e : Manifest.Error} (sound : a.Sound disk)
    (loaded : Manifest.loadAll disk a.manifests = .error e) :
    a.run disk = { disk, failure? := some e.describe } := by
  unfold Application.run
  rw [if_pos sound.directory, loaded]

theorem run_of_ok (sound : a.Sound disk)
    (loaded : Manifest.loadAll disk a.manifests = .ok registry) :
    let result := Run.apply registry a.config a.directory disk {}
    a.run disk = a.handOut (finalTree result).disk (finalTree result).trail.text
      (failureOf? result) := by
  intro result
  have run : a.run disk = a.handOut (outcomeOfRun result).1 (outcomeOfRun result).2.1
      (outcomeOfRun result).2.2 := by
    unfold Application.run
    rw [if_pos sound.directory, loaded]
    rfl
  rw [run]
  cases result with
  | ok summary tree => rfl
  | error e tree => rfl

theorem status_eq_zero_iff {result : EStateM.Result Patch.Error WorkTree Run.Summary} {o : Outcome}
    (h : o.failure? = failureOf? result) :
    (o.status = 0 ↔ ∃ summary tree, result = .ok summary tree) ∧
      (o.status = 1 ↔ ∃ e tree, result = .error e tree) := by
  unfold Outcome.status
  rw [h]
  cases result with
  | ok summary tree => simp [failureOf?]
  | error e tree => simp [failureOf?]

/-- The trail of a run is handed out if and only if there is no directory where it is to be
written. -/
theorem reports_iff (sound : a.Sound disk)
    (loaded : Manifest.loadAll disk a.manifests = .ok registry) :
    let result := Run.apply registry a.config a.directory disk {}
    a.Reports disk result (a.run disk) ↔ ∀ path, a.diffPath? = some path →
      Disk.entry? (finalTree result).disk (spelled disk.here path) ≠ some .directory := by
  intro result
  have kept : disk.Kept (finalTree result).disk :=
    Run.apply_kept registry a.config a.directory disk {}
  have run : a.run disk = a.handOut (finalTree result).disk (finalTree result).trail.text
      (failureOf? result) := run_of_ok sound loaded
  generalize hlast : (finalTree result).disk = last at kept run ⊢
  rw [run]
  unfold handOut
  cases hdiff : a.diffPath? with
  | none =>
      obtain ⟨well, ill⟩ := status_eq_zero_iff (o := ⟨last, _, failureOf? result⟩) rfl
      refine ⟨fun _ _ h => (nomatch h), fun _ => ⟨fun p _ => by rw [hlast], rfl, ?_, well, ill⟩⟩
      exact fun path h => nomatch hdiff.symm.trans h
  | some path =>
      simp only [Option.some.injEq, forall_eq']
      constructor
      · intro reports hentry
        have diff := reports.diff path hdiff
        cases hwrite : last.write path (Text.encode (finalTree result).trail.text) with
        | ok d =>
            obtain ⟨place, hplace, free, -⟩ := Disk.write_eq hwrite
            rw [Disk.locate_eq hplace, kept.here] at free
            exact free hentry
        | error fault =>
            rw [hwrite] at diff
            unfold Disk.file? at diff
            simp [hentry] at diff
      · intro free
        obtain ⟨content, d, hwrite⟩ := sound.writable path hdiff
        rw [kept.write_ok hwrite free]
        obtain ⟨well, ill⟩ := status_eq_zero_iff (o := ⟨_, _, failureOf? result⟩) rfl
        refine ⟨fun p inside => ?_, rfl, fun path' h => ?_, well, ill⟩
        · rw [hlast]
          refine Disk.entry?_put_ne (fun same => sound.outside path hdiff ?_) _
          exact same ▸ inside
        · obtain rfl : path = path' := Option.some.inj (hdiff.symm.trans h)
          exact Disk.file?_put (Disk.ne_nil_of_ne_directory free) last _

/-- If all paths of a run stay in its directory, it leaves no directory where the diff is to be
written. -/
theorem free_of_stays (sound : a.Sound disk)
    (stays : ∀ c ∈ Run.changes registry a.config, Path.stays c.path = true) :
    let result := Run.apply registry a.config a.directory disk {}
    ∀ path, a.diffPath? = some path →
      Disk.entry? (finalTree result).disk (spelled disk.here path) ≠ some .directory := by
  intro result path hdiff
  have sheltered : disk.Sheltered a.directory (finalTree result).disk :=
    Run.apply_sheltered registry a.config a.directory disk {} stays
  obtain ⟨content, d, hwrite⟩ := sound.writable path hdiff
  obtain ⟨place, hplace, free, -⟩ := Disk.write_eq hwrite
  rw [sheltered.outside sound.directory _ (sound.outside path hdiff), ← Disk.locate_eq hplace]
  exact free

/-- What an application leaves and reports. If a manifest cannot be loaded, nothing is printed or
changed, and it fails. Else it reports what the run has done if and only if the run has not left a
directory where the diff is to be written, which no run does whose paths stay in its directory. -/
theorem run_reports (sound : a.Sound disk) :
    (∀ e, Manifest.loadAll disk a.manifests = .error e →
      (a.run disk).output = [] ∧ (a.run disk).disk = disk ∧ (a.run disk).status = 1) ∧
    ∀ registry, Manifest.loadAll disk a.manifests = .ok registry →
      let result := Run.apply registry a.config a.directory disk {}
      (a.Reports disk result (a.run disk) ↔ ∀ path, a.diffPath? = some path →
        Disk.entry? (finalTree result).disk (spelled disk.here path) ≠ some .directory) ∧
      ((∀ c ∈ Run.changes registry a.config, Path.stays c.path = true) →
        a.Reports disk result (a.run disk)) := by
  refine ⟨fun e loaded => ?_, fun registry loaded => ?_⟩
  · rw [run_of_error sound loaded]
    exact ⟨rfl, rfl, rfl⟩
  · intro result
    have reports : a.Reports disk result (a.run disk) ↔ _ := reports_iff sound loaded
    exact ⟨reports, fun stays => reports.mpr (free_of_stays sound stays)⟩

/-! ## Applications of one instruction -/

section

open Text (encode)

/-- Asks to apply one manifest to a directory and to write the diff to a file beside it. -/
def toFile : Application where
  directory := "app"
  manifests := ["m.json"]
  diffPath? := some "out.diff"
  isQuiet := false
  skip := []
  contextLines := 3

/-- A manifest of one patch that writes one file. -/
def writing (path : Text) : Manifest := ⟨[⟨"p", [.writeFile path "x\n"]⟩]⟩

/-- The document of that manifest, for a path with nothing in it that has to be quoted. -/
def writingDocument (path : Text) : Text :=
  "\x7b\"patches\":[\x7b\"name\":\"p\",\"instructions\":[\x7b\"op\":\"write_file\",".toList ++
    "\"path\":\"".toList ++ path ++ "\",\"content\":\"x\\n\"\x7d]\x7d]\x7d".toList

/-- A disk with an empty directory and that manifest. -/
def writingDisk (path : Text) : Disk where
  here := []
  entries := [(["app"], .directory), (["m.json"], .file (encode (writingDocument path)))]

/-- The registry of that manifest. -/
def writingRegistry (path : Text) : Registry :=
  Run.single ⟨"p", [.writeFile path (encode "x\n")]⟩ (List.cons_ne_nil 'p' [])

theorem sound_toFile (path : Text) : toFile.Sound (writingDisk path) := by
  refine ⟨rfl, fun diffPath h => ?_, fun diffPath h => ?_⟩
  · cases h
    exact ⟨ByteArray.empty, _, rfl⟩
  · cases h
    have apart : ¬ Inside [] "app" (spelled [] "out.diff") := by decide
    exact apart

theorem loadAll_writing {path : Text}
    (h : (writing path).toJson?.map Json.Value.compact = some (writingDocument path)) :
    Manifest.loadAll (writingDisk path) toFile.manifests = .ok (writingRegistry path) := by
  obtain ⟨v, hv, hdocument⟩ := Option.map_eq_some_iff.mp h
  have hread : (writingDisk path).read "m.json" = .ok (encode v.compact) := by
    rw [hdocument]
    rfl
  have compiled : (writing path).Compiled := List.forall_mem_singleton.mpr
    (List.forall_mem_singleton.mpr (Manifest.Step.compiled_leaf rfl trivial))
  have hdepth : v.depth ≤ Json.Reader.maxDepth := by
    cases hv
    exact Nat.le_of_ble_eq_true rfl
  have loaded := Manifest.load_compact hread hv compiled hdepth
  change Manifest.loadInto (writingDisk path) ["m.json"] Registry.empty = _
  rw [Manifest.loadInto, loaded]
  rfl

/-- The file is written in the directory and the diff beside it. -/
theorem run_reports_f :
    toFile.Sound (writingDisk "f") ∧
      Manifest.loadAll (writingDisk "f") toFile.manifests = .ok (writingRegistry "f") ∧
      toFile.Reports (writingDisk "f")
        (Run.apply (writingRegistry "f") toFile.config toFile.directory (writingDisk "f") {})
        (toFile.run (writingDisk "f")) := by
  have loaded : Manifest.loadAll (writingDisk "f") toFile.manifests = .ok (writingRegistry "f") :=
    loadAll_writing (by decide +kernel)
  refine ⟨sound_toFile "f", loaded, ((run_reports (sound_toFile "f")).2 _ loaded).2 ?_⟩
  have changes : Run.changes (writingRegistry "f") toFile.config = [.created "f"] := rfl
  rw [changes]
  decide

/-- The path of this instruction leads out of the directory, and what it makes there is in the way
of the diff: the run ends well, but the application fails and there is no file with the diff. -/
theorem run_unwritten :
    let path : Text := "../out.diff/x"
    toFile.Sound (writingDisk path) ∧
      Manifest.loadAll (writingDisk path) toFile.manifests = .ok (writingRegistry path) ∧
      (∃ summary tree, Run.apply (writingRegistry path) toFile.config toFile.directory
        (writingDisk path) {} = .ok summary tree) ∧
      (toFile.run (writingDisk path)).status = 1 ∧
      (toFile.run (writingDisk path)).disk.file? ["out.diff"] = none := by
  intro path
  have loaded : Manifest.loadAll (writingDisk path) toFile.manifests = .ok (writingRegistry path) :=
    loadAll_writing (by decide +kernel)
  have run := run_of_ok (sound_toFile path) loaded
  refine ⟨sound_toFile path, loaded, ?_, ?_, ?_⟩
  · exact (status_eq_zero_iff (o := ⟨writingDisk path, [], _⟩) rfl).1.mp (by decide +kernel)
  · rw [run]
    decide +kernel
  · rw [run]
    refine Option.isNone_iff_eq_none.mp ?_
    decide +kernel

end

end Application

end PatchTrail.Command
