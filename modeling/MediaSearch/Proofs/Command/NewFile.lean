import MediaSearch.Command.Run
import MediaSearch.Proofs.FileTree
import MediaSearch.Proofs.Settings.SilentFiles

set_option autoImplicit false

namespace MediaSearch

theorem FileTree.set_addsSilent {tree : FileTree} {location : Location} {text : String}
    (absent : tree.at? location = none) (silent : SettingsFile.parse? text = some {}) :
    AddsSilent tree.look (tree.set location (.file text.toUTF8)).look where
  settingsFile directory := by
    rcases look_set absent directory.settingsFile with same | ⟨before, there | blocked⟩
    · exact .inl same
    · exact .inr ⟨by rw [Look.isFile, before], .inr ⟨text, Look.read_of_text there, silent⟩⟩
    · exact .inr ⟨by rw [Look.isFile, before], .inl (by rw [Look.isFile, blocked])⟩
  spelling left right same := look_child_congr same Path.settingsFileName_isName Path.settingsFileName_apart

namespace Command

variable {tree after : FileTree} {place : Place} {path : Path} {text : String} {report : Report} {inHome force : Bool}

inductive Target (place : Place) (inHome : Bool) : Path → Prop
  | home {directory home : Path} (running : place.directory = .ok directory) (known : place.home = some home)
    (chosen : inHome = true ∨ directory.same home = true) : Target place inHome home.settingsFile
  | here {directory : Path} (running : place.directory = .ok directory) (unasked : inHome = false)
    (elsewhere : ∀ home, place.home = some home → directory.same home = false) :
    Target place inHome directory.settingsFile

theorem run_init (target : Target place inHome path) (tree : FileTree) (force : Bool) :
    ∃ isGlobal, (Request.init inHome force).run tree place =
      (writeNew tree.look path (Template.text isGlobal) force).run tree := by
  cases target with
  | @home directory home running known chosen =>
    have goes : (inHome || (some home).any directory.same) = true := by simpa using chosen
    refine ⟨true, ?_⟩
    simp only [Request.run, Request.action, running, perform, initAction, known, goes, if_true]
  | @here directory running unasked elsewhere =>
    have stays : (inHome || place.home.any directory.same) = false := by
      rw [unasked, Bool.false_or]
      cases known : place.home with
      | none => rfl
      | some home => exact elsewhere home known
    refine ⟨false, ?_⟩
    simp only [Request.run, Request.action, running, perform, initAction, stays, Bool.false_eq_true, if_false]

theorem run_init_untargeted (untargeted : ∀ path, ¬Target place inHome path) (tree : FileTree) (force : Bool) :
    ((Request.init inHome force).run tree place).1.exitCode = 1 := by
  cases running : place.directory with
  | error reason =>
    simp only [Request.run, Request.action, running]
    rfl
  | ok directory =>
    by_cases goes : (inHome || place.home.any directory.same) = true
    · cases known : place.home with
      | none =>
        rw [known] at goes
        simp only [Request.run, Request.action, running, perform, initAction, known, goes, if_true]
        rfl
      | some home =>
        have chosen : inHome = true ∨ directory.same home = true := by simpa [known] using goes
        exact absurd (.home running known chosen) (untargeted _)
    · rw [Bool.or_eq_true, not_or, Bool.not_eq_true] at goes
      refine absurd (.here running goes.1 fun home known => ?_) (untargeted _)
      simpa [known] using goes.2

theorem write_of_success (ran : (writeNew tree.look path text force).run tree = (report, after))
    (succeeded : report.exitCode = 0) : tree.write path text.toUTF8 = .ok after := by
  unfold writeNew at ran
  split at ran
  · obtain ⟨rfl, -⟩ := Prod.mk.inj ran
    cases succeeded
  · cases written : tree.write path text.toUTF8 with
    | error reason =>
      simp only [Action.run, written] at ran
      obtain ⟨rfl, -⟩ := Prod.mk.inj ran
      cases succeeded
    | ok result =>
      simp only [Action.run, written] at ran
      rw [(Prod.mk.inj ran).2]

theorem failure_of_exists (ran : (writeNew tree.look path text false).run tree = (report, after))
    (present : tree.look.exists? path = true) : report.exitCode ≠ 0 ∧ after = tree := by
  rw [writeNew, if_pos (by simp [present])] at ran
  obtain ⟨rfl, rfl⟩ := Prod.mk.inj ran
  exact ⟨Nat.one_ne_zero, rfl⟩

theorem init_changes_no_settings (ran : (Request.init inHome force).run tree place = (report, after)) :
    (report.exitCode = 0 → ∃ path, Target place inHome path) ∧
    ∀ path, Target place inHome path →
      (report.exitCode = 0 → tree.look.exists? path = false →
        -- There is nothing new but the file, and it says nothing.
        (∃ location, tree.locate path = .ok location ∧ tree.at? location = none ∧ after.look.Gives path {} ∧
          ∀ other, other ≠ location → after.at? other = tree.at? other) ∧
        -- The settings in force are what they were, and so are the errors.
        ∀ home directory, (Settings.load after.look home directory).map Settings.inForce =
          (Settings.load tree.look home directory).map Settings.inForce) ∧
      (tree.look.exists? path = true → force = false → report.exitCode ≠ 0 ∧ after = tree) := by
  refine ⟨fun succeeded => ?_, fun path target => ⟨fun succeeded absent => ?_, ?_⟩⟩
  · by_contra untargeted
    have failed := run_init_untargeted (not_exists.mp untargeted) tree force
    rw [ran, succeeded] at failed
    cases failed
  · obtain ⟨isGlobal, same⟩ := run_init target tree force
    have written := write_of_success (same ▸ ran) succeeded
    obtain ⟨location, reached, nothing, rfl⟩ := FileTree.write_new written absent
    have silent := Template.parse?_text isGlobal
    constructor
    · refine ⟨location, reached, nothing, ⟨Template.text isGlobal, ?_, silent⟩, fun other differs => ?_⟩
      · exact Look.read_of_text (FileTree.look_set_self nothing reached)
      · exact FileTree.at?_set_of_ne differs
    · exact Settings.load_adds (FileTree.set_addsSilent nothing silent)
  · rintro present rfl
    obtain ⟨isGlobal, same⟩ := run_init target tree false
    exact failure_of_exists (same ▸ ran) present

def music (inside : List (Location × Entry)) : FileTree :=
  { entries := ([".advq.toml"], .file "[output]\njson = true\n".toUTF8) :: (["music"], .directory) :: inside }

def inMusic : Place := { directory := .ok ⟨"/music"⟩, home := some ⟨"/home"⟩ }

theorem inMusic_target : Target inMusic false (⟨"/music"⟩ : Path).settingsFile :=
  .here rfl rfl fun home known => by
    obtain rfl : ⟨"/home"⟩ = home := Option.some.inj known
    rfl

theorem init_changes_no_settings_music :
    (((Request.init false false).run (music []) inMusic).1.exitCode = 0 ∧
      (music []).look.exists? (⟨"/music"⟩ : Path).settingsFile = false ∧
      (Settings.load ((Request.init false false).run (music []) inMusic).2.look none ⟨"/music/new"⟩).map
        Settings.inForce = (Settings.load (music []).look none ⟨"/music/new"⟩).map Settings.inForce) ∧
    ((music [(["music", ".advq.toml"], .directory)]).look.exists? (⟨"/music"⟩ : Path).settingsFile = true ∧
      ((Request.init false false).run (music [(["music", ".advq.toml"], .directory)]) inMusic).1.exitCode ≠ 0) := by
  have succeeded : ((Request.init false false).run (music []) inMusic).1.exitCode = 0 := by decide +kernel
  have absent : (music []).look.exists? (⟨"/music"⟩ : Path).settingsFile = false := by decide +kernel
  have present : (music [(["music", ".advq.toml"], .directory)]).look.exists? (⟨"/music"⟩ : Path).settingsFile =
      true := by
    decide +kernel
  refine ⟨⟨succeeded, absent, ?_⟩, present, ?_⟩
  · exact (((init_changes_no_settings (Prod.eta _).symm).2 _ inMusic_target).1 succeeded absent).2 none ⟨"/music/new"⟩
  · exact (((init_changes_no_settings (Prod.eta _).symm).2 _ inMusic_target).2 present rfl).1

end Command

end MediaSearch
