import MediaSearch.Proofs.Settings.SilentFiles

set_option autoImplicit false

namespace MediaSearch

inductive Setting : Type → Type
  | username : Setting String
  | scope : Setting String
  | order : Setting String
  | table : Setting String
  | columns : Setting String
  | json : Setting Bool

namespace Setting

-- What a file says of a setting. It has to have the section, and the setting in it.
def given? : {α : Type} → Setting α → SettingsFile → Option α
  | _, .username, file => file.compile.bind CompileSection.username
  | _, .scope, file => file.compile.bind CompileSection.scope
  | _, .order, file => file.compile.bind CompileSection.order
  | _, .table, file => file.compile.bind CompileSection.table
  | _, .columns, file => file.compile.bind CompileSection.columns
  | _, .json, file => file.output.bind OutputSection.json

def value : {α : Type} → Setting α → Settings → α
  | _, .username, settings => settings.compile.username
  | _, .scope, settings => settings.compile.scope
  | _, .order, settings => settings.compile.order
  | _, .table, settings => settings.compile.table
  | _, .columns, settings => settings.compile.columns
  | _, .json, settings => settings.output.json

def builtIn : {α : Type} → Setting α → α
  | _, .username => "admin"
  | _, .scope => "all"
  | _, .order => ""
  | _, .table => "media_file"
  | _, .columns => "media_file.*"
  | _, .json => false

def IsGivenBy {α : Type} (setting : Setting α) (file : SettingsFile) : Prop := setting.given? file ≠ none

variable {α : Type} (setting : Setting α)

theorem value_addSource (path : Path) (file : SettingsFile) (settings : Settings) :
    setting.value (settings.addSource path file) = (setting.given? file).getD (setting.value settings) := by
  obtain ⟨root, compile, output⟩ := file
  cases setting with
  | json => cases output <;> rfl
  | _ => cases compile <;> rfl

theorem value_merge (files : List (Path × SettingsFile)) :
    setting.value (Settings.merge files) =
      (files.findSome? fun entry => setting.given? entry.2).getD setting.builtIn := by
  induction files with
  | nil => cases setting <;> rfl
  | cons entry further ih =>
    rw [Settings.merge, value_addSource, ih, List.findSome?_cons]
    cases setting.given? entry.2 <;> rfl

end Setting

namespace Settings

variable {first second : Settings}

theorem inForce_eq_of_values (same : ∀ (α : Type) (setting : Setting α), setting.value first = setting.value second) :
    first.inForce = second.inForce := by
  have compile : first.compile = second.compile := by
    rw [CompileSettings.mk.injEq]
    exact ⟨same _ .username, same _ .scope, same _ .order, same _ .table, same _ .columns⟩
  have output : first.output = second.output := by
    rw [OutputSettings.mk.injEq]
    exact same _ .json
  rw [inForce, inForce, compile, output]

variable {path : Path} {file : SettingsFile}

theorem inForce_insert (before after : List (Path × SettingsFile))
    (silent : ∀ (α : Type) (setting : Setting α), ¬ setting.IsGivenBy file) :
    (merge (before ++ (path, file) :: after)).inForce = (merge (before ++ after)).inForce := by
  refine inForce_eq_of_values fun α setting => ?_
  have nothing : setting.given? file = none := Classical.not_not.mp (silent α setting)
  rw [setting.value_merge, setting.value_merge, List.findSome?_append, List.findSome?_append,
    List.findSome?_cons_of_isNone (by rw [nothing]; rfl)]

theorem inForce_append (files : List (Path × SettingsFile))
    (known : ∀ (α : Type) (setting : Setting α), setting.IsGivenBy file → ∃ entry ∈ files, setting.IsGivenBy entry.2) :
    (merge (files ++ [(path, file)])).inForce = (merge files).inForce := by
  refine inForce_eq_of_values fun α setting => ?_
  rw [setting.value_merge, setting.value_merge, List.findSome?_append]
  cases closer : files.findSome? fun entry => setting.given? entry.2 with
  | some value => rfl
  | none =>
    have nowhere : ¬ ∃ entry ∈ files, setting.IsGivenBy entry.2 := by
      rintro ⟨entry, listed, given⟩
      exact given (List.findSome?_eq_none_iff.mp closer entry listed)
    have nothing : setting.given? file = none := Classical.not_not.mp fun given => nowhere (known α setting given)
    simp [nothing]

end Settings

open Settings in
theorem closest_file_decides (files : List (Path × SettingsFile)) :
    (∀ (α : Type) (setting : Setting α), setting.value (merge files) =
      (files.findSome? fun entry => setting.given? entry.2).getD setting.builtIn) ∧
    (∀ before after path file, files = before ++ after →
      (∀ (α : Type) (setting : Setting α), ¬ setting.IsGivenBy file) →
      (merge (before ++ (path, file) :: after)).inForce = (merge files).inForce) ∧
    (∀ path file,
      (∀ (α : Type) (setting : Setting α), setting.IsGivenBy file → ∃ entry ∈ files, setting.IsGivenBy entry.2) →
      (merge (files ++ [(path, file)])).inForce = (merge files).inForce) ∧
    (merge files).sources = files.map Prod.fst := by
  refine ⟨fun α setting => setting.value_merge files, ?_, fun path file => inForce_append files, merge_sources files⟩
  rintro before after path file rfl silent
  exact inForce_insert before after silent

def yearsFile : Path × SettingsFile := (⟨"/a/b/.advq.toml"⟩, { compile := some { order := some "-year" } })

def songsFile : Path × SettingsFile :=
  (⟨"/a/.advq.toml"⟩,
    { compile := some { order := some "artist", scope := some "songs" }
      output := some { json := some true } })

open Settings in
theorem closest_file_decides_years :
    Setting.order.value (merge [yearsFile, songsFile]) = "-year" ∧
    Setting.scope.value (merge [yearsFile, songsFile]) = "songs" ∧
    Setting.table.value (merge [yearsFile, songsFile]) = "media_file" ∧
    Setting.json.value (merge [yearsFile, songsFile]) = true ∧
    (merge [yearsFile, (⟨"/"⟩, { root := some false, compile := some {} }), songsFile]).inForce =
      (merge [yearsFile, songsFile]).inForce ∧
    (merge [yearsFile, songsFile, (⟨"/"⟩, { compile := some { order := some "title" } })]).inForce =
      (merge [yearsFile, songsFile]).inForce ∧
    (merge [yearsFile, songsFile]).sources = [⟨"/a/b/.advq.toml"⟩, ⟨"/a/.advq.toml"⟩] := by
  obtain ⟨values, inserted, appended, sources⟩ := closest_file_decides [yearsFile, songsFile]
  refine ⟨values _ .order, values _ .scope, values _ .table, values _ .json, ?_, ?_, sources⟩
  · refine inserted [yearsFile] [songsFile] ⟨"/"⟩ _ rfl fun α setting given => given ?_
    cases setting <;> rfl
  · refine appended ⟨"/"⟩ _ fun α setting given => ?_
    cases setting with
    | order => exact ⟨yearsFile, List.mem_cons_self, by simp [Setting.IsGivenBy, Setting.given?, yearsFile]⟩
    | _ => exact absurd rfl given

end MediaSearch
