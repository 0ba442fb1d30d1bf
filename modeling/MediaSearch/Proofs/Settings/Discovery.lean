import MediaSearch.Settings.Discovery
import MediaSearch.Proofs.Paths
import MediaSearch.Proofs.Toml.Lines

set_option autoImplicit false

namespace MediaSearch

namespace Look

variable {look : Look} {path : Path}

def Gives (look : Look) (path : Path) (file : SettingsFile) : Prop :=
  ∃ text, look.read path = .ok text ∧ SettingsFile.parse? text = some file

def IsRootFile (look : Look) (path : Path) : Prop := ∃ file, look.Gives path file ∧ file.root = some true

inductive Faulty (look : Look) (path : Path) : LoadError → Prop
  | unreadable {reason : FileError} (failed : look.read path = .error reason) :
    Faulty look path (.unreadable path reason)
  | malformed {text : String} (read : look.read path = .ok text) (rejected : SettingsFile.parse? text = none) :
    Faulty look path (.malformed path)

theorem readFile_ok_iff {file : SettingsFile} : Settings.readFile look path = .ok file ↔ look.Gives path file := by
  unfold Settings.readFile Gives
  cases look.read path with
  | error reason => simp
  | ok text => cases parsed : SettingsFile.parse? text <;> simp [parsed]

theorem readFile_error_iff {error : LoadError} :
    Settings.readFile look path = .error error ↔ look.Faulty path error := by
  constructor
  · intro failed
    unfold Settings.readFile at failed
    split at failed
    · next reason unread =>
      obtain rfl := Except.error.inj failed
      exact .unreadable unread
    · next text read =>
      split at failed
      · cases failed
      · next rejected =>
        obtain rfl := Except.error.inj failed
        exact .malformed read rejected
  · intro faulty
    cases faulty with
    | unreadable unread => rw [Settings.readFile, unread]
    | malformed read rejected => simp only [Settings.readFile, read, rejected]

theorem isRoot_iff : Settings.isRoot look path = true ↔ look.IsRootFile path := by
  unfold Settings.isRoot IsRootFile
  simp only [← readFile_ok_iff]
  cases Settings.readFile look path <;> simp

theorem Gives.isFile {file : SettingsFile} (given : look.Gives path file) : look.isFile path = true := by
  obtain ⟨text, read, -⟩ := given
  unfold Look.read at read
  unfold Look.isFile
  split at read <;> simp_all [Entry.isFile]

theorem read_of_text {text : String} (there : look path = .ok (.file text.toUTF8)) : look.read path = .ok text := by
  have valid : text.toUTF8.IsValidUTF8 := text.isValidUTF8
  have back : String.fromUTF8? text.toUTF8 = some text := dif_pos valid
  simp only [read, there, back]

theorem isFile_congr {look' : Look} (agree : look' path = look path) : look'.isFile path = look.isFile path := by
  rw [isFile, isFile, agree]

theorem readFile_congr {look' : Look} (agree : look' path = look path) :
    Settings.readFile look' path = Settings.readFile look path := by
  rw [Settings.readFile, Settings.readFile, read, read, agree]

theorem isRoot_congr {look' : Look} (agree : look' path = look path) :
    Settings.isRoot look' path = Settings.isRoot look path := by
  rw [Settings.isRoot, Settings.isRoot, readFile_congr agree]

end Look

section Lists

variable {α : Type} {stops : α → Prop} {list kept : List α} {a : α}

inductive UpTo (stops : α → Prop) : List α → List α → Prop
  | whole {list : List α} (unstopped : ∀ a ∈ list, ¬stops a) : UpTo stops list list
  | cut {before after : List α} {a : α} (unstopped : ∀ b ∈ before, ¬stops b) (stopped : stops a) :
    UpTo stops (before ++ a :: after) (before ++ [a])

theorem UpTo.cons (further : UpTo stops list kept) (unstopped : ¬stops a) :
    UpTo stops (a :: list) (a :: kept) := by
  cases further with
  | whole others => exact .whole (List.forall_mem_cons.mpr ⟨unstopped, others⟩)
  | cut others stopped => exact .cut (List.forall_mem_cons.mpr ⟨unstopped, others⟩) stopped

theorem UpTo.stop (stopped : stops a) : UpTo stops (a :: list) [a] :=
  .cut (List.forall_mem_nil _) stopped

theorem UpTo.sublist (upTo : UpTo stops list kept) : kept.Sublist list := by
  cases upTo with
  | whole => exact List.Sublist.refl list
  | cut => exact (List.singleton_sublist.mpr List.mem_cons_self).append_left _

end Lists

namespace Path

theorem settingsFileName_isName : isName settingsFileName.toList = true := by decide

theorem settingsFileName_apart : '/' ∉ settingsFileName.toList := by decide

theorem settingsFile_head (directory : Path) : directory.settingsFile.head = directory.head :=
  (child_pieces directory settingsFileName_isName settingsFileName_apart).1

theorem settingsFile_names (directory : Path) :
    directory.settingsFile.names = directory.names ++ [settingsFileName.toList] :=
  child_names directory settingsFileName_isName settingsFileName_apart

theorem settingsFile_same (left right : Path) : left.settingsFile.same right.settingsFile = left.same right := by
  rw [Bool.eq_iff_iff, same_iff, same_iff, settingsFile_head, settingsFile_head, settingsFile_names,
    settingsFile_names, List.append_left_inj]

theorem parent?_settingsFile (directory : Path) :
    ∃ up, directory.settingsFile.parent? = some up ∧ up.same directory = true :=
  parent?_child directory settingsFileName_isName settingsFileName_apart

end Path

namespace Settings

open MediaSearch.Path (settingsFile)

variable {look look' : Look} {home home' : Option Path} {directory : Path} {directories : List Path}

theorem findIn_upTo (look : Look) (directories : List Path) :
    UpTo look.IsRootFile ((directories.map settingsFile).filter look.isFile) (findIn look directories) := by
  induction directories with
  | nil => exact .whole (List.forall_mem_nil _)
  | cons directory further ih =>
    rw [List.map_cons, findIn]
    split
    · next isFile =>
      rw [List.filter_cons_of_pos isFile]
      split
      · next root => exact .stop (Look.isRoot_iff.mp root)
      · next notRoot => exact ih.cons (notRoot ∘ Look.isRoot_iff.mpr)
    · next notFile =>
      rw [List.filter_cons_of_neg notFile]
      exact ih

theorem findIn_sublist (look : Look) (directories : List Path) :
    (findIn look directories).Sublist (directories.map settingsFile) :=
  (findIn_upTo look directories).sublist.trans List.filter_sublist

theorem mem_findIn {path : Path} (listed : path ∈ findIn look directories) :
    look.isFile path = true ∧ ∃ inside ∈ directories, path = inside.settingsFile := by
  obtain ⟨mapped, isFile⟩ := List.mem_filter.mp ((findIn_upTo look directories).sublist.subset listed)
  obtain ⟨inside, within, rfl⟩ := List.mem_map.mp mapped
  exact ⟨isFile, inside, within, rfl⟩

structure IsAdded (look : Look) (home : Option Path) (found : List Path) (path : Path) : Prop where
  inHome : ∃ directory, home = some directory ∧ path = directory.settingsFile
  noRoot : ∀ other ∈ found, ¬look.IsRootFile other
  isFile : look.isFile path = true
  notFound : ∀ other ∈ found, path.same other = false

theorem findGlobal_eq (look : Look) (home : Option Path) (found : List Path) :
    ∃ added : Option Path, findGlobal look home found = added.toList ∧
      ∀ path, added = some path ↔ IsAdded look home found path := by
  cases home with
  | none =>
    refine ⟨none, rfl, fun path => ⟨nofun, fun added => ?_⟩⟩
    obtain ⟨_, nowhere, -⟩ := added.inHome
    cases nowhere
  | some directory =>
    have fits : (!found.any (isRoot look) && look.isFile directory.settingsFile &&
        !found.any directory.settingsFile.same) = true ↔ IsAdded look (some directory) found directory.settingsFile := by
      simp only [Bool.and_eq_true, Bool.not_eq_true', List.any_eq_false, Look.isRoot_iff, Bool.not_eq_true]
      exact ⟨fun ⟨⟨noRoot, isFile⟩, notFound⟩ => ⟨⟨directory, rfl, rfl⟩, noRoot, isFile, notFound⟩,
        fun added => ⟨⟨added.noRoot, added.isFile⟩, added.notFound⟩⟩
    have alone {path : Path} (added : IsAdded look (some directory) found path) : path = directory.settingsFile := by
      obtain ⟨_, same, rfl⟩ := added.inHome
      rw [Option.some.inj same]
    by_cases added : IsAdded look (some directory) found directory.settingsFile
    · refine ⟨some directory.settingsFile, if_pos (fits.mpr added), fun path => ⟨?_, fun other => ?_⟩⟩
      · rintro ⟨⟩
        exact added
      · rw [alone other]
    · refine ⟨none, if_neg (added ∘ fits.mp), fun path => ⟨nofun, fun other => ?_⟩⟩
      exact absurd (alone other ▸ other) added

theorem findAbove_pairwise (absolute : directory.IsAbsolute) :
    (findAbove look directory).Pairwise fun closer further => closer.same further = false := by
  have different : ((directory :: directory.above).map settingsFile).Pairwise
      fun closer further => closer.same further = false := by
    rw [List.pairwise_map]
    refine (Path.above_pairwise_shorter absolute).imp fun {lower upper} shorter => ?_
    rw [Path.settingsFile_same, ← Bool.not_eq_true, Path.same_iff]
    rintro ⟨-, equal⟩
    exact absurd (congrArg List.length equal) (Nat.ne_of_gt shorter)
  exact different.sublist (findIn_sublist look _)

theorem discover_pairwise (absolute : directory.IsAbsolute) :
    (discover look home directory).Pairwise fun closer further => closer.same further = false := by
  obtain ⟨added, global, when⟩ := findGlobal_eq look home (findAbove look directory)
  rw [discover, global]
  refine List.pairwise_append.mpr ⟨findAbove_pairwise absolute, ?_, ?_⟩
  · cases added <;> simp
  · intro closer found further last
    rw [Path.same_comm]
    exact ((when further).mp (Option.mem_toList.mp last)).notFound closer found

theorem readFiles_paths {paths : List Path} {files : List (Path × SettingsFile)}
    (read : readFiles look paths = .ok files) : files.map Prod.fst = paths := by
  induction paths generalizing files with
  | nil =>
    obtain rfl := Except.ok.inj read
    rfl
  | cons path further ih =>
    unfold readFiles at read
    split at read
    · cases read
    · split at read
      · cases read
      · next others rest =>
        obtain rfl := Except.ok.inj read
        rw [List.map_cons, ih rest]

theorem readFiles_error_iff {paths : List Path} {error : LoadError} :
    readFiles look paths = .error error ↔ ∃ before path after, paths = before ++ path :: after ∧
      (∀ closer ∈ before, ∃ file, look.Gives closer file) ∧ look.Faulty path error := by
  induction paths with
  | nil => simp [readFiles]
  | cons path further ih =>
    unfold readFiles
    constructor
    · intro failed
      split at failed
      · next reason faulty =>
        obtain rfl := Except.error.inj failed
        exact ⟨[], path, further, rfl, List.forall_mem_nil _, Look.readFile_error_iff.mp faulty⟩
      · next file given =>
        split at failed
        · next reason rest =>
          obtain rfl := Except.error.inj failed
          obtain ⟨before, faultyPath, after, rfl, fine, faulty⟩ := ih.mp rest
          refine ⟨path :: before, faultyPath, after, rfl, ?_, faulty⟩
          exact List.forall_mem_cons.mpr ⟨⟨file, Look.readFile_ok_iff.mp given⟩, fine⟩
        · cases failed
    · rintro ⟨before, faultyPath, after, equal, fine, faulty⟩
      cases before with
      | nil =>
        obtain ⟨rfl, rfl⟩ := List.cons.inj equal
        rw [Look.readFile_error_iff.mpr faulty]
      | cons first before =>
        obtain ⟨rfl, rfl⟩ := List.cons.inj equal
        obtain ⟨⟨file, given⟩, fine⟩ := List.forall_mem_cons.mp fine
        rw [Look.readFile_ok_iff.mpr given, ih.mpr ⟨before, faultyPath, after, rfl, fine, faulty⟩]

theorem readFiles_ok_iff {paths : List Path} :
    (∃ files, readFiles look paths = .ok files) ↔ ∀ path ∈ paths, ∃ file, look.Gives path file := by
  simp only [← Look.readFile_ok_iff]
  induction paths with
  | nil => simp [readFiles]
  | cons path further ih =>
    rw [List.forall_mem_cons, ← ih, readFiles]
    cases readFile look path <;> cases readFiles look further <;> simp

theorem merge_sources (files : List (Path × SettingsFile)) : (merge files).sources = files.map Prod.fst := by
  induction files with
  | nil => rfl
  | cons file further ih => rw [merge, addSource, ih, List.map_cons]

theorem merge_directory (files : List (Path × SettingsFile)) :
    (merge files).directory = (files.map Prod.fst).head?.bind Path.parent? := by
  cases files <;> rfl

theorem loadFiles_error_iff {paths : List Path} {error : LoadError} :
    loadFiles look paths = .error error ↔ readFiles look paths = .error error := by
  rw [loadFiles]
  cases readFiles look paths <;> simp [Except.map]

theorem loadFiles_ok_iff {paths : List Path} {settings : Settings} :
    loadFiles look paths = .ok settings ↔ ∃ files, readFiles look paths = .ok files ∧ merge files = settings := by
  rw [loadFiles]
  cases readFiles look paths <;> simp [Except.map]

theorem loadFiles_succeeds_iff {paths : List Path} :
    (∃ settings, loadFiles look paths = .ok settings) ↔ ∀ path ∈ paths, ∃ file, look.Gives path file := by
  rw [← readFiles_ok_iff]
  constructor
  · rintro ⟨settings, loaded⟩
    obtain ⟨files, read, -⟩ := loadFiles_ok_iff.mp loaded
    exact ⟨files, read⟩
  · rintro ⟨files, read⟩
    exact ⟨merge files, loadFiles_ok_iff.mpr ⟨files, read, rfl⟩⟩

theorem mem_discover {path : Path} (listed : path ∈ discover look home directory) :
    look.isFile path = true ∧ ∃ inside : Path, path = inside.settingsFile := by
  obtain ⟨added, global, when⟩ := findGlobal_eq look home (findAbove look directory)
  rw [discover, global] at listed
  rcases List.mem_append.mp listed with found | last
  · obtain ⟨isFile, inside, -, rfl⟩ := mem_findIn found
    exact ⟨isFile, inside, rfl⟩
  · have added := (when path).mp (Option.mem_toList.mp last)
    obtain ⟨inside, -, rfl⟩ := added.inHome
    exact ⟨added.isFile, inside, rfl⟩

theorem findIn_congr (agree : ∀ directory ∈ directories, look' directory.settingsFile = look directory.settingsFile) :
    findIn look' directories = findIn look directories := by
  induction directories with
  | nil => rfl
  | cons directory further ih =>
    obtain ⟨here, there⟩ := List.forall_mem_cons.mp agree
    simp only [findIn, Look.isFile_congr here, Look.isRoot_congr here, ih there]

theorem readFiles_congr {paths : List Path} (agree : ∀ path ∈ paths, look' path = look path) :
    readFiles look' paths = readFiles look paths := by
  induction paths with
  | nil => rfl
  | cons path further ih =>
    obtain ⟨here, there⟩ := List.forall_mem_cons.mp agree
    simp only [readFiles, Look.readFile_congr here, ih there]

theorem findIn_beyond_root (near far : List Path) {root : Path} (isRoot : look.IsRootFile root.settingsFile) :
    findIn look (near ++ root :: far) = findIn look (near ++ [root]) ∧
      ∃ path ∈ findIn look (near ++ [root]), look.IsRootFile path := by
  induction near with
  | nil =>
    obtain ⟨file, given, -⟩ := id isRoot
    simp [findIn, given.isFile, Look.isRoot_iff.mpr isRoot, isRoot]
  | cons directory near ih =>
    obtain ⟨equal, path, listed, root⟩ := ih
    simp only [List.cons_append, findIn, equal, true_and]
    split
    · split
      · next rootHere => exact ⟨_, List.mem_singleton_self _, Look.isRoot_iff.mp rootHere⟩
      · exact ⟨path, List.mem_cons_of_mem _ listed, root⟩
    · exact ⟨path, listed, root⟩

theorem discover_of_root {near far : List Path} {root : Path}
    (upward : directory :: directory.above = near ++ root :: far) (isRoot : look.IsRootFile root.settingsFile) :
    discover look home directory = findIn look (near ++ [root]) := by
  obtain ⟨equal, path, listed, rootThere⟩ := findIn_beyond_root near far isRoot
  obtain ⟨added, global, when⟩ := findGlobal_eq look home (findIn look (near ++ [root]))
  have nothing : added = none := by
    refine Option.eq_none_iff_forall_ne_some.mpr fun last given => ?_
    exact ((when last).mp given).noRoot path listed rootThere
  rw [discover, findAbove, upward, equal, global, nothing, Option.toList_none, List.append_nil]

theorem load_beyond_root {near far : List Path} {root : Path}
    (upward : directory :: directory.above = near ++ root :: far) (isRoot : look.IsRootFile root.settingsFile)
    (agree : ∀ inside ∈ near ++ [root], look' inside.settingsFile = look inside.settingsFile) :
    discover look' home' directory = discover look home directory ∧
      load look' home' directory = load look home directory := by
  have isRoot' : look'.IsRootFile root.settingsFile := by
    rwa [← Look.isRoot_iff, Look.isRoot_congr (agree root (by simp)), Look.isRoot_iff]
  have equal : discover look' home' directory = discover look home directory := by
    rw [discover_of_root upward isRoot, discover_of_root upward isRoot', findIn_congr agree]
  refine ⟨equal, ?_⟩
  rw [load, load, equal, loadFiles, loadFiles, readFiles_congr]
  intro path listed
  rw [discover_of_root upward isRoot] at listed
  obtain ⟨-, inside, near, rfl⟩ := mem_findIn listed
  exact agree inside near

theorem loadFiles_directory {paths : List Path} {settings : Settings} (loaded : loadFiles look paths = .ok settings)
    (inside : ∀ path ∈ paths, ∃ directory : Path, path = directory.settingsFile) :
    (paths = [] ∧ settings.directory = none) ∨ ∃ directory up : Path, paths.head? = some directory.settingsFile ∧
      settings.directory = some up ∧ up.same directory = true := by
  obtain ⟨files, read, rfl⟩ := loadFiles_ok_iff.mp loaded
  rw [merge_directory, readFiles_paths read]
  cases paths with
  | nil => exact .inl ⟨rfl, rfl⟩
  | cons path further =>
    obtain ⟨directory, rfl⟩ := inside path List.mem_cons_self
    obtain ⟨up, parent, same⟩ := Path.parent?_settingsFile directory
    exact .inr ⟨directory, up, rfl, parent, same⟩

end Settings

open Settings MediaSearch.Path in
theorem load_stops_at_nearest_root (look : Look) (home : Option Path) {directory : Path}
    (absolute : directory.IsAbsolute) :
    -- The directories above an absolute one have its names but for the last ones.
    ((∀ up ∈ directory :: directory.above, up.IsAbsolute) ∧
      (directory :: directory.above).map names = directory.names.inits.reverse) ∧
    -- The files that are found.
    (∃ (found : List Path) (added : Option Path), discover look home directory = found ++ added.toList ∧
      UpTo look.IsRootFile (((directory :: directory.above).map settingsFile).filter look.isFile) found ∧
      ∀ path, added = some path ↔ IsAdded look home found path) ∧
    (discover look home directory).Pairwise (fun closer further => closer.same further = false) ∧
    -- What loading them gives.
    ((∃ settings, load look home directory = .ok settings) ↔
      ∀ path ∈ discover look home directory, ∃ file, look.Gives path file) ∧
    (∀ error, load look home directory = .error error ↔
      ∃ before path after, discover look home directory = before ++ path :: after ∧
        (∀ closer ∈ before, ∃ file, look.Gives closer file) ∧ look.Faulty path error) ∧
    (∀ settings, load look home directory = .ok settings →
      settings.sources = discover look home directory ∧
      ((discover look home directory = [] ∧ settings.directory = none) ∨
        ∃ inside up : Path, (discover look home directory).head? = some inside.settingsFile ∧
          settings.directory = some up ∧ up.same inside = true)) ∧
    -- What is above a root, or in the home directory where there is a root, makes no difference.
    ∀ (near : List Path) (root : Path) (far : List Path) (look' : Look) (home' : Option Path),
      directory :: directory.above = near ++ root :: far → look.IsRootFile root.settingsFile →
      (∀ inside ∈ near ++ [root], look' inside.settingsFile = look inside.settingsFile) →
      discover look' home' directory = discover look home directory ∧
        load look' home' directory = load look home directory := by
  refine ⟨⟨fun up => above_absolute absolute, above_names absolute⟩, ?_, discover_pairwise absolute,
    loadFiles_succeeds_iff, ?_, ?_, ?_⟩
  · obtain ⟨added, global, when⟩ := findGlobal_eq look home (findAbove look directory)
    exact ⟨findAbove look directory, added, by rw [discover, global], findIn_upTo look _, when⟩
  · intro error
    rw [load, loadFiles_error_iff, readFiles_error_iff]
  · intro settings loaded
    refine ⟨?_, loadFiles_directory loaded fun path listed => (mem_discover listed).2⟩
    obtain ⟨files, read, rfl⟩ := loadFiles_ok_iff.mp loaded
    rw [merge_sources, readFiles_paths read]
  · intro near root far look' home' upward isRoot agree
    exact load_beyond_root upward isRoot agree

def rootBelow (top : Except FileError Entry) : Look := fun path =>
  if path = ⟨"/music/.advq.toml"⟩ then .ok (.file "root = true\n".toUTF8)
  else if path = ⟨"/.advq.toml"⟩ then top
  else .error .missing

theorem rootBelow_isRootFile (top : Except FileError Entry) :
    (rootBelow top).IsRootFile (⟨"/music"⟩ : Path).settingsFile := by
  have isName : Toml.Key.IsName "root" := Toml.Key.isName_of_all rfl
  have lines : Toml.Extends .empty "root = true\n".toList ⟨[("root", .boolean true)], []⟩ :=
    Toml.Extends.wordSetting isName "true" (Toml.Key.isName_of_all rfl) rfl rfl
  have parsed : SettingsFile.parse? "root = true\n" = some { root := some true } := by
    rw [SettingsFile.parse?, Toml.parse?_of_extends lines (by decide)]
    rfl
  exact ⟨{ root := some true }, ⟨_, Look.read_of_text (if_pos (by decide +kernel)), parsed⟩, rfl⟩

open Settings in
theorem load_stops_at_nearest_root_music :
    (⟨"/music/new"⟩ : Path).IsAbsolute ∧
    (⟨"/music/new"⟩ :: (⟨"/music/new"⟩ : Path).above = [⟨"/music/new"⟩] ++ ⟨"/music"⟩ :: [⟨"/"⟩]) ∧
    (rootBelow (.error .missing)).IsRootFile (⟨"/music"⟩ : Path).settingsFile ∧
    load (rootBelow (.ok (.locked .denied))) (some ⟨"/"⟩) ⟨"/music/new"⟩ =
      load (rootBelow (.error .missing)) none ⟨"/music/new"⟩ := by
  have absolute : (⟨"/music/new"⟩ : Path).IsAbsolute := rfl
  have upward : ⟨"/music/new"⟩ :: (⟨"/music/new"⟩ : Path).above = [⟨"/music/new"⟩] ++ ⟨"/music"⟩ :: [⟨"/"⟩] := by
    decide +kernel
  refine ⟨absolute, upward, rootBelow_isRootFile _, ?_⟩
  obtain ⟨-, -, -, -, -, -, beyond⟩ := load_stops_at_nearest_root (rootBelow (.error .missing)) none absolute
  refine (beyond _ _ _ _ _ upward (rootBelow_isRootFile _) fun inside listed => ?_).2
  rcases List.mem_append.mp listed with near | root
  · obtain rfl := List.mem_singleton.mp near
    rfl
  · obtain rfl := List.mem_singleton.mp root
    rfl

end MediaSearch
