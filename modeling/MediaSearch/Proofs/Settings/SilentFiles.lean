import MediaSearch.Settings.Template
import MediaSearch.Proofs.Settings.Discovery

set_option autoImplicit false

namespace MediaSearch

namespace Text

variable {line text read : List Char} {c : Char}

theorem mem_closedLine (within : c ∈ closedLine line) : c ∈ line := by
  unfold closedLine at within
  split at within
  · exact List.mem_cons_of_mem _ (List.mem_reverse.mp within)
  · exact List.mem_reverse.mp within

theorem mem_linesFrom (listed : read ∈ linesFrom line text) (within : c ∈ read) :
    c ∈ line ∨ c ∈ text ∧ c ≠ '\n' := by
  fun_induction linesFrom line text with
  | case1 => cases listed
  | case2 line nonempty =>
    obtain rfl := List.mem_singleton.mp listed
    exact .inl (List.mem_reverse.mp within)
  | case3 line rest ih =>
    rcases List.mem_cons.mp listed with rfl | later
    · exact .inl (mem_closedLine within)
    · obtain inside | ⟨inside, other⟩ := ih later
      · cases inside
      · exact .inr ⟨List.mem_cons_of_mem _ inside, other⟩
  | case4 line first rest other ih =>
    obtain inside | ⟨inside, notBreak⟩ := ih listed
    · rcases List.mem_cons.mp inside with rfl | before
      · exact .inr ⟨List.mem_cons_self, other⟩
      · exact .inl before
    · exact .inr ⟨List.mem_cons_of_mem _ inside, notBreak⟩

theorem mem_lines {line text : String} (listed : line ∈ lines text) (within : c ∈ line.toList) :
    c ∈ text.toList ∧ c ≠ '\n' := by
  obtain ⟨chars, read, rfl⟩ := List.mem_map.mp listed
  rw [String.toList_ofList] at within
  exact (mem_linesFrom read within).resolve_left List.not_mem_nil

end Text

namespace Template

open Toml (Extends isPlain Document)

variable {document : Document}

theorem commentLine_extends {line : String} (plain : ∀ c ∈ line.toList, isPlain c = true) :
    Extends document (commentLine line).toList document := by
  unfold commentLine
  split
  · exact Extends.newline
  · next rest marked =>
    rw [String.toList_append, marked]
    exact Extends.comment fun c within => plain c (marked ▸ List.mem_cons_of_mem _ within)
  · rw [String.toList_append, String.toList_append]
    exact Extends.comment (List.forall_mem_cons.mpr ⟨rfl, plain⟩)

theorem commentLine_head (line : String) (more : List Char) :
    ((commentLine line).toList ++ more).head? ≠ some '\ufeff' := by
  unfold commentLine
  split
  · simp
  · next rest marked => simp [marked]
  · simp

theorem commentLines_extend {lines : List String} (plain : ∀ line ∈ lines, ∀ c ∈ line.toList, isPlain c = true) :
    Extends document (String.join (lines.map commentLine)).toList document := by
  induction lines with
  | nil => exact Extends.nil
  | cons line lines ih =>
    obtain ⟨first, others⟩ := List.forall_mem_cons.mp plain
    simpa using (commentLine_extends first).append (ih others)

theorem parse?_commented {text : String} (plain : ∀ c ∈ text.toList, c = '\n' ∨ isPlain c = true) :
    SettingsFile.parse? (commented text) = some {} := by
  have plainLines : ∀ line ∈ Text.lines text, ∀ c ∈ line.toList, isPlain c = true := fun line listed c within =>
    have ⟨inside, notBreak⟩ := Text.mem_lines listed within
    (plain c inside).resolve_left notBreak
  have noMark : (commented text).toList.head? ≠ some '\ufeff' := by
    rw [commented]
    cases Text.lines text with
    | nil => simp
    | cons line lines => simpa using commentLine_head line _
  have lines : Extends .empty (commented text).toList .empty := commentLines_extend plainLines
  rw [SettingsFile.parse?, Toml.parse?_of_extends lines noMark]
  rfl

-- A long literal is checked as the list of its characters, which need not be decoded first.
theorem parse?_commented_ofList {chars : List Char} (plain : chars.all (fun c => c == '\n' || isPlain c) = true) :
    SettingsFile.parse? (commented (String.ofList chars)) = some {} :=
  parse?_commented (by simpa using plain)

set_option maxRecDepth 4000 in
theorem parse?_text (isGlobal : Bool) : SettingsFile.parse? (text isGlobal) = some {} := by
  rw [text]
  cases isGlobal with
  | false =>
    rw [if_neg Bool.false_ne_true, localExample]
    exact parse?_commented_ofList (by decide +kernel)
  | true =>
    rw [if_pos rfl, globalExample]
    exact parse?_commented_ofList (by decide +kernel)

end Template

-- Some more settings files are shown, all of which say nothing. How a directory is spelled makes no difference.
structure AddsSilent (look look' : Look) : Prop where
  settingsFile : ∀ directory : Path, look' directory.settingsFile = look directory.settingsFile ∨
    look.isFile directory.settingsFile = false ∧
      (look'.isFile directory.settingsFile = false ∨ look'.Gives directory.settingsFile {})
  spelling : ∀ left right : Path, left.same right = true → look left.settingsFile = look right.settingsFile

namespace Settings

open MediaSearch.Path (settingsFile)

variable {look look' : Look}

theorem isFile_of_isRoot {path : Path} (root : isRoot look path = true) : look.isFile path = true := by
  obtain ⟨file, given, -⟩ := Look.isRoot_iff.mp root
  exact given.isFile

theorem isRoot_of_silent {path : Path} (silent : look.Gives path {}) : isRoot look path = false := by
  rw [isRoot, Look.readFile_ok_iff.mpr silent]
  rfl

theorem isRoot_adds (adds : AddsSilent look look') (directory : Path) :
    isRoot look' directory.settingsFile =
      (look.isFile directory.settingsFile && isRoot look directory.settingsFile) := by
  rcases adds.settingsFile directory with same | ⟨absent, still | silent⟩
  · rw [Look.isRoot_congr same, Bool.eq_and_self]
    exact isFile_of_isRoot
  · rw [absent, Bool.false_and, ← Bool.not_eq_true]
    intro root
    rw [isFile_of_isRoot root] at still
    cases still
  · rw [absent, Bool.false_and, isRoot_of_silent silent]

theorem findIn_filter (adds : AddsSilent look look') (directories : List Path) :
    (findIn look' directories).filter look.isFile = findIn look directories := by
  induction directories with
  | nil => rfl
  | cons directory further ih =>
    simp only [findIn]
    rcases adds.settingsFile directory with same | ⟨absent, still | silent⟩
    · rw [Look.isFile_congr same, Look.isRoot_congr same]
      split
      · next isFile => split <;> simp [isFile, ih]
      · exact ih
    · simp [absent, still, ih]
    · simp [absent, silent.isFile, isRoot_of_silent silent, ih]

theorem any_filter_eq {paths : List Path} {kept first second : Path → Bool}
    (equal : ∀ path ∈ paths, first path = (kept path && second path)) :
    paths.any first = (paths.filter kept).any second := by
  rw [List.any_filter, Bool.eq_iff_iff, List.any_eq_true, List.any_eq_true]
  exact exists_congr fun path => and_congr_right fun listed => by rw [equal path listed]

theorem findAbove_any_isRoot (adds : AddsSilent look look') (directory : Path) :
    (findAbove look' directory).any (isRoot look') = (findAbove look directory).any (isRoot look) := by
  rw [findAbove, findAbove, ← findIn_filter adds]
  refine any_filter_eq fun path listed => ?_
  obtain ⟨-, inside, -, rfl⟩ := mem_findIn listed
  exact isRoot_adds adds inside

-- The file in the home directory is not among the new ones if it was there before.
theorem findAbove_any_same (adds : AddsSilent look look') {home : Path} (isFile : look.isFile home.settingsFile = true)
    (directory : Path) :
    (findAbove look' directory).any home.settingsFile.same = (findAbove look directory).any home.settingsFile.same := by
  rw [findAbove, findAbove, ← findIn_filter adds]
  refine any_filter_eq fun path listed => ?_
  obtain ⟨-, inside, -, rfl⟩ := mem_findIn listed
  rw [Path.settingsFile_same, Bool.eq_and_self]
  intro same
  rwa [Look.isFile, ← adds.spelling home inside same]

theorem findGlobal_filter (adds : AddsSilent look look') (home : Option Path) (directory : Path) :
    (findGlobal look' home (findAbove look' directory)).filter look.isFile =
      findGlobal look home (findAbove look directory) := by
  cases home with
  | none => rfl
  | some home =>
    simp only [findGlobal, findAbove_any_isRoot adds]
    cases isFile : look.isFile home.settingsFile with
    | false =>
      rw [Bool.and_false, Bool.false_and, if_neg Bool.false_ne_true]
      split <;> simp [isFile]
    | true =>
      have same : look' home.settingsFile = look home.settingsFile :=
        (adds.settingsFile home).resolve_right fun absent => by simp [isFile] at absent
      rw [Look.isFile_congr same, isFile, findAbove_any_same adds isFile]
      split <;> simp [isFile]

theorem discover_filter (adds : AddsSilent look look') (home : Option Path) (directory : Path) :
    (discover look' home directory).filter look.isFile = discover look home directory := by
  rw [discover, discover, List.filter_append, findGlobal_filter adds, findAbove, findIn_filter adds, findAbove]

def inForce (settings : Settings) : CompileSettings × OutputSettings := (settings.compile, settings.output)

theorem inForce_addSource {path : Path} {file : SettingsFile} {first second : Except LoadError Settings}
    (same : first.map inForce = second.map inForce) :
    (first.map (addSource path file)).map inForce = (second.map (addSource path file)).map inForce := by
  cases first with
  | error error =>
    cases second with
    | error other =>
      obtain rfl : error = other := Except.error.inj same
      rfl
    | ok settings => cases same
  | ok settings =>
    cases second with
    | error error => cases same
    | ok other =>
      obtain ⟨compile, output⟩ := Prod.mk.inj (Except.ok.inj same)
      simp only [Except.map, inForce, addSource, compile, output]

theorem loadFiles_cons {path : Path} {paths : List Path} :
    loadFiles look (path :: paths) =
      (readFile look path).bind fun file => (loadFiles look paths).map (addSource path file) := by
  rw [loadFiles, loadFiles, readFiles]
  cases readFile look path with
  | error error => rfl
  | ok file => cases readFiles look paths <;> rfl

theorem loadFiles_filter (adds : AddsSilent look look') {paths : List Path}
    (shown : ∀ path ∈ paths, look'.isFile path = true ∧ ∃ inside : Path, path = inside.settingsFile) :
    (loadFiles look' paths).map inForce = (loadFiles look (paths.filter look.isFile)).map inForce := by
  induction paths with
  | nil => rfl
  | cons path paths ih =>
    obtain ⟨⟨isFile, inside, rfl⟩, others⟩ := List.forall_mem_cons.mp shown
    rw [loadFiles_cons]
    rcases adds.settingsFile inside with same | ⟨absent, still | silent⟩
    · rw [List.filter_cons_of_pos (Look.isFile_congr same ▸ isFile), loadFiles_cons, Look.readFile_congr same]
      cases readFile look inside.settingsFile with
      | error error => rfl
      | ok file => exact inForce_addSource (ih others)
    · rw [isFile] at still
      cases still
    · rw [List.filter_cons_of_neg (by simp [absent]), Look.readFile_ok_iff.mpr silent, ← ih others]
      cases loadFiles look' paths <;> rfl

theorem load_adds (adds : AddsSilent look look') (home : Option Path) (directory : Path) :
    (load look' home directory).map inForce = (load look home directory).map inForce := by
  rw [load, load, loadFiles_filter adds fun path => mem_discover, discover_filter adds]

end Settings

end MediaSearch
