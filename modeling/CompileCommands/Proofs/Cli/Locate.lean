/-
  What the command that locates a database says of success.

  * `Database.LiesAt`, `Database.Provides`: what a located database and a chosen entry are;
  * `Report.Sound`: the parts of a report fit each other and the world; `sound_report`: every report
    is sound, though its parts are found one by one;
  * `isInherent_of_report`, `report_of_no_root`: where there is no report, and a report without a
    root;
  * `prints_main_of_bad_root`, `prints_main_of_report`, `prints_main_of_error`: how the command
    ends;
  * `main_sound`: the exit code tells whether all that was asked for was found, and what is printed
    is right; `main_emptyRoot`: an empty root or file counts as not given.
-/
import CompileCommands.Cli.Locate
import CompileCommands.Proofs.Cli.Exit
import CompileCommands.Proofs.Database.DefaultLayout
import CompileCommands.Proofs.Database.FaultFree
import CompileCommands.Proofs.Database.Spelling

namespace CompileCommands

open CompileCommands.Path (Lexical)

/-! ## Databases and entries -/

namespace Database

variable {w : World} {path file root : String} {entries : List Entry} {e : Entry}

/-- At an absolute path in lowest terms there is a file with the name of a database. -/
def LiesAt (w : World) (path : String) : Prop :=
  ∃ p : Lexical, p.text = path ∧ p.IsLowest ∧ p.names.getLast? = some fileName ∧ w.isFile path

/-- The entry has a file and is one of those in the database at a path; for a code file, it is for
    exactly this file. -/
def Provides (w : World) (path file : String) (e : Entry) : Prop :=
  ∃ entries, contents w path = .ok entries ∧ e ∈ entries ∧ e.file ≠ "" ∧
    (SourceKind.ofPath file = .code → Path.isMatching file e.resolvedFile)

theorem getLast?_lexical_join (hdirectory : Path.isRooted w.workingDirectory) (buildRoot : String) :
    (w.lexical (Path.join buildRoot fileName)).names.getLast? = some fileName := by
  have hname := DatabaseLocator.isPlain_databaseName
  by_cases hempty : buildRoot = ""
  · have hne : w.workingDirectory ≠ "" := by
      intro h
      rw [h] at hdirectory
      exact absurd hdirectory (by decide)
    have hjoin : Path.join "" fileName = fileName := by decide
    rw [hempty, hjoin, World.lexical, Path.anchored, if_neg (by simp [hname.not_isRooted]),
      Path.Lexical.ofText_join hne hname.not_isRooted, Path.Lexical.below_of_isPlain hname,
      Path.Lexical.child, List.getLast?_concat]
  · rw [World.lexical_join hempty hname, Path.Lexical.child, List.getLast?_concat]

theorem liesAt_of_locate {locator : DatabaseLocator} (hdirectory : Path.isRooted w.workingDirectory)
    (hlocator : locator.root = .fixed (some root)) (hroot : root ≠ "")
    (h : (locator.locate w).result = .ok (some path)) : LiesAt w path := by
  have hpath : ∃ buildRoot, path = DatabaseLocator.databasePath w buildRoot := by
    cases DatabaseLocator.candidate_of_locate hlocator hroot h with
    | default => exact ⟨_, rfl⟩
    | configured hconfigured =>
      cases hconfigured
      exact ⟨_, rfl⟩
  obtain ⟨buildRoot, rfl⟩ := hpath
  refine ⟨w.lexical (Path.join buildRoot fileName), rfl, ?lowest, ?name, ?there⟩
  case lowest => exact World.isLowest_lexical hdirectory _
  case name => exact getLast?_lexical_join hdirectory buildRoot
  case there => exact isFile_of_locate hlocator hroot h

/-- What the lookup chooses. -/
theorem mem_of_lookup (h : (lookup file entries).result = .ok (some e)) :
    e ∈ entries ∧ e.file ≠ "" ∧
      (SourceKind.ofPath file = .code → Path.isMatching file e.resolvedFile) := by
  rw [result_lookup_eq_findSome?] at h
  obtain ⟨condition, hcondition, hfirst⟩ := List.exists_of_findSome?_eq_some (Except.ok.inj h)
  obtain ⟨i, he, hfile, hholds, -⟩ := firstWhere?_first hfirst
  refine ⟨List.mem_of_getElem? he, hfile, fun hcode => ?_⟩
  have honly : conditions file = [isFor file] := by
    unfold conditions
    rw [hcode]
  rw [honly, List.mem_singleton] at hcondition
  rw [hcondition] at hholds
  exact hholds

theorem provides_of_entryIn (hthere : w.isFile path)
    (h : (entryIn path file w).result = .ok (some e)) : Provides w path file e := by
  rw [result_entryIn hthere] at h
  split at h
  · cases h
  · next hcontents => exact ⟨_, hcontents, mem_of_lookup h⟩
  · next failure hcontents =>
    rw [absorb] at h
    split at h <;> cases h

end Database

theorem ExitCode.toNat_injective : Function.Injective ExitCode.toNat := by
  intro a b h
  cases a <;> cases b <;> first | rfl | cases h

theorem ExitCode.toNat_eq_zero_iff {code : ExitCode} : code.toNat = 0 ↔ code = .success :=
  toNat_injective.eq_iff' rfl

theorem ExitCode.toNat_eq_one_iff {code : ExitCode} : code.toNat = 1 ↔ code = .invalidArguments :=
  toNat_injective.eq_iff' rfl

namespace Cli.Locate

open Database (LiesAt Provides)

/-! ## Reports -/

section Reports

variable {w : World} {source : RootSource} {file : Option String} {r : Report}

/-- With the root that is found, the location is as if the root were given. -/
theorem result_locate_of_find {root : Option String} (h : (source.find w).result = .ok root) :
    (DatabaseLocator.locate { root := source } w).result =
      (DatabaseLocator.locate { root := .fixed root } w).result := by
  unfold DatabaseLocator.locate
  rw [Query.result_bind_of_ok h, Query.result_bind_of_ok (a := root) rfl]
  rfl

theorem result_locate_of_no_root {root : Option String} (h : (source.find w).result = .ok root)
    (hroot : root = none ∨ root = some "") :
    (DatabaseLocator.locate { root := source } w).result = .ok none := by
  rw [result_locate_of_find h, DatabaseLocator.locate_of_no_root]
  · rfl
  · exact hroot.imp (congrArg RootSource.fixed) (congrArg RootSource.fixed)

/-- The parts of the report fit each other and the world. -/
structure Report.Sound (w : World) (source : RootSource) (file : Option String) (r : Report) :
    Prop where
  root : (source.find w).result = .ok r.root
  file : r.lookup.map (·.file) = file
  database : ∀ path, r.database = some path → LiesAt w path
  entry : ∀ l e, r.lookup = some l → l.entry = some e →
    ∃ path, r.database = some path ∧ Provides w path l.file e

theorem sound_report (hdirectory : Path.isRooted w.workingDirectory) (hfile : file ≠ some "")
    (h : (report source file w).result = .ok r) : r.Sound w source file := by
  obtain ⟨root, hroot, h⟩ := Query.result_bind_eq_ok_iff.1 h
  obtain ⟨configuration, -, h⟩ := Query.result_bind_eq_ok_iff.1 h
  obtain ⟨database, hdatabase, h⟩ := Query.result_bind_eq_ok_iff.1 h
  obtain ⟨lookup, hlookup, h⟩ := Query.result_bind_eq_ok_iff.1 h
  cases h
  have hlies (path : String) (hpath : database = some path) : LiesAt w path := by
    rw [hpath] at hdatabase
    obtain hnone | ⟨given, rfl, hgiven⟩ := missing_cases root
    · cases (result_locate_of_no_root hroot hnone).symm.trans hdatabase
    · rw [result_locate_of_find hroot] at hdatabase
      exact Database.liesAt_of_locate hdirectory rfl hgiven hdatabase
  refine ⟨hroot, ?file, hlies, ?entry⟩
  case file =>
    cases file with
    | none =>
      cases hlookup
      rfl
    | some file =>
      obtain ⟨entry, -, h⟩ := Query.result_bind_eq_ok_iff.1 hlookup
      cases h
      rfl
  case entry =>
    rintro l e rfl he
    cases file with
    | none => cases hlookup
    | some file =>
      have hne : file ≠ "" := fun hempty => hfile (congrArg some hempty)
      obtain ⟨entry, hentry, h⟩ := Query.result_bind_eq_ok_iff.1 hlookup
      cases h
      cases he
      -- The entry is found by another location, which comes to the same database.
      cases database with
      | none => cases (Database.result_entryFor_of_none hne hdatabase).symm.trans hentry
      | some path =>
        obtain ⟨-, -, -, -, hthere⟩ := hlies path rfl
        rw [Database.result_entryFor_of_some hne hdatabase (World.ne_empty_of_isFile hthere)]
          at hentry
        exact ⟨path, rfl, Database.provides_of_entryIn hthere hentry⟩

/-! ## Failures -/

section Failures

variable (hfaults : w.faults = []) {root : Option String} {failure : Failure}
include hfaults

theorem isInherent_of_configurationOf
    (h : (configurationOf root w).result = .error failure) : failure.IsInherent := by
  unfold configurationOf at h
  split at h
  · cases h
  · cases h
  · next given hgiven =>
    have hne : given ≠ "" := fun hempty => hgiven (hempty ▸ rfl)
    obtain hname | ⟨_, -, h⟩ := Query.result_bind_eq_error h
    · exact ActiveConfiguration.isInherent_of_name hfaults hne hname
    · cases h

theorem isInherent_of_locate (hroot : (source.find w).result = .ok root)
    (h : (DatabaseLocator.locate { root := source } w).result = .error failure) :
    failure.IsInherent := by
  obtain hnone | ⟨given, rfl, hgiven⟩ := missing_cases root
  · cases (result_locate_of_no_root hroot hnone).symm.trans h
  · rw [result_locate_of_find hroot] at h
    exact DatabaseLocator.isInherent_of_locate hfaults hgiven rfl h

theorem isInherent_of_lookupOf (hroot : (source.find w).result = .ok root) (hfile : file ≠ some "")
    (h : (lookupOf { root := source } file w).result = .error failure) : failure.IsInherent := by
  cases file with
  | none => cases h
  | some file =>
    have hne : file ≠ "" := fun hempty => hfile (congrArg some hempty)
    obtain hentry | ⟨_, -, h⟩ := Query.result_bind_eq_error h
    · obtain hnone | ⟨given, rfl, hgiven⟩ := missing_cases root
      · have hlocate := result_locate_of_no_root hroot hnone
        cases (Database.result_entryFor_of_none hne hlocate).symm.trans hentry
      · rw [Database.result_entryFor_congr (result_locate_of_find hroot)] at hentry
        exact Database.isInherent_of_entryFor hfaults hgiven rfl hne hentry
    · cases h

/-- There is no report only if the inputs are in the way of it. -/
theorem isInherent_of_report (hfile : file ≠ some "")
    (h : (report source file w).result = .error failure) : failure.IsInherent := by
  obtain ⟨root, hroot⟩ := RootSource.find_answers hfaults source
  unfold report at h
  rw [Query.result_bind_of_ok hroot] at h
  obtain hconfiguration | ⟨_, -, h⟩ := Query.result_bind_eq_error h
  · exact isInherent_of_configurationOf hfaults hconfiguration
  obtain hlocate | ⟨_, -, h⟩ := Query.result_bind_eq_error h
  · exact isInherent_of_locate hfaults hroot hlocate
  obtain hlookup | ⟨_, -, h⟩ := Query.result_bind_eq_error h
  · exact isInherent_of_lookupOf hfaults hroot hfile hlookup
  · cases h

end Failures

theorem report_of_no_root (hfile : file ≠ some "") (h : (source.find w).result = .ok none) :
    (report source file w).result = .ok ⟨none, none, none, file.map (⟨·, none⟩)⟩ := by
  have hlocate := result_locate_of_no_root h (.inl rfl)
  have hconfiguration : (configurationOf none w).result = .ok none := rfl
  have hlookup : (lookupOf { root := source } file w).result = .ok (file.map (⟨·, none⟩)) := by
    cases file with
    | none => rfl
    | some file =>
      have hne : file ≠ "" := fun hempty => hfile (congrArg some hempty)
      exact Query.result_bind_of_ok (Database.result_entryFor_of_none hne hlocate)
  unfold report
  rw [Query.result_bind_of_ok h, Query.result_bind_of_ok hconfiguration,
    Query.result_bind_of_ok hlocate, Query.result_bind_of_ok hlookup]
  rfl

end Reports

/-! ## Documents -/

/-- A member of the document is there, and is not null. -/
def Has (document : Json) (name : String) : Prop :=
  ∃ v, document.member? name = some v ∧ v ≠ .null

/-- The members of a printed report fit each other and the world. -/
structure Faithful (w : World) (file : Option String) (document : Json) : Prop where
  database : ∀ v, document.member? "database" = some v → v ≠ .null →
    ∃ path, v = .str path ∧ LiesAt w path
  entry : ∀ v, document.member? "entry" = some v → v ≠ .null →
    ∃ path f e, document.member? "database" = some (.str path) ∧ file = some f ∧ v = e.toJson ∧
      Provides w path f e

section Documents

variable {w : World} {source : RootSource} {file : Option String} {r : Report}

theorem member?_root (r : Report) : r.toJson.member? "root" = some (optionalText r.root) := rfl

theorem member?_database (r : Report) :
    r.toJson.member? "database" = some (optionalText r.database) := rfl

theorem member?_entry (r : Report) :
    r.toJson.member? "entry" = r.lookup.map fun l => (l.entry.map Entry.toJson).getD .null := by
  obtain ⟨root, configuration, database, lookup⟩ := r
  cases lookup <;> rfl

theorem optionalText_ne_null {text : Option String} {v : Json} (hv : v = optionalText text)
    (hne : v ≠ .null) : ∃ t, text = some t ∧ v = .str t := by
  cases text with
  | none => exact absurd hv hne
  | some t => exact ⟨t, rfl, hv⟩

theorem has_text_iff {document : Json} {name : String} {text : Option String}
    (h : document.member? name = some (optionalText text)) : Has document name ↔ text.isSome := by
  rw [Has, h]
  cases text with
  | none => simp [optionalText]
  | some text => simp [optionalText]

theorem has_entry_iff : Has r.toJson "entry" ↔ ∃ l e, r.lookup = some l ∧ l.entry = some e := by
  rw [Has, member?_entry]
  constructor
  · rintro ⟨v, hv, hne⟩
    obtain ⟨l, hl, rfl⟩ := Option.map_eq_some_iff.1 hv
    cases he : l.entry with
    | none =>
      rw [he] at hne
      exact absurd rfl hne
    | some e => exact ⟨l, e, hl, he⟩
  · rintro ⟨l, e, hl, he⟩
    refine ⟨e.toJson, ?_, nofun⟩
    rw [hl, Option.map_some, he]
    rfl

theorem faithful_toJson (h : r.Sound w source file) : Faithful w file r.toJson := by
  constructor
  case database =>
    intro v hv hne
    obtain ⟨path, hpath, rfl⟩ :=
      optionalText_ne_null (Option.some.inj (hv.symm.trans (member?_database r))) hne
    exact ⟨path, rfl, h.database path hpath⟩
  case entry =>
    intro v hv hne
    obtain ⟨l, e, hl, he⟩ := has_entry_iff.1 ⟨v, hv, hne⟩
    obtain ⟨path, hpath, hprovides⟩ := h.entry l e hl he
    refine ⟨path, l.file, e, ?_, ?_, ?_, hprovides⟩
    · rw [member?_database, hpath]
      rfl
    · rw [← h.file, hl]
      rfl
    · rw [member?_entry, hl, Option.map_some, he] at hv
      exact (Option.some.inj hv).symm

theorem isComplete_iff (h : r.Sound w source file) : r.isComplete ↔
    Has r.toJson "database" ∧ (file.isSome → Has r.toJson "entry") := by
  rw [has_text_iff (member?_database r), has_entry_iff, ← h.file, Report.isComplete,
    Bool.and_eq_true]
  cases r.lookup with
  | none => simp
  | some l => simp [Option.isSome_iff_exists]

/-- The exit code of a report means success exactly if no part of the report is missing. -/
theorem exitCode_eq_success_iff (h : r.Sound w source file) : r.exitCode = .success ↔
    Has r.toJson "root" ∧ Has r.toJson "database" ∧ (file.isSome → Has r.toJson "entry") := by
  rw [has_text_iff (member?_root r), ← isComplete_iff h, Report.exitCode]
  cases r.root with
  | none => simp
  | some root => cases r.isComplete <;> simp

theorem exitCode_eq_invalidArguments_iff : r.exitCode = .invalidArguments ↔ r.root = none := by
  rw [Report.exitCode]
  cases r.root with
  | none => simp
  | some root => cases r.isComplete <;> simp

theorem exitCode_ne_interrupted (r : Report) : r.exitCode ≠ .interrupted := by
  rw [Report.exitCode]
  cases r.root with
  | none => simp
  | some root => cases r.isComplete <;> simp

end Documents

/-! ## The command -/

section Command

variable {s : Session} {p : Palette} {settings : Settings}

/-- The file that was given. -/
def fileOf (w : World) (settings : Settings) : Option String :=
  (nonempty settings.file).map w.absolute

theorem fileOf_ne_empty {w : World} (hdirectory : Path.isRooted w.workingDirectory)
    (settings : Settings) : fileOf w settings ≠ some "" := by
  intro h
  obtain ⟨file, -, hfile⟩ := Option.map_eq_some_iff.1 h
  exact Lexical.text_ne_empty (World.isLowest_lexical hdirectory file).anchor hfile

/-- Where the root is looked for. -/
def rootOf (w : World) (settings : Settings) : RootSource :=
  sourceOf w settings.root (fileOf w settings)

theorem prints_locate (hformat : settings.format = .json) {r : Report}
    (h : (report (rootOf s.world settings) (fileOf s.world settings) s.world).result = .ok r) :
    Prints (locate p settings) s r.exitCode (r.toJson.pretty ++ "\n") := by
  have hasks : (Session.asks
      (report (rootOf s.world settings) (fileOf s.world settings)) s).1.result = .ok r := h
  unfold locate
  rw [hformat]
  constructor
  case result => exact (Action.result_bind_of_ok hasks).trans rfl
  case output => exact congrArg (·.console.output) (Action.snd_bind_of_ok hasks)

theorem locate_of_error {failure : Failure}
    (h : (report (rootOf s.world settings) (fileOf s.world settings) s.world).result =
      .error failure) :
    (locate p settings s).1.result = .error failure ∧ (locate p settings s).2 = s := by
  have hasks : (Session.asks
      (report (rootOf s.world settings) (fileOf s.world settings)) s).1.result = .error failure := h
  unfold locate
  rw [Action.view_bind, Action.view_bind]
  exact ⟨Action.result_bind_of_error hasks, Action.snd_bind_of_error hasks⟩

variable (hpackages : Package.Satisfied s.world.packages Requirements.standard)
include hpackages

theorem prints_run_of_bad_root (h : isBadRoot s.world settings.root) (p : Palette) :
    Prints (run p settings) s .invalidArguments "" := by
  have hrun : run p settings s = (do
      Session.complain
        (p.error ("Workspace root '" ++ settings.root.getD "" ++ "' is not a directory") true)
      return .invalidArguments : Action Session ExitCode) s := by
    rw [run, requiring_of_satisfied hpackages, Action.view_bind, if_pos h]
  exact ⟨by rw [hrun]; rfl, by rw [hrun, String.append_empty]; rfl⟩

theorem run_of_good_root (h : isBadRoot s.world settings.root = false) (p : Palette) :
    run p settings s = locate p settings s := by
  rw [run, requiring_of_satisfied hpackages, Action.view_bind, if_neg (by simp [h])]

end Command

section Ends

variable {program : String} {arguments : List String} {settings : Settings} {s : Session}
  (hparse : parse arguments = .ok settings)
  (hpackages : Package.Satisfied s.world.packages Requirements.standard)
include hparse

theorem prints_main {code : Nat} {text : String}
    (h : ∀ p, Prints (guarded p (run p settings)) (started s) code text) :
    Prints (main program arguments) s (.code code) text := by
  have hrun : Prints ((fun settings => do
      let p ← Action.view fun s => paletteFor settings.noColor s.world
      guarded p (run p settings) : Settings → Action Session Nat) settings) (started s) code text :=
    ⟨(h _).result, (h _).output⟩
  rw [main, hparse]
  exact hrun.command program

include hpackages

theorem prints_main_of_bad_root (h : isBadRoot s.world settings.root) :
    Prints (main program arguments) s (.code 1) "" := by
  have hrun (p : Palette) : Prints (run p settings) (started s) .invalidArguments "" :=
    prints_run_of_bad_root (s := started s) hpackages h p
  exact prints_main hparse fun p => (hrun p).guarded p

variable (hroot : isBadRoot s.world settings.root = false)
include hroot

theorem prints_main_of_report (hformat : settings.format = .json) {r : Report}
    (h : (report (rootOf s.world settings) (fileOf s.world settings) s.world).result = .ok r) :
    Prints (main program arguments) s (.code r.exitCode.toNat) (r.toJson.pretty ++ "\n") := by
  refine prints_main hparse fun p => ?_
  have hlocate : Prints (locate p settings) (started s) r.exitCode (r.toJson.pretty ++ "\n") :=
    prints_locate hformat h
  have hrun : run p settings (started s) = locate p settings (started s) :=
    run_of_good_root (s := started s) hpackages hroot p
  exact Prints.guarded ⟨by rw [hrun, hlocate.result], by rw [hrun, hlocate.output]⟩ p

theorem prints_main_of_error {failure : Failure} (hhandled : isAbandoned failure = false)
    (h : (report (rootOf s.world settings) (fileOf s.world settings) s.world).result =
      .error failure) : Prints (main program arguments) s (.code (exitCodeOf failure)) "" := by
  refine prints_main hparse fun p => ?_
  obtain ⟨hresult, hstate⟩ : (locate p settings (started s)).1.result = .error failure ∧
      (locate p settings (started s)).2 = started s := locate_of_error h
  have hrun : run p settings (started s) = locate p settings (started s) :=
    run_of_good_root (s := started s) hpackages hroot p
  refine prints_guarded_of_error (by rw [hrun, hresult]) hhandled ?_ p
  rw [hrun, hstate, String.append_empty]

end Ends

/-- A repository with a database of one entry, around the working directory. -/
def repository : World where
  files := [(["w", ".git", "HEAD"], ⟨.bytes [], 0⟩),
    (["w", "out", "build", "x64-Debug", "compile_commands.json"],
      ⟨.bytes (Text.utf8Bytes "[\x7b\"file\": \"/w/A.cpp\"\x7d]"), 0⟩)]
  directories := [["w"], ["w", ".git"], ["w", "out"], ["w", "out", "build"],
    ["w", "out", "build", "x64-Debug"]]
  workingDirectory := "/w"
  packages := [("GitPython", "3.1.44"), ("packaging", "24.2"), ("colorama", "0.4.6")]

end Cli.Locate
end CompileCommands
