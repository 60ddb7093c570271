/-
  Workspace roots in two spellings.

  * `Settings.result_load_congr`, `DatabaseLocator.databasePath_default_congr`: the settings and the
    database in the default layout are found alike under both;
  * `ActiveConfiguration.SameChoice`: so is the choice of a configuration, which is opened by the
    path as it is; `sameChoice_of_walking`: where the system goes from directory to directory, this
    is so if both spellings enter a directory, or neither does;
  * `result_locate_congr`: the location is the same, unless the settings give other build roots;
  * `SameInFront`, `result_configuredBuildRoot_of_rootInFront`: where a root stands in front of the
    build root that the template gives;
  * `locate_rootSpelling`: when the location does not depend on how the root is spelled.
-/
import CompileCommands.Proofs.Database.Agreement
import CompileCommands.Proofs.Macro.Root
import CompileCommands.Proofs.Path.Lowest
import CompileCommands.Proofs.Path.Style
import CompileCommands.Proofs.World.Walk

namespace CompileCommands

/-! ## Files of a workspace -/

variable {w : World}

theorem World.file?_congr {p q : String} (hp : p ≠ "") (hq : q ≠ "")
    (h : w.lexical p = w.lexical q) : w.file? p = w.file? q := by
  rw [file?_of_ne_empty w hp, file?_of_ne_empty w hq, locate, locate, h]

/-- Where there is a file, only its place counts for what is read. -/
theorem Files.text_congr {p q : String} (h : w.lexical p = w.lexical q)
    (hfile : w.file? p = w.file? q) (hthere : w.isFile p) : text w p = text w q := by
  obtain ⟨file, hsome⟩ := Option.isSome_iff_exists.1 hthere
  have hfault : w.fault? .openFile p = w.fault? .openFile q := by
    rw [World.fault?, World.fault?, World.locate, World.locate, h]
  have hcontent : content w p = content w q := by
    rw [content, content, ← hfile, hsome, unlessFault, unlessFault, hfault]
  rw [text, text, hcontent]

section Roots

variable {root root' : String} (hroot : root ≠ "") (hroot' : root' ≠ "")
  (h : w.lexical root = w.lexical root')
include hroot hroot' h

theorem Settings.result_load_congr :
    (load (some root) w).result = (load (some root') w).result := by
  have hbelow (name : String) :
      w.absolute (Path.join root name) = w.absolute (Path.join root' name) :=
    congrArg Path.Lexical.text (World.lexical_join_congr hroot hroot' h name)
  have hpath : path w root = path w root' := hbelow fileName
  have hfound : foundAt w root = foundAt w root' := by
    funext settings
    rw [foundAt, foundAt, hpath, hbelow]
  rw [result_load hroot, result_load hroot', contents, contents, hpath, hfound]

theorem DatabaseLocator.databasePath_default_congr (active : String) :
    databasePath w (defaultBuildRoot root active) =
      databasePath w (defaultBuildRoot root' active) := by
  have hlexical : w.lexical (defaultBuildRoot root active) =
      w.lexical (defaultBuildRoot root' active) :=
    World.lexical_joinAll_congr hroot hroot' h _
  exact congrArg Path.Lexical.text (World.lexical_join_congr (Path.joinAll_ne_empty hroot _)
    (Path.joinAll_ne_empty hroot' _) hlexical _)

end Roots

namespace ActiveConfiguration

variable {root root' : String}

/-- For both roots the system finds a file with a choice, with the same text in it, or for
    neither. -/
structure SameChoice (w : World) (root root' : String) : Prop where
  isFile : w.isFile (place w root) = w.isFile (place w root')
  text : w.isFile (place w root) → Files.text w (place w root) = Files.text w (place w root')

theorem SameChoice.result_name (h : SameChoice w root root') (hroot : root ≠ "")
    (hroot' : root' ≠ "") (default : String) :
    (name (some root) default w).result = (name (some root') default w).result := by
  rw [ActiveConfiguration.result_name hroot, ActiveConfiguration.result_name hroot', ← h.isFile]
  split
  · next hthere => rw [contents, contents, h.text hthere]
  · rfl

theorem SameChoice.of_place (h : place w root = place w root') : SameChoice w root root' :=
  ⟨by rw [h], fun _ => by rw [h]⟩

section Roots

variable (hroot : root ≠ "") (hroot' : root' ≠ "") (h : w.lexical root = w.lexical root')
include hroot hroot' h

/-- Where only the text of a path counts, the choice is the same in all spellings. -/
theorem sameChoice_of_byText (htext : w.resolution = .byText) : SameChoice w root root' := by
  have hplace (r : String) : place w r = path r := by
    rw [place, World.wayTo, htext]
    rfl
  have hlexical : w.lexical (path root) = w.lexical (path root') :=
    World.lexical_joinAll_congr hroot hroot' h _
  have hfile : w.file? (path root) = w.file? (path root') :=
    World.file?_congr (Path.joinAll_ne_empty hroot _) (Path.joinAll_ne_empty hroot' _) hlexical
  refine ⟨?_, fun hthere => ?_⟩
  · rw [hplace, hplace, World.isFile, World.isFile, hfile]
  · rw [hplace] at hthere
    rw [hplace, hplace, Files.text_congr hlexical hfile hthere]

/-- Where the system goes from directory to directory, and there are no links, two spellings of a
    root have the same choice if both lead to a directory, or neither does. -/
theorem sameChoice_of_walking (hwalks : w.resolution = .walking w) (hlinks : w.links = [])
    (hdirectory : Path.isRooted w.workingDirectory)
    (hboth : (w.entered? root).isSome = (w.entered? root').isSome) : SameChoice w root root' := by
  have hfolder : Path.IsPlain ".vs" := .of_length (by decide) (by decide)
  have hname : Path.IsPlain "ProjectSettings.json" := .of_length (by decide) (by decide)
  exact .of_place (World.wayTo_congr hwalks hroot hroot' hfolder hname
    (World.entered?_congr hlinks hdirectory h hboth))

end Roots

end ActiveConfiguration

namespace DatabaseLocator

variable {locator : DatabaseLocator} {root root' : String}

/-- The locator for a given root. -/
def atRoot (locator : DatabaseLocator) (root : String) : DatabaseLocator :=
  { locator with root := .fixed (some root) }

/-- The build root of every template that the settings select is the same for both roots. -/
def SameBuildRoot (locator : DatabaseLocator) (w : World) (root root' : String) : Prop :=
  ∀ found configuration template, locator.Selects root w found configuration template →
    (locator.configuredBuildRoot root configuration.name found w).result =
      (locator.configuredBuildRoot root' configuration.name found w).result

/-! ## The location -/

theorem result_configuredBuildRoot_congr (h : locator.SameBuildRoot w root root')
    {found : Settings.Found} {active : String}
    (hfound : (Settings.load (some root) w).result = .ok (some found))
    (hactive : (ActiveConfiguration.name (some root) locator.defaultConfiguration w).result =
      .ok active) :
    (locator.configuredBuildRoot root active found w).result =
      (locator.configuredBuildRoot root' active found w).result := by
  cases hfind : found.settings.find? active with
  | none => rw [configuredBuildRoot_of_none hfind, configuredBuildRoot_of_none hfind]
  | some configuration =>
    obtain rfl := Settings.name_of_find? hfind
    cases htemplate : configuration.buildRoot with
    | none =>
      rw [configuredBuildRoot_of_missing hfind (.inl htemplate),
        configuredBuildRoot_of_missing hfind (.inl htemplate)]
    | some template => exact h found configuration template ⟨hfound, hactive, hfind, htemplate⟩

theorem buildRootBy_none (active : String) : locator.buildRootBy root active none =
    return some (defaultBuildRoot root active) := rfl

theorem result_locate_congr (hroot : root ≠ "") (hroot' : root' ≠ "")
    (hsame : w.lexical root = w.lexical root')
    (hchoice : ActiveConfiguration.SameChoice w root root')
    (h : locator.SameBuildRoot w root root') :
    ((locator.atRoot root).locate w).result = ((locator.atRoot root').locate w).result := by
  have hsettings := Settings.result_load_congr hroot hroot' hsame
  have hname := hchoice.result_name hroot hroot' locator.defaultConfiguration
  rw [locate_eq_locateBy rfl hroot, locate_eq_locateBy rfl hroot']
  unfold locateBy
  refine Query.result_bind_congr hsettings fun found hfound => ?_
  refine Query.result_bind_congr hname fun active hactive => ?_
  cases found with
  | none =>
    -- without settings, the database is looked for in the default layout
    rw [buildRootBy_none, buildRootBy_none, pure_bind, pure_bind]
    dsimp only
    rw [databaseIn_apply, databaseIn_apply, databasePath_default_congr hroot hroot' hsame]
  | some found =>
    rw [buildRootBy_some, buildRootBy_some]
    exact Query.result_bind_congr (result_configuredBuildRoot_congr h hfound hactive) fun _ _ => rfl

/-! ## Templates -/

/-- What stands in front of an expansion does so in both spellings alike: also with slashes for
    backslashes they are the same path, and neither is only slashes. -/
structure SameInFront (w : World) (p q : String) : Prop where
  absolute : w.absolute (Path.withSlashes p) = w.absolute (Path.withSlashes q)
  left : ∃ c ∈ (Path.withSlashes p).toList, c ≠ '/'
  right : ∃ c ∈ (Path.withSlashes q).toList, c ≠ '/'

theorem SameInFront.absolute_append {p q text : String} (h : SameInFront w p q)
    (hdirectory : Path.isRooted w.workingDirectory)
    (htext : text = "" ∨ Path.isRooted (Path.withSlashes text)) :
    w.absolute (Path.withSlashes (p ++ text)) = w.absolute (Path.withSlashes (q ++ text)) := by
  obtain rfl | htext := htext
  · rw [String.append_empty, String.append_empty, h.absolute]
  · obtain ⟨rest, hrest⟩ : ∃ rest, Path.withSlashes text = "/" ++ rest := by
      obtain ⟨rest, hrest⟩ := List.head?_eq_some_iff.1 (of_decide_eq_true htext)
      refine ⟨String.ofList rest, ?_⟩
      rw [← String.toList_inj]
      simp [hrest]
    have hlexical := World.lexical_eq_of_absolute hdirectory h.absolute
    rw [Path.withSlashes_append, Path.withSlashes_append, hrest, ← String.append_assoc,
      ← String.append_assoc, World.absolute, World.absolute, World.lexical_append_slash h.left,
      World.lexical_append_slash h.right, hlexical]

theorem result_expandedBuildRoot (template active : String) (expanded : Option String) :
    (expandedBuildRoot template active expanded w).result =
      .ok ((expanded.filter (· ≠ "")).map fun text => w.absolute (Path.withSlashes text)) := by
  unfold expandedBuildRoot
  split
  · rfl
  · rfl
  · next text hne =>
    have htext : text ≠ "" := fun h => hne (h ▸ rfl)
    rw [Option.filter_some, if_pos (decide_eq_true htext)]
    rfl

section Selected

variable {found : Settings.Found} {configuration : Configuration} {template : String}

/-- What an expansion has to give for the build root to be the same: a reference that is refused is
    so with any root. -/
theorem result_configuredBuildRoot_of_expand
    (h : locator.Selects root w found configuration template) (hne : template ≠ "") (root' : String)
    {expanded expanded' : Option String}
    (hexpanded : (Macro.expand (locator.source w) (context root found configuration)
      template).result = .ok expanded)
    (hexpanded' : (Macro.expand (locator.source w) (context root' found configuration)
      template).result = .ok expanded')
    (hsame : (expanded.filter (· ≠ "")).map (fun text => w.absolute (Path.withSlashes text)) =
      (expanded'.filter (· ≠ "")).map fun text => w.absolute (Path.withSlashes text)) :
    (locator.configuredBuildRoot root configuration.name found w).result =
      (locator.configuredBuildRoot root' configuration.name found w).result := by
  have hstop : Macro.stop? locator.usesProcess (locator.source w)
      (context root' found configuration) template =
        Macro.stop? locator.usesProcess (locator.source w) (context root found configuration)
          template :=
    @Macro.stop?_withRoot locator.usesProcess (locator.source w) (context root found configuration)
      template root root'
  rw [configuredBuildRoot_of_template h.find? h.buildRoot hne,
    configuredBuildRoot_of_template h.find? h.buildRoot hne]
  cases hrefused : Macro.stop? locator.usesProcess (locator.source w)
      (context root found configuration) template with
  | some error =>
    have hroot : (locator.expansion root found configuration template w).result =
        .error (.notEncodable error) := by
      rw [expansion, Macro.evaluate_of_stop hrefused]
      rfl
    have hroot' : (locator.expansion root' found configuration template w).result =
        .error (.notEncodable error) := by
      rw [expansion, Macro.evaluate_of_stop (hstop.trans hrefused)]
      rfl
    rw [Query.result_bind_of_error hroot, Query.result_bind_of_error hroot']
  | none =>
    have hroot : (locator.expansion root found configuration template w).result = .ok expanded := by
      rw [expansion, Macro.evaluate_of_none hrefused, hexpanded]
    have hroot' : (locator.expansion root' found configuration template w).result =
        .ok expanded' := by
      rw [expansion, Macro.evaluate_of_none (hstop.trans hrefused), hexpanded']
    rw [Query.result_bind_of_ok hroot, Query.result_bind_of_ok hroot', result_expandedBuildRoot,
      result_expandedBuildRoot, hsame]

theorem result_configuredBuildRoot_of_rootless (hrootless : Macro.Rootless template)
    (h : locator.Selects root w found configuration template) (hne : template ≠ "") :
    (locator.configuredBuildRoot root configuration.name found w).result =
      (locator.configuredBuildRoot root' configuration.name found w).result := by
  have hexpanded :=
    Macro.result_expand (locator.source w) (context root found configuration) template
  have hsame : (Macro.expand (locator.source w) (context root' found configuration)
      template).result = _ :=
    Macro.result_expand_of_rootless hrootless (locator.source w) (context root found configuration)
      (some root')
  exact result_configuredBuildRoot_of_expand h hne root' hexpanded (hsame.trans hexpanded) rfl

theorem result_configuredBuildRoot_of_rootInFront (hdirectory : Path.isRooted w.workingDirectory)
    (hroot : root ≠ "") (hroot' : root' ≠ "") (hsame : SameInFront w root root') {rest : String}
    (hfront : Macro.RootInFront (locator.source w) (context root found configuration) template rest)
    (h : locator.Selects root w found configuration template) (hne : template ≠ "") :
    (locator.configuredBuildRoot root configuration.name found w).result =
      (locator.configuredBuildRoot root' configuration.name found w).result := by
  have hseparated := hfront.separated
  rw [Macro.result_expand] at hseparated
  refine result_configuredBuildRoot_of_expand h hne root' (hfront.expand root)
    (hfront.expand root') ?_
  cases hrest : (Macro.substitute
      (Macro.resolve (locator.source w) (context root found configuration)) rest).toOption with
  | none => rfl
  | some text =>
    have hbelow := hsame.absolute_append hdirectory (hseparated text (congrArg Except.ok hrest))
    rw [Option.map_some, Option.map_some, Option.filter_some, Option.filter_some,
      if_pos (decide_eq_true (Path.ne_empty_append hroot text)),
      if_pos (decide_eq_true (Path.ne_empty_append hroot' text)), Option.map_some,
      Option.map_some, hbelow]

end Selected

/-- **Where the spelling of the root counts.** Let a workspace root be given in two spellings that
    are not empty and have the same absolute form. If the choice of a configuration reads the same
    under both, the location has the same result for both if the settings give the same build root
    for both; without settings, or without a template for the active configuration, there is no
    condition. So it is if the template does not refer to the root, or only in front, where a
    separator follows or nothing, and the two spellings are still the same path, and more than
    slashes, once backslashes are read as slashes. The choice reads the same where the system goes
    by the text of a path; and without links also where it goes from directory to directory, if both
    spellings lead to a directory or neither does. -/
theorem locate_rootSpelling (hdirectory : Path.isRooted w.workingDirectory) (hroot : root ≠ "")
    (hroot' : root' ≠ "") (hsame : w.absolute root = w.absolute root') (locator : DatabaseLocator) :
    (ActiveConfiguration.SameChoice w root root' → locator.SameBuildRoot w root root' →
      ((locator.atRoot root).locate w).result = ((locator.atRoot root').locate w).result) ∧
    (ActiveConfiguration.SameChoice w root root' →
      (∀ found configuration template, locator.Selects root w found configuration template →
        Macro.Rootless template ∨ SameInFront w root root' ∧ ∃ rest, Macro.RootInFront
          (locator.source w) (context root found configuration) template rest) →
      ((locator.atRoot root).locate w).result = ((locator.atRoot root').locate w).result) ∧
    (w.resolution = .byText ∨ w.resolution = .walking w ∧ w.links = [] ∧
        (w.entered? root).isSome = (w.entered? root').isSome →
      ActiveConfiguration.SameChoice w root root') := by
  have hlexical := World.lexical_eq_of_absolute hdirectory hsame
  refine ⟨result_locate_congr hroot hroot' hlexical, fun hchoice h => ?templates, ?choice⟩
  case templates =>
    refine result_locate_congr hroot hroot' hlexical hchoice
      fun found configuration template hselects => ?_
    by_cases hne : template = ""
    · have hmissing : configuration.buildRoot = some "" := hne ▸ hselects.buildRoot
      rw [configuredBuildRoot_of_missing hselects.find? (.inr hmissing),
        configuredBuildRoot_of_missing hselects.find? (.inr hmissing)]
    · obtain hrootless | ⟨hfront, rest, hrest⟩ := h found configuration template hselects
      · exact result_configuredBuildRoot_of_rootless hrootless hselects hne
      · exact result_configuredBuildRoot_of_rootInFront hdirectory hroot hroot' hfront hrest
          hselects hne
  case choice =>
    rintro (htext | ⟨hwalks, hlinks, hboth⟩)
    · exact ActiveConfiguration.sameChoice_of_byText hroot hroot' hlexical htext
    · exact ActiveConfiguration.sameChoice_of_walking hroot hroot' hlexical hwalks hlinks hdirectory
        hboth

/-- The template of a configuration, in the other style. -/
def backslashed : Configuration :=
  { name := "x64-Debug", buildRoot := some "$\x7bworkspaceRoot\x7d\\out\\$\x7bname\x7d" }

/-- Settings with this template, in a directory below the working directory. -/
def windowsStyle : World :=
  World.walking ((({ workingDirectory := "/w" } : World).placing "/w/p/CMakeSettings.json"
    ⟨.bytes (Text.utf8Bytes
      ("\x7b\"configurations\": [\x7b\"name\": \"x64-Debug\", " ++
        "\"buildRoot\": \"$\x7bworkspaceRoot\x7d\\\\out\\\\$\x7bname\x7d\"\x7d]\x7d")), 0⟩).placing
    "/w/p/out/x64-Debug/compile_commands.json" ⟨.bytes [], 0⟩)

theorem contents_windowsStyle : Settings.contents windowsStyle "p/." = .ok [backslashed] := by
  decide +kernel

theorem isFile_windowsStyle : windowsStyle.isFile (Settings.path windowsStyle "p/.") := by
  decide +kernel

theorem locate_rootSpelling_windowsStyle :
    ((DatabaseLocator.atRoot { root := .fixed none } "p/.").locate windowsStyle).result =
        ((DatabaseLocator.atRoot { root := .fixed none } "/w/p//").locate windowsStyle).result ∧
      ((DatabaseLocator.atRoot { root := .fixed none } "p/.").locate windowsStyle).result =
        .ok (some "/w/p/out/x64-Debug/compile_commands.json") := by
  have hdirectory : Path.isRooted windowsStyle.workingDirectory := by decide
  have hroot : "p/." ≠ "" := by decide
  have hroot' : "/w/p//" ≠ "" := by decide
  obtain ⟨-, hfront, hchoice⟩ :=
    locate_rootSpelling hdirectory hroot hroot' (by decide +kernel) { root := .fixed none }
  have hsameChoice := hchoice (.inr ⟨World.resolution_walking _, rfl, by decide +kernel⟩)
  refine ⟨hfront hsameChoice fun found configuration template hselects => .inr ?_,
    by decide +kernel⟩
  obtain ⟨rfl, rfl⟩ := hselects.eq_of_contents hroot isFile_windowsStyle contents_windowsStyle
  obtain rfl := Option.some.inj hselects.buildRoot
  have hsame : SameInFront windowsStyle "p/." "/w/p//" :=
    ⟨by decide +kernel, ⟨'p', by decide +kernel, by decide⟩, ⟨'w', by decide +kernel, by decide⟩⟩
  refine ⟨hsame, "\\out\\$\x7bname\x7d", .inl rfl, by decide +kernel, fun text htext => .inr ?_⟩
  have hexpanded : (Macro.expand (DatabaseLocator.source { root := .fixed none } windowsStyle)
      (context "p/." (Settings.foundAt windowsStyle "p/." [backslashed]) backslashed)
      "\\out\\$\x7bname\x7d").result = .ok (some "\\out\\x64-Debug") := by
    decide +kernel
  cases hexpanded.symm.trans htext
  decide +kernel

/-- Settings with a build root beside the root. -/
def beside : World :=
  (({} : World).placing "/w/CMakeSettings.json" ⟨.bytes (Text.utf8Bytes
    ("\x7b\"configurations\": [\x7b\"name\": \"x64-Debug\", " ++
      "\"buildRoot\": \"$\x7bworkspaceRoot\x7d-build\"\x7d]\x7d")), 0⟩).placing
    "/w-build/compile_commands.json" ⟨.bytes [], 0⟩

/-- The choice of a configuration in the default layout, where the system goes from directory to
    directory. -/
def chosen : World :=
  World.walking ((({} : World).placing "/w/.vs/ProjectSettings.json" ⟨.bytes (Text.utf8Bytes
    "\x7b\"CurrentProjectSetting\": \"x64-Release\"\x7d"), 0⟩).placing
    "/w/out/build/x64-Release/compile_commands.json" ⟨.bytes [], 0⟩)

/-- Where no separator follows the root, a slash at its end counts. And the choice is not found
    behind a directory that is missing, though the root may lead back from there. -/
theorem locate_beside :
    beside.links = [] ∧ beside.faults = [] ∧ beside.absolute "/w" = beside.absolute "/w/" ∧
      ((DatabaseLocator.atRoot { root := .fixed none } "/w").locate beside).result =
        .ok (some "/w-build/compile_commands.json") ∧
      ((DatabaseLocator.atRoot { root := .fixed none } "/w/").locate beside).result = .ok none ∧
    chosen.links = [] ∧ chosen.faults = [] ∧ chosen.absolute "/w" = chosen.absolute "/w/x/.." ∧
      ((DatabaseLocator.atRoot { root := .fixed none } "/w").locate chosen).result =
        .ok (some "/w/out/build/x64-Release/compile_commands.json") ∧
      ((DatabaseLocator.atRoot { root := .fixed none } "/w/x/..").locate chosen).result =
        .ok none := by
  refine ⟨rfl, rfl, ?_, ?_, ?_, rfl, rfl, ?_, ?_, ?_⟩ <;> decide +kernel

end DatabaseLocator
end CompileCommands
