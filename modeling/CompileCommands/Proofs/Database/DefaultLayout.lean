/-
  The default layout as a template.

  * `defaultTemplate`: the template that describes the default layout, and what it expands to;
  * `lexical_defaultBuildRoot`, `databasePath_default`: in lowest terms, the expansion is the default
    build root, so the database is looked for at the same path;
  * `locate_databasePath_ne`, `locate_activePath_ne`: neither the database nor the file with the
    active configuration lies where the settings lie;
  * `locate_defaultTemplate`: settings with this template locate the database where it is located
    without settings.
-/
import CompileCommands.Proofs.Database.Agreement
import CompileCommands.Proofs.Path.Lowest
import CompileCommands.Proofs.Path.Style

namespace CompileCommands

/-! ## The template -/

/-- The template of the build root in the default layout. -/
def defaultTemplate : String := "$\x7bworkspaceRoot\x7d/out/build/$\x7bname\x7d"

theorem Macro.evaluate_defaultTemplate (ofProcess : Bool) (source : Source) {ctx : Context}
    {root name : String} (hroot : ctx.root = some root) (hname : ctx.configuration = some name) :
    evaluate ofProcess source ctx defaultTemplate =
      .ok (some (root ++ "/" ++ ("out/build/" ++ name))) := by
  have htokens : tokens defaultTemplate =
      [.of 0 "workspaceRoot".toList, .of 27 "name".toList] := by
    decide +kernel
  have hunrefused : ∀ token ∈ tokens defaultTemplate, refusal? ofProcess ctx token = none := by
    intro token htoken
    rw [htokens, List.mem_cons, List.mem_singleton] at htoken
    obtain rfl | rfl := htoken
    · rfl
    · rfl
  have hliterals : literals defaultTemplate = [[], "/out/build/".toList, []] := by
    decide +kernel
  have hvalues : List.Forall₂ (HasValue source ctx) (tokens defaultTemplate) [root, name] := by
    rw [htokens]
    exact .cons (.builtin rfl hroot) (.cons (.builtin rfl hname) .nil)
  have hweave : String.ofList (weave [[], "/out/build/".toList, []] [root, name]) =
      root ++ "/" ++ ("out/build/" ++ name) := by
    rw [← String.toList_inj]
    simp [weave]
  rw [evaluate_of_unrefused hunrefused, expand_of_values hvalues, hliterals, hweave]

namespace DatabaseLocator

/-! ## Build roots -/

variable {locator : DatabaseLocator} {root active : String} {v w : World}

theorem isPlain_databaseName : Path.IsPlain Database.fileName :=
  .of_length (by decide) (by decide)

theorem isPlain_settingsName : Path.IsPlain Settings.fileName :=
  .of_length (by decide) (by decide)

theorem defaultBuildRoot_eq (hactive : Path.isRooted active = false) :
    defaultBuildRoot root active = root ++ Path.gap root ++ ("out/build/" ++ active) := by
  have hout : Path.isRooted "out" = false := by decide
  have hbuild : Path.isRooted "build" = false := by decide
  have hgap : Path.gap "out" = "/" ∧ Path.gap "build" = "/" := by decide
  rw [defaultBuildRoot, Path.joinAll, List.foldl_cons, List.foldl_cons, List.foldl_cons,
    List.foldl_nil, Path.join_eq_append hactive, Path.join_eq_append hbuild,
    Path.join_eq_append hout, Path.gap_append (by decide), Path.gap_append (by decide), hgap.1,
    hgap.2]
  simp only [String.append_assoc]
  rfl

/-- In lowest terms it makes no difference whether the root ends with a slash. -/
theorem lexical_defaultBuildRoot (hroot : ∃ c ∈ root.toList, c ≠ '/')
    (hactive : Path.isRooted active = false) :
    w.lexical (root ++ "/" ++ ("out/build/" ++ active)) =
      w.lexical (defaultBuildRoot root active) := by
  have hbelow : Path.isRooted ("out/build/" ++ active) = false :=
    (Path.isRooted_append (by decide) active).trans (by decide)
  rw [defaultBuildRoot_eq hactive, ← Path.join_eq_append hbelow, World.lexical_append_slash hroot,
    World.lexical_join_below (Path.ne_empty_of_ne_slash hroot) hbelow]

theorem defaultBuildRoot_ne_slash (hroot : ∃ c ∈ root.toList, c ≠ '/')
    (hactive : Path.isRooted active = false) :
    ∃ c ∈ (defaultBuildRoot root active).toList, c ≠ '/' := by
  obtain ⟨c, hc, hslash⟩ := hroot
  refine ⟨c, ?_, hslash⟩
  rw [defaultBuildRoot_eq hactive, String.append_assoc, String.toList_append]
  exact List.mem_append_left _ hc

/-- The database is looked for at the same path, whether the build root is the default one or what
    the template expands to, in lowest terms. -/
theorem databasePath_default (hdirectory : Path.isRooted w.workingDirectory)
    (hroot : ∃ c ∈ root.toList, c ≠ '/') (hactive : Path.isRooted active = false) :
    databasePath w (defaultBuildRoot root active) =
      databasePath w (w.absolute (root ++ "/" ++ ("out/build/" ++ active))) := by
  rw [databasePath, databasePath, World.absolute, World.absolute, World.absolute,
    World.lexical_join (Path.ne_empty_of_ne_slash (defaultBuildRoot_ne_slash hroot hactive))
      isPlain_databaseName,
    World.lexical_join_text (World.isLowest_lexical hdirectory _) isPlain_databaseName,
    lexical_defaultBuildRoot hroot hactive]

theorem configuredBuildRoot_defaultTemplate {found : Settings.Found} {configuration : Configuration}
    (hslash : '\\' ∉ root.toList) (hactive : '\\' ∉ active.toList)
    (hfind : found.settings.find? active = some configuration)
    (htemplate : configuration.buildRoot = some defaultTemplate) :
    locator.configuredBuildRoot root active found w =
      .ok (some (w.absolute (root ++ "/" ++ ("out/build/" ++ active)))) := by
  have htext : root ++ "/" ++ ("out/build/" ++ active) ≠ "" := by
    rw [ne_eq, ← String.toList_eq_nil_iff, String.toList_append, String.toList_append]
    simp
  have hplain : '\\' ∉ (root ++ "/" ++ ("out/build/" ++ active)).toList := by
    have hout : '\\' ∉ "out/build/".toList := by decide
    simp only [String.toList_append, List.mem_append, not_or]
    exact ⟨⟨hslash, by decide⟩, hout, hactive⟩
  have hexpansion : locator.expansion root found configuration defaultTemplate w =
      .ok (some (root ++ "/" ++ ("out/build/" ++ active))) :=
    Macro.evaluate_defaultTemplate _ _ rfl (congrArg some (Settings.name_of_find? hfind))
  rw [configuredBuildRoot_of_template hfind htemplate (by decide),
    Query.bind_of_eq_ok hexpansion, expandedBuildRoot_of_ne htext,
    Path.withSlashes_of_not_mem hplain]
  rfl

/-! ## Places -/

section Places

variable (hlinks : w.links = []) (hdirectory : Path.isRooted w.workingDirectory)
include hlinks hdirectory

theorem locate_databasePath_ne (hne : root ≠ "") {buildRoot : String} (hbuildRoot : buildRoot ≠ "") :
    w.locate (databasePath w buildRoot) ≠ w.locate (Settings.path w root) := by
  rw [databasePath, Settings.path, World.locate_absolute hlinks hdirectory,
    World.locate_absolute hlinks hdirectory]
  exact World.locate_join_ne hlinks hbuildRoot hne isPlain_databaseName isPlain_settingsName
    (by decide)

/-- Whichever way the system takes the path of the active configuration, the last name stays. -/
theorem locate_activePath_ne (hne : root ≠ "")
    (hthere : ActiveConfiguration.place w root ≠ "") :
    w.locate (ActiveConfiguration.place w root) ≠ w.locate (Settings.path w root) := by
  have hparent : Path.join root ".vs" ≠ "" := by
    rw [Path.join_eq_append (by decide)]
    exact Path.append_ne_empty (by decide) _
  have hname : Path.IsPlain "ProjectSettings.json" := .of_length (by decide) (by decide)
  have hpath : ActiveConfiguration.path root =
      Path.join (Path.join root ".vs") "ProjectSettings.json" := rfl
  rw [ActiveConfiguration.place, World.wayTo, hpath] at hthere ⊢
  cases hway : w.resolution.way? (Path.join (Path.join root ".vs") "ProjectSettings.json") with
  | none =>
    rw [hway] at hthere
    exact absurd rfl hthere
  | some path =>
    obtain ⟨directory, hdirectory', rfl⟩ := w.resolution.keeps hparent hname hway
    rw [Option.getD_some, Settings.path, World.locate_absolute hlinks hdirectory]
    exact World.locate_join_ne hlinks hdirectory' hne hname isPlain_settingsName (by decide)

end Places

/-! ## The location -/

/-- **The default layout and its template agree.** Let a world without links have no settings at
    the root, and let another one be the same but for settings there, in which the template of the
    active configuration describes the default layout. Then the location ends alike in both, with
    the same result and the same log, however the root is spelled, and whatever the name of the
    configuration. -/
theorem locate_defaultTemplate {settings : Settings} {configuration : Configuration}
    (hlocator : locator.root = .fixed (some root)) (hlinks : w.links = [])
    (hdirectory : Path.isRooted w.workingDirectory) (hslash : '\\' ∉ root.toList)
    (hroot : ∃ c ∈ root.toList, c ≠ '/')
    (hname : (ActiveConfiguration.name (some root) locator.defaultConfiguration w).result =
      .ok active)
    (hactive : '\\' ∉ active.toList) (hrelative : Path.isRooted active = false)
    (hnone : w.isFile (Settings.path w root) = false)
    (hadded : w.SameBut (w.locate (Settings.path w root)) v)
    (hthere : v.isFile (Settings.path v root)) (hcontents : Settings.contents v root = .ok settings)
    (hfind : settings.find? active = some configuration)
    (htemplate : configuration.buildRoot = some "$\x7bworkspaceRoot\x7d/out/build/$\x7bname\x7d") :
    locator.locate v = locator.locate w := by
  have hne := Path.ne_empty_of_ne_slash hroot
  have halike := hadded.alike
  have hopens : w.OpensAlike (ActiveConfiguration.path root) v := by
    by_cases hthere : ActiveConfiguration.place w root = ""
    · exact .of_nowhere hthere ((halike.wayTo _).trans hthere)
    · exact hadded.opensAlike (locate_activePath_ne hlinks hdirectory hne hthere)
  have hsame : ActiveConfiguration.name (some root) locator.defaultConfiguration v =
      ActiveConfiguration.name (some root) locator.defaultConfiguration w :=
    (ActiveConfiguration.name_congr hne _ hopens).symm
  have hname' : (ActiveConfiguration.name (some root) locator.defaultConfiguration v).result =
      .ok active := by
    rw [hsame, hname]
  have hdefault : locator.buildRootBy root active none w =
      .ok (some (defaultBuildRoot root active)) := rfl
  have hconfigured : locator.buildRootBy root active (some (Settings.foundAt v root settings)) v =
      .ok (some (v.absolute (root ++ "/" ++ ("out/build/" ++ active)))) := by
    rw [buildRootBy_some]
    exact configuredBuildRoot_defaultTemplate hslash hactive hfind htemplate
  have hpath : databasePath w (defaultBuildRoot root active) =
      databasePath v (v.absolute (root ++ "/" ++ ("out/build/" ++ active))) := by
    rw [databasePath_default hdirectory hroot hrelative, databasePath, databasePath,
      World.absolute_congr halike.workingDirectory, World.absolute_congr halike.workingDirectory]
  have hisFile : v.isFile (databasePath w (defaultBuildRoot root active)) =
      w.isFile (databasePath w (defaultBuildRoot root active)) := by
    have hbuildRoot := Path.ne_empty_of_ne_slash (defaultBuildRoot_ne_slash hroot hrelative)
    exact hadded.isFile (locate_databasePath_ne hlinks hdirectory hne hbuildRoot)
  rw [locate_eq_locateBy hlocator hne, locateBy,
    Query.bind_of_eq_ok (Settings.load_of_not_isFile hne hnone),
    Query.bind_of_eq_ok (Settings.load_of_contents hne hthere hcontents),
    Query.bind_of_ok hname, Query.bind_of_ok hname', hsame, Query.bind_of_eq_ok hconfigured,
    Query.bind_of_eq_ok hdefault]
  dsimp only
  rw [databaseIn_congr hpath hisFile]

/-- A database in the default layout, and no settings. -/
def layout : World :=
  ({ workingDirectory := "/w" } : World).placing "/p/out/build/x64-Debug/compile_commands.json"
    ⟨.bytes [], 0⟩

/-- The same with settings that describe the default layout. -/
def layoutWithSettings : World :=
  layout.placing "/p/CMakeSettings.json" ⟨.bytes (Text.utf8Bytes
    ("\x7b\"configurations\": [\x7b\"name\": \"x64-Debug\", " ++
      "\"buildRoot\": \"$\x7bworkspaceRoot\x7d/out/build/$\x7bname\x7d\"\x7d]\x7d")), 0⟩

theorem locate_layoutWithSettings :
    (locate { root := .fixed (some "..//p/") } layoutWithSettings).result =
      .ok (some "/p/out/build/x64-Debug/compile_commands.json") := by
  have hpath : Settings.path layout "..//p/" = "/p/CMakeSettings.json" := by decide +kernel
  have hadded : layout.SameBut (layout.locate (Settings.path layout "..//p/"))
      layoutWithSettings := by
    rw [hpath]
    exact .placing _ _ _
  have hcontents : Settings.contents layoutWithSettings "..//p/" =
      .ok [⟨"x64-Debug", some defaultTemplate, none⟩] := by
    decide +kernel
  have hname : (ActiveConfiguration.name (some "..//p/") "x64-Debug" layout).result =
      .ok "x64-Debug" := by
    decide +kernel
  have hnone : layout.isFile (Settings.path layout "..//p/") = false := by decide +kernel
  have hthere : layoutWithSettings.isFile (Settings.path layoutWithSettings "..//p/") := by
    decide +kernel
  have hlocate := @locate_defaultTemplate { root := .fixed (some "..//p/") } "..//p/" "x64-Debug"
    layoutWithSettings layout _ _ rfl rfl (by decide) (by decide) ⟨'p', by decide, by decide⟩ hname
    (by decide) (by decide) hnone hadded hthere hcontents rfl rfl
  rw [hlocate]
  decide +kernel

end DatabaseLocator
end CompileCommands
