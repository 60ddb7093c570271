/-
  What the location of a database depends on.

  * `Settings.load_congr`, `ActiveConfiguration.name_congr`: the files of a workspace, in worlds in
    which they are read alike;
  * `Selects`, `Configured`, `Candidate`: the template of the active configuration, the path that
    the settings give for the database, and the one path at which a database is looked for;
  * `InputsAlike`: two worlds with the same settings, the same active configuration and the same
    variables in the template;
  * `buildRootBy_congr`, `candidate_of_buildRootBy`: they give the same build root, and with it the
    candidate;
  * `locate_congr`: besides the inputs, only the file at the candidate counts. With settings that
    can be read, the candidate is the path that they give, or there is none.
-/
import CompileCommands.Proofs.Database.Location
import CompileCommands.Proofs.Macro.Refusal
import CompileCommands.Proofs.World.Agreement

namespace CompileCommands

/-! ## Files of a workspace -/

variable {v w : World} {root : String}

theorem Settings.path_congr (h : w.workingDirectory = v.workingDirectory) (root : String) :
    Settings.path w root = Settings.path v root :=
  World.absolute_congr h _

theorem Settings.load_congr (hroot : root ≠ "")
    (hdirectory : w.workingDirectory = v.workingDirectory)
    (h : v.ReadsAlike (Settings.path v root) w) :
    Settings.load (some root) v = Settings.load (some root) w := by
  unfold Settings.load
  rw [requireArgument_of_ne hroot]
  simp only [Query.lift_ok_bind, Query.view_bind, Settings.path_congr hdirectory, h.isFile]
  split
  · next hthere =>
    refine Query.recover_congr ?_ fun failure => ?_
    · refine Query.bind_congr (h.readJson hthere) fun document => ?_
      refine Query.bind_congr rfl fun settings => ?_
      refine Query.bind_congr (Query.view_congr ?_) fun descriptor => rfl
      exact (World.absolute_congr hdirectory _).symm
    · split
      · rfl
      · rfl
  · rfl

theorem ActiveConfiguration.chosen_congr {file : String} (h : v.OpensAlike file w)
    (hthere : v.isFile (v.wayTo file)) :
    chosen file (v.wayTo file) v = chosen file (w.wayTo file) w := by
  have hread : (some <$> Files.readJson (v.wayTo file) : Query World (Option Json)) v =
      (some <$> Files.readJson (w.wayTo file) : Query World (Option Json)) w :=
    Query.bind_congr (h.readJson hthere) fun _ => rfl
  refine Query.bind_congr (Query.recover_congr hread fun failure => ?_) fun document => ?_
  · split
    · rfl
    · rfl
  · cases document with
    | none => rfl
    | some document =>
      cases document <;> rfl

theorem ActiveConfiguration.name_congr (hroot : root ≠ "") (default : String)
    (h : v.OpensAlike (ActiveConfiguration.path root) w) :
    ActiveConfiguration.name (some root) default v =
      ActiveConfiguration.name (some root) default w := by
  unfold ActiveConfiguration.name
  rw [requireArgument_of_ne hroot]
  simp only [Query.lift_ok_bind, Query.view_bind, h.isFile]
  split
  · next hthere =>
    refine Query.bind_congr (chosen_congr h hthere) fun choice => ?_
    split <;> rfl
  · rfl

namespace DatabaseLocator

variable {locator : DatabaseLocator} {path : String}

/-! ## The configured build root -/

/-- The expansion of the template of a configuration. -/
def expansion (locator : DatabaseLocator) (root : String) (found : Settings.Found)
    (configuration : Configuration) (template : String) : Query World (Option String) :=
  fun w => Macro.evaluate locator.usesProcess (locator.source w) (context root found configuration)
    template

/-- The build root that an expansion stands for, if there is one and it is not empty. -/
def expandedBuildRoot (template active : String) : Option String → Query World (Option String)
  | none | some "" => do
    Query.report (.buildRootUnresolved template active)
    return none
  | some expanded => Query.view fun w => some (w.absolute (Path.withSlashes expanded))

theorem template_cases (configuration : Configuration) :
    (configuration.buildRoot = none ∨ configuration.buildRoot = some "") ∨
    ∃ template, configuration.buildRoot = some template ∧ template ≠ "" := by
  cases configuration.buildRoot with
  | none => exact .inl (.inl rfl)
  | some template =>
    by_cases h : template = ""
    · exact .inl (.inr (congrArg some h))
    · exact .inr ⟨template, rfl, h⟩

section Configured

variable {active template : String} {found : Settings.Found} {configuration : Configuration}

theorem configuredBuildRoot_of_none (h : found.settings.find? active = none) :
    locator.configuredBuildRoot root active found = do
      Query.report (.configurationMissing active)
      return none := by
  rw [configuredBuildRoot, h]

theorem configuredBuildRoot_of_missing (h : found.settings.find? active = some configuration)
    (hmissing : configuration.buildRoot = none ∨ configuration.buildRoot = some "") :
    locator.configuredBuildRoot root active found = do
      Query.report (.buildRootMissing active)
      return none := by
  rw [configuredBuildRoot, h]
  dsimp only
  obtain hmissing | hmissing := hmissing
  · rw [hmissing]
  · rw [hmissing]
    rfl

theorem configuredBuildRoot_of_template (h : found.settings.find? active = some configuration)
    (htemplate : configuration.buildRoot = some template) (hne : template ≠ "") :
    locator.configuredBuildRoot root active found =
      locator.expansion root found configuration template >>=
        expandedBuildRoot template active := by
  rw [configuredBuildRoot, h]
  dsimp only
  split
  · next heq => cases htemplate.symm.trans heq
  · next heq =>
    cases htemplate.symm.trans heq
    contradiction
  · next heq =>
    cases htemplate.symm.trans heq
    rfl

theorem expandedBuildRoot_of_ne {text : String} (h : text ≠ "") :
    expandedBuildRoot template active (some text) =
      Query.view fun w => some (w.absolute (Path.withSlashes text)) := by
  unfold expandedBuildRoot
  split
  · contradiction
  · next heq => exact absurd (Option.some.inj heq) h
  · next heq =>
    cases heq
    rfl

theorem expandedBuildRoot_eq_some {expanded : Option String} {buildRoot : String}
    (h : (expandedBuildRoot template active expanded w).result = .ok (some buildRoot)) :
    ∃ text, expanded = some text ∧ text ≠ "" ∧ buildRoot = w.absolute (Path.withSlashes text) := by
  unfold expandedBuildRoot at h
  split at h
  · cases h
  · cases h
  · next text hne =>
    have hbuildRoot := Option.some.inj (Except.ok.inj h)
    exact ⟨text, rfl, fun h => hne (h ▸ rfl), hbuildRoot.symm⟩

end Configured

/-! ## The candidate -/

/-- The settings of the workspace are read, and the active configuration is one of them, with a
    template for its build root. -/
structure Selects (locator : DatabaseLocator) (root : String) (w : World) (found : Settings.Found)
    (configuration : Configuration) (template : String) : Prop where
  settings : (Settings.load (some root) w).result = .ok (some found)
  active : (ActiveConfiguration.name (some root) locator.defaultConfiguration w).result =
    .ok configuration.name
  find? : found.settings.find? configuration.name = some configuration
  buildRoot : configuration.buildRoot = some template

/-- Settings that hold one configuration select no other one. -/
theorem Selects.eq_of_contents {found : Settings.Found} {configuration only : Configuration}
    {template : String} (h : locator.Selects root w found configuration template) (hroot : root ≠ "")
    (hthere : w.isFile (Settings.path w root)) (hcontents : Settings.contents w root = .ok [only]) :
    found = Settings.foundAt w root [only] ∧ configuration = only := by
  have hload := congrArg Outcome.result (Settings.load_of_contents hroot hthere hcontents)
  obtain rfl := Option.some.inj (Except.ok.inj (hload.symm.trans h.settings))
  have hmem := List.mem_of_find?_eq_some h.find?
  rw [Settings.foundAt, List.mem_singleton] at hmem
  exact ⟨rfl, hmem⟩

/-- The path that the settings give for the database: below what the template of the active
    configuration expands to. Neither of the two is empty. -/
inductive Configured (locator : DatabaseLocator) (root : String) (w : World) : String → Prop
  | intro {found configuration template text} :
      locator.Selects root w found configuration template → template ≠ "" →
      (locator.expansion root found configuration template w).result = .ok (some text) →
      text ≠ "" →
      Configured locator root w (databasePath w (w.absolute (Path.withSlashes text)))

/-- The path at which a database is looked for: in the default layout if no settings are read, and
    else the path that they give. -/
inductive Candidate (locator : DatabaseLocator) (root : String) (w : World) : String → Prop
  | default {active} : (Settings.load (some root) w).result = .ok none →
      (ActiveConfiguration.name (some root) locator.defaultConfiguration w).result = .ok active →
      Candidate locator root w (databasePath w (defaultBuildRoot root active))
  | configured {path : String} : locator.Configured root w path → Candidate locator root w path

theorem configured_of_configuredBuildRoot {active : String} {found : Settings.Found}
    {buildRoot : String} (hsettings : (Settings.load (some root) w).result = .ok (some found))
    (hactive : (ActiveConfiguration.name (some root) locator.defaultConfiguration w).result =
      .ok active)
    (h : (locator.configuredBuildRoot root active found w).result = .ok (some buildRoot)) :
    locator.Configured root w (databasePath w buildRoot) := by
  cases hfind : found.settings.find? active with
  | none =>
    rw [configuredBuildRoot_of_none hfind] at h
    cases h
  | some configuration =>
    obtain rfl := Settings.name_of_find? hfind
    obtain hmissing | ⟨template, htemplate, hne⟩ := template_cases configuration
    · rw [configuredBuildRoot_of_missing hfind hmissing] at h
      cases h
    · rw [configuredBuildRoot_of_template hfind htemplate hne] at h
      obtain ⟨expanded, hexpanded, h⟩ := Query.result_bind_eq_ok_iff.1 h
      obtain ⟨text, rfl, hempty, rfl⟩ := expandedBuildRoot_eq_some h
      exact .intro ⟨hsettings, hactive, hfind, htemplate⟩ hne hexpanded hempty

theorem candidate_of_buildRootBy {active : String} {found : Option Settings.Found}
    {buildRoot : String} (hsettings : (Settings.load (some root) w).result = .ok found)
    (hactive : (ActiveConfiguration.name (some root) locator.defaultConfiguration w).result =
      .ok active)
    (h : (locator.buildRootBy root active found w).result = .ok (some buildRoot)) :
    locator.Candidate root w (databasePath w buildRoot) := by
  cases found with
  | none =>
    obtain rfl : defaultBuildRoot root active = buildRoot := Option.some.inj (Except.ok.inj h)
    exact .default hsettings hactive
  | some found => exact .configured (configured_of_configuredBuildRoot hsettings hactive h)

/-! ## Agreement -/

/-- Two worlds with the same inputs for the build root: the working directory, the settings, the
    active configuration, and the variables that its template refers to. -/
structure InputsAlike (locator : DatabaseLocator) (root : String) (v w : World) : Prop where
  workingDirectory : w.workingDirectory = v.workingDirectory
  settings : v.ReadsAlike (Settings.path v root) w
  active : v.OpensAlike (ActiveConfiguration.path root) w
  source : ∀ {found configuration template}, locator.Selects root v found configuration template →
    ∀ token ∈ Macro.tokens template, Text.lower token.scope = "env" →
      locator.source w token.name = locator.source v token.name

theorem source_congr (h : v.Alike w) : locator.source w = locator.source v := by
  rw [source, source, h]

theorem expandedBuildRoot_congr (h : w.workingDirectory = v.workingDirectory)
    (template active : String) (expanded : Option String) :
    expandedBuildRoot template active expanded v =
      expandedBuildRoot template active expanded w := by
  unfold expandedBuildRoot
  split
  · rfl
  · rfl
  · exact Query.view_congr (congrArg some (World.absolute_congr h _).symm)

theorem buildRootBy_congr {active : String} {found : Option Settings.Found}
    (h : InputsAlike locator root v w)
    (hsettings : (Settings.load (some root) v).result = .ok found)
    (hactive : (ActiveConfiguration.name (some root) locator.defaultConfiguration v).result =
      .ok active) :
    locator.buildRootBy root active found v = locator.buildRootBy root active found w := by
  cases found with
  | none => rfl
  | some found =>
    rw [buildRootBy_some]
    cases hfind : found.settings.find? active with
    | none =>
      rw [configuredBuildRoot_of_none hfind]
      rfl
    | some configuration =>
      obtain rfl := Settings.name_of_find? hfind
      obtain hmissing | ⟨template, htemplate, hne⟩ := template_cases configuration
      · rw [configuredBuildRoot_of_missing hfind hmissing]
        rfl
      · rw [configuredBuildRoot_of_template hfind htemplate hne]
        refine Query.bind_congr ?_ fun expanded => ?_
        · have hselects : locator.Selects root v found configuration template :=
            ⟨hsettings, hactive, hfind, htemplate⟩
          exact (Macro.evaluate_congr (h.source hselects)).symm
        · exact expandedBuildRoot_congr h.workingDirectory _ _ _

theorem databaseIn_congr {buildRoot buildRoot' : String}
    (hpath : databasePath v buildRoot = databasePath w buildRoot')
    (h : w.isFile (databasePath v buildRoot) = v.isFile (databasePath v buildRoot)) :
    databaseIn buildRoot v = databaseIn buildRoot' w := by
  rw [databaseIn_apply, databaseIn_apply, ← hpath, h]

theorem databaseIn_eq_some {buildRoot : String}
    (h : (databaseIn buildRoot w).result = .ok (some path)) : path = databasePath w buildRoot := by
  rw [databaseIn_apply] at h
  split at h
  · exact (Option.some.inj (Except.ok.inj h)).symm
  · cases h

theorem locate_congr_of_candidate (hlocator : locator.root = .fixed (some root)) (hroot : root ≠ "")
    (h : InputsAlike locator root v w)
    (hcandidate : ∀ path, locator.Candidate root v path → w.isFile path = v.isFile path) :
    locator.locate v = locator.locate w := by
  rw [locate_eq_locateBy hlocator hroot]
  refine Query.bind_congr_of_ok (Settings.load_congr hroot h.workingDirectory h.settings)
    fun found hfound => ?_
  refine Query.bind_congr_of_ok (ActiveConfiguration.name_congr hroot _ h.active)
    fun active hactive => ?_
  refine Query.bind_congr_of_ok (buildRootBy_congr h hfound hactive) fun buildRoot hbuildRoot => ?_
  cases buildRoot with
  | none => rfl
  | some buildRoot =>
    refine databaseIn_congr (World.absolute_congr h.workingDirectory _).symm (hcandidate _ ?_)
    exact candidate_of_buildRootBy hfound hactive hbuildRoot

theorem locate_of_no_root
    (hlocator : locator.root = .fixed none ∨ locator.root = .fixed (some "")) :
    locator.locate = do
      Query.report .rootMissing
      return none := by
  unfold locate
  obtain hlocator | hlocator := hlocator
  · rw [hlocator]
    rfl
  · rw [hlocator]
    rfl

/-! ## What is located -/

theorem candidate_of_locate (hlocator : locator.root = .fixed (some root)) (hroot : root ≠ "")
    (h : (locator.locate w).result = .ok (some path)) : locator.Candidate root w path := by
  rw [locate_eq_locateBy hlocator hroot] at h
  obtain ⟨found, hfound, h⟩ := Query.result_bind_eq_ok_iff.1 h
  obtain ⟨active, hactive, h⟩ := Query.result_bind_eq_ok_iff.1 h
  obtain ⟨buildRoot, hbuildRoot, h⟩ := Query.result_bind_eq_ok_iff.1 h
  cases buildRoot with
  | none => cases h
  | some buildRoot =>
    rw [databaseIn_eq_some h]
    exact candidate_of_buildRootBy hfound hactive hbuildRoot

theorem Configured.unique {path' : String} (h : locator.Configured root w path)
    (h' : locator.Configured root w path') : path = path' := by
  obtain ⟨⟨hsettings, hactive, hfind, htemplate⟩, -, htext, -⟩ := h
  obtain ⟨⟨hsettings', hactive', hfind', htemplate'⟩, -, htext', -⟩ := h'
  cases hsettings.symm.trans hsettings'
  have hname := Except.ok.inj (hactive.symm.trans hactive')
  rw [hname] at hfind
  cases hfind.symm.trans hfind'
  cases htemplate.symm.trans htemplate'
  cases htext.symm.trans htext'
  rfl

theorem Configured.not_none (h : locator.Configured root w path) :
    (Settings.load (some root) w).result ≠ .ok none := by
  obtain ⟨hselects, -⟩ := h
  rw [hselects.settings]
  nofun

theorem Candidate.unique {path' : String} (h : locator.Candidate root w path)
    (h' : locator.Candidate root w path') : path = path' := by
  cases h with
  | configured h =>
    cases h' with
    | configured h' => exact h.unique h'
    | default hnone => exact absurd hnone h.not_none
  | default hnone hactive =>
    cases h' with
    | configured h' => exact absurd hnone h'.not_none
    | default _ hactive' =>
      rw [Except.ok.inj (hactive.symm.trans hactive')]

/-- With settings that can be read, there is no default layout. -/
theorem Candidate.of_valid (hroot : root ≠ "") (hvalid : Settings.Valid w root)
    (h : locator.Candidate root w path) : locator.Configured root w path := by
  cases h with
  | configured h => exact h
  | default hnone => exact absurd hnone (Settings.load_of_valid hroot hvalid)

/-- **The location of a database depends on few things.** Let the workspace root be given. Two
    worlds end alike, with the same result and the same log, if they have the same inputs for the
    build root and it is the same in both whether a file is at the candidate. There is at most one
    candidate, and nothing else is ever located. With settings that can be read, only the path that
    they give counts: what lies in the default layout makes no difference, also where the active
    configuration is missing, has no template, or has one that does not expand. -/
theorem locate_congr {root : Option String} (hlocator : locator.root = .fixed root) :
    (∀ v w, (∀ r, root = some r → r ≠ "" → InputsAlike locator r v w ∧
        ∀ path, locator.Candidate r v path → w.isFile path = v.isFile path) →
      locator.locate v = locator.locate w) ∧
    ∀ r, root = some r → r ≠ "" →
      (∀ w path path', locator.Candidate r w path → locator.Candidate r w path' → path = path') ∧
      (∀ w path, (locator.locate w).result = .ok (some path) → locator.Candidate r w path) ∧
      (∀ v w, Settings.Valid v r → InputsAlike locator r v w →
        (∀ path, locator.Configured r v path → w.isFile path = v.isFile path) →
        locator.locate v = locator.locate w) ∧
      ∀ w path, Settings.Valid w r → (locator.locate w).result = .ok (some path) →
        locator.Configured r w path := by
  refine ⟨fun v w h => ?_, fun r hr hne => ?_⟩
  · cases root with
    | none =>
      rw [locate_of_no_root (.inl hlocator)]
      rfl
    | some r =>
      by_cases hne : r = ""
      · rw [locate_of_no_root (.inr (hlocator.trans (by rw [hne])))]
        rfl
      · obtain ⟨hinputs, hcandidate⟩ := h r rfl hne
        exact locate_congr_of_candidate hlocator hne hinputs hcandidate
  · subst hr
    refine ⟨fun w path path' h h' => h.unique h', fun w path => candidate_of_locate hlocator hne,
      fun v w hvalid hinputs hconfigured => ?_, fun w path hvalid h => ?_⟩
    · exact locate_congr_of_candidate hlocator hne hinputs fun path h =>
        hconfigured path (h.of_valid hne hvalid)
    · exact (candidate_of_locate hlocator hne h).of_valid hne hvalid

/-- Settings whose template refers to a variable that is not set. -/
def unset : World :=
  ({} : World).placing "/p/CMakeSettings.json" ⟨.bytes (Text.utf8Bytes
    ("\x7b\"configurations\": [\x7b\"name\": \"x64-Debug\", " ++
      "\"buildRoot\": \"$\x7benv.OUT\x7d\"\x7d]\x7d")), 0⟩

/-- The same with a database in the default layout. -/
def unsetWithDatabase : World :=
  unset.placing "/p/out/build/x64-Debug/compile_commands.json" ⟨.bytes [], 0⟩

theorem contents_unset : Settings.contents unset "/p" =
    .ok [{ name := "x64-Debug", buildRoot := some "$\x7benv.OUT\x7d" }] := by
  decide +kernel

theorem isFile_unset : unset.isFile (Settings.path unset "/p") := by
  decide +kernel

theorem not_configured_unset (path : String) :
    ¬Configured { root := .fixed (some "/p") } "/p" unset path := by
  rintro ⟨hselects, -, htext, -⟩
  obtain ⟨-, rfl⟩ := hselects.eq_of_contents (by decide) isFile_unset contents_unset
  obtain rfl := Option.some.inj hselects.buildRoot
  have hnone (found : Settings.Found) :
      (expansion { root := .fixed (some "/p") } "/p" found
        { name := "x64-Debug", buildRoot := some "$\x7benv.OUT\x7d" }
        "$\x7benv.OUT\x7d" unset).result = .ok none := by
    rfl
  rw [hnone] at htext
  cases htext

theorem locate_congr_unset :
    unset.isFile "/p/out/build/x64-Debug/compile_commands.json" = false ∧
    unsetWithDatabase.isFile "/p/out/build/x64-Debug/compile_commands.json" ∧
    locate { root := .fixed (some "/p") } unset =
      locate { root := .fixed (some "/p") } unsetWithDatabase := by
  have hsame : unset.SameBut (unset.locate "/p/out/build/x64-Debug/compile_commands.json")
      unsetWithDatabase :=
    .placing _ _ _
  have hinputs : InputsAlike { root := .fixed (some "/p") } "/p" unset unsetWithDatabase :=
    ⟨hsame.alike.workingDirectory, hsame.readsAlike (by decide +kernel),
      hsame.opensAlike (by decide +kernel), fun _ _ _ _ => by rw [source_congr hsame.alike]⟩
  obtain ⟨-, hroot⟩ := @locate_congr { root := .fixed (some "/p") } (some "/p") rfl
  obtain ⟨-, -, hlocate, -⟩ := hroot "/p" rfl (by decide)
  refine ⟨by decide +kernel, by decide +kernel, ?_⟩
  exact hlocate _ _ ⟨isFile_unset, _, contents_unset⟩ hinputs fun path h =>
    absurd h (not_configured_unset path)

end DatabaseLocator

end CompileCommands
