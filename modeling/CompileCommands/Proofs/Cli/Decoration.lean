/-
  Runs of the commands with and without colour.

  * `Package.decorates_requireAll`: what is said of required packages differs in codes alone;
  * `Locate.clean_report`, `Locate.decorates_run`: so does what is printed of a database;
  * `Capture.decorates_run`: so does what is printed of an environment.
-/
import CompileCommands.Cli.Capture
import CompileCommands.Cli.Locate
import CompileCommands.Proofs.Cli.Arguments
import CompileCommands.Proofs.Database.Escape
import CompileCommands.Proofs.Snapshot.Escape
import CompileCommands.Proofs.Terminal.Run

namespace CompileCommands

open Text

open CompileCommands.Action (Decorates)

instance : Textual ExitCode := ⟨fun _ => True⟩

/-! ## Packages -/

namespace Package

variable {versions : Versions} {requirements : Requirements} {context name minimum version : String}

theorem escapeFree_versionOf (text : String) :
    ∀ failure, versionOf versions text = .error failure → EscapeFree failure := by
  have hmessage : EscapeFree (Failure.invalidVersion text).message :=
    .string_append (.literal rfl) (escapeFree_quoted text)
  intro failure hfailure
  unfold versionOf at hfailure
  split at hfailure
  · cases hfailure
  · cases hfailure
    exact .of_message hmessage

theorem escapeFree_isOlder (installed minimum : String) :
    ∀ failure, isOlder versions installed minimum = .error failure → EscapeFree failure := by
  intro failure hfailure
  unfold isOlder at hfailure
  cases hinstalled : versionOf versions installed with
  | error cause =>
    rw [hinstalled] at hfailure
    cases hfailure
    exact escapeFree_versionOf installed _ hinstalled
  | ok a =>
    rw [hinstalled] at hfailure
    cases hminimum : versionOf versions minimum with
    | error cause =>
      rw [hminimum] at hfailure
      cases hfailure
      exact escapeFree_versionOf minimum _ hminimum
    | ok b =>
      rw [hminimum] at hfailure
      cases hfailure

theorem decorates_installedIn (name : String) :
    Decorates (installedIn name) (installedIn name) :=
  .view (fun _ _ => rfl) fun _ hs => hs.1.packages.get? name

theorem decorates_explainMissing (name minimum context : String) :
    Terminal.Decorates (explainMissing .ansi name minimum context)
      (explainMissing .none name minimum context) := by
  unfold explainMissing
  exact (((Palette.decorates_error _ true).append (.refl _)).append (.refl _)).append (.refl _)

theorem decorates_explainOld (name version minimum context : String) :
    Terminal.Decorates (explainOld .ansi name version minimum context)
      (explainOld .none name version minimum context) := by
  unfold explainOld
  exact ((((((Palette.decorates_error _ true).append (.refl _)).append (.refl _)).append
    (.refl _)).append (.refl _)).append (.refl _)).append (.refl _)

theorem escapeFree_quotedRequirement (hname : EscapeFree name) (hminimum : EscapeFree minimum) :
    EscapeFree (quotedRequirement name minimum) := by
  unfold quotedRequirement
  simp only [EscapeFree.string_append_iff, hname, hminimum, and_true]
  repeat' apply And.intro
  all_goals exact .literal rfl

theorem escapeFree_explainMissing (hname : EscapeFree name) (hminimum : EscapeFree minimum)
    (hcontext : EscapeFree context) : EscapeFree (explainMissing .none name minimum context) := by
  have herror : EscapeFree (name ++ " is required for " ++ context ++ ".") := by
    simp only [EscapeFree.string_append_iff, hname, hcontext, true_and, and_true]
    repeat' apply And.intro
    all_goals exact .literal rfl
  have hquoted := escapeFree_quotedRequirement hname hminimum
  unfold explainMissing
  simp only [EscapeFree.string_append_iff, Palette.escapeFree_error herror, hquoted, true_and,
    and_true]
  repeat' apply And.intro
  all_goals exact .literal rfl

theorem escapeFree_explainOld {version : String} (hname : EscapeFree name)
    (hversion : EscapeFree version) (hminimum : EscapeFree minimum)
    (hcontext : EscapeFree context) :
    EscapeFree (explainOld .none name version minimum context) := by
  have herror : EscapeFree (name ++ " " ++ version ++ " is too old for " ++ context ++ ".") := by
    simp only [EscapeFree.string_append_iff, hname, hversion, hcontext, true_and, and_true]
    repeat' apply And.intro
    all_goals exact .literal rfl
  have hquoted := escapeFree_quotedRequirement hname hminimum
  unfold explainOld
  simp only [EscapeFree.string_append_iff, Palette.escapeFree_error herror, hquoted, hminimum,
    true_and, and_true]
  repeat' apply And.intro
  all_goals exact .literal rfl

theorem decorates_require (hrequirements : EscapeFree requirements) (hcontext : EscapeFree context)
    (hname : EscapeFree name) :
    Decorates (require versions .ansi requirements context name)
      (require versions .none requirements context name) := by
  have hrefused {text plain : String} (h : Terminal.Decorates text plain)
      (hplain : EscapeFree plain) : Decorates (do Session.complain text; return false)
        (do Session.complain plain; return false) :=
    .bind (.complain h hplain) fun _ _ => .pure trivial
  unfold require
  split
  · have hunknown : EscapeFree
        ("Unknown package '" ++ name ++ "' - no version requirement defined") :=
      (EscapeFree.string_append (.literal rfl) hname).string_append (.literal rfl)
    exact hrefused (Palette.decorates_error _ true) (Palette.escapeFree_error hunknown true)
  · next minimum hfound =>
    have hminimum : EscapeFree minimum := hrequirements.get? name minimum hfound
    refine .bind (decorates_installedIn name) fun found hfound => ?_
    cases found with
    | none =>
      exact hrefused (decorates_explainMissing name minimum context)
        (escapeFree_explainMissing hname hminimum hcontext)
    | some version =>
      refine .lift_bind (escapeFree_isOlder version minimum) fun isOlder _ =>
        .ite ?_ (.pure trivial)
      exact hrefused (decorates_explainOld name version minimum context)
        (escapeFree_explainOld hname hfound.of_some hminimum hcontext)

theorem decorates_requireEach (hrequirements : EscapeFree requirements)
    (hcontext : EscapeFree context) {names : List String} (h : EscapeFree names) :
    Decorates (requireEach versions .ansi requirements context names)
      (requireEach versions .none requirements context names) := by
  induction names with
  | nil => exact .pure trivial
  | cons name rest ih =>
    obtain ⟨hname, hrest⟩ := h.of_cons
    exact .bind (decorates_require hrequirements hcontext hname) fun _ _ =>
      .ite (ih hrest) (.pure trivial)

theorem decorates_requireAll (hrequirements : EscapeFree requirements)
    (hcontext : EscapeFree context) :
    Decorates (requireAll versions .ansi requirements context)
      (requireAll versions .none requirements context) :=
  decorates_requireEach hrequirements hcontext (.map _ fun entry hentry =>
    (hrequirements entry hentry).1)

end Package

namespace Cli

theorem decorates_requiring {run run' : Action Session ExitCode} (h : Decorates run run')
    {purpose : String} (hpurpose : EscapeFree purpose) :
    Decorates (requiring .ansi purpose run) (requiring .none purpose run') := by
  have hstandard : EscapeFree Requirements.standard :=
    .cons ⟨.literal rfl, .literal rfl⟩ (.cons ⟨.literal rfl, .literal rfl⟩
      (.singleton ⟨.literal rfl, .literal rfl⟩))
  exact .bind (Package.decorates_requireAll hstandard hpurpose) fun _ _ => .ite h (.pure trivial)

/-! ## Databases -/

namespace Locate

instance : Textual Settings := ⟨fun settings => EscapeFree settings.root ∧ EscapeFree settings.file⟩

instance : Textual Lookup := ⟨fun l => EscapeFree l.file ∧ EscapeFree l.entry⟩

instance : Textual Report := ⟨fun r => EscapeFree r.root ∧ EscapeFree r.configuration ∧
  EscapeFree r.database ∧ EscapeFree r.lookup⟩

theorem clean_configurationOf {root : Option String} (h : EscapeFree root) :
    (configurationOf root).Clean := by
  unfold configurationOf
  split
  · exact .pure .none
  · exact .pure .none
  · exact .map (ActiveConfiguration.clean_name (.some h.of_some) (.literal rfl)) fun _ => .some

theorem clean_lookupOf {locator : DatabaseLocator} (hlocator : EscapeFree locator)
    {file : Option String} (h : EscapeFree file) : (lookupOf locator file).Clean := by
  cases file with
  | none => exact .pure .none
  | some file =>
    exact .bind (Database.clean_entryFor (DatabaseLocator.clean_locate hlocator) h) fun _ hentry =>
      .pure (.some ⟨h.of_some, hentry⟩)

theorem clean_report {source : RootSource} (hsource : EscapeFree source) {file : Option String}
    (hfile : EscapeFree file) : (report source file).Clean := by
  have hlocator : EscapeFree ({ root := source } : DatabaseLocator) :=
    ⟨hsource, .literal rfl, .none⟩
  refine .bind (clean_find hsource) fun root hroot => ?_
  refine .bind (clean_configurationOf hroot) fun configuration hconfiguration => ?_
  refine .bind (DatabaseLocator.clean_locate hlocator) fun database hdatabase => ?_
  exact .bind (clean_lookupOf hlocator hfile) fun lookup hlookup =>
    .pure ⟨hroot, hconfiguration, hdatabase, hlookup⟩

/-! ## Reports in print -/

theorem escapeFree_entryText {e : Entry} (h : EscapeFree e) :
    EscapeFree (entryText .none e) := by
  obtain ⟨hfile, hdirectory, hcommand, harguments⟩ := h
  have hlabelled {label value : String} (hlabel : EscapeFree label) (hvalue : EscapeFree value) :
      EscapeFree (label, some value) := ⟨hlabel, .some hvalue⟩
  refine Palette.escapeFree_fields (.append (.append (.cons (hlabelled (by decide) hfile)
    (.singleton (hlabelled (by decide) hdirectory))) ?_) ?_)
  · exact (harguments.option_map fun words hwords =>
      hlabelled (by decide) (.intercalate (by decide) hwords)).toList
  · exact (hcommand.option_map fun text htext => hlabelled (by decide) htext).toList

theorem decorates_printLookup {l : Lookup} (h : EscapeFree l) :
    Decorates (l.print .ansi) (l.print .none) := by
  have hkind (kind : SourceKind) : EscapeFree kind.name := by cases kind <;> exact .literal rfl
  have hheading : EscapeFree ("Entry for " ++ (SourceKind.ofPath l.file).name ++ " file") :=
    .string_append (.string_append (.literal rfl) (hkind _)) (.literal rfl)
  refine .bind (.print ((Terminal.Decorates.refl "\n").append (Palette.decorates_heading _))
    (.string_append (by decide) (Palette.escapeFree_heading hheading))) fun _ _ => ?_
  split
  · exact .warning (.string_append (.literal rfl) h.1) true
  · next e he => exact .print (Palette.decorates_fields _) (escapeFree_entryText (h.2 e he))

theorem decorates_printText {r : Report} (h : EscapeFree r) :
    Decorates (r.printText .ansi) (r.printText .none) := by
  obtain ⟨hroot, hconfiguration, hdatabase, hlookup⟩ := h
  have hvalues : EscapeFree [("Workspace root", r.root), ("Configuration", r.configuration),
      ("Database", r.database)] :=
    .cons ⟨.literal rfl, hroot⟩ (.cons ⟨.literal rfl, hconfiguration⟩
      (.singleton ⟨.literal rfl, hdatabase⟩))
  refine .bind (.print (Palette.decorates_heading _) (Palette.escapeFree_heading (.literal rfl)))
    fun _ _ => .bind (.print (Palette.decorates_fields _) (Palette.escapeFree_fields hvalues))
      fun _ _ => ?_
  split
  · exact .pure trivial
  · next l hl => exact decorates_printLookup (hlookup l hl)

theorem decorates_print {r : Report} (h : EscapeFree r) (format : Format) :
    Decorates (r.print .ansi format) (r.print .none format) := by
  have hjson : EscapeFree (r.toJson.pretty ++ "\n") :=
    (Json.escapeFree_pretty _).string_append (by decide)
  cases format with
  | json => exact .print (.refl _) hjson
  | text => exact decorates_printText h
  | bare => exact decorates_printText h

theorem decorates_conclude (r : Report) : Decorates (r.conclude .ansi) (r.conclude .none) := by
  unfold Report.conclude
  split
  · exact .error (.literal rfl) true
  · exact .success (.literal rfl)
  · exact .pure trivial
  · exact .pure trivial

/-! ## The command that locates a database -/

theorem escapeFree_sourceOf {w : World} (hw : EscapeFree w) {root file : Option String}
    (hroot : EscapeFree root) (hfile : EscapeFree file) : EscapeFree (sourceOf w root file) := by
  unfold sourceOf
  split
  · next root' hsome => exact EscapeFree.some (hw.absolute (hroot.filter _ root' hsome))
  · exact hfile.getD hw.workingDirectory

theorem decorates_locate {settings : Settings} (h : EscapeFree settings) :
    Decorates (locate .ansi settings) (locate .none settings) := by
  refine .bind (.view (fun _ _ => rfl) fun s hs =>
    (h.2.filter _).option_map fun _ => hs.1.absolute) fun file hfile => ?_
  refine .bind (.view (fun _ _ => rfl) fun s hs => escapeFree_sourceOf hs.1 h.1 hfile)
    fun source hsource => ?_
  refine .bind (.asks (clean_report hsource hfile)) fun found hfound => ?_
  refine .bind (decorates_print hfound _) fun _ _ => ?_
  split
  · exact .bind (decorates_conclude found) fun _ _ => .pure trivial
  · exact .pure trivial

theorem decorates_run {settings : Settings} (h : EscapeFree settings) :
    Decorates (run .ansi settings) (run .none settings) := by
  have hbad : EscapeFree ("Workspace root '" ++ settings.root.getD "" ++ "' is not a directory") :=
    .string_append (.string_append (.literal rfl) (h.1.getD (by decide))) (.literal rfl)
  refine decorates_requiring (.view_bind (fun _ _ => rfl) fun isBad => .ite ?_ ?_) (.literal rfl)
  · exact .bind (.error hbad true) fun _ _ => .pure trivial
  · exact decorates_locate h

end Locate

/-! ## Environments -/

namespace Capture

instance : Textual Settings := ⟨fun settings => EscapeFree settings.installation ∧
  EscapeFree settings.params ∧ EscapeFree settings.cache ∧ EscapeFree settings.only⟩

variable {b : Bootstrap} {launcher : Launcher} {environment : Environment}

theorem decorates_stored (params : Option String) {cache : String} (hcache : EscapeFree cache) :
    Decorates (stored .ansi b params cache) (stored .none b params cache) := by
  refine .lift_bind (Snapshot.escapeFree_requireName params) fun _ _ => ?_
  refine .bind (.files (Snapshot.clean_load hcache)) fun found hfound => ?_
  cases found with
  | none => exact .pure .none
  | some environment => exact .bind (.info (.literal rfl)) fun _ _ => .pure hfound

theorem decorates_keep (params : Option String) {cache : String} (hcache : EscapeFree cache)
    (h : EscapeFree environment) :
    Decorates (keep b params cache environment) (keep b params cache environment) :=
  .bind (.files (Snapshot.clean_save hcache h)) fun _ _ =>
    .bind (.files (Snapshot.clean_cleanup hcache maximumAge)) fun _ _ => .pure trivial

section Capture

variable (hlauncher : EscapeFree launcher) (hinstallation : EscapeFree b.installation)
  (hshell : EscapeFree b.shell)
include hlauncher hinstallation hshell

theorem decorates_capture (params : Option String) {cache : Option String}
    (hcache : EscapeFree cache) :
    Decorates (capture .ansi b launcher params cache) (capture .none b launcher params cache) := by
  have hfetch : Decorates (b.fetch launcher params) (b.fetch launcher params) :=
    Bootstrap.decorates_fetch hlauncher hinstallation hshell
  unfold capture
  split
  · exact hfetch
  · exact hfetch
  · next directory _ =>
    have hdirectory : EscapeFree directory := hcache.of_some
    refine .bind (decorates_stored params hdirectory) fun found hfound => ?_
    cases found with
    | some environment => exact .pure hfound
    | none =>
      refine .bind hfetch fun captured hcaptured => ?_
      cases captured with
      | none => exact .pure .none
      | some environment =>
        exact .bind (decorates_keep params hdirectory hcaptured.of_some) fun _ _ => .pure hcaptured

omit hlauncher hinstallation hshell in
theorem escapeFree_namesOf (only : List (Option String)) {failure : Failure}
    (h : namesOf only = .error failure) : EscapeFree failure := by
  have hmessage : EscapeFree (Failure.withheld .variableName) := .literal rfl
  unfold namesOf at h
  split at h
  · cases h
  · cases h
    exact hmessage

omit hlauncher hinstallation hshell in
theorem escapeFree_printed (h : EscapeFree environment) (format : Format) :
    EscapeFree (printed .none format environment) := by
  have hfields : EscapeFree
      (Palette.none.fields (environment.map fun entry => (entry.1, some entry.2))) :=
    Palette.escapeFree_fields
      (.map _ fun entry hentry => ⟨(h entry hentry).1, .some (h entry hentry).2⟩)
  cases format with
  | json => exact (Json.escapeFree_pretty _).string_append (by decide)
  | text => exact hfields
  | bare => exact hfields

omit hlauncher hinstallation hshell in
theorem decorates_printed (format : Format) (environment : Environment) :
    Terminal.Decorates (printed .ansi format environment) (printed .none format environment) := by
  cases format with
  | json => exact .refl _
  | text => exact Palette.decorates_fields _
  | bare => exact Palette.decorates_fields _

omit hlauncher hinstallation hshell in
theorem escapeFree_sorted_selected (h : EscapeFree environment) (names : List String) :
    EscapeFree (sorted (selected names environment)) := by
  refine h.subset fun entry hentry => ?_
  have hselected := (List.mergeSort_perm _ _).mem_iff.1 hentry
  unfold selected at hselected
  split at hselected
  · exact hselected
  · exact (List.mem_filter.1 hselected).1

theorem decorates_captureAndPrint {settings : Settings} (h : EscapeFree settings) :
    Decorates (captureAndPrint .ansi launcher settings b)
      (captureAndPrint .none launcher settings b) := by
  refine .bind (decorates_capture hlauncher hinstallation hshell _ h.2.2.1) fun found hfound => ?_
  cases found with
  | none => exact .bind (.error (.literal rfl) true) fun _ _ => .pure trivial
  | some environment =>
    refine .lift_bind (fun _ => escapeFree_namesOf _) fun names _ => ?_
    have hvalues := escapeFree_sorted_selected hfound.of_some names
    exact .bind (.print (decorates_printed _ _) (escapeFree_printed hvalues _)) fun _ _ =>
      .pure trivial

end Capture

theorem escapeFree_timeLimitOf (settings : Settings) {failure : Failure}
    (h : timeLimitOf settings = .error failure) : EscapeFree failure := by
  have hmessage : EscapeFree (Failure.withheld .timeLimit) := .literal rfl
  unfold timeLimitOf at h
  split at h
  · cases h
  · cases h
    exact hmessage

theorem escapeFree_bootstrapOf {installation : String} {seconds : Binary64} {failure : Failure}
    (h : bootstrapOf installation seconds = .error failure) : EscapeFree failure := by
  have hmessage (value : Binary64) : EscapeFree (Failure.notFinite value).message := by
    cases value <;> exact .literal rfl
  unfold bootstrapOf at h
  split at h
  · cases h
  · cases h
    exact .of_message (hmessage _)

theorem decorates_run (hlauncher : EscapeFree launcher) {settings : Settings}
    (h : EscapeFree settings) :
    Decorates (run .ansi launcher settings) (run .none launcher settings) := by
  have hrefuse {text : String} (htext : EscapeFree text) :
      Decorates (refuse .ansi text) (refuse .none text) :=
    .bind (.error htext true) fun _ _ => .pure trivial
  have hmissing : EscapeFree noInstallation :=
    .string_append (.string_append (.literal rfl) (.literal rfl)) (.literal rfl)
  refine decorates_requiring ?_ (.literal rfl)
  split
  · exact hrefuse hmissing
  · exact hrefuse hmissing
  · next installation _ hsome =>
    have hinstallation : EscapeFree installation := h.1 installation hsome
    refine .lift_bind (fun _ => escapeFree_timeLimitOf settings) fun seconds _ =>
      .ite (hrefuse (.literal rfl)) (.lift_bind (fun _ => escapeFree_bootstrapOf) fun b hb => ?_)
    unfold bootstrapOf at hb
    split at hb
    · cases hb
      exact decorates_captureAndPrint hlauncher hinstallation .none h
    · cases hb

end Capture
end Cli
end CompileCommands
