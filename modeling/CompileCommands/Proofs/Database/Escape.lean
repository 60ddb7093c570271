/-
  Compilation databases without escape characters.

  * `DatabaseLocator.clean_locate`: the path of the database has none, since it is made of the
    workspace root and an expansion of the build settings;
  * `Database.clean_read`: nor have the entries of a database, whose words may be any values as
    plain text;
  * `Database.clean_entryFor`: nor has the entry for a file, and what is logged on the way to it.
-/
import CompileCommands.Database.Resolution
import CompileCommands.Proofs.Macro.Escape
import CompileCommands.Proofs.Workspace.Escape

namespace CompileCommands

open Text

/-! ## Location -/

instance : Textual RootSource := ⟨fun
  | .fixed root => EscapeFree root
  | .repository start => EscapeFree start⟩

theorem clean_find {source : RootSource} (h : EscapeFree source) : source.find.Clean := by
  cases source with
  | fixed root => exact .pure h
  | repository start =>
    exact .bind (WorkspaceRoot.clean_find? h) fun _ hroot =>
      .pure (hroot.option_map fun _ => .text)

namespace DatabaseLocator

instance : Textual DatabaseLocator := ⟨fun locator =>
  EscapeFree locator.root ∧ EscapeFree locator.defaultConfiguration ∧ EscapeFree locator.given⟩

variable {locator : DatabaseLocator} {root active : String}

theorem escapeFree_source (h : EscapeFree locator) {w : World} (hw : EscapeFree w) :
    EscapeFree (locator.source w) :=
  h.2.2.getD fun name => hw.environment.get? name

theorem escapeFree_context (hroot : EscapeFree root) {found : Settings.Found}
    (hfound : EscapeFree found) {configuration : Configuration} (h : EscapeFree configuration) :
    EscapeFree (context root found configuration) :=
  ⟨.some h.1, .some hroot, h.2.2, .some hfound.2.1, .some hfound.2.2⟩

theorem clean_configuredBuildRoot (h : EscapeFree locator) (hroot : EscapeFree root)
    (hactive : EscapeFree active) {found : Settings.Found} (hfound : EscapeFree found) :
    (configuredBuildRoot locator root active found).Clean := by
  have hnone {event : Log.Event} (hevent : EscapeFree event) : Query.Clean
      (do Query.report event; return none : Query World (Option String)) :=
    .bind (.report hevent) fun _ _ => .pure .none
  unfold configuredBuildRoot
  split
  · exact hnone (.singleton hactive)
  · next configuration hconfiguration =>
    have hfree := hfound.1.find? _ configuration hconfiguration
    split
    · exact hnone (.singleton hactive)
    · exact hnone (.singleton hactive)
    · next template _ htemplate =>
      have htext : EscapeFree template := hfree.2.1 template htemplate
      refine .bind (fun w hw => Macro.escapeFree_evaluate _ (escapeFree_source h hw)
        (escapeFree_context hroot hfound hfree) htext) fun expanded hexpanded => ?_
      split
      · exact hnone (.cons htext (.singleton hactive))
      · exact hnone (.cons htext (.singleton hactive))
      · exact .view fun _ hw => .some (hw.absolute hexpanded.of_some.withSlashes)

theorem clean_buildRoot (h : EscapeFree locator) (hroot : EscapeFree root) :
    (locator.buildRoot root).Clean := by
  refine .bind (Settings.clean_load hroot.some) fun found hfound => ?_
  refine .bind (ActiveConfiguration.clean_name hroot.some h.2.1) fun active hactive => ?_
  cases found with
  | some found => exact clean_configuredBuildRoot h hroot hactive hfound.of_some
  | none =>
    exact .pure (.some (hroot.joinAll
      (.cons (by decide) (.cons (by decide) (.singleton hactive)))))

theorem clean_databaseIn {buildRoot : String} (h : EscapeFree buildRoot) :
    (databaseIn buildRoot).Clean := by
  have hpath : (Query.view fun w : World =>
      w.absolute (Path.join buildRoot Database.fileName)).Clean :=
    .view fun _ hw => hw.absolute (h.path_join (.literal rfl))
  refine .bind hpath fun path hpath => .bind (.view fun _ _ => trivial) fun _ _ => .ite ?_ ?_
  · exact .bind (.report (.singleton hpath)) fun _ _ => .pure hpath.some
  · exact .bind (.report (.singleton hpath)) fun _ _ => .pure .none

theorem clean_locate (h : EscapeFree locator) : locator.locate.Clean := by
  have hmissing : Query.Clean
      (do Query.report .rootMissing; return none : Query World (Option String)) :=
    .bind (.report .nil) fun _ _ => .pure .none
  refine .bind (clean_find h.1) fun root hroot => ?_
  split
  · exact hmissing
  · exact hmissing
  · refine .bind (clean_buildRoot h hroot.of_some) fun buildRoot hbuildRoot => ?_
    cases buildRoot with
    | none => exact .pure .none
    | some buildRoot => exact clean_databaseIn hbuildRoot.of_some

end DatabaseLocator

/-! ## Entries -/

instance : Textual Entry := ⟨fun e => EscapeFree e.file ∧ EscapeFree e.directory ∧
  EscapeFree e.command ∧ EscapeFree e.arguments⟩

namespace Entry

theorem escapeFree_words {value : Json} (h : EscapeFree value) : EscapeFree (words value) := by
  cases h with
  | arr hitems => exact .some (.map _ fun item hitem => Json.escapeFree_display (hitems item hitem))
  | _ => exact .none

theorem escapeFree_ofJson {document : Json} (h : EscapeFree document) :
    EscapeFree (ofJson document) := by
  unfold ofJson
  split
  · refine .ok ⟨(Json.escapeFree_text? h _).getD (by decide),
      (Json.escapeFree_text? h _).getD (by decide), Json.escapeFree_text? h _, fun words hwords => ?_⟩
    obtain ⟨value, hvalue, hwords⟩ := Option.bind_eq_some_iff.1 hwords
    exact escapeFree_words (Json.escapeFree_member? h _ value hvalue) words hwords
  · exact .error (.string_append (.literal rfl) (Json.escapeFree_kind _))

end Entry

namespace Database

theorem escapeFree_ofJson {document : Json} (h : EscapeFree document) :
    EscapeFree (ofJson document) := by
  unfold ofJson
  split
  · exact .nil
  · cases h with
    | arr hitems => exact .except_mapM fun item hitem => Entry.escapeFree_ofJson (hitems item hitem)
  · exact .error (.string_append (.literal rfl) (Json.escapeFree_kind _))

theorem clean_read (path : String) : (read path).Clean := by
  refine fun w hw => .silent (Files.escapeFree_text_bind hw path fun s hs => .ite .nil ?_)
  exact .except_bind (Files.escapeFree_document hs) fun _ => escapeFree_ofJson

/-! ## Resolution -/

variable {path file : String} {entries : List Entry}

theorem clean_load (hpath : EscapeFree path) : (load path).Clean := by
  refine .recover (.map (clean_read path) fun _ => .some) fun failure hfailure =>
    .ite (.fail hfailure) ?_
  exact .bind (.report (.cons hpath (.singleton hfailure))) fun _ _ => .pure .none

theorem escapeFree_headerEntry? (h : EscapeFree entries) (header : String) :
    EscapeFree ( headerEntry? header entries) := by
  have hwhere (condition : Entry → Bool) : EscapeFree (firstWhere? condition entries) :=
    h.find? _
  exact .or (.findSome? fun _ _ => hwhere _) (.or (.findSome? fun _ _ => hwhere _)
    (.or (hwhere _) (hwhere _)))

theorem escapeFree_lookup (hfile : EscapeFree file) (h : EscapeFree entries) :
    EscapeFree (lookup file entries) := by
  have hheader := escapeFree_headerEntry? h file
  have hcode : EscapeFree ( codeEntry? file entries) := h.find? _
  unfold lookup searchHeader searchCode
  split
  · split
    · next e he => exact .silent (.ok (EscapeFree.some (hheader e he)))
    · exact ⟨.ok .none, .singleton (.singleton hfile)⟩
  · split
    · next e he => exact .silent (.ok (EscapeFree.some (hcode e he)))
    · exact ⟨.ok .none, .singleton (.singleton hfile)⟩

theorem clean_entryIn (hpath : EscapeFree path) (hfile : EscapeFree file) :
    (entryIn path file).Clean := by
  refine .bind (.view fun _ _ => trivial) fun _ _ => .ite ?_ ?_
  · refine .bind (clean_load hpath) fun entries hentries => ?_
    match entries, hentries with
    | none, _ => exact .pure .none
    | some [], _ => exact .bind (.report (.singleton hpath)) fun _ _ => .pure .none
    | some (e :: rest), hentries => exact fun _ _ => escapeFree_lookup hfile hentries.of_some
  · exact .bind (.report (.singleton hpath)) fun _ _ => .pure .none

theorem clean_entryFor {locate : Query World (Option String)} (hlocate : locate.Clean)
    {file : Option String} (hfile : EscapeFree file) : (entryFor locate file).Clean := by
  refine .bind (.lift (escapeFree_requireArgument hfile (by decide))) fun file hfile => ?_
  refine .bind hlocate fun path hpath => ?_
  split
  · exact .pure .none
  · exact .pure .none
  · exact clean_entryIn hpath.of_some hfile

end Database
end CompileCommands
