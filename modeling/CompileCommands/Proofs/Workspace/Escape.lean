/-
  Workspaces without escape characters.

  * `Settings.clean_load`, `ActiveConfiguration.clean_name`: the build settings and the active
    configuration of a workspace have none, since their files have none;
  * `WorkspaceRoot.clean_find?`: nor has the root of a workspace, since the way there is made of
    names of the world.
-/
import CompileCommands.Proofs.Workspace.Repository
import CompileCommands.Proofs.World.Escape
import CompileCommands.Workspace.ActiveConfiguration

namespace CompileCommands

open Text

open CompileCommands.Path (Lexical)

variable {root : Option String}

theorem escapeFree_requireArgument (h : EscapeFree root) {name : String} (hname : EscapeFree name) :
    EscapeFree (requireArgument root name) := by
  have hempty : EscapeFree (.error (.tool (.emptyArgument name)) : Except Failure String) :=
    hname.string_append (.literal rfl)
  unfold requireArgument
  split
  · exact hempty
  · exact hempty
  · exact h.of_some

/-! ## Build settings -/

instance : Textual Configuration := ⟨fun c =>
  EscapeFree c.name ∧ EscapeFree c.buildRoot ∧ EscapeFree c.generator⟩

namespace Settings

instance : Textual Found := ⟨fun found =>
  EscapeFree found.settings ∧ EscapeFree found.settingsFile ∧ EscapeFree found.descriptor⟩

theorem escapeFree_ofItem {item : Json} (h : EscapeFree item) : EscapeFree (ofItem item) := by
  unfold ofItem
  split
  · exact .some ⟨(Json.escapeFree_text? h _).getD (by decide), Json.escapeFree_text? h _,
      Json.escapeFree_text? h _⟩
  · exact .none

theorem escapeFree_ofJson {document : Json} (h : EscapeFree document) :
    EscapeFree (ofJson document) := by
  unfold ofJson
  split
  · next members =>
    split
    · exact .nil
    · exact .nil
    · next items hitems =>
      intro configuration hconfiguration
      obtain ⟨item, hitem, hconfiguration⟩ := List.mem_filterMap.1 hconfiguration
      cases Json.escapeFree_member? h "configurations" _ hitems with
      | arr hfree => exact escapeFree_ofItem (hfree item hitem) configuration hconfiguration
    · exact .error (.string_append (.literal rfl) (Json.escapeFree_kind _))
  · exact .error (.string_append (.literal rfl) (Json.escapeFree_kind _))

theorem clean_load (h : EscapeFree root) : (load root).Clean := by
  refine .bind (.lift (escapeFree_requireArgument h (by decide))) fun root hroot => ?_
  have hbeside {name : String} (hname : EscapeFree name) :
      (Query.view fun w : World => w.absolute (Path.join root name)).Clean :=
    .view fun _ hw => hw.absolute (hroot.path_join hname)
  refine .bind (hbeside (by decide)) fun file hfile => ?_
  refine .bind (.view fun _ _ => trivial) fun _ _ => .ite ?_ (.pure .none)
  refine .recover ?_ fun failure hfailure => .ite (.fail hfailure) ?_
  · refine .bind (Files.clean_readJson file) fun document hdocument => ?_
    refine .bind (.lift (escapeFree_ofJson hdocument)) fun settings hsettings => ?_
    exact .bind (hbeside (by decide)) fun _ hdescriptor =>
      .pure (.some ⟨hsettings, hfile, hdescriptor⟩)
  · exact .bind (.report (.cons hfile (.singleton hfailure))) fun _ _ => .pure .none

end Settings

/-! ## The active configuration -/

namespace ActiveConfiguration

theorem clean_ofJson {file : String} (hfile : EscapeFree file) {document : Json}
    (h : EscapeFree document) : (ofJson file document).Clean := by
  unfold ofJson
  split
  · exact .pure (Json.escapeFree_text? h _)
  · exact .bind (.report (.cons hfile (.singleton (Json.escapeFree_kind _)))) fun _ _ =>
      .pure .none

theorem clean_chosen {file : String} (hfile : EscapeFree file) (place : String) :
    (chosen file place).Clean := by
  refine .bind (.recover ?_ fun failure hfailure => .ite (.fail hfailure) ?_) fun document h => ?_
  · exact .map (Files.clean_readJson place) fun _ => .some
  · exact .bind (.report (.cons hfile (.singleton hfailure))) fun _ _ => .pure .none
  · cases document with
    | none => exact .pure .none
    | some document => exact clean_ofJson hfile h.of_some

theorem clean_name (h : EscapeFree root) {default : String} (hdefault : EscapeFree default) :
    (name root default).Clean := by
  refine .bind (.lift (escapeFree_requireArgument h (by decide))) fun root hroot => ?_
  have hfile : EscapeFree (path root) :=
    hroot.joinAll (.cons (by decide) (.singleton (by decide)))
  refine .view_bind fun place => .view_bind fun _ => .ite ?_ (.pure hdefault)
  refine .bind (clean_chosen hfile place) fun choice hchoice => ?_
  split
  · exact .pure hdefault
  · exact .pure hdefault
  · exact .pure hchoice.of_some

end ActiveConfiguration

/-! ## The root -/

namespace Repository

theorem clean_find? {start : String} (h : EscapeFree start) : (find? start).Clean := by
  intro w hw
  rw [find?_apply]
  split
  · exact .silent (.ok .none)
  · next failure _ hfault => exact .silent (.error (hw.fault? .repository start failure hfault))
  · have haround : EscapeFree (around? w (w.lexical start)) := (hw.lexical h).selfAndParents.find? _
    exact .silent (.ok (.ite haround .none))

end Repository

namespace WorkspaceRoot

theorem escapeFree_startOf {w : World} (hw : EscapeFree w) {path : String} (h : EscapeFree path) :
    EscapeFree (startOf w path) :=
  .ite (hw.lexical h) (hw.lexical h).parent

theorem upTo_subset (last : Lexical) (directories : List Lexical) :
    upTo last directories ⊆ directories := by
  induction directories with
  | nil => exact List.Subset.refl _
  | cons directory outer ih =>
    rw [upTo]
    refine List.cons_subset_cons _ ?_
    split
    · exact List.nil_subset _
    · exact ih

theorem clean_find? {path : String} (h : EscapeFree path) : (find? path).Clean := by
  refine .bind (.view fun _ hw => escapeFree_startOf hw h) fun start hstart => ?_
  refine .bind (Repository.clean_find? hstart.text) fun repository hrepository => ?_
  cases repository with
  | none => exact .pure .none
  | some repository =>
    have hreal {p : Lexical} (hp : EscapeFree p) :
        (Query.view fun w : World => w.realPath p.text).Clean :=
      .view fun _ hw => hw.realPath hp.text
    refine .bind (hreal hrepository.of_some) fun top htop => ?_
    refine .bind (hreal hstart) fun bottom hbottom => ?_
    have hmarked : (Query.view fun w : World => (walk top bottom).filter (isMarked w)).Clean :=
      .view fun _ _ => hbottom.selfAndParents.subset
        (List.Subset.trans (List.filter_subset_self _) (upTo_subset top bottom.selfAndParents))
    refine .bind hmarked fun marked hmarked => .pure (.some (.getD (fun _ hlast => ?_) htop))
    exact hmarked _ (List.mem_of_getLast? hlast)

end WorkspaceRoot
end CompileCommands
