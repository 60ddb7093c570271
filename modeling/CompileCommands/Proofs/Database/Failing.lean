/-
  How the search for a database and for its entries fails.

  * `failsOnly_requireArgument`: a missing argument is a failure of the library's own;
  * `Query.FailsOnly.recover_absorb`: what is let through is of the same kind as before;
  * `Settings.failsOnly_contents`, `Database.failsOnly_contents` and so on: documents that cannot be
    read;
  * `DatabaseLocator.failsOnly_locate`, `Database.failsOnly_entryFor`: the whole search fails only
    as the world admits.
-/
import CompileCommands.Proofs.Database.Resolution
import CompileCommands.Proofs.Workspace.Repository
import CompileCommands.Proofs.World.Failing

namespace CompileCommands

variable {w : World}

theorem failsOnly_requireArgument (value : Option String) (name : String) :
    FailsOnly Failure.IsOwn (requireArgument value name) := by
  unfold requireArgument
  split
  · exact .error rfl
  · exact .error rfl
  · exact .ok _

theorem Query.FailsOnly.recover_absorb {σ α : Type} {P : Failure → Prop} {q : Query σ (Option α)}
    {s : σ} (h : q.FailsOnly P s) (event : Failure → Log.Event) :
    (Query.recover q fun failure =>
      if failure.isCritical then Query.fail failure
      else do
        Query.report (event failure)
        return none).FailsOnly P s :=
  .recover h fun _ hfailure => .ite (.fail hfailure) (.bind (.report _) fun _ => .pure _)

/-! ## Documents -/

theorem Files.failsOnly_readDocument (w : World) (path : String) :
    CompileCommands.FailsOnly w.Admits (text w path >>= document) :=
  failsOnly_readJson w path

namespace Settings

theorem failsOnly_ofJson (document : Json) : FailsOnly Failure.IsOwn (ofJson document) := by
  unfold ofJson
  split
  · split
    · exact .ok _
    · exact .ok _
    · exact .ok _
    · exact .error trivial
  · exact .error trivial

theorem failsOnly_contents (w : World) (root : String) : FailsOnly w.Admits (contents w root) :=
  .bind (Files.failsOnly_readDocument w _) fun _ => (failsOnly_ofJson _).admits w

theorem failsOnly_load (w : World) (root : Option String) : (load root).FailsOnly w.Admits w := by
  refine .bind (.lift ((failsOnly_requireArgument _ _).admits w)) fun root => ?_
  refine .bind (.view _) fun file => .bind (.view _) fun there => .ite ?_ (.pure _)
  refine .recover_absorb (.bind (Files.failsOnly_readJson w file) fun document => ?_) _
  refine .bind (.lift ((failsOnly_ofJson document).admits w)) fun settings => ?_
  exact .bind (.view _) fun descriptor => .pure _

end Settings

namespace ActiveConfiguration

theorem failsOnly_contents (w : World) (root : String) : FailsOnly w.Admits (contents w root) :=
  Files.failsOnly_readDocument w _

theorem failsOnly_chosen (w : World) (file place : String) :
    (chosen file place).FailsOnly w.Admits w := by
  refine .bind (.recover_absorb (.map (Files.failsOnly_readJson w place) _) _) fun document => ?_
  cases document with
  | none => exact .pure _
  | some document =>
    cases document with
    | obj members => exact .pure _
    | _ => exact .bind (.report _) fun _ => .pure _

theorem failsOnly_name (w : World) (root : Option String) (default : String) :
    (name root default).FailsOnly w.Admits w := by
  refine .bind (.lift ((failsOnly_requireArgument _ _).admits w)) fun root => ?_
  refine .bind (.view _) fun place => .bind (.view _) fun there => .ite ?_ (.pure _)
  refine .bind (failsOnly_chosen w _ place) fun choice => ?_
  split <;> exact .pure _

end ActiveConfiguration

/-! ## Locations -/

theorem Repository.failsOnly_find? (w : World) (start : String) :
    (find? start).FailsOnly w.Admits w := by
  intro failure hfailure
  rw [find?_apply] at hfailure
  split at hfailure
  · cases hfailure
  · next fault _ hfault =>
    cases hfailure
    exact w.faultsAre_admits _ _ _ hfault
  · cases hfailure

theorem WorkspaceRoot.failsOnly_find? (w : World) (path : String) :
    (find? path).FailsOnly w.Admits w := by
  refine .bind (.view _) fun start => .bind (Repository.failsOnly_find? w _) fun repository => ?_
  cases repository with
  | none => exact .pure _
  | some repository =>
    exact .bind (.view _) fun _ => .bind (.view _) fun _ => .bind (.view _) fun _ => .pure _

theorem RootSource.failsOnly_find (w : World) (source : RootSource) :
    source.find.FailsOnly w.Admits w := by
  cases source with
  | fixed root => exact .pure _
  | repository start => exact .bind (WorkspaceRoot.failsOnly_find? w start) fun _ => .pure _

namespace DatabaseLocator

theorem failsOnly_evaluate (locator : DatabaseLocator) (w : World) (ctx : Macro.Context)
    (template : String) :
    Query.FailsOnly w.Admits
      (fun w => Macro.evaluate locator.usesProcess (locator.source w) ctx template) w := by
  unfold Query.FailsOnly Macro.evaluate
  dsimp only
  split
  · exact .error (.inl trivial)
  · rw [Macro.result_expand]
    exact .ok _

theorem failsOnly_configuredBuildRoot (locator : DatabaseLocator) (w : World)
    (root active : String) (found : Settings.Found) :
    (configuredBuildRoot locator root active found).FailsOnly w.Admits w := by
  unfold configuredBuildRoot
  split
  · exact .bind (.report _) fun _ => .pure _
  · split
    · exact .bind (.report _) fun _ => .pure _
    · exact .bind (.report _) fun _ => .pure _
    · refine .bind (failsOnly_evaluate locator w _ _) fun expanded => ?_
      split
      · exact .bind (.report _) fun _ => .pure _
      · exact .bind (.report _) fun _ => .pure _
      · exact .view _

theorem failsOnly_buildRoot (locator : DatabaseLocator) (w : World) (root : String) :
    (locator.buildRoot root).FailsOnly w.Admits w := by
  refine .bind (Settings.failsOnly_load w _) fun found =>
    .bind (ActiveConfiguration.failsOnly_name w _ _) fun active => ?_
  cases found with
  | none => exact .pure _
  | some found => exact failsOnly_configuredBuildRoot locator w root active found

theorem failsOnly_databaseIn (w : World) (buildRoot : String) :
    (databaseIn buildRoot).FailsOnly w.Admits w := by
  refine .bind (.view _) fun path => .bind (.view _) fun there => ?_
  exact .ite (.bind (.report _) fun _ => .pure _) (.bind (.report _) fun _ => .pure _)

theorem failsOnly_locate (locator : DatabaseLocator) (w : World) :
    locator.locate.FailsOnly w.Admits w := by
  refine .bind (RootSource.failsOnly_find w _) fun root => ?_
  split
  · exact .bind (.report _) fun _ => .pure _
  · exact .bind (.report _) fun _ => .pure _
  · refine .bind (failsOnly_buildRoot locator w _) fun buildRoot => ?_
    cases buildRoot with
    | none => exact .pure _
    | some buildRoot => exact failsOnly_databaseIn w buildRoot

end DatabaseLocator

/-! ## Entries -/

theorem Entry.failsOnly_ofJson (document : Json) : FailsOnly Failure.IsOwn (ofJson document) := by
  unfold ofJson
  split
  · exact .ok _
  · exact .error trivial

namespace Database

theorem failsOnly_ofText (s : List Char) : FailsOnly Failure.IsOwn (ofText s) := by
  unfold ofText
  split
  · exact .ok []
  · refine .bind (Files.failsOnly_document s) fun document => ?_
    unfold ofJson
    split
    · exact .ok []
    · exact .mapM Entry.failsOnly_ofJson _
    · exact .error trivial

theorem failsOnly_contents (w : World) (path : String) : FailsOnly w.Admits (contents w path) :=
  .bind (Files.failsOnly_text w path) fun s => (failsOnly_ofText s).admits w

theorem failsOnly_load (w : World) (path : String) : (load path).FailsOnly w.Admits w := by
  have hread : (read path).FailsOnly w.Admits w := failsOnly_contents w path
  exact .recover_absorb (.map hread _) _

theorem failsOnly_lookup (w : World) (file : String) (entries : List Entry) :
    Query.FailsOnly w.Admits (fun _ : World => lookup file entries) w := by
  unfold Query.FailsOnly lookup searchHeader searchCode
  dsimp only
  split
  · split <;> exact .ok _
  · split <;> exact .ok _

theorem failsOnly_entryIn (w : World) (path file : String) :
    (entryIn path file).FailsOnly w.Admits w := by
  refine .bind (.view _) fun there => .ite (.bind (failsOnly_load w path) fun entries => ?_)
    (.bind (.report _) fun _ => .pure _)
  rcases entries with - | - | ⟨e, entries⟩
  · exact .pure _
  · exact .bind (.report _) fun _ => .pure _
  · exact failsOnly_lookup w file (e :: entries)

theorem failsOnly_entryFor {locate : Query World (Option String)}
    (hlocate : locate.FailsOnly w.Admits w) (file : Option String) :
    (entryFor locate file).FailsOnly w.Admits w := by
  refine .bind (.lift ((failsOnly_requireArgument _ _).admits w)) fun file =>
    .bind hlocate fun path => ?_
  split
  · exact .pure _
  · exact .pure _
  · exact failsOnly_entryIn w _ file

end Database
end CompileCommands
