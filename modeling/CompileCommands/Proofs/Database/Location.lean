/-
  Where a database is located.

  * `DatabaseLocator.locateBy`: the location by any settings and any active configuration;
  * `locate_eq_locateBy`: with a given root, they are the ones of the workspace;
  * `databasePath`, `databaseIn_apply`: where the database in a build root is looked for;
  * `isFile_of_locateBy`: what is located is a file;
  * `result_locateBy_congr`: all that counts are their results.
-/
import CompileCommands.Database.Location
import CompileCommands.Proofs.Workspace.Settings

namespace CompileCommands

namespace DatabaseLocator

variable {locator : DatabaseLocator} {root : String} {w : World}

/-- The build root by settings that may be missing. -/
def buildRootBy (locator : DatabaseLocator) (root active : String) :
    Option Settings.Found → Query World (Option String)
  | some found => locator.configuredBuildRoot root active found
  | none => return some (defaultBuildRoot root active)

theorem buildRootBy_some (active : String) (found : Settings.Found) :
    locator.buildRootBy root active (some found) =
      locator.configuredBuildRoot root active found := rfl

/-- The path of the database, by settings and an active configuration that may come from
    anywhere. -/
def locateBy (locator : DatabaseLocator) (root : String)
    (settings : Query World (Option Settings.Found)) (active : Query World String) :
    Query World (Option String) := do
  let found ← settings
  let active ← active
  match ← locator.buildRootBy root active found with
  | none => return none
  | some buildRoot => databaseIn buildRoot

theorem locate_eq_locateBy (hlocator : locator.root = .fixed (some root)) (hroot : root ≠ "") :
    locator.locate = locator.locateBy root (Settings.load (some root))
      (ActiveConfiguration.name (some root) locator.defaultConfiguration) := by
  unfold locate locateBy buildRoot
  rw [hlocator, RootSource.find, pure_bind]
  split
  · contradiction
  · next heq => exact absurd (Option.some.inj heq) hroot
  · next heq =>
    cases heq
    rw [bind_assoc]
    refine bind_congr fun found => ?_
    rw [bind_assoc]
    refine bind_congr fun active => ?_
    cases found with
    | some found => rfl
    | none => rfl

/-- The path of the database in a build root. -/
def databasePath (w : World) (buildRoot : String) : String :=
  w.absolute (Path.join buildRoot Database.fileName)

theorem databaseIn_apply (buildRoot : String) : databaseIn buildRoot w =
    if w.isFile (databasePath w buildRoot) then
      ⟨.ok (some (databasePath w buildRoot)), [.databaseFound (databasePath w buildRoot)]⟩
    else ⟨.ok none, [.databaseMissing (databasePath w buildRoot)]⟩ := by
  rw [databaseIn, Query.view_bind, Query.view_bind, databasePath]
  split
  · rfl
  · rfl

theorem result_databaseIn (buildRoot : String) : ∃ path,
    (databaseIn buildRoot w).result = .ok (if w.isFile path then some path else none) := by
  refine ⟨databasePath w buildRoot, ?_⟩
  rw [databaseIn_apply]
  split
  · rfl
  · rfl

variable {settings : Query World (Option Settings.Found)} {active : Query World String}

/-- A database is located only where a file is. -/
theorem isFile_of_locateBy {path : String}
    (h : (locator.locateBy root settings active w).result = .ok (some path)) :
    w.isFile path := by
  obtain ⟨found, -, h⟩ := Query.result_bind_eq_ok_iff.1 h
  obtain ⟨active, -, h⟩ := Query.result_bind_eq_ok_iff.1 h
  obtain ⟨buildRoot, -, h⟩ := Query.result_bind_eq_ok_iff.1 h
  cases buildRoot with
  | none => cases h
  | some buildRoot =>
    obtain ⟨path', hpath'⟩ := result_databaseIn (w := w) buildRoot
    rw [hpath'] at h
    split at h
    · next hfile =>
      cases h
      exact hfile
    · cases h

theorem result_locateBy_congr {settings' : Query World (Option Settings.Found)}
    {active' : Query World String} (hsettings : (settings w).result = (settings' w).result)
    (hactive : (active w).result = (active' w).result) :
    (locator.locateBy root settings active w).result =
      (locator.locateBy root settings' active' w).result := by
  unfold locateBy
  simp only [Query.result_bind, hsettings, hactive]

end DatabaseLocator

end CompileCommands
