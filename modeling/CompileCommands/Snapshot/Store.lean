/-
  Snapshots kept on disk.

  * `Snapshot.path`: where the snapshot for parameters lies below a directory;
  * `Snapshot.isValid`: a snapshot still serves: same parameters, unchanged script, young enough;
  * `Snapshot.save`: writes beside the old snapshot first and then puts the new one in its
    place, so that the old one stays if anything fails;
  * `Snapshot.load`: the stored environment, if it still serves; what cannot be read is removed;
  * `Snapshot.cleanup`: removes snapshots that are older than a limit, and counts them.

  Errors of file access are absorbed with a report; other failures go on to the caller.
-/
import CompileCommands.Digest.Identifier
import CompileCommands.World.Files

namespace CompileCommands.Snapshot

/-! ## Places -/

/-- The directory of stored snapshots below another. -/
def storePath (base : String) : String :=
  Path.join base ".compdb_cache"

/-- How the name of a stored snapshot begins. -/
def fileStart : String := "toolchain_env_"

/-- How the name of a stored snapshot ends. -/
def fileEnd : String := ".pickle"

/-- The parameters of a snapshot; missing ones are empty. -/
def paramsOf (params : Option String) : String := params.getD ""

/-- Refuses parameters that have no form in UTF-8: there is no name of a snapshot for them. -/
def requireName (params : Option String) : Except Failure Unit :=
  requireEncoded (Text.utf8Error? (paramsOf params))

/-- The name of the snapshot for parameters that have a form in UTF-8. -/
def fileName (params : Option String) : String :=
  fileStart ++ digestKey (paramsOf params) ++ fileEnd

/-- The path of the snapshot for parameters. -/
def path (base : String) (params : Option String) : String :=
  Path.join (storePath base) (fileName params)

/-- The path at which a snapshot is written first. -/
def temporaryPath (base : String) (params : Option String) : String :=
  path base params ++ ".tmp"

/-- The name is that of a stored snapshot. -/
def isStoredName (name : String) : Bool :=
  fileStart.toList.isPrefixOf name.toList && fileEnd.toList.isSuffixOf name.toList

/-- Makes the directory of stored snapshots, if there is nothing at its path. -/
def ensureStore (base : String) : Action World String := do
  let store := storePath base
  if ← Action.view (·.exists? store) then return store
  else
    Files.recover (Files.makeDirectories store) fun failure =>
      Action.report (.storeUnavailable store failure)
    return store

/-! ## Validity -/

/-- The seconds in an hour. -/
def hour : Rat := 3600

/-- The time since the capture, in hours. -/
def Metadata.age (m : Metadata) (w : World) : Rat :=
  w.rounding (w.rounding (w.clock - m.captured) / hour)

/-- The snapshot is young enough. -/
def Metadata.isRecent (m : Metadata) (limit : Option Rat) (w : World) : Bool :=
  match limit with
  | none => true
  | some hours => m.age w ≤ hours

/-- A snapshot still serves for parameters and a script, within a limit in hours. -/
def isValid (m : Metadata) (params : Option String) (script : String) (limit : Option Rat) :
    Query World Bool := do
  if m.params ≠ paramsOf params then return false
  else if ← Query.view (·.exists? script) then
    let modified ← Files.modified script
    if modified ≠ m.scriptModified then return false
    else Query.view (m.isRecent limit)
  else return false

/-! ## Saving -/

/-- Writes a snapshot in place of the stored one. -/
def store (base : String) (params : Option String) (environment : Environment)
    (script : String) : Action World Unit := do
  let modified ← Action.ask id (Files.modified script)
  let now ← Action.view (·.clock)
  Files.write (temporaryPath base params)
    (.snapshot ⟨⟨paramsOf params, modified, now⟩, environment⟩)
  Files.replace (temporaryPath base params) (path base params)

/-- Removes a file if it can be removed. -/
def discard (path : String) : Action World Unit :=
  Files.recover (Files.remove path) fun _ => return ()

/-- Stores a snapshot, and tells whether that succeeded. -/
def save (base : String) (params : Option String) (environment : Environment)
    (script : String) : Action World Bool := do
  let _ ← ensureStore base
  Files.recover
    (do
      store base params environment script
      return true)
    fun failure => do
      Action.report (.saveFailed (path base params) failure)
      if ← Action.view (·.exists? (temporaryPath base params)) then
        discard (temporaryPath base params)
      return false

/-! ## Loading -/

/-- The failure means that a stored snapshot is of no use. -/
def isUnreadable : Failure → Bool
  | .file _ => true
  | .snapshot error => error.isDamage
  | _ => false

/-- Reads a stored snapshot. -/
def read (path : String) : Query World Stored := do
  let content ← Files.read path
  Query.lift (content.toSnapshot.mapError .snapshot)

/-- The environment of a stored snapshot, if it still serves. -/
def readValid (path : String) (params : Option String) (script : String)
    (limit : Option Rat) : Query World (Option Environment) := do
  let stored ← read path
  if ← isValid stored.metadata params script limit then return some stored.environment
  else return none

/-- The stored environment for parameters, if it still serves. -/
def load (base : String) (params : Option String) (script : String) (limit : Option Rat) :
    Action World (Option Environment) := do
  let file := path base params
  if ← Action.view (·.exists? file) then
    Action.recover (Action.ask id (readValid file params script limit)) fun failure =>
      if isUnreadable failure then do
        Action.report (.loadFailed file failure)
        discard file
        return none
      else Action.fail failure
  else return none

/-! ## Cleaning up -/

/-- A time lies more than so many hours back. -/
def isOlder (modified limit : Rat) (w : World) : Bool :=
  w.rounding (limit * hour) < w.rounding (w.clock - modified)

/-- Removes a file that was last changed more than so many hours ago, and tells whether it
    did. -/
def removeIfOld (path : String) (limit : Rat) : Action World Bool := do
  let modified ← Action.ask id (Files.modified path)
  if ← Action.view (isOlder modified limit) then
    Files.remove path
    return true
  else return false

/-- Removes those of some files that are too old, and counts them. An error in the access to one
    is reported and does not stop the rest. -/
def removeOld (limit : Rat) : List String → Action World Nat
  | [] => return 0
  | path :: rest => do
    let removed ← Files.recover (removeIfOld path limit) fun failure => do
      Action.report (.cleanupFailed path failure)
      return false
    return (← removeOld limit rest) + removed.toNat

/-- The paths of the snapshots in a directory. -/
def stored (store : String) : Query World (List String) := do
  let names ← Files.list store
  return (names.filter isStoredName).map (Path.join store)

/-- Removes stored snapshots that were last changed more than so many hours ago, and counts
    them. -/
def cleanup (base : String) (limit : Rat) : Action World Nat := do
  let store := storePath base
  if ← Action.view (·.exists? store) then
    let paths ← Files.recover (Action.ask id (stored store)) fun failure => do
      Action.report (.listingFailed store failure)
      return []
    let count ← removeOld limit paths
    if count ≠ 0 then Action.report (.cleanedUp count)
    return count
  else return 0

end CompileCommands.Snapshot
