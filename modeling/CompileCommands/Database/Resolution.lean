/-
  From a file to its entry.

  * `Database.load`: the entries of a located database; one that cannot be read counts as none,
    with a report, unless the failure is critical;
  * `Database.entryFor`: the entry to use for a file, with the database wherever it is.
-/
import CompileCommands.Database.Location
import CompileCommands.Database.Lookup

namespace CompileCommands.Database

/-- The entries of the database at a path. -/
def load (path : String) : Query World (Option (List Entry)) :=
  Query.recover (some <$> read path) fun failure =>
    if failure.isCritical then Query.fail failure
    else do
      Query.report (.databaseUnreadable path failure)
      return none

/-- The entry for a file in the database at a path. -/
def entryIn (path file : String) : Query World (Option Entry) := do
  if ← Query.view (·.isFile path) then
    match ← load path with
    | none => return none
    | some [] =>
      Query.report (.databaseEmpty path)
      return none
    | some entries => fun _ => lookup file entries
  else
    Query.report (.databaseVanished path)
    return none

/-- The entry for a file in the database that `locate` finds. -/
def entryFor (locate : Query World (Option String)) (file : Option String) :
    Query World (Option Entry) := do
  let file ← Query.lift (requireArgument file "file_path")
  match ← locate with
  | none | some "" => return none
  | some path => entryIn path file

end CompileCommands.Database
