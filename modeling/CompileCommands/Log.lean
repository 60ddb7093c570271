/-
  What a computation reports beside its answer.

  * `Log.Area`, `Log.Level`: who reports, and how gravely;
  * `Log.Event`: everything that is ever reported, with its data;
  * `Log.Event.text`: the wording, given how a failure is worded.
-/
import CompileCommands.Failure

namespace CompileCommands.Log

/-- How grave a report is. -/
inductive Level where
  /-- For information. -/
  | info
  /-- Something went wrong and was absorbed. -/
  | warning
  deriving DecidableEq, Repr

/-- The part of the library that reports. -/
inductive Area where
  /-- Expansion of macros. -/
  | macros
  /-- Build settings of a workspace. -/
  | buildSettings
  /-- The active configuration of a workspace. -/
  | activeConfiguration
  /-- Location of the compilation database. -/
  | databaseLocation
  /-- Look-up of entries. -/
  | entryLookup
  /-- Capture of the toolchain environment. -/
  | toolchain
  /-- Stored snapshots. -/
  | snapshotStore
  deriving DecidableEq, Repr

/-- A report. -/
inductive Event where
  /-- A macro of a template has no value. -/
  | macroUnresolved (token template : String)
  /-- Build settings cannot be read. -/
  | settingsUnreadable (path : String) (cause : Failure)
  /-- The active configuration cannot be read. -/
  | activeUnreadable (path : String) (cause : Failure)
  /-- The file of the active configuration holds no object. -/
  | activeMalformed (path found : String)
  /-- There is no workspace root. -/
  | rootMissing
  /-- The active configuration is not among the build settings. -/
  | configurationMissing (configuration : String)
  /-- A configuration has no build root. -/
  | buildRootMissing (configuration : String)
  /-- The build root of a configuration has no value. -/
  | buildRootUnresolved (template configuration : String)
  /-- The database is there. -/
  | databaseFound (path : String)
  /-- The database is not there. -/
  | databaseMissing (path : String)
  /-- The database was located, but is not there any more. -/
  | databaseVanished (path : String)
  /-- The database has no entries. -/
  | databaseEmpty (path : String)
  /-- The database cannot be read. -/
  | databaseUnreadable (path : String) (cause : Failure)
  /-- No entry is for the file. -/
  | entryMissing (file : String)
  /-- No entry serves the header. -/
  | headerEntryMissing (file : String)
  /-- The bootstrap script is not there. -/
  | scriptMissing (path : String)
  /-- The bootstrap did not finish in time. -/
  | captureTimedOut (milliseconds : Int)
  /-- The bootstrap printed no settings. -/
  | captureEmpty
  /-- The bootstrap failed. -/
  | captureFailed (cause : Failure)
  /-- A process did not end when it was killed. -/
  | processLingers (pid : Nat)
  /-- The directory of stored snapshots cannot be made. -/
  | storeUnavailable (path : String) (cause : Failure)
  /-- A snapshot cannot be stored. -/
  | saveFailed (path : String) (cause : Failure)
  /-- A stored snapshot cannot be read. -/
  | loadFailed (path : String) (cause : Failure)
  /-- A stored snapshot cannot be looked at or removed. -/
  | cleanupFailed (path : String) (cause : Failure)
  /-- The stored snapshots cannot be listed. -/
  | listingFailed (path : String) (cause : Failure)
  /-- Old snapshots were removed. -/
  | cleanedUp (count : Nat)
  deriving DecidableEq, Repr

namespace Event

/-- Who reports an event. -/
def area : Event → Area
  | macroUnresolved .. => .macros
  | settingsUnreadable .. => .buildSettings
  | activeUnreadable .. | activeMalformed .. => .activeConfiguration
  | rootMissing | configurationMissing .. | buildRootMissing .. | buildRootUnresolved ..
  | databaseFound .. | databaseMissing .. => .databaseLocation
  | databaseVanished .. | databaseEmpty .. | databaseUnreadable .. | entryMissing ..
  | headerEntryMissing .. => .entryLookup
  | scriptMissing .. | captureTimedOut .. | captureEmpty | captureFailed ..
  | processLingers .. => .toolchain
  | storeUnavailable .. | saveFailed .. | loadFailed .. | cleanupFailed .. | listingFailed ..
  | cleanedUp .. => .snapshotStore

/-- How grave an event is. -/
def level : Event → Level
  | macroUnresolved .. | rootMissing | configurationMissing .. | buildRootMissing ..
  | buildRootUnresolved .. | databaseFound .. | databaseMissing .. | databaseVanished ..
  | databaseEmpty .. | entryMissing .. | headerEntryMissing .. | scriptMissing ..
  | cleanedUp .. => .info
  | settingsUnreadable .. | activeUnreadable .. | activeMalformed .. | databaseUnreadable ..
  | captureTimedOut .. | captureEmpty | captureFailed .. | processLingers ..
  | storeUnavailable .. | saveFailed .. | loadFailed .. | cleanupFailed ..
  | listingFailed .. => .warning

/-- The wording of an event; `word` words a failure. -/
def text (word : Failure → String) : Event → String
  | macroUnresolved token template =>
    "Unable to evaluate macro " ++ token ++ " in '" ++ template ++ "'"
  | settingsUnreadable path cause => "Failed to parse " ++ path ++ ": " ++ word cause
  | activeUnreadable path cause =>
    "Failed to read project settings " ++ path ++ ": " ++ word cause
  | activeMalformed path found =>
    "Unexpected project settings format in " ++ path ++ ": expected object, got " ++ found
  | rootMissing => "Unable to locate the compilation database: no workspace root directory"
  | configurationMissing configuration =>
    "Build configuration '" ++ configuration ++ "' was not found in CMakeSettings.json"
  | buildRootMissing configuration =>
    "Build configuration '" ++ configuration ++ "' in CMakeSettings.json has no buildRoot"
  | buildRootUnresolved template configuration =>
    "Unable to evaluate buildRoot '" ++ template ++ "' of build configuration '" ++
      configuration ++ "'"
  | databaseFound path => "Found compilation database file: " ++ path
  | databaseMissing path | databaseVanished path =>
    "Compilation database file not found: " ++ path
  | databaseEmpty path => "Compilation database file is empty: " ++ path
  | databaseUnreadable path cause =>
    "Failed to read compilation database file " ++ path ++ ": " ++ word cause
  | entryMissing file => "No compilation database entry found for file: " ++ file
  | headerEntryMissing file => "No compilation database entry found for header file: " ++ file
  | scriptMissing path => "Toolchain bootstrap script not found: " ++ path
  | captureTimedOut milliseconds =>
    "Timed out after " ++ toString milliseconds ++
      "ms waiting for the toolchain bootstrap script to finish"
  | captureEmpty =>
    "No environment settings were captured from the toolchain bootstrap script"
  | captureFailed cause => "Failed to capture the toolchain environment: " ++ word cause
  | processLingers pid =>
    "Toolchain bootstrap process " ++ toString pid ++ " did not exit after kill"
  | storeUnavailable path cause =>
    "Failed to create cache directory " ++ path ++ ": " ++ word cause
  | saveFailed path cause => "Failed to save cache " ++ path ++ ": " ++ word cause
  | loadFailed path cause =>
    "Failed to load cache " ++ path ++ ": " ++ word cause ++ ", capturing again"
  | cleanupFailed path cause => "Failed to process cache file " ++ path ++ ": " ++ word cause
  | listingFailed path cause => "Failed to list cache directory " ++ path ++ ": " ++ word cause
  | cleanedUp count => "Cleaned up " ++ toString count ++ " old cache file(s)"

end Event
end CompileCommands.Log
