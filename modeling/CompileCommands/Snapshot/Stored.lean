/-
  What is kept of a captured environment.

  * `Environment`: names with values, in order;
  * `Snapshot.Metadata`: the parameters, the script's time of change and the time of capture;
  * `Snapshot.Stored`: an environment with its metadata;
  * `Content`: what a file holds: octets, a stored snapshot, or the remains of one;
  * `Content.snapshot`: reading a snapshot back.
-/
import CompileCommands.Failure
import CompileCommands.Text.Utf8

namespace CompileCommands

open Text (Bytes)

/-- Environment variables, in order. -/
abbrev Environment := Bindings String

namespace Snapshot

/-- When, and of what, a snapshot was captured. Times are in seconds. -/
structure Metadata where
  /-- The parameters of the bootstrap script. -/
  params : String
  /-- When the bootstrap script was last changed. -/
  scriptModified : Rat
  /-- When the snapshot was stored. -/
  captured : Rat
  deriving DecidableEq

/-- A snapshot with its metadata. -/
structure Stored where
  metadata : Metadata
  environment : Environment
  deriving DecidableEq

end Snapshot

/-- What a file holds. -/
inductive Content where
  /-- Octets. -/
  | bytes (data : Bytes)
  /-- A stored snapshot. -/
  | snapshot (stored : Snapshot.Stored)
  /-- Something that looks like a snapshot and is none. -/
  | damaged (error : SnapshotError)
  deriving DecidableEq

namespace Content

/-- The octets of a file. A snapshot has a binary form that no text reader accepts. -/
def bytes? : Content → Option Bytes
  | bytes data => some data
  | snapshot _ | damaged _ => none

/-- The snapshot that a file holds. -/
def toSnapshot : Content → Except SnapshotError Snapshot.Stored
  | snapshot stored => .ok stored
  | bytes [] => .error .empty
  | bytes (_ :: _) => .error .garbled
  | damaged error => .error error

/-- What is left when the end of a file is lost. -/
def truncated : Content → Content
  | bytes data => bytes (data.take (data.length - 5))
  | snapshot _ | damaged _ => damaged .garbled

end Content
end CompileCommands
