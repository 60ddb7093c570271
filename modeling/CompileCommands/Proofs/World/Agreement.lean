/-
  Worlds that agree at a path.

  * `World.AgreeAt`: there is the same at a path in two worlds;
  * `AgreeAt.of_place`: what it takes at the place that the path leads to;
  * `World.ReadsAlike`, `SameBut.readsAlike`: it is the same whether a file is at a path, and what
    reading it gives;
  * `Files.content_congr`, `Files.modified_congr`, `Files.fst_remove_congr`: access to the path
    ends alike in both.
-/
import CompileCommands.Proofs.World.Files

namespace CompileCommands

namespace World

/-- There is the same at the path in both worlds. -/
structure AgreeAt (v : World) (path : String) (w : World) : Prop where
  file : w.file? path = v.file? path
  directory : w.isDirectory path = v.isDirectory path

namespace AgreeAt

variable {u v w : World} {path : String}

theorem of_place (halike : v.Alike w)
    (hfile : w.fileAt? (v.locate path) = v.fileAt? (v.locate path))
    (hdirectory : w.isDirectoryAt (v.locate path) = v.isDirectoryAt (v.locate path)) :
    v.AgreeAt path w := by
  constructor
  · rw [file?, file?, halike.locate, hfile]
  · rw [isDirectory, isDirectory, halike.locate, hdirectory]

theorem refl (v : World) (path : String) : v.AgreeAt path v :=
  ⟨rfl, rfl⟩

theorem trans (h : u.AgreeAt path v) (h' : v.AgreeAt path w) : u.AgreeAt path w :=
  ⟨h'.file.trans h.file, h'.directory.trans h.directory⟩

theorem symm (h : v.AgreeAt path w) : w.AgreeAt path v :=
  ⟨h.file.symm, h.directory.symm⟩

theorem tick (h : v.AgreeAt path w) (time : Rat) : v.AgreeAt path { w with clock := time } :=
  h.trans (.of_place ((Alike.refl w).tick time) rfl rfl)

theorem isFile (h : v.AgreeAt path w) : w.isFile path = v.isFile path := by
  rw [World.isFile, World.isFile, h.file]

theorem exists? (h : v.AgreeAt path w) : w.exists? path = v.exists? path := by
  rw [World.exists?, World.exists?, h.isFile, h.directory]

end AgreeAt

theorem isDirectoryAt_congr {v w : World} (h : w.directories = v.directories) (place : Location) :
    w.isDirectoryAt place = v.isDirectoryAt place := by
  rw [isDirectoryAt, isDirectoryAt, h]

/-- Two worlds that differ at most in the file at one place agree at a path to another one. -/
theorem OnlyAt.agreeAt {v w : World} {place : Location} (h : v.OnlyAt place w) {path : String}
    (hpath : v.locate path ≠ place) : v.AgreeAt path w :=
  .of_place h.alike (h.files _ hpath) (isDirectoryAt_congr h.directories _)

end World

namespace Files

open World (Alike AgreeAt)

variable {v w : World} {path : String}

theorem unlessFault_congr {α : Type} (halike : v.Alike w) (call : Call) (path : String)
    (answer : Except Failure α) :
    unlessFault w call path answer = unlessFault v call path answer := by
  rw [unlessFault, unlessFault, halike.fault?]

theorem content_congr (halike : v.Alike w) (h : v.AgreeAt path w) :
    content w path = content v path := by
  rw [content, content, h.file, h.directory, unlessFault_congr halike]

theorem modified_congr (halike : v.Alike w) (h : v.AgreeAt path w) :
    modified path w = modified path v := by
  rw [modified, modified, h.file, h.directory, unlessFault_congr halike]

/-- The time of a file does not depend on the directories. -/
theorem modified_congr_of_isFile (halike : v.Alike w) (h : w.file? path = v.file? path)
    (hfile : v.isFile path) : modified path w = modified path v := by
  obtain ⟨file, hsome⟩ := Option.isSome_iff_exists.1 hfile
  rw [modified, modified, h, hsome, unlessFault_congr halike]

theorem fst_remove_congr (halike : v.Alike w) (h : v.AgreeAt path w) :
    (remove path w).1 = (remove path v).1 := by
  dsimp only [remove, change]
  rw [unlessFault, unlessFault, halike.fault?, h.isFile, h.directory]
  cases v.fault? .remove path with
  | some failure => rfl
  | none =>
    cases v.isFile path with
    | false => rfl
    | true => rfl

end Files

/-! ## Reading -/

namespace World

variable {v w : World} {path : String}

/-- It is the same in both worlds whether a file is at the path, and what reading it gives. -/
structure ReadsAlike (v : World) (path : String) (w : World) : Prop where
  isFile : w.isFile path = v.isFile path
  text : v.isFile path → Files.text w path = Files.text v path

theorem ReadsAlike.readJson (h : v.ReadsAlike path w) (hfile : v.isFile path) :
    Files.readJson path v = Files.readJson path w := by
  rw [Files.readJson, Files.readJson, h.text hfile]

/-- The same for a path that is opened as it was given. The system may take it another way in each
    of the worlds. -/
structure OpensAlike (v : World) (path : String) (w : World) : Prop where
  isFile : w.isFile (w.wayTo path) = v.isFile (v.wayTo path)
  text : v.isFile (v.wayTo path) → Files.text w (w.wayTo path) = Files.text v (v.wayTo path)

theorem ReadsAlike.opensAlike (h : v.ReadsAlike (v.wayTo path) w)
    (hway : w.wayTo path = v.wayTo path) : v.OpensAlike path w := by
  constructor
  · rw [hway, h.isFile]
  · intro hfile
    rw [hway, h.text hfile]

/-- Nothing is at a path that leads nowhere. -/
theorem OpensAlike.of_nowhere (hv : v.wayTo path = "") (hw : w.wayTo path = "") :
    v.OpensAlike path w := by
  constructor
  · rw [hv, hw]
    rfl
  · rw [hv]
    exact fun hfile => Bool.noConfusion hfile

theorem OpensAlike.readJson (h : v.OpensAlike path w) (hfile : v.isFile (v.wayTo path)) :
    Files.readJson (v.wayTo path) v = Files.readJson (w.wayTo path) w := by
  rw [Files.readJson, Files.readJson, h.text hfile]

theorem absolute_congr (h : w.workingDirectory = v.workingDirectory) (path : String) :
    w.absolute path = v.absolute path := by
  rw [absolute, absolute, lexical, lexical, h]

namespace SameBut

variable {place : Location}

theorem file? (h : v.SameBut place w) (hpath : v.locate path ≠ place) :
    w.file? path = v.file? path := by
  rw [World.file?, World.file?, h.alike.locate, h.files _ hpath]

theorem isFile (h : v.SameBut place w) (hpath : v.locate path ≠ place) :
    w.isFile path = v.isFile path := by
  rw [World.isFile, World.isFile, h.file? hpath]

/-- What is read where a file is does not depend on the directories. -/
theorem readsAlike (h : v.SameBut place w) (hpath : v.locate path ≠ place) :
    v.ReadsAlike path w := by
  refine ⟨h.isFile hpath, fun hthere => ?_⟩
  obtain ⟨file, hfile⟩ := Option.isSome_iff_exists.1 hthere
  rw [Files.text, Files.text, Files.content, Files.content, h.file? hpath, hfile,
    Files.unlessFault_congr h.alike]

theorem opensAlike (h : v.SameBut place w) (hpath : v.locate (v.wayTo path) ≠ place) :
    v.OpensAlike path w :=
  (h.readsAlike hpath).opensAlike (h.alike.wayTo _)

end SameBut
end World
end CompileCommands
