/-
  No cleanup takes away what a load could use.

  * `Step`: a step of a world in which only saves put something in the directory of the store;
    `step_load`, `step_cleanup`, `step_tick`: loads and cleanups are such steps;
  * `Stamped`: the invariant: each file in the store is a snapshot that was captured no later than
    the file was last changed;
  * `stamped_save`, `stamped_steps`: each step keeps it, and so does every run;
  * `cleanup_spares_usable`: what a cleanup takes away is too old for a load with the same limit.
-/
import CompileCommands.Proofs.Snapshot.Cleanup
import Mathlib.Algebra.Order.Field.Rat
import Mathlib.Logic.Relation

namespace CompileCommands.Snapshot

open World (Alike Within)

/-! ## Steps -/

/-- From one world to the other, nothing is put directly in the directory at the place. -/
structure AddsNothing (place : Location) (w v : World) : Prop where
  files : ∀ name file, v.fileAt? (place ++ [name]) = some file →
    w.fileAt? (place ++ [name]) = some file
  links : w.HoldsNoLink place → v.HoldsNoLink place

/-- A step of a world in which only saves put something directly in the directory at the place.
    Anything else may happen: files there may go, and all the rest may change. -/
inductive Step (place : Location) (w : World) : World → Prop where
  /-- A snapshot is saved, or an attempt at it fails. -/
  | save (base : String) (params : Option String) (environment : Environment) (script : String) :
    Step place w (save base params environment script w).2
  /-- Nothing is put there. -/
  | other {v : World} (h : AddsNothing place w v) : Step place w v

variable {place : Location} {v w : World}

theorem holdsNoLink_congr (h : w.links = v.links) (place : Location) :
    w.HoldsNoLink place ↔ v.HoldsNoLink place := by
  rw [World.HoldsNoLink, World.HoldsNoLink, h]

theorem step_within (h : w.Within v) : Step place w v :=
  .other ⟨fun _ file => h.files _ file, (holdsNoLink_congr h.alike.links place).2⟩

theorem step_load (w : World) (base : String) (params : Option String) (script : String)
    (limit : Option Rat) : Step place w (load base params script limit w).2 :=
  step_within ((load_keeps (P := w.Within) (fun _ p h => h.withoutFile p) base params script
    limit).apply (.refl w))

theorem step_cleanup (w : World) (base : String) (limit : Rat) :
    Step place w (cleanup base limit w).2 :=
  step_within ((cleanup_keeps (P := w.Within) (fun _ p h => h.withoutFile p) base limit).apply
    (.refl w))

theorem step_tick (w : World) (time : Rat) : Step place w { w with clock := time } :=
  .other ⟨fun _ _ h => h, fun h => h⟩

/-! ## The invariant -/

/-- The file holds a snapshot that was captured no later than the file was last changed. -/
def IsStamped (file : File) : Prop :=
  ∃ s : Stored, file.content = .snapshot s ∧ s.metadata.captured ≤ file.modified

/-- There is no link directly in the directory at the place, and each file there holds a snapshot
    that was captured no later than the file was last changed. -/
structure Stamped (place : Location) (w : World) : Prop where
  files : ∀ name file, w.fileAt? (place ++ [name]) = some file → IsStamped file
  links : w.HoldsNoLink place

namespace Stamped

theorem of_empty (hempty : ∀ name, w.fileAt? (place ++ [name]) = none)
    (hlinks : w.HoldsNoLink place) : Stamped place w := by
  refine ⟨fun name file hfile => ?_, hlinks⟩
  rw [hempty name] at hfile
  cases hfile

theorem of_addsNothing (h : Stamped place w) (hv : AddsNothing place w v) : Stamped place v :=
  ⟨fun name file hfile => h.files name file (hv.files name file hfile), hv.links h.links⟩

theorem withoutFile (h : Stamped place w) (p : Location) : Stamped place (w.withoutFile p) := by
  refine ⟨fun name file hfile => h.files name file ?_, h.links⟩
  rw [World.fileAt?_withoutFile] at hfile
  split at hfile
  · cases hfile
  · exact hfile

theorem withFile (h : Stamped place w) {file : File} (hfile : IsStamped file) (p : Location) :
    Stamped place (w.withFile p file) := by
  refine ⟨fun name other hother => ?_, h.links⟩
  rw [World.fileAt?_withFile] at hother
  split at hother
  · cases hother
    exact hfile
  · exact h.files name other hother

end Stamped

theorem isStamped_fileOf (v : World) (params : Option String) (environment : Environment)
    (modified : Rat) : IsStamped (fileOf v params environment modified) :=
  ⟨_, rfl, le_refl v.clock⟩

/-- A save writes only files that are captured and changed at the same time. The file that is put
    in place is the one that was written first. -/
theorem stamped_save (h : Stamped place w) (base : String) (params : Option String)
    (environment : Environment) (script : String) :
    Stamped place (save base params environment script w).2 := by
  have hensured : Stamped place (ensureStore base w).2 :=
    (ensureStore_keeps (P := Stamped place) (fun u p hu => ⟨hu.files, hu.links⟩) base).apply h
  refine save_stages w base params environment script
    (R := fun u => Stamped place u ∧
      ∀ file, u.fileAt? (u.locate (temporaryPath base params)) = some file → IsStamped file)
    hensured (fun u p hu => hu.withoutFile p) (fun modified _ _ => ?_) (fun u hu => hu.1) ?_
  · have hfile := isStamped_fileOf (ensureStore base w).2 params environment modified
    refine ⟨hensured.withFile hfile _, fun file hwritten => ?_⟩
    have halike := (Alike.refl (ensureStore base w).2).withFile
      ((ensureStore base w).2.locate (temporaryPath base params))
      (fileOf (ensureStore base w).2 params environment modified)
    rw [halike.locate, World.fileAt?_withFile, if_pos rfl] at hwritten
    cases hwritten
    exact hfile
  · exact fun u file hu hfile => (hu.1.withoutFile _).withFile (hu.2 file hfile) _

theorem stamped_step (h : Stamped place w) (hstep : Step place w v) : Stamped place v := by
  cases hstep with
  | save base params environment script => exact stamped_save h base params environment script
  | other hother => exact h.of_addsNothing hother

/-- By induction on the steps. -/
theorem stamped_steps (h : Stamped place w) (hsteps : Relation.ReflTransGen (Step place) w v) :
    Stamped place v := by
  induction hsteps with
  | refl => exact h
  | tail _ hstep ih => exact stamped_step ih hstep

/-! ## Cleaning up and loading -/

theorem hour_pos : 0 < hour := by decide

/-- A file that is too old to stay holds a snapshot that is too old to be loaded. -/
theorem not_serves_of_old {u : World} (hexact : u.rounding = id) {s : Stored} {modified limit : Rat}
    (hstamped : s.metadata.captured ≤ modified)
    (hold : u.rounding (limit * hour) < u.rounding (u.clock - modified)) (params : Option String)
    (script : String) : ¬Serves s.metadata params script (some limit) u := by
  intro hserves
  have hage := hserves.recent limit rfl
  rw [Metadata.age, hexact, id, id, div_le_iff₀ hour_pos] at hage
  rw [hexact, id, id] at hold
  have hcaptured : u.clock - modified ≤ u.clock - s.metadata.captured :=
    sub_le_sub_left hstamped u.clock
  exact absurd (hold.trans_le (hcaptured.trans hage)) (lt_irrefl _)

/-- **No cleanup takes away what a load could use.** Start with nothing in the directory at a
    place, and let only saves put something there. If it is the directory of the store then, and
    times are computed exactly, let a cleanup with some limit take a file away, whatever fails. As
    long as the file was still there, no load with the same limit would have given an environment
    from it, for any parameters and any script. If what goes wrong with such a load are errors of
    file access, it would have answered with nothing. -/
theorem cleanup_spares_usable (hempty : ∀ name, v.fileAt? (place ++ [name]) = none)
    (hlinks : v.HoldsNoLink place) (hsteps : Relation.ReflTransGen (Step place) v w)
    {base : String} (hplace : w.locate (storePath base) = place) (hnamed : w.IsNamed)
    (hexact : w.rounding = id) {limit : Rat} {gone : Location}
    (hgone : gone ∈ w.lost (cleanup base limit w).2) {u : World} (hu : w.Within u)
    {base' : String} {params : Option String} (hpath : u.locate (path base' params) = gone)
    (script : String) :
    (∀ environment,
      (load base' params script (some limit) u).1.result ≠ .ok (some environment)) ∧
    (Mild u base' script → (load base' params script (some limit) u).1.result = .ok none) := by
  have hstamped : Stamped place w := stamped_steps (.of_empty hempty hlinks) hsteps
  obtain ⟨name, file, hname, hfile, hold⟩ :=
    old_of_mem_lost hnamed (hplace.symm ▸ hstamped.links) hgone
  rw [placeOf, hplace] at hname
  rw [hname] at hfile
  obtain ⟨s, hcontent, hcaptured⟩ := hstamped.files name file hfile
  rw [← hu.alike.rounding, ← hu.clock] at hold
  -- What is found at the path, if anything, is the snapshot that is too old.
  have hthere {held : File} (hheld : u.fileAt? (u.locate (path base' params)) = some held) :
      held.content = .snapshot s := by
    rw [hpath, hname] at hheld
    have hsame := hu.files _ held hheld
    rw [hfile] at hsame
    rw [← Option.some.inj hsame, hcontent]
  have hnot : ∀ environment,
      (load base' params script (some limit) u).1.result ≠ .ok (some environment) := by
    intro environment hload
    obtain ⟨s', modified, hheld, -, hserves⟩ := exists_of_load hload
    cases hthere hheld
    exact not_serves_of_old (hu.alike.rounding.trans hexact) hcaptured hold params script hserves
  refine ⟨hnot, fun hmild => ?_⟩
  have hreadable : Readable u (path base' params) := by
    intro held error hheld herror
    rw [hthere (World.fileAt?_of_file? hheld)] at herror
    cases herror
  obtain ⟨answer, hanswer, -⟩ := load_answers hmild (some limit) hreadable
  cases answer with
  | none => exact hanswer
  | some environment => exact absurd hanswer (hnot environment)

/-- There is only a script, and times are computed exactly. -/
def scripted : World where
  files := [(["s"], ⟨.bytes [], 5⟩)]
  rounding := id

/-- Two hours after an environment was saved for the script. -/
def aged : World :=
  { (save "/c" none [("A", "a")] "/s" scripted).2 with clock := 7200 }

theorem alike_aged : scripted.Alike aged := by
  have hmild : Mild scripted "/c" "/s" := .of_faults (by simp [scripted]) "/c" "/s"
  obtain ⟨-, -, hsaved⟩ := (save_calm hmild (by decide) none [("A", "a")]).answers
  exact hsaved.tick 7200

theorem load_aged :
    aged.locate (path "/c" none) ∈ aged.lost (cleanup "/c" 1 aged).2 ∧
    (load "/c" none "/s" (some 1) aged).1.result = .ok none := by
  obtain ⟨hplace, hpath, hstored, hfile, hisFile, hdirectory⟩ :
      aged.locate (storePath "/c") = ["c", ".compdb_cache"] ∧
      aged.locate (path "/c" none) = ["c", ".compdb_cache"] ++ [fileName none] ∧
      isStoredName (fileName none) ∧
      aged.fileAt? (["c", ".compdb_cache"] ++ [fileName none]) =
        some ⟨.snapshot ⟨⟨"", 5, 0⟩, [("A", "a")]⟩, 0⟩ ∧
      aged.isFile (storePath "/c") = false ∧ aged.isDirectory (storePath "/c") := by
    decide +kernel
  have hscripted : scripted.IsNamed := ⟨by decide, by decide⟩
  have hnamed : aged.IsNamed :=
    isNamed_step (isNamed_save hscripted "/c" none [("A", "a")] "/s") (.tick 7200)
  have hexact : aged.rounding = id := alike_aged.rounding
  have hfaults : aged.faults = [] := alike_aged.faults
  have hmild : Mild aged "/c" "/s" := .of_faults (by simp [hfaults]) "/c" "/s"
  have hgone : aged.locate (path "/c" none) ∈ aged.lost (cleanup "/c" 1 aged).2 := by
    obtain ⟨names, hlisted⟩ :=
      Files.exists_list (World.fault?_of_faults hfaults .list _) hisFile hdirectory
    rw [lost_cleanup hnamed (World.holdsNoLink_of_links alike_aged.links _) 1 hlisted
      (fun name => hmild.inside .status name) fun name => hmild.inside .remove name]
    refine ⟨fileName none, ⟨hstored, ⟨_, hplace.symm ▸ hfile, ?_⟩, ?_, ?_⟩, ?_⟩
    · have hclock : aged.clock = 7200 := rfl
      rw [hexact, hclock]
      decide +kernel
    · exact World.fault?_of_faults hfaults _ _
    · exact World.fault?_of_faults hfaults _ _
    · rw [placeOf, hplace, hpath]
  have hsteps : Relation.ReflTransGen (Step ["c", ".compdb_cache"]) scripted aged :=
    .tail (.single (.save "/c" none [("A", "a")] "/s")) (step_tick _ 7200)
  exact ⟨hgone, (cleanup_spares_usable (fun _ => rfl) (World.holdsNoLink_of_links rfl _) hsteps
    hplace hnamed hexact hgone (.refl aged) rfl "/s").2 hmild⟩

end CompileCommands.Snapshot
