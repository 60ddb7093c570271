/-
  Files that are removed.

  * `Files.ends_remove`, `Files.ends_remove_of_fault`, `Files.ends_remove_of_not_isFile`: how the
    removal of one file ends;
  * `World.without`: the same world without the files at some places;
  * `World.lost`: the places whose files are gone in a second world; `lost_without`.
-/
import CompileCommands.Proofs.Computation.Ending
import CompileCommands.Proofs.World.Failing
import Mathlib.Data.Set.Card

namespace CompileCommands

/-! ## One file -/

namespace Files

open CompileCommands.Action (Ends)

variable {w : World} {path : String}

/-- What decides how a removal ends. -/
theorem remove_apply (w : World) (path : String) : remove path w =
    match w.fault? .remove path with
    | some failure => (.fail failure, w)
    | none =>
      if w.isFile path then (.ok (), w.withoutFile (w.locate path))
      else (.fail (error (if w.isDirectory path then .isDirectory else .notFound) path), w) := by
  dsimp only [remove, change, unlessFault]
  cases w.fault? .remove path with
  | some failure => rfl
  | none =>
    cases w.isFile path with
    | true => rfl
    | false => rfl

theorem ends_remove_of_fault {failure : Failure} (h : w.fault? .remove path = some failure) :
    Ends (remove path) w (.error failure) w := by
  have hremove : remove path w = (.fail failure, w) := by rw [remove_apply, h]
  exact ⟨by rw [hremove]; rfl, by rw [hremove]⟩

theorem ends_remove (hfault : w.fault? .remove path = none) (hfile : w.isFile path) :
    Ends (remove path) w (.ok ()) (w.withoutFile (w.locate path)) := by
  have hremove : remove path w = (.ok (), w.withoutFile (w.locate path)) := by
    rw [remove_apply, hfault]
    exact if_pos hfile
  exact ⟨by rw [hremove]; rfl, by rw [hremove]⟩

theorem ends_remove_of_not_isFile (hfault : w.fault? .remove path = none)
    (hfile : w.isFile path = false) :
    ∃ failure, failure.isFileError ∧ Ends (remove path) w (.error failure) w := by
  refine ⟨error (if w.isDirectory path then .isDirectory else .notFound) path, rfl, ?_⟩
  have hremove : remove path w =
      (.fail (error (if w.isDirectory path then .isDirectory else .notFound) path), w) := by
    rw [remove_apply, hfault]
    exact if_neg (Bool.not_eq_true _ ▸ hfile)
  exact ⟨by rw [hremove]; rfl, by rw [hremove]⟩

/-- A removal takes the file away, or ends with an error of file access. -/
theorem ends_remove_cases
    (h : w.FaultsAre (fun failure => failure.isFileError) .remove path) :
    (w.fault? .remove path = none ∧ w.isFile path ∧
      Ends (remove path) w (.ok ()) (w.withoutFile (w.locate path))) ∨
    ¬(w.fault? .remove path = none ∧ w.isFile path) ∧
      ∃ failure, failure.isFileError ∧ Ends (remove path) w (.error failure) w := by
  cases hfault : w.fault? .remove path with
  | some failure => exact .inr ⟨nofun, failure, h failure hfault, ends_remove_of_fault hfault⟩
  | none =>
    cases hfile : w.isFile path with
    | true => exact .inl ⟨rfl, rfl, ends_remove hfault hfile⟩
    | false => exact .inr ⟨nofun, ends_remove_of_not_isFile hfault hfile⟩

end Files

/-! ## Some files -/

namespace World

/-- The same world without the files at some places. -/
def without (w : World) (places : List Location) : World :=
  { w with files := w.files.filter fun entry => entry.1 ∉ places }

variable {v w : World} {p : Location} {places : List Location}

theorem without_nil (w : World) : w.without [] = w := by
  simp [without]

theorem without_cons (w : World) (p : Location) (places : List Location) :
    w.without (p :: places) = (w.withoutFile p).without places := by
  simp only [without, withoutFile, List.filter_filter, List.mem_cons, not_or]
  congr 2
  funext entry
  rw [Bool.decide_and, Bool.and_comm]

/-- By induction on the places. -/
theorem fileAt?_without (w : World) (places : List Location) (p : Location) :
    (w.without places).fileAt? p = if p ∈ places then none else w.fileAt? p := by
  induction places generalizing w with
  | nil => rw [without_nil, if_neg List.not_mem_nil]
  | cons q places ih =>
    rw [without_cons, ih, fileAt?_withoutFile]
    by_cases hq : p = q
    · simp [hq]
    · simp [hq]

/-- The places of the first world whose files are not there any more in the second. -/
def lost (v w : World) : Set Location :=
  {place | (v.fileAt? place).isSome ∧ w.fileAt? place = none}

theorem lost_self (w : World) : w.lost w = ∅ := by
  ext place
  simp only [lost, Set.mem_ofPred_eq, Set.mem_empty_iff_false, iff_false, not_and]
  intro hthere hgone
  rw [hgone] at hthere
  cases hthere

theorem lost_without (h : ∀ p ∈ places, (w.fileAt? p).isSome) :
    w.lost (w.without places) = {place | place ∈ places} := by
  ext place
  simp only [lost, Set.mem_ofPred_eq, fileAt?_without]
  constructor
  · rintro ⟨hthere, hgone⟩
    by_contra hplace
    rw [if_neg hplace] at hgone
    rw [hgone] at hthere
    cases hthere
  · intro hplace
    exact ⟨h place hplace, if_pos hplace⟩

theorem encard_mem {names : List String} (hnodup : names.Nodup) :
    {name | name ∈ names}.encard = names.length := by
  rw [← List.toFinset_card_of_nodup hnodup, ← Set.encard_coe_eq_coe_finsetCard,
    List.coe_toFinset]

end World
end CompileCommands
