/-
  The search for a database and its entries where no call runs into a fault.

  * `Failure.IsInherent`: the failures that the inputs bring with them; `World.Admits.isInherent`:
    without faults, no other critical failure comes up;
  * `RootSource.find_answers`: the search for a workspace root does not fail;
  * `ActiveConfiguration.isInherent_of_name`, `DatabaseLocator.isInherent_of_locate`,
    `Database.isInherent_of_entryFor`: what follows fails for no other reason.
-/
import CompileCommands.Proofs.Database.Failing

namespace CompileCommands

/-! ## Failures -/

/-- A document is nested too deep to be read, or a text has no encoding. -/
inductive Failure.IsInherent : Failure → Prop
  | tooDeep (message : String) : IsInherent (.incident .tooDeep message)
  | notEncodable (error : Text.EncodingError) : IsInherent (.notEncodable error)

theorem World.Admits.isInherent {w : World} (hfaults : w.faults = []) {failure : Failure}
    (h : w.Admits failure) (hcritical : failure.isCritical) : failure.IsInherent := by
  obtain hown | ⟨fault, hfault, -⟩ := h
  · cases failure with
    | incident kind message =>
      obtain rfl : kind = .tooDeep := hown
      exact .tooDeep message
    | _ => cases hcritical
  · rw [hfaults] at hfault
    cases hfault

/-! ## Searches -/

section Searches

variable {w : World} (hfaults : w.faults = [])
include hfaults

theorem WorkspaceRoot.find?_answers (path : String) : (find? path).Answers w := by
  have hfind (start : String) : (Repository.find? start).Answers w := by
    refine .of_ok (a := if w.exists? start then Repository.around? w (w.lexical start) else none) ?_
    rw [Repository.find?_apply, World.fault?_of_faults hfaults]
    rfl
  refine .bind (.of_ok rfl) fun start _ => .bind (hfind _) fun repository _ => ?_
  cases repository with
  | none => exact .pure _
  | some repository =>
    exact .bind (.of_ok rfl) fun _ _ => .bind (.of_ok rfl) fun _ _ => .bind (.of_ok rfl)
      fun _ _ => .pure _

theorem RootSource.find_answers (source : RootSource) : source.find.Answers w := by
  cases source with
  | fixed root => exact .pure _
  | repository start => exact .bind (WorkspaceRoot.find?_answers hfaults start) fun _ _ => .pure _

variable {root default : String} (hroot : root ≠ "") {failure : Failure}
include hroot

theorem ActiveConfiguration.isInherent_of_name
    (h : (name (some root) default w).result = .error failure) : failure.IsInherent := by
  rw [result_name hroot] at h
  split at h
  · split at h
    · cases h
    · next cause hcontents =>
      split at h
      · next hcritical =>
        cases h
        exact (failsOnly_contents w root failure hcontents).isInherent hfaults hcritical
      · cases h
  · cases h

variable {locator : DatabaseLocator} (hlocator : locator.root = .fixed (some root))
include hlocator

theorem Database.isInherent_of_entryFor {file : String} (hfile : file ≠ "")
    (h : (entryFor locator.locate (some file) w).result = .error failure) :
    failure.IsInherent := by
  by_cases hreached : ∀ cause, Reaches locator root w cause → ¬cause.isCritical
  · by_cases hrefuses : ∃ error, DatabaseLocator.Refuses locator root w error
    · obtain ⟨error, hrefuses⟩ := hrefuses
      cases (entryFor_of_refuses hlocator hroot hfile hrefuses).symm.trans h
      exact .notEncodable error
    · obtain ⟨e, he⟩ := entryFor_answers hlocator hroot hfile hreached (not_exists.1 hrefuses)
      cases he.symm.trans h
  · -- The search fails as the document does in which it first gets stuck.
    simp only [not_forall, not_not] at hreached
    obtain ⟨cause, hcause, hcritical⟩ := hreached
    cases (entryFor_of_reaches hlocator hroot hfile hcause hcritical).symm.trans h
    cases hcause with
    | settings _ hcontents =>
      exact (Settings.failsOnly_contents w root failure hcontents).isInherent hfaults hcritical
    | active _ _ hcontents =>
      have hadmits := ActiveConfiguration.failsOnly_contents w root failure hcontents
      exact hadmits.isInherent hfaults hcritical
    | database _ hcontents =>
      exact (failsOnly_contents w _ failure hcontents).isInherent hfaults hcritical

/-- With the location, the search for the entry of any file fails. -/
theorem DatabaseLocator.isInherent_of_locate (h : (locator.locate w).result = .error failure) :
    failure.IsInherent := by
  have hfile : "a" ≠ "" := by decide
  exact Database.isInherent_of_entryFor hfaults hroot hlocator hfile
    (Database.result_entryFor_of_error hfile h)

end Searches

end CompileCommands
