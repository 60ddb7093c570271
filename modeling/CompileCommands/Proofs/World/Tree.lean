/-
  Directories.

  * `isDirectoryAt_withDirectory_iff`: making a directory makes those around it too, and no others;
  * `World.IsTree`: whatever lies in a world lies in a directory;
  * `IsTree.withDirectory`, `IsTree.withFile` and so on: changes that leave it so;
  * `isTree_ofJson`: it is so in every described world.
-/
import CompileCommands.Proofs.World.Files

namespace CompileCommands.World

/-! ## Making directories -/

theorem mem_around_iff {place q : Location} :
    q ∈ (List.range (place.length + 1)).map place.take ↔ q <+: place := by
  rw [List.mem_map]
  constructor
  · rintro ⟨k, -, rfl⟩
    exact List.take_prefix k place
  · intro h
    refine ⟨q.length, ?_, (List.prefix_iff_eq_take.1 h).symm⟩
    rw [List.mem_range]
    exact Nat.lt_succ_of_le h.length_le

theorem isDirectoryAt_iff {w : World} {q : Location} :
    w.isDirectoryAt q ↔ q = [] ∨ q ∈ w.directories := by
  rw [isDirectoryAt, Bool.or_eq_true, decide_eq_true_eq, List.contains_iff_mem]

theorem isDirectoryAt_withDirectory_iff {w : World} {place q : Location} :
    (w.withDirectory place).isDirectoryAt q ↔ w.isDirectoryAt q ∨ q <+: place := by
  have hmem : q ∈ (w.withDirectory place).directories ↔
      q ∈ w.directories ∨ q <+: place ∧ ¬w.isDirectoryAt q := by
    rw [withDirectory, List.mem_append, List.mem_filter, mem_around_iff, Bool.not_eq_true',
      Bool.not_eq_true]
  rw [isDirectoryAt_iff, hmem, ← or_assoc, ← isDirectoryAt_iff]
  by_cases h : w.isDirectoryAt q <;> simp [h]

/-! ## Trees -/

/-- Something lies at the place. -/
def HasAt (w : World) (place : Location) : Prop :=
  (w.fileAt? place).isSome ∨ w.isDirectoryAt place

theorem exists?_iff_hasAt {w : World} {path : String} (hpath : path ≠ "") :
    w.exists? path ↔ w.HasAt (w.locate path) := by
  rw [exists?, isFile, isDirectory, file?_of_ne_empty w hpath, Bool.or_eq_true, HasAt]
  simp [hpath]

/-- Whatever lies in the world lies in a directory. -/
def IsTree (w : World) : Prop :=
  ∀ place, w.HasAt place → w.isDirectoryAt place.dropLast

namespace IsTree

variable {w : World}

/-- Nothing lies in what is not there. -/
theorem not_hasAt_concat (h : w.IsTree) {place : Location} (hplace : ¬w.HasAt place)
    (name : String) : ¬w.HasAt (place ++ [name]) := by
  intro hname
  have hdirectory := h _ hname
  rw [List.dropLast_concat] at hdirectory
  exact hplace (.inr hdirectory)

theorem withDirectory (h : w.IsTree) (place : Location) : (w.withDirectory place).IsTree := by
  rintro q (hfile | hdirectory)
  · exact isDirectoryAt_withDirectory_iff.2 (.inl (h q (.inl hfile)))
  · rw [isDirectoryAt_withDirectory_iff] at hdirectory ⊢
    refine hdirectory.imp (fun hq => h q (.inr hq)) fun hq => ?_
    exact (List.dropLast_prefix q).trans hq

theorem withFile (h : w.IsTree) {place : Location} (hplace : w.isDirectoryAt place.dropLast)
    (file : File) : (w.withFile place file).IsTree := by
  rintro q (hfile | hdirectory)
  · rw [fileAt?_withFile] at hfile
    split at hfile
    · next hq => exact hq ▸ hplace
    · exact h q (.inl hfile)
  · exact h q (.inr hdirectory)

theorem withoutFile (h : w.IsTree) (place : Location) : (w.withoutFile place).IsTree := by
  rintro q (hfile | hdirectory)
  · rw [fileAt?_withoutFile] at hfile
    split at hfile
    · cases hfile
    · exact h q (.inl hfile)
  · exact h q (.inr hdirectory)

theorem placing (h : w.IsTree) (path : String) (file : File) : (w.placing path file).IsTree := by
  refine (h.withDirectory _).withFile ?_ file
  exact isDirectoryAt_withDirectory_iff.2 (.inr (List.prefix_refl _))

theorem withFault (h : w.IsTree) (call : Call) (path : String) (failure : Option Failure) :
    (w.withFault call path failure).IsTree := h

theorem of_empty (hfiles : w.files = []) (hdirectories : w.directories = []) : w.IsTree := by
  rintro q (hfile | hdirectory)
  · rw [fileAt?, hfiles] at hfile
    cases hfile
  · obtain rfl | hq := isDirectoryAt_iff.1 hdirectory
    · exact hdirectory
    · rw [hdirectories] at hq
      cases hq

end IsTree

/-- Every described world is a tree: the directories of what it describes are made as well. -/
theorem isTree_ofJson (document : Json) : (ofJson document).IsTree := by
  have hbare (directory : String) : (bare document directory).IsTree := .of_empty rfl rfl
  refine List.foldlRecOn _ _ ?_ fun w hw entry _ => hw.placing _ _
  refine List.foldlRecOn _ _ ?_ fun w hw path _ => hw.withDirectory _
  refine IsTree.withDirectory ?_ _
  exact List.foldlRecOn _ _ (hbare _) fun w hw entry _ => hw

end CompileCommands.World
