/-
  Slashes for backslashes.

  * `withSlashes_append`, `withSlashes_withSlashes`: part by part, and once and for all;
  * `backslash_not_mem_withSlashes`, `withSlashes_of_not_mem`: afterwards there is no backslash, and
    without one nothing is changed;
  * `backslash_not_mem_collapse`: nor is there one in lowest terms.
-/
import CompileCommands.Path.Comparison
import CompileCommands.Proofs.Path.Related

namespace CompileCommands.Path

theorem withSlashes_append (p q : String) :
    withSlashes (p ++ q) = withSlashes p ++ withSlashes q := by
  rw [withSlashes, String.toList_append, List.map_append, String.ofList_append]
  rfl

theorem withSlashes_withSlashes (p : String) : withSlashes (withSlashes p) = withSlashes p := by
  have hslash (c : Char) : slash (slash c) = slash c := by
    unfold slash
    split
    · rfl
    · rfl
  rw [withSlashes, withSlashes, String.toList_ofList, List.map_map]
  exact congrArg String.ofList (List.map_congr_left fun c _ => hslash c)

theorem withSlashes_eq_empty_iff (p : String) : withSlashes p = "" ↔ p = "" := by
  rw [withSlashes, ← String.toList_eq_nil_iff, String.toList_ofList, List.map_eq_nil_iff,
    String.toList_eq_nil_iff]

theorem backslash_not_mem_withSlashes (p : String) : '\\' ∉ (withSlashes p).toList := by
  rw [withSlashes, String.toList_ofList, List.mem_map]
  rintro ⟨c, -, hc⟩
  unfold slash at hc
  split at hc
  · exact absurd hc (by decide)
  · next hne => exact hne hc

theorem backslash_not_mem_collapse (p : String) : '\\' ∉ (collapse (withSlashes p)).toList := by
  intro hmem
  refine forall_mem_collapse (P := (· ≠ '\\')) (by decide) (by decide) (fun c hc => ?_) '\\' hmem rfl
  rintro rfl
  exact backslash_not_mem_withSlashes p hc

theorem withSlashes_of_not_mem {p : String} (h : '\\' ∉ p.toList) : withSlashes p = p := by
  have hmap : p.toList.map slash = p.toList := by
    refine (List.map_congr_left fun c hc => if_neg ?_).trans (List.map_id' _)
    rintro rfl
    exact h hc
  rw [withSlashes, hmap, String.ofList_toList]

end CompileCommands.Path
