/-
  Paths below a directory in comparisons.

  * `segments`: the names between the slashes of the form in which a path is compared;
  * `concat_slash_prefix_iff`: a text and a slash begin another text if and only if the pieces of the
    one begin those of the other, and are not all of them;
  * `rootPrefix_eq`: what lies below a directory has the directory and a slash in front, unless the
    directory is the root;
  * `isRootedUnder_trans`: what lies below a directory lies below all directories around it;
  * `isRootedUnder_segments`: so a path lies below a directory if and only if its segments go on from
    those of the directory.
-/
import CompileCommands.Proofs.Path.Normal
import CompileCommands.Proofs.Text.Intercalate

namespace CompileCommands.Path

open Text

/-- The names between the slashes of the form in which a path is compared. -/
def segments (p : String) : List (List Char) :=
  pieces (normalize p).toList

/-! ## Texts and their pieces -/

theorem concat_slash_prefix_iff {s t : List Char} :
    s ++ ['/'] <+: t ↔ pieces s <+: pieces t ∧ pieces s ≠ pieces t := by
  constructor
  · rintro ⟨rest, rfl⟩
    have hpieces : pieces (s ++ ['/'] ++ rest) = pieces s ++ pieces rest := by
      rw [List.append_assoc, List.singleton_append]
      exact List.splitOn_append_cons_self s rest
    rw [hpieces]
    refine ⟨List.prefix_append _ _, fun hall => ?_⟩
    exact List.splitOn_ne_nil '/' rest (List.self_eq_append_right.1 hall)
  · rintro ⟨⟨more, hpieces⟩, hne⟩
    have hmore : more ≠ [] := by
      rintro rfl
      rw [List.append_nil] at hpieces
      exact hne hpieces
    have hfirst : pieces s ≠ [] := List.splitOn_ne_nil '/' s
    have hs : ['/'].intercalate (pieces s) = s := List.intercalate_splitOn '/'
    have ht : ['/'].intercalate (pieces t) = t := List.intercalate_splitOn '/'
    rw [← hpieces, intercalate_append hfirst hmore, hs] at ht
    exact ⟨_, ht⟩

/-! ## Below a directory -/

theorem isRootedUnder_iff {p root : String} : isRootedUnder p root ↔
    p ≠ "" ∧ root ≠ "" ∧ rootPrefix root <+: (normalize p).toList := by
  simp [isRootedUnder, List.isPrefixOf_iff_prefix, and_assoc]

theorem rootPrefix_eq {root : String} (h : normalize root ∉ ["/", "//"]) :
    rootPrefix root = (normalize root).toList ++ ['/'] := by
  rw [rootPrefix, if_neg]
  exact mt (getLast?_normalize_iff root).1 h

theorem normalize_prefix_rootPrefix (root : String) :
    (normalize root).toList <+: rootPrefix root := by
  dsimp only [rootPrefix]
  split
  · exact List.prefix_rfl
  · exact List.prefix_append _ _

theorem isRootedUnder_trans {p q root : String} (hp : isRootedUnder p q)
    (hq : isRootedUnder q root) : isRootedUnder p root := by
  rw [isRootedUnder_iff] at *
  obtain ⟨hp, -, hbelow⟩ := hp
  obtain ⟨-, hroot, habove⟩ := hq
  exact ⟨hp, hroot, habove.trans ((normalize_prefix_rootPrefix q).trans hbelow)⟩

/-- Whether a path lies below a directory. If the directory is not the root itself, this is so if and
    only if the segments of the path are those of the directory and more. So no directory lies below
    itself, and what lies in a directory whose name only begins with that of another one does not
    lie below the other one. What lies below a directory lies below all directories that this one
    lies below. -/
theorem isRootedUnder_segments {root : String} (hne : root ≠ "")
    (hroot : normalize root ∉ ["/", "//"]) :
    (∀ p, p ≠ "" → (isRootedUnder p root ↔
      segments root <+: segments p ∧ segments root ≠ segments p)) ∧
    isRootedUnder root root = false ∧
    (∀ p outer name more inner, segments root = outer ++ [name] → more ≠ [] →
      segments p = outer ++ (name ++ more) :: inner → isRootedUnder p root = false) ∧
    ∀ p q, isRootedUnder p q → isRootedUnder q root → isRootedUnder p root := by
  have hiff (p : String) (hp : p ≠ "") : isRootedUnder p root ↔
      segments root <+: segments p ∧ segments root ≠ segments p := by
    rw [isRootedUnder_iff, rootPrefix_eq hroot, concat_slash_prefix_iff]
    exact ⟨fun h => h.2.2, fun h => ⟨hp, hne, h⟩⟩
  refine ⟨hiff, ?_, fun p outer name more inner hdirectory hmore hsibling => ?_,
    fun p q => isRootedUnder_trans⟩
  · rw [← Bool.not_eq_true, hiff root hne]
    exact fun h => h.2 rfl
  · rw [← Bool.not_eq_true]
    intro hunder
    obtain ⟨hp, -, -⟩ := isRootedUnder_iff.1 hunder
    obtain ⟨hbegins, -⟩ := (hiff p hp).1 hunder
    rw [hdirectory, hsibling, List.prefix_append_right_inj, List.cons_prefix_cons] at hbegins
    exact hmore (List.self_eq_append_right.1 hbegins.1)

/-- Other spellings of what lies below a directory, and a directory beside it. -/
theorem isRootedUnder_segments_sources :
    normalize "/Src/" ∉ ["/", "//"] ∧ isRootedUnder "\\src\\.\\lib" "/Src/" ∧
    isRootedUnder "/Src/" "/Src/" = false ∧ isRootedUnder "/srcOther/x.cpp" "/Src/" = false ∧
    isRootedUnder "/src/lib/x.cpp" "/Src/" := by
  have hroot : normalize "/Src/" ∉ ["/", "//"] := by decide +kernel
  obtain ⟨hiff, hself, hsibling, htrans⟩ := isRootedUnder_segments (by decide) hroot
  have hdirectory : segments "/Src/" = ["".toList] ++ ["src".toList] := by decide +kernel
  have hbeside : segments "/srcOther/x.cpp" =
      ["".toList] ++ ("src".toList ++ "other".toList) :: ["x.cpp".toList] := by decide +kernel
  have hlibrary : isRootedUnder "\\src\\.\\lib" "/Src/" :=
    (hiff _ (by decide)).2 (by decide +kernel)
  have hfile : isRootedUnder "/src/lib/x.cpp" "\\src\\.\\lib" := by decide +kernel
  exact ⟨hroot, hlibrary, hself, hsibling _ _ _ _ _ hdirectory (by decide) hbeside,
    htrans _ _ hfile hlibrary⟩

/-- Below the root itself lies all that begins with it, and so does the root. -/
example : isRootedUnder "/" "/" ∧ isRootedUnder "//" "//" := by decide +kernel

end CompileCommands.Path
