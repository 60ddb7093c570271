/-
  Paths in other spellings.

  * `KeepsMarks`: a map of characters that keeps slashes and dots apart from the others;
  * `pieces_map`, `collapse_map`, `join_map` and so on: what is done with paths commutes with such
    a map;
  * `spelling`, `Respelled`: paths that differ only in slashes for backslashes and in the case of
    letters of ASCII;
  * `normalize_congr`, `Respelled.resolve`, `ofPath_congr` and so on: what is compared is the same
    for all spellings of a path.
-/
import CompileCommands.Path.Source
import CompileCommands.Proofs.Text.Case
import CompileCommands.Proofs.Path.Related

namespace CompileCommands.Path

open Text

/-! ## Maps of characters -/

/-- The map takes no other character than a slash to a slash, and none than a dot to a dot. -/
structure KeepsMarks (f : Char → Char) : Prop where
  slash : ∀ c, f c = '/' ↔ c = '/'
  dot : ∀ c, f c = '.' ↔ c = '.'

theorem map_ofList (f : Char → Char) (s : List Char) :
    (String.ofList s).map f = String.ofList (s.map f) := by
  rw [← String.toList_inj]
  simp

theorem map_append (f : Char → Char) (s t : String) : (s ++ t).map f = s.map f ++ t.map f := by
  rw [← String.toList_inj]
  simp

/-- The path with the map used on its names. -/
def Lexical.map (f : Char → Char) (p : Lexical) : Lexical :=
  { p with names := p.names.map (String.map f) }

/-- A map is the relation of everything to its image. -/
theorem forall₂_map_iff {α β : Type} {g : α → β} {s : List α} {t : List β} :
    List.Forall₂ (fun a b => g a = b) s t ↔ s.map g = t := by
  rw [← List.forall₂_map_left_iff, List.forall₂_eq_eq_eq]

theorem related_map_iff {f : Char → Char} {p q : String} :
    Related (fun c d => f c = d) p q ↔ p.map f = q := by
  rw [Related, forall₂_map_iff, ← String.toList_inj, String.toList_map]

theorem related_names_map_iff {f : Char → Char} {names names' : List String} :
    List.Forall₂ (Related fun c d => f c = d) names names' ↔ names.map (String.map f) = names' := by
  have hrelation : Related (fun c d => f c = d) = fun p q => p.map f = q :=
    funext₂ fun _ _ => propext related_map_iff
  rw [hrelation, forall₂_map_iff]

theorem lexical_related_map_iff {f : Char → Char} {p q : Lexical} :
    Lexical.Related (fun c d => f c = d) p q ↔ p.map f = q := by
  rw [Lexical.map, Lexical.mk.injEq, ← related_names_map_iff]
  exact ⟨fun h => ⟨h.anchor, h.names⟩, fun h => ⟨h.1, h.2⟩⟩

section Maps

variable {f : Char → Char} (hf : KeepsMarks f)
include hf

theorem KeepsMarks.relatesMarks : RelatesMarks fun c d => f c = d where
  slash := (hf.slash '/').2 rfl
  dot := (hf.dot '.').2 rfl
  slash_iff c d h := by rw [← h, hf.slash]
  dot_iff c d h := by rw [← h, hf.dot]

theorem map_eq_of_dots {t : String} (ht : t.toList.all (· = '.')) {name : String} :
    name.map f = t ↔ name = t := by
  have h : Related (fun c d => f c = d) name (name.map f) := related_map_iff.2 rfl
  exact (h.eq_iff hf.relatesMarks ht).symm

/-! ## Lowest terms -/

theorem pieces_map (p : List Char) : pieces (p.map f) = (pieces p).map (List.map f) := by
  have hpieces := forall₂_pieces hf.relatesMarks (forall₂_map_iff.2 (Eq.refl (p.map f)))
  exact (forall₂_map_iff.1 (hpieces.imp fun _ _ => forall₂_map_iff.1)).symm

theorem lowest_map (anchored : Bool) (start names : List String) :
    lowest anchored (start.map (String.map f)) (names.map (String.map f)) =
      (lowest anchored start names).map (String.map f) := by
  have h := forall₂_lowest hf.relatesMarks (related_names_map_iff.2 (Eq.refl (start.map _)))
    (related_names_map_iff.2 (Eq.refl (names.map _))) anchored
  exact (related_names_map_iff.1 h).symm

/-! ## Texts -/

theorem text_map (p : Lexical) : (p.map f).text = p.text.map f := by
  have h : Lexical.Related (fun c d => f c = d) p (p.map f) := lexical_related_map_iff.2 rfl
  exact (related_map_iff.1 (h.text hf.relatesMarks)).symm

theorem ofText_map (p : String) : Lexical.ofText (p.map f) = (Lexical.ofText p).map f := by
  have h : Related (fun c d => f c = d) p (p.map f) := related_map_iff.2 rfl
  exact (lexical_related_map_iff.1 (h.ofText hf.relatesMarks)).symm

theorem collapse_map (p : String) : collapse (p.map f) = (collapse p).map f := by
  have h : Related (fun c d => f c = d) p (p.map f) := related_map_iff.2 rfl
  exact (related_map_iff.1 (h.collapse hf.relatesMarks)).symm

/-! ## Parts -/

theorem isRooted_map (p : String) : isRooted (p.map f) = isRooted p := by
  rw [isRooted, isRooted, String.toList_map, List.head?_map]
  cases p.toList.head? <;> simp [hf.slash]

theorem join_map (directory p : String) :
    join (directory.map f) (p.map f) = (join directory p).map f := by
  have hslash : String.map f "/" = "/" := by
    rw [← String.toList_inj, String.toList_map]
    exact congrArg (fun c => [c]) ((hf.slash '/').2 rfl)
  have hlast : (directory.map f).toList.getLast? = some '/' ↔
      directory.toList.getLast? = some '/' := by
    rw [String.toList_map, List.getLast?_map]
    cases directory.toList.getLast? <;> simp [hf.slash]
  have hempty : directory.map f = "" ↔ directory = "" := map_eq_of_dots hf (by decide)
  unfold join
  rw [isRooted_map hf]
  simp only [hlast, hempty]
  split
  · rfl
  · split
    · rw [map_append]
    · rw [map_append, map_append, hslash]

theorem splitLast_map (p : List Char) :
    splitLast (p.map f) = ((splitLast p).1.map f, (splitLast p).2.map f) := by
  have hne : (fun c => decide (c ≠ '/')) ∘ f = fun c => decide (c ≠ '/') := by
    funext c
    simp [hf.slash]
  rw [splitLast, splitLast, ← List.map_reverse, List.dropWhile_map, List.takeWhile_map, hne,
    List.map_reverse, List.map_reverse]

theorem name_map (p : String) : name (p.map f) = (name p).map f := by
  rw [name, name, String.toList_map, splitLast_map hf, map_ofList]

theorem directory_map (p : String) : directory (p.map f) = (directory p).map f := by
  have heq : (fun c => decide (c = '/')) ∘ f = fun c => decide (c = '/') := by
    funext c
    simp [hf.slash]
  rw [directory, directory, String.toList_map, splitLast_map hf, map_ofList]
  dsimp only
  rw [List.all_map, heq, ← List.map_reverse, List.dropWhile_map, heq, ← List.map_reverse]
  split
  · rfl
  · rfl

theorem splitNameAtDot_map (n : List Char) :
    splitNameAtDot (n.map f) = ((splitNameAtDot n).1.map f, (splitNameAtDot n).2.map f) := by
  have hne : (fun c => decide (c ≠ '.')) ∘ f = fun c => decide (c ≠ '.') := by
    funext c
    simp [hf.dot]
  have heq : (fun c => decide (c = '.')) ∘ f = fun c => decide (c = '.') := by
    funext c
    simp [hf.dot]
  have hdot : f '.' = '.' := (hf.dot '.').2 rfl
  unfold splitNameAtDot
  rw [← List.map_reverse, List.dropWhile_map, List.takeWhile_map, hne]
  cases n.reverse.dropWhile (fun c => decide (c ≠ '.')) with
  | nil => rfl
  | cons c stem =>
    simp only [List.map_cons, List.all_map, heq]
    split
    · rfl
    · simp [hdot]

theorem splitExtension_map (p : String) : splitExtension (p.map f) =
    ((splitExtension p).1.map f, (splitExtension p).2.map f) := by
  unfold splitExtension
  rw [String.toList_map, splitLast_map hf]
  dsimp only
  rw [splitNameAtDot_map hf, map_ofList, map_ofList, List.map_append]

end Maps

/-! ## Spellings -/

/-- A character up to its spelling: a slash for a backslash, and a small letter for a capital one
    of ASCII. -/
def spelling (c : Char) : Char :=
  (slash c).toLower

/-- The paths differ at most in slashes for backslashes, and in the case of letters of ASCII. -/
def Respelled (p q : String) : Prop :=
  p.toList.map spelling = q.toList.map spelling

instance (p q : String) : Decidable (Respelled p q) :=
  inferInstanceAs (Decidable (p.toList.map spelling = q.toList.map spelling))

theorem keepsMarks_toLower : KeepsMarks Char.toLower :=
  ⟨toLower_eq_iff (by decide), toLower_eq_iff (by decide)⟩

theorem spelling_toLower (c : Char) : spelling c.toLower = spelling c := by
  refine toLower_cases (P := fun c d => spelling d = spelling c) (fun _ => rfl) ?_ c
  decide +kernel

theorem spelling_eq_slash {c : Char} : spelling c = '/' ↔ c = '/' ∨ c = '\\' := by
  rw [spelling, keepsMarks_toLower.slash, slash]
  split
  · next h => simp [h]
  · next h => simp [h]

theorem spelling_eq_colon {c : Char} : spelling c = ':' ↔ c = ':' := by
  rw [spelling, toLower_eq_iff (by decide), slash]
  split
  · next h => simp [h]
  · rfl

theorem map_spelling (p : String) : p.map spelling = (withSlashes p).map Char.toLower := by
  rw [withSlashes, map_ofList, List.map_map, ← String.toList_inj, String.toList_map,
    String.toList_ofList]
  rfl

namespace Respelled

variable {p q : String}

theorem refl (p : String) : Respelled p p := rfl

theorem iff_map : Respelled p q ↔ p.map spelling = q.map spelling := by
  rw [Respelled, ← String.toList_inj, String.toList_map, String.toList_map]

theorem iff_withSlashes :
    Respelled p q ↔ (withSlashes p).map Char.toLower = (withSlashes q).map Char.toLower := by
  rw [iff_map, map_spelling, map_spelling]

/-- Texts that differ only in the case of letters. -/
theorem of_map_toLower (h : p.map Char.toLower = q.map Char.toLower) : Respelled p q := by
  have hspelling : spelling ∘ Char.toLower = spelling := funext spelling_toLower
  have hmap := congrArg (String.map spelling) h
  rwa [String.map_map, String.map_map, hspelling, ← iff_map] at hmap

theorem append (h : Respelled p q) {p' q' : String} (h' : Respelled p' q') :
    Respelled (p ++ p') (q ++ q') := by
  rw [iff_map, map_append, map_append, iff_map.1 h, iff_map.1 h']

theorem eq_empty_iff (h : Respelled p q) : p = "" ↔ q = "" := by
  rw [← String.map_eq_empty (f := spelling), iff_map.1 h, String.map_eq_empty]

/-- What follows from a path with slashes, up to the case of letters, is the same for all
    spellings. -/
theorem congr {α : Type} (h : Respelled p q) {g : String → α}
    (hg : ∀ s, g (s.map Char.toLower) = g s) : g (withSlashes p) = g (withSlashes q) := by
  rw [← hg (withSlashes p), Respelled.iff_withSlashes.1 h, hg]

end Respelled

/-! ## What is compared -/

variable {p q : String}

theorem normalize_congr (h : Respelled p q) : normalize p = normalize q := by
  have hcollapse (s : String) : lower (collapse (s.map Char.toLower)) = lower (collapse s) := by
    rw [collapse_map keepsMarks_toLower, lower_map_toLower]
  simp only [normalize, h.eq_empty_iff]
  rw [h.congr (g := fun s => lower (collapse s)) hcollapse]

theorem isMatching_congr (h : Respelled p q) {p' q' : String} (h' : Respelled p' q') :
    isMatching p p' = isMatching q q' := by
  rw [isMatching, isMatching, normalize_congr h, normalize_congr h']

theorem isRootedUnder_congr (h : Respelled p q) {root root' : String} (h' : Respelled root root') :
    isRootedUnder p root = isRootedUnder q root' := by
  simp only [isRootedUnder, rootPrefix, normalize_congr h, normalize_congr h', ne_eq,
    h.eq_empty_iff, h'.eq_empty_iff]

theorem lower_fileName_congr (h : Respelled p q) : lower (fileName p) = lower (fileName q) := by
  have hname (s : String) : lower (name (s.map Char.toLower)) = lower (name s) := by
    rw [name_map keepsMarks_toLower, lower_map_toLower]
  exact h.congr (g := fun s => lower (name s)) hname

theorem ofPath_congr (h : Respelled p q) : SourceKind.ofPath p = SourceKind.ofPath q := by
  have hextension (s : String) :
      lower (splitExtension (s.map Char.toLower)).2 = lower (splitExtension s).2 := by
    rw [splitExtension_map keepsMarks_toLower, lower_map_toLower]
  have hsame : extension p = extension q :=
    h.congr (g := fun s => lower (splitExtension s).2) hextension
  rw [SourceKind.ofPath, SourceKind.ofPath, isHeader, isHeader, hsame]

theorem isAbsolute_eq (p : String) : isAbsolute p =
    match p.toList.map spelling with
    | [] => false
    | c :: rest => c = '/' || rest.head? = some ':' := by
  rw [isAbsolute]
  cases p.toList with
  | nil => rfl
  | cons c rest =>
    rw [List.map_cons]
    dsimp only
    have hcolon : (rest.map spelling).head? = some ':' ↔ rest.head? = some ':' := by
      cases rest with
      | nil => rfl
      | cons d rest => simp [spelling_eq_colon]
    simp only [hcolon, spelling_eq_slash, Bool.decide_or]

theorem isAbsolute_congr (h : Respelled p q) : isAbsolute p = isAbsolute q := by
  rw [isAbsolute_eq, isAbsolute_eq, h]

namespace Respelled

theorem directoryName (h : Respelled p q) :
    Respelled (directoryName p) (directoryName q) := by
  refine of_map_toLower ?_
  rw [Path.directoryName, Path.directoryName, ← directory_map keepsMarks_toLower,
    ← directory_map keepsMarks_toLower, Respelled.iff_withSlashes.1 h]

theorem candidates (h : Respelled p q) (extensions : List String) :
    List.Forall₂ Respelled (candidates p extensions) (candidates q extensions) := by
  have hstem : Respelled (splitExtension (withSlashes p)).1 (splitExtension (withSlashes q)).1 := by
    have hp := splitExtension_map keepsMarks_toLower (withSlashes p)
    have hq := splitExtension_map keepsMarks_toLower (withSlashes q)
    rw [Respelled.iff_withSlashes.1 h] at hp
    exact of_map_toLower (congrArg Prod.fst (hp.symm.trans hq))
  rw [Path.candidates, Path.candidates, List.forall₂_map_left_iff, List.forall₂_map_right_iff,
    List.forall₂_same]
  exact fun extension _ => hstem.append (refl extension)

theorem resolve (h : Respelled p q) {dir dir' : String} (h' : Respelled dir dir') :
    Respelled (resolve p dir) (resolve q dir') := by
  unfold Path.resolve
  rw [isAbsolute_congr h]
  simp only [h.eq_empty_iff, h'.eq_empty_iff]
  split
  · exact h
  · refine of_map_toLower ?_
    rw [← join_map keepsMarks_toLower, ← join_map keepsMarks_toLower, Respelled.iff_withSlashes.1 h,
      Respelled.iff_withSlashes.1 h']

end Respelled

end CompileCommands.Path
