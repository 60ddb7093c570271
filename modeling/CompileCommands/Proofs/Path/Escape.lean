/-
  Paths without escape characters.

  * `hide`: a map of characters that changes escape characters alone; `escapeFree_iff_hide`: a text
    has none exactly if the map leaves it as it is;
  * `EscapeFree.path_join`, `EscapeFree.ofText` and so on: so what is done with paths, which commutes
    with the map, does not bring one in.
-/
import CompileCommands.Proofs.Path.Spelling
import CompileCommands.Proofs.Text.Escape

namespace CompileCommands

open Text CompileCommands.Path

/-! ## Hidden escape characters -/

/-- Another character for an escape character. -/
def Path.hide (c : Char) : Char :=
  if c = escape then '?' else c

theorem Path.keepsMarks_hide : KeepsMarks hide := by
  constructor <;>
  · intro c
    unfold hide
    split
    · next h =>
      rw [h]
      decide
    · rfl

theorem hide_eq_self_iff {c : Char} : hide c = c ↔ EscapeFree c := by
  unfold hide
  split
  · next h =>
    rw [h]
    decide
  · next h => exact iff_of_true rfl h

theorem map_eq_self_iff {α : Type} {f : α → α} {l : List α} :
    l.map f = l ↔ ∀ a ∈ l, f a = a := by
  have hid : l.map f = l.map id ↔ ∀ a ∈ l, f a = id a := List.map_inj_left
  rwa [List.map_id] at hid

theorem escapeFree_iff_hide {s : String} : EscapeFree s ↔ s.map hide = s := by
  rw [← String.toList_inj, String.toList_map, map_eq_self_iff]
  exact forall₂_congr fun c _ => hide_eq_self_iff.symm

theorem escapeFree_iff_map_hide {names : List String} :
    EscapeFree names ↔ names.map (String.map hide) = names := by
  rw [map_eq_self_iff]
  exact forall₂_congr fun name _ => escapeFree_iff_hide

/-! ## Paths -/

instance : Textual Lexical := ⟨fun p => EscapeFree p.names⟩

theorem escapeFree_iff_map {p : Lexical} : EscapeFree p ↔ p.map hide = p := by
  obtain ⟨anchor, names⟩ := p
  rw [Lexical.map, Lexical.mk.injEq, eq_self, true_and]
  exact escapeFree_iff_map_hide

namespace EscapeFree

variable {d p : String} {start names : List String}

theorem lowest (hstart : EscapeFree start) (hnames : EscapeFree names) (anchored : Bool) :
    EscapeFree (Path.lowest anchored start names) := by
  rw [escapeFree_iff_map_hide] at *
  rw [← lowest_map keepsMarks_hide, hstart, hnames]

theorem pieces (h : EscapeFree p) : EscapeFree ((Path.pieces p.toList).map String.ofList) := by
  rw [escapeFree_iff_hide] at h
  have hmap : String.map hide ∘ String.ofList = String.ofList ∘ List.map hide :=
    funext (map_ofList hide)
  rw [escapeFree_iff_map_hide, List.map_map, hmap, ← List.map_map, ← pieces_map keepsMarks_hide,
    ← String.toList_map, h]

theorem ofText (h : EscapeFree p) : EscapeFree (Lexical.ofText p) := by
  rw [escapeFree_iff_hide] at h
  rw [escapeFree_iff_map, ← ofText_map keepsMarks_hide, h]

theorem text {p : Lexical} (h : EscapeFree p) : EscapeFree p.text := by
  rw [escapeFree_iff_map] at h
  rw [escapeFree_iff_hide, ← text_map keepsMarks_hide, h]

theorem collapse (h : EscapeFree p) : EscapeFree (Path.collapse p) :=
  h.ofText.text

theorem path_join (hd : EscapeFree d) (hp : EscapeFree p) : EscapeFree (Path.join d p) := by
  rw [escapeFree_iff_hide] at *
  rw [← join_map keepsMarks_hide, hd, hp]

theorem joinAll {parts : List String} (hd : EscapeFree d) (hparts : EscapeFree parts) :
    EscapeFree (Path.joinAll d parts) := by
  induction parts generalizing d with
  | nil => exact hd
  | cons part parts ih =>
    obtain ⟨hpart, hparts⟩ := hparts.of_cons
    exact ih (hd.path_join hpart) hparts

theorem anchored (hd : EscapeFree d) (hp : EscapeFree p) : EscapeFree (Path.anchored d p) := by
  unfold Path.anchored
  split
  · exact hp
  · exact hd.path_join hp

theorem directory (h : EscapeFree p) : EscapeFree (Path.directory p) := by
  rw [escapeFree_iff_hide] at *
  rw [← directory_map keepsMarks_hide, h]

theorem path_name (h : EscapeFree p) : EscapeFree (Path.name p) := by
  rw [escapeFree_iff_hide] at *
  rw [← name_map keepsMarks_hide, h]

theorem withSlashes (h : EscapeFree p) : EscapeFree (Path.withSlashes p) := by
  refine .ofList (.map p.toList fun c hc => ?_)
  unfold slash
  split
  · decide
  · exact h c hc

theorem parent {p : Lexical} (h : EscapeFree p) : EscapeFree p.parent :=
  h.subset (List.dropLast_subset p.names)

theorem selfAndParents {p : Lexical} (h : EscapeFree p) : EscapeFree p.selfAndParents :=
  .map _ fun depth _ => h.subset (List.take_subset depth p.names)

end EscapeFree
end CompileCommands
