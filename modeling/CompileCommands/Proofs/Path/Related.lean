/-
  Paths related character by character.

  * `RelatesMarks`: a relation of characters that relates slashes only to slashes and dots only to
    dots;
  * `Related`: texts of one length with related characters;
  * `forall₂_pieces`, `anchorOf_congr`, `forall₂_lowest`: related paths go in pieces, and into lowest
    terms, in the same way;
  * `Related.ofText`, `Lexical.Related.text`, `Related.collapse`: so their lowest terms are
    related;
  * `forall_mem_collapse`: if all characters of a path have a property that slashes and dots have,
    those of its lowest terms do. This is the case of a relation of characters with themselves.
-/
import CompileCommands.Path.Lexical
import Mathlib.Data.List.Forall2

namespace CompileCommands.Path

/-! ## Relations of characters -/

/-- Slashes are related to themselves and to nothing else, and so are dots. -/
structure RelatesMarks (R : Char → Char → Prop) : Prop where
  slash : R '/' '/'
  dot : R '.' '.'
  slash_iff : ∀ c d, R c d → (c = '/' ↔ d = '/')
  dot_iff : ∀ c d, R c d → (c = '.' ↔ d = '.')

/-- Characters with a property, related to themselves. -/
theorem relatesMarks_self {P : Char → Prop} (hslash : P '/') (hdot : P '.') :
    RelatesMarks fun c d => c = d ∧ P c where
  slash := ⟨rfl, hslash⟩
  dot := ⟨rfl, hdot⟩
  slash_iff c d h := by rw [h.1]
  dot_iff c d h := by rw [h.1]

theorem forall₂_self_iff {α : Type} {P : α → Prop} {s t : List α} :
    List.Forall₂ (fun a b => a = b ∧ P a) s t ↔ s = t ∧ ∀ a ∈ s, P a := by
  constructor
  · intro h
    induction h with
    | nil => simp
    | cons hab _ ih =>
      obtain ⟨rfl, ha⟩ := hab
      obtain ⟨rfl, hrest⟩ := ih
      exact ⟨rfl, List.forall_mem_cons.2 ⟨ha, hrest⟩⟩
  · rintro ⟨rfl, h⟩
    exact List.forall₂_same.2 fun a ha => ⟨rfl, h a ha⟩

/-- Texts of one length whose characters are related. -/
def Related (R : Char → Char → Prop) (p q : String) : Prop :=
  List.Forall₂ R p.toList q.toList

/-- Paths in lowest terms with the same anchor and related names. -/
structure Lexical.Related (R : Char → Char → Prop) (p q : Lexical) : Prop where
  anchor : p.anchor = q.anchor
  names : List.Forall₂ (Path.Related R) p.names q.names

section Relation

variable {R : Char → Char → Prop}

theorem related_ofList {s t : List Char} :
    Related R (String.ofList s) (String.ofList t) ↔ List.Forall₂ R s t := by
  rw [Related, String.toList_ofList, String.toList_ofList]

theorem Related.append {p p' q q' : String} (h : Related R p q) (h' : Related R p' q') :
    Related R (p ++ p') (q ++ q') := by
  rw [Related, String.toList_append, String.toList_append]
  exact List.rel_append h h'

variable (hR : RelatesMarks R)
include hR

/-! ## Lowest terms -/

/-- A name without other characters than dots is related only to itself. -/
theorem Related.eq_iff {p q t : String} (h : Related R p q) (ht : t.toList.all (· = '.')) :
    p = t ↔ q = t := by
  rw [← String.toList_inj, ← String.toList_inj]
  unfold Related at h
  generalize p.toList = s at h
  generalize q.toList = s' at h
  generalize t.toList = l at ht
  induction h generalizing l with
  | nil => rfl
  | @cons c d s s' hcd _ ih =>
    cases l with
    | nil => simp
    | cons e l =>
      rw [List.all_cons, Bool.and_eq_true, decide_eq_true_eq] at ht
      rw [List.cons.injEq, List.cons.injEq, ht.1, hR.dot_iff c d hcd, ih l ht.2]

theorem forall₂_pieces {s t : List Char} (h : List.Forall₂ R s t) :
    List.Forall₂ (List.Forall₂ R) (pieces s) (pieces t) := by
  induction h with
  | nil => simp [pieces, List.splitOn_nil]
  | @cons c d s t hcd _ ih =>
    rw [pieces, pieces, List.splitOn_cons_eq_if_modifyHead, List.splitOn_cons_eq_if_modifyHead,
      ← pieces, ← pieces]
    have hiff := hR.slash_iff c d hcd
    by_cases hc : c = '/'
    · rw [if_pos (beq_iff_eq.2 hc), if_pos (beq_iff_eq.2 (hiff.1 hc))]
      exact .cons .nil ih
    · rw [if_neg (by simpa using hc), if_neg (by simpa using mt hiff.2 hc)]
      generalize pieces s = first at ih
      generalize pieces t = first' at ih
      cases ih with
      | nil => exact .nil
      | cons hfirst hrest => exact .cons (.cons hcd hfirst) hrest

theorem anchorOf_congr {s t : List Char} (h : List.Forall₂ R s t) : anchorOf s = anchorOf t := by
  have hslash {c d : Char} (hcd : R c d) : (c = '/' ∧ d = '/') ∨ (c ≠ '/' ∧ d ≠ '/') := by
    have hiff := hR.slash_iff c d hcd
    by_cases hc : c = '/'
    · exact .inl ⟨hc, hiff.1 hc⟩
    · exact .inr ⟨hc, mt hiff.2 hc⟩
  -- no more than three characters count
  match s, t, h with
  | [], [], .nil => rfl
  | [a], [a'], .cons ha .nil =>
    rcases hslash ha with ⟨rfl, rfl⟩ | ⟨ha, ha'⟩
    · rfl
    · simp [anchorOf, ha, ha']
  | [a, b], [a', b'], .cons ha (.cons hb .nil) =>
    rcases hslash ha with ⟨rfl, rfl⟩ | ⟨ha, ha'⟩
    · rcases hslash hb with ⟨rfl, rfl⟩ | ⟨hb, hb'⟩
      · rfl
      · simp [anchorOf, hb, hb']
    · simp [anchorOf, ha, ha']
  | a :: b :: c :: s, a' :: b' :: c' :: t, .cons ha (.cons hb (.cons hc _)) =>
    rcases hslash ha with ⟨rfl, rfl⟩ | ⟨ha, ha'⟩
    · rcases hslash hb with ⟨rfl, rfl⟩ | ⟨hb, hb'⟩
      · rcases hslash hc with ⟨rfl, rfl⟩ | ⟨hc, hc'⟩
        · rfl
        · simp [anchorOf, hc, hc']
      · simp [anchorOf, hb, hb']
    · simp [anchorOf, ha, ha']

theorem forall₂_descend {names names' : List String} {name name' : String}
    (hnames : List.Forall₂ (Related R) names names') (hname : Related R name name')
    (anchored : Bool) :
    List.Forall₂ (Related R) (descend anchored names name) (descend anchored names' name') := by
  have hempty : name = "" ↔ name' = "" := hname.eq_iff hR (by decide)
  have hdot : name = "." ↔ name' = "." := hname.eq_iff hR (by decide)
  have hdots : name = ".." ↔ name' = ".." := hname.eq_iff hR (by decide)
  have hstays : (name = "" ∨ name = ".") ↔ (name' = "" ∨ name' = ".") := or_congr hempty hdot
  unfold descend
  by_cases hstay : name = "" ∨ name = "."
  · rw [if_pos hstay, if_pos (hstays.1 hstay)]
    exact hnames
  · rw [if_neg hstay, if_neg (mt hstays.2 hstay)]
    by_cases hback : name = ".."
    · have hup : Related R ".." ".." := .cons hR.dot (.cons hR.dot .nil)
      rw [if_pos hback, if_pos (hdots.1 hback)]
      cases hnames with
      | nil =>
        cases anchored with
        | false => exact .cons hup .nil
        | true => exact .nil
      | @cons inner inner' outer outer' hinner houter =>
        have hiff : inner = ".." ↔ inner' = ".." := hinner.eq_iff hR (by decide)
        by_cases hinnermost : inner = ".."
        · simp only [if_pos hinnermost, if_pos (hiff.1 hinnermost)]
          exact .cons hup (.cons hinner houter)
        · simp only [if_neg hinnermost, if_neg (mt hiff.2 hinnermost)]
          exact houter
    · rw [if_neg hback, if_neg (mt hdots.2 hback)]
      exact .cons hname hnames

/-- From related names on, by induction on the names that follow. -/
theorem forall₂_lowest {start start' names names' : List String}
    (hstart : List.Forall₂ (Related R) start start')
    (hnames : List.Forall₂ (Related R) names names') (anchored : Bool) :
    List.Forall₂ (Related R) (lowest anchored start names) (lowest anchored start' names') := by
  rw [lowest, lowest, List.forall₂_reverse_iff]
  induction hnames generalizing start start' with
  | nil => exact hstart
  | cons hname _ ih => exact ih (forall₂_descend hR hstart hname anchored)

/-! ## Texts -/

theorem Related.ofText {p q : String} (h : Related R p q) :
    Lexical.Related R (.ofText p) (.ofText q) := by
  have hpieces : List.Forall₂ (Related R) ((pieces p.toList).map String.ofList)
      ((pieces q.toList).map String.ofList) := by
    rw [List.forall₂_map_left_iff, List.forall₂_map_right_iff]
    exact (forall₂_pieces hR h).imp fun _ _ => related_ofList.2
  have hanchor : anchorOf p.toList = anchorOf q.toList := anchorOf_congr hR h
  refine ⟨hanchor, ?_⟩
  dsimp only [Lexical.ofText]
  rw [hanchor]
  exact forall₂_lowest hR .nil hpieces _

theorem related_intercalate {names names' : List String}
    (h : List.Forall₂ (Related R) names names') :
    Related R (String.intercalate "/" names) (String.intercalate "/" names') := by
  have hslash : "/".toList = ['/'] := by decide
  rw [Related, String.toList_intercalate, String.toList_intercalate, hslash]
  induction h with
  | nil => exact .nil
  | cons hname hnames ih =>
    cases hnames with
    | nil =>
      simp only [List.map_cons, List.map_nil, List.intercalate_singleton]
      exact hname
    | cons hnext hrest =>
      simp only [List.map_cons, List.intercalate_cons_cons] at ih ⊢
      exact List.rel_append (List.rel_append hname (.cons hR.slash .nil)) ih

theorem Lexical.Related.text {p q : Lexical} (h : Lexical.Related R p q) :
    Path.Related R p.text q.text := by
  obtain ⟨anchor, names⟩ := p
  obtain ⟨anchor', names'⟩ := q
  obtain ⟨hanchor, hnames⟩ := h
  dsimp only at hanchor hnames
  subst hanchor
  have hwhole : Path.Related R (anchor.text ++ String.intercalate "/" names)
      (anchor.text ++ String.intercalate "/" names') := by
    refine .append ?_ (related_intercalate hR hnames)
    cases anchor with
    | relative => exact .nil
    | root => exact .cons hR.slash .nil
    | doubleRoot => exact .cons hR.slash (.cons hR.slash .nil)
  cases hnames with
  | cons hname hrest => cases anchor <;> exact hwhole
  | nil =>
    cases anchor with
    | relative => exact .cons hR.dot .nil
    | root => exact hwhole
    | doubleRoot => exact hwhole

theorem Related.collapse {p q : String} (h : Related R p q) :
    Related R (collapse p) (collapse q) :=
  (h.ofText hR).text hR

end Relation

theorem forall_mem_collapse {P : Char → Prop} (hslash : P '/') (hdot : P '.') {p : String}
    (h : ∀ c ∈ p.toList, P c) : ∀ c ∈ (collapse p).toList, P c := by
  have hself : Related (fun c d => c = d ∧ P c) p p := forall₂_self_iff.2 ⟨rfl, h⟩
  exact (forall₂_self_iff.1 (hself.collapse (relatesMarks_self hslash hdot))).2

end CompileCommands.Path
