/-
  Paths in normal form.

  * `IsNormal`: the text of a path in normal form; `isNormal_collapse`, `IsNormal.collapse_eq`: these
    are the texts in lowest terms, and they stay as they are;
  * `IsNormal.lower`: lower case does not change this, since it makes no slashes and no dots;
  * `IsNormal.getLast?_cases`: such a text ends with a slash only if it has nothing else;
  * `normalize_isNormal`: so the form in which paths are compared is normal, and stays as it is.
-/
import CompileCommands.Path.Comparison
import CompileCommands.Proofs.Path.Reduced
import CompileCommands.Proofs.Path.Style
import CompileCommands.Proofs.Text.Lowered

namespace CompileCommands.Path

open Text

/-! ## Texts -/

/-- The text of a path in normal form. -/
inductive IsNormal : String → Prop
  /-- Where a relative path begins. -/
  | here : IsNormal "."
  /-- The root, with one slash or two. -/
  | root {slashes : String} (h : slashes ∈ ["/", "//"]) : IsNormal slashes
  /-- Steps up, then names that lead down. -/
  | relative {ups : ℕ} {downs : List String} (hdowns : ∀ name ∈ downs, IsPlain name)
      (hne : List.replicate ups ".." ++ downs ≠ []) :
      IsNormal (String.intercalate "/" (List.replicate ups ".." ++ downs))
  /-- Names that lead down from the root. -/
  | rooted {slashes : String} {downs : List String} (h : slashes ∈ ["/", "//"])
      (hdowns : ∀ name ∈ downs, IsPlain name) (hne : downs ≠ []) :
      IsNormal (slashes ++ String.intercalate "/" downs)

theorem exists_anchor_iff {slashes : String} :
    slashes ∈ ["/", "//"] ↔ ∃ anchor : Anchor, anchor ≠ .relative ∧ anchor.text = slashes := by
  constructor
  · intro h
    rcases List.mem_pair.1 h with rfl | rfl
    · exact ⟨.root, by decide, rfl⟩
    · exact ⟨.doubleRoot, by decide, rfl⟩
  · rintro ⟨anchor, hanchor, rfl⟩
    cases anchor with
    | relative => exact absurd rfl hanchor
    | root => decide
    | doubleRoot => decide

theorem isNormal_text {p : Lexical} (h : p.IsReduced) : IsNormal p.text := by
  obtain ⟨anchor, names⟩ := p
  obtain ⟨ups, downs, hnames, hups, hdowns⟩ := h.exists_run
  rw [List.reverse_reverse] at hnames
  dsimp only at hnames hups
  subst hnames
  by_cases hanchor : anchor = .relative
  · subst hanchor
    by_cases hne : List.replicate ups ".." ++ downs = []
    · rw [hne]
      exact .here
    · rw [Lexical.text_eq (.inr hne)]
      exact String.empty_append ▸ .relative hdowns hne
  · have hslashes : anchor.text ∈ ["/", "//"] := exists_anchor_iff.2 ⟨anchor, hanchor, rfl⟩
    rw [hups (decide_eq_true hanchor), List.replicate_zero, List.nil_append,
      Lexical.text_eq (.inl hanchor)]
    by_cases hne : downs = []
    · rw [hne, String.intercalate_nil, String.append_empty]
      exact .root hslashes
    · exact .rooted hslashes hdowns hne

namespace IsNormal

variable {t : String}

theorem exists_text (h : IsNormal t) : ∃ p : Lexical, p.IsReduced ∧ p.text = t := by
  cases h with
  | here => exact ⟨⟨.relative, []⟩, .nil, rfl⟩
  | root h =>
    obtain ⟨anchor, hanchor, rfl⟩ := exists_anchor_iff.1 h
    refine ⟨⟨anchor, []⟩, .nil, ?_⟩
    rw [Lexical.text_eq (.inl hanchor), String.intercalate_nil, String.append_empty]
  | @relative ups downs hdowns hne =>
    refine ⟨⟨.relative, List.replicate ups ".." ++ downs⟩, .of_run nofun hdowns, ?_⟩
    rw [Lexical.text_eq (.inr hne)]
    exact String.empty_append
  | @rooted _ downs h hdowns hne =>
    obtain ⟨anchor, -, rfl⟩ := exists_anchor_iff.1 h
    have hreduced : Reduced (anchor ≠ .relative) (List.replicate 0 ".." ++ downs).reverse :=
      .of_run (fun _ => rfl) hdowns
    exact ⟨⟨anchor, downs⟩, hreduced, Lexical.text_eq (.inr hne)⟩

/-- A text in normal form is in lowest terms. -/
theorem collapse_eq (h : IsNormal t) : collapse t = t := by
  obtain ⟨p, hp, rfl⟩ := h.exists_text
  rw [collapse, hp.ofText_text]

end IsNormal

theorem isNormal_collapse (p : String) : IsNormal (collapse p) :=
  isNormal_text (Lexical.isReduced_ofText p)

/-! ## Ends -/

theorem exists_getLast?_intercalate {names : List String} (hne : names ≠ [])
    (hnames : ∀ name ∈ names, '/' ∉ name.toList ∧ name ≠ "") :
    ∃ c, c ≠ '/' ∧ (String.intercalate "/" names).toList.getLast? = some c := by
  induction names with
  | nil => exact absurd rfl hne
  | cons name names ih =>
    rw [List.forall_mem_cons] at hnames
    obtain ⟨⟨hslash, hname⟩, hnames⟩ := hnames
    cases names with
    | nil =>
      rw [String.intercalate_singleton]
      have hchars : name.toList ≠ [] := by simpa using hname
      refine ⟨name.toList.getLast hchars, ?_, List.getLast?_eq_some_getLast hchars⟩
      intro hlast
      exact hslash (hlast ▸ List.getLast_mem hchars)
    | cons next names =>
      obtain ⟨c, hc, hlast⟩ := ih (List.cons_ne_nil next names) hnames
      refine ⟨c, hc, ?_⟩
      rw [String.intercalate_cons_cons, String.toList_append, List.getLast?_append_of_ne_nil, hlast]
      rintro hnil
      rw [hnil] at hlast
      cases hlast

/-- Only the root ends with a slash. -/
theorem IsNormal.getLast?_cases {t : String} (h : IsNormal t) :
    t ∈ ["/", "//"] ∨ ∃ c, c ≠ '/' ∧ t.toList.getLast? = some c := by
  cases h with
  | here => exact .inr ⟨'.', by decide, by decide⟩
  | root h => exact .inl h
  | relative hdowns hne =>
    refine .inr (exists_getLast?_intercalate hne (List.forall_mem_append.2 ⟨?_, ?_⟩))
    · intro name hname
      rw [(List.mem_replicate.1 hname).2]
      decide
    · exact fun name hname => ⟨(hdowns name hname).slash, (hdowns name hname).empty⟩
  | rooted h hdowns hne =>
    obtain ⟨c, hc, hlast⟩ := exists_getLast?_intercalate hne fun name hname =>
      ⟨(hdowns name hname).slash, (hdowns name hname).empty⟩
    refine .inr ⟨c, hc, ?_⟩
    rw [String.toList_append, List.getLast?_append, hlast, Option.some_or]

theorem IsNormal.ne_empty {t : String} (h : IsNormal t) : t ≠ "" := by
  rintro rfl
  rcases h.getLast?_cases with hroot | ⟨c, -, hlast⟩
  · exact absurd hroot (by decide)
  · cases hlast

/-! ## Lower case -/

theorem lower_slashes_append {slashes : String} (h : slashes ∈ ["/", "//"]) (s : String) :
    lower (slashes ++ s) = slashes ++ lower s := by
  have hslash (s : String) : lower ("/" ++ s) = "/" ++ lower s := by
    have happend := lower_append_slash "" s
    rwa [String.empty_append, lower_empty, String.empty_append] at happend
  rcases List.mem_pair.1 h with rfl | rfl
  · exact hslash s
  · have hdouble : "//" = "/" ++ "/" := by decide
    rw [hdouble, String.append_assoc, hslash, hslash, String.append_assoc]

theorem IsPlain.lower {name : String} (h : IsPlain name) : IsPlain (lower name) where
  slash := by rw [mem_lower_iff isMark_slash]; exact h.slash
  empty := by rw [ne_eq, lower_eq_iff_of_dots (by decide)]; exact h.empty
  dot := by rw [ne_eq, lower_eq_iff_of_dots (by decide)]; exact h.dot
  dots := by rw [ne_eq, lower_eq_iff_of_dots (by decide)]; exact h.dots

/-- What is in normal form is so in lower case: names that lead down still do, and no others. -/
theorem IsNormal.lower {t : String} (h : IsNormal t) : IsNormal (lower t) := by
  have hdowns {downs : List String} (hplain : ∀ name ∈ downs, IsPlain name) :
      ∀ name ∈ downs.map Text.lower, IsPlain name :=
    List.forall_mem_map.2 fun name hname => (hplain name hname).lower
  cases h with
  | here =>
    rw [(lower_eq_iff_of_dots (by decide) ".").2 rfl]
    exact .here
  | root h =>
    have hslashes := lower_slashes_append h ""
    rw [String.append_empty, lower_empty, String.append_empty] at hslashes
    rw [hslashes]
    exact .root h
  | relative hplain hne =>
    have hup : Text.lower ".." = ".." := (lower_eq_iff_of_dots (by decide) "..").2 rfl
    rw [lower_intercalate, List.map_append, List.map_replicate, hup]
    refine .relative (hdowns hplain) ?_
    simpa using hne
  | rooted h hplain hne =>
    rw [lower_slashes_append h, lower_intercalate]
    exact .rooted h (hdowns hplain) (by simpa using hne)

/-! ## Comparison -/

theorem normalize_eq {p : String} (h : p ≠ "") :
    normalize p = Text.lower (collapse (withSlashes p)) :=
  if_neg h

theorem isNormal_normalize {p : String} (h : p ≠ "") : IsNormal (normalize p) := by
  rw [normalize_eq h]
  exact (isNormal_collapse _).lower

theorem normalize_eq_empty_iff (p : String) : normalize p = "" ↔ p = "" := by
  constructor
  · intro hempty
    by_contra h
    exact (isNormal_normalize h).ne_empty hempty
  · rintro rfl
    rfl

theorem backslash_not_mem_normalize (p : String) : '\\' ∉ (normalize p).toList := by
  unfold normalize
  split
  · simp
  · rw [mem_lower_iff isMark_backslash]
    exact backslash_not_mem_collapse p

theorem lower_normalize (p : String) : lower (normalize p) = normalize p := by
  unfold normalize
  split
  · rfl
  · exact lower_lower _

/-- A text in normal form without backslashes and capitals is what it is compared as. -/
theorem normalize_eq_self {t : String} (h : t = "" ∨ IsNormal t) (hback : '\\' ∉ t.toList)
    (hlower : lower t = t) : normalize t = t := by
  rcases h with rfl | h
  · rfl
  · rw [normalize_eq h.ne_empty, withSlashes_of_not_mem hback, h.collapse_eq, hlower]

theorem normalize_cases (p : String) : normalize p = "" ∨ IsNormal (normalize p) := by
  by_cases h : p = ""
  · exact .inl ((normalize_eq_empty_iff p).2 h)
  · exact .inr (isNormal_normalize h)

theorem normalize_normalize (p : String) : normalize (normalize p) = normalize p :=
  normalize_eq_self (normalize_cases p) (backslash_not_mem_normalize p) (lower_normalize p)

theorem getLast?_normalize_iff (p : String) :
    (normalize p).toList.getLast? = some '/' ↔ normalize p ∈ ["/", "//"] := by
  constructor
  · intro hslash
    rcases normalize_cases p with hempty | hnormal
    · rw [hempty] at hslash
      cases hslash
    · refine hnormal.getLast?_cases.resolve_right ?_
      rintro ⟨c, hc, hlast⟩
      exact hc (Option.some.inj (hlast.symm.trans hslash))
  · intro h
    rcases List.mem_pair.1 h with hroot | hroot
    · rw [hroot]
      decide
    · rw [hroot]
      decide

/-- The form in which paths are compared. It has no backslash, and is empty only for the empty path.
    Otherwise it is a dot, one or two slashes, or names with no slash, one or two in front: no name is
    empty or a dot, and `..` stands only in front of a relative path. It ends with a slash only if it
    has nothing else. It is compared as it stands. So is a text without backslashes that has this
    shape and is its own lower case, and no other. -/
theorem normalize_isNormal (p : String) :
    '\\' ∉ (normalize p).toList ∧
    (normalize p = "" ↔ p = "") ∧
    (p = "" ∨ IsNormal (normalize p)) ∧
    ((normalize p).toList.getLast? = some '/' ↔ normalize p ∈ ["/", "//"]) ∧
    normalize (normalize p) = normalize p ∧
    (normalize p = p ↔ (p = "" ∨ IsNormal p) ∧ '\\' ∉ p.toList ∧ lower p = p) := by
  have hback := backslash_not_mem_normalize p
  have hlower := lower_normalize p
  have hcases := normalize_cases p
  refine ⟨hback, normalize_eq_empty_iff p, ?_, getLast?_normalize_iff p, normalize_normalize p, ?_⟩
  · exact hcases.imp_left (normalize_eq_empty_iff p).1
  · constructor
    · intro hself
      rw [hself] at hback hlower hcases
      exact ⟨hcases, hback, hlower⟩
    · rintro ⟨hnormal, hback, hlower⟩
      exact normalize_eq_self hnormal hback hlower

example : normalize "C:\\Src\\.\\lib\\..\\Main.CPP" = "c:/src/main.cpp" ∧
    normalize "a/../..\\..//B/./" = "../../b" := by decide +kernel

end CompileCommands.Path
