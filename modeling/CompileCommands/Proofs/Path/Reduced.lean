/-
  Paths in lowest terms, and their texts.

  * `Reduced`: names in lowest terms, innermost first; `Reduced.descend` and `reduced_foldl`: from
    such names on, others lead to such names;
  * `Reduced.foldl_reverse`: read once more, such names stay as they are;
  * `Lexical.IsReduced`, `Lexical.isReduced_ofText`: a path with such names, as every text stands for
    one;
  * `Lexical.IsReduced.anchorOf_text`, `Lexical.IsReduced.ofText_text`: the text of such a path stands
    for the path itself.
-/
import CompileCommands.Proofs.Path.Below

namespace CompileCommands.Path

/-! ## Names -/

/-- Names in lowest terms, innermost first: each leads one step down, but a path that does not begin
    with a slash may have a run of `..` in front of them. -/
inductive Reduced (anchored : Bool) : List String → Prop
  | ups (n : ℕ) (h : anchored → n = 0) : Reduced anchored (List.replicate n "..")
  | down {name : String} {names : List String} :
      IsPlain name → Reduced anchored names → Reduced anchored (name :: names)

theorem foldl_descend_ups (n : ℕ) :
    (List.replicate n "..").foldl (descend false) [] = List.replicate n ".." := by
  induction n with
  | zero => rfl
  | succ n ih =>
    rw [List.replicate_succ', List.foldl_append, ih, ← List.replicate_succ']
    cases n with
    | zero => rfl
    | succ n => rfl

namespace Reduced

variable {anchored : Bool} {names : List String}

theorem nil : Reduced anchored [] :=
  .ups 0 fun _ => rfl

/-- A step takes back a plain name, and goes up from `..` or from where a relative path begins. -/
theorem descend {name : String} (h : Reduced anchored names) (hslash : '/' ∉ name.toList) :
    Reduced anchored (descend anchored names name) := by
  unfold Path.descend
  split
  · exact h
  · next hstay =>
    rw [not_or] at hstay
    split
    · cases h with
      | ups n hups =>
        cases n with
        | zero =>
          cases anchored with
          | true => exact nil
          | false => exact .ups 1 nofun
        | succ n => exact .ups (n + 2) fun hanchored => absurd (hups hanchored) (Nat.succ_ne_zero n)
      | down hinner houter =>
        dsimp only
        rw [if_neg hinner.dots]
        exact houter
    · next hback => exact .down ⟨hslash, hstay.1, hstay.2, hback⟩ h

/-- By induction on the names, which are put back one after the other. -/
theorem foldl_reverse (h : Reduced anchored names) :
    names.reverse.foldl (Path.descend anchored) [] = names := by
  induction h with
  | ups n hups =>
    rw [List.reverse_replicate]
    cases anchored with
    | true =>
      rw [hups rfl]
      rfl
    | false => exact foldl_descend_ups n
  | down hname _ ih =>
    rw [List.reverse_cons, List.foldl_append, ih, List.foldl_cons, List.foldl_nil, hname.descend]

theorem forall_mem {P : String → Prop} (h : Reduced anchored names)
    (hdots : anchored = false → P "..") (hplain : ∀ name, IsPlain name → P name) :
    ∀ name ∈ names, P name := by
  induction h with
  | ups n hups =>
    intro name hname
    obtain ⟨hn, rfl⟩ := List.mem_replicate.1 hname
    exact hdots (Bool.eq_false_iff.2 fun hanchored => hn (hups hanchored))
  | down hname _ ih => exact List.forall_mem_cons.2 ⟨hplain _ hname, ih⟩

theorem exists_run (h : Reduced anchored names) : ∃ (ups : ℕ) (downs : List String),
    names.reverse = List.replicate ups ".." ++ downs ∧ (anchored → ups = 0) ∧
      ∀ name ∈ downs, IsPlain name := by
  induction h with
  | ups n hups => exact ⟨n, [], by rw [List.reverse_replicate, List.append_nil], hups, by simp⟩
  | @down name names hname _ ih =>
    obtain ⟨ups, downs, hnames, hups, hdowns⟩ := ih
    refine ⟨ups, downs ++ [name], ?_, hups, ?_⟩
    · rw [List.reverse_cons, hnames, List.append_assoc]
    · exact List.forall_mem_append.2 ⟨hdowns, List.forall_mem_singleton.2 hname⟩

theorem of_run {ups : ℕ} {downs : List String} (hups : anchored → ups = 0)
    (hdowns : ∀ name ∈ downs, IsPlain name) :
    Reduced anchored (List.replicate ups ".." ++ downs).reverse := by
  rw [List.reverse_append, List.reverse_replicate]
  have hreverse : ∀ name ∈ downs.reverse, IsPlain name := fun name hname =>
    hdowns name (List.mem_reverse.1 hname)
  generalize downs.reverse = names at hreverse
  induction names with
  | nil => exact .ups ups hups
  | cons name names ih =>
    rw [List.forall_mem_cons] at hreverse
    exact .down hreverse.1 (ih hreverse.2)

end Reduced

theorem reduced_foldl {anchored : Bool} {start names : List String} (hstart : Reduced anchored start)
    (hslash : ∀ name ∈ names, '/' ∉ name.toList) :
    Reduced anchored (names.foldl (descend anchored) start) := by
  induction names generalizing start with
  | nil => exact hstart
  | cons name names ih =>
    rw [List.forall_mem_cons] at hslash
    exact ih (hstart.descend hslash.1) hslash.2

/-! ## Texts -/

theorem slash_not_mem_of_mem_pieces (p : List Char) : ∀ piece ∈ pieces p, '/' ∉ piece := by
  induction p with
  | nil => simp [pieces, List.splitOn_nil]
  | cons c p ih =>
    rw [pieces, List.splitOn_cons_eq_if_modifyHead]
    split
    · intro piece hpiece
      rcases List.mem_cons.1 hpiece with rfl | hpiece
      · exact List.not_mem_nil
      · exact ih piece hpiece
    · next hc =>
      cases hp : p.splitOn '/' with
      | nil => simp
      | cons first rest =>
        rw [pieces, hp] at ih
        intro piece hpiece
        rw [List.modifyHead_cons] at hpiece
        rcases List.mem_cons.1 hpiece with rfl | hpiece
        · have hfirst := ih first List.mem_cons_self
          rw [List.mem_cons, not_or]
          exact ⟨fun h => hc (beq_iff_eq.2 h.symm), hfirst⟩
        · exact ih piece (List.mem_cons_of_mem first hpiece)

theorem pieces_slash (rest : List Char) : pieces ('/' :: rest) = [] :: pieces rest := by
  have h : pieces ([] ++ '/' :: rest) = pieces [] ++ pieces rest :=
    List.splitOn_append_cons_self [] rest
  rwa [List.nil_append] at h

/-- Names between slashes are read back. -/
theorem pieces_intercalate {names : List String} (hslash : ∀ name ∈ names, '/' ∉ name.toList)
    (hne : names ≠ []) :
    (pieces (['/'].intercalate (names.map String.toList))).map String.ofList = names := by
  have hpieces : ∀ piece ∈ names.map String.toList, '/' ∉ piece := by
    intro piece hpiece
    obtain ⟨n, hn, rfl⟩ := List.mem_map.1 hpiece
    exact hslash n hn
  rw [pieces, List.splitOn_intercalate '/' hpieces (by simpa using hne), List.map_map]
  simp

theorem isRooted_iff {p : String} : isRooted p ↔ anchorOf p.toList ≠ .relative := by
  rw [isRooted, decide_eq_true_iff, anchorOf_ne_relative]

theorem anchorOf_of_not_isRooted {p : String} (h : isRooted p = false) :
    anchorOf p.toList = .relative := by
  by_contra hne
  rw [isRooted_iff.2 hne] at h
  cases h

namespace Lexical

theorem text_eq {p : Lexical} (h : p.anchor ≠ .relative ∨ p.names ≠ []) :
    p.text = p.anchor.text ++ String.intercalate "/" p.names := by
  unfold text
  split
  · next hanchor hnames =>
    rcases h with h | h
    · exact absurd hanchor h
    · exact absurd hnames h
  · rfl

theorem toList_text {p : Lexical} (h : p.anchor ≠ .relative ∨ p.names ≠ []) :
    p.text.toList = p.anchor.text.toList ++ ['/'].intercalate (p.names.map String.toList) := by
  have hslash : "/".toList = ['/'] := by decide
  rw [text_eq h, String.toList_append, String.toList_intercalate, hslash]

theorem anchorOf_text_append (anchor : Anchor) {rest : List Char} (hrest : rest.head? ≠ some '/') :
    anchorOf (anchor.text.toList ++ rest) = anchor := by
  cases anchor with
  | relative =>
    by_contra hne
    exact hrest ((anchorOf_ne_relative rest).1 hne)
  | root => exact anchorOf_append_of_head (by decide) hrest
  | doubleRoot => exact anchorOf_append_of_head (by decide) hrest

/-- The slashes in front of a path have no names. -/
theorem lowest_text_append (anchored : Bool) (anchor : Anchor) (rest : List Char) :
    lowest anchored [] ((pieces (anchor.text.toList ++ rest)).map String.ofList) =
      lowest anchored [] ((pieces rest).map String.ofList) := by
  have hslash (rest : List Char) :
      lowest anchored [] ((pieces ('/' :: rest)).map String.ofList) =
        lowest anchored [] ((pieces rest).map String.ofList) := by
    rw [pieces_slash]
    rfl
  have hroot : Anchor.root.text.toList = ['/'] := by decide
  have hdouble : Anchor.doubleRoot.text.toList = ['/', '/'] := by decide
  cases anchor with
  | relative => rfl
  | root => rw [hroot, List.singleton_append, hslash]
  | doubleRoot => rw [hdouble, List.cons_append, List.singleton_append, hslash, hslash]

theorem head?_intercalate {names : List String}
    (h : ∀ name ∈ names, '/' ∉ name.toList ∧ name ≠ "") :
    (['/'].intercalate (names.map String.toList)).head? ≠ some '/' := by
  cases names with
  | nil => simp
  | cons name names =>
    obtain ⟨hslash, hempty⟩ := h name List.mem_cons_self
    have hne : name.toList ≠ [] := by simpa using hempty
    intro hhead
    have hfirst : name.toList.head? = some '/' := by
      cases names with
      | nil => simpa using hhead
      | cons next names =>
        rw [List.map_cons, List.map_cons, List.intercalate_cons_cons, List.append_assoc,
          List.head?_append_of_ne_nil _ hne] at hhead
        exact hhead
    exact hslash (List.mem_of_mem_head? hfirst)

/-! ## Paths -/

/-- The names of the path are in lowest terms. -/
def IsReduced (p : Lexical) : Prop :=
  Reduced (p.anchor ≠ .relative) p.names.reverse

theorem isReduced_ofText (p : String) : (ofText p).IsReduced := by
  dsimp only [IsReduced, ofText, lowest]
  rw [List.reverse_reverse]
  refine reduced_foldl .nil fun name hname => ?_
  obtain ⟨piece, hpiece, rfl⟩ := List.mem_map.1 hname
  rw [String.toList_ofList]
  exact slash_not_mem_of_mem_pieces _ piece hpiece

namespace IsReduced

variable {p : Lexical}

theorem of_isPlain (h : ∀ name ∈ p.names, IsPlain name) : p.IsReduced := by
  have hrun : Reduced (p.anchor ≠ .relative) (List.replicate 0 ".." ++ p.names).reverse :=
    .of_run (fun _ => rfl) h
  rwa [List.replicate_zero, List.nil_append] at hrun

theorem isPlain (h : p.IsReduced) (hanchor : p.anchor ≠ .relative) :
    ∀ name ∈ p.names, IsPlain name := by
  rw [IsReduced, decide_eq_true hanchor] at h
  exact fun name hname => h.forall_mem nofun (fun _ hplain => hplain) name (List.mem_reverse.2 hname)

theorem slash_ne_empty (h : p.IsReduced) : ∀ name ∈ p.names, '/' ∉ name.toList ∧ name ≠ "" :=
  fun name hname => h.forall_mem (P := fun name => '/' ∉ name.toList ∧ name ≠ "")
    (fun _ => by decide) (fun _ hplain => ⟨hplain.slash, hplain.empty⟩) name (List.mem_reverse.2 hname)

theorem lowest_names (h : p.IsReduced) : lowest (p.anchor ≠ .relative) [] p.names = p.names := by
  have hnames := h.foldl_reverse
  rw [List.reverse_reverse] at hnames
  rw [lowest, hnames, List.reverse_reverse]

theorem anchorOf_text (h : p.IsReduced) : anchorOf p.text.toList = p.anchor := by
  by_cases hne : p.anchor ≠ .relative ∨ p.names ≠ []
  · rw [toList_text hne]
    exact anchorOf_text_append p.anchor (head?_intercalate h.slash_ne_empty)
  · obtain ⟨anchor, names⟩ := p
    obtain ⟨rfl, rfl⟩ : anchor = .relative ∧ names = [] := by simpa using hne
    rfl

/-- The text of a path in lowest terms stands for the path. -/
theorem ofText_text (h : p.IsReduced) : ofText p.text = p := by
  have hanchor := h.anchorOf_text
  have hnames : lowest (p.anchor ≠ .relative) [] ((pieces p.text.toList).map String.ofList) =
      p.names := by
    obtain ⟨anchor, names⟩ := p
    cases names with
    | nil => cases anchor <;> rfl
    | cons name names =>
      have hne := List.cons_ne_nil name names
      rw [toList_text (.inr hne), lowest_text_append,
        pieces_intercalate (fun n hn => (h.slash_ne_empty n hn).1) hne]
      exact h.lowest_names
  rw [ofText, hanchor, hnames]

end IsReduced
end Lexical
end CompileCommands.Path
