/-
  How far names lead up and down.

  * `descent`, `depth`: how far names lead down; `StaysBelow`: they never lead above where they
    begin;
  * `exists_descend_append`, `exists_foldl_descend_append`: as long as they do not, what they stand
    below is not taken back;
  * `foldl_descend_eq_nil_iff`: a relative path comes back to where it begins if and only if its
    names never lead above and in all neither up nor down;
  * `LeadsFrom`, `head?_lowest_eq_some_iff`: the first name in lowest terms is the one that leads
    down from where the path begins and is not taken back.
-/
import CompileCommands.Path.Lexical
import Mathlib.Data.List.Induction
import Mathlib.Data.List.Infix

namespace CompileCommands.Path

/-! ## Up and down -/

/-- How far a name leads down. -/
def descent (name : String) : Int :=
  if name = "" ∨ name = "." then 0
  else if name = ".." then -1
  else 1

/-- How far names lead down in all. -/
def depth : List String → Int
  | [] => 0
  | name :: names => descent name + depth names

/-- From a depth on, the names never lead above the beginning. -/
def StaysBelow (start : Int) (names : List String) : Prop :=
  ∀ front ∈ names.inits, 0 ≤ start + depth front

instance (start : Int) (names : List String) : Decidable (StaysBelow start names) :=
  inferInstanceAs (Decidable (∀ front ∈ names.inits, 0 ≤ start + depth front))

theorem depth_nil : depth [] = 0 := rfl

theorem depth_cons (name : String) (names : List String) :
    depth (name :: names) = descent name + depth names := rfl

theorem depth_concat (names : List String) (name : String) :
    depth (names ++ [name]) = depth names + descent name := by
  induction names with
  | nil => rw [List.nil_append, depth_cons, depth_nil, Int.add_zero, Int.zero_add]
  | cons first names ih => rw [List.cons_append, depth_cons, ih, depth_cons, Int.add_assoc]

theorem staysBelow_nil {start : Int} : StaysBelow start [] ↔ 0 ≤ start := by
  simp [StaysBelow, depth_nil]

theorem staysBelow_cons {start : Int} {name : String} {names : List String} :
    StaysBelow start (name :: names) ↔ 0 ≤ start ∧ StaysBelow (start + descent name) names := by
  simp [StaysBelow, depth_nil, depth_cons, Int.add_assoc]

theorem staysBelow_start {start : Int} {names : List String} (h : StaysBelow start names) :
    0 ≤ start := by
  have hstart := h [] (by simp)
  rwa [depth_nil, Int.add_zero] at hstart

theorem staysBelow_concat {start : Int} {names : List String} {name : String} :
    StaysBelow start (names ++ [name]) ↔
      StaysBelow start names ∧ 0 ≤ start + depth (names ++ [name]) := by
  induction names generalizing start with
  | nil => simp [staysBelow_cons, staysBelow_nil, depth_cons, depth_nil]
  | cons first names ih =>
    rw [List.cons_append, staysBelow_cons, staysBelow_cons, ih, depth_cons, and_assoc,
      Int.add_assoc]

theorem zero_le_descent {name : String} (h : name ≠ "..") : 0 ≤ descent name := by
  rw [descent, if_neg h]
  split <;> decide

/-! ## Names that are taken back -/

/-- A name that does not lead above the names so far adds itself to them, leaves them or takes back
    the innermost one, whatever they stand below. -/
theorem exists_descend_append {above : List String} {name : String} (hdots : ".." ∉ above)
    (hbelow : 0 ≤ above.length + descent name) :
    ∃ above' : List String, ".." ∉ above' ∧ (above'.length : Int) = above.length + descent name ∧
      ∀ anchored base, descend anchored (above ++ base) name = above' ++ base := by
  unfold descent at hbelow ⊢
  by_cases hstay : name = "" ∨ name = "."
  · rw [if_pos hstay, Int.add_zero]
    exact ⟨above, hdots, rfl, fun anchored base => if_pos hstay⟩
  · rw [if_neg hstay] at hbelow ⊢
    by_cases hback : name = ".."
    · rw [if_pos hback] at hbelow ⊢
      cases above with
      | nil => exact absurd hbelow (by decide)
      | cons inner outer =>
        rw [List.mem_cons, not_or] at hdots
        refine ⟨outer, hdots.2, by rw [List.length_cons]; omega, fun anchored base => ?_⟩
        unfold descend
        rw [if_neg hstay, if_pos hback]
        exact if_neg (Ne.symm hdots.1)
    · rw [if_neg hback]
      refine ⟨name :: above, ?_, by rw [List.length_cons]; omega, fun anchored base => ?_⟩
      · rw [List.mem_cons, not_or]
        exact ⟨Ne.symm hback, hdots⟩
      · unfold descend
        rw [if_neg hstay, if_neg hback]
        rfl

/-- As long as names do not lead above those so far, they leave what these stand below. By induction
    on the names. -/
theorem exists_foldl_descend_append {above names : List String} (hdots : ".." ∉ above)
    (hbelow : StaysBelow above.length names) :
    ∃ above' : List String, ".." ∉ above' ∧ (above'.length : Int) = above.length + depth names ∧
      ∀ anchored base, names.foldl (descend anchored) (above ++ base) = above' ++ base := by
  induction names generalizing above with
  | nil => exact ⟨above, hdots, by rw [depth_nil, Int.add_zero], fun _ _ => rfl⟩
  | cons name names ih =>
    obtain ⟨-, hrest⟩ := staysBelow_cons.1 hbelow
    obtain ⟨next, hnext, hlength, hstep⟩ := exists_descend_append hdots (staysBelow_start hrest)
    rw [← hlength] at hrest
    obtain ⟨above', habove', hlength', hrun⟩ := ih hnext hrest
    refine ⟨above', habove', by rw [hlength', hlength, depth_cons, Int.add_assoc],
      fun anchored base => ?_⟩
    rw [List.foldl_cons, hstep, hrun]

/-- In front of a relative path `..` stays, so without one it was never reached. -/
theorem not_mem_of_descend {names : List String} {name : String}
    (h : ".." ∉ descend false names name) : ".." ∉ names ∧ 0 ≤ names.length + descent name := by
  unfold descent
  unfold descend at h
  by_cases hstay : name = "" ∨ name = "."
  · rw [if_pos hstay] at h ⊢
    exact ⟨h, by omega⟩
  · rw [if_neg hstay] at h ⊢
    by_cases hback : name = ".."
    · rw [if_pos hback] at h ⊢
      cases names with
      | nil => simp at h
      | cons inner outer =>
        dsimp only at h
        split at h
        · simp at h
        · next hinner =>
          rw [List.mem_cons, not_or, List.length_cons]
          exact ⟨⟨Ne.symm hinner, h⟩, by omega⟩
    · rw [if_neg hback] at h ⊢
      exact ⟨fun hmem => h (List.mem_cons_of_mem name hmem), by omega⟩

theorem staysBelow_of_foldl {above names : List String}
    (h : ".." ∉ names.foldl (descend false) above) :
    ".." ∉ above ∧ StaysBelow above.length names := by
  induction names generalizing above with
  | nil => exact ⟨h, staysBelow_nil.2 (by omega)⟩
  | cons name names ih =>
    obtain ⟨hnext, hrest⟩ := ih h
    obtain ⟨hdots, hbelow⟩ := not_mem_of_descend hnext
    obtain ⟨next, -, hlength, hstep⟩ := exists_descend_append hdots hbelow
    have hnames : descend false above name = next := by
      have hstep := hstep false []
      rwa [List.append_nil, List.append_nil] at hstep
    rw [hnames, hlength] at hrest
    exact ⟨hdots, staysBelow_cons.2 ⟨by omega, hrest⟩⟩

/-- Names lead a relative path back to where it begins if and only if they never lead above and in
    all neither up nor down. -/
theorem foldl_descend_eq_nil_iff {names : List String} :
    names.foldl (descend false) [] = [] ↔ StaysBelow 0 names ∧ depth names = 0 := by
  have hrun (hbelow : StaysBelow 0 names) :
      ((names.foldl (descend false) []).length : Int) = depth names := by
    have hnone : ".." ∉ ([] : List String) := List.not_mem_nil
    obtain ⟨above, -, hlength, hrun⟩ := exists_foldl_descend_append hnone hbelow
    have hnames := hrun false []
    rw [List.append_nil, List.append_nil] at hnames
    rw [hnames, hlength, List.length_nil, Int.natCast_zero, Int.zero_add]
  constructor
  · intro h
    have hdots : ".." ∉ names.foldl (descend false) [] := by
      rw [h]
      exact List.not_mem_nil
    have hbelow : StaysBelow 0 names := (staysBelow_of_foldl hdots).2
    have hlength := hrun hbelow
    rw [h] at hlength
    exact ⟨hbelow, hlength.symm⟩
  · rintro ⟨hbelow, hdepth⟩
    have hlength := hrun hbelow
    rw [hdepth] at hlength
    exact List.length_eq_zero_iff.1 (Int.natCast_eq_zero.1 hlength)

/-- The name leads one step down from where the names begin, and is not taken back. -/
def LeadsFrom (name : String) (names : List String) : Prop :=
  ∃ before after, names = before ++ name :: after ∧ StaysBelow 0 before ∧ depth before = 0 ∧
    descent name = 1 ∧ StaysBelow 0 after

theorem exists_foldl_descend_split {before after : List String} {name : String}
    (hbefore : StaysBelow 0 before) (hdepth : depth before = 0) (hname : descent name = 1)
    (hafter : StaysBelow 0 after) :
    ∃ above : List String, ".." ∉ above ∧ (above.length : Int) = depth after ∧
      (before ++ name :: after).foldl (descend false) [] = above ++ [name] := by
  have hnone : ".." ∉ ([] : List String) := List.not_mem_nil
  obtain ⟨above, hdots, hlength, hrun⟩ := exists_foldl_descend_append hnone hafter
  rw [List.length_nil, Int.natCast_zero, Int.zero_add] at hlength
  refine ⟨above, hdots, hlength, ?_⟩
  have hfirst : descend false [] name = [name] := by
    unfold descent at hname
    unfold descend
    split at hname
    · cases hname
    · next hstay =>
      split at hname
      · cases hname
      · next hback => rw [if_neg hstay, if_neg hback]
  rw [List.foldl_append, foldl_descend_eq_nil_iff.2 ⟨hbefore, hdepth⟩, List.foldl_cons, hfirst]
  exact hrun false [name]

theorem getLast?_of_descend {names : List String} {name last : String} (hname : descent name = 1)
    (h : (descend false names last).getLast? = some name) :
    names.getLast? = some name ∨ names = [] ∧ last = name := by
  unfold descend at h
  by_cases hstay : last = "" ∨ last = "."
  · rw [if_pos hstay] at h
    exact .inl h
  · rw [if_neg hstay] at h
    by_cases hback : last = ".."
    · rw [if_pos hback] at h
      cases names with
      | nil =>
        obtain rfl : ".." = name := Option.some.inj h
        cases hname
      | cons inner outer =>
        left
        dsimp only at h
        split at h
        · rwa [List.getLast?_cons_cons] at h
        · rw [List.getLast?_cons, h, Option.getD_some]
    · rw [if_neg hback] at h
      cases names with
      | nil => exact .inr ⟨rfl, Option.some.inj h⟩
      | cons inner outer =>
        rw [List.getLast?_cons_cons] at h
        exact .inl h

/-- By induction on the names, the last one first: it becomes the outermost itself, or leaves the
    outermost one in place. -/
theorem leadsFrom_of_getLast? {names : List String} {name : String} (hname : descent name = 1)
    (h : (names.foldl (descend false) []).getLast? = some name) : LeadsFrom name names := by
  induction names using List.reverseRecOn with
  | nil => cases h
  | append_singleton names last ih =>
    rw [List.foldl_append, List.foldl_cons, List.foldl_nil] at h
    rcases getLast?_of_descend hname h with hbefore | ⟨hnil, rfl⟩
    · obtain ⟨before, after, rfl, hbefore, hdepth, -, hafter⟩ := ih hbefore
      obtain ⟨above, -, hlength, hrun⟩ :=
        exists_foldl_descend_split hbefore hdepth hname hafter
      refine ⟨before, after ++ [last], by simp, hbefore, hdepth, hname, ?_⟩
      rw [staysBelow_concat, depth_concat, Int.zero_add]
      refine ⟨hafter, ?_⟩
      by_cases hback : last = ".."
      · have hne : above ≠ [] := by
          rintro rfl
          rw [hrun, hback] at h
          have hname : name ≠ ".." := by
            rintro rfl
            cases hname
          have htaken : descend false ([] ++ [name]) ".." = [] := if_neg hname
          rw [htaken] at h
          cases h
        have hpos := List.length_pos_iff.2 hne
        rw [hback, ← hlength]
        change (0 : Int) ≤ above.length + -1
        omega
      · have hdown := zero_le_descent hback
        omega
    · obtain ⟨hbefore, hdepth⟩ := foldl_descend_eq_nil_iff.1 hnil
      exact ⟨names, [], rfl, hbefore, hdepth, hname, staysBelow_nil.2 (Int.le_refl 0)⟩

/-- The first name of a relative path in lowest terms. -/
theorem head?_lowest_eq_some_iff {names : List String} {name : String} (hname : descent name = 1) :
    (lowest false [] names).head? = some name ↔ LeadsFrom name names := by
  rw [lowest, List.head?_reverse]
  constructor
  · exact leadsFrom_of_getLast? hname
  · rintro ⟨before, after, rfl, hbefore, hdepth, -, hafter⟩
    obtain ⟨above, -, -, hrun⟩ := exists_foldl_descend_split hbefore hdepth hname hafter
    rw [hrun, List.getLast?_concat]

end CompileCommands.Path
