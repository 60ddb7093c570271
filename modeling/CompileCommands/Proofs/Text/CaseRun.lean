/-
  Runs and ranges of code points.

  * `CaseRun.image`: where a run leads, as a run that leads back;
  * `CaseRun.holds`, `CaseRun.misses`: one run holds all points of another, or none of them, as their
    ends and steps show. These are computed for whole tables, so they compare numbers as the kernel
    does;
  * `inRanges_of_spans`, `inRanges_eq_false_of_clear`: all points between two ends are in a range, or
    none;
  * `mapCase_cases`: what a character is mapped to comes from an expansion, from a run that covers
    it, or is the character itself.
-/
import CompileCommands.Text.Case

namespace CompileCommands.Text

theorem toNat_ofNat {n : Nat} (h : n.isValidChar) : (Char.ofNat n).toNat = n := by
  rw [Char.ofNat, dif_pos h]
  rfl

/-! ## Runs -/

namespace CaseRun

variable {run other : CaseRun} {point : Nat}

theorem covers_iff : run.covers point ↔
    run.first ≤ point ∧ point ≤ run.last ∧ (point - run.first) % run.step = 0 := by
  simp [covers, and_assoc]

/-- The points that a run leads to, with the way back. -/
def image (run : CaseRun) : CaseRun where
  first := (run.first + run.shift).toNat
  last := (run.last + run.shift).toNat
  step := run.step
  shift := -run.shift

/-- The run leads to code points of characters. -/
def IsSound (run : CaseRun) : Prop :=
  0 ≤ run.first + run.shift ∧
    (run.image.last < 0xD800 ∨ 0xDFFF < run.image.first ∧ run.image.last < 0x110000)

instance : Decidable run.IsSound :=
  inferInstanceAs (Decidable (_ ∧ _))

theorem IsSound.covers_image (h : run.IsSound) (hpoint : run.covers point) :
    run.image.covers (point + run.shift).toNat := by
  obtain ⟨hbegin, -⟩ := h
  rw [covers_iff] at hpoint ⊢
  obtain ⟨hfirst, hlast, hstep⟩ := hpoint
  have hsame : (point + run.shift).toNat - run.image.first = point - run.first := by
    dsimp only [image]
    omega
  refine ⟨?_, ?_, by rw [hsame]; exact hstep⟩
  · dsimp only [image]
    omega
  · dsimp only [image]
    omega

theorem IsSound.toNat_image (h : run.IsSound) (hpoint : run.covers point) :
    (Char.ofNat (point + run.shift).toNat).toNat = (point + run.shift).toNat := by
  obtain ⟨hfirst, hlast, -⟩ := covers_iff.1 (h.covers_image hpoint)
  refine toNat_ofNat ?_
  obtain ⟨-, hvalid⟩ := h
  rw [Nat.isValidChar]
  omega

/-- The run holds all points of the other one. -/
def holds (run other : CaseRun) : Bool :=
  Nat.ble run.first other.first && Nat.ble other.last run.last &&
    (other.first - run.first) % run.step == 0 && other.step % run.step == 0

theorem covers_of_holds (h : run.holds other) (hpoint : other.covers point) : run.covers point := by
  simp only [holds, Bool.and_eq_true, Nat.ble_eq, beq_iff_eq] at h
  obtain ⟨⟨⟨hbegin, hend⟩, hstart⟩, hsteps⟩ := h
  rw [covers_iff] at hpoint ⊢
  obtain ⟨hfirst, hlast, hstep⟩ := hpoint
  refine ⟨by omega, by omega, ?_⟩
  have hsplit : point - run.first = (other.first - run.first) + (point - other.first) := by omega
  have hdvd : run.step ∣ point - other.first :=
    Nat.dvd_trans (Nat.dvd_of_mod_eq_zero hsteps) (Nat.dvd_of_mod_eq_zero hstep)
  rw [hsplit]
  exact Nat.mod_eq_zero_of_dvd (Nat.dvd_add (Nat.dvd_of_mod_eq_zero hstart) hdvd)

/-- The run holds no point of the other one: they lie apart, or one has the even and the other the
    odd points of a stretch. -/
def misses (run other : CaseRun) : Bool :=
  Nat.blt other.last run.first || Nat.blt run.last other.first ||
    (run.step % 2 == 0 && other.step % 2 == 0 && (run.first + other.first) % 2 == 1)

theorem not_covers_of_misses (h : run.misses other) (hpoint : other.covers point) :
    ¬run.covers point := by
  simp only [misses, Bool.or_eq_true, Bool.and_eq_true, Nat.blt_eq, beq_iff_eq] at h
  rw [covers_iff] at hpoint ⊢
  rintro ⟨hfirst, hlast, hstep⟩
  obtain ⟨hfirst', hlast', hstep'⟩ := hpoint
  rcases h with (h | h) | ⟨⟨heven, heven'⟩, hodd⟩
  · omega
  · omega
  · have hpoint := Nat.dvd_trans (Nat.dvd_of_mod_eq_zero heven) (Nat.dvd_of_mod_eq_zero hstep)
    have hpoint' := Nat.dvd_trans (Nat.dvd_of_mod_eq_zero heven') (Nat.dvd_of_mod_eq_zero hstep')
    omega

/-- The points of a run. -/
def points (run : CaseRun) : List Nat :=
  (List.range ((run.last - run.first) / run.step + 1)).map fun n => run.first + n * run.step

theorem mem_points (hpoint : run.covers point) : point ∈ run.points := by
  obtain ⟨hfirst, hlast, hstep⟩ := covers_iff.1 hpoint
  refine List.mem_map.2 ⟨(point - run.first) / run.step, ?_, ?_⟩
  · rw [List.mem_range, Nat.lt_succ_iff]
    exact Nat.div_le_div_right (Nat.sub_le_sub_right hlast _)
  · rw [Nat.div_mul_cancel (Nat.dvd_of_mod_eq_zero hstep)]
    omega

end CaseRun

/-! ## Ranges -/

/-- One of the ranges reaches from one end to the other. -/
def spans (ranges : List (Nat × Nat)) (first last : Nat) : Bool :=
  ranges.any fun range => Nat.ble range.1 first && Nat.ble last range.2

theorem inRanges_of_spans {ranges : List (Nat × Nat)} {first last point : Nat}
    (h : spans ranges first last) (hfirst : first ≤ point) (hlast : point ≤ last) :
    inRanges ranges point := by
  simp only [spans, List.any_eq_true, Bool.and_eq_true, Nat.ble_eq] at h
  obtain ⟨range, hrange, hbegin, hend⟩ := h
  simp only [inRanges, List.any_eq_true, Bool.and_eq_true, decide_eq_true_eq]
  exact ⟨range, hrange, by omega, by omega⟩

/-- The first of the ranges that does not lie before one end lies behind the other. -/
def clear (first last : Nat) : List (Nat × Nat) → Bool
  | [] => true
  | range :: ranges =>
    bif Nat.blt range.2 first then clear first last ranges else Nat.blt last range.1

/-- By induction on the ranges, which are in order: those behind the first that does not lie before
    one end begin behind it. -/
theorem inRanges_eq_false_of_clear {ranges : List (Nat × Nat)} {first last point : Nat}
    (hsorted : ranges.Pairwise fun range next => range.1 ≤ next.1) (h : clear first last ranges)
    (hfirst : first ≤ point) (hlast : point ≤ last) : inRanges ranges point = false := by
  induction ranges with
  | nil => rfl
  | cons range ranges ih =>
    rw [List.pairwise_cons] at hsorted
    obtain ⟨hnext, hsorted⟩ := hsorted
    rw [inRanges, List.any_cons, ← inRanges, Bool.or_eq_false_iff]
    unfold clear at h
    cases hbefore : Nat.blt range.2 first with
    | true =>
      rw [hbefore, cond_true] at h
      rw [Nat.blt_eq] at hbefore
      refine ⟨?_, ih hsorted h⟩
      simp only [Bool.and_eq_false_iff, decide_eq_false_iff_not]
      omega
    | false =>
      rw [hbefore, cond_false, Nat.blt_eq] at h
      simp only [inRanges, List.any_eq_false, Bool.and_eq_true, Bool.and_eq_false_iff,
        decide_eq_true_eq, decide_eq_false_iff_not]
      refine ⟨by omega, fun next hmem => ?_⟩
      have hle := hnext next hmem
      omega

/-! ## Mappings -/

theorem mapCase_cases {P : List Char → Prop} {expansions : List (Nat × List Nat)}
    {runs : List CaseRun} {c : Char} (hself : P [c])
    (hexpansions : ∀ e ∈ expansions, e.1 = c.toNat → P (e.2.map Char.ofNat))
    (hruns : ∀ run ∈ runs, run.covers c.toNat →
      P [Char.ofNat (c.toNat + run.shift).toNat]) : P (mapCase expansions runs c) := by
  unfold mapCase
  split
  · next points hpoints =>
    obtain ⟨before, after, rfl, -⟩ := List.lookup_eq_some_iff.1 hpoints
    exact hexpansions (c.toNat, points) (by simp) rfl
  · split
    · next run hrun =>
      have hcovers := List.find?_some hrun
      exact hruns run (List.mem_of_find?_eq_some hrun) hcovers
    · exact hself

section Lookup

variable {expansions : List (Nat × List Nat)} {runs : List CaseRun} {c : Char}
  (hexpansions : ∀ e ∈ expansions, e.1 ≠ c.toNat)
include hexpansions

theorem lookup_eq_none : expansions.lookup c.toNat = none := by
  rw [List.lookup_eq_none_iff]
  intro e he
  simpa using (hexpansions e he).symm

theorem mapCase_of_find? {run : CaseRun} (h : runs.find? (·.covers c.toNat) = some run) :
    mapCase expansions runs c = [Char.ofNat (c.toNat + run.shift).toNat] := by
  rw [mapCase, lookup_eq_none hexpansions, h]

theorem mapCase_of_not_covers (h : ∀ run ∈ runs, ¬run.covers c.toNat) :
    mapCase expansions runs c = [c] := by
  have hnone : runs.find? (·.covers c.toNat) = none := List.find?_eq_none.2 h
  rw [mapCase, lookup_eq_none hexpansions, hnone]

end Lookup

end CompileCommands.Text
