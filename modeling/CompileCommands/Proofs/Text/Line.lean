/-
  Lines of a text, and what is left of them without the white space at their ends.

  * `isUnbroken`: no character of a text ends a line;
  * `splitLines_append`: such a line is read back;
  * `isUnbroken_of_mem_splitLines`: every line that is read is such a line;
  * `dropRightWhile_eq_self`, `trim_eq_self`: nothing is taken from between other characters;
  * `trim_append_blank`, `trim_surrounded`: white space at the ends does not count;
  * `mem_trim`: a character that is not blank stays.
-/
import CompileCommands.Text.Blank
import CompileCommands.Text.Line
import Mathlib.Data.List.TakeWhile

namespace CompileCommands.Text

/-! ## Lines -/

/-- No character of the text ends a line. -/
def isUnbroken (s : List Char) : Bool :=
  s.all fun c => !isLineBreak c

theorem isUnbroken_iff {s : List Char} : isUnbroken s ↔ ∀ c ∈ s, isLineBreak c = false := by
  simp [isUnbroken]

theorem isUnbroken_append {s t : List Char} :
    isUnbroken (s ++ t) ↔ isUnbroken s ∧ isUnbroken t := by
  simp [isUnbroken, List.all_append]

theorem isUnbroken_cons {c : Char} {s : List Char} :
    isUnbroken (c :: s) ↔ isLineBreak c = false ∧ isUnbroken s := by
  simp [isUnbroken]

theorem splitLines_cons {c : Char} (h : isLineBreak c = false) (rest : List Char) :
    splitLines (c :: rest) =
      match splitLines rest with
      | [] => [[c]]
      | line :: lines => (c :: line) :: lines := by
  rw [splitLines.eq_def]
  split
  · next heq => cases heq
  · next heq =>
    cases heq
    exact absurd h (by decide)
  · next heq =>
    cases heq
    exact if_neg (by simp [h])

/-- By induction on the line, whose characters all go on with it. -/
theorem splitLines_append {line : List Char} (h : isUnbroken line)
    (rest : List Char) : splitLines (line ++ '\r' :: '\n' :: rest) = line :: splitLines rest := by
  induction line with
  | nil => rw [List.nil_append, splitLines]
  | cons c line ih =>
    rw [isUnbroken_cons] at h
    rw [List.cons_append, splitLines_cons h.1, ih h.2]

theorem splitLines_flatMap {lines : List (List Char)}
    (h : ∀ line ∈ lines, isUnbroken line) :
    splitLines (lines.flatMap (· ++ ['\r', '\n'])) = lines := by
  induction lines with
  | nil => rfl
  | cons line lines ih =>
    rw [List.forall_mem_cons] at h
    rw [List.flatMap_cons, List.append_assoc, List.cons_append, List.cons_append, List.nil_append,
      splitLines_append h.1, ih h.2]

theorem isUnbroken_of_mem_splitLines {s : List Char} : ∀ line ∈ splitLines s, isUnbroken line := by
  fun_induction splitLines s with
  | case1 => simp
  | case2 rest ih => exact List.forall_mem_cons.2 ⟨rfl, ih⟩
  | case3 c rest hstart hbreak ih => exact List.forall_mem_cons.2 ⟨rfl, ih⟩
  | case4 c rest hstart hbreak hnone ih => simpa [isUnbroken] using hbreak
  | case5 c rest hstart hbreak line lines hsome ih =>
    rw [hsome, List.forall_mem_cons] at ih
    rw [Bool.not_eq_true] at hbreak
    exact List.forall_mem_cons.2 ⟨isUnbroken_cons.2 ⟨hbreak, ih.1⟩, ih.2⟩

/-! ## White space at the ends -/

theorem dropWhile_eq_self {p : Char → Bool} {s : List Char}
    (h : ∀ c, s.head? = some c → p c = false) : s.dropWhile p = s := by
  cases s with
  | nil => rfl
  | cons c s => exact List.dropWhile_cons_of_neg (by simp [h c rfl])

theorem dropRightWhile_eq_self {p : Char → Bool} {s : List Char}
    (h : ∀ c, s.getLast? = some c → p c = false) : dropRightWhile p s = s := by
  rw [← List.head?_reverse] at h
  rw [dropRightWhile, dropWhile_eq_self h, List.reverse_reverse]

theorem trim_eq_self {s : List Char} (hhead : ∀ c, s.head? = some c → isBlank c = false)
    (hlast : ∀ c, s.getLast? = some c → isBlank c = false) : trim s = s := by
  rw [trim, trimLeft, dropWhile_eq_self hhead, trimRight, dropRightWhile_eq_self hlast]

theorem dropRightWhile_append {p : Char → Bool} {s t : List Char} (h : ∀ c ∈ t, p c) :
    dropRightWhile p (s ++ t) = dropRightWhile p s := by
  have hreverse : ∀ c ∈ t.reverse, p c := by simpa using h
  rw [dropRightWhile, dropRightWhile, List.reverse_append, List.dropWhile_append_of_pos hreverse]

theorem exists_dropRightWhile_append (p : Char → Bool) (s : List Char) :
    ∃ ending, (∀ c ∈ ending, p c) ∧ s = dropRightWhile p s ++ ending := by
  refine ⟨(s.reverse.takeWhile p).reverse, fun c hc => ?_, ?_⟩
  · exact List.mem_takeWhile_imp (List.mem_reverse.1 hc)
  · rw [dropRightWhile, ← List.reverse_append, List.takeWhile_append_dropWhile,
      List.reverse_reverse]

theorem takeWhile_prefix_append (p : Char → Bool) (s t : List Char) :
    s.takeWhile p <+: (s ++ t).takeWhile p := by
  rw [List.takeWhile_append]
  split
  · exact (List.takeWhile_prefix p).trans (List.prefix_append s _)
  · exact List.prefix_rfl

theorem trim_append_blank {s t : List Char} (h : ∀ c ∈ t, isBlank c) : trim (s ++ t) = trim s := by
  rw [trim, trim, trimLeft, trimLeft, List.dropWhile_append]
  split
  · next hempty =>
    have hnone : t.dropWhile isBlank = [] := List.dropWhile_eq_nil_iff.2 h
    rw [hnone, List.isEmpty_iff.1 hempty]
  · exact dropRightWhile_append h

theorem trim_surrounded {front s back : List Char} (hfront : ∀ c ∈ front, isBlank c)
    (hback : ∀ c ∈ back, isBlank c) (h : trim s = s) : trim (front ++ s ++ back) = s := by
  rw [trim_append_blank hback, trim, trimLeft, List.dropWhile_append_of_pos hfront]
  exact h

theorem mem_dropWhile {p : Char → Bool} {c : Char} {s : List Char} (hc : c ∈ s)
    (hp : p c = false) : c ∈ s.dropWhile p := by
  rw [← List.takeWhile_append_dropWhile (p := p) (l := s), List.mem_append] at hc
  refine hc.resolve_left fun htaken => ?_
  rw [List.mem_takeWhile_imp htaken] at hp
  cases hp

theorem mem_trim {c : Char} {s : List Char} (hc : c ∈ s) (hblank : isBlank c = false) :
    c ∈ trim s := by
  rw [trim, trimRight, dropRightWhile, List.mem_reverse]
  exact mem_dropWhile (List.mem_reverse.2 (mem_dropWhile hc hblank)) hblank

end CompileCommands.Text
