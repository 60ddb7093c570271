/-
  Words on a command line, written so that they are read back.

  * `Spelling`: a word as it is, or between double quotes; `Spelling.Fits`: it can be written so;
  * `wordsFrom_text`: a spelling is read back as its word, at the end or in front of a space;
  * `splitWords_joined`: words with single spaces between their spellings are read back.
-/
import CompileCommands.Text.Word
import Mathlib.Data.List.Basic

namespace CompileCommands.Text

/-! ## Spellings -/

/-- The character stands for itself outside quotations. -/
def isPlain (c : Char) : Bool :=
  !isSeparator c && c ≠ '\\' && !isQuoteMark c

/-- A word as it is written. -/
inductive Spelling where
  /-- As it is. -/
  | bare (word : String)
  /-- Between double quotes. -/
  | quoted (word : String)
  deriving DecidableEq, Repr

namespace Spelling

/-- The word that is written. -/
def word : Spelling → String
  | bare word | quoted word => word

/-- What is written. -/
def text : Spelling → List Char
  | bare word => word.toList
  | quoted word => '"' :: word.toList ++ ['"']

/-- The word can be written so. -/
def Fits : Spelling → Prop
  | bare word => word ≠ "" ∧ ∀ c ∈ word.toList, isPlain c
  | quoted word => ∀ c ∈ word.toList, c ≠ '"' ∧ c ≠ '\\'

instance : DecidablePred Fits
  | bare word =>
    decidable_of_iff (word ≠ "" ∧ word.toList.all isPlain) (by rw [Fits, List.all_eq_true])
  | quoted word =>
    decidable_of_iff (word.toList.all fun c => c ≠ '"' ∧ c ≠ '\\') (by simp [Fits])

end Spelling

/-! ## Reading -/

variable {word s rest : List Char} {kept : Bool}

theorem wordsFrom_between (word : List Char) (kept : Bool) (s : List Char) :
    wordsFrom word kept .between s = wordsFrom word kept .inside s := by
  cases s <;> rfl

/-- By induction on what stands before the closing quote. -/
theorem wordsFrom_quoted (h : ∀ c ∈ s, c ≠ '"' ∧ c ≠ '\\') :
    wordsFrom word kept (.quoted '"') (s ++ '"' :: rest) =
      wordsFrom (word ++ s) kept .inside rest := by
  induction s generalizing word with
  | nil => rw [List.nil_append, List.append_nil, wordsFrom, if_pos rfl]
  | cons c s ih =>
    rw [List.forall_mem_cons] at h
    rw [List.cons_append, wordsFrom, if_neg h.1.1, if_neg fun hc => h.1.2 hc.1, ih h.2,
      List.append_assoc, List.singleton_append]

/-- By induction on the characters that stand for themselves. -/
theorem wordsFrom_plain (h : ∀ c ∈ s, isPlain c) :
    wordsFrom word kept .inside (s ++ rest) = wordsFrom (word ++ s) kept .inside rest := by
  induction s generalizing word with
  | nil => rw [List.nil_append, List.append_nil]
  | cons c s ih =>
    rw [List.forall_mem_cons] at h
    obtain ⟨⟨hseparator, hescape⟩, hquote⟩ :
        (isSeparator c = false ∧ c ≠ '\\') ∧ isQuoteMark c = false := by
      simpa [isPlain] using h.1
    rw [List.cons_append, wordsFrom]
    simp only [hseparator, hescape, hquote, Bool.false_eq_true, if_false]
    rw [ih h.2, List.append_assoc, List.singleton_append]

/-- What has been read of a spelling at its end: its word, which counts as one. -/
theorem wordsFrom_text {spelling : Spelling} (h : spelling.Fits) :
    ∃ kept, (spelling.word.toList ≠ [] ∨ kept = true) ∧ ∀ rest,
      wordsFrom [] false .between (spelling.text ++ rest) =
        wordsFrom spelling.word.toList kept .inside rest := by
  cases spelling with
  | bare word =>
    refine ⟨false, .inl (by simpa [Spelling.word] using h.1), fun rest => ?_⟩
    rw [wordsFrom_between, Spelling.text, wordsFrom_plain h.2]
    rfl
  | quoted word =>
    refine ⟨true, .inr rfl, fun rest => ?_⟩
    rw [Spelling.text, List.cons_append, List.cons_append, List.append_assoc, wordsFrom_between]
    exact wordsFrom_quoted h

/-- By induction on the spellings: each is read, and the space behind it ends its word. -/
theorem wordsFrom_joined {spellings : List Spelling} (h : ∀ spelling ∈ spellings, spelling.Fits) :
    wordsFrom [] false .between ([' '].intercalate (spellings.map Spelling.text)) =
      .ok (spellings.map fun spelling => spelling.word.toList) := by
  induction spellings with
  | nil => rfl
  | cons spelling spellings ih =>
    rw [List.forall_mem_cons] at h
    obtain ⟨kept, hword, hread⟩ := wordsFrom_text h.1
    have hone : ¬(spelling.word.toList = [] ∧ kept = false) := by
      rintro ⟨hnil, rfl⟩
      exact hword.elim (absurd hnil) nofun
    cases spellings with
    | nil =>
      rw [List.map_singleton, List.intercalate_singleton, List.map_singleton,
        ← List.append_nil spelling.text, hread, wordsFrom, if_neg hone]
    | cons next spellings =>
      rw [List.map_cons, List.map_cons, List.intercalate_cons_cons, ← List.map_cons,
        List.append_assoc, List.singleton_append, hread, wordsFrom, if_pos (by decide),
        if_neg hone, ih h.2]
      rfl

theorem splitWords_joined {spellings : List Spelling} {line : String}
    (h : ∀ spelling ∈ spellings, spelling.Fits)
    (hline : line.toList = [' '].intercalate (spellings.map Spelling.text)) :
    splitWords line = .ok (spellings.map Spelling.word) := by
  rw [splitWords, hline, wordsFrom_joined h]
  simp [Except.map]

end CompileCommands.Text
