/-
  The last name of a path, and its extension.

  * `IsClosed`, `IsClosed.name_append`: what stands up to a slash does not count for the name;
  * `HasExtension`: a path with slashes, taken apart at its last slash and its last dot;
  * `HasExtension.splitExtension`, `HasExtension.name`, `HasExtension.directory_eq`: these are the
    parts that are read;
  * `exists_hasExtension`: a path that is read to have an extension can be taken apart;
  * `exists_hasExtension_of_header`: so can a header;
  * `HasExtension.replace`, `HasExtension.candidates`: a code file for a header has another
    extension behind the same folder and stem.
-/
import CompileCommands.Path.Source
import CompileCommands.Proofs.Path.Below
import CompileCommands.Proofs.Path.Style
import CompileCommands.Proofs.Text.Line

namespace CompileCommands.Path

open Text

/-! ## Last names -/

/-- The text is empty or ends with a slash. -/
def IsClosed (p : String) : Prop :=
  p = "" ∨ p.toList.getLast? = some '/'

theorem isClosed_append_gap (directory : String) : IsClosed (directory ++ gap directory) := by
  unfold gap
  split
  · next h =>
    rw [String.append_empty]
    exact h
  · right
    rw [String.toList_append, List.getLast?_append_of_ne_nil _ (by decide)]
    rfl

namespace IsClosed

theorem withSlashes {p : String} (h : IsClosed p) : IsClosed (withSlashes p) := by
  obtain rfl | h := h
  · exact .inl rfl
  · right
    rw [Path.withSlashes, String.toList_ofList, List.getLast?_map, h]
    rfl

theorem getLast {p : String} (h : IsClosed p) (c : Char) (hc : p.toList.getLast? = some c) :
    c = '/' := by
  obtain rfl | h := h
  · cases hc
  · exact Option.some.inj (hc.symm.trans h)

theorem reverse_takeWhile {p : String} (h : IsClosed p) :
    p.toList.reverse.takeWhile (· ≠ '/') = [] := by
  refine List.takeWhile_eq_nil_iff.2 fun hlt => ?_
  have hlast := h.getLast p.toList.reverse[0]
    (by rw [← List.head?_reverse, List.head?_eq_getElem?, List.getElem?_eq_getElem hlt])
  simpa using hlast

/-- What stands in front of a name, up to a slash, does not count. -/
theorem name_append {p : String} (h : IsClosed p) (q : String) :
    name (p ++ q) = name q := by
  have hsame : (p ++ q).toList.reverse.takeWhile (· ≠ '/') =
      q.toList.reverse.takeWhile (· ≠ '/') := by
    rw [String.toList_append, List.reverse_append, List.takeWhile_append, h.reverse_takeWhile,
      List.append_nil]
    split
    · next hall => exact ((List.takeWhile_prefix _).eq_of_length hall).symm
    · rfl
  rw [name, name, splitLast, splitLast, hsame]

/-- A text without slashes behind a slash is the last name. -/
theorem splitLast_append {p q : String} (h : IsClosed p) (hq : '/' ∉ q.toList) :
    splitLast (p ++ q).toList = (p.toList, q.toList) := by
  have hall : ∀ c ∈ q.toList.reverse, (decide (c ≠ '/')) = true := by
    intro c hc
    rw [decide_eq_true_iff]
    rintro rfl
    exact hq (List.mem_reverse.1 hc)
  have hstop : p.toList.reverse.dropWhile (· ≠ '/') = p.toList.reverse := by
    refine dropWhile_eq_self fun c hc => ?_
    rw [List.head?_reverse] at hc
    simp [h.getLast c hc]
  rw [splitLast, String.toList_append, List.reverse_append, List.dropWhile_append_of_pos hall,
    List.takeWhile_append_of_pos hall, hstop, h.reverse_takeWhile, List.append_nil,
    List.reverse_reverse, List.reverse_reverse]

end IsClosed

/-- Every path is what stands up to its last slash, and its last name. -/
theorem exists_name (p : String) :
    ∃ folder, IsClosed folder ∧ '/' ∉ (name p).toList ∧ p = folder ++ name p := by
  refine ⟨String.ofList (splitLast p.toList).1, ?_, ?_, ?_⟩
  · rw [IsClosed, String.toList_ofList]
    cases hrest : p.toList.reverse.dropWhile (· ≠ '/') with
    | nil =>
      left
      rw [splitLast, hrest]
      rfl
    | cons c rest =>
      right
      have hc := List.head?_dropWhile_not (fun c => decide (c ≠ '/')) p.toList.reverse
      rw [hrest] at hc
      rw [splitLast, hrest, List.getLast?_reverse, List.head?_cons]
      simpa using hc
  · rw [name, String.toList_ofList, splitLast, List.mem_reverse]
    intro hmem
    simpa using List.mem_takeWhile_imp hmem
  · rw [name, splitLast, ← String.ofList_append, ← List.reverse_append,
      List.takeWhile_append_dropWhile, List.reverse_reverse, String.ofList_toList]

/-! ## Extensions -/

/-- The text is the extension of some name: it begins with a dot, has no other, and no slash in
    either style. -/
structure IsExtension (extension : String) : Prop where
  dot : extension.toList.head? = some '.'
  rest : ∀ c ∈ extension.toList.tail, c ≠ '.' ∧ c ≠ '/' ∧ c ≠ '\\'

instance (extension : String) : Decidable (IsExtension extension) :=
  decidable_of_iff (extension.toList.head? = some '.' ∧
    extension.toList.tail.all fun c => c ≠ '.' ∧ c ≠ '/' ∧ c ≠ '\\')
    ⟨fun h => ⟨h.1, by simpa using h.2⟩, fun h => ⟨h.dot, by simpa using h.rest⟩⟩

/-- The text can stand in front of an extension: dots alone would be a name by themselves. -/
structure IsStem (stem : String) : Prop where
  slash : '/' ∉ stem.toList
  plain : ∃ c ∈ stem.toList, c ≠ '.'

/-- The path ends with the extension, the last name of the path with the stem in front of it. -/
structure HasExtension (p folder stem extension : String) : Prop where
  eq : p = folder ++ (stem ++ extension)
  folder : IsClosed folder
  stem : IsStem stem
  extension : IsExtension extension

theorem IsExtension.eq_cons {extension : String} (h : IsExtension extension) :
    extension.toList = '.' :: extension.toList.tail := by
  obtain ⟨rest, hrest⟩ := List.head?_eq_some_iff.1 h.dot
  rw [hrest, List.tail_cons]

theorem IsExtension.slash {extension : String} (h : IsExtension extension) :
    '/' ∉ extension.toList := by
  rw [h.eq_cons, List.mem_cons, not_or]
  exact ⟨by decide, fun hmem => (h.rest _ hmem).2.1 rfl⟩

theorem IsStem.splitNameAtDot_append {stem extension : String} (h : IsStem stem)
    (he : IsExtension extension) :
    splitNameAtDot (stem ++ extension).toList = (stem.toList, extension.toList) := by
  have hall : ∀ c ∈ extension.toList.tail.reverse, (decide (c ≠ '.')) = true := fun c hc =>
    decide_eq_true (he.rest c (List.mem_reverse.1 hc)).1
  have hreverse : (stem ++ extension).toList.reverse =
      extension.toList.tail.reverse ++ '.' :: stem.toList.reverse := by
    rw [String.toList_append, he.eq_cons, List.tail_cons]
    simp
  have hstem : ¬stem.toList.reverse.all (· = '.') := by
    obtain ⟨c, hc, hne⟩ := h.plain
    simp only [List.all_reverse, List.all_eq_true, decide_eq_true_eq]
    exact fun hdots => hne (hdots c hc)
  have hdot : ('.' :: stem.toList.reverse).dropWhile (· ≠ '.') = '.' :: stem.toList.reverse :=
    dropWhile_eq_self (by simp)
  rw [splitNameAtDot, hreverse, List.dropWhile_append_of_pos hall,
    List.takeWhile_append_of_pos hall, hdot]
  dsimp only
  rw [if_neg hstem, List.takeWhile_cons_of_neg (by decide), List.append_nil, List.reverse_reverse,
    List.reverse_reverse, ← he.eq_cons]

namespace HasExtension

variable {p q folder stem stem' extension extension' : String}

theorem splitLast (h : HasExtension p folder stem extension) :
    Path.splitLast p.toList = (folder.toList, (stem ++ extension).toList) := by
  rw [h.eq]
  refine h.folder.splitLast_append ?_
  rw [String.toList_append, List.mem_append, not_or]
  exact ⟨h.stem.slash, h.extension.slash⟩

theorem name (h : HasExtension p folder stem extension) : Path.name p = stem ++ extension := by
  rw [Path.name, h.splitLast, String.ofList_toList]

/-- Paths with the same folder have the same directory. -/
theorem directory_eq (h : HasExtension p folder stem extension)
    (h' : HasExtension q folder stem' extension') : directory p = directory q := by
  rw [directory, directory, h.splitLast, h'.splitLast]

theorem splitExtension (h : HasExtension p folder stem extension) :
    Path.splitExtension p = (folder ++ stem, extension) := by
  rw [Path.splitExtension, h.splitLast]
  dsimp only
  rw [h.stem.splitNameAtDot_append h.extension]
  dsimp only
  rw [← String.toList_append, String.ofList_toList, String.ofList_toList]

end HasExtension

/-- A name is read to have no extension, or can be taken apart at its last dot. -/
theorem splitNameAtDot_cases (n : List Char) : (splitNameAtDot n).2 = [] ∨
    ∃ stem suffix, n = stem ++ '.' :: suffix ∧ '.' ∉ suffix ∧ ∃ c ∈ stem, c ≠ '.' := by
  have happend := List.takeWhile_append_dropWhile (p := fun c => decide (c ≠ '.')) (l := n.reverse)
  unfold splitNameAtDot
  split
  · exact .inl rfl
  · next c stem hrest =>
    have hstop := List.head?_dropWhile_not (fun c => decide (c ≠ '.')) n.reverse
    rw [hrest] at happend hstop
    have hc : c = '.' := by simpa using hstop
    split
    · exact .inl rfl
    · next hdots =>
      refine .inr ⟨stem.reverse, (n.reverse.takeWhile (· ≠ '.')).reverse, ?_, ?_, ?_⟩
      · have hn := congrArg List.reverse happend
        rw [hc, List.reverse_append, List.reverse_cons, List.reverse_reverse] at hn
        simpa using hn.symm
      · rw [List.mem_reverse]
        intro hmem
        simpa using List.mem_takeWhile_imp hmem
      · simpa using hdots

theorem exists_hasExtension {p : String} (h : (splitExtension (withSlashes p)).2 ≠ "") :
    ∃ folder stem extension, HasExtension (withSlashes p) folder stem extension := by
  obtain ⟨folder, hfolder, hslash, heq⟩ := exists_name (withSlashes p)
  have hback := backslash_not_mem_withSlashes p
  rw [heq, String.toList_append, List.mem_append, not_or] at hback
  have hsplit := hfolder.splitLast_append hslash
  rw [← heq] at hsplit
  obtain hnone | ⟨stem, suffix, hname, hdot, hplain⟩ :=
    splitNameAtDot_cases (name (withSlashes p)).toList
  · rw [splitExtension, hsplit] at h
    exact absurd (congrArg String.ofList hnone) h
  · rw [hname] at hslash hback
    simp only [List.mem_append, List.mem_cons, not_or] at hslash hback
    refine ⟨folder, String.ofList stem, String.ofList ('.' :: suffix), ?_, hfolder, ⟨?_, ?_⟩, ?_,
      ?_⟩
    · rw [← String.ofList_append, ← hname, String.ofList_toList]
      exact heq
    · rw [String.toList_ofList]
      exact hslash.1
    · rw [String.toList_ofList]
      exact hplain
    · rw [String.toList_ofList, List.head?_cons]
    · rw [String.toList_ofList, List.tail_cons]
      intro c hc
      refine ⟨?_, ?_, ?_⟩
      · rintro rfl
        exact hdot hc
      · rintro rfl
        exact hslash.2.2 hc
      · rintro rfl
        exact hback.2.2.2 hc

/-! ## Source files -/

theorem isExtension_codeExtensions : ∀ extension ∈ codeExtensions, IsExtension extension := by
  decide +kernel

theorem lower_codeExtensions :
    ∀ extension ∈ codeExtensions, lower extension ∉ headerExtensions := by
  decide +kernel

theorem exists_hasExtension_of_header {p : String} (h : SourceKind.ofPath p = .header) :
    ∃ folder stem extension, HasExtension (withSlashes p) folder stem extension ∧
      lower extension ∈ headerExtensions := by
  have hheader : extension p ∈ headerExtensions := by
    by_contra hnot
    rw [SourceKind.ofPath, isHeader, decide_eq_false hnot, if_neg Bool.false_ne_true] at h
    cases h
  have hne : (splitExtension (withSlashes p)).2 ≠ "" := by
    intro hempty
    rw [extension, hempty] at hheader
    exact absurd hheader (by decide +kernel)
  obtain ⟨folder, stem, extension', hparts⟩ := exists_hasExtension hne
  rw [extension, hparts.splitExtension] at hheader
  exact ⟨folder, stem, extension', hparts, hheader⟩

namespace HasExtension

variable {p folder stem extension extension' : String}

/-- Another extension, in a path that is already written with slashes. -/
theorem replace (h : HasExtension (withSlashes p) folder stem extension)
    (he : IsExtension extension') :
    HasExtension (withSlashes (folder ++ stem ++ extension')) folder stem extension' := by
  have hback := backslash_not_mem_withSlashes p
  rw [h.eq] at hback
  simp only [String.toList_append, List.mem_append, not_or] at hback
  have hback' : '\\' ∉ extension'.toList := by
    rw [he.eq_cons, List.mem_cons, not_or]
    exact ⟨by decide, fun hmem => (he.rest _ hmem).2.2 rfl⟩
  have hsame : withSlashes (folder ++ stem ++ extension') = folder ++ stem ++ extension' := by
    refine withSlashes_of_not_mem ?_
    simp only [String.toList_append, List.mem_append, not_or]
    exact ⟨⟨hback.1, hback.2.1⟩, hback'⟩
  rw [hsame]
  exact ⟨String.append_assoc .., h.folder, h.stem, he⟩

theorem ne_empty (h : HasExtension (withSlashes p) folder stem extension) : p ≠ "" := by
  rintro rfl
  have hempty := congrArg String.toList h.eq
  rw [String.toList_append, String.toList_append, h.extension.eq_cons] at hempty
  simp [withSlashes] at hempty

theorem candidates (h : HasExtension (withSlashes p) folder stem extension)
    (extensions : List String) :
    Path.candidates p extensions = extensions.map (folder ++ stem ++ ·) := by
  rw [Path.candidates, h.splitExtension]

theorem ofPath_eq_code (h : HasExtension (withSlashes p) folder stem extension)
    (hcode : lower extension ∉ headerExtensions) : SourceKind.ofPath p = .code := by
  rw [SourceKind.ofPath, isHeader, Path.extension, h.splitExtension, decide_eq_false hcode,
    if_neg Bool.false_ne_true]

end HasExtension

theorem ne_empty_of_header {p : String} (h : SourceKind.ofPath p = .header) : p ≠ "" := by
  obtain ⟨folder, stem, extension, hparts, -⟩ := exists_hasExtension_of_header h
  exact hparts.ne_empty

end CompileCommands.Path
