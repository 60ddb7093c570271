/-
  Paths from a drive in comparisons.

  * `HasDrive`: a text that begins with a drive; `isAbsolute_lower_iff`: a text is absolute in lower
    case if and only if it begins with a slash, a backslash or a drive;
  * `LeadsFromDrive`: the first name of the path that is not taken back is a drive;
  * `isAbsolute_normalize_iff`: the form in which a path is compared is absolute if and only if the
    path begins with a slash or a backslash, or leads from a drive;
  * `isAbsolute_compared`: so a path that leads from a drive matches only paths that do.
-/
import CompileCommands.Path.Comparison
import CompileCommands.Proofs.Path.Depth
import CompileCommands.Proofs.Path.Reduced
import CompileCommands.Proofs.Path.Related
import CompileCommands.Proofs.Path.Style
import CompileCommands.Proofs.Text.Mark

namespace CompileCommands.Path

open Text

/-! ## Names in lowest terms -/

/-- The names between the slashes and backslashes of a path. -/
def namesOf (p : String) : List String :=
  (pieces (withSlashes p).toList).map String.ofList

theorem slash_not_mem_of_mem_namesOf {p name : String} (h : name ∈ namesOf p) :
    '/' ∉ name.toList := by
  obtain ⟨piece, hpiece, rfl⟩ := List.mem_map.1 h
  rw [String.toList_ofList]
  exact slash_not_mem_of_mem_pieces _ piece hpiece

theorem of_mem_lowest {p name : String} (h : name ∈ lowest false [] (namesOf p)) :
    '/' ∉ name.toList ∧ name ≠ "" := by
  have hreduced : Reduced false ((namesOf p).foldl (descend false) []) :=
    reduced_foldl .nil fun _ => slash_not_mem_of_mem_namesOf
  rw [lowest, List.mem_reverse] at h
  exact hreduced.forall_mem (P := fun n => '/' ∉ n.toList ∧ n ≠ "") (fun _ => by decide)
    (fun _ hplain => ⟨hplain.slash, hplain.empty⟩) name h

/-! ## Drives -/

/-- The text begins with a character and a colon, also in lower case. A capital I with a dot has
    two characters there. -/
def HasDrive (s : String) : Prop :=
  ∃ letter rest, s.toList = letter :: ':' :: rest ∧ letter ≠ 'İ'

/-- The first name of the path that is not taken back is a drive. -/
def LeadsFromDrive (p : String) : Prop :=
  ∃ drive, HasDrive drive ∧ LeadsFrom drive (namesOf p)

theorem isAbsolute_lower_iff (s : String) : isAbsolute (lower s) ↔
    s.toList.head? = some '/' ∨ s.toList.head? = some '\\' ∨ HasDrive s := by
  have hiff (t : String) : isAbsolute t ↔ t.toList.head? = some '/' ∨ t.toList.head? = some '\\' ∨
      t.toList.tail.head? = some ':' := by
    unfold isAbsolute
    cases t.toList with
    | nil => simp
    | cons c rest => simp [or_assoc]
  have hlower : (lower s).toList = lowerAfter false s.toList := by
    rw [lower, String.toList_ofList, lowerChars]
  have hdrive : (lowerAfter false s.toList).tail.head? = some ':' ↔ HasDrive s := by
    unfold HasDrive
    cases s.toList with
    | nil => simp [lowerAfter]
    | cons c rest =>
      by_cases hc : c = 'İ'
      · obtain ⟨after, hdotted⟩ := lowerAfter_dottedI false rest
        rw [hc, hdotted]
        simp
      · obtain ⟨d, after, -, hcons⟩ := exists_lowerAfter_cons hc false rest
        rw [hcons, List.tail_cons, head?_lowerAfter isMark_colon]
        cases rest with
        | nil => simp
        | cons c' rest => simp [hc]
  rw [hiff, hlower, head?_lowerAfter isMark_slash, head?_lowerAfter isMark_backslash, hdrive]

theorem HasDrive.descent_eq {name : String} (h : HasDrive name) : descent name = 1 := by
  obtain ⟨letter, rest, hname, -⟩ := h
  have hne {t : String} (ht : t.toList.all (· = '.')) : name ≠ t := by
    rintro rfl
    rw [hname] at ht
    simp at ht
  unfold descent
  rw [if_neg, if_neg (hne (by decide))]
  rintro (hempty | hdot)
  · exact hne (by decide) hempty
  · exact hne (by decide) hdot

/-- What follows a name does not make it a drive, unless it begins with a colon. -/
theorem hasDrive_append {s t : String} (hs : s ≠ "") (ht : t.toList.head? ≠ some ':') :
    HasDrive (s ++ t) ↔ HasDrive s := by
  unfold HasDrive
  rw [String.toList_append]
  rcases hlist : s.toList with _ | ⟨c, _ | ⟨c', rest⟩⟩
  · exact absurd (String.toList_eq_nil_iff.1 hlist) hs
  · cases ht' : t.toList with
    | nil => simp
    | cons d rest =>
      rw [ht'] at ht
      have hd : d ≠ ':' := fun hd => ht (congrArg some hd)
      simp [hd]
  · simp

/-- The text of a relative path begins as its first name. -/
theorem exists_text_cons (name : String) (names : List String) :
    ∃ rest : String, Lexical.text ⟨.relative, name :: names⟩ = name ++ rest ∧
      rest.toList.head? ≠ some ':' := by
  have htext : Lexical.text ⟨.relative, name :: names⟩ = String.intercalate "/" (name :: names) :=
    String.empty_append
  rw [htext]
  cases names with
  | nil => exact ⟨"", by simp, by simp⟩
  | cons next names =>
    refine ⟨"/" ++ String.intercalate "/" (next :: names), ?_, ?_⟩
    · rw [String.intercalate_cons_cons, String.append_assoc]
    · rw [String.toList_append]
      simp

theorem collapse_of_not_isRooted {p : String} (h : isRooted (withSlashes p) = false) :
    collapse (withSlashes p) = Lexical.text ⟨.relative, lowest false [] (namesOf p)⟩ := by
  rw [collapse, Lexical.ofText, anchorOf_of_not_isRooted h]
  rfl

theorem isRooted_collapse (p : String) :
    isRooted (collapse (withSlashes p)) = isRooted (withSlashes p) := by
  rw [Bool.eq_iff_iff, isRooted_iff, isRooted_iff, collapse,
    (Lexical.isReduced_ofText _).anchorOf_text]
  rfl

theorem hasDrive_collapse_iff {p : String} (h : isRooted (withSlashes p) = false) :
    HasDrive (collapse (withSlashes p)) ↔ LeadsFromDrive p := by
  have hfirst : LeadsFromDrive p ↔
      ∃ drive, HasDrive drive ∧ (lowest false [] (namesOf p)).head? = some drive :=
    exists_congr fun drive => and_congr_right fun hdrive =>
      (head?_lowest_eq_some_iff hdrive.descent_eq).symm
  rw [collapse_of_not_isRooted h, hfirst]
  cases hlowest : lowest false [] (namesOf p) with
  | nil => simp [HasDrive, Lexical.text]
  | cons first rest =>
    obtain ⟨-, hne⟩ := of_mem_lowest (hlowest ▸ List.mem_cons_self)
    obtain ⟨more, htext, hmore⟩ := exists_text_cons first rest
    rw [htext, hasDrive_append hne hmore]
    simp

theorem isAbsolute_normalize_iff (p : String) :
    isAbsolute (normalize p) ↔ isRooted (withSlashes p) ∨ LeadsFromDrive p := by
  have hnormalize : isAbsolute (normalize p) = isAbsolute (lower (collapse (withSlashes p))) := by
    unfold normalize
    split
    · next h =>
      rw [h]
      rfl
    · rfl
  have hback : (collapse (withSlashes p)).toList.head? ≠ some '\\' :=
    fun hhead => backslash_not_mem_collapse p (List.mem_of_mem_head? hhead)
  have hslash : (collapse (withSlashes p)).toList.head? = some '/' ↔ isRooted (withSlashes p) := by
    rw [← isRooted_collapse, isRooted, decide_eq_true_iff]
  rw [hnormalize, isAbsolute_lower_iff, hslash]
  cases h : isRooted (withSlashes p) with
  | true => simp
  | false => simp [hback, hasDrive_collapse_iff h]

theorem isRooted_normalize (p : String) : isRooted (normalize p) = isRooted (withSlashes p) := by
  unfold normalize
  split
  · next h =>
    rw [h]
    rfl
  · rw [← isRooted_collapse, isRooted, isRooted, lower, String.toList_ofList, lowerChars,
      decide_eq_decide]
    exact head?_lowerAfter isMark_slash false _

/-- Whether a path is absolute in the form in which paths are compared. It is if the path begins with
    a slash or a backslash, whatever follows. Otherwise it is if and only if some drive leads down
    from where the path begins and is not taken back, as `..` takes back a drive like any other
    name. So a path matches only paths that begin with a slash as it does, and lead from a drive as
    it does. -/
theorem isAbsolute_compared (p : String) :
    (isAbsolute (normalize p) ↔ isRooted (withSlashes p) ∨ LeadsFromDrive p) ∧
    ∀ q, isMatching p q → isRooted (withSlashes p) = isRooted (withSlashes q) ∧
      (isRooted (withSlashes p) = false → (LeadsFromDrive p ↔ LeadsFromDrive q)) := by
  refine ⟨isAbsolute_normalize_iff p, fun q hmatching => ?_⟩
  have hnormalize : normalize p = normalize q := of_decide_eq_true hmatching
  have hrooted : isRooted (withSlashes p) = isRooted (withSlashes q) := by
    rw [← isRooted_normalize, ← isRooted_normalize, hnormalize]
  refine ⟨hrooted, fun hp => ?_⟩
  have hq := hrooted.symm.trans hp
  have habsolute := isAbsolute_normalize_iff p
  rw [hnormalize, isAbsolute_normalize_iff, hp, hq] at habsolute
  simpa using habsolute.symm

/-- A drive that is not taken back, and the same in a path that does not begin with it. -/
theorem isAbsolute_compared_sources :
    isMatching "C:\\src\\..\\a.cpp" ".\\c:\\A.cpp" ∧
    isAbsolute (normalize "C:\\src\\..\\a.cpp") ∧
    LeadsFromDrive ".\\c:\\A.cpp" := by
  have hmatching : isMatching "C:\\src\\..\\a.cpp" ".\\c:\\A.cpp" := by decide +kernel
  have hleads : LeadsFromDrive "C:\\src\\..\\a.cpp" := by
    have hnames : namesOf "C:\\src\\..\\a.cpp" = ["C:", "src", "..", "a.cpp"] := by rfl
    refine ⟨"C:", ⟨'C', [], by rfl, by decide⟩, [], ["src", "..", "a.cpp"], hnames, ?_⟩
    exact ⟨by decide, by rfl, by rfl, by decide⟩
  obtain ⟨habsolute, hmatch⟩ := isAbsolute_compared "C:\\src\\..\\a.cpp"
  obtain ⟨-, hsame⟩ := hmatch ".\\c:\\A.cpp" hmatching
  exact ⟨hmatching, habsolute.2 (.inr hleads), (hsame (by rfl)).1 hleads⟩

/-- `..` takes back the drive itself. -/
theorem isAbsolute_compared_lost :
    isAbsolute "C:/../a.cpp" ∧ isAbsolute (normalize "C:/../a.cpp") = false ∧
    isAbsolute "a.cpp" = false ∧ isMatching "C:/../a.cpp" "a.cpp" := by
  have hnormalize : normalize "C:/../a.cpp" = "a.cpp" := by decide +kernel
  have hmatching : isMatching "C:/../a.cpp" "a.cpp" := by decide +kernel
  have hrelative : isAbsolute "a.cpp" = false := by decide
  rw [hnormalize]
  exact ⟨by decide, hrelative, hrelative, hmatching⟩

end CompileCommands.Path
