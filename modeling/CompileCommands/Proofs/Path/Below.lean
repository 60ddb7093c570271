/-
  Paths below a directory.

  * `IsPlain.descend`: a plain name leads one step down;
  * `anchorOf_append_of_ne`, `anchorOf_append_of_head`: what follows a directory does not count for
    its anchor;
  * `Lexical.below`: a path in lowest terms, gone on from by the names of another one, and
    `Lexical.below_of_isPlain`: by one name;
  * `Lexical.ofText_append_slash`, `Lexical.ofText_join`: a path behind a slash, or below a
    directory, depends only on what the directory is in lowest terms;
  * `anchored_append`, `anchored_join`: the working directory only stands in front.
-/
import CompileCommands.Path.Lexical
import Mathlib.Data.List.Basic

namespace CompileCommands.Path

/-! ## Plain names -/

namespace IsPlain

variable {name : String}

theorem of_length (hslash : '/' ∉ name.toList) (hlength : 2 < name.length) : IsPlain name := by
  refine ⟨hslash, ?_, ?_, ?_⟩ <;>
  · rintro rfl
    exact absurd hlength (by decide)

theorem descend (h : IsPlain name) (anchored : Bool) (names : List String) :
    Path.descend anchored names name = name :: names := by
  unfold Path.descend
  rw [if_neg, if_neg h.dots]
  rintro (h' | h')
  · exact h.empty h'
  · exact h.dot h'

theorem not_isRooted (h : IsPlain name) : isRooted name = false := by
  rw [isRooted, decide_eq_false_iff_not]
  intro hhead
  exact h.slash (List.mem_of_mem_head? hhead)

end IsPlain

/-! ## Lowest terms -/

theorem lowest_concat (anchored : Bool) (start names : List String) (name : String) :
    lowest anchored start (names ++ [name]) =
      (descend anchored (names.foldl (descend anchored) start) name).reverse := by
  rw [lowest, List.foldl_append, List.foldl_cons, List.foldl_nil]

theorem lowest_concat_plain {name : String} (h : IsPlain name) (anchored : Bool)
    (start names : List String) :
    lowest anchored start (names ++ [name]) = lowest anchored start names ++ [name] := by
  rw [lowest_concat, h.descend, List.reverse_cons, lowest]

theorem lowest_concat_empty (anchored : Bool) (start names : List String) :
    lowest anchored start (names ++ [""]) = lowest anchored start names := by
  rw [lowest_concat, lowest]
  unfold descend
  rw [if_pos (Or.inl rfl)]

theorem lowest_append (anchored : Bool) (start names more : List String) :
    lowest anchored start (names ++ more) =
      lowest anchored (lowest anchored start names).reverse more := by
  rw [lowest, lowest, lowest, List.foldl_append, List.reverse_reverse]

/-! ## Anchors -/

theorem anchorOf_ne_relative (p : List Char) : anchorOf p ≠ .relative ↔ p.head? = some '/' := by
  unfold anchorOf
  split
  · simp
  · simp
  · simp
  · next hp =>
    cases p with
    | nil => simp
    | cons c q =>
      have hc : c ≠ '/' := by
        rintro rfl
        exact hp q rfl
      simp [hc]

/-- Behind anything but slashes, what follows does not count for the anchor. -/
theorem anchorOf_append_of_ne {p : List Char} (h : ∃ c ∈ p, c ≠ '/') (q : List Char) :
    anchorOf (p ++ q) = anchorOf p := by
  obtain ⟨c, hc, hne⟩ := h
  match p with
  | [] => cases hc
  | [a] =>
    obtain rfl := List.mem_singleton.1 hc
    simp [anchorOf, hne]
  | [a, b] =>
    by_cases ha : a = '/'
    · have hb : b ≠ '/' := by
        rintro rfl
        simp [ha, hne] at hc
      simp [anchorOf, ha, hb]
    · simp [anchorOf, ha]
  | a :: b :: c :: p =>
    by_cases ha : a = '/'
    · by_cases hb : b = '/'
      · by_cases hc : c = '/' <;> simp [anchorOf, ha, hb, hc]
      · simp [anchorOf, ha, hb]
    · simp [anchorOf, ha]

theorem ne_empty_of_ne_slash {p : String} (h : ∃ c ∈ p.toList, c ≠ '/') : p ≠ "" := by
  rintro rfl
  obtain ⟨c, hc, -⟩ := h
  cases hc

/-- What does not begin with a slash does not count for the anchor of what stands in front. -/
theorem anchorOf_append_of_head {p q : List Char} (hp : p ≠ []) (hq : q.head? ≠ some '/') :
    anchorOf (p ++ q) = anchorOf p := by
  by_cases hslash : ∃ c ∈ p, c ≠ '/'
  · exact anchorOf_append_of_ne hslash q
  · simp only [not_exists, not_and, not_not] at hslash
    match p with
    | [] => contradiction
    | [a] =>
      obtain rfl := hslash a (by simp)
      cases q with
      | nil => rfl
      | cons c q =>
        have hc : c ≠ '/' := fun hc => hq (congrArg some hc)
        simp [anchorOf, hc]
    | [a, b] =>
      obtain rfl := hslash a (by simp)
      obtain rfl := hslash b (by simp)
      cases q with
      | nil => rfl
      | cons c q =>
        have hc : c ≠ '/' := fun hc => hq (congrArg some hc)
        simp [anchorOf, hc]
    | a :: b :: c :: p =>
      obtain rfl := hslash a (by simp)
      obtain rfl := hslash b (by simp)
      obtain rfl := hslash c (by simp)
      rfl

/-! ## Below a directory -/

/-- What stands between a directory and a name below it. -/
def gap (directory : String) : String :=
  if directory = "" ∨ directory.toList.getLast? = some '/' then "" else "/"

theorem join_eq_append {p : String} (h : isRooted p = false) (directory : String) :
    join directory p = directory ++ gap directory ++ p := by
  rw [join, if_neg (by simp [h]), gap]
  split
  · rw [String.append_empty]
  · rfl

namespace Lexical

/-- The path gone on from by the names in a text. -/
def below (d : Lexical) (p : String) : Lexical :=
  { d with
    names := lowest (d.anchor ≠ .relative) d.names.reverse ((pieces p.toList).map String.ofList) }

theorem below_of_isPlain {name : String} (h : IsPlain name) (p : Lexical) :
    p.below name = p.child name := by
  have hpieces : pieces name.toList = [name.toList] := List.splitOn_eq_singleton h.slash
  rw [below, child, hpieces, List.map_singleton, String.ofList_toList, lowest, List.foldl_cons,
    h.descend, List.foldl_nil, List.reverse_cons, List.reverse_reverse]

theorem ofText_eq_below {s d p : String} (hanchor : anchorOf s.toList = anchorOf d.toList)
    (hnames : ∀ anchored, lowest anchored [] ((pieces s.toList).map String.ofList) =
      lowest anchored (lowest anchored [] ((pieces d.toList).map String.ofList)).reverse
        ((pieces p.toList).map String.ofList)) : ofText s = (ofText d).below p := by
  rw [ofText, hanchor, hnames]
  rfl

theorem ofText_append_slash {d : String} (hd : ∃ c ∈ d.toList, c ≠ '/') (p : String) :
    ofText (d ++ "/" ++ p) = (ofText d).below p := by
  have hslash : "/".toList = ['/'] := by decide
  have hpieces : pieces (d.toList ++ '/' :: p.toList) = pieces d.toList ++ pieces p.toList :=
    List.splitOn_append_cons_self d.toList p.toList
  have htext : (d ++ "/" ++ p).toList = d.toList ++ '/' :: p.toList := by
    rw [String.toList_append, String.toList_append, hslash, List.append_assoc,
      List.singleton_append]
  refine ofText_eq_below ?_ fun anchored => ?_
  · rw [htext, anchorOf_append_of_ne hd]
  · rw [htext, hpieces, List.map_append, lowest_append]

theorem ofText_join {d p : String} (hd : d ≠ "") (hp : isRooted p = false) :
    ofText (join d p) = (ofText d).below p := by
  rw [join_eq_append hp]
  by_cases hlast : d.toList.getLast? = some '/'
  · -- the slash at the end of the directory is the one in front of the path
    obtain ⟨front, hfront⟩ := List.getLast?_eq_some_iff.1 hlast
    have hgap : gap d = "" := if_pos (.inr hlast)
    have hdirectory : (pieces d.toList).map String.ofList =
        (pieces front).map String.ofList ++ [""] := by
      rw [hfront, pieces, List.splitOn_append_cons_self, List.splitOn_nil, List.map_append]
      rfl
    have hpieces : pieces (d.toList ++ p.toList) = pieces front ++ pieces p.toList := by
      rw [hfront, List.append_assoc]
      exact List.splitOn_append_cons_self front p.toList
    rw [hgap, String.append_empty]
    refine ofText_eq_below ?_ fun anchored => ?_
    · rw [String.toList_append]
      exact anchorOf_append_of_head (by simpa using hd) (of_decide_eq_false hp)
    · rw [String.toList_append, hpieces, hdirectory, lowest_concat_empty, List.map_append,
        lowest_append]
  · have hgap : gap d = "/" := if_neg (by simp [hd, hlast])
    rw [hgap]
    have hne : d.toList ≠ [] := by simpa using hd
    refine ofText_append_slash ⟨d.toList.getLast hne, List.getLast_mem hne, fun hslash => ?_⟩ p
    rw [List.getLast?_eq_getLast_of_ne_nil hne, hslash] at hlast
    exact hlast rfl

end Lexical

/-! ## Seen from a working directory -/

theorem isRooted_append {p : String} (hp : p ≠ "") (q : String) :
    isRooted (p ++ q) = isRooted p := by
  have hne : p.toList ≠ [] := by simpa using hp
  rw [isRooted, isRooted, String.toList_append, List.head?_append_of_ne_nil _ hne]

theorem append_ne_empty {p : String} (hp : p ≠ "") (q : String) : q ++ p ≠ "" := by
  have hne : p.toList ≠ [] := by simpa using hp
  rw [ne_eq, ← String.toList_eq_nil_iff, String.toList_append, List.append_eq_nil_iff]
  exact fun h => hne h.2

theorem gap_append {p : String} (hp : p ≠ "") (q : String) : gap (q ++ p) = gap p := by
  have hne : p.toList ≠ [] := by simpa using hp
  have hlast : (q ++ p).toList.getLast? = p.toList.getLast? := by
    rw [String.toList_append, List.getLast?_append_of_ne_nil _ hne]
  rw [gap, gap, hlast]
  simp only [append_ne_empty hp, hp]

/-- The working directory only stands in front. -/
theorem exists_anchored_eq (workingDirectory p : String) :
    ∃ front, anchored workingDirectory p = front ++ p := by
  by_cases h : isRooted p
  · exact ⟨"", by rw [anchored, if_pos h, String.empty_append]⟩
  · rw [Bool.not_eq_true] at h
    refine ⟨workingDirectory ++ gap workingDirectory, ?_⟩
    rw [anchored, if_neg (by simp [h]), join_eq_append h]

theorem anchored_append {p : String} (hp : p ≠ "") (workingDirectory q : String) :
    anchored workingDirectory (p ++ q) = anchored workingDirectory p ++ q := by
  rw [anchored, anchored, isRooted_append hp]
  by_cases h : isRooted p
  · rw [if_pos h, if_pos h]
  · rw [Bool.not_eq_true] at h
    rw [if_neg (by simp [h]), if_neg (by simp [h]), join_eq_append h,
      join_eq_append ((isRooted_append hp q).trans h), ← String.append_assoc]

theorem anchored_ne_empty {p : String} (hp : p ≠ "") (workingDirectory : String) :
    anchored workingDirectory p ≠ "" := by
  obtain ⟨front, hfront⟩ := exists_anchored_eq workingDirectory p
  rw [hfront]
  exact append_ne_empty hp front

theorem gap_anchored {p : String} (hp : p ≠ "") (workingDirectory : String) :
    gap (anchored workingDirectory p) = gap p := by
  obtain ⟨front, hfront⟩ := exists_anchored_eq workingDirectory p
  rw [hfront, gap_append hp]

theorem anchored_join {d p : String} (hd : d ≠ "") (hp : isRooted p = false)
    (workingDirectory : String) :
    anchored workingDirectory (join d p) = join (anchored workingDirectory d) p := by
  rw [join_eq_append hp, join_eq_append hp, String.append_assoc, anchored_append hd,
    gap_anchored hd, String.append_assoc]

theorem ne_empty_append {d : String} (hd : d ≠ "") (p : String) : d ++ p ≠ "" := by
  intro h
  have hnil := congrArg String.toList h
  rw [String.toList_append, String.toList_empty, List.append_eq_nil_iff] at hnil
  exact hd (String.toList_eq_nil_iff.1 hnil.1)

theorem join_ne_empty {d : String} (hd : d ≠ "") (p : String) : join d p ≠ "" := by
  cases hp : isRooted p with
  | true =>
    rw [join, if_pos hp]
    rintro rfl
    cases hp
  | false =>
    rw [join_eq_append hp, String.append_assoc]
    exact ne_empty_append hd _

theorem joinAll_ne_empty {d : String} (hd : d ≠ "") (parts : List String) :
    joinAll d parts ≠ "" := by
  induction parts generalizing d with
  | nil => exact hd
  | cons p parts ih => exact ih (join_ne_empty hd p)

end CompileCommands.Path
