/-
  The entry that serves a header, as the entry with the least key.

  * `HeaderKey`: what the search goes by: the tier, the number of the extension, the position;
  * `HasKey`: the keys of an entry, one for each way in which it can serve the header;
  * `IsRank`: the least key of the entry at a position, if that entry has a file;
  * `firstWhere?_first`, `findSome?_first`: what a scan and two nested scans find, and that
    nothing before it would do;
  * `searchHeader_least`: the search finds nothing exactly if no entry has a file, and
    otherwise the entry with the least key.
-/
import CompileCommands.Database.Lookup
import Mathlib.Data.Prod.Lex
import Mathlib.Order.Bounds.Basic
import Mathlib.Order.WellFounded

namespace CompileCommands.Database

open Text

/-! ## Keys -/

/-- The tier, the number of the extension and the position, compared in this order. -/
abbrev HeaderKey := ℕ ×ₗ ℕ ×ₗ ℕ

/-- A key from its parts. -/
def headerKey (tier extension position : ℕ) : HeaderKey :=
  toLex (tier, toLex (extension, position))

theorem headerKey_le_iff {t k i t' k' i' : ℕ} :
    headerKey t k i ≤ headerKey t' k' i' ↔ t < t' ∨ t = t' ∧ (k < k' ∨ k = k' ∧ i ≤ i') := by
  simp only [headerKey, Prod.Lex.toLex_le_toLex]

theorem headerKey_inj {t k i t' k' i' : ℕ} (h : headerKey t k i = headerKey t' k' i') :
    t = t' ∧ k = k' ∧ i = i' := by
  have h₁ := headerKey_le_iff.1 h.le
  have h₂ := headerKey_le_iff.1 h.ge
  omega

/-- The keys of an entry at a position in the search for a header. -/
inductive HasKey (header : String) (position : ℕ) (e : Entry) : HeaderKey → Prop
  /-- The entry is for a code file of the same path. -/
  | path {k c} : (Path.candidates header Path.codeExtensions)[k]? = some c →
      Path.isMatching e.resolvedFile c → HasKey header position e (headerKey 1 k position)
  /-- The entry's file has the name of a code file of the same path, up to case. -/
  | name {k c} : (Path.candidates header Path.codeExtensions)[k]? = some c →
      lower (Path.fileName e.file) = lower (Path.fileName c) →
      HasKey header position e (headerKey 2 k position)
  /-- The entry's file lies below the directory of the header. -/
  | under : Path.isRootedUnder e.resolvedFile (Path.directoryName header) →
      HasKey header position e (headerKey 3 0 position)
  /-- Any entry serves. -/
  | any : HasKey header position e (headerKey 4 0 position)

/-- The entry at a position has a file, and its least key is this one. -/
def IsRank (header : String) (entries : List Entry) (position : ℕ) (key : HeaderKey) : Prop :=
  ∃ e, entries[position]? = some e ∧ e.file ≠ "" ∧ IsLeast {k | HasKey header position e k} key

/-- The position is part of every key. -/
theorem HasKey.position_eq {header : String} {i j : ℕ} {e e' : Entry} {key : HeaderKey}
    (h : HasKey header i e key) (h' : HasKey header j e' key) : i = j := by
  have parts : ∀ {n : ℕ} {x : Entry}, HasKey header n x key → ∃ t k, key = headerKey t k n := by
    intro n x hx
    cases hx with
    | path => exact ⟨_, _, rfl⟩
    | name => exact ⟨_, _, rfl⟩
    | under => exact ⟨_, _, rfl⟩
    | any => exact ⟨_, _, rfl⟩
  obtain ⟨t, k, rfl⟩ := parts h
  obtain ⟨t', k', hk⟩ := parts h'
  exact (headerKey_inj hk).2.2

/-- Every entry with a file has a least key. -/
theorem exists_isRank (header : String) {entries : List Entry} {position : ℕ} {e : Entry}
    (he : entries[position]? = some e) (hfile : e.file ≠ "") :
    ∃ key, IsRank header entries position key := by
  have hne : {k | HasKey header position e k}.Nonempty := ⟨_, .any⟩
  exact ⟨_, e, he, hfile, wellFounded_lt.min_mem _ hne,
    fun k hk => not_lt.1 (wellFounded_lt.not_lt_min _ hk)⟩

theorem isFor_iff {file : String} {e : Entry} :
    isFor file e ↔ Path.isMatching e.resolvedFile file := by
  simp [isFor, Path.isMatching, eq_comm]

theorem hasName_iff {name : String} {e : Entry} :
    hasName name e ↔ lower (Path.fileName e.file) = lower name := by
  simp [hasName]

/-! ## Scans -/

theorem firstWhere?_eq_none {condition : Entry → Bool} {entries : List Entry} :
    firstWhere? condition entries = none ↔ ∀ e ∈ entries, e.file ≠ "" → ¬ condition e := by
  simp [firstWhere?]

/-- A scan finds an entry with a file that satisfies the condition; none does before it. -/
theorem firstWhere?_first {condition : Entry → Bool} {entries : List Entry} {e : Entry}
    (h : firstWhere? condition entries = some e) :
    ∃ i, entries[i]? = some e ∧ e.file ≠ "" ∧ condition e ∧
      ∀ (j : ℕ) (x : Entry), entries[j]? = some x → x.file ≠ "" → condition x → i ≤ j := by
  obtain ⟨he, i, hi, rfl, hfirst⟩ := List.find?_eq_some_iff_getElem.1 h
  simp only [Bool.and_eq_true, decide_eq_true_eq] at he
  refine ⟨i, List.getElem?_eq_getElem hi, he.1, he.2, fun j x hj hx hc => ?_⟩
  by_contra hlt
  obtain ⟨hj', rfl⟩ := List.getElem?_eq_some_iff.1 hj
  have := hfirst j (by omega)
  simp [hx, hc] at this

/-- Nested scans, over paths and for each over the entries: what they find comes first in the
    order of the paths, and among the entries for one path in the order of the entries. -/
theorem findSome?_first {condition : String → Entry → Bool} {paths : List String}
    {entries : List Entry} {e : Entry}
    (h : (paths.findSome? fun p => firstWhere? (condition p) entries) = some e) :
    ∃ k p i, paths[k]? = some p ∧ entries[i]? = some e ∧ e.file ≠ "" ∧ condition p e ∧
      ∀ (k' : ℕ) (q : String) (j : ℕ) (x : Entry), paths[k']? = some q → entries[j]? = some x →
        x.file ≠ "" → condition q x → k < k' ∨ k = k' ∧ i ≤ j := by
  obtain ⟨before, p, after, rfl, hp, hbefore⟩ := List.findSome?_eq_some_iff.1 h
  obtain ⟨i, hi, hfile, hc, hfirst⟩ := firstWhere?_first hp
  refine ⟨before.length, p, i, by simp, hi, hfile, hc, fun k' q j x hq hj hx hqx => ?_⟩
  rcases Nat.lt_trichotomy k' before.length with hlt | rfl | hgt
  · -- a path before `p` serves no entry at all
    rw [List.getElem?_append_left hlt] at hq
    have hnone := firstWhere?_eq_none.1 (hbefore q (List.mem_of_getElem? hq))
    simp [hnone x (List.mem_of_getElem? hj) hx] at hqx
  · obtain rfl : p = q := by simpa using hq
    exact Or.inr ⟨rfl, hfirst j x hj hx hqx⟩
  · exact Or.inl hgt

theorem findSome?_none {condition : String → Entry → Bool} {paths : List String}
    {entries : List Entry}
    (h : (paths.findSome? fun p => firstWhere? (condition p) entries) = none) {k i : ℕ}
    {p : String} {e : Entry} (hp : paths[k]? = some p) (he : entries[i]? = some e)
    (hfile : e.file ≠ "") : ¬ condition p e :=
  firstWhere?_eq_none.1 (List.findSome?_eq_none_iff.1 h p (List.mem_of_getElem? hp)) e
    (List.mem_of_getElem? he) hfile

/-! ## The search -/

theorem headerEntry?_eq_none {header : String} {entries : List Entry} :
    headerEntry? header entries = none ↔ ∀ e ∈ entries, e.file = "" := by
  constructor
  · intro h
    unfold headerEntry? firstEntry? at h
    simp only [Option.orElse_eq_orElse, Option.orElse_eq_or, Option.or_eq_none_iff] at h
    intro e he
    have hnone := firstWhere?_eq_none.1 h.2.2.2 e he
    simpa using hnone
  · intro h
    have hnone : ∀ condition, firstWhere? condition entries = none := fun condition =>
      firstWhere?_eq_none.2 fun e he hfile => absurd (h e he) hfile
    unfold headerEntry? codeEntry? sameNameEntry? entryUnder? firstEntry?
    simp [hnone]

/-- What the search finds has a key below all keys of all entries with a file: a key of a lower
    tier would have been met by an earlier scan, one of the same tier earlier in the scan. -/
theorem headerEntry?_le {header : String} {entries : List Entry} {e : Entry}
    (h : headerEntry? header entries = some e) :
    ∃ i key, entries[i]? = some e ∧ e.file ≠ "" ∧ HasKey header i e key ∧
      ∀ j x, entries[j]? = some x → x.file ≠ "" → ∀ k, HasKey header j x k → key ≤ k := by
  unfold headerEntry? codeEntry? sameNameEntry? entryUnder? firstEntry? at h
  simp only [Option.orElse_eq_orElse, Option.orElse_eq_or] at h
  rcases Option.or_eq_some_iff.1 h with h₁ | ⟨none₁, h⟩
  · obtain ⟨k, c, i, hk, hi, hfile, hc, hfirst⟩ := findSome?_first h₁
    refine ⟨i, _, hi, hfile, .path hk (isFor_iff.1 hc), fun j x hj hx key hkey => ?_⟩
    cases hkey with
    | path hk' hc' =>
      have := hfirst _ _ j x hk' hj hx (isFor_iff.2 hc')
      exact headerKey_le_iff.2 (Or.inr ⟨rfl, this⟩)
    | name | under | any => exact headerKey_le_iff.2 (Or.inl (by omega))
  rcases Option.or_eq_some_iff.1 h with h₂ | ⟨none₂, h⟩
  · obtain ⟨k, c, i, hk, hi, hfile, hc, hfirst⟩ := findSome?_first h₂
    refine ⟨i, _, hi, hfile, .name hk (hasName_iff.1 hc), fun j x hj hx key hkey => ?_⟩
    cases hkey with
    | path hk' hc' => exact absurd (isFor_iff.2 hc') (findSome?_none none₁ hk' hj hx)
    | name hk' hc' =>
      have := hfirst _ _ j x hk' hj hx (hasName_iff.2 hc')
      exact headerKey_le_iff.2 (Or.inr ⟨rfl, this⟩)
    | under | any => exact headerKey_le_iff.2 (Or.inl (by omega))
  rcases Option.or_eq_some_iff.1 h with h₃ | ⟨none₃, h₄⟩
  · obtain ⟨i, hi, hfile, hc, hfirst⟩ := firstWhere?_first h₃
    refine ⟨i, _, hi, hfile, .under hc, fun j x hj hx key hkey => ?_⟩
    cases hkey with
    | path hk' hc' => exact absurd (isFor_iff.2 hc') (findSome?_none none₁ hk' hj hx)
    | name hk' hc' => exact absurd (hasName_iff.2 hc') (findSome?_none none₂ hk' hj hx)
    | under hc' => exact headerKey_le_iff.2 (Or.inr ⟨rfl, Or.inr ⟨rfl, hfirst j x hj hx hc'⟩⟩)
    | any => exact headerKey_le_iff.2 (Or.inl (by omega))
  · obtain ⟨i, hi, hfile, -, hfirst⟩ := firstWhere?_first h₄
    refine ⟨i, _, hi, hfile, .any, fun j x hj hx key hkey => ?_⟩
    cases hkey with
    | path hk' hc' => exact absurd (isFor_iff.2 hc') (findSome?_none none₁ hk' hj hx)
    | name hk' hc' => exact absurd (hasName_iff.2 hc') (findSome?_none none₂ hk' hj hx)
    | under hc' =>
      exact absurd hc' (firstWhere?_eq_none.1 none₃ x (List.mem_of_getElem? hj) hx)
    | any => exact headerKey_le_iff.2 (Or.inr ⟨rfl, Or.inr ⟨rfl, hfirst j x hj hx rfl⟩⟩)

theorem result_searchHeader (header : String) (entries : List Entry) :
    (searchHeader header entries).result = Except.ok ( headerEntry? header entries) := by
  unfold searchHeader
  cases headerEntry? header entries <;> rfl

/-- **The header search is a least key.** It finds nothing exactly if no entry has a file, and
    otherwise the entry whose least key is least among those of all entries with a file. -/
theorem searchHeader_least (header : String) (entries : List Entry) :
    ((searchHeader header entries).result = .ok none ↔ ∀ e ∈ entries, e.file = "") ∧
    ∀ e, (searchHeader header entries).result = .ok (some e) ↔
      ∃ position key, entries[position]? = some e ∧ IsRank header entries position key ∧
        ∀ other x, entries[other]? = some x → x.file ≠ "" →
          ∃ key', IsRank header entries other key' ∧ key ≤ key' := by
  rw [result_searchHeader, Except.ok.injEq]
  refine ⟨headerEntry?_eq_none, fun e => ?_⟩
  rw [Except.ok.injEq]
  constructor
  · intro h
    obtain ⟨i, key, hi, hfile, hkey, hle⟩ := headerEntry?_le h
    refine ⟨i, key, hi, ⟨e, hi, hfile, hkey, fun k hk => hle i e hi hfile k hk⟩, ?_⟩
    intro j x hj hx
    obtain ⟨key', hrank⟩ := exists_isRank header hj hx
    refine ⟨key', hrank, ?_⟩
    obtain ⟨y, hy, hfile', hkey', -⟩ := hrank
    exact hle j y hy hfile' key' hkey'
  · rintro ⟨i, key, hi, ⟨x, hx, hfile, hkey, hleast⟩, hle⟩
    obtain rfl : e = x := Option.some.inj (hi.symm.trans hx)
    cases found : headerEntry? header entries with
    | none => exact absurd (headerEntry?_eq_none.1 found e (List.mem_of_getElem? hi)) hfile
    | some e' =>
      -- both keys are least, so they are equal, and with them the positions
      obtain ⟨i', key', hi', hfile', hkey', hle'⟩ := headerEntry?_le found
      obtain ⟨key₂, ⟨y, hy, -, -, hleast₂⟩, hle₂⟩ := hle i' e' hi' hfile'
      obtain rfl : e' = y := Option.some.inj (hi'.symm.trans hy)
      have hkeys : key = key' :=
        le_antisymm (hle₂.trans (hleast₂ hkey')) (hle' i e hi hfile key hkey)
      obtain rfl : i = i' := (hkeys ▸ hkey).position_eq hkey'
      exact hi'.symm.trans hi

end CompileCommands.Database
