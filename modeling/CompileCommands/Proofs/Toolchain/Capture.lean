/-
  The environment in what a shell printed.

  * `between`, `settingsOn`: the lines between the markers, and the settings on them;
    `settingsFrom_eq`: that is what is read;
  * `dump`: the lines that a shell prints: the settings of an environment between the markers;
  * `settings_dump`: from these lines, the environment;
  * `linesOf_printed_dump`: the lines are read back from the raw output if no name and no value
    holds a character that ends a line, of which there are more than the two with which a shell
    ends its lines;
  * `settings_printed_iff`: so an environment is read back exactly if none does;
    `settings_printed_cut`: otherwise values are cut, and variables appear.
-/
import CompileCommands.Proofs.Text.Encoding
import CompileCommands.Proofs.Text.Line
import CompileCommands.Snapshot.Stored
import CompileCommands.Text.Hex
import CompileCommands.Toolchain.Capture
import Mathlib.Data.List.Basic

namespace CompileCommands

/-! ## Bindings -/

namespace Bindings

variable {α : Type}

theorem insert_of_not_mem {b : Bindings α} {name : String} (h : name ∉ b.map (·.1)) (value : α) :
    b.insert name value = b ++ [(name, value)] := by
  induction b with
  | nil => rfl
  | cons entry b ih =>
    rw [List.map_cons, List.mem_cons, not_or] at h
    rw [insert, if_neg (Ne.symm h.1), ih h.2, List.cons_append]

theorem mem_of_mem_insert {b : Bindings α} {name : String} {value : α} {entry : String × α}
    (h : entry ∈ b.insert name value) : entry = (name, value) ∨ entry ∈ b := by
  induction b with
  | nil => exact .inl (List.mem_singleton.1 h)
  | cons first b ih =>
    rw [insert] at h
    split at h
    · exact (List.mem_cons.1 h).imp_right (List.mem_cons_of_mem first)
    · obtain rfl | h := List.mem_cons.1 h
      · exact .inr List.mem_cons_self
      · exact (ih h).imp_right (List.mem_cons_of_mem first)

theorem mem_of_mem_ofPairs {pairs : Bindings α} {entry : String × α} (h : entry ∈ ofPairs pairs) :
    entry ∈ pairs := by
  have hbound : ∀ e ∈ ofPairs pairs, e ∈ pairs := by
    refine List.foldlRecOn pairs _ (motive := fun b => ∀ e ∈ b, e ∈ pairs) ?_ ?_
    · exact fun e he => absurd he List.not_mem_nil
    · intro b hb pair hpair e he
      obtain rfl | he := mem_of_mem_insert he
      · exact hpair
      · exact hb e he
  exact hbound entry h

/-- By induction on the pairs that are still to be bound, whose names are new. -/
theorem foldl_insert_of_nodup {b pairs : Bindings α} (h : ((b ++ pairs).map (·.1)).Nodup) :
    pairs.foldl (fun b entry => insert b entry.1 entry.2) b = b ++ pairs := by
  induction pairs generalizing b with
  | nil => rw [List.foldl_nil, List.append_nil]
  | cons entry pairs ih =>
    rw [List.append_cons] at h ⊢
    have hnew : entry.1 ∉ b.map (·.1) := by
      rw [List.map_append, List.map_append] at h
      have hfront := (List.nodup_append.1 h).1
      exact fun hmem => (List.nodup_append.1 hfront).2.2 _ hmem _ List.mem_cons_self rfl
    rw [List.foldl_cons, insert_of_not_mem hnew, ih h]

theorem ofPairs_of_nodup {pairs : Bindings α} (h : (pairs.map (·.1)).Nodup) :
    ofPairs pairs = pairs :=
  foldl_insert_of_nodup (b := []) h

end Bindings

namespace Capture

open Text

/-! ## Settings between markers -/

/-- The line is a marker, white space at its ends aside. -/
def isMarker (marker raw : List Char) : Bool :=
  trim (bareLine raw) = marker

/-- The lines behind the first begin marker, up to the next end marker. -/
def between (start stop : List Char) (lines : List (List Char)) : List (List Char) :=
  ((lines.dropWhile fun raw => !isMarker start raw).drop 1).takeWhile fun raw => !isMarker stop raw

/-- The settings on lines, in order. -/
def settingsOn (lines : List (List Char)) : Bindings String :=
  lines.filterMap fun raw => setting? (bareLine raw)

theorem settingsInside_eq (stop : List Char) (known : Bindings String)
    (lines : List (List Char)) :
    settingsInside stop known lines =
      (settingsOn (lines.takeWhile fun raw => !isMarker stop raw)).foldl
        (fun b entry => b.insert entry.1 entry.2) known := by
  induction lines generalizing known with
  | nil => rfl
  | cons raw lines ih =>
    rw [settingsInside, List.takeWhile_cons]
    by_cases h : trim (bareLine raw) = stop
    · rw [if_pos h, isMarker, decide_eq_true h]
      rfl
    · rw [if_neg h, isMarker, decide_eq_false h, Bool.not_false, if_pos rfl, settingsOn,
        List.filterMap_cons]
      cases setting? (bareLine raw) with
      | none => exact ih known
      | some entry => exact ih _

theorem settingsFrom_eq (start stop : List Char) (lines : List (List Char)) :
    settingsFrom start stop lines = Bindings.ofPairs (settingsOn (between start stop lines)) := by
  induction lines with
  | nil => rfl
  | cons raw lines ih =>
    rw [settingsFrom, between, List.dropWhile_cons]
    by_cases h : trim (bareLine raw) = start
    · rw [if_pos h, settingsInside_eq, isMarker, decide_eq_true h]
      rfl
    · rw [if_neg h, ih, isMarker, decide_eq_false h, Bool.not_false, if_pos rfl, between]

theorem between_append {start stop first last : List Char} {lines : List (List Char)}
    (hfirst : isMarker start first) (hlast : isMarker stop last)
    (h : ∀ raw ∈ lines, isMarker stop raw = false) (rest : List (List Char)) :
    between start stop (first :: (lines ++ last :: rest)) = lines := by
  rw [between, List.dropWhile_cons_of_neg (by simp [hfirst]), List.drop_one, List.tail_cons,
    List.takeWhile_append_of_pos (by simpa using h), List.takeWhile_cons_of_neg (by simp [hlast]),
    List.append_nil]

theorem mem_of_mem_between {start stop : List Char} {lines : List (List Char)} {raw : List Char}
    (h : raw ∈ between start stop lines) : raw ∈ lines := by
  have hdropped := List.mem_of_mem_drop (List.takeWhile_subset _ h)
  exact List.dropWhile_subset _ hdropped

/-! ## One setting -/

theorem setting?_append {name value : List Char} (hblank : ¬name.all isBlank) (hname : '=' ∉ name) :
    setting? (name ++ '=' :: value) = some (String.ofList name, String.ofList value) := by
  have hsplit : ∀ c ∈ name, decide (c ≠ '=') = true := by
    intro c hc
    rw [decide_eq_true_eq]
    rintro rfl
    exact hname hc
  rw [setting?, List.dropWhile_append_of_pos hsplit, List.takeWhile_append_of_pos hsplit,
    List.dropWhile_cons_of_neg (by decide), List.takeWhile_cons_of_neg (by decide), List.append_nil]
  exact if_neg hblank

theorem mem_of_setting? {line : List Char} {entry : String × String}
    (h : setting? line = some entry) : ∀ c ∈ entry.1.toList ++ entry.2.toList, c ∈ line := by
  unfold setting? at h
  split at h
  · cases h
  · next equals value hline =>
    dsimp only at h
    split at h
    · cases h
    · cases h
      intro c hc
      rw [String.toList_ofList, String.toList_ofList, List.mem_append] at hc
      obtain hc | hc := hc
      · exact List.takeWhile_subset _ hc
      · refine List.dropWhile_subset (· ≠ '=') ?_
        rw [hline]
        exact List.mem_cons_of_mem equals hc

theorem mem_bareLine {c : Char} {raw : List Char} (hc : c ∈ raw)
    (hend : ¬(decide (c = '\r') || decide (c = '\n'))) : c ∈ bareLine raw := by
  rw [Bool.not_eq_true] at hend
  rw [bareLine, dropRightWhile, List.mem_reverse]
  exact mem_dropWhile (List.mem_reverse.2 hc) hend

theorem bareLine_eq_self {raw : List Char} (h : isUnbroken raw) : bareLine raw = raw := by
  refine dropRightWhile_eq_self fun c hc => ?_
  have hbreak := isUnbroken_iff.1 h c (List.mem_of_getLast? hc)
  rw [Bool.or_eq_false_iff, decide_eq_false_iff_not, decide_eq_false_iff_not]
  constructor
  · rintro rfl
    exact absurd hbreak (by decide)
  · rintro rfl
    exact absurd hbreak (by decide)

theorem mem_of_mem_bareLine {c : Char} {raw : List Char} (h : c ∈ bareLine raw) : c ∈ raw := by
  rw [bareLine, dropRightWhile, List.mem_reverse] at h
  exact List.mem_reverse.1 (List.dropWhile_subset _ h)

/-- What is read as settings was printed. -/
theorem exists_line_of_mem_settings {lines : List String} {id : String} {entry : String × String}
    (h : entry ∈ settings lines id) :
    ∃ line ∈ lines, ∀ c ∈ entry.1.toList ++ entry.2.toList, c ∈ line.toList := by
  rw [settings, settingsFrom_eq] at h
  obtain ⟨raw, hraw, hsetting⟩ := List.mem_filterMap.1 (Bindings.mem_of_mem_ofPairs h)
  obtain ⟨line, hline, rfl⟩ := List.mem_map.1 (mem_of_mem_between hraw)
  exact ⟨line, hline, fun c hc => mem_of_mem_bareLine (mem_of_setting? hsetting c hc)⟩

/-! ## Markers -/

/-- An identifier of hexadecimal digits. -/
structure IsHexId (id : String) : Prop where
  ne_empty : id ≠ ""
  digits : id.toList.all fun c => (hexValue? c).isSome

theorem plain_of_hexValue? {c : Char} (h : (hexValue? c).isSome) :
    isBlank c = false ∧ isLineBreak c = false ∧ c ≠ '=' := by
  refine ⟨?blank, ?lineBreak, ?equals⟩
  case blank =>
    have hrange : 48 ≤ c.toNat ∧ c.toNat ≤ 102 := by
      unfold hexValue? at h
      grind
    simp only [isBlank, inRanges, blankRanges, List.any_cons, List.any_nil, Bool.or_false,
      Bool.or_eq_false_iff, Bool.and_eq_false_iff, decide_eq_false_iff_not]
    omega
  case lineBreak =>
    rw [isLineBreak, decide_eq_false_iff_not]
    intro hmem
    simp only [List.mem_cons, List.not_mem_nil, or_false] at hmem
    rcases hmem with rfl | rfl | rfl | rfl | rfl | rfl | rfl | rfl | rfl | rfl <;>
      exact absurd h (by decide)
  case equals =>
    rintro rfl
    exact absurd h (by decide)

theorem isMarker_self {marker : List Char} (hbreak : isUnbroken marker)
    (hhead : ∀ c, marker.head? = some c → isBlank c = false)
    (hlast : ∀ c, marker.getLast? = some c → isBlank c = false) : isMarker marker marker := by
  rw [isMarker, decide_eq_true_iff, bareLine_eq_self hbreak, trim_eq_self hhead hlast]

theorem head?_marker {front : String} (id : String) (h : front.toList.head? = some 'S') :
    (front ++ id).toList.head? = some 'S' := by
  rw [String.toList_append, List.head?_append, h]
  rfl

section Markers

variable {id front : String} (hid : IsHexId id)
include hid

theorem plain_of_mem {c : Char} (hc : c ∈ id.toList) :
    isBlank c = false ∧ isLineBreak c = false ∧ c ≠ '=' :=
  plain_of_hexValue? (List.all_eq_true.1 hid.digits c hc)

theorem isUnbroken_marker (h : isUnbroken front.toList) : isUnbroken (front ++ id).toList := by
  rw [String.toList_append, isUnbroken_append]
  exact ⟨h, isUnbroken_iff.2 fun c hc => (plain_of_mem hid hc).2.1⟩

theorem equals_not_mem_marker (h : '=' ∉ front.toList) : '=' ∉ (front ++ id).toList := by
  rw [String.toList_append, List.mem_append, not_or]
  exact ⟨h, fun hc => (plain_of_mem hid hc).2.2 rfl⟩

theorem isMarker_append (hbreak : isUnbroken front.toList)
    (hhead : front.toList.head? = some 'S') :
    isMarker (front ++ id).toList (front ++ id).toList := by
  have hne : id.toList ≠ [] := by simpa using hid.ne_empty
  have hstart := head?_marker id hhead
  have hend : (front ++ id).toList.getLast? = id.toList.getLast? := by
    rw [String.toList_append, List.getLast?_append_of_ne_nil _ hne]
  refine isMarker_self (isUnbroken_marker hid hbreak) ?_ ?_
  · intro c hc
    rw [hstart] at hc
    cases hc
    decide
  · intro c hc
    rw [hend] at hc
    exact (plain_of_mem hid (List.mem_of_getLast? hc)).1

theorem isMarker_beginMarker : isMarker (beginMarker id).toList (beginMarker id).toList :=
  isMarker_append hid (by decide) (by decide)

theorem isMarker_endMarker : isMarker (endMarker id).toList (endMarker id).toList :=
  isMarker_append hid (by decide) (by decide)

/-- A line with an equals sign is no end marker. -/
theorem not_isMarker_of_equals {raw : List Char} (h : '=' ∈ raw) :
    isMarker (endMarker id).toList raw = false := by
  rw [isMarker, decide_eq_false_iff_not]
  intro htrim
  have hequals : '=' ∈ (endMarker id).toList :=
    htrim ▸ mem_trim (mem_bareLine h (by decide)) (by decide)
  exact equals_not_mem_marker hid (by decide) hequals

end Markers

/-! ## A whole environment -/

/-- A setting as a shell prints it. -/
def settingLine (entry : String × String) : String :=
  entry.1 ++ "=" ++ entry.2

/-- What a shell prints of an environment, between the markers. -/
def dump (environment : Environment) (id : String) : List String :=
  beginMarker id :: (environment.map settingLine ++ [endMarker id])

/-- A shell can print each variable as a setting on a line. -/
structure Printable (environment : Environment) : Prop where
  distinct : (environment.map (·.1)).Nodup
  names : ∀ entry ∈ environment, ¬entry.1.toList.all isBlank ∧ '=' ∉ entry.1.toList
  lines : ∀ entry ∈ environment,
    '\r' ∉ entry.1.toList ++ entry.2.toList ∧ '\n' ∉ entry.1.toList ++ entry.2.toList

/-- Neither names nor values hold a character that ends a line. -/
def Unbroken (environment : Environment) : Prop :=
  ∀ entry ∈ environment, isUnbroken (entry.1.toList ++ entry.2.toList)

theorem toList_settingLine (entry : String × String) :
    (settingLine entry).toList = entry.1.toList ++ '=' :: entry.2.toList := by
  rw [settingLine, String.toList_append, String.toList_append, List.append_assoc]
  rfl

theorem isUnbroken_settingLine {entry : String × String}
    (h : isUnbroken (entry.1.toList ++ entry.2.toList)) :
    isUnbroken (settingLine entry).toList := by
  rw [isUnbroken_append] at h
  rw [toList_settingLine, isUnbroken_append, isUnbroken_cons]
  exact ⟨h.1, by decide, h.2⟩

variable {environment : Environment} {id : String}

theorem settingsOn_map_settingLine (h : Printable environment) (hunbroken : Unbroken environment) :
    settingsOn ((environment.map settingLine).map String.toList) = environment := by
  have hread : ∀ entry ∈ environment,
      setting? (bareLine (settingLine entry).toList) = some entry := by
    intro entry hentry
    obtain ⟨hblank, hname⟩ := h.names entry hentry
    rw [bareLine_eq_self (isUnbroken_settingLine (hunbroken entry hentry)), toList_settingLine,
      setting?_append hblank hname, String.ofList_toList, String.ofList_toList]
  rw [settingsOn, List.map_map, List.filterMap_map]
  calc environment.filterMap ((fun raw => setting? (bareLine raw)) ∘ String.toList ∘ settingLine)
      = environment.filterMap some := List.filterMap_congr hread
    _ = environment := List.filterMap_some

theorem settings_dump (h : Printable environment) (hunbroken : Unbroken environment)
    (hid : IsHexId id) : settings (dump environment id) id = environment := by
  have hinside : ∀ raw ∈ (environment.map settingLine).map String.toList,
      isMarker (endMarker id).toList raw = false := by
    simp only [List.forall_mem_map]
    intro entry _
    refine not_isMarker_of_equals hid ?_
    rw [toList_settingLine]
    exact List.mem_append_right _ List.mem_cons_self
  rw [settings, settingsFrom_eq, dump, List.map_cons, List.map_append, List.map_singleton,
    between_append (isMarker_beginMarker hid) (isMarker_endMarker hid) hinside,
    settingsOn_map_settingLine h hunbroken, Bindings.ofPairs_of_nodup h.distinct]

/-! ## Raw output -/

theorem decode_printed (lines : List String) :
    Utf16.decode (printed lines) = (lines.map String.toList).flatMap (· ++ ['\r', '\n']) := by
  have hencode : printed lines =
      Utf16.encode ((lines.map String.toList).flatMap (· ++ ['\r', '\n'])) := by
    rw [printed, Utf16.encode, List.flatMap_assoc, List.flatMap_map]
    rfl
  rw [hencode, Utf16.decode_encode]

theorem linesOf_printed_dump (hunbroken : Unbroken environment) (hid : IsHexId id) :
    linesOf .utf16 (printed (dump environment id)) = dump environment id := by
  have hlines : ∀ line ∈ (dump environment id).map String.toList, isUnbroken line := by
    simp only [dump, List.map_cons, List.map_append, List.map_nil, List.forall_mem_cons,
      List.forall_mem_append, List.forall_mem_map]
    refine ⟨?_, fun entry hentry => isUnbroken_settingLine (hunbroken entry hentry), ?_, by simp⟩
    all_goals exact isUnbroken_marker hid (by decide)
  -- The text starts with a marker, so there is no byte order mark to take away.
  have hstart : ∀ c, (((dump environment id).map String.toList).flatMap (· ++ ['\r', '\n'])).head? =
      some c → decide (c = '\uFEFF') = false := by
    have hhead : (beginMarker id).toList.head? = some 'S' := head?_marker id (by decide)
    intro c hc
    rw [dump, List.map_cons, List.flatMap_cons, List.head?_append, List.head?_append, hhead] at hc
    cases hc
    decide
  rw [linesOf, Encoding.decode, decode_printed, dropWhile_eq_self hstart, splitLines_flatMap hlines,
    List.map_map]
  simp

/-- An environment is read back from what a shell prints of it exactly if none of its names and
    values holds one of the characters that end a line: more than the carriage return and the line
    feed with which the shell ends its lines. -/
theorem settings_printed_iff (h : Printable environment) (hid : IsHexId id) :
    settings (linesOf .utf16 (printed (dump environment id))) id = environment ↔
      Unbroken environment := by
  constructor
  case mp =>
    intro hread entry hentry
    rw [← hread] at hentry
    obtain ⟨line, hline, hmem⟩ := exists_line_of_mem_settings hentry
    rw [linesOf] at hline
    obtain ⟨text, htext, rfl⟩ := List.mem_map.1 hline
    rw [String.toList_ofList] at hmem
    have hunbroken := isUnbroken_iff.1 (isUnbroken_of_mem_splitLines text htext)
    exact isUnbroken_iff.2 fun c hc => hunbroken c (hmem c hc)
  case mpr =>
    intro hunbroken
    rw [linesOf_printed_dump hunbroken hid, settings_dump h hunbroken hid]

theorem settings_printed_beyondLatin :
    let environment := [("PATH", "C:\\Bücher;D:\\😀"), ("OPTIONS", "a=b\tc"), ("EMPTY", "")]
    (Printable environment ∧ IsHexId "0f") ∧
      settings (linesOf .utf16 (printed (dump environment "0f"))) "0f" = environment :=
  have hprintable :
      Printable [("PATH", "C:\\Bücher;D:\\😀"), ("OPTIONS", "a=b\tc"), ("EMPTY", "")] :=
    ⟨by decide +kernel, by decide +kernel, by decide +kernel⟩
  have hid : IsHexId "0f" := ⟨by decide, by decide +kernel⟩
  have hunbroken :
      Unbroken [("PATH", "C:\\Bücher;D:\\😀"), ("OPTIONS", "a=b\tc"), ("EMPTY", "")] := by
    unfold Unbroken
    decide +kernel
  ⟨⟨hprintable, hid⟩, (settings_printed_iff hprintable hid).2 hunbroken⟩

/-- Behind a vertical tab a value is lost, behind a line separator it becomes another variable. -/
theorem settings_printed_cut :
    IsHexId "0f" ∧
      (Printable [("A", "1\x0B2")] ∧
        settings (linesOf .utf16 (printed (dump [("A", "1\x0B2")] "0f"))) "0f" = [("A", "1")]) ∧
      (Printable [("A", "1\u2028B=2")] ∧
        settings (linesOf .utf16 (printed (dump [("A", "1\u2028B=2")] "0f"))) "0f" =
          [("A", "1"), ("B", "2")]) := by
  refine ⟨⟨?_, ?_⟩, ⟨⟨?_, ?_, ?_⟩, ?_⟩, ⟨?_, ?_, ?_⟩, ?_⟩
  all_goals decide +kernel

end Capture
end CompileCommands
