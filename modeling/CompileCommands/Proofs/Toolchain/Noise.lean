/-
  The settings among everything else that a shell prints.

  * `Bindings.names_ofPairs`, `Bindings.get?_ofPairs`: names that are bound one after the other
    keep the order in which they came up first, and take their last values;
  * `IsPlainId`, `IsMarkerLine`: the identifiers of markers, and markers with white space around
    them;
  * `DumpLine`: a line between the markers: a setting, or something that is none;
  * `between_leading`, `settingsOn_text`: the lines that are read, and the settings on them;
  * `settings_amidNoise`: the settings are read back, whatever stands around them.
-/
import CompileCommands.Proofs.Toolchain.Capture
import Mathlib.Data.List.Induction

namespace CompileCommands

/-! ## Bindings made one after the other -/

namespace Bindings

variable {α : Type}

theorem names_insert (b : Bindings α) (name : String) (value : α) :
    (b.insert name value).map (·.1) =
      if name ∈ b.map (·.1) then b.map (·.1) else b.map (·.1) ++ [name] := by
  induction b with
  | nil => rfl
  | cons entry b ih =>
    rw [insert]
    by_cases h : entry.1 = name
    · simp [h]
    · rw [if_neg h, List.map_cons, ih, List.map_cons]
      simp only [List.mem_cons, Ne.symm h, false_or]
      split
      · rfl
      · rfl

/-- A further pair is bound last. -/
theorem ofPairs_concat (pairs : Bindings α) (entry : String × α) :
    ofPairs (pairs ++ [entry]) = (ofPairs pairs).insert entry.1 entry.2 := by
  rw [ofPairs, List.foldl_append]
  rfl

/-- By induction on the pairs from the end: the pair that is bound last keeps the place of its
    name, or takes the last one. -/
theorem names_ofPairs (pairs : Bindings α) :
    (ofPairs pairs).map (·.1) = (pairs.map (·.1)).eraseDups := by
  induction pairs using List.reverseRecOn with
  | nil => rfl
  | append_singleton pairs entry ih =>
    have hold : entry.1 ∈ (pairs.map (·.1)).eraseDups ↔ entry.1 ∈ pairs.map (·.1) :=
      List.mem_eraseDups
    rw [ofPairs_concat, names_insert, ih, List.map_append, List.map_singleton,
      List.eraseDups_append]
    by_cases h : entry.1 ∈ pairs.map (·.1)
    · rw [if_pos (hold.2 h)]
      simp [List.removeAll, h]
    · rw [if_neg fun hmem => h (hold.1 hmem)]
      simp [List.removeAll, h, List.eraseDups_cons]

theorem get?_ofPairs (pairs : Bindings α) (name : String) :
    (ofPairs pairs).get? name = get? pairs.reverse name := by
  induction pairs using List.reverseRecOn with
  | nil => rfl
  | append_singleton pairs entry ih =>
    rw [ofPairs_concat, get?_insert, ih, List.reverse_append, List.reverse_singleton,
      List.singleton_append, get?_cons]

end Bindings

namespace Capture

open Text

/-! ## Markers -/

/-- The identifier is not empty, and its markers are neither settings nor changed when white space
    around them is taken away. -/
structure IsPlainId (id : String) : Prop where
  ne_empty : id ≠ ""
  equals : '=' ∉ id.toList
  last : ∀ c, id.toList.getLast? = some c → isBlank c = false

/-- The line is a marker with white space around it, that which ends the line included. -/
def IsMarkerLine (marker line : String) : Prop :=
  ∃ front back, front.toList.all isBlank ∧ back.toList.all isBlank ∧
    line = front ++ marker ++ back

theorem trim_bareLine (raw : List Char) : trim (bareLine raw) = trim raw := by
  obtain ⟨ending, hending, hraw⟩ :=
    exists_dropRightWhile_append (fun c => c = '\r' || c = '\n') raw
  have hblank : ∀ c ∈ ending, isBlank c := by
    intro c hc
    have hc := hending c hc
    simp only [Bool.or_eq_true, decide_eq_true_eq] at hc
    rcases hc with rfl | rfl <;> decide
  have htrim := trim_append_blank (s := bareLine raw) hblank
  rw [bareLine, ← hraw] at htrim
  exact htrim.symm

theorem isMarker_iff {marker raw : List Char} : isMarker marker raw ↔ trim raw = marker := by
  rw [isMarker, trim_bareLine, decide_eq_true_iff]

theorem isMarker_eq_false_iff {marker raw : List Char} :
    isMarker marker raw = false ↔ trim raw ≠ marker := by
  rw [← Bool.not_eq_true, isMarker_iff]

section Markers

variable {id front : String} (hid : IsPlainId id)
include hid

theorem IsMarkerLine.isMarker (hfront : front.toList.head? = some 'S') {line : String}
    (h : IsMarkerLine (front ++ id) line) : isMarker (front ++ id).toList line.toList := by
  have hne : id.toList ≠ [] := by simpa using hid.ne_empty
  have hself : trim (front ++ id).toList = (front ++ id).toList := by
    refine trim_eq_self ?_ ?_
    · intro c hc
      rw [head?_marker id hfront] at hc
      cases hc
      decide
    · intro c hc
      rw [String.toList_append, List.getLast?_append_of_ne_nil _ hne] at hc
      exact hid.last c hc
  obtain ⟨before, behind, hbefore, hbehind, rfl⟩ := h
  rw [isMarker_iff, String.toList_append, String.toList_append]
  exact trim_surrounded (List.all_eq_true.1 hbefore) (List.all_eq_true.1 hbehind) hself

/-- A line with an equals sign is no marker. -/
theorem trim_ne_of_equals (hfront : '=' ∉ front.toList) {raw : List Char} (h : '=' ∈ raw) :
    trim raw ≠ (front ++ id).toList := by
  intro htrim
  have hequals : '=' ∈ (front ++ id).toList := htrim ▸ mem_trim h (by decide)
  rw [String.toList_append, List.mem_append] at hequals
  exact hequals.elim hfront hid.equals

end Markers

/-! ## Lines between the markers -/

/-- A line between the markers. -/
inductive DumpLine where
  /-- A setting, with what ends its line. -/
  | setting (name value ending : String)
  /-- Anything else. -/
  | other (line : String)

namespace DumpLine

/-- The line as it is printed. -/
def text : DumpLine → String
  | setting name value ending => settingLine (name, value) ++ ending
  | other line => line

/-- The setting on the line. -/
def entry? : DumpLine → Option (String × String)
  | setting name value _ => some (name, value)
  | other _ => none

/-- The line can be told from the end marker, and what is no setting from settings: a name is not
    blank and without an equals sign, and a value does not end as lines do; any other line has no
    equals sign, or only white space before the first one. -/
inductive Fits (id : String) : DumpLine → Prop
  | setting {name value ending : String} : ¬name.toList.all isBlank → '=' ∉ name.toList →
      (∀ c, value.toList.getLast? = some c → c ≠ '\r' ∧ c ≠ '\n') →
      (∀ c ∈ ending.toList, c = '\r' ∨ c = '\n') → Fits id (.setting name value ending)
  | other {line : String} :
      '=' ∉ line.toList ∨ (line.toList.takeWhile (· ≠ '=')).all isBlank →
      trim line.toList ≠ (endMarker id).toList → Fits id (.other line)

theorem equals_mem_setting (name value ending : String) :
    '=' ∈ (setting name value ending).text.toList := by
  rw [text, String.toList_append, toList_settingLine]
  simp

variable {id : String} {line : DumpLine}

theorem Fits.trim_ne (hid : IsPlainId id) (h : line.Fits id) :
    trim line.text.toList ≠ (endMarker id).toList := by
  cases h with
  | setting => exact trim_ne_of_equals hid (by decide) (equals_mem_setting _ _ _)
  | other _ hmarker => exact hmarker

end DumpLine

/-- What ends a line is not part of the value. -/
theorem bareLine_setting {name value ending : String}
    (hvalue : ∀ c, value.toList.getLast? = some c → c ≠ '\r' ∧ c ≠ '\n')
    (hending : ∀ c ∈ ending.toList, c = '\r' ∨ c = '\n') :
    bareLine (DumpLine.setting name value ending).text.toList =
      name.toList ++ '=' :: value.toList := by
  rw [DumpLine.text, String.toList_append, toList_settingLine, bareLine,
    dropRightWhile_append (by simpa using hending)]
  refine dropRightWhile_eq_self fun c hc => ?_
  rw [List.getLast?_append, List.getLast?_cons, Option.some_or, Option.some.injEq] at hc
  cases hlast : value.toList.getLast? with
  | none =>
    rw [hlast, Option.getD_none] at hc
    subst hc
    decide
  | some d =>
    rw [hlast, Option.getD_some] at hc
    subst hc
    simpa using hvalue d hlast

theorem setting?_eq_none {line : List Char}
    (h : '=' ∉ line ∨ (line.takeWhile (· ≠ '=')).all isBlank) : setting? line = none := by
  unfold setting?
  split
  · rfl
  · next equals value hline =>
    have hmem : '=' ∈ line := by
      have hequals := List.head?_dropWhile_not (fun c : Char => decide (c ≠ '=')) line
      have hin := List.dropWhile_subset (fun c : Char => decide (c ≠ '=')) (l := line)
      rw [hline] at hequals hin
      have hsame : equals = '=' := by simpa using hequals
      exact hsame ▸ hin List.mem_cons_self
    exact if_pos (h.resolve_left (not_not.2 hmem))

theorem DumpLine.Fits.setting?_bareLine {id : String} {line : DumpLine} (h : line.Fits id) :
    setting? (bareLine line.text.toList) = line.entry? := by
  cases h with
  | @setting name value ending hblank hname hvalue hending =>
    rw [bareLine_setting hvalue hending, setting?_append hblank hname, String.ofList_toList,
      String.ofList_toList]
    rfl
  | @other raw hnone _ =>
    obtain ⟨ending, -, hraw⟩ :=
      exists_dropRightWhile_append (fun c => c = '\r' || c = '\n') raw.toList
    rw [← bareLine] at hraw
    rw [hraw] at hnone
    refine setting?_eq_none (hnone.imp (fun h hmem => h (List.mem_append_left _ hmem)) fun h => ?_)
    simp only [List.all_eq_true] at h ⊢
    intro c hc
    exact h c ((takeWhile_prefix_append _ _ _).subset hc)

/-! ## What is read -/

variable {id first last : String} {leading trailing : List String} {body : List DumpLine}

/-- Lines in front of the first begin marker do not count. -/
theorem between_leading {start stop : List Char} {leading rest : List (List Char)}
    {first : List Char} (hleading : ∀ raw ∈ leading, isMarker start raw = false)
    (hfirst : isMarker start first) :
    between start stop (leading ++ first :: rest) =
      rest.takeWhile fun raw => !isMarker stop raw := by
  rw [between, List.dropWhile_append_of_pos (by simpa using hleading),
    List.dropWhile_cons_of_neg (by simp [hfirst])]
  rfl

theorem settingsOn_text (h : ∀ line ∈ body, line.Fits id) :
    settingsOn (body.map fun line => line.text.toList) = body.filterMap DumpLine.entry? := by
  rw [settingsOn, List.filterMap_map]
  exact List.filterMap_congr fun line hline => (h line hline).setting?_bareLine

/-- The settings behind the begin marker are read up to the end marker, or up to the end. -/
theorem settings_leading (hid : IsPlainId id)
    (hleading : ∀ line ∈ leading, trim line.toList ≠ (beginMarker id).toList)
    (hfirst : IsMarkerLine (beginMarker id) first) (hbody : ∀ line ∈ body, line.Fits id)
    (rest : List String)
    (hrest : ∀ line, rest.head? = some line → IsMarkerLine (endMarker id) line) :
    settings (leading ++ first :: (body.map DumpLine.text ++ rest)) id =
      Bindings.ofPairs (body.filterMap DumpLine.entry?) := by
  have hbefore : ∀ raw ∈ leading.map String.toList, isMarker (beginMarker id).toList raw = false := by
    simpa [isMarker_eq_false_iff] using hleading
  have hstart : isMarker (beginMarker id).toList first.toList := hfirst.isMarker hid (by decide)
  have hinside : ∀ raw ∈ body.map (fun line => line.text.toList),
      (!isMarker (endMarker id).toList raw) = true := by
    simpa [isMarker_eq_false_iff] using fun line hline => (hbody line hline).trim_ne hid
  have hstop : (rest.map String.toList).takeWhile (fun raw => !isMarker (endMarker id).toList raw) =
      [] := by
    cases rest with
    | nil => rfl
    | cons line rest =>
      have hend : isMarker (endMarker id).toList line.toList :=
        (hrest line rfl).isMarker hid (by decide)
      exact List.takeWhile_cons_of_neg (by simp [hend])
  rw [settings, settingsFrom_eq, List.map_append, List.map_cons, List.map_append, List.map_map,
    between_leading hbefore hstart]
  change Bindings.ofPairs (settingsOn (List.takeWhile _
    (body.map (fun line => line.text.toList) ++ rest.map String.toList))) = _
  rw [List.takeWhile_append_of_pos hinside, hstop, List.append_nil, settingsOn_text hbody]

/-- **The settings are read back, whatever stands around them.** Let a shell print any lines but
    the begin marker, then the begin marker, then settings with other lines between them, then the
    end marker and any lines. Then the settings are read: each name once, in the order in which the
    names came up first, with the value that it had last. It makes no difference if nothing follows
    the end marker, or if the end marker is missing as well, and no setting is taken for a
    marker. -/
theorem settings_amidNoise (hid : IsPlainId id)
    (hleading : ∀ line ∈ leading, trim line.toList ≠ (beginMarker id).toList)
    (hfirst : IsMarkerLine (beginMarker id) first) (hbody : ∀ line ∈ body, line.Fits id)
    (hlast : IsMarkerLine (endMarker id) last) :
    let entries := body.filterMap DumpLine.entry?
    let read := settings (leading ++ first :: (body.map DumpLine.text ++ last :: trailing)) id
    (read.map (·.1) = (entries.map (·.1)).eraseDups ∧
      ∀ name, read.get? name = entries.reverse.lookup name) ∧
    settings (leading ++ first :: (body.map DumpLine.text ++ [last])) id = read ∧
    settings (leading ++ first :: body.map DumpLine.text) id = read ∧
    ∀ name value ending, ∀ marker ∈ [beginMarker id, endMarker id],
      trim (DumpLine.setting name value ending).text.toList ≠ marker.toList := by
  dsimp only
  have hwhole := settings_leading hid hleading hfirst hbody (last :: trailing)
    fun line hline => Option.some.inj hline ▸ hlast
  have hended := settings_leading hid hleading hfirst hbody [last]
    fun line hline => Option.some.inj hline ▸ hlast
  have hopen := settings_leading hid hleading hfirst hbody [] nofun
  rw [List.append_nil] at hopen
  refine ⟨⟨?names, ?values⟩, hended.trans hwhole.symm, hopen.trans hwhole.symm, ?markers⟩
  case names => rw [hwhole, Bindings.names_ofPairs]
  case values =>
    intro name
    rw [hwhole, Bindings.get?_ofPairs]
    rfl
  case markers =>
    intro name value ending marker hmarker
    have hequals := DumpLine.equals_mem_setting name value ending
    simp only [List.mem_cons, List.not_mem_nil, or_false] at hmarker
    rcases hmarker with rfl | rfl
    · exact trim_ne_of_equals hid (by decide) hequals
    · exact trim_ne_of_equals hid (by decide) hequals

/-- A variable of the shell without a name, another begin marker and a name that comes up twice. -/
theorem settings_amidNoise_repeated :
    let body : List DumpLine := [.setting "A" "1" "\r\n", .other "=C:=C:\\x\r\n",
      .setting "B" "x=y " "", .other " SONARLINT_BEGIN_CAPTURE 0f", .setting "A" "" "\n"]
    let read := settings (["banner", "A=0"] ++ "\tSONARLINT_BEGIN_CAPTURE 0f \r\n" ::
      (body.map DumpLine.text ++ " SONARLINT_END_CAPTURE 0f" :: ["C=3"])) "0f"
    (IsPlainId "0f" ∧ ∀ line ∈ body, line.Fits "0f") ∧
      read.map (·.1) = ["A", "B"] ∧ read.get? "A" = some "" ∧ read.get? "B" = some "x=y " := by
  intro body read
  have hid : IsPlainId "0f" := by
    have hf : "0f".toList.getLast? = some 'f' := by decide
    exact ⟨by decide, by decide, fun c hc => Option.some.inj (hf.symm.trans hc) ▸ by decide⟩
  have hleading : ∀ line ∈ ["banner", "A=0"], trim line.toList ≠ (beginMarker "0f").toList := by
    decide +kernel
  have hfirst : IsMarkerLine (beginMarker "0f") "\tSONARLINT_BEGIN_CAPTURE 0f \r\n" :=
    ⟨"\t", " \r\n", by decide, by decide, by decide⟩
  have hlast : IsMarkerLine (endMarker "0f") " SONARLINT_END_CAPTURE 0f" :=
    ⟨" ", "", by decide, by decide, by decide⟩
  have hbody : ∀ line ∈ body, line.Fits "0f" := by
    simp only [body, List.forall_mem_cons]
    refine ⟨.setting (by decide) (by decide) (by simp) (by simp),
      .other (.inr (by decide)) (by decide +kernel),
      .setting (by decide) (by decide) (by simp) (by simp),
      .other (.inl (by decide)) (by decide +kernel),
      .setting (by decide) (by decide) (by simp) (by simp), by simp⟩
  obtain ⟨⟨hnames, hvalues⟩, -⟩ :=
    @settings_amidNoise _ _ _ _ ["C=3"] _ hid hleading hfirst hbody hlast
  exact ⟨⟨hid, hbody⟩, hnames.trans (by decide), (hvalues "A").trans (by decide),
    (hvalues "B").trans (by decide)⟩

end Capture
end CompileCommands
