/-
  Text with codes for colours and styles put in.

  * `Terminal.codes`, `Terminal.withoutCodes`: the codes, and a text without them;
  * `Terminal.Decorates`: a text is another one with codes put in, with one rule for each way to put
    texts together; `Decorates.withoutCodes_eq`: taking out the codes gives the other text back, if
    that has no escape character;
  * `Palette.decorates_colored`, `Palette.decorates_error` and so on: what is printed in colour is
    what is printed without, with codes put in; `Palette.decorates_fields`: also in columns, whose
    width does not depend on codes;
  * `Palette.escapeFree_error`, `Palette.escapeFree_fields` and so on: what is printed without has
    escape characters only where its texts have.
-/
import CompileCommands.Proofs.Text.Escape
import CompileCommands.Terminal.Style
import Mathlib.Data.List.Basic

namespace CompileCommands

open Text

namespace Terminal

/-! ## Codes -/

/-- The codes of ANSI terminals. -/
def codes : List (List Char) :=
  let p := Palette.ansi
  [p.red, p.green, p.yellow, p.cyan, p.white, p.reset, p.bright, p.dim].map String.toList

/-- The code that a text begins with. -/
def code? (s : List Char) : Option (List Char) :=
  codes.find? fun code => code.isPrefixOf s

/-- A text without codes, from behind its first `skip` characters on. -/
def dropCodes : (skip : Nat) → List Char → List Char
  | _, [] => []
  | skip + 1, _ :: rest => dropCodes skip rest
  | 0, c :: rest =>
    match code? (c :: rest) with
    | some code => dropCodes (code.length - 1) rest
    | none => c :: dropCodes 0 rest

/-- A text without codes. -/
def withoutCodes (text : String) : String :=
  String.ofList (dropCodes 0 text.toList)

/-- Every code begins with an escape character. -/
theorem head?_of_mem_codes {code : List Char} (h : code ∈ codes) : code.head? = some escape := by
  revert code
  decide

/-- No code is the beginning of another one. -/
theorem code?_append {code : List Char} (h : code ∈ codes) (rest : List Char) :
    code? (code ++ rest) = some code := by
  simp only [codes, List.map_cons, List.map_nil, List.mem_cons, List.not_mem_nil, or_false] at h
  rcases h with rfl | rfl | rfl | rfl | rfl | rfl | rfl | rfl <;> rfl

theorem code?_eq_none {c : Char} (h : c ≠ escape) (rest : List Char) :
    code? (c :: rest) = none := by
  refine List.find?_eq_none.2 fun code hcode hfront => ?_
  have hhead := head?_of_mem_codes hcode
  cases code with
  | nil => cases hhead
  | cons first code =>
    rw [List.isPrefixOf_iff_prefix, List.cons_prefix_cons] at hfront
    rw [List.head?_cons, Option.some.injEq] at hhead
    exact h (hfront.1.symm.trans hhead)

theorem dropCodes_append (front rest : List Char) :
    dropCodes front.length (front ++ rest) = dropCodes 0 rest := by
  induction front with
  | nil => rfl
  | cons c front ih => exact ih

theorem dropCodes_code {code : List Char} (h : code ∈ codes) (rest : List Char) :
    dropCodes 0 (code ++ rest) = dropCodes 0 rest := by
  have hcode := code?_append h rest
  cases code with
  | nil => cases head?_of_mem_codes h
  | cons first tail =>
    rw [List.cons_append] at hcode ⊢
    rw [dropCodes, hcode]
    exact dropCodes_append tail rest

theorem dropCodes_cons {c : Char} (h : c ≠ escape) (rest : List Char) :
    dropCodes 0 (c :: rest) = c :: dropCodes 0 rest := by
  rw [dropCodes, code?_eq_none h]

/-! ## Text with codes -/

/-- The first text is the second with codes put in. -/
inductive Coded : List Char → List Char → Prop
  | nil : Coded [] []
  | char (c : Char) {s t : List Char} : Coded s t → Coded (c :: s) (c :: t)
  | code {code s t : List Char} : code ∈ codes → Coded s t → Coded (code ++ s) t

namespace Coded

variable {s t s' t' : List Char}

theorem refl (s : List Char) : Coded s s := by
  induction s with
  | nil => exact .nil
  | cons c s ih => exact .char c ih

theorem append (h : Coded s t) (h' : Coded s' t') : Coded (s ++ s') (t ++ t') := by
  induction h with
  | nil => exact h'
  | char c _ ih => exact .char c ih
  | code hcode _ ih =>
    rw [List.append_assoc]
    exact .code hcode ih

/-- The codes are all that is taken out, since only they have escape characters. -/
theorem dropCodes_eq (h : Coded s t) (hplain : escape ∉ t) : dropCodes 0 s = t := by
  induction h with
  | nil => rfl
  | char c _ ih =>
    rw [List.mem_cons, not_or] at hplain
    rw [dropCodes_cons (Ne.symm hplain.1), ih hplain.2]
  | code hcode _ ih => rw [dropCodes_code hcode, ih hplain]

end Coded

/-- The first text is the second with codes put in. -/
def Decorates (text plain : String) : Prop :=
  Coded text.toList plain.toList

namespace Decorates

variable {text plain text' plain' : String}

theorem refl (text : String) : Decorates text text :=
  Coded.refl _

theorem code {code : String} (h : code.toList ∈ codes) : Decorates code "" := by
  have hcoded := Coded.code h .nil
  rwa [List.append_nil] at hcoded

theorem append (h : Decorates text plain) (h' : Decorates text' plain') :
    Decorates (text ++ text') (plain ++ plain') := by
  unfold Decorates
  rw [String.toList_append, String.toList_append]
  exact Coded.append h h'

theorem code_append (hcode : Decorates text "") (h : Decorates text' plain) :
    Decorates (text ++ text') plain := by
  have happend := hcode.append h
  rwa [String.empty_append] at happend

theorem append_code (h : Decorates text plain) (hcode : Decorates text' "") :
    Decorates (text ++ text') plain := by
  have happend := h.append hcode
  rwa [String.append_empty] at happend

theorem join {α : Type} {f g : α → String} (h : ∀ a, Decorates (f a) (g a)) (l : List α) :
    Decorates (String.join (l.map f)) (String.join (l.map g)) := by
  induction l with
  | nil => exact refl _
  | cons a l ih =>
    rw [List.map_cons, List.map_cons, String.join_cons, String.join_cons]
    exact (h a).append ih

theorem withoutCodes_eq (h : Decorates text plain) (hplain : EscapeFree plain) :
    withoutCodes text = plain := by
  have hnone : escape ∉ plain.toList := fun hescape => hplain escape hescape rfl
  rw [withoutCodes, h.dropCodes_eq hnone, String.ofList_toList]

end Decorates

end Terminal

namespace Palette

open Terminal

/-! ## What is printed with codes -/

/-- A text in colour; a colour and a style may be missing. -/
theorem decorates_colored {text plain color style : String} (h : Decorates text plain)
    (hcolor : Decorates color "") (hstyle : Decorates style "") :
    Decorates (ansi.colored text color style) (none.colored plain "" "") := by
  have hnone : none.colored plain "" "" = plain := if_pos ⟨rfl, rfl⟩
  have hreset : Decorates ansi.reset "" := .code (by decide)
  rw [hnone, colored]
  split
  · exact h
  · exact ((hstyle.code_append hcolor).code_append h).append_code hreset

theorem decorates_line {color : String} (text : String) (h : color.toList ∈ codes) :
    Decorates (ansi.line text color) (none.line text "") :=
  (decorates_colored (.refl text) (.code h) (.refl "")).append (.refl "\n")

theorem decorates_success (text : String) : Decorates (ansi.success text) (none.success text) :=
  decorates_line text (by decide)

theorem decorates_info (text : String) : Decorates (ansi.info text) (none.info text) :=
  decorates_line text (by decide)

theorem decorates_error (text : String) (named : Bool) :
    Decorates (ansi.error text named) (none.error text named) :=
  decorates_line _ (by decide)

theorem decorates_warning (text : String) (named : Bool) :
    Decorates (ansi.warning text named) (none.warning text named) :=
  decorates_line _ (by decide)

theorem decorates_heading (text : String) : Decorates (ansi.heading text) (none.heading text) := by
  have hbright : Decorates ansi.bright none.bright := .code (by decide)
  have hcyan : Decorates ansi.cyan none.cyan := .code (by decide)
  have hreset : Decorates ansi.reset none.reset := .code (by decide)
  unfold heading
  exact (((((hbright.append hcyan).append (.refl "=== ")).append (.refl text)).append
    (.refl " ===")).append hreset).append (.refl "\n")

/-- The width is that of the label, without the codes around it. -/
theorem decorates_field (width : Nat) (label : String) (value : Option String) :
    Decorates (ansi.field width label value) (none.field width label value) := by
  have hwhite : Decorates ansi.white none.white := .code (by decide)
  have hbright : Decorates ansi.bright none.bright := .code (by decide)
  have hlabel := decorates_colored (.refl (padded (label ++ ":") (width + 1))) hwhite hbright
  unfold field
  exact ((hlabel.append (.refl " ")).append (.refl (value.getD "-"))).append (.refl "\n")

theorem decorates_fields (values : Bindings (Option String)) :
    Decorates (ansi.fields values) (none.fields values) := by
  let width := (values.map (·.1.length)).foldl max 0
  have hfield (entry : String × Option String) := decorates_field width entry.1 entry.2
  exact .join hfield values

/-! ## What is printed without -/

theorem escapeFree_colored {text : String} (h : EscapeFree text) :
    EscapeFree (none.colored text "" "") := by
  have hnone : none.colored text "" "" = text := if_pos ⟨rfl, rfl⟩
  rwa [hnone]

theorem escapeFree_line {text : String} (h : EscapeFree text) : EscapeFree (none.line text "") :=
  (escapeFree_colored h).string_append (by decide)

theorem escapeFree_success {text : String} (h : EscapeFree text) :
    EscapeFree (none.success text) :=
  escapeFree_line h

theorem escapeFree_info {text : String} (h : EscapeFree text) : EscapeFree (none.info text) :=
  escapeFree_line h

theorem escapeFree_error {text : String} (h : EscapeFree text) (named : Bool) :
    EscapeFree (none.error text named) :=
  escapeFree_line (.ite (.string_append (by decide) h) h)

theorem escapeFree_warning {text : String} (h : EscapeFree text) (named : Bool) :
    EscapeFree (none.warning text named) :=
  escapeFree_line (.ite (.string_append (by decide) h) h)

theorem escapeFree_heading {text : String} (h : EscapeFree text) :
    EscapeFree (none.heading text) := by
  have hfront : EscapeFree (none.bright ++ none.cyan ++ "=== ") := by decide
  unfold heading
  exact (((hfront.string_append h).string_append (by decide)).string_append
    (by decide)).string_append (by decide)

theorem escapeFree_field {label : String} {value : Option String} (hlabel : EscapeFree label)
    (hvalue : EscapeFree value) (width : Nat) : EscapeFree (none.field width label value) := by
  have hpadded : EscapeFree (padded (label ++ ":") (width + 1)) :=
    .string_append (hlabel.string_append (by decide)) (.ofList (.replicate (by decide) _))
  unfold field
  exact (((escapeFree_colored hpadded).string_append (by decide)).string_append
    (hvalue.getD (by decide))).string_append (by decide)

theorem escapeFree_fields {values : Bindings (Option String)} (h : EscapeFree values) :
    EscapeFree (none.fields values) :=
  .join (.map _ fun entry hentry => escapeFree_field (h entry hentry).1 (h entry hentry).2 _)

end Palette
end CompileCommands
