/-
  What arguments of a command come to.

  * `Cli.escapeFree_stepsOf`: the values that switches are given, and the operand, are parts of the
    arguments, and so have escape characters only where those have;
  * `Cli.escapeFree_parse`: so the settings have none, if their defaults have none;
  * `Reading.apply_map`: a change of the settings that all uses of switches carry along may be made
    first; `Cli.parse_switch`: so a switch in front of the arguments makes that change to what
    they come to without it.
-/
import CompileCommands.Cli.Arguments
import CompileCommands.Proofs.Computation.Escape

namespace CompileCommands.Cli

open Text

variable {ι : Type}

/-! ## Values -/

/-- The value of a switch, or the operand. -/
instance : Textual (Step ι) := ⟨fun
  | .use _ value => EscapeFree value
  | .operand text => EscapeFree text
  | .misplaced | .refused => True⟩

/-- The values of the switches. -/
instance : Textual (Switches ι) := ⟨fun
  | .complete steps | .incomplete steps _ => EscapeFree steps
  | .refused => True⟩

/-- The value, or the values of the switches. -/
instance : Textual (Word ι) := ⟨fun
  | .value text => EscapeFree text
  | .switches switches => EscapeFree switches
  | .separator => True⟩

instance : Textual Ending := ⟨fun _ => True⟩

section Values

variable {s : List Char} {text : String}

theorem escapeFree_bare (switch : Switch ι) : EscapeFree (Switches.bare switch) := by
  have huse : EscapeFree (Step.use switch.meaning none) := EscapeFree.none
  unfold Switches.bare
  split
  · exact EscapeFree.nil
  · exact EscapeFree.singleton huse

theorem escapeFree_attached (switch : Switch ι) (h : EscapeFree text) :
    EscapeFree (Switches.attached switch text) := by
  have hvalue : EscapeFree (attachedValue text) := .ite .none (.some h)
  have huse : EscapeFree (Step.use switch.meaning (attachedValue text)) := hvalue
  unfold Switches.attached
  split
  · exact EscapeFree.singleton huse
  · trivial

theorem escapeFree_after {switches : Switches ι} (h : EscapeFree switches) (meaning : ι) :
    EscapeFree (switches.after (.use meaning none)) := by
  have huse : EscapeFree (Step.use meaning none) := EscapeFree.none
  cases switches with
  | complete steps => exact EscapeFree.cons huse h
  | incomplete steps meaning => exact EscapeFree.cons huse h
  | refused => trivial

/-- By induction on the characters that are joined to the first switch. -/
theorem escapeFree_joined (g : Grammar ι) (switch : Switch ι) (h : EscapeFree s) :
    EscapeFree (Switches.joined g switch s) := by
  induction s generalizing switch with
  | nil => exact escapeFree_bare switch
  | cons c s ih =>
    rw [Switches.joined]
    split
    · exact escapeFree_attached switch h.ofList
    · split
      · exact escapeFree_after (ih _ h.of_cons.2) _
      · trivial

theorem escapeFree_short (g : Grammar ι) (switch : Switch ι) (h : EscapeFree s) :
    EscapeFree (Switches.short g switch s) := by
  unfold Switches.short
  split
  · exact escapeFree_attached switch (by decide)
  · exact escapeFree_joined g switch h.of_cons.2
  · exact escapeFree_joined g switch h

theorem escapeFree_long (switch : Switch ι) {value : Option String} (h : EscapeFree value) :
    EscapeFree (Switches.long switch value) := by
  cases value with
  | none => exact escapeFree_bare switch
  | some text => exact escapeFree_attached switch h.of_some

theorem escapeFree_splitAttached (h : EscapeFree s) : EscapeFree (splitAttached s).2 := by
  unfold splitAttached
  split
  · exact .none
  · next sign value hvalue =>
    have hrest : EscapeFree (sign :: value) := by
      rw [← hvalue]
      exact h.subset (List.dropWhile_subset _)
    exact .some (.ofList hrest.of_cons.2)

theorem escapeFree_ofUnknown (h : EscapeFree s) : EscapeFree (Word.ofUnknown s : Word ι) := by
  have hvalue : EscapeFree (Word.value (String.ofList s) : Word ι) := h.ofList
  have hmisplaced : EscapeFree (Step.misplaced : Step ι) := trivial
  exact .ite hvalue (EscapeFree.singleton hmisplaced)

theorem escapeFree_ofLong (g : Grammar ι) (h : EscapeFree s) : EscapeFree (Word.ofLong g s) := by
  have hlong (switch : Switch ι) := escapeFree_long switch (escapeFree_splitAttached h)
  unfold Word.ofLong
  dsimp only
  split
  · exact hlong _
  · split
    · exact escapeFree_ofUnknown h
    · exact hlong _
    · trivial

theorem escapeFree_ofText (g : Grammar ι) (h : EscapeFree text) : EscapeFree (Word.ofText g text) := by
  have hchars : EscapeFree text.toList := h
  unfold Word.ofText
  split
  · next hlong => exact escapeFree_ofLong g (hlong ▸ hchars)
  · next hshort =>
    rw [hshort] at hchars
    split
    · exact escapeFree_short g _ hchars.of_cons.2.of_cons.2
    · exact escapeFree_ofUnknown hchars
  · exact h

theorem escapeFree_wordsOf (g : Grammar ι) {arguments : List String} (h : EscapeFree arguments) :
    EscapeFree (wordsOf g arguments) := by
  induction arguments with
  | nil => exact EscapeFree.nil
  | cons text rest ih =>
    obtain ⟨htext, hrest⟩ := h.of_cons
    have hvalues : EscapeFree (rest.map (Word.value : String → Word ι)) :=
      .map _ fun text htext => hrest text htext
    have hseparator : EscapeFree (Word.separator : Word ι) := trivial
    rw [wordsOf]
    split
    · exact EscapeFree.cons hseparator hvalues
    · exact .except_bind (escapeFree_ofText g htext) fun word hword =>
        .except_bind (ih hrest) fun words hwords => EscapeFree.cons hword hwords

theorem escapeFree_stepsOf (operand : Bool) {words : List (Word ι)} (h : EscapeFree words) :
    EscapeFree (stepsOf operand words) := by
  have hmisplaced : EscapeFree (Step.misplaced : Step ι) := trivial
  have hrefused : EscapeFree (Step.refused : Step ι) := trivial
  fun_induction stepsOf operand words with
  | case1 => exact .nil
  | case2 text rest ih => exact .cons h.of_cons.1 (ih h.of_cons.2.of_cons.2)
  | case3 text rest ih => exact .cons h.of_cons.2.of_cons.1 (ih h.of_cons.2.of_cons.2)
  | case4 rest hrest ih => exact ih h.of_cons.2
  | case5 text rest hrest ih => exact .cons h.of_cons.1 (ih h.of_cons.2)
  | case6 text rest ih => exact .cons hmisplaced (ih h.of_cons.2)
  | case7 rest ih => exact .cons hmisplaced (ih h.of_cons.2)
  | case8 operand steps rest ih => exact .append h.of_cons.1 (ih h.of_cons.2)
  | case9 operand steps meaning text rest ih =>
    obtain ⟨hsteps, hrest⟩ := h.of_cons
    have huse : EscapeFree (Step.use meaning (some text)) := EscapeFree.some hrest.of_cons.1
    exact .append hsteps (.cons huse (ih hrest.of_cons.2))
  | case10 => exact .singleton hrefused

end Values

/-! ## Settings -/

section Settings

variable {σ : Type} {r : Reading ι σ}

/-- By induction on the steps. -/
theorem escapeFree_apply [Textual σ]
    (huse : ∀ settings meaning value, EscapeFree settings → EscapeFree value →
      EscapeFree (r.use settings meaning value))
    (hoperand : ∀ settings text, EscapeFree settings → EscapeFree text →
      EscapeFree (r.operand settings text))
    (misplaced : Bool) {settings : σ} (hsettings : EscapeFree settings) {steps : List (Step ι)}
    (h : EscapeFree steps) : EscapeFree (r.apply misplaced settings steps) := by
  induction steps generalizing misplaced settings with
  | nil =>
    have hrefused : EscapeFree (Except.error .usage : Except Ending σ) := trivial
    have hready : EscapeFree (Except.ok settings : Except Ending σ) := hsettings
    exact .ite hrefused hready
  | cons step rest ih =>
    obtain ⟨hstep, hrest⟩ := h.of_cons
    cases step with
    | use meaning value =>
      exact .except_bind (huse settings meaning value hsettings hstep) fun settings hsettings =>
        ih misplaced hsettings hrest
    | operand text => exact ih misplaced (hoperand settings text hsettings hstep) hrest
    | misplaced => exact ih true hsettings hrest
    | refused => trivial

theorem escapeFree_parse [Textual σ] (g : Grammar ι)
    (huse : ∀ settings meaning value, EscapeFree settings → EscapeFree value →
      EscapeFree (r.use settings meaning value))
    (hoperand : ∀ settings text, EscapeFree settings → EscapeFree text →
      EscapeFree (r.operand settings text))
    {default : σ} (hdefault : EscapeFree default) {arguments : List String}
    (h : EscapeFree arguments) : EscapeFree (parse g r default arguments) :=
  .except_bind (escapeFree_wordsOf g h) fun _ hwords =>
    escapeFree_apply huse hoperand false hdefault (escapeFree_stepsOf _ hwords)

/-! ## Switches in front -/

variable {change : σ → σ}

/-- By induction on the steps, each of which carries the change along. -/
theorem Reading.apply_map
    (huse : ∀ settings meaning value,
      r.use (change settings) meaning value = (r.use settings meaning value).map change)
    (hoperand : ∀ settings text, r.operand (change settings) text = change (r.operand settings text))
    (misplaced : Bool) (settings : σ) (steps : List (Step ι)) :
    r.apply misplaced (change settings) steps = (r.apply misplaced settings steps).map change := by
  induction steps generalizing misplaced settings with
  | nil => cases misplaced <;> rfl
  | cons step rest ih =>
    cases step with
    | use meaning value =>
      rw [apply, apply, huse]
      cases r.use settings meaning value with
      | ok settings => exact ih misplaced settings
      | error e => rfl
    | operand text =>
      rw [apply, apply, hoperand]
      exact ih misplaced _
    | misplaced => exact ih true settings
    | refused => rfl

/-- A switch in front of the arguments changes what they come to. -/
theorem parse_switch {g : Grammar ι} {text : String} {meaning : ι} (hseparator : text ≠ "--")
    (hword : Word.ofText g text = .ok (.switches (.complete [.use meaning none])))
    (hmeaning : ∀ settings, r.use settings meaning none = .ok (change settings))
    (huse : ∀ settings meaning value,
      r.use (change settings) meaning value = (r.use settings meaning value).map change)
    (hoperand : ∀ settings text, r.operand (change settings) text = change (r.operand settings text))
    (default : σ) (arguments : List String) :
    parse g r default (text :: arguments) = (parse g r default arguments).map change := by
  unfold parse
  rw [wordsOf, if_neg hseparator, hword]
  cases wordsOf g arguments with
  | error e => rfl
  | ok words =>
    change r.apply false default (stepsOf g.takesOperand (.switches (.complete _) :: words)) = _
    rw [stepsOf, List.singleton_append, Reading.apply, hmeaning]
    exact Reading.apply_map huse hoperand false default _

end Settings
end CompileCommands.Cli
