/-
  Two runs of a program, of which one prints with codes.

  * `Session.Decorates`: a session is another one with codes in what was printed;
  * `Action.Decorates`: from such sessions, an action ends as another one does, and in such
    sessions; and the other one brings in no escape characters;
  * `Decorates.bind`, `Decorates.recover` and so on: one rule for each way to build an action;
  * `Decorates.quiet`: an action that leaves the console alone decorates itself; `Decorates.asks`,
    `Decorates.files`, `Decorates.launch` are such actions;
  * `Decorates.print`, `Decorates.error` and so on: output, with codes put in;
  * `Bootstrap.decorates_fetch`: a capture of an environment leaves the console alone.
-/
import CompileCommands.Proofs.Terminal.Decoration
import CompileCommands.Proofs.Toolchain.Escape

namespace CompileCommands

open Text

/-! ## Sessions -/

instance : Textual Console := ⟨fun console =>
  EscapeFree console.output ∧ EscapeFree console.errors⟩

instance : Textual Session := ⟨fun s =>
  EscapeFree s.world ∧ EscapeFree s.detected ∧ EscapeFree s.console⟩

/-- The first session is the second one with codes in what was printed. -/
structure Session.Decorates (s t : Session) : Prop where
  rest : s = { t with console := s.console }
  output : Terminal.Decorates s.console.output t.console.output
  errors : Terminal.Decorates s.console.errors t.console.errors

theorem Session.Decorates.refl (s : Session) : s.Decorates s :=
  ⟨rfl, .refl _, .refl _⟩

/-! ## Actions -/

namespace Action

variable {α β : Type} [Textual α] [Textual β]

/-- The first end is the second one, with codes in what was printed, and the second one has no
    escape characters. -/
structure Decorated (r r' : Outcome α × Session) : Prop where
  outcome : r.1 = r'.1
  session : r.2.Decorates r'.2
  free : EscapeFree r'

/-- From a session with codes in what was printed the first action ends as the second one does from
    the session without them. -/
def Decorates (x y : Action Session α) : Prop :=
  ∀ s t, s.Decorates t → EscapeFree t → Decorated (x s) (y t)

namespace Decorates

/-! ## Actions that do not print -/

/-- An action that does nothing with the console. -/
theorem quiet {x : Action Session α}
    (hx : ∀ t console,
      x { t with console := console } = ((x t).1, { (x t).2 with console := console }))
    (h : x.Clean) : Decorates x x := by
  rintro s t ⟨hrest, houtput, herrors⟩ ht
  have hconsole : (x t).2.console = t.console := congrArg (·.2.console) (hx t t.console)
  rw [hrest, hx t s.console]
  rw [← hconsole] at houtput herrors
  exact ⟨rfl, ⟨rfl, houtput, herrors⟩, h t ht⟩

theorem pure {a : α} (ha : EscapeFree a) : Decorates (Pure.pure a) (Pure.pure a) :=
  quiet (fun _ _ => rfl) (.pure ha)

theorem fail {failure : Failure} (h : EscapeFree failure) :
    Decorates (Action.fail failure : Action Session α) (Action.fail failure) :=
  quiet (fun _ _ => rfl) (.fail h)

theorem report {event : Log.Event} (h : EscapeFree event) :
    Decorates (Action.report event) (Action.report event) :=
  quiet (fun _ _ => rfl) (.report h)

theorem view {f : Session → α} (hf : ∀ t console, f { t with console := console } = f t)
    (h : ∀ s, EscapeFree s → EscapeFree (f s)) : Decorates (Action.view f) (Action.view f) := by
  refine quiet (fun t console => ?_) (.view h)
  rw [Action.view, Action.view, hf]

theorem asks {q : Query World α} (h : q.Clean) :
    Decorates (Session.asks q) (Session.asks q) :=
  quiet (fun _ _ => rfl) (.ask (fun _ hs => hs.1) h)

theorem files {x : Action World α} (h : x.Clean) :
    Decorates (Session.files x) (Session.files x) :=
  quiet (fun _ _ => rfl) (.onPart (fun _ hs => hs.1) (fun _ _ hw hs => ⟨hw, hs.2⟩) h)

/-- The end of a computation that is known. -/
theorem outcome {o : Outcome α} (h : EscapeFree o) :
    Decorates (fun s => (o, s)) fun s => (o, s) :=
  quiet (fun _ _ => rfl) fun _ hs => ⟨h, hs⟩

theorem shell : Decorates Session.shell Session.shell := by
  refine quiet (fun _ _ => rfl) fun s hs => ?_
  have hshell := Tools.escapeFree_shell hs.1 hs.2.1
  exact ⟨.silent (.ok hshell.1), hs.1, hshell.2, hs.2.2⟩

theorem launch {launcher : Launcher} (h : EscapeFree launcher) {request : Launch.Request}
    (hrequest : EscapeFree request.executable) :
    Decorates (Session.launch launcher request) (Session.launch launcher request) :=
  quiet (fun _ _ => rfl) fun s hs => ⟨h s.world.host request hrequest, hs⟩

theorem forgetTools : Decorates Session.forgetTools Session.forgetTools :=
  quiet (fun _ _ => rfl) (.modify fun _ hs => ⟨hs.1, ⟨.none, .nil⟩, hs.2.2⟩)

/-! ## Actions that print -/

variable {text plain : String}

theorem print (h : Terminal.Decorates text plain) (hplain : EscapeFree plain) :
    Decorates (Session.print text) (Session.print plain) := by
  rintro s t ⟨hrest, houtput, herrors⟩ ⟨hw, hdetected, hconsole⟩
  rw [hrest]
  exact ⟨rfl, ⟨rfl, houtput.append h, herrors⟩, .silent trivial, hw, hdetected,
    hconsole.1.string_append hplain, hconsole.2⟩

theorem complain (h : Terminal.Decorates text plain) (hplain : EscapeFree plain) :
    Decorates (Session.complain text) (Session.complain plain) := by
  rintro s t ⟨hrest, houtput, herrors⟩ ⟨hw, hdetected, hconsole⟩
  rw [hrest]
  exact ⟨rfl, ⟨rfl, houtput, herrors.append h⟩, .silent trivial, hw, hdetected,
    hconsole.1, hconsole.2.string_append hplain⟩

theorem error (h : EscapeFree text) (named : Bool) :
    Decorates (Session.complain (Palette.ansi.error text named))
      (Session.complain (Palette.none.error text named)) :=
  complain (Palette.decorates_error text named) (Palette.escapeFree_error h named)

theorem warning (h : EscapeFree text) (named : Bool) :
    Decorates (Session.complain (Palette.ansi.warning text named))
      (Session.complain (Palette.none.warning text named)) :=
  complain (Palette.decorates_warning text named) (Palette.escapeFree_warning h named)

theorem info (h : EscapeFree text) :
    Decorates (Session.complain (Palette.ansi.info text))
      (Session.complain (Palette.none.info text)) :=
  complain (Palette.decorates_info text) (Palette.escapeFree_info h)

theorem success (h : EscapeFree text) :
    Decorates (Session.print (Palette.ansi.success text))
      (Session.print (Palette.none.success text)) :=
  print (Palette.decorates_success text) (Palette.escapeFree_success h)

/-! ## Composition -/

variable {x y : Action Session α} {f g : α → Action Session β}

theorem bind (hx : Decorates x y) (hf : ∀ a, EscapeFree a → Decorates (f a) (g a)) :
    Decorates (x >>= f) (y >>= g) := by
  intro s t hst ht
  have h := hx s t hst ht
  rw [bind_apply, bind_apply]
  rcases hxs : x s with ⟨⟨result, log⟩, s'⟩
  rcases hyt : y t with ⟨⟨result', log'⟩, t'⟩
  rw [hxs, hyt] at h
  obtain ⟨houtcome, hsession, ⟨hresult, hlog⟩, ht'⟩ := h
  cases houtcome
  cases result with
  | ok a =>
    have hrest := hf a hresult s' t' hsession ht'
    exact ⟨congrArg (Outcome.after log) hrest.outcome, hrest.session, hrest.free.1.after hlog,
      hrest.free.2⟩
  | error failure => exact ⟨rfl, hsession, ⟨hresult, hlog⟩, ht'⟩

/-- Goes on with a view that may have escape characters. -/
theorem view_bind {γ : Type} {h : Session → γ} {f g : γ → Action Session β}
    (hh : ∀ t console, h { t with console := console } = h t)
    (hf : ∀ c, Decorates (f c) (g c)) : Decorates (Action.view h >>= f) (Action.view h >>= g) := by
  intro s t hst ht
  have hview : h s = h t := by rw [hst.rest, hh]
  rw [Action.view_bind, Action.view_bind, hview]
  exact hf _ s t hst ht

/-- Goes on with an answer that may have escape characters, unless there is none. -/
theorem lift_bind {γ : Type} {r : Except Failure γ} {f g : γ → Action Session β}
    (hr : ∀ failure, r = .error failure → EscapeFree failure)
    (hf : ∀ c, r = .ok c → Decorates (f c) (g c)) :
    Decorates (Action.lift r >>= f) (Action.lift r >>= g) := by
  cases r with
  | ok c => exact hf c rfl
  | error failure => exact fail (hr failure rfl)

theorem recover {handle handle' : Failure → Action Session α} (hx : Decorates x y)
    (hh : ∀ failure, EscapeFree failure → Decorates (handle failure) (handle' failure)) :
    Decorates (Action.recover x handle) (Action.recover y handle') := by
  intro s t hst ht
  have h := hx s t hst ht
  dsimp only [Action.recover]
  rcases hxs : x s with ⟨⟨result, log⟩, s'⟩
  rcases hyt : y t with ⟨⟨result', log'⟩, t'⟩
  rw [hxs, hyt] at h
  obtain ⟨houtcome, hsession, ⟨hresult, hlog⟩, ht'⟩ := h
  cases houtcome
  cases result with
  | ok a => exact ⟨rfl, hsession, ⟨hresult, hlog⟩, ht'⟩
  | error failure =>
    have hrest := hh failure hresult s' t' hsession ht'
    exact ⟨congrArg (Outcome.after log) hrest.outcome, hrest.session, hrest.free.1.after hlog,
      hrest.free.2⟩

theorem ite {c : Prop} [Decidable c] {x' y' : Action Session α} (hx : Decorates x y)
    (hx' : Decorates x' y') : Decorates (if c then x else x') (if c then y else y') := by
  split
  · exact hx
  · exact hx'

end Decorates
end Action

/-! ## Captures -/

namespace Bootstrap

open CompileCommands.Action (Decorates)

variable {launcher : Launcher} {params : Option String} {b : Bootstrap}

theorem decorates_findShell (h : EscapeFree b.shell) : Decorates b.findShell b.findShell := by
  have hmissing : EscapeFree (Failure.tool .noCommandShell) := .literal rfl
  unfold findShell
  split
  · next command hcommand => exact .pure (h command hcommand)
  · refine .bind .shell fun tool htool => ?_
    cases tool with
    | some tool => exact .pure htool.of_some
    | none => exact .fail hmissing

/-- A capture leaves the console alone. -/
theorem decorates_fetch (hlauncher : EscapeFree launcher) (hinstallation : EscapeFree b.installation)
    (hshell : EscapeFree b.shell) :
    Decorates (b.fetch launcher params) (b.fetch launcher params) := by
  have hscript : EscapeFree b.scriptPath :=
    hinstallation.joinAll (.cons (by decide) (.cons (by decide) (.singleton (by decide))))
  have hcapture : Decorates (b.capture launcher params) (b.capture launcher params) := by
    refine .view_bind (fun _ _ => rfl) fun there => .ite ?_ ?_
    · refine .bind (decorates_findShell hshell) fun shell hfound => ?_
      refine .view_bind (fun _ _ => rfl) fun id => ?_
      refine .bind (.launch hlauncher hfound) fun captured hcaptured => ?_
      exact .outcome (b.escapeFree_environmentOf id hcaptured)
    · exact .bind (.report (.singleton hscript)) fun _ _ => .pure .none
  refine .recover hcapture fun failure hfailure => .ite (.fail hfailure) ?_
  exact .bind (.report (.singleton hfailure)) fun _ _ => .pure .none

end Bootstrap
end CompileCommands
