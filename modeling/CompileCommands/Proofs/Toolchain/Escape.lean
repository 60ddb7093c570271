/-
  Processes without escape characters.

  * `Capture.escapeFree_settings`: the settings that a shell prints have none, if its lines have
    none;
  * `Bootstrap.escapeFree_environmentOf`: nor has what is made of an answer;
  * `Launcher.escapeFree_ofProcess`: nor has the answer of a process, if what it prints, and why it
    does not start, have none.
-/
import CompileCommands.Proofs.Computation.Escape
import CompileCommands.Proofs.Toolchain.Capture
import CompileCommands.Proofs.World.Escape
import CompileCommands.Toolchain.Bootstrap

namespace CompileCommands

open Text

/-! ## Tools -/

instance : Textual Tool := ⟨fun tool => EscapeFree tool.command⟩

instance : Textual Detected := ⟨fun known => EscapeFree known.shell ∧ EscapeFree known.scripts⟩

namespace Tools

variable {w : World} {known : Detected}

theorem escapeFree_ofCommand? {command : Option String} (h : EscapeFree command)
    (origin : Tool.Origin) : EscapeFree (ofCommand? origin command) :=
  (h.filter _).option_map fun _ => id

theorem escapeFree_shell (hw : EscapeFree w) (hknown : EscapeFree known) :
    EscapeFree (shell w known) := by
  have hsearched : EscapeFree (searchShell w) :=
    .or (escapeFree_ofCommand? (hw.environment.get? _) _)
      (escapeFree_ofCommand? (hw.programs.get? _) _)
  unfold shell
  split
  · next found hfound => exact ⟨hknown.1 found hfound, hknown⟩
  · exact ⟨hsearched, .some hsearched, hknown.2⟩

end Tools

/-! ## Answers -/

instance : Textual Captured := ⟨fun captured => EscapeFree captured.lines⟩

theorem Capture.escapeFree_settings {lines : List String} (h : EscapeFree lines) (id : String) :
    EscapeFree (settings lines id) := by
  intro entry hentry
  obtain ⟨line, hline, hmem⟩ := exists_line_of_mem_settings hentry
  exact ⟨fun c hc => h line hline c (hmem c (List.mem_append_left _ hc)),
    fun c hc => h line hline c (hmem c (List.mem_append_right _ hc))⟩

theorem Bootstrap.escapeFree_environmentOf (b : Bootstrap) (id : String) {captured : Captured}
    (h : EscapeFree captured) : EscapeFree (b.environmentOf id captured) := by
  have hsettings := Capture.escapeFree_settings h id
  unfold environmentOf
  split
  · exact ⟨.ok .none, .singleton .nil⟩
  · split
    · exact ⟨.ok .none, .singleton .nil⟩
    · exact .silent (.ok (EscapeFree.some hsettings))

/-! ## Processes -/

/-- Asked for a program without escape characters, the answer or the failure has none, and nor has
    what is logged. -/
instance : Textual Launcher := ⟨fun launcher =>
  ∀ host request, EscapeFree request.executable → EscapeFree (launcher host request).1⟩

/-- Why the process does not start, and what it prints in the encoding of command shells. -/
instance : Textual ProcessBehaviour := ⟨fun process =>
  EscapeFree process.startFailure ∧ EscapeFree (Utf16.decode (process.output.getD []))⟩

theorem escapeFree_splitLines {s : List Char} (h : EscapeFree s) : EscapeFree (splitLines s) := by
  fun_induction splitLines s with
  | case1 => exact .nil
  | case2 rest ih => exact .cons .nil (ih h.of_cons.2.of_cons.2)
  | case3 c rest hstart hbreak ih => exact .cons .nil (ih h.of_cons.2)
  | case4 c rest hstart hbreak hnone ih => exact .singleton (.singleton h.of_cons.1)
  | case5 c rest hstart hbreak line lines hsome ih =>
    obtain ⟨hc, hrest⟩ := h.of_cons
    obtain ⟨hline, hlines⟩ := (hsome ▸ ih hrest).of_cons
    exact .cons (.cons hc hline) hlines

namespace Launch

theorem escapeFree_commandLine (request : Request) (host : Host) {failure : Failure}
    (h : request.commandLine host = .error failure) : EscapeFree failure := by
  have hmessage (error : QuotingError) : EscapeFree (Failure.quoting error).message := by
    cases error <;> exact .literal rfl
  cases host with
  | windows => cases h
  | posix =>
    dsimp only [Request.commandLine] at h
    revert h
    cases splitWords request.line with
    | ok words => exact nofun
    | error error =>
      rintro ⟨⟩
      exact hmessage error

theorem escapeFree_captureOf {process : ProcessBehaviour} (h : EscapeFree process) :
    EscapeFree (captureOf .utf16 process) := by
  unfold captureOf
  split
  · refine ⟨.nil, ?_⟩
    split
    · exact .singleton .nil
    · exact .nil
  · refine .silent (.map _ fun line hline => ?_)
    have hbare := h.2.subset (List.dropWhile_subset (· = '\uFEFF'))
    exact .ofList (escapeFree_splitLines hbare line hline)

theorem escapeFree_startError {program : String} (hprogram : EscapeFree program)
    {failure : Failure} (h : EscapeFree failure) : EscapeFree (startError program failure) := by
  cases failure with
  | file error =>
    have hfront : EscapeFree ("Failed to start " ++ program ++ ": ") :=
      .string_append (.string_append (.literal rfl) hprogram) (by decide)
    exact hfront.string_append h
  | _ => exact h

end Launch

theorem Launcher.escapeFree_ofProcess {process : ProcessBehaviour} (h : EscapeFree process) :
    EscapeFree (ofProcess .utf16 process) := by
  intro host request hprogram
  unfold ofProcess
  split
  · next failure hfailure => exact .silent (.error (Launch.escapeFree_commandLine _ _ hfailure))
  · split
    · next failure hfailure =>
      exact .silent (.error (Launch.escapeFree_startError hprogram (h.1 failure hfailure)))
    · exact Launch.escapeFree_captureOf h

end CompileCommands
