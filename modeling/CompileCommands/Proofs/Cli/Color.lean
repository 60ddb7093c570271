/-
  Colour in what the commands print.

  * `Locate.parse_noColor`, `Capture.parse_noColor`: what refusing colour does to the settings;
  * `Cli.decorates_guarded`, `Cli.decorated_command`: a command prints the same in colour as
    without, with codes put in, if its run does, be it that the run fails or that the arguments end
    it;
  * `Cli.OnlyDecorates`: what colour does to the end of a command, which is nothing but to put codes
    into what is printed;
  * `Cli.main_onlyDecorates`: so it is for both commands.
-/
import CompileCommands.Proofs.Cli.Decoration
import CompileCommands.Proofs.Cli.Exit
import CompileCommands.Proofs.Cli.Locate

namespace CompileCommands.Cli

open Text

open CompileCommands.Action (Decorates Decorated)

/-! ## Settings -/

namespace Locate

/-- The same settings without colour. -/
def Settings.plain (settings : Settings) : Settings := { settings with noColor := true }

theorem parse_noColor (arguments : List String) :
    parse ("--no-color" :: arguments) = (parse arguments).map Settings.plain := by
  refine parse_switch (by decide) (by rfl) (fun _ => rfl) ?_ (fun _ _ => rfl) _ arguments
  intro settings meaning value
  cases meaning with
  | format =>
    dsimp only [use]
    cases Format.ofName value <;> rfl
  | _ => rfl

theorem escapeFree_parse {arguments : List String} (h : EscapeFree arguments) :
    EscapeFree (parse arguments) := by
  have hdefault : EscapeFree ({} : Settings) := ⟨.none, .none⟩
  refine Cli.escapeFree_parse grammar ?_ ?_ hdefault h
  · rintro settings meaning value hsettings hvalue
    cases meaning with
    | help => trivial
    | version => trivial
    | file => exact ⟨hsettings.1, hvalue⟩
    | format =>
      dsimp only [use]
      cases Format.ofName value with
      | ok format => exact hsettings
      | error ending => trivial
    | noColor => exact hsettings
    | verbose => exact hsettings
  · exact fun settings text hsettings htext => ⟨.some htext, hsettings.2⟩

end Locate

namespace Capture

/-- The same settings without colour. -/
def Settings.plain (settings : Settings) : Settings := { settings with noColor := true }

theorem parse_noColor (environment : Environment) (arguments : List String) :
    parse environment ("--no-color" :: arguments) =
      (parse environment arguments).map Settings.plain := by
  refine parse_switch (by decide) (by rfl) (fun _ => rfl) ?_ (fun _ _ => rfl) _ arguments
  intro settings meaning value
  cases meaning with
  | format =>
    dsimp only [use]
    cases Format.ofName value <;> rfl
  | timeout =>
    dsimp only [use]
    cases secondsOf value <;> rfl
  | _ => rfl

theorem escapeFree_parse {environment : Environment} (henvironment : EscapeFree environment)
    {arguments : List String} (h : EscapeFree arguments) :
    EscapeFree (parse environment arguments) := by
  have hdefault :
      EscapeFree ({ installation := environment.get? installationVariable } : Settings) :=
    ⟨henvironment.get? _, .none, .none, .nil⟩
  refine Cli.escapeFree_parse grammar ?_ ?_ hdefault h
  · rintro settings meaning value hsettings hvalue
    obtain ⟨hinstallation, hparams, hcache, honly⟩ := id hsettings
    cases meaning with
    | help => trivial
    | version => trivial
    | installation => exact ⟨hvalue, hparams, hcache, honly⟩
    | params => exact ⟨hinstallation, hvalue, hcache, honly⟩
    | timeout =>
      dsimp only [use]
      cases secondsOf value with
      | ok seconds => exact hsettings
      | error ending => trivial
    | cache => exact ⟨hinstallation, hparams, hvalue, honly⟩
    | only => exact ⟨hinstallation, hparams, hcache, .append honly (.singleton hvalue)⟩
    | format =>
      dsimp only [use]
      cases Format.ofName value with
      | ok format => exact hsettings
      | error ending => trivial
    | noColor => exact hsettings
    | verbose => exact hsettings
  · exact fun settings _ hsettings _ => hsettings

end Capture

/-! ## From runs to commands -/

instance : Textual Exit := ⟨fun _ => True⟩

theorem decorates_explanation (failure : Failure) :
    Terminal.Decorates (explanation .ansi failure) (explanation .none failure) := by
  unfold explanation
  split
  · exact .refl ""
  · exact Palette.decorates_warning _ false
  · exact Palette.decorates_warning _ false
  · exact Palette.decorates_error _ true
  · exact Palette.decorates_error _ true

theorem escapeFree_explanation {failure : Failure} (h : EscapeFree failure) :
    EscapeFree (explanation .none failure) := by
  unfold explanation
  split
  · exact .literal rfl
  · exact Palette.escapeFree_warning (.literal rfl) false
  · exact Palette.escapeFree_warning (.literal rfl) false
  · exact Palette.escapeFree_error h true
  · exact Palette.escapeFree_error (.string_append (.literal rfl) h) true

theorem decorates_guarded {run run' : Action Session ExitCode} (h : Decorates run run') :
    Decorates (guarded .ansi run) (guarded .none run') := by
  refine .recover (.bind h fun _ _ => .pure trivial) fun failure hfailure => ?_
  refine .ite (.fail hfailure) ?_
  exact .bind (.complain (decorates_explanation failure) (escapeFree_explanation hfailure))
    fun _ _ => .pure trivial

theorem decorates_ending {program : String} (h : EscapeFree program) (e : Ending) :
    Decorates (ending program e) (ending program e) := by
  have hversion : EscapeFree (program ++ " " ++ version ++ "\n") :=
    ((h.string_append (by decide)).string_append (.literal rfl)).string_append (by decide)
  cases e with
  | help => exact .pure trivial
  | usage => exact .pure trivial
  | version => exact .bind (.print (.refl _) hversion) fun _ _ => .pure trivial

theorem decorates_command {σ : Type} {program : String} (hprogram : EscapeFree program)
    {settings : Except Ending σ} {run run' : σ → Action Session Nat}
    (h : ∀ accepted, settings = .ok accepted → Decorates (run accepted) (run' accepted)) :
    Decorates (command program settings run) (command program settings run') := by
  have hbegun : Decorates (begun program settings run) (begun program settings run') := by
    cases settings with
    | error e => exact decorates_ending hprogram e
    | ok accepted => exact .bind (h accepted rfl) fun _ _ => .pure trivial
  exact .bind .forgetTools fun _ _ => .bind hbegun fun _ _ =>
    .bind .forgetTools fun _ _ => .pure trivial

theorem command_map {σ : Type} (program : String) (settings : Except Ending σ) (change : σ → σ)
    (run : σ → Action Session Nat) :
    command program (settings.map change) run =
      command program settings fun accepted => run (change accepted) := by
  cases settings <;> rfl

section Palettes

variable {σ : Type} (program : String) (settings : Except Ending σ) (noColor : σ → Bool)
  (run : Palette → σ → Action Session ExitCode) (s : Session)

/-- A command in the palette that its settings and its surroundings make. -/
abbrev inPalette (accepted : σ) : Action Session Nat := do
  let p ← Action.view fun s => paletteFor (noColor accepted) s.world
  guarded p (run p accepted)

/-- Output is in colour with these settings. -/
def IsColored (w : World) : Prop :=
  ∃ accepted, settings = .ok accepted ∧
    usesColor false (noColor accepted) w.terminal (w.environment.get? "NO_COLOR")

/-- The palette does not change before the run begins. -/
theorem command_inPalette (color : Bool)
    (h : ∀ accepted, settings = .ok accepted →
      usesColor false (noColor accepted) s.world.terminal (s.world.environment.get? "NO_COLOR") =
        color) :
    command program settings (inPalette noColor run) s =
      command program settings (fun accepted =>
        guarded (Palette.of color) (run (Palette.of color) accepted)) (started s) := by
  cases settings with
  | error e => exact command_of_ending program e _ _ s
  | ok accepted =>
    have hrun : inPalette noColor run accepted (started s) =
        guarded (Palette.of color) (run (Palette.of color) accepted) (started s) := by
      rw [← h accepted rfl]
      exact Action.view_bind _ _ _
    exact command_congr hrun program

/-- Without colour a command is as if it refused colour, and else it prints in the palette of ANSI
    terminals. -/
theorem decorated_command {program : String} (hprogram : EscapeFree program) {s : Session}
    (hs : EscapeFree (started s))
    (hrun : ∀ accepted, settings = .ok accepted →
      Decorates (run .ansi accepted) (run .none accepted)) :
    Decorated (command program settings (inPalette noColor run) s)
        (command program settings (inPalette (fun _ => true) run) s) ∧
      (¬IsColored settings noColor s.world →
        command program settings (inPalette noColor run) s =
          command program settings (inPalette (fun _ => true) run) s) := by
  have hansi : Decorates
      (command program settings fun accepted => guarded .ansi (run .ansi accepted))
      (command program settings fun accepted => guarded .none (run .none accepted)) :=
    decorates_command hprogram fun accepted haccepted => decorates_guarded (hrun accepted haccepted)
  have hend := hansi (started s) (started s) (.refl _) hs
  have hrefused := command_inPalette program settings (fun _ => true) run s false fun _ _ => rfl
  rw [hrefused]
  by_cases hcolor : IsColored settings noColor s.world
  · refine ⟨?_, fun hnone => absurd hcolor hnone⟩
    obtain ⟨accepted, rfl, huses⟩ := hcolor
    rw [command_inPalette program _ noColor run s true fun _ heq => by cases heq; exact huses]
    exact hend
  · have hsame := command_inPalette program settings noColor run s false fun accepted haccepted =>
      Bool.eq_false_iff.2 fun huses => hcolor ⟨accepted, haccepted, huses⟩
    rw [hsame]
    exact ⟨⟨rfl, .refl _, hend.free⟩, fun _ => rfl⟩

end Palettes

/-! ## The commands -/

/-- One end of a command is another one but for codes in what was printed, which are there only if
    output is in colour; and the other one has no escape characters in what was printed, or in the
    wording of its reports. -/
structure OnlyDecorates (isColored : Prop) (colored plain : Outcome Exit × Session) : Prop where
  /-- Both come to the same exit code, with the same reports. -/
  outcome : colored.1 = plain.1
  /-- Both leave the same, but for what was printed. -/
  session : colored.2 = { plain.2 with console := colored.2.console }
  output : Terminal.withoutCodes colored.2.console.output = plain.2.console.output
  errors : Terminal.withoutCodes colored.2.console.errors = plain.2.console.errors
  /-- Without colour there is no difference at all. -/
  uncolored : ¬isColored → colored = plain
  plainOutput : escape ∉ plain.2.console.output.toList
  plainErrors : escape ∉ plain.2.console.errors.toList
  plainReports : ∀ event ∈ plain.1.log, escape ∉ (event.text Failure.message).toList

theorem onlyDecorates_of_decorated {isColored : Prop} {colored plain : Outcome Exit × Session}
    (h : Decorated colored plain) (huncolored : ¬isColored → colored = plain) :
    OnlyDecorates isColored colored plain := by
  obtain ⟨houtcome, ⟨hrest, houtput, herrors⟩, ⟨-, hlog⟩, -, -, hconsole⟩ := h
  have hnone {text : String} (htext : EscapeFree text) : escape ∉ text.toList :=
    fun hescape => htext escape hescape rfl
  exact ⟨houtcome, hrest, houtput.withoutCodes_eq hconsole.1, herrors.withoutCodes_eq hconsole.2,
    huncolored, hnone hconsole.1, hnone hconsole.2,
    fun event hevent => hnone (escapeFree_text (hlog event hevent))⟩

theorem Locate.main_noColor (program : String) (arguments : List String) :
    main program ("--no-color" :: arguments) =
      command program (parse arguments) (inPalette (fun _ => true) run) := by
  unfold main
  rw [parse_noColor, command_map]
  rfl

theorem Capture.main_noColor (program : String) (launcher : Launcher) (arguments : List String)
    (s : Session) : main program launcher ("--no-color" :: arguments) s =
      command program (parse s.world.environment arguments)
        (inPalette (fun _ => true) (run · launcher)) s := by
  unfold main
  rw [parse_noColor, command_map]
  rfl

/-- **Colour only decorates.** Let there be no escape characters in the surroundings, in the
    arguments, and in what the process prints. Then each command comes to the same exit code with
    the same reports, and does the same to the surroundings, whether its arguments refuse colour or
    not. What it prints on either stream is, without the codes for colours and styles, what it
    prints if colour is refused; this is so in every format, and for every failure as well. And if
    colour is refused, or if output is not in colour for other reasons, it prints no escape
    character at all, nor is there one in the wording of its reports. -/
theorem main_onlyDecorates {program : String} {arguments : List String}
    {process : ProcessBehaviour} {s : Session} (hprogram : EscapeFree program)
    (harguments : EscapeFree arguments) (hprocess : EscapeFree process)
    (hworld : EscapeFree s.world) (hconsole : EscapeFree s.console) :
    OnlyDecorates (IsColored (Locate.parse arguments) Locate.Settings.noColor s.world)
        (Locate.main program arguments s) (Locate.main program ("--no-color" :: arguments) s) ∧
      OnlyDecorates
        (IsColored (Capture.parse s.world.environment arguments) Capture.Settings.noColor s.world)
        (Capture.main program (.ofProcess .utf16 process) arguments s)
        (Capture.main program (.ofProcess .utf16 process) ("--no-color" :: arguments) s) := by
  have hs : EscapeFree (started s) := ⟨hworld, ⟨.none, .nil⟩, hconsole⟩
  have hlauncher := Launcher.escapeFree_ofProcess hprocess
  constructor
  · have hsettings := Locate.escapeFree_parse harguments
    obtain ⟨hdecorated, huncolored⟩ := decorated_command (Locate.parse arguments)
      Locate.Settings.noColor Locate.run hprogram hs fun accepted haccepted =>
        Locate.decorates_run (by rwa [haccepted] at hsettings)
    rw [Locate.main_noColor]
    exact onlyDecorates_of_decorated hdecorated huncolored
  · have hsettings := Capture.escapeFree_parse hworld.environment harguments
    obtain ⟨hdecorated, huncolored⟩ := decorated_command
      (Capture.parse s.world.environment arguments) Capture.Settings.noColor (Capture.run · _)
      hprogram hs fun accepted haccepted =>
        Capture.decorates_run hlauncher (by rwa [haccepted] at hsettings)
    rw [Capture.main_noColor]
    exact onlyDecorates_of_decorated hdecorated huncolored

/-- A terminal in an empty directory. -/
def bareTerminal : Session where
  world := { packages := Locate.repository.packages, terminal := true }

/-- Both streams are in colour there, and the columns are the same without. -/
theorem main_onlyDecorates_bareTerminal :
    EscapeFree "compdbLocate.py" ∧ EscapeFree ["-fa.cpp"] ∧ EscapeFree ({} : ProcessBehaviour) ∧
    EscapeFree bareTerminal.world ∧ EscapeFree bareTerminal.console ∧
    (Locate.main "compdbLocate.py" ["-fa.cpp"] bareTerminal).2.console.errors =
      "\x1b[33mWarning: No entry found for /a.cpp\x1b[0m\n" ++
        "\x1b[31mError: Unable to determine the workspace root (pass ROOT explicitly)\x1b[0m\n" ∧
    Terminal.withoutCodes
        (Locate.main "compdbLocate.py" ["-fa.cpp"] bareTerminal).2.console.output =
      "=== Compilation Database ===\nWorkspace root: -\nConfiguration:  -\nDatabase:       -\n" ++
        "\n=== Entry for code file ===\n" := by
  have hprogram : EscapeFree "compdbLocate.py" := .literal rfl
  have harguments : EscapeFree ["-fa.cpp"] := .singleton (.literal rfl)
  have hprocess : EscapeFree ({} : ProcessBehaviour) := ⟨.none, .nil⟩
  have hworld : EscapeFree bareTerminal.world :=
    ⟨.nil, .nil, .nil, .literal rfl, .nil, .nil,
      .cons ⟨.literal rfl, .literal rfl⟩ (.cons ⟨.literal rfl, .literal rfl⟩
        (.singleton ⟨.literal rfl, .literal rfl⟩)), .nil⟩
  have hconsole : EscapeFree bareTerminal.console := ⟨.literal rfl, .literal rfl⟩
  obtain ⟨hlocate, -⟩ :=
    main_onlyDecorates hprogram harguments hprocess hworld hconsole
  refine ⟨hprogram, harguments, hprocess, hworld, hconsole, by decide +kernel, ?_⟩
  rw [hlocate.output]
  decide +kernel

end CompileCommands.Cli
