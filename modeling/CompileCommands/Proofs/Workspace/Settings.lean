/-
  What is made of the files in a workspace.

  * `absorb`: a result after recovery from all but critical failures;
  * `Settings.contents`, `ActiveConfiguration.contents`: what reading the files comes to, before
    anything is absorbed;
  * `Settings.Unusable`, `ActiveConfiguration.Unusable`: the files are of no use; `Settings.Valid`:
    the settings can be read;
  * `Settings.result_load`, `ActiveConfiguration.result_name`: what is made of them.
-/
import CompileCommands.Proofs.Computation
import CompileCommands.Workspace.ActiveConfiguration
import CompileCommands.Workspace.Settings

namespace CompileCommands

theorem requireArgument_of_ne {value : String} (h : value ≠ "") (name : String) :
    requireArgument (some value) name = .ok value := by
  unfold requireArgument
  split
  · contradiction
  · next heq =>
    cases heq
    exact absurd rfl h
  · next heq =>
    cases heq
    rfl

/-- A text that may be missing is missing or empty, or it is neither. -/
theorem missing_cases (value : Option String) :
    (value = none ∨ value = some "") ∨ ∃ text, value = some text ∧ text ≠ "" := by
  rcases value with - | text
  · exact .inl (.inl rfl)
  · by_cases h : text = ""
    · exact .inl (.inr (congrArg some h))
    · exact .inr ⟨text, rfl, h⟩

/-! ## Absorbed failures -/

/-- A result after recovery: without an answer, unless the failure is critical. -/
def absorb {α : Type} : Except Failure (Option α) → Except Failure (Option α)
  | .ok a => .ok a
  | .error failure => if failure.isCritical then .error failure else .ok none

theorem absorb_of_critical {α : Type} {failure : Failure} (h : failure.isCritical) :
    absorb (.error failure : Except Failure (Option α)) = .error failure :=
  if_pos h

theorem absorb_of_not_critical {α : Type} {failure : Failure} (h : ¬failure.isCritical) :
    absorb (.error failure : Except Failure (Option α)) = .ok none :=
  if_neg h

/-- Going on with what is left of an answer or of a failure. -/
theorem absorb_bind {α β : Type} (x : Except Failure α) (f : Option α → Except Failure (Option β))
    (hf : f none = .ok none) :
    (absorb (x >>= fun a => .ok (some a)) >>= f) =
      match x with
      | .ok a => f (some a)
      | .error failure => absorb (.error failure) := by
  cases x with
  | ok a => rfl
  | error failure =>
    change (absorb (.error failure) >>= f) = absorb (.error failure)
    by_cases h : failure.isCritical
    · rw [absorb_of_critical h, absorb_of_critical h]
      rfl
    · rw [absorb_of_not_critical h, absorb_of_not_critical h]
      exact hf

theorem Query.result_recover_absorb {σ α : Type} (q : Query σ (Option α))
    (event : Failure → Log.Event) (s : σ) :
    (recover q (fun failure =>
      if failure.isCritical then fail failure
      else do
        report (event failure)
        return none) s).result = absorb (q s).result := by
  cases h : (q s).result with
  | ok a => exact result_recover_of_ok h
  | error failure =>
    rw [result_recover_of_error h, absorb]
    split
    · rfl
    · rfl

/-! ## Build settings -/

namespace Settings

variable {root : String} {w : World}

theorem name_of_find? {settings : Settings} {name : String} {configuration : Configuration}
    (h : settings.find? name = some configuration) : configuration.name = name := by
  simpa using List.find?_some h

/-- The settings of a workspace, or why they cannot be read. -/
def contents (w : World) (root : String) : Except Failure Settings :=
  Files.text w (path w root) >>= Files.document >>= ofJson

/-- The settings are missing, or reading them fails in a way that is absorbed. -/
def Unusable (w : World) (root : String) : Prop :=
  w.isFile (path w root) → ∃ failure, contents w root = .error failure ∧ ¬failure.isCritical

/-- The settings are there and can be read. -/
def Valid (w : World) (root : String) : Prop :=
  w.isFile (path w root) ∧ ∃ settings, contents w root = .ok settings

/-- Settings with the files that they belong to. -/
def foundAt (w : World) (root : String) (settings : Settings) : Found :=
  ⟨settings, path w root, w.absolute (Path.join root descriptorName)⟩

theorem result_load (hroot : root ≠ "") :
    (load (some root) w).result =
      if w.isFile (path w root) then absorb (contents w root >>= fun s => .ok (foundAt w root s))
      else .ok none := by
  unfold load
  rw [requireArgument_of_ne hroot, Query.lift_ok_bind, Query.view_bind, Query.view_bind]
  split
  · rw [Query.result_recover_absorb, Query.result_bind, contents, bind_assoc]
    congr 2
    funext document
    rw [Query.result_bind]
    rfl
  · rfl

theorem load_of_not_isFile (hroot : root ≠ "") (h : w.isFile (path w root) = false) :
    load (some root) w = .ok none := by
  unfold load
  rw [requireArgument_of_ne hroot, Query.lift_ok_bind, Query.view_bind, Query.view_bind, h]
  rfl

theorem load_of_contents (hroot : root ≠ "") (hthere : w.isFile (path w root)) {settings : Settings}
    (h : contents w root = .ok settings) :
    load (some root) w = .ok (some (foundAt w root settings)) := by
  cases hdocument : Files.text w (path w root) >>= Files.document with
  | error failure =>
    rw [contents, hdocument] at h
    cases h
  | ok document =>
    rw [contents, hdocument] at h
    have hread : Files.readJson (path w root) w = .ok document :=
      congrArg (fun r => (⟨r, []⟩ : Outcome Json)) hdocument
    have hsettings : (Query.lift (ofJson document) : Query World Settings) w = .ok settings :=
      congrArg (fun r => (⟨r, []⟩ : Outcome Settings)) h
    unfold load
    rw [requireArgument_of_ne hroot, Query.lift_ok_bind, Query.view_bind, Query.view_bind,
      if_pos hthere]
    refine Query.recover_of_eq_ok ?_
    rw [Query.bind_of_eq_ok hread, Query.bind_of_eq_ok hsettings]
    rfl

theorem load_of_valid (hroot : root ≠ "") (h : Valid w root) :
    (load (some root) w).result ≠ .ok none := by
  obtain ⟨hthere, settings, hsettings⟩ := h
  rw [load_of_contents hroot hthere hsettings]
  nofun

theorem load_of_unusable (hroot : root ≠ "") (h : Unusable w root) :
    (load (some root) w).result = .ok none := by
  rw [result_load hroot]
  split
  · next hthere =>
    obtain ⟨failure, hfailure, hcritical⟩ := h hthere
    rw [hfailure]
    exact if_neg hcritical
  · rfl

theorem load_of_critical (hroot : root ≠ "") (hthere : w.isFile (path w root)) {failure : Failure}
    (hfailure : contents w root = .error failure) (hcritical : failure.isCritical) :
    (load (some root) w).result = .error failure := by
  rw [result_load hroot, if_pos hthere, hfailure]
  exact if_pos hcritical

theorem load_answers (hroot : root ≠ "") (h : ∀ failure, w.isFile (path w root) →
    contents w root = .error failure → ¬failure.isCritical) : (load (some root)).Answers w := by
  cases hcontents : contents w root with
  | ok settings =>
    rw [Query.Answers, result_load hroot, hcontents]
    split
    · exact ⟨_, rfl⟩
    · exact ⟨_, rfl⟩
  | error failure =>
    refine .of_ok (load_of_unusable hroot fun hthere => ?_)
    exact ⟨failure, hcontents, h failure hthere hcontents⟩

end Settings

/-! ## Active configuration -/

namespace ActiveConfiguration

variable {root default : String} {w : World}

/-- Where the system finds the file that keeps the choice of a workspace. -/
def place (w : World) (root : String) : String :=
  w.wayTo (path root)

/-- The document that keeps the choice of a workspace, or why it cannot be read. -/
def contents (w : World) (root : String) : Except Failure Json :=
  Files.text w (place w root) >>= Files.document

/-- The choice in a document: a text that is not empty, in an object. -/
def choice? (document : Json) : Option String :=
  (document.text? member).filter (· ≠ "")

/-- The document is missing, reading it fails in a way that is absorbed, or it holds no choice. -/
def Unusable (w : World) (root : String) : Prop :=
  w.isFile (place w root) → (∃ failure, contents w root = .error failure ∧ ¬failure.isCritical) ∨
    ∃ document, contents w root = .ok document ∧ choice? document = none

theorem result_ofJson (file : String) (document : Json) :
    (ofJson file document w).result = .ok (document.text? member) := by
  cases document with
  | obj members => rfl
  | _ => rfl

theorem result_chosen (file : String) : (chosen file (place w root) w).result =
    match contents w root with
    | .ok document => .ok (document.text? member)
    | .error failure => absorb (.error failure) := by
  have hread : ((some <$> Files.readJson (place w root) : Query World (Option Json)) w).result =
      contents w root >>= fun document => .ok (some document) := by
    rw [← bind_pure_comp, Query.result_bind]
    rfl
  unfold chosen
  rw [Query.result_bind, Query.result_recover_absorb, hread]
  refine (absorb_bind _ _ ?_).trans ?_
  · rfl
  · cases contents w root with
    | ok document => exact result_ofJson _ document
    | error failure => rfl

theorem match_choice (choice : Option String) :
    (match choice with
      | some "" | none => return default
      | some choice => return choice : Query World String) =
      return (choice.filter (· ≠ "")).getD default := by
  split
  · rfl
  · rfl
  · next choice hchoice =>
    have hne : choice ≠ "" := fun h => hchoice (h ▸ rfl)
    rw [Option.filter_some, if_pos (decide_eq_true hne)]
    rfl

theorem result_name (hroot : root ≠ "") : (name (some root) default w).result =
    if w.isFile (place w root) then
      match contents w root with
      | .ok document => .ok ((choice? document).getD default)
      | .error failure => if failure.isCritical then .error failure else .ok default
    else .ok default := by
  unfold name
  rw [requireArgument_of_ne hroot, Query.lift_ok_bind, Query.view_bind, Query.view_bind, ← place]
  split
  · rw [Query.result_bind, result_chosen]
    cases contents w root with
    | ok document => exact congrArg (fun q => (q w).result) (match_choice _)
    | error failure =>
      by_cases h : failure.isCritical
      · dsimp only
        rw [absorb_of_critical h, if_pos h]
        rfl
      · dsimp only
        rw [absorb_of_not_critical h, if_neg h]
        rfl
  · rfl

theorem name_of_unusable (hroot : root ≠ "") (h : Unusable w root) :
    (name (some root) default w).result = .ok default := by
  rw [result_name hroot]
  split
  · next hthere =>
    obtain ⟨failure, hfailure, hcritical⟩ | ⟨document, hdocument, hchoice⟩ := h hthere
    · rw [hfailure]
      exact if_neg hcritical
    · rw [hdocument]
      dsimp only
      rw [hchoice, Option.getD_none]
  · rfl

theorem name_of_critical (hroot : root ≠ "") (hthere : w.isFile (place w root)) {failure : Failure}
    (hfailure : contents w root = .error failure) (hcritical : failure.isCritical) :
    (name (some root) default w).result = .error failure := by
  rw [result_name hroot, if_pos hthere, hfailure]
  exact if_pos hcritical

theorem name_answers (hroot : root ≠ "") (h : ∀ failure, w.isFile (place w root) →
    contents w root = .error failure → ¬failure.isCritical) :
    (name (some root) default).Answers w := by
  cases hcontents : contents w root with
  | ok document =>
    rw [Query.Answers, result_name hroot, hcontents]
    split
    · exact ⟨_, rfl⟩
    · exact ⟨_, rfl⟩
  | error failure =>
    refine .of_ok (name_of_unusable hroot fun hthere => .inl ?_)
    exact ⟨failure, hcontents, h failure hthere hcontents⟩

end ActiveConfiguration

end CompileCommands
