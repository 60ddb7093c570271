/-
  What file access does to a world.

  * `fileAt?_withFile`, `fileAt?_withoutFile`: a change of one file leaves the others as they are;
  * `World.Alike`: two worlds that differ at most in their files, their directories and the time.
    Paths lead to the same places in both;
  * `Files.write_spec`, `Files.replace_spec` and so on: what holds after each kind of access,
    whatever fails.
-/
import CompileCommands.Proofs.Computation
import CompileCommands.World.Description
import CompileCommands.World.Files

namespace CompileCommands

namespace World

/-! ## Single files -/

theorem lookup_filter_ne {files : List (Location × File)} {p q : Location} (h : q ≠ p) :
    (files.filter (·.1 ≠ p)).lookup q = files.lookup q := by
  induction files with
  | nil => rfl
  | cons entry files ih =>
    obtain ⟨place, file⟩ := entry
    by_cases hp : place = p
    · have hq : (q == place) = false := by
        rw [hp]
        exact beq_eq_false_iff_ne.2 h
      rw [List.filter_cons_of_neg (by simp [hp]), List.lookup_cons, hq, ih]
    · rw [List.filter_cons_of_pos (by simp [hp]), List.lookup_cons, List.lookup_cons, ih]

theorem lookup_filter_self (files : List (Location × File)) (p : Location) :
    (files.filter (·.1 ≠ p)).lookup p = none := by
  rw [List.lookup_eq_none_iff]
  intro entry hentry
  have hne := (List.mem_filter.1 hentry).2
  rw [bne_iff_ne]
  exact fun h => (of_decide_eq_true hne) h.symm

theorem fileAt?_withoutFile (w : World) (p q : Location) :
    (w.withoutFile p).fileAt? q = if q = p then none else w.fileAt? q := by
  dsimp only [fileAt?, withoutFile]
  by_cases h : q = p
  · rw [if_pos h, h, lookup_filter_self]
  · rw [if_neg h, lookup_filter_ne h]

theorem fileAt?_withFile (w : World) (p q : Location) (file : File) :
    (w.withFile p file).fileAt? q = if q = p then some file else w.fileAt? q := by
  dsimp only [fileAt?, withFile]
  by_cases h : q = p
  · rw [if_pos h, h, List.lookup_cons_self]
  · have hq : (q == p) = false := beq_eq_false_iff_ne.2 h
    rw [if_neg h, List.lookup_cons, hq]
    exact lookup_filter_ne h

@[simp] theorem clock_withFile (w : World) (p : Location) (file : File) :
    (w.withFile p file).clock = w.clock := rfl

@[simp] theorem clock_withoutFile (w : World) (p : Location) :
    (w.withoutFile p).clock = w.clock := rfl

@[simp] theorem directories_withFile (w : World) (p : Location) (file : File) :
    (w.withFile p file).directories = w.directories := rfl

@[simp] theorem directories_withoutFile (w : World) (p : Location) :
    (w.withoutFile p).directories = w.directories := rfl

theorem fileAt?_placing (w : World) (path : String) (q : Location) (file : File) :
    (w.placing path file).fileAt? q = if q = w.locate path then some file else w.fileAt? q :=
  fileAt?_withFile _ _ _ _

/-! ## Alike worlds -/

/-- Only the links count for where they lead. -/
theorem follow_congr {v w : World} (h : w.links = v.links) (fuel : Nat) (place : Location) :
    w.follow fuel place = v.follow fuel place := by
  induction fuel generalizing place with
  | zero => rfl
  | succ fuel ih =>
    have honce : w.followOnce? place = v.followOnce? place := by
      rw [followOnce?, followOnce?, h]
    rw [follow, follow, honce]
    cases v.followOnce? place with
    | none => rfl
    | some next => exact ih next

/-- Two worlds that differ at most in their files, their directories and the time. -/
def Alike (v w : World) : Prop :=
  w = { v with files := w.files, directories := w.directories, clock := w.clock }

namespace Alike

variable {u v w : World}

theorem refl (w : World) : Alike w w := rfl

theorem trans (h : Alike u v) (h' : Alike v w) : Alike u w := by
  rw [Alike] at h h' ⊢
  rw [h', h]

theorem symm (h : Alike v w) : Alike w v := by
  rw [Alike] at h ⊢
  rw [h]

theorem withFile (h : Alike v w) (p : Location) (file : File) : Alike v (w.withFile p file) :=
  h.trans rfl

theorem withoutFile (h : Alike v w) (p : Location) : Alike v (w.withoutFile p) :=
  h.trans rfl

theorem withDirectory (h : Alike v w) (p : Location) : Alike v (w.withDirectory p) :=
  h.trans rfl

theorem tick (h : Alike v w) (time : Rat) : Alike v { w with clock := time } :=
  h.trans rfl

theorem links (h : Alike v w) : w.links = v.links := by rw [h]

theorem faults (h : Alike v w) : w.faults = v.faults := by rw [h]

theorem workingDirectory (h : Alike v w) : w.workingDirectory = v.workingDirectory := by rw [h]

theorem rounding (h : Alike v w) : w.rounding = v.rounding := by rw [h]

theorem environment (h : Alike v w) : w.environment = v.environment := by rw [h]

theorem programs (h : Alike v w) : w.programs = v.programs := by rw [h]

theorem host (h : Alike v w) : w.host = v.host := by rw [h]

theorem freshId (h : Alike v w) : w.freshId = v.freshId := by rw [h]

theorem follow (h : Alike v w) (fuel : Nat) (place : Location) :
    w.follow fuel place = v.follow fuel place :=
  follow_congr h.links fuel place

theorem wayTo (h : Alike v w) (path : String) : w.wayTo path = v.wayTo path := by
  rw [World.wayTo, World.wayTo, h]

theorem locate (h : Alike v w) (path : String) : w.locate path = v.locate path := by
  rw [World.locate, World.locate, h.follow, lexical, lexical, h.workingDirectory]

theorem fault? (h : Alike v w) (call : Call) (path : String) :
    w.fault? call path = v.fault? call path := by
  rw [World.fault?, World.fault?, h.faults, h.locate]

end Alike

/-- Worlds that are alike and have the same files, but for one place. -/
structure SameBut (v : World) (place : Location) (w : World) : Prop where
  alike : v.Alike w
  clock : w.clock = v.clock
  files : ∀ q, q ≠ place → w.fileAt? q = v.fileAt? q

namespace SameBut

variable {v w : World} {place : Location}

theorem refl (v : World) (place : Location) : v.SameBut place v :=
  ⟨.refl v, rfl, fun _ _ => rfl⟩

theorem withFile (h : v.SameBut place w) (file : File) :
    v.SameBut place (w.withFile place file) := by
  refine ⟨h.alike.withFile place file, h.clock, fun q hq => ?_⟩
  rw [fileAt?_withFile, if_neg hq]
  exact h.files q hq

theorem withoutFile (h : v.SameBut place w) : v.SameBut place (w.withoutFile place) := by
  refine ⟨h.alike.withoutFile place, h.clock, fun q hq => ?_⟩
  rw [fileAt?_withoutFile, if_neg hq]
  exact h.files q hq

theorem trans (h : v.SameBut place w) {u : World} (h' : w.SameBut place u) : v.SameBut place u :=
  ⟨h.alike.trans h'.alike, h'.clock.trans h.clock, fun q hq => (h'.files q hq).trans (h.files q hq)⟩

/-- The same file put in both worlds. -/
theorem withFile_both (h : v.SameBut place w) (p : Location) (file : File) :
    (v.withFile p file).SameBut place (w.withFile p file) := by
  refine ⟨?_, h.clock, fun q hq => ?_⟩
  · exact ((Alike.refl v).withFile p file).symm.trans (h.alike.withFile p file)
  · rw [fileAt?_withFile, fileAt?_withFile, h.files q hq]

theorem withDirectory (h : v.SameBut place w) (p : Location) :
    v.SameBut place (w.withDirectory p) :=
  ⟨h.alike.withDirectory p, h.clock, h.files⟩

theorem placing (w : World) (path : String) (file : File) :
    w.SameBut (w.locate path) (w.placing path file) :=
  ((refl w _).withDirectory _).withFile file

end SameBut

/-- Worlds that differ at most in the file at one place. -/
structure OnlyAt (v : World) (place : Location) (w : World) : Prop extends SameBut v place w where
  directories : w.directories = v.directories

namespace OnlyAt

variable {v w : World} {place : Location}

theorem refl (v : World) (place : Location) : v.OnlyAt place v :=
  ⟨.refl v place, rfl⟩

theorem withFile (h : v.OnlyAt place w) (file : File) : v.OnlyAt place (w.withFile place file) :=
  ⟨h.toSameBut.withFile file, h.directories⟩

theorem withoutFile (h : v.OnlyAt place w) : v.OnlyAt place (w.withoutFile place) :=
  ⟨h.toSameBut.withoutFile, h.directories⟩

end OnlyAt

/-- Worlds that are alike, the second of which has at most the files of the first. -/
structure Within (v w : World) : Prop where
  alike : v.Alike w
  clock : w.clock = v.clock
  files : ∀ q file, w.fileAt? q = some file → v.fileAt? q = some file

namespace Within

variable {v w : World}

theorem refl (v : World) : v.Within v :=
  ⟨.refl v, rfl, fun _ _ h => h⟩

theorem withoutFile (h : v.Within w) (p : Location) : v.Within (w.withoutFile p) := by
  refine ⟨h.alike.withoutFile p, h.clock, fun q file hq => h.files q file ?_⟩
  rw [fileAt?_withoutFile] at hq
  split at hq
  · cases hq
  · exact hq

end Within

theorem follow_of_links {w : World} (h : w.links = []) (place : Location) :
    w.follow linkLimit place = place := by
  have honce : w.followOnce? place = none := by
    rw [followOnce?, h]
    exact List.findSome?_eq_none_iff.2 fun _ _ => rfl
  rw [linkLimit, follow, honce]

/-- Without links, a path leads to its place in lowest terms. -/
theorem locate_of_links {w : World} (h : w.links = []) (path : String) :
    w.locate path = (w.lexical path).names :=
  follow_of_links h _

theorem Within.file? {v w : World} (h : v.Within w) {path : String} {file : File}
    (hfile : w.file? path = some file) : v.file? path = some file := by
  unfold World.file? at hfile ⊢
  split at hfile
  · cases hfile
  · next hpath =>
    rw [if_neg hpath, ← h.alike.locate]
    exact h.files _ file hfile

theorem fileAt?_of_file? {w : World} {path : String} {file : File} (h : w.file? path = some file) :
    w.fileAt? (w.locate path) = some file := by
  unfold file? at h
  split at h
  · cases h
  · exact h

theorem file?_of_ne_empty (w : World) {path : String} (h : path ≠ "") :
    w.file? path = w.fileAt? (w.locate path) := by
  rw [file?, if_neg h]

theorem fileAt?_of_isFile {w : World} {path : String} (hpath : path ≠ "")
    (h : w.isFile path = false) : w.fileAt? (w.locate path) = none := by
  rwa [isFile, file?_of_ne_empty w hpath, Option.isSome_eq_false_iff,
    Option.isNone_iff_eq_none] at h

theorem fault?_of_faults {w : World} (h : w.faults = []) (call : Call) (path : String) :
    w.fault? call path = none := by
  rw [fault?, h]
  rfl

end World

/-! ## Changes -/

namespace Files

variable {P : World → Prop} {Q : Unit → World → Prop} {E : Failure → World → Prop}

theorem unlessFault_of_faults {α : Type} {w : World} (h : w.faults = []) (call : Call)
    (path : String) (answer : Except Failure α) : unlessFault w call path answer = answer := by
  rw [unlessFault, World.fault?_of_faults h]

theorem unlessFault_eq_ok {α : Type} {w : World} {call : Call} {path : String}
    {answer : Except Failure α} {a : α} (h : unlessFault w call path answer = .ok a) :
    answer = .ok a := by
  unfold unlessFault at h
  cases hf : w.fault? call path with
  | some failure =>
    rw [hf] at h
    cases h
  | none =>
    rw [hf] at h
    exact h

theorem unlessRefused_eq_ok {α : Type} {w : World} {call : Call} {path : String}
    {answer : Except Failure α} {a : α} (h : unlessRefused w call path answer = .ok a) :
    answer = .ok a := by
  have h' := unlessFault_eq_ok h
  split at h'
  · cases h'
  · exact h'

/-- A change that fails changes nothing. -/
theorem change_spec {f : World → Except Failure World} (hok : ∀ w w', P w → f w = .ok w' → Q () w')
    (herror : ∀ w failure, P w → f w = .error failure → E failure w) :
    Action.Spec P (change f) Q E := by
  refine ⟨fun w hw => ?_⟩
  dsimp only [change]
  cases h : f w with
  | ok w' => exact hok w w' hw h
  | error failure => exact herror w failure hw h

theorem write_spec {path : String} {content : Content}
    (hok : ∀ w, P w → w.isDirectory path = false → w.isDirectoryAt (w.locate path).dropLast →
      Q () (w.withFile (w.locate path) ⟨content, w.clock⟩))
    (herror : ∀ w failure, P w → E failure w) : Action.Spec P (write path content) Q E := by
  refine change_spec (fun w w' hw h => ?_) fun w failure hw _ => herror w failure hw
  have h' := unlessRefused_eq_ok h
  dsimp only at h'
  split at h'
  · cases h'
  · next hdirectory =>
    split at h'
    · cases h'
    · split at h'
      · next haround =>
        cases h'
        exact hok w hw (Bool.not_eq_true _ ▸ hdirectory) haround
      · cases h'

theorem makeDirectories_spec {path : String}
    (hok : ∀ w, P w → Q () (w.withDirectory (w.locate path)))
    (herror : ∀ w failure, P w → E failure w) : Action.Spec P (makeDirectories path) Q E := by
  refine change_spec (fun w w' hw h => ?_) fun w failure hw _ => herror w failure hw
  have h' := unlessRefused_eq_ok h
  dsimp only at h'
  split at h'
  · cases h'
  · cases h'
    exact hok w hw

/-- Without a fault, only what is no file cannot be removed. -/
theorem remove_spec {path : String}
    (hok : ∀ w, P w → w.isFile path → Q () (w.withoutFile (w.locate path)))
    (herror : ∀ w failure, P w → (w.fault? .remove path = none → w.isFile path = false) →
      E failure w) : Action.Spec P (remove path) Q E := by
  refine change_spec (fun w w' hw h => ?_) fun w failure hw h => herror w failure hw ?_
  · have h' := unlessFault_eq_ok h
    split at h'
    · next hfile =>
      cases h'
      exact hok w hw hfile
    · cases h'
  · intro hfault
    rw [unlessFault, hfault] at h
    dsimp only at h
    split at h
    · cases h
    · next hfile => exact Bool.not_eq_true _ ▸ hfile

theorem replace_spec {source target : String}
    (hok : ∀ w file, P w → w.file? source = some file →
      Q () ((w.withoutFile (w.locate source)).withFile (w.locate target) file))
    (herror : ∀ w failure, P w → E failure w) : Action.Spec P (replace source target) Q E := by
  refine change_spec (fun w w' hw h => ?_) fun w failure hw _ => herror w failure hw
  have h' := unlessFault_eq_ok h
  cases hfile : w.file? source with
  | none =>
    simp only [hfile] at h'
    cases h'
  | some file =>
    simp only [hfile] at h'
    split at h'
    · cases h'
    · cases h'
      exact hok w file hw hfile

/-- Goes on after an error of file access, and lets other failures through. -/
theorem recover_spec {α : Type} {x : Action World α} {handle : Failure → Action World α}
    {Q : α → World → Prop} {M : Failure → World → Prop} (hx : Action.Spec P x Q M)
    (hhandle : ∀ failure, Action.Spec (M failure) (handle failure) Q E)
    (hother : ∀ failure w, M failure w → E failure w) : Action.Spec P (recover x handle) Q E := by
  refine Action.Spec.recover hx fun failure => ?_
  refine Action.Spec.ite (fun _ => hhandle failure) fun _ => Action.Spec.fail ?_
  exact fun w hw => hother failure w hw

theorem recover_keeps {α : Type} {x : Action World α} {handle : Failure → Action World α}
    (hx : Action.Keeps P x) (hhandle : ∀ failure, Action.Keeps P (handle failure)) :
    Action.Keeps P (recover x handle) :=
  recover_spec hx hhandle fun _ _ hw => hw

end Files
end CompileCommands
