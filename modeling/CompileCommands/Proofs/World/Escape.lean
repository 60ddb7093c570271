/-
  Surroundings without escape characters.

  * `World.IsEscapeFree`: no name and no value in a world has an escape character, and no document,
    environment or failure that can be read from it;
  * `EscapeFree.locate`, `EscapeFree.absolute` and so on: nor has the place that a path leads to, or
    the path in lowest terms;
  * `Files.clean_read`, `Files.clean_readJson` and so on: nor has what is read, nor an error of file
    access, which quotes its path;
  * `Files.clean_write`, `Files.clean_remove` and so on: nor has the world after a change.
-/
import CompileCommands.Proofs.Computation.Escape
import CompileCommands.Proofs.Json.Escape
import CompileCommands.Proofs.Path.Escape
import CompileCommands.Proofs.World.Directory

namespace CompileCommands

open Text

open CompileCommands.Path (Lexical)

/-! ## Files -/

/-- The text of a file, if it has one. -/
def Content.text? (content : Content) : Option (List Char) :=
  content.bytes?.bind fun data => Utf8.decode? (Utf8.withoutMark data)

/-- The document that a file holds, and the environment that is stored in it. -/
instance : Textual Content := ⟨fun content =>
  (∀ s document, content.text? = some s → Json.read s = .ok document → EscapeFree document) ∧
    ∀ stored, content.toSnapshot = .ok stored → EscapeFree stored.environment⟩

instance : Textual File := ⟨fun file => EscapeFree file.content⟩

instance : Textual Fault := ⟨fun fault => EscapeFree fault.failure⟩

theorem escapeFree_snapshot {stored : Snapshot.Stored} (h : EscapeFree stored.environment) :
    EscapeFree (Content.snapshot stored) := by
  refine ⟨fun s document hs => ?_, fun stored' hstored => ?_⟩
  · cases hs
  · cases hstored
    exact h

/-! ## Worlds -/

/-- There are no escape characters in the names of places, in the targets of links, in variables,
    programs and packages, in what files hold, and in the failures of faults. -/
structure World.IsEscapeFree (w : World) : Prop where
  files : EscapeFree w.files
  directories : EscapeFree w.directories
  links : EscapeFree w.links
  workingDirectory : EscapeFree w.workingDirectory
  environment : EscapeFree w.environment
  programs : EscapeFree w.programs
  packages : EscapeFree w.packages
  faults : EscapeFree w.faults

instance : Textual World := ⟨World.IsEscapeFree⟩

section Worlds

variable {w : World} {path : String} {place : Location}

namespace World

theorem escapeFree_throughLink {link rest : Location} {target : String} (hlink : EscapeFree link)
    (htarget : EscapeFree target) (hrest : EscapeFree rest) :
    EscapeFree (throughLink link target rest) := by
  refine EscapeFree.lowest ?_ (.append htarget.pieces hrest) true
  split
  · exact .nil
  · exact hlink.subset fun name hname => List.dropLast_subset link (List.mem_reverse.1 hname)

theorem escapeFree_followOnce? (hw : EscapeFree w) (hplace : EscapeFree place) :
    EscapeFree (w.followOnce? place) := by
  intro next hnext
  obtain ⟨⟨front, rest⟩, hcut, hnext⟩ := List.exists_of_findSome?_eq_some hnext
  obtain ⟨k, -, heq⟩ := List.mem_map.1 hcut
  cases heq
  obtain ⟨target, htarget, rfl⟩ := Option.map_eq_some_iff.1 hnext
  exact escapeFree_throughLink (hplace.subset (List.take_subset _ _))
    (hw.links _ (mem_of_lookup htarget)).2 (hplace.subset (List.drop_subset _ _))

/-- By induction on the links that may still be followed. -/
theorem escapeFree_follow (hw : EscapeFree w) (fuel : Nat) (hplace : EscapeFree place) :
    EscapeFree (w.follow fuel place) := by
  induction fuel generalizing place with
  | zero => exact hplace
  | succ fuel ih =>
    rw [follow]
    split
    · next next hnext => exact ih (escapeFree_followOnce? hw hplace next hnext)
    · exact hplace

end World

namespace EscapeFree

theorem lexical (hw : EscapeFree w) (h : EscapeFree path) : EscapeFree (w.lexical path) :=
  (hw.workingDirectory.anchored h).ofText

theorem absolute (hw : EscapeFree w) (h : EscapeFree path) : EscapeFree (w.absolute path) :=
  (hw.lexical h).text

theorem locate (hw : EscapeFree w) (h : EscapeFree path) : EscapeFree (w.locate path) := by
  unfold World.locate
  exact World.escapeFree_follow hw _ (hw.lexical h)

theorem pathOf (h : EscapeFree place) : EscapeFree (World.pathOf place) := h

theorem realPath (hw : EscapeFree w) (h : EscapeFree path) : EscapeFree (w.realPath path) :=
  (hw.locate h).pathOf

theorem fault? (hw : EscapeFree w) (call : Call) (path : String) :
    EscapeFree (w.fault? call path) := by
  intro failure hfailure
  obtain ⟨fault, hfault, rfl⟩ := Option.map_eq_some_iff.1 hfailure
  exact hw.faults fault (List.mem_of_find?_eq_some hfault)

theorem file? (hw : EscapeFree w) (path : String) : EscapeFree (w.file? path) := by
  intro file hfile
  unfold World.file? at hfile
  split at hfile
  · cases hfile
  · exact (hw.files _ (mem_of_lookup hfile)).2

theorem withDirectory (hw : EscapeFree w) (h : EscapeFree place) :
    EscapeFree (w.withDirectory place) := by
  refine ⟨hw.files, .append hw.directories ?_, hw.links, hw.workingDirectory, hw.environment,
    hw.programs, hw.packages, hw.faults⟩
  intro d hd
  obtain ⟨k, -, rfl⟩ := List.mem_map.1 (List.mem_filter.1 hd).1
  exact h.subset (List.take_subset k place)

theorem withoutFile (hw : EscapeFree w) (place : Location) : EscapeFree (w.withoutFile place) :=
  ⟨hw.files.subset (List.filter_subset_self _), hw.directories, hw.links, hw.workingDirectory,
    hw.environment, hw.programs, hw.packages, hw.faults⟩

theorem withFile (hw : EscapeFree w) (h : EscapeFree place) {file : File}
    (hfile : EscapeFree file) : EscapeFree (w.withFile place file) :=
  ⟨.cons ⟨h, hfile⟩ (hw.withoutFile place).files, hw.directories, hw.links, hw.workingDirectory,
    hw.environment, hw.programs, hw.packages, hw.faults⟩

end EscapeFree

/-! ## Reading -/

namespace Files

theorem escapeFree_error (kind : FileError.Kind) (path : String) :
    EscapeFree (error kind path) := by
  have hmessage {reason : String} (h : EscapeFree reason) :
      EscapeFree (Failure.file ⟨kind, reason ++ ": " ++ quoted path⟩) :=
    .string_append (.string_append h (by decide)) (escapeFree_quoted path)
  cases kind <;> exact hmessage (.literal rfl)

theorem escapeFree_unlessFault {α : Type} [Textual α] (hw : EscapeFree w) {call : Call}
    {answer : Except Failure α} (h : EscapeFree answer) :
    EscapeFree (unlessFault w call path answer) := by
  unfold unlessFault
  split
  · next failure hfailure => exact .error (hw.fault? call path failure hfailure)
  · exact h

theorem escapeFree_content (hw : EscapeFree w) (path : String) : EscapeFree (content w path) := by
  unfold content
  refine escapeFree_unlessFault hw ?_
  split
  · next file hfile => exact .ok (hw.file? path file hfile)
  · exact .error (escapeFree_error _ _)

theorem text_of_content {content : Content} (h : Files.content w path = .ok content) :
    text w path = content.text?.elim (.error .notUtf8) .ok := by
  unfold text Content.text?
  rw [h]
  dsimp only [bind, Except.bind]
  split
  · next s hs => rw [hs, Option.elim_some]
  · next hs => rw [hs, Option.elim_none]

/-- What is made of the text of a file, if all its documents are without escape characters. -/
theorem escapeFree_text_bind {α : Type} [Textual α] {f : List Char → Except Failure α}
    (hw : EscapeFree w) (path : String)
    (hf : ∀ s, (∀ document, Json.read s = .ok document → EscapeFree document) →
      EscapeFree (f s)) : EscapeFree (text w path >>= f) := by
  have hcontent := escapeFree_content hw path
  cases hread : content w path with
  | error failure =>
    rw [hread] at hcontent
    have htext : text w path = .error failure := by
      rw [text, hread]
      rfl
    rw [htext]
    exact hcontent
  | ok found =>
    rw [hread] at hcontent
    rw [text_of_content hread]
    cases hs : found.text? with
    | some s => exact hf s fun document hdocument => hcontent.1 s document hs hdocument
    | none =>
      have hmessage : EscapeFree Failure.notUtf8.message := .literal rfl
      exact .error hmessage

theorem escapeFree_document {s : List Char}
    (h : ∀ document, Json.read s = .ok document → EscapeFree document) :
    EscapeFree (document s) := by
  rw [document]
  cases hread : Json.read s with
  | ok found => exact .ok (h found hread)
  | error e =>
    cases e with
    | malformed =>
      have hmessage : EscapeFree Failure.notJson.message := .literal rfl
      exact .error hmessage
    | tooDeep inObject =>
      have hmessage : EscapeFree (Failure.ofReadError (.tooDeep inObject)).message := by
        cases inObject <;> decide +kernel
      exact .error hmessage

theorem clean_read (path : String) : (read path).Clean :=
  fun _ hw => .silent (escapeFree_content hw path)

theorem clean_readJson (path : String) : (readJson path).Clean :=
  fun _ hw => .silent (escapeFree_text_bind hw path fun _ hs => escapeFree_document hs)

theorem clean_modified (path : String) : (modified path).Clean := by
  refine fun w hw => .silent (escapeFree_unlessFault hw ?_)
  split
  · exact .ok trivial
  · split
    · exact .ok trivial
    · exact .error (escapeFree_error _ _)

theorem clean_list (path : String) : (list path).Clean := by
  refine fun w hw => .silent (escapeFree_unlessFault hw ?_)
  split
  · exact .error (escapeFree_error _ _)
  · split
    · refine .ok fun name hname => ?_
      have hplaces : EscapeFree (w.files.map (·.1) ++ w.directories ++ w.links.map (·.1)) :=
        .append (.append (.map _ fun file hfile => (hw.files file hfile).1) hw.directories)
          (.map _ fun link hlink => (hw.links link hlink).1)
      exact hplaces _ (mem_namesIn_iff.1 hname) name
        (List.mem_append_right _ (List.mem_singleton_self _))
    · exact .error (escapeFree_error _ _)

/-! ## Changing -/

theorem clean_change {f : World → Except Failure World}
    (h : ∀ w, EscapeFree w → EscapeFree (f w)) : (change f).Clean := by
  intro w hw
  have hf := h w hw
  unfold change
  split
  · next w' hw' =>
    rw [hw'] at hf
    exact ⟨.silent trivial, hf⟩
  · next failure hfailure =>
    rw [hfailure] at hf
    exact ⟨.silent hf, hw⟩

theorem escapeFree_refusal? (path : String) : EscapeFree (refusal? path) := by
  unfold refusal?
  split
  · exact .some (escapeFree_encodingError _)
  · exact .ite (.some (.literal rfl)) .none

theorem escapeFree_unlessRefused {α : Type} [Textual α] (hw : EscapeFree w) {call : Call}
    {answer : Except Failure α} (h : EscapeFree answer) :
    EscapeFree (unlessRefused w call path answer) := by
  refine escapeFree_unlessFault hw ?_
  split
  · next failure hfailure => exact .error (escapeFree_refusal? path failure hfailure)
  · exact h

theorem clean_write (hpath : EscapeFree path) {content : Content} (h : EscapeFree content) :
    (write path content).Clean := by
  refine clean_change fun w hw => escapeFree_unlessRefused hw ?_
  have hplace : EscapeFree (w.locate path) := hw.locate hpath
  generalize w.locate path = place at hplace
  exact .ite (.error (escapeFree_error _ _)) (.ite (.error (escapeFree_error _ _))
    (.ite (.ok (hw.withFile hplace h)) (.error (escapeFree_error _ _))))

theorem clean_makeDirectories (hpath : EscapeFree path) : (makeDirectories path).Clean := by
  refine clean_change fun w hw => escapeFree_unlessRefused hw ?_
  have hplace : EscapeFree (w.locate path) := hw.locate hpath
  generalize w.locate path = place at hplace
  exact .ite (.error (escapeFree_error _ _)) (.ok (hw.withDirectory hplace))

theorem clean_remove (path : String) : (remove path).Clean :=
  clean_change fun _ hw => escapeFree_unlessFault hw <|
    .ite (.ok (hw.withoutFile _)) (.error (escapeFree_error _ _))

theorem clean_replace (source : String) {target : String} (htarget : EscapeFree target) :
    (replace source target).Clean := by
  refine clean_change fun w hw => escapeFree_unlessFault hw ?_
  split
  · exact .error (escapeFree_error _ _)
  · next file hfile =>
    split
    · exact .error (escapeFree_error _ _)
    · exact .ok ((hw.withoutFile _).withFile (hw.locate htarget) (hw.file? source file hfile))

theorem clean_recover {α : Type} [Textual α] {x : Action World α}
    {handle : Failure → Action World α} (hx : x.Clean)
    (hh : ∀ failure, EscapeFree failure → (handle failure).Clean) : (recover x handle).Clean :=
  .recover hx fun failure hfailure => .ite (hh failure hfailure) (.fail hfailure)

end Files
end Worlds
end CompileCommands
