/-
  The checks of required packages agree.

  * `Versions.IsTotal`: of two versions, one is at least the other or comes before it;
    `isTotal_standard`: so it is with the versions that the commands compare;
  * `isOlder_eq`: a version is older than another if and only if it is not at least that;
  * `result_require`: requiring a package asks for its status, although it compares the other way;
  * `result_requireEach_iff`, `result_checkEach_iff`: all turns out well if and only if every
    package is good, whether the first that is not ends the check or not;
  * `checks_agree`: the check that ends a command, the one that shows all packages and the status
    of each package decide the same.
-/
import CompileCommands.Cli.Exit
import CompileCommands.Proofs.Computation
import CompileCommands.Proofs.Package.Order

namespace CompileCommands

/-! ## Versions -/

/-- A version comes before another if and only if it is not at least that one. -/
structure Versions.IsTotal (versions : Versions) : Prop where
  isBefore_eq : ∀ a b, versions.isBefore a b = !versions.isAtLeast a b

theorem Versions.isTotal_standard : Versions.standard.IsTotal := by
  refine ⟨fun (a b : Version) => ?_⟩
  have hcompare : (a.compare b).isLT = !(b.compare a).isLE := by
    rw [Version.isLE_compare, Bool.not_not]
  exact hcompare

namespace Package

variable {versions : Versions} {requirements : Requirements} {p : Palette} {s : Session}
  {context name minimum : String}

/-! ## One package -/

theorem isOlder_eq (htotal : versions.IsTotal) (installed minimum : String) :
    isOlder versions installed minimum = (isAtLeast versions installed minimum).map (!·) := by
  unfold isOlder isAtLeast
  cases versionOf versions installed with
  | error failure => rfl
  | ok a =>
    cases versionOf versions minimum with
    | error failure => rfl
    | ok b =>
      change Except.ok (versions.isBefore a b) = Except.ok !versions.isAtLeast a b
      rw [htotal.isBefore_eq]

theorem isGood_iff {status : Status} :
    status.isGood ↔ ∃ version, status = .installed version true := by
  cases status with
  | missing => simp [Status.isGood]
  | installed version isEnough => simp [Status.isGood]

theorem status_of_get? {packages : Bindings String} (h : requirements.get? name = some minimum) :
    status versions packages requirements name none = statusOf versions packages name minimum := by
  unfold status minimumOf
  rw [h]
  rfl

theorem status_of_get?_none {packages : Bindings String} (h : requirements.get? name = none) :
    status versions packages requirements name none =
      .error (.requirement (.unspecified name)) := by
  unfold status minimumOf
  rw [h]
  rfl

/-- Nothing but the console is changed. -/
theorem world_require (versions : Versions) (p : Palette) (requirements : Requirements)
    (context name : String) (s : Session) :
    (require versions p requirements context name s).2.world = s.world := by
  have hcomplain (text : String) :
      Action.Keeps (fun t => t.world = s.world) (Session.complain text) :=
    .of_state fun t ht => ht
  have hkeeps : Action.Keeps (fun t => t.world = s.world)
      (require versions p requirements context name) := by
    unfold require
    split
    · exact .bind (hcomplain _) fun _ => .pure _
    · refine .bind (.view _) fun found => ?_
      split
      · exact .bind (hcomplain _) fun _ => .pure _
      · refine .bind (.of_state fun t ht => ht) fun _ => .ite ?_ (.pure _)
        exact .bind (hcomplain _) fun _ => .pure _
  exact hkeeps.apply rfl

/-- A registered package is required by asking for its status. -/
theorem result_require (htotal : versions.IsTotal) (p : Palette) (context : String)
    (h : requirements.get? name = some minimum) :
    (require versions p requirements context name s).1.result =
      (statusOf versions s.world.packages name minimum).map Status.isGood := by
  unfold require
  rw [h]
  dsimp only
  rw [installedIn, Action.view_bind, statusOf]
  cases s.world.packages.get? name with
  | none => rfl
  | some version =>
    dsimp only
    rw [isOlder_eq htotal]
    cases isAtLeast versions version minimum with
    | error failure => rfl
    | ok isEnough =>
      cases isEnough with
      | false => rfl
      | true => rfl

/-- A package is not refused if and only if its status is good; one that is not registered has
    none. -/
theorem result_require_iff (htotal : versions.IsTotal) (p : Palette) (context : String) :
    (require versions p requirements context name s).1.result = .ok true ↔
      ∃ version, status versions s.world.packages requirements name none =
        .ok (.installed version true) := by
  cases h : requirements.get? name with
  | none =>
    have hrefused : (require versions p requirements context name s).1.result = .ok false := by
      unfold require
      rw [h]
      rfl
    rw [status_of_get?_none h, hrefused]
    simp
  | some minimum =>
    rw [status_of_get? h, result_require htotal p context h]
    cases statusOf versions s.world.packages name minimum with
    | error failure => simp [Except.map]
    | ok status => simp [Except.map, isGood_iff]

/-- A package in a sufficient version is not spoken of. -/
theorem require_of_isGood (htotal : versions.IsTotal) {version : String}
    (h : requirements.get? name = some minimum)
    (hstatus : statusOf versions s.world.packages name minimum = .ok (.installed version true)) :
    require versions p requirements context name s = (.ok true, s) := by
  unfold statusOf at hstatus
  cases hinstalled : s.world.packages.get? name with
  | none =>
    rw [hinstalled] at hstatus
    cases hstatus
  | some installed =>
    rw [hinstalled] at hstatus
    dsimp only at hstatus
    unfold require
    rw [h]
    dsimp only
    rw [installedIn, Action.view_bind, hinstalled]
    dsimp only
    rw [isOlder_eq htotal]
    cases hisEnough : isAtLeast versions installed minimum with
    | error failure =>
      rw [hisEnough] at hstatus
      cases hstatus
    | ok isEnough =>
      rw [hisEnough] at hstatus
      cases hstatus
      rfl

/-! ## All packages -/

/-- By induction on the names: the check of one package leaves the packages as they are, and one
    that is refused ends the check. -/
theorem result_requireEach_iff (htotal : versions.IsTotal) {names : List String} :
    (requireEach versions p requirements context names s).1.result = .ok true ↔
      ∀ name ∈ names, ∃ version, status versions s.world.packages requirements name none =
        .ok (.installed version true) := by
  induction names generalizing s with
  | nil => simp [requireEach, Outcome.ok]
  | cons name names ih =>
    rw [requireEach, Action.result_bind_eq_ok_iff, List.forall_mem_cons,
      ← result_require_iff htotal p context]
    constructor
    · rintro ⟨isGood, hname, hrest⟩
      cases isGood with
      | false => cases hrest
      | true =>
        rw [if_pos rfl, ih, world_require] at hrest
        exact ⟨hname, hrest⟩
    · rintro ⟨hname, hrest⟩
      refine ⟨true, hname, ?_⟩
      rw [if_pos rfl, ih, world_require]
      exact hrest

/-- What is shown of a package changes nothing but the console, and always answers. -/
theorem display_ends (p : Palette) (name minimum : String) (status : Status) (s : Session) :
    (display p name minimum status s).1.result = .ok () ∧
      (display p name minimum status s).2.world = s.world := by
  unfold display
  split
  · exact ⟨rfl, rfl⟩
  · exact ⟨rfl, rfl⟩
  · exact ⟨rfl, rfl⟩

/-- By induction on the packages: one that is not good does not end the check, but is counted at
    its end. -/
theorem result_checkEach_iff {packages : List (String × String)} :
    (checkEach versions p packages s).1.result = .ok true ↔ ∀ package ∈ packages, ∃ version,
      statusOf versions s.world.packages package.1 package.2 = .ok (.installed version true) := by
  induction packages generalizing s with
  | nil => simp [checkEach, Outcome.ok]
  | cons package packages ih =>
    obtain ⟨name, minimum⟩ := package
    rw [List.forall_mem_cons, checkEach]
    cases hstatus : statusOf versions s.world.packages name minimum with
    | error failure =>
      rw [Action.result_bind_of_error (x := statusIn versions name minimum) hstatus]
      simp
    | ok status =>
      obtain ⟨hshown, hworld⟩ := display_ends p name minimum status s
      rw [Action.result_bind_of_ok (x := statusIn versions name minimum) hstatus]
      change ((display p name minimum status >>= fun _ => _) s).1.result = .ok true ↔ _
      rw [Action.result_bind_of_ok hshown, Action.result_bind_eq_ok_iff, ← hworld, ← ih]
      constructor
      · rintro ⟨rest, hrest, hboth⟩
        obtain ⟨rfl, hgood⟩ : rest = true ∧ status.isGood = true := by
          simpa [Outcome.ok] using hboth
        obtain ⟨version, rfl⟩ := isGood_iff.1 hgood
        exact ⟨⟨version, rfl⟩, hrest⟩
      · rintro ⟨⟨version, hgood⟩, hrest⟩
        cases hgood
        exact ⟨true, hrest, rfl⟩

theorem result_checkAll_iff : (checkAll versions p requirements s).1.result = .ok true ↔
    (checkEach versions p requirements s).1.result = .ok true := by
  rw [checkAll, Action.result_bind_eq_ok_iff]
  constructor
  · rintro ⟨isGood, heach, hresult⟩
    cases isGood with
    | false => cases hresult
    | true => exact heach
  · intro heach
    exact ⟨true, heach, rfl⟩

/-! ## Agreement -/

/-- In a table with every name once, a package has the least version that stands beside it. -/
theorem get?_of_mem (hnames : (requirements.map (·.1)).Nodup)
    (h : (name, minimum) ∈ requirements) : requirements.get? name = some minimum := by
  induction requirements with
  | nil => cases h
  | cons entry rest ih =>
    obtain ⟨first, value⟩ := entry
    rw [List.map_cons, List.nodup_cons] at hnames
    rw [Bindings.get?_cons]
    rcases List.mem_cons.1 h with heq | hrest
    · cases heq
      rw [if_pos rfl]
    · have hne : name ≠ first := by
        rintro rfl
        exact hnames.1 (List.mem_map.2 ⟨_, hrest, rfl⟩)
      rw [if_neg hne, ih hnames.2 hrest]

/-- If the status of a package is not known, a version cannot be read. -/
theorem failsOnly_statusOf (versions : Versions) (packages : Bindings String)
    (name minimum : String) :
    FailsOnly (fun failure => ∃ text, failure = .invalidVersion text)
      (statusOf versions packages name minimum) := by
  have hversion (text : String) :
      FailsOnly (fun failure => ∃ text, failure = .invalidVersion text)
        (versionOf versions text) := by
    unfold versionOf
    split
    · exact .ok _
    · exact .error ⟨text, rfl⟩
  unfold statusOf
  split
  · exact .ok _
  · next installed _ =>
    exact .map (.bind (hversion installed) fun _ => .bind (hversion minimum) fun _ => .ok _) _

/-- A demand is refused for the package itself, and not for a version that cannot be read, if and
    only if the status is known and not good. -/
theorem demand_eq_error_iff {packages : Bindings String}
    (h : requirements.get? name = some minimum) :
    (demand versions packages requirements name none =
          .error (.requirement (.missing name minimum)) ∨
        ∃ version, demand versions packages requirements name none =
          .error (.requirement (.tooOld name version minimum))) ↔
      (statusOf versions packages name minimum).map Status.isGood = .ok false := by
  have hdemand : demand versions packages requirements name none =
      match statusOf versions packages name minimum with
      | .ok .missing => .error (.requirement (.missing name minimum))
      | .ok (.installed version false) => .error (.requirement (.tooOld name version minimum))
      | .ok (.installed version true) => .ok (.installed version true)
      | .error failure => .error failure := by
    unfold demand minimumOf
    rw [h]
    dsimp only [bind, Except.bind]
    cases statusOf versions packages name minimum with
    | error failure => rfl
    | ok status =>
      rcases status with _ | ⟨version, isEnough⟩
      · rfl
      · cases isEnough <;> rfl
  have hfails := failsOnly_statusOf versions packages name minimum
  rw [hdemand]
  cases hstatus : statusOf versions packages name minimum with
  | error failure =>
    obtain ⟨text, rfl⟩ := hfails failure hstatus
    simp [Except.map]
  | ok status =>
    rcases status with _ | ⟨version, isEnough⟩
    · simp [Except.map, Status.isGood]
    · cases isEnough <;> simp [Except.map, Status.isGood]

/-- The checks of the required packages agree, if the order of versions is total. For every table
    with every name once, whatever is installed and whatever the versions say: requiring all
    packages lets the command go on if and only if checking them all says that all is well, and if
    and only if the status of each is that it is installed in a sufficient version. For a single
    package, requiring it ends the command, with the exit code of an error at run time, if and only
    if demanding it fails because it is missing or too old. -/
theorem checks_agree (htotal : versions.IsTotal) (hnames : (requirements.map (·.1)).Nodup)
    (p : Palette) (context : String) (s : Session) :
    ((requireAll versions p requirements context s).1.result = .ok true ↔
      (checkAll versions p requirements s).1.result = .ok true) ∧
    ((checkAll versions p requirements s).1.result = .ok true ↔
      ∀ name ∈ requirements.map (·.1), ∃ version,
        status versions s.world.packages requirements name none = .ok (.installed version true)) ∧
    ∀ name minimum, requirements.get? name = some minimum →
      ((Cli.provided (require versions p requirements context name) (return .success) s).1.result =
          .ok .runtimeError ↔
        demand versions s.world.packages requirements name none =
            .error (.requirement (.missing name minimum)) ∨
          ∃ version, demand versions s.world.packages requirements name none =
            .error (.requirement (.tooOld name version minimum))) := by
  have hgood : (checkAll versions p requirements s).1.result = .ok true ↔
      ∀ name ∈ requirements.map (·.1), ∃ version,
        status versions s.world.packages requirements name none =
          .ok (.installed version true) := by
    rw [result_checkAll_iff, result_checkEach_iff, List.forall_mem_map]
    refine forall₂_congr fun package hpackage => ?_
    rw [status_of_get? (get?_of_mem hnames hpackage)]
  refine ⟨?_, hgood, ?_⟩
  · rw [requireAll, result_requireEach_iff htotal, hgood]
  · intro name minimum hminimum
    rw [demand_eq_error_iff hminimum, ← result_require htotal p context hminimum,
      Cli.provided, Action.result_bind_eq_ok_iff]
    constructor
    · rintro ⟨isGood, hrequire, hend⟩
      cases isGood with
      | false => exact hrequire
      | true => cases hend
    · intro hrequire
      exact ⟨false, hrequire, rfl⟩

/-- All required packages are installed, one of them only as a candidate for its release. -/
def awaitingRelease : Session :=
  { world :=
      { packages := [("GitPython", "3.1.44"), ("packaging", "24.2"), ("colorama", "0.4.6rc1")] } }

/-- A candidate is older than its release. -/
theorem checks_agree_awaitingRelease :
    (Requirements.standard.map (·.1)).Nodup ∧
    (requireAll .standard .none Requirements.standard defaultContext
      awaitingRelease).1.result ≠ .ok true ∧
    (Cli.provided (require .standard .none Requirements.standard defaultContext "colorama")
      (return .success) awaitingRelease).1.result = .ok .runtimeError := by
  have hnames : (Requirements.standard.map (·.1)).Nodup := by decide
  have hold : demand .standard awaitingRelease.world.packages Requirements.standard "colorama"
      none = .error (.requirement (.tooOld "colorama" "0.4.6rc1" "0.4.6")) := by rfl
  have hstatus : status .standard awaitingRelease.world.packages Requirements.standard "colorama"
      none = .ok (.installed "0.4.6rc1" false) := by rfl
  obtain ⟨hall, heach, hone⟩ :=
    checks_agree Versions.isTotal_standard hnames .none defaultContext awaitingRelease
  refine ⟨hnames, ?_, (hone "colorama" "0.4.6" (by decide)).2 (.inr ⟨_, hold⟩)⟩
  rw [ne_eq, hall, heach]
  intro hgood
  obtain ⟨version, hversion⟩ := hgood "colorama" (by decide)
  rw [hstatus] at hversion
  cases hversion

end Package
end CompileCommands
