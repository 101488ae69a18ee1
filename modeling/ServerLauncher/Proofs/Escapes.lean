import ServerLauncher.Proofs.Decisions
import ServerLauncher.Proofs.FailureKinds
import ServerLauncher.Proofs.Integrity
import ServerLauncher.Proofs.Regularity

/-!
# What escapes from a download

Each stage of a download foresees the errors of the network and of the files and turns them into
problems, which are part of the outcome.  One error is not foreseen: a redirect is completed from
the address that was asked, and what the server sends need not be an address.  This is the only
fault that escapes from a download whose network and files fail as they promise, and the only one
that escapes from an acquisition, which does not fall back to the bare name then.

## Main definitions

* `Attempt.IsMisled`: the first answer redirects to something that is no address.

## Main statements

* `Attempt.Meets.isSome_category?`: every other setback is reported as a problem.
* `Acquirer.acquire_escapes_iff`: an error escapes exactly when a download is misled.
* `Acquirer.download_without_outcome_bracket`: a single bracket misleads a download.
-/

namespace ServerLauncher

open MachineAction World StepKind

/-! ## What is reported -/

namespace Fault

variable {fault : Fault} {isLate : Bool}

theorem isProblem_eq (fault : Fault) : fault.isProblem = fault.category?.isSome := by
  cases fault <;> rfl

theorem isSome_transferCategory? (h : fault.isRequest) :
    (fault.transferCategory? isLate).isSome := by
  cases fault with
  | request => rfl
  | _ => cases h

theorem isSome_fileCategory? {holdsNull : Prop} (h : IsOfFiles holdsNull fault)
    (hpath : ¬holdsNull) : fault.fileCategory?.isSome := by
  rw [fileCategory?, h.isSystem hpath, h.isRequest]
  rfl

end Fault

namespace Attempt

variable {a : Attempt} {m m' : Machine} {id : Nat} {url : String} {r : Response} {e : Fault}
  {s : Setback} {isLate : Bool}

/-- What is foreseen of a body is reported, but for a NUL in the path. -/
theorem Foresees.isSome_category? (h : a.Foresees e) (hpath : Path.holdsNull a.target = false) :
    (Setback.body url e isLate).category?.isSome := by
  rw [Setback.category?, Option.isSome_or]
  cases h with
  | late => rfl
  | request h => rw [Fault.isSome_transferCategory? h, Bool.true_or]
  | files h => rw [Fault.isSome_fileCategory? h (by simp [hpath]), Bool.or_true]

/-! ## Regular networks -/

theorem ask_behaves (a : Attempt) (url : String) (hm : m.network.IsRegular) :
    (a.ask url m).2.network.IsRegular ∧ ∀ e, (a.ask url m).1 = .error e → e.isRequest :=
  request_behaves _ url m hm

theorem Receives.isRegular (h : a.Receives url m id r m') (hm : m.network.IsRegular) :
    m'.network.IsRegular := by
  obtain ⟨m₁, hask, rfl⟩ := h.answer
  have hregular := (a.ask_behaves url hm).1
  rw [hask] at hregular
  exact hregular

theorem Redirects.isRegular (h : a.Redirects m url m') (hm : m.network.IsRegular) :
    m'.network.IsRegular := by
  obtain ⟨id, r, m₁, hreceives, -, -, rfl⟩ := h
  exact (closeConnection_behaves (Q := fun _ => True) id m₁ (hreceives.isRegular hm)).1

theorem Asks.isRegular (h : a.Asks m url m') (hm : m.network.IsRegular) :
    m'.network.IsRegular := by
  cases h with
  | first => exact hm
  | redirected hredirects => exact hredirects.isRegular hm

theorem GoesBy.isRegular (h : a.GoesBy m id r m') (hm : m.network.IsRegular) :
    m'.network.IsRegular := by
  cases h with
  | first hreceives => exact hreceives.isRegular hm
  | redirected hredirects hanswer => exact hanswer.isRegular (hredirects.isRegular hm)

theorem isRegular_of_arm (h : a.arm m = (.ok (), m')) (hm : m.network.IsRegular) :
    m'.network.IsRegular := by
  have hleads : m.Leads (StepOf {.alarm}) m' := (a.arm_makes (by simp)).leads h
  exact hleads.isRegular (by simp) (by simp) hm

/-! ## Setbacks -/

theorem RequestMeets.isSome_category? (h : a.RequestMeets m s) (hm : m.network.IsRegular)
    (hs : ∀ u, s ≠ .unreadable u) : s.category?.isSome := by
  cases h with
  | @failed url m₁ m₂ fault hasks hask =>
    have hfails := (a.ask_behaves url (hasks.isRegular hm)).2 fault (congrArg Prod.fst hask)
    exact Fault.isSome_transferCategory? hfails
  | late | withoutLocation | unsuccessful => rfl
  | unreadable => exact absurd rfl (hs _)

theorem StreamMeets.isSome_category? (h : a.StreamMeets id m s) (hm : m.network.IsRegular)
    (hpath : Path.holdsNull a.target = false) : s.category?.isSome := by
  cases h with
  | late => rfl
  | failed _ hbreaks =>
    have hsave := save_eq_error.mpr ⟨_, hbreaks, rfl⟩
    have hforeseen := (a.save_behaves id m hm).2 _ (congrArg Prod.fst hsave)
    exact hforeseen.isSome_category? hpath

/-- Every setback is reported but for a redirect to something that is no address. -/
theorem Meets.isSome_category? (h : a.Meets m s) (hm : m.network.IsRegular)
    (hpath : Path.holdsNull a.target = false) (hs : ∀ u, s ≠ .unreadable u) :
    s.category?.isSome := by
  have hnull : ¬(Path.holdsNull a.target : Prop) := by simp [hpath]
  cases s with
  | size fault => exact Fault.isSome_fileCategory? h.isOfFiles_of_size hnull
  | permission fault => exact Fault.isSome_fileCategory? h.isOfFiles_of_permission hnull
  | unreadable u => exact absurd rfl (hs u)
  | late | withoutLocation | unsuccessful | empty => rfl
  | request | body =>
    -- What these fail of has come from the network, as it was when the attempt had got so far.
    cases h with
    | delivery h =>
      cases h with
      | request harm h => exact h.isSome_category? (isRegular_of_arm harm hm) hs
      | body harm hanswer _ h =>
        exact h.isSome_category? (hanswer.isRegular (isRegular_of_arm harm hm)) hpath

/-- The first answer comes in time, and redirects to something that does not complete the address
that was asked to another one. -/
def IsMisled (a : Attempt) (m : Machine) (u : UrlError) : Prop :=
  ∃ m₁ id r m₂ location, a.arm m = (.ok (), m₁) ∧ a.Receives a.url m₁ id r m₂ ∧
    r.status ∈ redirectStatuses ∧ r.header? "Location" = some location ∧ location ≠ "" ∧
      Url.join a.url location = .error u

theorem meets_unreadable_iff {u : UrlError} : a.Meets m (.unreadable u) ↔ a.IsMisled m u := by
  constructor
  · intro h
    cases h with
    | delivery h =>
      cases h with
      | request harm h =>
        cases h with
        | unreadable hreceives hstatus hlocation hne hjoin =>
          exact ⟨_, _, _, _, _, harm, hreceives, hstatus, hlocation, hne, hjoin⟩
      | body _ _ _ h => cases h
  · rintro ⟨m₁, id, r, m₂, location, harm, hreceives, hstatus, hlocation, hne, hjoin⟩
    exact .delivery (.request harm (.unreadable hreceives hstatus hlocation hne hjoin))

end Attempt

/-! ## What escapes -/

/-- Whether a download is misled. -/
def Downloader.IsMisled (d : Downloader) (url target : String) (timeout : Double) (m : Machine)
    (u : UrlError) : Prop :=
  (d.attemptOn url target timeout m).IsMisled ((d.attemptOn url target timeout m).begin m).2 u

theorem Downloader.download_eq_error_iff {d : Downloader} {url target : String} {timeout : Double}
    {m : Machine} (hm : m.network.IsRegular) (hpath : Path.holdsNull target = false) (e : Fault) :
    (d.download url target timeout m).1 = .error e ↔
      ∃ u, d.IsMisled url target timeout m u ∧ e = .address u := by
  have hbegin : ((d.attemptOn url target timeout m).begin m).2.network.IsRegular := hm
  rw [download_eq_error]
  constructor
  · rintro ⟨⟨s, hmeets, rfl⟩, hproblem⟩
    by_contra hnot
    have hs : ∀ u, s ≠ .unreadable u := by
      rintro u rfl
      exact hnot ⟨u, Attempt.meets_unreadable_iff.mp hmeets, rfl⟩
    have hreported := hmeets.isSome_category? hbegin hpath hs
    rw [← hmeets.category?_eq, ← Fault.isProblem_eq, hproblem] at hreported
    cases hreported
  · rintro ⟨u, hmisled, rfl⟩
    exact ⟨⟨_, Attempt.meets_unreadable_iff.mpr hmisled, rfl⟩, rfl⟩

namespace Acquirer

/-- On a regular network, and with a target without a NUL, so that the files fail only with errors
of the operating system, a download has no outcome exactly when it is misled, and an acquisition
returns nothing exactly when it makes a download that is misled. -/
theorem acquire_escapes_iff {m : Machine} (hm : m.network.IsRegular) :
    (∀ (d : Downloader) (url target : String) (timeout : Double) (e : Fault),
      Path.holdsNull target = false →
        ((d.download url target timeout m).1 = .error e ↔
          ∃ u, d.IsMisled url target timeout m u ∧ e = .address u)) ∧
    ∀ (a : Acquirer) (config : Config) (searchPath : Option String) (e : Fault),
      Path.holdsNull (Path.join a.installDir a.binaryName) = false →
        ((a.acquire config searchPath m).1 = .error e ↔
          ∃ spec u, a.Downloads config searchPath m spec ∧
            a.downloader.IsMisled spec.url spec.target config.downloadTimeout (announced spec m)
              u ∧ e = .address u) := by
  refine ⟨fun d url target timeout e hpath => d.download_eq_error_iff hm hpath e,
    fun a config searchPath e hpath => ?_⟩
  have hescape : ∀ {spec : DownloadSpec}, a.Downloads config searchPath m spec →
      ((a.attempt config spec m).1 = .error e ↔ ∃ u, a.downloader.IsMisled spec.url spec.target
        config.downloadTimeout (announced spec m) u ∧ e = .address u) := by
    intro spec hdownloads
    have hannounced : (announced spec m).network.IsRegular := hm
    rw [← hdownloads.target_eq] at hpath
    exact Downloader.download_eq_error_iff hannounced hpath e
  rw [(a.acquire_goes config searchPath m).escape_iff]
  constructor
  · rintro ⟨spec, hdownloads, hattempt⟩
    obtain ⟨u, hmisled, heq⟩ := (hescape hdownloads).mp hattempt
    exact ⟨spec, u, hdownloads, hmisled, heq⟩
  · rintro ⟨spec, u, hdownloads, hmisled, heq⟩
    exact ⟨spec, hdownloads, (hescape hdownloads).mpr ⟨u, hmisled, heq⟩⟩

/-- The error about an address that a run has ended in. -/
def addressError? {α : Type} : Except Fault α → Option UrlError
  | .error (.address u) => some u
  | _ => none

/-- The server redirects to something with a single bracket. -/
def misleadingMachine : Machine :=
  .answering {} [(releaseUrl "v0.0.1" "capnp-ls-linux-x86_64",
    { status := 302, reason := some "Found", headers := [("Location", "http://[")] })]

theorem misleadingMachine_isRegular : misleadingMachine.network.IsRegular :=
  Machine.isRegular_answering (by simp)

theorem addressError?_eq_some {α : Type} {result : Except Fault α} {u : UrlError} :
    addressError? result = some u ↔ result = .error (.address u) := by
  constructor
  · intro h
    rcases result with fault | _
    · cases fault with
      | address u' =>
        cases h
        rfl
      | _ => cases h
    · cases h
  · rintro rfl
    rfl

/-- A single bracket misleads the download of an acquisition. -/
theorem acquire_escapes_iff_bracket :
    misleadingMachine.network.IsRegular ∧
      Path.holdsNull (Path.join freshAcquirer.installDir freshAcquirer.binaryName) = false ∧
      ∃ spec, freshAcquirer.Downloads {} none misleadingMachine spec ∧
        freshAcquirer.downloader.IsMisled spec.url spec.target ({} : Config).downloadTimeout
          (announced spec misleadingMachine) .unbalancedBrackets := by
  have hpath : Path.holdsNull (Path.join freshAcquirer.installDir freshAcquirer.binaryName) =
      false := by decide +kernel
  have hescapes : (freshAcquirer.acquire {} none misleadingMachine).1 =
      .error (.address .unbalancedBrackets) :=
    addressError?_eq_some.mp (by decide +kernel)
  obtain ⟨spec, u, hdownloads, hmisled, heq⟩ :=
    ((acquire_escapes_iff misleadingMachine_isRegular).2 freshAcquirer {} none _ hpath).mp hescapes
  cases heq
  exact ⟨misleadingMachine_isRegular, hpath, spec, hdownloads, hmisled⟩

/-- Neither a download nor an acquisition has a result when a server redirects to something with a
single bracket. -/
theorem download_without_outcome_bracket :
    misleadingMachine.network.IsRegular ∧
      (freshAcquirer.downloader.download (releaseUrl "v0.0.1" "capnp-ls-linux-x86_64")
        "/i/capnp-ls" ({} : Config).downloadTimeout misleadingMachine).1 =
          .error (.address .unbalancedBrackets) ∧
      (freshAcquirer.acquire {} none misleadingMachine).1 =
        .error (.address .unbalancedBrackets) :=
  ⟨misleadingMachine_isRegular, addressError?_eq_some.mp (by decide +kernel),
    addressError?_eq_some.mp (by decide +kernel)⟩

end Acquirer

end ServerLauncher
