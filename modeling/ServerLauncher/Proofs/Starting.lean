import ServerLauncher.Proofs.Failures
import ServerLauncher.Proofs.Histories
import ServerLauncher.Proofs.Loading

/-!
# Starts that fail

A call for a start can fail at five points: because a server runs, because the configured path has
to exist and does not, because the server cannot be acquired, because an extra variable has no text,
and because the program cannot be started.  At none of them has the session given up or got a
program.  The first two come before anything is done, and there nothing changes at all; the last
one comes after the session has found out how to launch its server, which it keeps.

## Main definitions

* `Session.spawn`: starting a server that the session knows how to launch.
* `Session.Tries`, `Session.Retries`: what later calls do after a program could not be started.
* `Session.FailsToStart`: how a call for a start fails, and what it leaves behind.

## Main statements

* `Session.start_eq_spawn`: a call for a start comes to a spawn.
* `Session.retries_of_launch`: what a session knows is what it tries to start.
* `Session.start_atomic`: a call for a start that fails is without effect on programs.
-/

namespace ServerLauncher

open ServerLauncher.Action MachineAction World

/-! ## Errors of the parts -/

/-- A program that cannot be started is an error of the operating system. -/
theorem MachineAction.start_eq_error {command : List String} {directory : String}
    {environment : Environment} {m m' : Machine} {e : Fault}
    (hstart : start command directory environment m = (.error e, m')) :
    ∃ errno, e = .system errno command.head? := by
  unfold start at hstart
  rw [observe_bind_apply] at hstart
  rcases hplans : m.plans with _ | ⟨errno | s, plans⟩
  · rw [hplans] at hstart
    cases hstart
    exact ⟨errnoMissing, rfl⟩
  · rw [hplans] at hstart
    cases hstart
    exact ⟨errno, rfl⟩
  · rw [hplans] at hstart
    cases hstart

/-- The problems that this library reports do not escape from an acquisition. -/
theorem Acquirer.isProblem_of_acquire {a : Acquirer} {config : Config} {searchPath : Option String}
    {m m' : Machine} {e : Fault} (hacquire : a.acquire config searchPath m = (.error e, m')) :
    e.isProblem = false := by
  have hgoes := a.acquire_goes config searchPath m
  obtain ⟨spec, -, hattempt⟩ := (hgoes.escape_iff e).mp (congrArg Prod.fst hacquire)
  exact (Downloader.download_eq_error.mp hattempt).2

namespace Config

/-- The extra variables fail only because one of them has no text. -/
theorem processEnvironment?_eq_error {room : Nat} {config : Config} {e : Fault}
    (h : config.processEnvironment? room = .error e) : ∃ issue, e = .unwritable issue := by
  unfold processEnvironment? at h
  generalize ([] : Environment) = environment, config.extraEnv = entries at h
  induction entries generalizing environment with
  | nil => cases h
  | cons entry rest ih =>
    rw [List.foldlM_cons] at h
    rcases hname : textOf room entry.1 with e' | name
    · rw [hname] at h
      cases h
      obtain ⟨issue, -, rfl⟩ := textOf_eq_error_iff.mp hname
      exact ⟨issue, rfl⟩
    · rcases hvalue : textOf room entry.2 with e' | value
      · rw [hname, hvalue] at h
        cases h
        obtain ⟨issue, -, rfl⟩ := textOf_eq_error_iff.mp hvalue
        exact ⟨issue, rfl⟩
      · rw [hname, hvalue] at h
        exact ih _ h

end Config

namespace Session

open SessionAction

variable {h h' : Host} {info : LaunchInfo} {e : Fault}

/-! ## Starting what is known -/

/-- A server is started that the session knows how to launch.  The result is the number of the
program. -/
def spawn (info : LaunchInfo) : SessionAction Nat := do
  record .info ("Starting language server process via command: " ++ shownCommand info.commandLine)
  let id ← onMachine (.start info.commandLine info.directory info.environment)
  update fun s => { s with server := some id }
  return id

/-- A call for a start that is not refused and finds out how to launch the server comes to a
spawn. -/
theorem start_eq_spawn (hasks : ¬Refuses h) (hlaunch : launchInfo h = (.ok info, h')) :
    start h = spawn info h' := by
  have hidle : ¬isRunningOn h := fun hrunning => hasks (.inl hrunning)
  have hfine : ¬h.session.acquirer.Lacks h.session.config h.machine := fun hlacks =>
    hasks (.inr hlacks)
  have hverify := h.session.acquirer.verifyOverride_apply h.session.config h.machine
  rw [if_neg hfine] at hverify
  unfold start
  rw [get_bind_apply, bind_of_ok (show isRunning h = (.ok (isRunningOn h), h) from rfl),
    if_neg hidle]
  dsimp only
  rw [bind_of_ok (by rw [onMachine_apply, hverify]), bind_of_ok hlaunch]
  rfl

/-- A spawn starts one program, or nothing can be seen of it. -/
theorem spawn_cases (info : LaunchInfo) (h : Host) :
    (∃ errno m, spawn info h = (.error (.system errno (some info.command)), ⟨m, h.session⟩) ∧
      h.machine.Leads Spares m ∧ m.files = h.machine.files ∧ m.events = h.machine.events) ∨
    ∃ s m, spawn info h = (.ok h.machine.started.length,
        ⟨m, { h.session with server := some h.machine.started.length }⟩) ∧
      m.started = h.machine.started ++ [s] ∧ m.files = h.machine.files ∧
      m.events = h.machine.events ++
        [.start s.pid info.commandLine info.directory info.environment] := by
  unfold spawn
  set message := "Starting language server process via command: " ++ shownCommand info.commandLine
  have hrecord := (record_spares .info message h).1
  set told := (record .info message h).2
  have htold : record .info message h = (.ok (), told) := rfl
  rw [bind_of_ok htold]
  rcases MachineAction.start_cases info.commandLine info.directory info.environment told.machine
    with ⟨e, m, hstart, hspares, hfiles, hevents⟩ | ⟨s, m, hstart, -, hstarted, hfiles, hevents⟩
  · obtain ⟨errno, rfl⟩ := MachineAction.start_eq_error hstart
    rw [bind_of_error (by rw [onMachine_apply, hstart])]
    exact .inl ⟨errno, m, rfl, hrecord.trans hspares, hfiles, hevents⟩
  · rw [bind_of_ok (by rw [onMachine_apply, hstart])]
    exact .inr ⟨s, m, rfl, hstarted, hfiles, hevents⟩

/-! ## Trying again -/

/-- A call for a start tries to start a known command, and all that can be seen of it is a program
that it starts. -/
structure Tries (info : LaunchInfo) (h : Host) : Prop where
  start : start h = spawn info h
  files : (Session.start h).2.machine.files = h.machine.files
  events : (Session.start h).2.machine.events = h.machine.events ∨
    ∃ pid, (Session.start h).2.machine.events = h.machine.events ++
      [.start pid info.commandLine info.directory info.environment]

/-- What later calls do in a session that holds no running server and knows how to launch one. -/
structure Retries (info : LaunchInfo) (h : Host) : Prop where
  launch : h.session.launch = some info
  /-- The next call tries to start the known command if its check passes, whatever has happened on
  the machine meanwhile. -/
  next : ∀ m : Machine, h.machine.toWorld.Ages m.toWorld →
    ¬h.session.acquirer.Lacks h.session.config m → Tries info ⟨m, h.session⟩
  /-- So does every later one that is not refused, whatever has been done with the session. -/
  later : ∀ ts, ¬Refuses (run ts h) → Tries info (run ts h)

theorem tries_of_launch (hlaunch : h.session.launch = some info) (hasks : ¬Refuses h) :
    Tries info h := by
  have hspawn := start_eq_spawn hasks (launchInfo_of_launch hlaunch)
  have hseen : (spawn info h).2.machine.files = h.machine.files ∧
      ((spawn info h).2.machine.events = h.machine.events ∨
        ∃ pid, (spawn info h).2.machine.events = h.machine.events ++
          [.start pid info.commandLine info.directory info.environment]) := by
    rcases spawn_cases info h with ⟨errno, m, hfails, -, hfiles, hevents⟩ |
      ⟨s, m, hstarts, -, hfiles, hevents⟩
    · rw [hfails]
      exact ⟨hfiles, .inl hevents⟩
    · rw [hstarts]
      exact ⟨hfiles, .inr ⟨s.pid, hevents⟩⟩
  rw [← hspawn] at hseen
  exact ⟨hspawn, hseen.1, hseen.2⟩

/-- A session holds no running server as long as no program starts to run. -/
theorem isRunningOn_of_runs (hidle : isRunningOn h = false)
    (hserver : h'.session.server = h.session.server)
    (hruns : ∀ j, h'.machine.toWorld.Runs j → h.machine.toWorld.Runs j) :
    isRunningOn h' = false := by
  unfold isRunningOn at hidle ⊢
  rw [hserver]
  rcases hid : h.session.server with _ | id
  · rfl
  · rw [hid] at hidle
    dsimp only at hidle ⊢
    by_contra halive
    rw [Bool.not_eq_false] at halive
    have hbefore := Machine.isAlive_iff_runs.mpr (hruns id (Machine.isAlive_iff_runs.mp halive))
    exact Bool.false_ne_true (hidle.symm.trans hbefore)

/-- What a session knows is what it tries to start. -/
theorem retries_of_launch (hlaunch : h.session.launch = some info)
    (hidle : isRunningOn h = false) : Retries info h where
  launch := hlaunch
  next m hages hfine := by
    have hidle' : isRunningOn ⟨m, h.session⟩ = false := isRunningOn_of_runs hidle rfl hages.runs
    exact tries_of_launch hlaunch (not_refuses hidle' hfine)
  later ts := tries_of_launch (run_of_launch hlaunch ts).1

/-! ## How a start fails -/

/-- How a call for a start fails, and what it leaves behind. -/
inductive FailsToStart (h : Host) : Fault → Host → Prop where
  /-- A server runs, and nothing is done. -/
  | running (hrunning : isRunningOn h) : FailsToStart h (.alreadyRunning h.session.workspaceRoot) h
  /-- The configured path has to exist and does not, and nothing is done. -/
  | lacking (hidle : isRunningOn h = false)
      (hlacks : h.session.acquirer.Lacks h.session.config h.machine) :
      FailsToStart h (.problem (.serverMissing
        (h.session.acquirer.configuredPath h.session.config h.machine)) none) h
  /-- The server cannot be acquired, and the session stays as it is. -/
  | unacquired (e : Fault) (m : Machine) (hasks : ¬Refuses h) (hlaunch : h.session.launch = none)
      (hacquire : h.session.acquirer.acquire h.session.config none h.machine = (.error e, m))
      (hproblem : e.isProblem = false) : FailsToStart h e ⟨m, h.session⟩
  /-- An extra variable has no text, and only the acquisition is kept. -/
  | unwritten (issue : Value.TextIssue) (acquisition : Acquisition) (m m' : Machine)
      (hasks : ¬Refuses h)
      (hlaunch : h.session.launch = none)
      (hacquire : h.session.acquirer.acquire h.session.config none h.machine =
        (.ok acquisition, m)) (htells : m.Tells m') :
      FailsToStart h (.unwritable issue)
        ⟨m', { h.session with acquisition := some acquisition }⟩
  /-- The program cannot be started, and what has been found out is kept for the next call. -/
  | unstarted (errno : Nat) (info : LaunchInfo) (h₁ h' : Host) (hasks : ¬Refuses h)
      (hlaunch : launchInfo h = (.ok info, h₁))
      (hspawn : spawn info h₁ = (.error (.system errno (some info.command)), h'))
      (hsession : h'.session = h₁.session) (hretries : Retries info h') :
      FailsToStart h (.system errno (some info.command)) h'

/-- A failing call for the launch makes the call for a start fail. -/
theorem failsToStart_of_launchInfo (hasks : ¬Refuses h) (hlaunch : launchInfo h = (.error e, h')) :
    FailsToStart h e h' := by
  have hgoes := launchInfo_goes h
  rw [hlaunch] at hgoes
  cases hgoes with
  | unacquired _ m hnone hacquire =>
    exact .unacquired e m hasks hnone hacquire (Acquirer.isProblem_of_acquire hacquire)
  | unwritten _ acquisition m m' hnone hacquire htells hextra =>
    obtain ⟨issue, rfl⟩ := Config.processEnvironment?_eq_error hextra
    exact .unwritten issue acquisition m m' hasks hnone hacquire htells

/-- These are all the ways in which a call for a start fails. -/
theorem start_fails (hstart : start h = (.error e, h')) : FailsToStart h e h' := by
  by_cases hasks : Refuses h
  · have hgoes := start_goes h
    rw [hstart] at hgoes
    cases hgoes with
    | running hrunning => exact .running hrunning
    | lacking hidle hlacks => exact .lacking hidle hlacks
    | unlaunched _ _ hidle hfine => exact absurd hasks (not_refuses hidle hfine)
    | unstarted _ _ _ _ hidle hfine => exact absurd hasks (not_refuses hidle hfine)
  · have hidle : isRunningOn h = false :=
      Bool.eq_false_of_not_eq_true fun hrunning => hasks (.inl hrunning)
    -- The call is not refused: it fails before the launch is known, or in the spawn after that.
    rcases hlaunch : launchInfo h with ⟨e' | info, h₁⟩
    · rw [start_of_unlaunched hasks hlaunch] at hstart
      cases hstart
      exact failsToStart_of_launchInfo hasks hlaunch
    · have hknown := launch_of_launchInfo hlaunch
      obtain ⟨hleads, hserver⟩ := launchInfo_spares h
      rw [hlaunch] at hleads hserver
      rw [start_eq_spawn hasks hlaunch] at hstart
      rcases spawn_cases info h₁ with ⟨errno, m, hspawn, hspares, -⟩ | ⟨s, m, hspawn, -⟩
      · rw [hspawn] at hstart
        cases hstart
        have hadds : h.machine.toWorld.Adds none m.toWorld :=
          ((hleads.trans hspares).mono fun _ _ h => h.adds none).adds
        have hidle' : isRunningOn ⟨m, h₁.session⟩ = false :=
          isRunningOn_of_runs hidle hserver fun _ => hadds.runs_of_none
        exact .unstarted errno info h₁ _ hasks hlaunch hspawn rfl (retries_of_launch hknown hidle')
      · rw [hspawn] at hstart
        cases hstart

/-- A call for a start that fails neither gives up the program that the session holds nor starts
one.  If a server runs, or the configured path has to exist and does not, the call does nothing; no
other call fails with a missing path.  If the program could not be started, the session keeps how to
launch it, and tries just that in later calls. -/
theorem start_atomic (hstart : start h = (.error e, h')) :
    h'.session.server = h.session.server ∧ h'.machine.started = h.machine.started ∧
    h'.machine.starts = h.machine.starts ∧ FailsToStart h e h' ∧ (Refuses h → h' = h) ∧
    ∀ path cause, e = .problem (.serverMissing path) cause → h' = h := by
  obtain ⟨hevents, hstarted, hserver⟩ := start_of_error hstart
  have hfails := start_fails hstart
  refine ⟨hserver, hstarted, starts_of_pipeEvents hevents, hfails, fun hrefuses => ?_, ?_⟩
  · cases hfails with
    | running => rfl
    | lacking => rfl
    | unacquired _ _ hasks => exact absurd hrefuses hasks
    | unwritten _ _ _ _ hasks => exact absurd hrefuses hasks
    | unstarted _ _ _ _ hasks => exact absurd hrefuses hasks
  · rintro path cause rfl
    cases hfails with
    | lacking => rfl
    | unacquired _ _ _ _ _ hproblem => cases hproblem

/-- A server in the installation directory that cannot be started at first. -/
def refusedHost : Host :=
  { machine := { files := ({} : FileTree).plant ["i", "capnp-ls"] (.file "x".toUTF8 0o755)
                 plans := [.error 13, .ok { pid := 7, lifetime := {} }] }
    session := { workspaceRoot := "/w", config := {}
                 acquirer := { installDir := "/i", platform := some .linuxX64 } } }

/-- The next call starts the server that the first one has found, although it is gone by then. -/
theorem start_atomic_refused :
    let h' := (start refusedHost).2
    (∃ e, start refusedHost = (.error e, h')) ∧
    h'.session.server = none ∧ h'.machine.starts = [] ∧
    ∃ info, info.command = "/i/capnp-ls" ∧ Retries info h' ∧
      (start ⟨{ h'.machine with files := {} }, h'.session⟩).2.machine.events =
        [.start 7 ["/i/capnp-ls"] "/i" []] := by
  intro h'
  have hasks : ¬Refuses refusedHost := by decide +kernel
  have hacquired : (refusedHost.session.acquirer.acquire refusedHost.session.config none
      refusedHost.machine).1.toOption.isSome := by decide +kernel
  obtain ⟨e, hstart⟩ : ∃ e, start refusedHost = (.error e, h') := by
    have hfails : (start refusedHost).1.toOption = none := by decide +kernel
    rcases hresult : (start refusedHost).1 with e | id
    · exact ⟨e, Prod.ext hresult rfl⟩
    · rw [hresult] at hfails
      cases hfails
  obtain ⟨hserver, -, hstarts, hfails, -⟩ := start_atomic hstart
  refine ⟨⟨e, hstart⟩, hserver, hstarts, ?_⟩
  have hcommand : h'.session.launch.map (·.command) = some "/i/capnp-ls" := by decide +kernel
  have hnext : (start ⟨{ h'.machine with files := {} }, h'.session⟩).2.machine.events =
      [.start 7 ["/i/capnp-ls"] "/i" []] := by decide +kernel
  generalize h' = h'' at hfails hcommand hnext
  cases hfails with
  | running hrunning => exact absurd (.inl hrunning) hasks
  | lacking _ hlacks => exact absurd (.inr hlacks) hasks
  | unacquired _ _ _ _ hacquire =>
    rw [hacquire] at hacquired
    cases hacquired
  | unwritten => cases hcommand
  | unstarted _ info _ _ _ _ _ _ hretries =>
    rw [hretries.launch] at hcommand
    exact ⟨info, Option.some_inj.mp hcommand, hretries, hnext⟩

end Session

end ServerLauncher
