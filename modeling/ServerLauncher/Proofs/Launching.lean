import ServerLauncher.Proofs.Uses
import ServerLauncher.Proofs.Verification

/-!
# What is launched

A session finds out how to launch its server when that is first needed, and keeps it.  A call for a
start first checks the configured path, as the variables give it at that time, and then launches
what the session keeps.  Both paths come from the same text, but from the variables at two
moments: the command is the path that is checked if the variables have stayed the same, and it
may be another one if they have not.

## Main definitions

* `Session.LaunchGoes`, `Session.StartGoes`: how the calls for the launch and for a start go.
* `Session.IsPinned`: a configured path has to be used.
* `Session.pathIn`: the configured path as some variables give it.
* `Host.Learns`: what a session keeps comes from the variables at some moment.
* `Session.Checks`: what a start does with the path that is checked.

## Main statements

* `Session.launchInfo_goes`, `Session.start_goes`: these are all the ways.
* `Session.learns_isKept`: every call keeps to `Host.Learns`.
* `Session.start_checks`: a server is started only if the configured path exists, and its command
  is that path as it was when the session first needed it.
* `Session.start_unchecked_moved`: after a change of the variables that is another path.
-/

namespace ServerLauncher

open ServerLauncher.Action MachineAction World

namespace Session

open SessionAction

variable {h : Host}

/-! ## The call for the launch -/

/-- How to launch a server that has been acquired, with some extra variables. -/
def launchOf (s : Session) (m : Machine) (acquisition : Acquisition) (extra : Environment) :
    LaunchInfo where
  command := acquisition.path
  directory := s.directoryOf acquisition.path
  environment := m.environment.update extra
  compilerPath := Template.resolve (m.bindings s.bindings) s.config.compilerPath
  importPaths := Template.resolveAll (m.bindings s.bindings) s.config.importPaths

/-- How a call for the launch goes. -/
inductive LaunchGoes (h : Host) : Except Fault LaunchInfo × Host → Prop where
  /-- The session knows already. -/
  | known (info : LaunchInfo) (hlaunch : h.session.launch = some info) :
      LaunchGoes h (.ok info, h)
  /-- The acquisition fails. -/
  | unacquired (e : Fault) (m : Machine) (hlaunch : h.session.launch = none)
      (hacquire : h.session.acquirer.acquire h.session.config none h.machine = (.error e, m)) :
      LaunchGoes h (.error e, { h with machine := m })
  /-- The extra variables have no texts. -/
  | unwritten (e : Fault) (acquisition : Acquisition) (m m' : Machine)
      (hlaunch : h.session.launch = none)
      (hacquire : h.session.acquirer.acquire h.session.config none h.machine =
        (.ok acquisition, m)) (htells : m.Tells m')
      (hextra : h.session.config.processEnvironment? h.session.room = .error e) :
      LaunchGoes h (.error e, ⟨m', { h.session with acquisition := some acquisition }⟩)
  /-- The session finds it out. -/
  | found (acquisition : Acquisition) (extra : Environment) (m m' : Machine)
      (hlaunch : h.session.launch = none)
      (hacquire : h.session.acquirer.acquire h.session.config none h.machine =
        (.ok acquisition, m)) (htells : m.Tells m')
      (hextra : h.session.config.processEnvironment? h.session.room = .ok extra) :
      LaunchGoes h (.ok (h.session.launchOf m acquisition extra),
        ⟨m', { h.session with
          acquisition := some acquisition
          launch := some (h.session.launchOf m acquisition extra) }⟩)

/-- These are all the ways in which a call for the launch goes. -/
theorem launchInfo_goes (h : Host) : LaunchGoes h (launchInfo h) := by
  unfold launchInfo
  rw [get_bind_apply]
  rcases hlaunch : h.session.launch with _ | info
  · dsimp only
    rcases hacquire : h.session.acquirer.acquire h.session.config none h.machine with
      ⟨e | acquisition, m⟩
    · have hfirst : onMachine (h.session.acquirer.acquire h.session.config none) h =
          (.error e, { h with machine := m }) := by rw [onMachine_apply, hacquire]
      rw [bind_of_error hfirst]
      exact .unacquired e m hlaunch hacquire
    · have hfirst : onMachine (h.session.acquirer.acquire h.session.config none) h =
          (.ok acquisition, { h with machine := m }) := by rw [onMachine_apply, hacquire]
      have htells : ∀ a b c : String, m.Tells (MachineAction.record .info .session c
          (MachineAction.record .info .session b
            (MachineAction.record .info .session a m).2).2).2 := fun a b c =>
        ((record_tells _ _ a _).trans (record_tells _ _ b _)).trans (record_tells _ _ c _)
      rw [bind_of_ok hfirst]
      rcases hextra : h.session.config.processEnvironment? h.session.room with e | extra
      · exact .unwritten e acquisition m _ hlaunch hacquire (htells _ _ _) hextra
      · exact .found acquisition extra m _ hlaunch hacquire (htells _ _ _) hextra
  · exact .known info hlaunch

/-! ## The call for a start -/

/-- How a call for a start goes. -/
inductive StartGoes (h : Host) : Except Fault Nat × Host → Prop where
  /-- The session holds a running server. -/
  | running (hrunning : isRunningOn h) :
      StartGoes h (.error (.alreadyRunning h.session.workspaceRoot), h)
  /-- The configured path has to exist and does not. -/
  | lacking (hidle : isRunningOn h = false)
      (hlacks : h.session.acquirer.Lacks h.session.config h.machine) :
      StartGoes h (.error (.problem (.serverMissing
        (h.session.acquirer.configuredPath h.session.config h.machine)) none), h)
  /-- How to launch the server cannot be found out. -/
  | unlaunched (e : Fault) (h' : Host) (hidle : isRunningOn h = false)
      (hfine : ¬h.session.acquirer.Lacks h.session.config h.machine)
      (hlaunch : launchInfo h = (.error e, h')) : StartGoes h (.error e, h')
  /-- The program cannot be started. -/
  | unstarted (e : Fault) (info : LaunchInfo) (h' : Host) (m : Machine)
      (hidle : isRunningOn h = false)
      (hfine : ¬h.session.acquirer.Lacks h.session.config h.machine)
      (hlaunch : launchInfo h = (.ok info, h')) (hfiles : m.files = h'.machine.files)
      (hevents : m.events = h'.machine.events) (hstarted : m.started = h'.machine.started) :
      StartGoes h (.error e, { h' with machine := m })
  /-- The program is started. -/
  | started (info : LaunchInfo) (h' : Host) (s : Started) (m : Machine)
      (hidle : isRunningOn h = false)
      (hfine : ¬h.session.acquirer.Lacks h.session.config h.machine)
      (hlaunch : launchInfo h = (.ok info, h')) (hfiles : m.files = h'.machine.files)
      (hevents : m.events = h'.machine.events ++
        [.start s.pid info.commandLine info.directory info.environment])
      (hstarted : m.started = h'.machine.started ++ [s]) :
      StartGoes h (.ok h'.machine.started.length,
        ⟨m, { h'.session with server := some h'.machine.started.length }⟩)

/-- These are all the ways in which a call for a start goes. -/
theorem start_goes (h : Host) : StartGoes h (start h) := by
  unfold start
  rw [get_bind_apply, bind_of_ok (show isRunning h = (.ok (isRunningOn h), h) from rfl)]
  by_cases hrunning : isRunningOn h
  · rw [if_pos hrunning]
    exact .running hrunning
  rw [if_neg hrunning]
  dsimp only
  have hidle := Bool.eq_false_of_not_eq_true hrunning
  have hverify := h.session.acquirer.verifyOverride_apply h.session.config h.machine
  by_cases hlacks : h.session.acquirer.Lacks h.session.config h.machine
  · rw [if_pos hlacks] at hverify
    rw [bind_of_error (by rw [onMachine_apply, hverify])]
    exact .lacking hidle hlacks
  rw [if_neg hlacks] at hverify
  rw [bind_of_ok (by rw [onMachine_apply, hverify])]
  rcases hlaunch : launchInfo h with ⟨e | info, h'⟩
  · rw [bind_of_error hlaunch]
    exact .unlaunched e h' hidle hlacks hlaunch
  set message := "Starting language server process via command: " ++ shownCommand info.commandLine
  set told := (record .info message h').2
  have htold : record .info message h' = (.ok (), told) := rfl
  rw [bind_of_ok hlaunch, bind_of_ok htold]
  rcases MachineAction.start_cases info.commandLine info.directory info.environment told.machine
    with ⟨e, m, hstart, hspares, hfiles, hevents⟩ | ⟨s, m, hstart, -, hstarted, hfiles, hevents⟩
  · rw [bind_of_error (by rw [onMachine_apply, hstart])]
    have hstarted : m.started = told.machine.started := hspares.spares.started
    exact .unstarted e info h' m hidle hlacks hlaunch hfiles hevents hstarted
  · rw [bind_of_ok (by rw [onMachine_apply, hstart])]
    exact .started info h' s m hidle hlacks hlaunch hfiles hevents hstarted

/-! ## A configured path that has to be used -/

/-- The session has to use a configured path. -/
structure IsPinned (s : Session) : Prop where
  configured : s.config.serverPath ≠ ""
  strict : s.config.policy = .strict

/-- The configured path as some variables give it, seen from the installation directory. -/
def pathIn (s : Session) (environment : Environment) : String :=
  Path.join s.acquirer.installDir
    (Template.resolve (s.acquirer.bindings.getD environment) s.config.serverPath)

/-- Whether the configured path, as the variables give it at the time, leads to something. -/
def hasTarget (h : Host) : Bool :=
  h.machine.files.exists h.machine.location (h.session.pathIn h.machine.environment)

end Session

/-- What a session keeps about its server is the same after a call, or has been found out by it. -/
structure Host.Finds (h h' : Host) : Prop where
  acquirer : h'.session.acquirer = h.session.acquirer
  config : h'.session.config = h.session.config
  launch : h'.session.launch = h.session.launch ∨ h.session.launch = none ∧
    ∃ info, h'.session.launch = some info ∧ info.command = h.session.pathIn h.machine.environment

/-- What a session keeps about its server after some time it has kept before, or the command is
the configured path as the variables gave it at some moment. -/
structure Host.Learns (h h' : Host) : Prop where
  leads : h.machine.Leads (fun _ _ => True) h'.machine
  acquirer : h'.session.acquirer = h.session.acquirer
  config : h'.session.config = h.session.config
  launch : ∀ info, h'.session.launch = some info → h.session.launch = some info ∨
    ∃ w ∈ h.machine.momentsSince h'.machine, info.command = h.session.pathIn w.environment

namespace Host.Finds

variable {h h' h'' : Host}

theorem of_session (hsession : h'.session.acquirer = h.session.acquirer)
    (hconfig : h'.session.config = h.session.config)
    (hlaunch : h'.session.launch = h.session.launch) : h.Finds h' :=
  ⟨hsession, hconfig, .inl hlaunch⟩

theorem refl (h : Host) : h.Finds h := of_session rfl rfl rfl

/-- Which program the session holds does not matter. -/
theorem of_launch (hfinds : h.Finds h') (hsession : h''.session.acquirer = h'.session.acquirer)
    (hconfig : h''.session.config = h'.session.config)
    (hlaunch : h''.session.launch = h'.session.launch) : h.Finds h'' where
  acquirer := hsession.trans hfinds.acquirer
  config := hconfig.trans hfinds.config
  launch := by
    rw [hlaunch]
    exact hfinds.launch

theorem learns (hfinds : h.Finds h') (hleads : h.machine.Leads (fun _ _ => True) h'.machine) :
    h.Learns h' where
  leads := hleads
  acquirer := hfinds.acquirer
  config := hfinds.config
  launch info hinfo := by
    rcases hfinds.launch with hsame | ⟨-, found, hfound, hcommand⟩
    · exact .inl (hsame.symm.trans hinfo)
    · rw [hfound, Option.some_inj] at hinfo
      subst hinfo
      have hbegins := (Machine.Leads.refl (R := fun _ _ => True) h.machine).mem_momentsSince hleads
      exact .inr ⟨h.machine.toWorld, hbegins, hcommand⟩

end Host.Finds

namespace Host.Learns

variable {h h' h'' : Host}

theorem refl (h : Host) : h.Learns h := (Finds.refl h).learns (.refl _)

theorem pathIn (hlearns : h.Learns h') : h'.session.pathIn = h.session.pathIn := by
  unfold Session.pathIn
  rw [hlearns.acquirer, hlearns.config]

theorem isPinned (hlearns : h.Learns h') (hpinned : h.session.IsPinned) : h'.session.IsPinned :=
  ⟨hlearns.config ▸ hpinned.configured, hlearns.config ▸ hpinned.strict⟩

theorem trans (hlearns : h.Learns h') (hlearns' : h'.Learns h'') : h.Learns h'' where
  leads := hlearns.leads.trans hlearns'.leads
  acquirer := hlearns'.acquirer.trans hlearns.acquirer
  config := hlearns'.config.trans hlearns.config
  launch info hinfo := by
    rcases hlearns'.launch info hinfo with hkept | ⟨w, hw, hcommand⟩
    · rcases hlearns.launch info hkept with hkept | ⟨w, hw, hcommand⟩
      · exact .inl hkept
      · exact .inr ⟨w, hlearns.leads.mem_momentsSince_of_left hlearns'.leads hw, hcommand⟩
    · rw [hlearns.pathIn] at hcommand
      exact .inr ⟨w, hlearns.leads.mem_momentsSince_of_right hlearns'.leads hw, hcommand⟩

end Host.Learns

namespace Session

open SessionAction

variable {h h' : Host}

/-- A configured path that has to be used is acquired as it is, and nothing else is done. -/
theorem IsPinned.acquire (hpinned : h.session.IsPinned) :
    ∃ ds m, h.session.acquirer.acquire h.session.config none h.machine =
        (.ok ⟨h.session.pathIn h.machine.environment, .override, ds⟩, m) ∧ h.machine.Tells m := by
  have hoverrides : h.session.acquirer.Overrides h.session.config h.machine :=
    ⟨hpinned.configured, .inl hpinned.strict⟩
  have hgoes := h.session.acquirer.acquire_goes h.session.config none h.machine
  obtain ⟨ds, hresult⟩ := (hgoes.override_iff _).mpr ⟨hoverrides, rfl⟩
  exact ⟨ds, _, Prod.ext hresult rfl, hgoes.untouched fun _ hspec => hspec.not_overrides hoverrides⟩

/-- Such a path is all that a call for the launch finds out. -/
theorem launchInfo_finds (hpinned : h.session.IsPinned) :
    h.Finds (launchInfo h).2 ∧ h.machine.Tells (launchInfo h).2.machine := by
  obtain ⟨ds, m, hacquired, htold⟩ := hpinned.acquire
  have hgoes := launchInfo_goes h
  generalize launchInfo h = r at hgoes ⊢
  cases hgoes with
  | known => exact ⟨.refl h, .refl _⟩
  | unacquired e m' _ hacquire =>
    rw [hacquired] at hacquire
    cases hacquire
  | unwritten e acquisition m' m'' _ hacquire htells =>
    rw [hacquired] at hacquire
    cases hacquire
    exact ⟨.of_session rfl rfl rfl, htold.trans htells⟩
  | found acquisition extra m' m'' hlaunch hacquire htells =>
    rw [hacquired] at hacquire
    cases hacquire
    exact ⟨⟨rfl, rfl, .inr ⟨hlaunch, _, rfl, rfl⟩⟩, htold.trans htells⟩

/-- What a call for the launch returns the session keeps. -/
theorem launch_of_launchInfo {info : LaunchInfo} (hlaunch : launchInfo h = (.ok info, h')) :
    h'.session.launch = some info := by
  have hgoes := launchInfo_goes h
  rw [hlaunch] at hgoes
  cases hgoes with
  | known _ hknown => exact hknown
  | found => rfl

/-- Neither does a call for a start find out more. -/
theorem start_finds (hpinned : h.session.IsPinned) : h.Finds (start h).2 := by
  have hfinds := (launchInfo_finds hpinned).1
  have hgoes := start_goes h
  generalize start h = r at hgoes ⊢
  cases hgoes with
  | running => exact .refl h
  | lacking => exact .refl h
  | unlaunched e h' _ _ hlaunch =>
    rw [hlaunch] at hfinds
    exact hfinds
  | unstarted e info h' m _ _ hlaunch =>
    rw [hlaunch] at hfinds
    exact hfinds.of_launch rfl rfl rfl
  | started info h' s m _ _ hlaunch =>
    rw [hlaunch] at hfinds
    exact hfinds.of_launch rfl rfl rfl

theorem start_learns (hpinned : h.session.IsPinned) : h.Learns (start h).2 := by
  refine (start_finds hpinned).learns ?_
  rcases start_cases h with ⟨-, hresult⟩ | ⟨-, hstarts⟩
  · rw [hresult]
    exact .refl _
  · generalize start h = r at hstarts ⊢
    cases hstarts with
    | failed e h' hspares _ => exact hspares.mono fun _ _ _ => trivial
    | started id h' _ _ hadds _ => exact hadds.mono fun _ _ _ => trivial

theorem stop_learns (timeout : Value) (h : Host) : h.Learns (stop timeout h).2 := by
  have hsession := stop_session timeout h
  have hleads := (stop_adds timeout h).mono (S := fun _ _ => True) fun _ _ _ => trivial
  refine Host.Finds.learns (.of_session ?_ ?_ ?_) hleads
  · rw [hsession]
  · rw [hsession]
  · rw [hsession]

/-- All that a session whose configured path has to be used ever learns is that path, at some
moment. -/
theorem learns_isKept : IsKept fun h h' => h.session.IsPinned → h.Learns h' where
  refl h _ := .refl h
  trans hlearns hlearns' hpinned :=
    (hlearns hpinned).trans (hlearns' ((hlearns hpinned).isPinned hpinned))
  start _ hpinned := start_learns hpinned
  stop timeout h _ := stop_learns timeout h
  launchInfo h hpinned :=
    (launchInfo_finds hpinned).1.learns ((launchInfo_spares h).1.mono fun _ _ _ => trivial)
  meanwhile _ hpast _ _ _ :=
    Host.Finds.learns (.of_session rfl rfl rfl) (.step (hpast _) trivial)

/-! ## What is checked and what is started -/

/-- What a call for a start does if a configured path has to be used, in a session that has been
used since it was another one.  What is checked is the path that the variables give at the call. -/
structure Checks (h₀ h : Host) : Prop where
  running : isRunningOn h → start h = (.error (.alreadyRunning h.session.workspaceRoot), h)
  /-- If the path leads to nothing, the call fails and does nothing. -/
  missing : isRunningOn h = false → hasTarget h = false → start h =
    (.error (.problem (.serverMissing (h.session.pathIn h.machine.environment)) none), h)
  failed : ∀ e h', start h = (.error e, h') →
    h'.machine.started = h.machine.started ∧ h'.machine.events = h.machine.events
  /-- A program is started only if the path leads to something.  The command is that path if the
  session did not know it before, or else the path as it was at a moment of the use. -/
  started : ∀ id h', start h = (.ok id, h') → hasTarget h = true ∧
    h'.machine.files = h.machine.files ∧ ∃ pid info,
      h'.machine.events =
        h.machine.events ++ [.start pid [info.command] info.directory info.environment] ∧
      (h.session.launch = none ∧ info.command = h.session.pathIn h.machine.environment ∨
        h.session.launch = some info ∧ ∃ w ∈ h₀.machine.momentsSince h.machine,
          info.command = h.session.pathIn w.environment) ∧
      ((∀ w ∈ h₀.machine.momentsSince h.machine,
        h.session.pathIn w.environment = h.session.pathIn h.machine.environment) →
        info.command = h.session.pathIn h.machine.environment)

theorem hasTarget_eq_false (hpinned : h.session.IsPinned) :
    hasTarget h = false ↔ h.session.acquirer.Lacks h.session.config h.machine :=
  ⟨fun hmissing => ⟨hpinned.configured, hpinned.strict, hmissing⟩, fun hlacks => hlacks.2.2⟩

theorem start_of_missing (hpinned : h.session.IsPinned) (hidle : isRunningOn h = false)
    (hmissing : hasTarget h = false) : start h =
      (.error (.problem (.serverMissing (h.session.pathIn h.machine.environment)) none), h) := by
  have hlacks := (hasTarget_eq_false hpinned).mp hmissing
  have hgoes := start_goes h
  generalize start h = r at hgoes ⊢
  cases hgoes with
  | running hrunning => exact absurd (hidle.symm.trans hrunning) Bool.false_ne_true
  | lacking => rfl
  | unlaunched _ _ _ hfine => exact absurd hlacks hfine
  | unstarted _ _ _ _ _ hfine => exact absurd hlacks hfine
  | started _ _ _ _ _ hfine => exact absurd hlacks hfine

/-- A call for a start that fails starts no program. -/
theorem start_eq_error {e : Fault} (hpinned : h.session.IsPinned)
    (hstart : start h = (.error e, h')) : h'.machine.started = h.machine.started ∧
      h'.machine.events = h.machine.events := by
  have htells := (launchInfo_finds hpinned).2
  have hgoes := start_goes h
  rw [hstart] at hgoes
  cases hgoes with
  | running => exact ⟨rfl, rfl⟩
  | lacking => exact ⟨rfl, rfl⟩
  | unlaunched _ _ _ _ hlaunch =>
    rw [hlaunch] at htells
    exact ⟨htells.started_eq, htells.events_eq⟩
  | unstarted _ _ h₁ _ _ _ hlaunch _ hevents hstarted =>
    rw [hlaunch] at htells
    exact ⟨hstarted.trans htells.started_eq, hevents.trans htells.events_eq⟩

/-- A call for a start that succeeds has checked the path, and starts what the session keeps or
has just found out. -/
theorem start_eq_ok {id : Nat} (hpinned : h.session.IsPinned) (hstart : start h = (.ok id, h')) :
    hasTarget h = true ∧ h'.machine.files = h.machine.files ∧ ∃ pid info,
      h'.machine.events =
        h.machine.events ++ [.start pid [info.command] info.directory info.environment] ∧
      (h.session.launch = none ∧ info.command = h.session.pathIn h.machine.environment ∨
        h.session.launch = some info) := by
  obtain ⟨hfinds, htells⟩ := launchInfo_finds hpinned
  have hgoes := start_goes h
  rw [hstart] at hgoes
  cases hgoes with
  | started info h₁ s m _ hfine hlaunch hfiles hevents =>
    have hkept := launch_of_launchInfo hlaunch
    rw [hlaunch] at hfinds htells
    rw [← hasTarget_eq_false hpinned, Bool.not_eq_false] at hfine
    refine ⟨hfine, hfiles.trans htells.files_eq, s.pid, info, ?_, ?_⟩
    · exact hevents.trans (congrArg (· ++ _) htells.events_eq)
    · rcases hfinds.launch with hsame | ⟨hnone, found, hfound, hcommand⟩
      · exact .inr (hsame.symm.trans hkept)
      · cases hkept.symm.trans hfound
        exact .inl ⟨hnone, hcommand⟩

/-- However a session has been used since it was created, a call for a start checks the configured
path as the variables give it then, and starts no program if that leads to nothing.  The command of
a program that is started is the path as the variables gave it when the session first needed it;
that is the path which is checked if the variables have given the same one ever since. -/
theorem start_checks {workspaceRoot installDir : String} {config : Config} {m : Machine}
    {room : Nat} {s : Session} {α : Type} (hconfigured : config.serverPath ≠ "")
    (hstrict : config.policy = .strict)
    (hcreate : create workspaceRoot installDir config none none room m = .ok s) (u : Use α) :
    (∀ environment, s.pathIn environment =
      Path.join (m.absolute installDir) (Template.resolve environment config.serverPath)) ∧
    Checks ⟨m, s⟩ (u.run ⟨m, s⟩).2 := by
  unfold create at hcreate
  split at hcreate
  · cases hcreate
  cases hcreate
  refine ⟨fun _ => rfl, ?_⟩
  set h₀ : Host := ⟨m, _⟩
  have hlearns : h₀.Learns (u.run h₀).2 := learns_isKept.run u h₀ ⟨hconfigured, hstrict⟩
  have hpinned := hlearns.isPinned ⟨hconfigured, hstrict⟩
  refine ⟨fun hrunning => ?_, start_of_missing hpinned, fun _ _ => start_eq_error hpinned,
    fun id h' hstart => ?_⟩
  · rcases start_cases (u.run h₀).2 with ⟨-, hresult⟩ | ⟨hidle, -⟩
    · exact hresult
    · exact absurd (hidle.symm.trans hrunning) Bool.false_ne_true
  · obtain ⟨htarget, hfiles, pid, info, hevents, hlaunch⟩ := start_eq_ok hpinned hstart
    refine ⟨htarget, hfiles, pid, info, hevents, ?_⟩
    rcases hlaunch with ⟨hnone, hcommand⟩ | hknown
    · exact ⟨.inl ⟨hnone, hcommand⟩, fun _ => hcommand⟩
    · obtain ⟨w, hw, hcommand⟩ := (hlearns.launch info hknown).resolve_left nofun
      rw [← hlearns.pathIn] at hcommand
      exact ⟨.inr ⟨hknown, w, hw, hcommand⟩, fun hsteady => hcommand.trans (hsteady w hw)⟩

/-- A machine with a server in the directory `/a`, to which a variable refers. -/
def pointingMachine : Machine :=
  { files := ({} : FileTree).plant ["a", "s"] (.file "x".toUTF8 0o755)
    environment := [("SERVER", "/a")]
    plans := [.ok { pid := 7, lifetime := {} }] }

/-- A new session whose configured path goes by that variable. -/
def pointingSession : Session :=
  { workspaceRoot := "/w", config := { serverPath := "$SERVER/s" }
    acquirer := { installDir := "/i", platform := some .linuxX64 } }

theorem create_pointing :
    create "/w" "/i" { serverPath := "$SERVER/s" } none none 900 pointingMachine =
      .ok pointingSession := by
  rfl

/-- The launch is asked for, and then the variable refers to `/b`, where there may be a server,
too. -/
def repointing (hasServer : Bool) : Use Unit :=
  let repoint : Machine → Machine := fun m => { m with
    environment := m.environment.set "SERVER" "/b"
    files := if hasServer then m.files.plant ["b", "s"] (.file "y".toUTF8 0o755) else m.files }
  .bind .launchInfo fun _ => .meanwhile repoint (fun _ => rfl) fun m =>
    ⟨Nat.le_refl m.now, rfl, fun _ h => h⟩

/-- The path that is checked is missing, though the session keeps one that is there. -/
theorem start_checks_missing :
    let config : Config := { serverPath := "$SERVER/s" }
    let h := ((repointing false).run ⟨pointingMachine, pointingSession⟩).2
    (config.serverPath ≠ "" ∧ config.policy = .strict ∧
      create "/w" "/i" config none none 900 pointingMachine = .ok pointingSession) ∧
    h.session.launch.map (·.command) = some "/a/s" ∧
    start h = (.error (.problem (.serverMissing "/b/s") none), h) := by
  intro config h
  have hconfigured : config.serverPath ≠ "" := by decide
  obtain ⟨-, hchecks⟩ := start_checks hconfigured rfl create_pointing (repointing false)
  have hpath : h.session.pathIn h.machine.environment = "/b/s" := by decide +kernel
  refine ⟨⟨hconfigured, rfl, create_pointing⟩, by decide +kernel, ?_⟩
  rw [← hpath]
  exact hchecks.missing (by decide +kernel) (by decide +kernel)

/-- What the session keeps is started though another path is configured by now, and that one has
been checked. -/
theorem start_unchecked_moved :
    let h := ((repointing true).run ⟨pointingMachine, pointingSession⟩).2
    (pointingSession.config.serverPath ≠ "" ∧ pointingSession.config.policy = .strict ∧
      create "/w" "/i" { serverPath := "$SERVER/s" } none none 900 pointingMachine =
        .ok pointingSession) ∧
    h.session.acquirer.overrideOn? h.session.config h.machine = some "/b/s" ∧
    (start h).1.isOk ∧ (start h).2.machine.events =
      h.machine.events ++ [.start 7 ["/a/s"] "/a" [("SERVER", "/a")]] := by
  refine ⟨⟨by decide, rfl, create_pointing⟩, ?_⟩
  decide +kernel

end Session

end ServerLauncher
