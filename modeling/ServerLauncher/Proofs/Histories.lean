import ServerLauncher.Proofs.Turns

/-!
# What a session remembers

A session acquires its server when it is first asked how to launch it, and from then on it relies on
what it has found.  Until an acquisition succeeds it knows nothing, and every call tries again.

There is a gap between the two things that a session keeps: the acquisition is kept before the extra
variables are written as texts.  If one of them has no text, the launch is never known, so that
every call acquires the server anew.

## Main definitions

* `Session.Turn.acquired`, `Session.Turn.spawned`: the acquisitions and the programs of a turn.
* `Session.Seeks`, `Session.Relies`: how calls go before and after a session knows how to launch
  its server.

## Main statements

* `Session.acquires_once`: whatever is done with a session, it completes at most one acquisition,
  on which everything relies afterwards, if the extra variables have texts.
* `Session.acquires_twice`: if they have none, it may complete more.
-/

namespace ServerLauncher

open ServerLauncher.Action MachineAction World

namespace Session

open SessionAction

variable {h h' : Host}

/-! ## Acquisitions and programs -/

/-- The acquisition that a call for the launch completes. -/
def acquiredOn (h : Host) : List Acquisition :=
  match h.session.launch with
  | some _ => []
  | none => (h.session.acquirer.acquire h.session.config none h.machine).1.toOption.toList

/-- Whether a call for a start fails before it asks for the launch. -/
def Refuses (h : Host) : Prop :=
  isRunningOn h ∨ h.session.acquirer.Lacks h.session.config h.machine

instance (h : Host) : Decidable (Refuses h) := inferInstanceAs (Decidable (_ ∨ _))

/-- The acquisition that a turn completes. -/
def Turn.acquired : Turn → Host → List Acquisition
  | .launchInfo, h => acquiredOn h
  | .start, h => if Refuses h then [] else acquiredOn h
  | .stop _, _ => []
  | .change _, _ => []

/-- The programs that a call starts. -/
def Turn.spawned : Turn → Host → List Event
  | .change _, _ => []
  | t, h => (t.after h).machine.starts.drop h.machine.starts.length

/-- How calls go in a session that does not know yet how to launch its server. -/
structure Seeks (h : Host) : Prop where
  launch : h.session.launch = none
  /-- A call for a start either fails at once, or keeps what a call for the launch does. -/
  asks : Refuses h ∧ (start h).2 = h ∨ ¬Refuses h ∧
    (start h).2.session = { (launchInfo h).2.session with server := (start h).2.session.server }
  /-- If the acquisition fails, the session stays as it is. -/
  failed : ∀ e m, h.session.acquirer.acquire h.session.config none h.machine = (.error e, m) →
    launchInfo h = (.error e, ⟨m, h.session⟩) ∧ (¬Refuses h → start h = (.error e, ⟨m, h.session⟩))
  /-- If it succeeds, it is kept together with the launch. -/
  found : ∀ a m, h.session.acquirer.acquire h.session.config none h.machine = (.ok a, m) →
    ∀ extra, h.session.config.processEnvironment? h.session.room = .ok extra →
      (launchInfo h).1 = .ok (h.session.launchOf m a extra) ∧
      (launchInfo h).2.session = { h.session with
        acquisition := some a
        launch := some (h.session.launchOf m a extra) }
  /-- If the extra variables have no texts, the acquisition alone is kept. -/
  unwritten : ∀ a m, h.session.acquirer.acquire h.session.config none h.machine = (.ok a, m) →
    ∀ e, h.session.config.processEnvironment? h.session.room = .error e →
      (launchInfo h).1 = .error e ∧
      (launchInfo h).2.session = { h.session with acquisition := some a }

/-- How calls go in a session that knows how to launch its server. -/
structure Relies (info : LaunchInfo) (h : Host) : Prop where
  launch : h.session.launch = some info
  /-- A call for the launch does nothing. -/
  launchInfo : launchInfo h = (.ok info, h)
  /-- A call for a start that fails does nothing that can be seen. -/
  failed : ∀ e h', start h = (.error e, h') →
    h'.machine.files = h.machine.files ∧ h'.machine.events = h.machine.events
  /-- A call for a start that succeeds starts what the session knows, and does nothing else. -/
  started : ∀ id h', start h = (.ok id, h') → h'.machine.files = h.machine.files ∧
    ∃ pid, h'.machine.events =
      h.machine.events ++ [.start pid [info.command] info.directory info.environment]

/-! ## Single calls -/

theorem not_refuses (hidle : isRunningOn h = false)
    (hfine : ¬h.session.acquirer.Lacks h.session.config h.machine) : ¬Refuses h := by
  rintro (hrunning | hlacks)
  · exact Bool.false_ne_true (hidle.symm.trans hrunning)
  · exact hfine hlacks

theorem start_session (h : Host) : Refuses h ∧ (start h).2 = h ∨ ¬Refuses h ∧
    (start h).2.session =
      { (launchInfo h).2.session with server := (start h).2.session.server } := by
  have hgoes := start_goes h
  generalize start h = r at hgoes ⊢
  cases hgoes with
  | running hrunning => exact .inl ⟨.inl hrunning, rfl⟩
  | lacking _ hlacks => exact .inl ⟨.inr hlacks, rfl⟩
  | unlaunched e h' hidle hfine hlaunch =>
    rw [hlaunch]
    exact .inr ⟨not_refuses hidle hfine, rfl⟩
  | unstarted e info h' m hidle hfine hlaunch =>
    rw [hlaunch]
    exact .inr ⟨not_refuses hidle hfine, rfl⟩
  | started info h' s m hidle hfine hlaunch =>
    rw [hlaunch]
    exact .inr ⟨not_refuses hidle hfine, rfl⟩

theorem launchInfo_of_launch {info : LaunchInfo} (hlaunch : h.session.launch = some info) :
    launchInfo h = (.ok info, h) := by
  have hgoes := launchInfo_goes h
  generalize launchInfo h = r at hgoes ⊢
  cases hgoes with
  | known info' hknown =>
    rw [hlaunch, Option.some_inj] at hknown
    rw [hknown]
  | unacquired _ _ hnone => exact nomatch hlaunch.symm.trans hnone
  | unwritten _ _ _ _ hnone => exact nomatch hlaunch.symm.trans hnone
  | found _ _ _ _ hnone => exact nomatch hlaunch.symm.trans hnone

theorem relies_of_launch {info : LaunchInfo} (hlaunch : h.session.launch = some info) :
    Relies info h := by
  have hcall := launchInfo_of_launch hlaunch
  have hgoes := start_goes h
  refine ⟨hlaunch, hcall, fun e h' hstart => ?_, fun id h' hstart => ?_⟩
  · rw [hstart] at hgoes
    cases hgoes with
    | running => exact ⟨rfl, rfl⟩
    | lacking => exact ⟨rfl, rfl⟩
    | unlaunched _ _ _ _ hfails =>
      rw [hcall] at hfails
      cases hfails
    | unstarted _ _ _ _ _ _ hknown hfiles hevents =>
      rw [hcall] at hknown
      cases hknown
      exact ⟨hfiles, hevents⟩
  · rw [hstart] at hgoes
    cases hgoes with
    | started _ _ s _ _ _ hknown hfiles hevents =>
      rw [hcall] at hknown
      cases hknown
      exact ⟨hfiles, s.pid, hevents⟩

theorem launchInfo_of_unacquired {e : Fault} {m : Machine} (hlaunch : h.session.launch = none)
    (hacquire : h.session.acquirer.acquire h.session.config none h.machine = (.error e, m)) :
    launchInfo h = (.error e, ⟨m, h.session⟩) := by
  have hgoes := launchInfo_goes h
  generalize launchInfo h = r at hgoes ⊢
  cases hgoes with
  | known _ hknown => exact nomatch hlaunch.symm.trans hknown
  | unacquired _ _ _ hacquire' =>
    cases hacquire.symm.trans hacquire'
    rfl
  | unwritten _ _ _ _ _ hacquire' => exact nomatch hacquire.symm.trans hacquire'
  | found _ _ _ _ _ hacquire' => exact nomatch hacquire.symm.trans hacquire'

theorem launchInfo_of_acquired {a : Acquisition} {m : Machine} (hlaunch : h.session.launch = none)
    (hacquire : h.session.acquirer.acquire h.session.config none h.machine = (.ok a, m)) :
    (∀ extra, h.session.config.processEnvironment? h.session.room = .ok extra →
      (launchInfo h).1 = .ok (h.session.launchOf m a extra) ∧
      (launchInfo h).2.session = { h.session with
        acquisition := some a
        launch := some (h.session.launchOf m a extra) }) ∧
    (∀ e, h.session.config.processEnvironment? h.session.room = .error e →
      (launchInfo h).1 = .error e ∧
      (launchInfo h).2.session = { h.session with acquisition := some a }) := by
  have hgoes := launchInfo_goes h
  generalize launchInfo h = r at hgoes ⊢
  cases hgoes with
  | known _ hknown => exact nomatch hlaunch.symm.trans hknown
  | unacquired _ _ _ hacquire' => exact nomatch hacquire.symm.trans hacquire'
  | unwritten e _ _ _ _ hacquire' _ hextra =>
    cases hacquire.symm.trans hacquire'
    refine ⟨fun extra hextra' => (nomatch hextra.symm.trans hextra'), fun e' hextra' => ?_⟩
    cases hextra.symm.trans hextra'
    exact ⟨rfl, rfl⟩
  | found _ extra _ _ _ hacquire' _ hextra =>
    cases hacquire.symm.trans hacquire'
    refine ⟨fun extra' hextra' => ?_, fun e hextra' => nomatch hextra.symm.trans hextra'⟩
    cases hextra.symm.trans hextra'
    exact ⟨rfl, rfl⟩

/-- A call for a start that asks for the launch fails as the call for the launch does. -/
theorem start_of_unlaunched {e : Fault} (hasks : ¬Refuses h)
    (hlaunch : launchInfo h = (.error e, h')) : start h = (.error e, h') := by
  have hgoes := start_goes h
  generalize start h = r at hgoes ⊢
  cases hgoes with
  | running hrunning => exact absurd (.inl hrunning) hasks
  | lacking _ hlacks => exact absurd (.inr hlacks) hasks
  | unlaunched _ _ _ _ hlaunch' =>
    cases hlaunch.symm.trans hlaunch'
    rfl
  | unstarted _ _ _ _ _ _ hlaunch' => exact nomatch hlaunch.symm.trans hlaunch'
  | started _ _ _ _ _ _ hlaunch' => exact nomatch hlaunch.symm.trans hlaunch'

theorem seeks_of_launch (hlaunch : h.session.launch = none) : Seeks h where
  launch := hlaunch
  asks := start_session h
  failed e m hacquire := by
    have hfails := launchInfo_of_unacquired hlaunch hacquire
    exact ⟨hfails, fun hasks => start_of_unlaunched hasks hfails⟩
  found a m hacquire := (launchInfo_of_acquired hlaunch hacquire).1
  unwritten a m hacquire := (launchInfo_of_acquired hlaunch hacquire).2

/-! ## Rows of calls -/

/-- What a session keeps after it has completed some acquisitions. -/
structure Keeps (s₀ : Session) (as : List Acquisition) (h : Host) : Prop where
  config : h.session.config = s₀.config
  room : h.session.room = s₀.room
  acquisition : h.session.acquisition = as.getLast?
  written : ∀ extra, s₀.config.processEnvironment? s₀.room = .ok extra →
    as = [] ∧ h.session.launch = none ∨
      ∃ a info, as = [a] ∧ h.session.launch = some info ∧ info.command = a.path
  unwritten : ∀ e, s₀.config.processEnvironment? s₀.room = .error e → h.session.launch = none

namespace Keeps

variable {s₀ : Session} {as : List Acquisition}

/-- Which program the session holds does not matter, nor does the machine. -/
theorem of_session (hkeeps : Keeps s₀ as h) {server : Option Nat}
    (hsession : h'.session = { h.session with server := server }) : Keeps s₀ as h' := by
  refine ⟨?_, ?_, ?_, ?_, ?_⟩
  · rw [hsession]
    exact hkeeps.config
  · rw [hsession]
    exact hkeeps.room
  · rw [hsession]
    exact hkeeps.acquisition
  · rw [hsession]
    exact hkeeps.written
  · rw [hsession]
    exact hkeeps.unwritten

theorem launchInfo (hkeeps : Keeps s₀ as h) :
    Keeps s₀ (as ++ acquiredOn h) (Session.launchInfo h).2 := by
  have hacquired : ∀ r m, h.session.launch = none →
      h.session.acquirer.acquire h.session.config none h.machine = (r, m) →
        acquiredOn h = r.toOption.toList := by
    intro r m hlaunch hacquire
    unfold acquiredOn
    rw [hlaunch, hacquire]
  have hgoes := launchInfo_goes h
  generalize Session.launchInfo h = r at hgoes ⊢
  cases hgoes with
  | known info hlaunch =>
    have hnothing : acquiredOn h = [] := by
      unfold acquiredOn
      rw [hlaunch]
    rw [hnothing, List.append_nil]
    exact hkeeps
  | unacquired e m hlaunch hacquire =>
    rw [hacquired _ m hlaunch hacquire]
    exact (List.append_nil as).symm ▸ hkeeps.of_session rfl
  | unwritten e a m m' hlaunch hacquire _ hextra =>
    rw [hacquired _ m hlaunch hacquire]
    rw [hkeeps.config, hkeeps.room] at hextra
    exact ⟨hkeeps.config, hkeeps.room, List.getLast?_concat.symm,
      fun extra hextra' => (nomatch hextra.symm.trans hextra'), fun _ _ => hlaunch⟩
  | found a extra m m' hlaunch hacquire _ hextra =>
    rw [hacquired _ m hlaunch hacquire]
    rw [hkeeps.config, hkeeps.room] at hextra
    -- The variables have texts, so that an earlier acquisition would have left a launch.
    have hnone : as = [] := by
      rcases hkeeps.written extra hextra with ⟨hnone, -⟩ | ⟨_, _, -, hlaunch', -⟩
      · exact hnone
      · exact nomatch hlaunch.symm.trans hlaunch'
    refine ⟨hkeeps.config, hkeeps.room, List.getLast?_concat.symm,
      fun _ _ => .inr ⟨a, _, ?_, rfl, rfl⟩, fun e hextra' => nomatch hextra.symm.trans hextra'⟩
    rw [hnone]
    rfl

theorem turn (hkeeps : Keeps s₀ as h) (t : Turn) : Keeps s₀ (as ++ t.acquired h) (t.after h) := by
  cases t with
  | launchInfo => exact hkeeps.launchInfo
  | start =>
    show Keeps s₀ (as ++ if Refuses h then [] else acquiredOn h) (start h).2
    rcases start_session h with ⟨hrefuses, hsame⟩ | ⟨hasks, hsession⟩
    · rw [if_pos hrefuses, hsame, List.append_nil]
      exact hkeeps
    · rw [if_neg hasks]
      exact hkeeps.launchInfo.of_session hsession
  | stop timeout =>
    show Keeps s₀ (as ++ []) (stop timeout h).2
    rw [List.append_nil]
    exact hkeeps.of_session (stop_session timeout h)
  | change g => exact (List.append_nil as).symm ▸ hkeeps.of_session rfl

theorem run (hkeeps : Keeps s₀ as h) (ts : List Turn) :
    Keeps s₀ (as ++ collect Turn.acquired ts h) (Session.run ts h) := by
  induction ts generalizing as h with
  | nil => exact (List.append_nil as).symm ▸ hkeeps
  | cons t ts ih =>
    have hrest := ih (hkeeps.turn t)
    rw [List.append_assoc] at hrest
    exact hrest

end Keeps

/-- What a session knows it never forgets, and it acquires nothing more. -/
theorem turn_of_launch {info : LaunchInfo} (hlaunch : h.session.launch = some info) (t : Turn) :
    (t.after h).session.launch = some info ∧ t.acquired h = [] := by
  have hcall := launchInfo_of_launch hlaunch
  have hnothing : acquiredOn h = [] := by
    unfold acquiredOn
    rw [hlaunch]
  cases t with
  | launchInfo =>
    refine ⟨?_, hnothing⟩
    show (launchInfo h).2.session.launch = _
    rw [hcall, hlaunch]
  | start =>
    show (start h).2.session.launch = some info ∧ (if Refuses h then [] else acquiredOn h) = []
    rcases start_session h with ⟨hrefuses, hsame⟩ | ⟨hasks, hsession⟩
    · rw [if_pos hrefuses, hsame]
      exact ⟨hlaunch, rfl⟩
    · rw [if_neg hasks, hsession, hcall]
      exact ⟨hlaunch, hnothing⟩
  | stop timeout =>
    refine ⟨?_, rfl⟩
    show (stop timeout h).2.session.launch = _
    rw [stop_session]
    exact hlaunch
  | change g => exact ⟨hlaunch, rfl⟩

theorem run_of_launch {info : LaunchInfo} (hlaunch : h.session.launch = some info)
    (ts : List Turn) :
    (run ts h).session.launch = some info ∧ collect Turn.acquired ts h = [] := by
  induction ts generalizing h with
  | nil => exact ⟨hlaunch, rfl⟩
  | cons t ts ih =>
    obtain ⟨hkept, hnothing⟩ := turn_of_launch hlaunch t
    obtain ⟨hkept', hnothing'⟩ := ih hkept
    refine ⟨hkept', ?_⟩
    show t.acquired h ++ collect Turn.acquired ts (t.after h) = []
    rw [hnothing, hnothing']
    rfl

/-- A program that is started in a turn is started as the session knows it. -/
theorem mem_spawned {t : Turn} {e : Event} (he : e ∈ t.spawned h) :
    ∃ info pid, (t.after h).session.launch = some info ∧
      e = .start pid [info.command] info.directory info.environment := by
  have hnone : (t.after h).machine.starts = h.machine.starts →
      e ∉ (t.after h).machine.starts.drop h.machine.starts.length := by
    intro hsame
    rw [hsame, List.drop_length]
    exact List.not_mem_nil
  cases t with
  | launchInfo =>
    exact absurd he (hnone (starts_of_pipeEvents (launchInfo_spares h).1.spares.pipeEvents))
  | start =>
    rcases hstart : start h with ⟨e' | id, h'⟩
    · have hsame : (start h).2.machine.starts = h.machine.starts := by
        rw [hstart]
        exact starts_of_pipeEvents (start_of_error hstart).1
      exact absurd he (hnone hsame)
    · obtain ⟨-, -, -, s, info, hlaunch, -, hevents⟩ := start_of_ok hstart
      have hstarts : (start h).2.machine.starts = h.machine.starts ++
          [.start s.pid info.commandLine info.directory info.environment] := by
        rw [hstart, starts_eq, hevents, List.filter_append, ← starts_eq]
        rfl
      change e ∈ (start h).2.machine.starts.drop h.machine.starts.length at he
      rw [hstarts, List.drop_left] at he
      refine ⟨info, s.pid, ?_, List.mem_singleton.mp he⟩
      show (start h).2.session.launch = _
      rw [hstart]
      exact hlaunch
  | stop timeout => exact absurd he (hnone (stop_starts timeout h))
  | change g => cases he

theorem mem_collect_spawned {ts : List Turn} {e : Event} (he : e ∈ collect Turn.spawned ts h) :
    ∃ info pid, (run ts h).session.launch = some info ∧
      e = .start pid [info.command] info.directory info.environment := by
  induction ts generalizing h with
  | nil => cases he
  | cons t ts ih =>
    rcases List.mem_append.mp he with he | he
    · -- What the session knew at that turn it still knows at the end of the run.
      obtain ⟨info, pid, hlaunch, heq⟩ := mem_spawned he
      exact ⟨info, pid, (run_of_launch hlaunch ts).1, heq⟩
    · exact ih he

/-- Whatever is done with a new session, and however the machine changes meanwhile: the session
keeps the last acquisition that was completed; it asks for a new one as long as it does not know how
to launch its server, and never again afterwards; and all programs are started as it knows.  If the
extra variables have texts, that is known with the first acquisition, which therefore is the only
one; if they have none, it is never known. -/
theorem acquires_once {workspaceRoot installDir : String} {config : Config}
    {acquirer : Option Acquirer} {bindings : Option Environment} {room : Nat} {m : Machine}
    {s : Session}
    (hcreate : create workspaceRoot installDir config acquirer bindings room m = .ok s)
    (ts : List Turn) :
    let h := run ts ⟨m, s⟩
    let as := collect Turn.acquired ts ⟨m, s⟩
    h.session.acquisition = as.getLast? ∧
    (h.session.launch = none → Seeks h) ∧
    (∀ info, h.session.launch = some info → ∀ ts', Relies info (run ts' h) ∧
      collect Turn.acquired ts' h = []) ∧
    (∀ e ∈ collect Turn.spawned ts ⟨m, s⟩, ∃ info pid, h.session.launch = some info ∧
      e = .start pid [info.command] info.directory info.environment) ∧
    (∀ extra, config.processEnvironment? room = .ok extra →
      as = [] ∧ h.session.launch = none ∨
        ∃ a info, as = [a] ∧ h.session.launch = some info ∧ info.command = a.path) ∧
    (∀ e, config.processEnvironment? room = .error e → h.session.launch = none) := by
  intro h as
  have hnew : s.config = config ∧ s.room = room ∧ s.acquisition = none ∧ s.launch = none := by
    unfold create at hcreate
    split at hcreate
    · cases hcreate
    · cases hcreate
      exact ⟨rfl, rfl, rfl, rfl⟩
  obtain ⟨rfl, rfl, hacquisition, hlaunch⟩ := hnew
  have hfirst : Keeps s [] ⟨m, s⟩ :=
    ⟨rfl, rfl, hacquisition, fun _ _ => .inl ⟨rfl, hlaunch⟩, fun _ _ => hlaunch⟩
  have hkeeps : Keeps s as h := hfirst.run ts
  refine ⟨hkeeps.acquisition, seeks_of_launch, fun info hknown ts' => ?_,
    fun e he => mem_collect_spawned he, hkeeps.written, hkeeps.unwritten⟩
  obtain ⟨hkept, hnothing⟩ := run_of_launch hknown ts'
  exact ⟨relies_of_launch hkept, hnothing⟩

/-- The launch is asked for, then the variable in the configured path refers to another directory
with a server in it, and then the server is started. -/
def movedTurns : List Turn :=
  [.launchInfo,
    .change fun m => { m with
      environment := m.environment.set "SERVER" "/b"
      files := m.files.plant ["b", "s"] (.file "y".toUTF8 0o755) },
    .start]

/-- The first server is the only one that is ever acquired. -/
theorem acquires_once_moved :
    let h := run movedTurns ⟨pointingMachine, pointingSession⟩
    create "/w" "/i" { serverPath := "$SERVER/s" } none none 900 pointingMachine =
      .ok pointingSession ∧
    (collect Turn.acquired movedTurns ⟨pointingMachine, pointingSession⟩).map (·.path) =
      ["/a/s"] ∧
    (collect Turn.spawned movedTurns ⟨pointingMachine, pointingSession⟩).length = 1 ∧
    ∃ info, info.command = "/a/s" ∧
      ∀ ts, Relies info (run ts h) ∧ collect Turn.acquired ts h = [] := by
  intro h
  obtain ⟨-, -, hrelies, -, hwritten, -⟩ := acquires_once create_pointing movedTurns
  have hpath : (collect Turn.acquired movedTurns ⟨pointingMachine, pointingSession⟩).map
      (·.path) = ["/a/s"] := by decide +kernel
  refine ⟨create_pointing, hpath, by decide +kernel, ?_⟩
  rcases hwritten [] rfl with ⟨hnone, -⟩ | ⟨a, info, hone, hlaunch, hcommand⟩
  · rw [hnone] at hpath
    cases hpath
  · rw [hone] at hpath
    exact ⟨info, hcommand.trans (List.singleton_inj.mp hpath), hrelies info hlaunch⟩

/-- A configuration with an extra variable whose value has too many digits to be written. -/
def lengthyConfig : Config :=
  { downloadEnabled := false, extraEnv := [(.text "A", .integer (10 ^ digitLimit : Nat))] }

/-- The second call for the launch completes a second acquisition. -/
theorem acquires_twice :
    let acquirer : Acquirer := { installDir := "/i", platform := none }
    let s : Session := { workspaceRoot := "/w", config := lengthyConfig, acquirer }
    create "/w" "/i" lengthyConfig (some acquirer) none 900 {} = .ok s ∧
    (collect Turn.acquired [.launchInfo, .launchInfo] ⟨{}, s⟩).map (·.path) =
      ["capnp-ls", "capnp-ls"] ∧
    (run [.launchInfo] ⟨{}, s⟩).session.acquisition.isSome ∧
    (run [.launchInfo] ⟨{}, s⟩).session.launch = none := by
  intro acquirer s
  refine ⟨rfl, ?_⟩
  decide +kernel

end Session

end ServerLauncher
