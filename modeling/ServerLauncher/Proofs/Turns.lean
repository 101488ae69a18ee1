import ServerLauncher.Proofs.Launching

/-!
# Calls in turn

A session is called again and again, and between the calls the machine is changed by others.  This
module says what such a row of turns is, and what a call does to the pipes to programs: a start
that succeeds opens three of them, and a stop that ends closes those to the server which the
session has held, whether or not they are broken.

## Main definitions

* `Session.Turn`, `Session.run`: calls and changes, one after the other.
* `Session.collect`: what the turns of a run bring.
* `World.LeavesPipes`: no pipe is opened or closed.
* `World.starts`, `World.closings`: the programs that have been started and the pipes that have
  been closed.

## Main statements

* `Session.endAll_leavesPipes`: ending a server and its descendants leaves the pipes as they are.
* `Session.stop_closes`: a stop closes all pipes to the server.
* `Session.start_of_ok`: a call for a start that succeeds starts what the session keeps.
* `Session.stop_starts`: no program is started while a server is stopped.
-/

namespace ServerLauncher

open ServerLauncher.Action MachineAction World

/-! ## Turns -/

namespace Session

/-- What is done with a session, or happens on its machine. -/
inductive Turn where
  | launchInfo
  | start
  | stop (timeout : Value)
  /-- The machine is changed by others. -/
  | change (g : Machine → Machine)

/-- The host after a turn. -/
def Turn.after : Turn → Host → Host
  | .launchInfo, h => (Session.launchInfo h).2
  | .start, h => (Session.start h).2
  | .stop timeout, h => (Session.stop timeout h).2
  | .change g, h => { h with machine := g h.machine }

/-- The host after some turns. -/
def run (ts : List Turn) (h : Host) : Host := ts.foldl (fun h t => t.after h) h

theorem run_concat (ts : List Turn) (t : Turn) (h : Host) :
    run (ts ++ [t]) h = t.after (run ts h) := by
  unfold run
  rw [List.foldl_append]
  rfl

/-- What the turns of a run bring, in their order. -/
def collect {α : Type} (f : Turn → Host → List α) : List Turn → Host → List α
  | [], _ => []
  | t :: ts, h => f t h ++ collect f ts (t.after h)

end Session

/-! ## Pipes -/

/-- Whether a program is started. -/
def Event.isStart : Event → Bool
  | start .. => true
  | _ => false

/-- Whether a pipe is closed. -/
def Event.isClosing : Event → Bool
  | closePipe .. => true
  | _ => false

namespace World

variable {w w' w'' : World}

/-- The programs that have been started. -/
def starts (w : World) : List Event := w.events.filter Event.isStart

/-- The pipes that have been closed. -/
def closings (w : World) : List Event := w.events.filter Event.isClosing

theorem filter_events {p : Event → Bool} (hp : ∀ e, p e → e.isOfPipes) (w : World) :
    w.events.filter p = w.pipeEvents.filter p := by
  unfold pipeEvents
  rw [List.filter_filter]
  refine List.filter_congr fun e _ => ?_
  by_cases he : p e
  · rw [he, hp e he]
    rfl
  · rw [Bool.eq_false_of_not_eq_true he]
    rfl

theorem starts_eq (w : World) : w.starts = w.pipeEvents.filter Event.isStart :=
  w.filter_events fun e he => by
    cases e with
    | start => rfl
    | _ => cases he

theorem closings_eq (w : World) : w.closings = w.pipeEvents.filter Event.isClosing :=
  w.filter_events fun e he => by
    cases e with
    | closePipe => rfl
    | _ => cases he

/-- The process number of a program. -/
def pid? (w : World) (id : Nat) : Option Int := w.started[id]?.map (·.pid)

theorem pid?_eq (h : w'.started.map (·.pid) = w.started.map (·.pid)) (id : Nat) :
    w'.pid? id = w.pid? id := by
  unfold pid?
  rw [← List.getElem?_map, ← List.getElem?_map, h]

/-- No pipe to a program is opened or closed, and programs keep their process numbers. -/
structure LeavesPipes (w w' : World) : Prop where
  pipeEvents : w'.pipeEvents = w.pipeEvents
  pids : w'.started.map (·.pid) = w.started.map (·.pid)

theorem LeavesPipes.refl (w : World) : w.LeavesPipes w := ⟨rfl, rfl⟩

theorem LeavesPipes.trans (h : w.LeavesPipes w') (h' : w'.LeavesPipes w'') : w.LeavesPipes w'' :=
  ⟨h'.pipeEvents.trans h.pipeEvents, h'.pids.trans h.pids⟩

theorem Spares.leavesPipes (h : w.Spares w') : w.LeavesPipes w' :=
  ⟨h.pipeEvents, by rw [h.started]⟩

theorem starts_of_pipeEvents (h : w'.pipeEvents = w.pipeEvents) : w'.starts = w.starts := by
  rw [starts_eq, starts_eq, h]

end World

theorem Machine.Leads.leavesPipes {m m' : Machine} (h : m.Leads LeavesPipes m') :
    m.toWorld.LeavesPipes m'.toWorld :=
  h.keeps .refl (fun _ _ _ => .trans) fun _ _ h => h

theorem Machine.advanceTo_leavesPipes (m : Machine) (t : Nat) :
    m.Leads LeavesPipes (m.onward.advanceTo t) :=
  (m.advanceTo_leads (Set.mem_singleton _) t).mono fun _ _ h => h.spares.leavesPipes

namespace MachineAction

theorem event_leavesPipes {e : Event} (he : e.isOfPipes = false) :
    Proceeds LeavesPipes (event e) :=
  .of_change (fun _ => rfl) fun _ => ⟨filter_isOfPipes_append (by simpa using he), rfl⟩

theorem pass_leavesPipes (micros : Nat) : Proceeds LeavesPipes (pass micros) := fun m =>
  m.advanceTo_leavesPipes _

theorem changeStarted_leavesPipes (id : Nat) (f : Machine → Started → Started)
    (hf : ∀ m s, (f m s).pid = s.pid) :
    Proceeds LeavesPipes (change fun m => m.changeStarted id (f m)) := by
  refine .of_change (fun _ => rfl) fun m => ⟨rfl, List.ext_getElem? fun j => ?_⟩
  show ((m.onward.started.modify id (f m.onward)).map (·.pid))[j]? = _
  rw [List.getElem?_map, List.getElem?_modify, List.getElem?_map, Option.map_eq_map,
    Option.map_map]
  refine Option.map_congr fun s _ => ?_
  show (if id = j then f m.onward s else s).pid = s.pid
  split_ifs
  · exact hf _ s
  · rfl

theorem signal_leavesPipes {e : Int → Event} (he : ∀ pid, (e pid).isOfPipes = false) (id : Nat)
    (f : Lifetime → Nat → Lifetime) : Proceeds LeavesPipes (signal id e f) :=
  signal_proceeds (fun pid => event_leavesPipes (he pid)) (changeStarted_leavesPipes id)

theorem signalDescendant_leavesPipes {own : Descendant → Option Obstacle}
    {done failed : Int → Event} {f : Lifetime → Nat → Lifetime}
    (hdone : ∀ pid, (done pid).isOfPipes = false)
    (hfailed : ∀ pid, (failed pid).isOfPipes = false) (id child : Nat) :
    Proceeds LeavesPipes (signalDescendant id child own done failed f) :=
  signalDescendant_proceeds (fun pid => event_leavesPipes (hdone pid))
    (fun pid => event_leavesPipes (hfailed pid)) (changeStarted_leavesPipes id) child

theorem waitFor_leavesPipes (id : Nat) (limit : Time) :
    Proceeds LeavesPipes (waitFor id limit) :=
  waitFor_proceeds Machine.advanceTo_leavesPipes id limit

/-- A pipe is closed, broken or not. -/
theorem closePipe_pipeEvents {id : Nat} {m : Machine} {pid : Int} (hpid : m.pid? id = some pid)
    (pipe : Pipe) :
    (closePipe id pipe m).2.pipeEvents = m.pipeEvents ++ [.closePipe pid pipe] ∧
      (closePipe id pipe m).2.started = m.started := by
  obtain ⟨s, hs, rfl⟩ := Option.map_eq_some_iff.mp hpid
  rw [closePipe_apply, show m.started? id = some s from hs]
  refine ⟨?_, rfl⟩
  show (m.events ++ [_]).filter Event.isOfPipes = _
  rw [List.filter_append]
  rfl

theorem closePipe_starts (id : Nat) (pipe : Pipe) :
    Proceeds (fun w w' => w'.starts = w.starts) (closePipe id pipe) := by
  intro m
  rw [closePipe_apply]
  rcases m.started? id with _ | s
  · exact .refl m
  · refine .step rfl ?_
    show (m.events ++ [_]).filter Event.isStart = _
    rw [List.filter_append]
    exact List.append_nil _

end MachineAction

/-! ## What the calls do to the pipes -/

namespace Session

open SessionAction

variable {h h' : Host} {id : Nat}

theorem record_leavesPipes (level : Level) (message : String) :
    Along LeavesPipes (record level message) :=
  .of_machine (.of_change (fun _ => rfl) fun _ => ⟨rfl, rfl⟩)

/-- Signals to several descendants, and records about those that refuse them. -/
theorem signalAll_along {R : World → World → Prop}
    {signal : Nat → MachineAction (Except Obstacle Unit)}
    (hrecord : ∀ level message, Along R (record level message))
    (hsignal : ∀ child, Proceeds R (signal child)) (id : Nat) (children : List Nat) :
    Along R (signalAll signal id children) := by
  induction children with
  | nil => exact .of_pure _
  | cons child rest ih =>
    unfold signalAll
    refine .bind (.of_machine (hsignal child)) fun r => ?_
    split
    · exact ih
    · exact ih
    · exact .bind .of_get fun h => .bind (hrecord _ _) fun _ => ih

/-- The descendants are listed, and nothing else is done. -/
theorem descendants_along {R : World → World → Prop} (id : Nat) : Along R (descendants id) := by
  refine .bind (.of_machine (listDescendants_proceeds id)) fun r => ?_
  rcases r with _ | children
  · exact .of_pure _
  · exact .of_pure _

theorem signalAll_leavesPipes {own : Descendant → Option Obstacle} {done failed : Int → Event}
    {f : Lifetime → Nat → Lifetime} (hdone : ∀ pid, (done pid).isOfPipes = false)
    (hfailed : ∀ pid, (failed pid).isOfPipes = false) (id : Nat) (children : List Nat) :
    Along LeavesPipes (signalAll (fun child => signalDescendant id child own done failed f) id
      children) :=
  signalAll_along record_leavesPipes
    (fun child => signalDescendant_leavesPipes hdone hfailed id child) id children

theorem awaitUntil_leavesPipes (id : Nat) (children : List Nat) (deadline : Time) (n : Nat) :
    Along LeavesPipes (awaitUntil id children deadline n) := by
  induction n with
  | zero => exact .of_throw _
  | succ n ih =>
    refine .bind .of_get fun h => .ite (.of_pure _) ?_
    exact .bind (.of_machine (pass_leavesPipes _)) fun _ => ih

theorem timeLeft_leavesPipes (deadline : Time) : Along LeavesPipes (timeLeft deadline) :=
  .bind .of_get fun _ => .of_pure _

theorem endServer_leavesPipes (id : Nat) (timeout : String) (deadline : Time) :
    Along LeavesPipes (endServer id timeout deadline) := by
  refine .bind (.of_machine (signal_leavesPipes (fun _ => rfl) id _)) fun _ => ?_
  refine .bind (timeLeft_leavesPipes _) fun limit => ?_
  refine .bind (.of_machine (waitFor_leavesPipes id limit)) fun inTime => .ite (.of_pure _) ?_
  refine .bind (record_leavesPipes _ _) fun _ => ?_
  refine .bind (.of_machine (signal_leavesPipes (fun _ => rfl) id _)) fun _ => ?_
  exact .bind (.of_machine (waitFor_leavesPipes id _)) fun _ => .of_pure _

/-- Ending a server and its descendants leaves the pipes as they are. -/
theorem endAll_leavesPipes (id : Nat) (timeout : String) (deadline : Time) :
    Along LeavesPipes (endAll id timeout deadline) := by
  refine .bind (descendants_along id) fun children => ?_
  refine .bind (signalAll_leavesPipes (fun _ => rfl) (fun _ => rfl) id children) fun _ => ?_
  refine .bind (endServer_leavesPipes id timeout deadline) fun inTime => ?_
  refine .bind (timeLeft_leavesPipes _) fun limit => ?_
  refine .bind (.bind .of_get fun _ => awaitUntil_leavesPipes id _ _ _) fun alive => ?_
  refine .ite (.of_pure _) (.bind (record_leavesPipes _ _) fun _ => ?_)
  exact .bind (signalAll_leavesPipes (fun _ => rfl) (fun _ => rfl) id alive) fun _ => .of_pure _

/-- The three pipes to a program are closed. -/
def closings (pid : Int) : List Event :=
  [.closePipe pid .input, .closePipe pid .output, .closePipe pid .error]

/-- A pipe is closed, and nothing else is done to pipes. -/
theorem closePipe_closes {pid : Int} (hpid : h.machine.pid? id = some pid) (pipe : Pipe) :
    ∃ m, closePipe id pipe h = (.ok (), { h with machine := m }) ∧
      m.pipeEvents = h.machine.pipeEvents ++ [.closePipe pid pipe] ∧
      m.started = h.machine.started :=
  ⟨_, closePipe_apply id pipe h, MachineAction.closePipe_pipeEvents hpid pipe⟩

theorem closeOutputs_closes {pid : Int} (hpid : h.machine.pid? id = some pid) (inTime : Bool) :
    (closeOutputs id inTime h).2.machine.pipeEvents = h.machine.pipeEvents ++
        [.closePipe pid .output, .closePipe pid .error] ∧
      (closeOutputs id inTime h).2.machine.started = h.machine.started := by
  obtain ⟨m₁, hclose₁, hpipes₁, hstarted₁⟩ := closePipe_closes hpid .output
  have hpid₁ : m₁.pid? id = some pid := by
    rw [← hpid, World.pid?, hstarted₁]
    rfl
  obtain ⟨m₂, hclose₂, hpipes₂, hstarted₂⟩ :=
    closePipe_closes (h := { h with machine := m₁ }) hpid₁ .error
  unfold closeOutputs
  rw [bind_of_ok hclose₁, bind_of_ok hclose₂]
  refine ⟨?_, hstarted₂.trans hstarted₁⟩
  show m₂.pipeEvents = _
  rw [hpipes₂, hpipes₁, List.append_assoc]
  rfl

/-- A stop that ends closes all pipes to the server. -/
theorem shutDown_closes {pid : Int} (hpid : h.machine.pid? id = some pid) {timeout : String}
    {isAlive inTime : Bool} {deadline : Time}
    (hends : shutDown id timeout isAlive deadline h = (.ok inTime, h')) :
    h'.machine.pipeEvents = h.machine.pipeEvents ++ closings pid ∧
      h'.machine.started.map (·.pid) = h.machine.started.map (·.pid) := by
  obtain ⟨m₁, hclose₁, hpipes₁, hstarted₁⟩ := closePipe_closes hpid .input
  unfold shutDown at hends
  rw [bind_of_ok hclose₁] at hends
  -- Between its input and its outputs the program is ended, if it still runs.
  obtain ⟨b, h₂, hleaves, hrest⟩ : ∃ b h₂, m₁.LeavesPipes h₂.machine.toWorld ∧
      closeOutputs id b h₂ = (.ok inTime, h') := by
    cases isAlive with
    | false => exact ⟨true, _, .refl _, hends⟩
    | true =>
      obtain ⟨b, h₂, hend, hrest⟩ := bind_eq_ok.mp hends
      have hleads := (endAll_leavesPipes id timeout deadline { h with machine := m₁ }).1
      rw [hend] at hleads
      exact ⟨b, h₂, hleads.leavesPipes, hrest⟩
  have hpids : h₂.machine.started.map (·.pid) = h.machine.started.map (·.pid) := by
    rw [hleaves.pids, hstarted₁]
  have hpid₂ : h₂.machine.pid? id = some pid := (World.pid?_eq hpids id).trans hpid
  obtain ⟨hpipes, hstarted⟩ := closeOutputs_closes hpid₂ b
  rw [hrest] at hpipes hstarted
  refine ⟨?_, by rw [hstarted, hpids]⟩
  rw [hpipes, hleaves.pipeEvents, hpipes₁, List.append_assoc]
  rfl

theorem stop_closes {timeout : Value} {inTime : Bool} {pid : Int}
    (hserver : h.session.server = some id) (hpid : h.machine.pid? id = some pid)
    (hstop : stop timeout h = (.ok inTime, h')) :
    h'.machine.pipeEvents = h.machine.pipeEvents ++ closings pid ∧
      h'.machine.started.map (·.pid) = h.machine.started.map (·.pid) := by
  obtain ⟨seconds, hseconds⟩ := secondsOf_of_stop hstop (by rw [hserver]; nofun)
  rw [stop_apply hserver hseconds] at hstop
  exact shutDown_closes (h := { h with session := { h.session with server := none } }) hpid hstop

/-! ## What is started -/

/-- While a server is stopped, no program is started. -/
theorem shutDown_starts (id : Nat) (timeout : String) (isAlive : Bool) (deadline : Time) :
    Along (fun w w' => w'.starts = w.starts) (shutDown id timeout isAlive deadline) := by
  have hclose : ∀ pipe, Along (fun w w' => w'.starts = w.starts) (closePipe id pipe) := by
    intro pipe h
    rw [closePipe_apply]
    exact ⟨MachineAction.closePipe_starts id pipe h.machine, rfl⟩
  have hrecord : ∀ message, Along (fun w w' => w'.starts = w.starts) (record .info message) :=
    fun message => (record_leavesPipes .info message).mono fun _ _ h =>
      starts_of_pipeEvents h.pipeEvents
  have houtputs : ∀ b, Along (fun w w' => w'.starts = w.starts) (closeOutputs id b) := fun b =>
    .bind (hclose _) fun _ => .bind (hclose _) fun _ => .bind .of_get fun _ =>
      .bind (hrecord _) fun _ => .of_pure _
  have hend := (endAll_leavesPipes id timeout deadline).mono fun _ _ h =>
    starts_of_pipeEvents h.pipeEvents
  exact .bind (hclose _) fun _ => .ite (.bind hend houtputs) (houtputs true)

theorem stop_starts (timeout : Value) (h : Host) :
    (stop timeout h).2.machine.starts = h.machine.starts := by
  rcases hserver : h.session.server with _ | id
  · rw [stop_of_none hserver]
  rcases hseconds : secondsOf timeout with e | seconds
  · rw [stop_of_unreadable hseconds hserver]
  rw [stop_apply hserver hseconds]
  set h₀ : Host := { h with session := { h.session with server := none } }
  have hleads := (shutDown_starts id (shownTimeout timeout) (h.machine.isAlive id)
    (h.machine.arithmetic.plus h.machine.time (.ofSeconds seconds)) h₀).1
  exact hleads.keeps (S := fun w w' => w'.starts = w.starts) (fun _ => rfl)
    (fun _ _ _ h h' => h'.trans h) fun _ _ h => h

/-- A call for a start that fails leaves the session its server and starts no program. -/
theorem start_of_error {e : Fault} (hstart : start h = (.error e, h')) :
    h'.machine.pipeEvents = h.machine.pipeEvents ∧ h'.machine.started = h.machine.started ∧
      h'.session.server = h.session.server := by
  obtain ⟨hleads, hserver⟩ := launchInfo_spares h
  have hspares := hleads.spares
  have hgoes := start_goes h
  rw [hstart] at hgoes
  cases hgoes with
  | running => exact ⟨rfl, rfl, rfl⟩
  | lacking => exact ⟨rfl, rfl, rfl⟩
  | unlaunched _ _ _ _ hlaunch =>
    rw [hlaunch] at hspares hserver
    exact ⟨hspares.pipeEvents, hspares.started, hserver⟩
  | unstarted _ _ h₁ _ _ _ hlaunch _ hevents hstarted =>
    rw [hlaunch] at hspares hserver
    refine ⟨?_, hstarted.trans hspares.started, hserver⟩
    rw [World.pipeEvents, hevents]
    exact hspares.pipeEvents

/-- A call for a start that succeeds starts what the session keeps, and holds that program. -/
theorem start_of_ok {id : Nat} (hstart : start h = (.ok id, h')) :
    isRunningOn h = false ∧ id = h.machine.started.length ∧ h'.session.server = some id ∧
      ∃ s info, h'.session.launch = some info ∧ h'.machine.started = h.machine.started ++ [s] ∧
        h'.machine.pipeEvents = h.machine.pipeEvents ++
          [.start s.pid info.commandLine info.directory info.environment] := by
  have hspares := (launchInfo_spares h).1.spares
  have hgoes := start_goes h
  rw [hstart] at hgoes
  cases hgoes with
  | started info h₁ s m hidle _ hlaunch _ hevents hstarted =>
    have hkept := launch_of_launchInfo hlaunch
    rw [hlaunch] at hspares
    refine ⟨hidle, congrArg List.length hspares.started, rfl, s, info, hkept, ?_, ?_⟩
    · rw [hstarted, hspares.started]
    · show m.events.filter Event.isOfPipes = _
      rw [hevents, List.filter_append]
      exact congrArg (· ++ _) hspares.pipeEvents

end Session

end ServerLauncher
