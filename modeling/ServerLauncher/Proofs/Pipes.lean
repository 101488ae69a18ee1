import Mathlib.Data.List.Count
import ServerLauncher.Proofs.Turns

/-!
# The pipes to the servers of a session

Each start opens three pipes to a program, and who gives the program up has to close them.  A stop
does so, whether the program runs, has ended by itself or has broken its pipes.  A start does not:
if the server of the session has ended by itself, a start replaces it and leaves its pipes open.
Neither does a stop whose timeout is no number of seconds.

## Main definitions

* `Session.Turn.closed`, `Session.Turn.replaced`, `Session.Turn.dropped`: the ways in which a
  session gives up a server.
* `Session.Turn.Passes`, `Session.Passing`: calls return, and others leave the pipes alone.
* `Session.Accounts`: where the programs are that a session has started.

## Main statements

* `Session.Accounts.run`: every program that was started is the server, or it has been given up
  once.
* `Session.pipes_of_servers`: after a stop exactly the pipes are closed to those that were stopped.
* `Session.pipes_of_replaced`: the pipes to a server that was replaced are never closed.
-/

namespace ServerLauncher

open ServerLauncher.Action MachineAction World

namespace Session

open SessionAction

/-! ## Giving up a server -/

/-- The server to which a stop closes the pipes. -/
def Turn.closed : Turn → Host → List Nat
  | .stop timeout, h => if (Session.stop timeout h).1.isOk then h.session.server.toList else []
  | _, _ => []

/-- The server that a start replaces. -/
def Turn.replaced : Turn → Host → List Nat
  | .start, h => if (Session.start h).1.isOk then h.session.server.toList else []
  | _, _ => []

/-- The server that a stop gives up when it fails. -/
def Turn.dropped : Turn → Host → List Nat
  | .stop timeout, h => if (Session.stop timeout h).1.isOk then [] else h.session.server.toList
  | _, _ => []

/-- A stop returns, and others neither open nor close pipes to programs. -/
def Turn.Passes : Turn → Host → Prop
  | .stop timeout, h => (Session.stop timeout h).1 ≠ .error .stuck
  | .change g, h => h.machine.LeavesPipes (g h.machine).toWorld
  | _, _ => True

/-- All turns of a run pass. -/
def Passing : List Turn → Host → Prop
  | [], _ => True
  | t :: ts, h => t.Passes h ∧ Passing ts (t.after h)

theorem exists_pid? {w : World} {id : Nat} (hlt : id < w.started.length) :
    ∃ pid, w.pid? id = some pid := by
  unfold World.pid?
  rw [List.getElem?_eq_getElem hlt]
  exact ⟨_, rfl⟩

/-- Where the programs are that have been started since a host was another one. -/
structure Accounts (h₀ : Host) (closed replaced dropped : List Nat) (h : Host) : Prop where
  grows : h₀.machine.started.length ≤ h.machine.started.length
  /-- Every program is the server of the session, or has been given up in one of three ways. -/
  programs : (closed ++ replaced ++ dropped ++ h.session.server.toList).Perm
    (List.range' h₀.machine.started.length
      (h.machine.started.length - h₀.machine.started.length))
  /-- The pipes are closed to those that have been stopped. -/
  closings : h.machine.closings = h₀.machine.closings ++
    (closed.filterMap h.machine.pid?).flatMap Session.closings

namespace Accounts

variable {h₀ h h' : Host} {closed replaced dropped : List Nat}

/-- A session that holds no server has no program to account for. -/
theorem of_new (hnew : h.session.server = none) : Accounts h [] [] [] h := by
  refine ⟨Nat.le_refl _, ?_, (List.append_nil _).symm⟩
  rw [hnew, Nat.sub_self]
  exact .refl _

/-- Nothing happens to programs and pipes. -/
theorem of_leavesPipes (hh : Accounts h₀ closed replaced dropped h)
    (hleaves : h.machine.LeavesPipes h'.machine.toWorld)
    (hserver : h'.session.server = h.session.server) :
    Accounts h₀ closed replaced dropped h' := by
  have hlength : h'.machine.started.length = h.machine.started.length := by
    simpa using congrArg List.length hleaves.pids
  refine ⟨by rw [hlength]; exact hh.grows, ?_, ?_⟩
  · rw [hlength, hserver]
    exact hh.programs
  · rw [closings_eq, hleaves.pipeEvents, ← closings_eq, hh.closings,
      funext (pid?_eq hleaves.pids)]

/-- All these programs have been started. -/
theorem lt_length (hh : Accounts h₀ closed replaced dropped h) {id : Nat}
    (hid : id ∈ closed ++ replaced ++ dropped ++ h.session.server.toList) :
    id < h.machine.started.length := by
  rw [hh.programs.mem_iff, List.mem_range'_1] at hid
  omega

/-- A start that succeeds replaces the server, and nothing is done to the pipes of the old one. -/
theorem of_start (hh : Accounts h₀ closed replaced dropped h) {id : Nat}
    (hstart : Session.start h = (.ok id, h')) :
    Accounts h₀ closed (replaced ++ h.session.server.toList) dropped h' := by
  obtain ⟨-, hid, hserver, s, info, -, hstarted, hevents⟩ := start_of_ok hstart
  have hlength : h'.machine.started.length = h.machine.started.length + 1 := by
    rw [hstarted, List.length_append, List.length_singleton]
  have hgrows := hh.grows
  have hcount : h'.machine.started.length - h₀.machine.started.length =
      h.machine.started.length - h₀.machine.started.length + 1 := by omega
  refine ⟨by omega, ?_, ?_⟩
  · -- The new program is the last one of the row.
    have hlast : h₀.machine.started.length +
        (h.machine.started.length - h₀.machine.started.length) = id := by omega
    rw [hserver, hcount, List.range'_1_concat, hlast, List.perm_iff_count]
    intro j
    have hprograms := List.perm_iff_count.mp hh.programs j
    simp only [List.count_append, Option.toList_some] at hprograms ⊢
    omega
  · have hpids : ∀ j ∈ closed, h'.machine.pid? j = h.machine.pid? j := by
      intro j hj
      have hlt : j < h.machine.started.length := hh.lt_length (by simp [hj])
      unfold World.pid?
      rw [hstarted, List.getElem?_append_left hlt]
    have hclosings : h'.machine.closings = h.machine.closings := by
      rw [closings_eq, hevents, List.filter_append, ← closings_eq]
      exact List.append_nil _
    rw [hclosings, hh.closings, List.filterMap_congr hpids]

/-- A stop that ends closes the pipes to the server. -/
theorem of_stop (hh : Accounts h₀ closed replaced dropped h) {timeout : Value} {inTime : Bool}
    (hstop : Session.stop timeout h = (.ok inTime, h')) :
    Accounts h₀ (closed ++ h.session.server.toList) replaced dropped h' := by
  have hnone : h'.session.server = none := (stop_eq_ok hstop).1
  rcases hserver : h.session.server with _ | id
  · rw [stop_of_none hserver] at hstop
    cases hstop
    rw [Option.toList_none, List.append_nil]
    exact hh
  have hlt : id < h.machine.started.length := hh.lt_length (by simp [hserver])
  obtain ⟨pid, hpid⟩ := exists_pid? hlt
  obtain ⟨hevents, hpids⟩ := stop_closes hserver hpid hstop
  have hlength : h'.machine.started.length = h.machine.started.length := by
    simpa using congrArg List.length hpids
  refine ⟨by rw [hlength]; exact hh.grows, ?_, ?_⟩
  · rw [hlength, hnone, List.perm_iff_count]
    intro j
    have hprograms := List.perm_iff_count.mp hh.programs j
    rw [hserver] at hprograms
    simp only [List.count_append, Option.toList_some, Option.toList_none, List.count_nil]
      at hprograms ⊢
    omega
  · have hclosings : h'.machine.closings = h.machine.closings ++ Session.closings pid := by
      rw [closings_eq, hevents, List.filter_append, ← closings_eq]
      rfl
    have hone : [id].filterMap h.machine.pid? = [pid] := by simp [hpid]
    rw [hclosings, hh.closings, funext (pid?_eq hpids), List.append_assoc, List.filterMap_append,
      List.flatMap_append, Option.toList_some, hone, List.flatMap_singleton]

/-- A stop that fails gives up the server, and nothing is done to its pipes. -/
theorem of_failure (hh : Accounts h₀ closed replaced dropped h) {timeout : Value} {e : Fault}
    (hstop : Session.stop timeout h = (.error e, h')) (he : e ≠ .stuck) :
    Accounts h₀ closed replaced (dropped ++ h.session.server.toList) h' := by
  rcases hserver : h.session.server with _ | id
  · rw [stop_of_none hserver] at hstop
    cases hstop
  rcases hseconds : secondsOf timeout with e' | seconds
  · rw [stop_of_unreadable hseconds hserver] at hstop
    cases hstop
    refine ⟨hh.grows, ?_, hh.closings⟩
    have hprograms := hh.programs
    rw [hserver] at hprograms
    rw [← List.append_assoc]
    exact (List.append_nil _).symm ▸ hprograms
  · have hends := stop_cases hseconds h
    rw [hstop] at hends
    rcases hends with hstuck | ⟨⟨inTime, hok⟩, -⟩
    · exact absurd (Except.error.inj hstuck) he
    · cases hok

/-- Whatever is done in a turn, the programs stay accounted for. -/
theorem turn (hh : Accounts h₀ closed replaced dropped h) {t : Turn} (hpasses : t.Passes h) :
    Accounts h₀ (closed ++ t.closed h) (replaced ++ t.replaced h) (dropped ++ t.dropped h)
      (t.after h) := by
  cases t with
  | launchInfo =>
    simp only [Turn.closed, Turn.replaced, Turn.dropped, List.append_nil]
    exact hh.of_leavesPipes (launchInfo_spares h).1.spares.leavesPipes (launchInfo_spares h).2
  | start =>
    simp only [Turn.closed, Turn.replaced, Turn.dropped, Turn.after, List.append_nil]
    rcases hstart : Session.start h with ⟨e | id, h'⟩
    · obtain ⟨hevents, hstarted, hserver⟩ := start_of_error hstart
      have hleaves : h.machine.LeavesPipes h'.machine.toWorld := ⟨hevents, by rw [hstarted]⟩
      exact (List.append_nil replaced).symm ▸ hh.of_leavesPipes hleaves hserver
    · exact hh.of_start hstart
  | stop timeout =>
    have hends : (Session.stop timeout h).1 ≠ .error .stuck := hpasses
    simp only [Turn.closed, Turn.replaced, Turn.dropped, Turn.after, List.append_nil]
    rcases hstop : Session.stop timeout h with ⟨e | inTime, h'⟩
    · rw [hstop] at hends
      have hfails := hh.of_failure hstop fun he => hends (congrArg Except.error he)
      exact (List.append_nil closed).symm ▸ hfails
    · exact (List.append_nil dropped).symm ▸ hh.of_stop hstop
  | change g =>
    simp only [Turn.closed, Turn.replaced, Turn.dropped, List.append_nil]
    exact hh.of_leavesPipes hpasses rfl

theorem run (hh : Accounts h₀ closed replaced dropped h) {ts : List Turn}
    (hpasses : Passing ts h) :
    Accounts h₀ (closed ++ collect Turn.closed ts h) (replaced ++ collect Turn.replaced ts h)
      (dropped ++ collect Turn.dropped ts h) (Session.run ts h) := by
  induction ts generalizing closed replaced dropped h with
  | nil =>
    show Accounts h₀ (closed ++ []) (replaced ++ []) (dropped ++ []) h
    rw [List.append_nil, List.append_nil, List.append_nil]
    exact hh
  | cons t ts ih =>
    have hrest := ih (hh.turn hpasses.1) hpasses.2
    rw [List.append_assoc, List.append_assoc, List.append_assoc] at hrest
    exact hrest

/-- All pipes are closed to a program that has been stopped. -/
theorem mem_closings (hh : Accounts h₀ closed replaced dropped h) {id : Nat} (hid : id ∈ closed) :
    ∃ pid, h.machine.pid? id = some pid ∧ ∀ pipe, .closePipe pid pipe ∈ h.machine.closings := by
  have hlt : id < h.machine.started.length := hh.lt_length (by simp [hid])
  obtain ⟨pid, hpid⟩ := exists_pid? hlt
  refine ⟨pid, hpid, fun pipe => ?_⟩
  rw [hh.closings]
  refine List.mem_append_right _ (List.mem_flatMap.mpr ⟨pid, ?_, ?_⟩)
  · exact List.mem_filterMap.mpr ⟨id, hid, hpid⟩
  · cases pipe <;> simp [Session.closings]

/-- If the session holds no server, every program has been given up. -/
theorem programs_of_none (hh : Accounts h₀ closed replaced dropped h)
    (hnone : h.session.server = none) :
    (closed ++ (replaced ++ dropped)).Perm (List.range' h₀.machine.started.length
      (h.machine.started.length - h₀.machine.started.length)) := by
  have hprograms := hh.programs
  rw [hnone, Option.toList_none, List.append_nil, List.append_assoc] at hprograms
  exact hprograms

/-- Then all programs have been stopped if and only if none was given up in another way. -/
theorem all_closed_iff (hh : Accounts h₀ closed replaced dropped h)
    (hnone : h.session.server = none) :
    (∀ id ∈ List.range' h₀.machine.started.length
      (h.machine.started.length - h₀.machine.started.length), id ∈ closed) ↔
      replaced = [] ∧ dropped = [] := by
  have hprograms := hh.programs_of_none hnone
  constructor
  · intro hall
    -- No program has been given up twice.
    have hnodup : (closed ++ (replaced ++ dropped)).Nodup :=
      hprograms.nodup_iff.mpr List.nodup_range'
    have hempty : replaced ++ dropped = [] := by
      refine List.eq_nil_iff_forall_not_mem.mpr fun id hid => ?_
      have hclosed : id ∈ closed :=
        hall id (hprograms.mem_iff.mp (List.mem_append_right _ hid))
      exact (List.nodup_append.mp hnodup).2.2 id hclosed id hid rfl
    exact List.append_eq_nil_iff.mp hempty
  · rintro ⟨rfl, rfl⟩ id hid
    rw [← hprograms.mem_iff, List.append_nil, List.append_nil] at hid
    exact hid

end Accounts

/-- A server is replaced only after it has ended by itself. -/
theorem isAlive_of_replaced {t : Turn} {h : Host} {id : Nat} (hid : id ∈ t.replaced h) :
    h.machine.isAlive id = false := by
  cases t with
  | start =>
    change id ∈ (if (Session.start h).1.isOk then h.session.server.toList else []) at hid
    rcases hstart : Session.start h with ⟨e | id', h'⟩
    · rw [hstart] at hid
      cases hid
    · rw [hstart] at hid
      have hserver : h.session.server = some id := Option.mem_toList.mp hid
      have hidle := (start_of_ok hstart).1
      unfold isRunningOn at hidle
      rw [hserver] at hidle
      exact hidle
  | _ => cases hid

/-! ## The pipes after a stop -/

theorem passing_append {ts ts' : List Turn} {h : Host} :
    Passing (ts ++ ts') h ↔ Passing ts h ∧ Passing ts' (run ts h) := by
  induction ts generalizing h with
  | nil => exact ⟨fun hpasses => ⟨trivial, hpasses⟩, And.right⟩
  | cons t ts ih =>
    show t.Passes h ∧ Passing (ts ++ ts') (t.after h) ↔ (t.Passes h ∧ Passing ts (t.after h)) ∧ _
    rw [ih, and_assoc]
    rfl

/-- A session that holds no server is used, and at last a call for a stop returns.  Each program
that was started in between has been given up in one way, once: it has been stopped, and then all
its pipes have been closed, broken or not; or it has been replaced after it had ended by itself; or
a stop has failed.  No other pipes have been closed, so that the pipes of all programs are closed if
and only if none was replaced and no stop has failed. -/
theorem pipes_of_servers {h₀ h' : Host} {ts : List Turn} {timeout : Value} {inTime : Bool}
    (hnew : h₀.session.server = none) (hpasses : Passing ts h₀)
    (hstop : stop timeout (run ts h₀) = (.ok inTime, h')) :
    let all := ts ++ [.stop timeout]
    let closed := collect Turn.closed all h₀
    let replaced := collect Turn.replaced all h₀
    let dropped := collect Turn.dropped all h₀
    let programs := List.range' h₀.machine.started.length
      (h'.machine.started.length - h₀.machine.started.length)
    (closed ++ replaced ++ dropped).Perm programs ∧
    h'.machine.closings = h₀.machine.closings ++
      (closed.filterMap h'.machine.pid?).flatMap closings ∧
    (∀ id ∈ closed, ∃ pid, h'.machine.pid? id = some pid ∧
      ∀ pipe, .closePipe pid pipe ∈ h'.machine.closings) ∧
    ((∀ id ∈ programs, id ∈ closed) ↔ replaced = [] ∧ dropped = []) ∧
    (∀ ts₁ t ts₂, ts = ts₁ ++ t :: ts₂ → ∀ id ∈ t.replaced (run ts₁ h₀),
      (run ts₁ h₀).machine.isAlive id = false) := by
  intro all closed replaced dropped programs
  have hlast : run all h₀ = h' := by
    rw [run_concat]
    exact congrArg Prod.snd hstop
  have hpasses' : Passing all h₀ := by
    refine passing_append.mpr ⟨hpasses, ?_, trivial⟩
    show (stop timeout (run ts h₀)).1 ≠ .error .stuck
    rw [hstop]
    nofun
  have hh : Accounts h₀ closed replaced dropped h' := hlast ▸ (Accounts.of_new hnew).run hpasses'
  have hnone : h'.session.server = none := (stop_eq_ok hstop).1
  refine ⟨?_, hh.closings, fun id hid => hh.mem_closings hid, hh.all_closed_iff hnone,
    fun ts₁ t ts₂ _ id hid => isAlive_of_replaced hid⟩
  rw [List.append_assoc]
  exact hh.programs_of_none hnone

/-- A new session, on a machine on which the first program ends by itself after a while and has a
broken pipe. -/
def crashingHost : Host :=
  { machine :=
      { arithmetic := .exact
        plans := [.ok { pid := 7, lifetime := { exit := some ⟨10, 1⟩ }, brokenPipes := [.input] },
          .ok { pid := 8, lifetime := {} }] }
    session := { workspaceRoot := "/w", config := { downloadEnabled := false }
                 acquirer := { installDir := "/i", platform := none } } }

/-- The server is started, ends by itself and is started again; in between it is stopped or not. -/
def crashingTurns (stops : Bool) : List Turn :=
  [.start, .change fun m => { m with now := m.now + 10 }] ++
    (if stops then [.stop stopTimeout] else []) ++ [.start]

/-- If each server is stopped, all pipes are closed, also the broken one. -/
theorem pipes_of_servers_stopped :
    crashingHost.session.server = none ∧ Passing (crashingTurns true) crashingHost ∧
    ∃ inTime h', stop stopTimeout (run (crashingTurns true) crashingHost) = (.ok inTime, h') ∧
      h'.machine.started.map (·.pid) = [7, 8] ∧
      h'.machine.closings = closings 7 ++ closings 8 := by
  have hreturns : ∀ {r : Except Fault Bool × Host}, r.1.isOk →
      r.1 ≠ .error .stuck ∧ ∃ inTime h', r = (.ok inTime, h') := by
    rintro ⟨_ | inTime, h'⟩ hok
    · cases hok
    · exact ⟨nofun, inTime, h', rfl⟩
  have hpasses : Passing (crashingTurns true) crashingHost :=
    ⟨trivial, ⟨rfl, rfl⟩, (hreturns (by decide +kernel)).1, trivial, trivial⟩
  have hends : (stop stopTimeout (run (crashingTurns true) crashingHost)).1.isOk := by
    decide +kernel
  obtain ⟨-, inTime, h', hstop⟩ := hreturns hends
  obtain ⟨-, hclosings, -⟩ := pipes_of_servers rfl hpasses hstop
  have hh' : h' = (stop stopTimeout (run (crashingTurns true) crashingHost)).2 := by rw [hstop]
  refine ⟨rfl, hpasses, inTime, h', hstop, ?_, hclosings.trans ?_⟩
  · rw [hh']
    decide +kernel
  · rw [hh']
    decide +kernel

/-- If it is only started again, the pipes to the first server stay open. -/
theorem pipes_of_replaced :
    let r := stop stopTimeout (run (crashingTurns false) crashingHost)
    r.1.toOption = some true ∧ r.2.machine.started.map (·.pid) = [7, 8] ∧
      r.2.machine.closings = closings 8 := by
  decide +kernel

end Session

end ServerLauncher
