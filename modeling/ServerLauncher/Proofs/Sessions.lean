import ServerLauncher.Proofs.Integrity
import ServerLauncher.Proofs.Stopping

/-!
# Programs in the calls of a session

Of all calls only that for a start adds a program to those that run, and it does so only when the
session holds none that runs.  Only stopping gives a program up that runs; if it ends, the program
has ended.  A call for a stop that is given no number of seconds gives it up all the same, and does
nothing to it.

## Main definitions

* `World.Adds`, `World.RunsOnly`, `World.RunsOne`: which programs run.
* `SessionAction.Along`: an action that leaves the session its server.

## Main statements

* `Session.start_cases`, `Session.stop_adds`, `Session.stop_eq_ok`: what becomes of the programs
  in a call.
* `Session.stop_of_unreadable`: a call for a stop without a number of seconds.
-/

namespace ServerLauncher

open ServerLauncher.Action MachineAction World

/-! ## The programs that run -/

namespace World

variable {w w' w'' : World} {o : Option Nat} {own own' : Set Nat}

/-- Apart from one, no program runs that has not been running. -/
structure Adds (o : Option Nat) (w w' : World) : Prop where
  length : w.started.length ≤ w'.started.length
  runs : ∀ j, w'.Runs j → w.Runs j ∨ o = some j

/-- Of some programs, none runs but the given one. -/
def RunsOnly (own : Set Nat) (o : Option Nat) (w : World) : Prop :=
  ∀ j ∈ own, w.Runs j → o = some j

/-- At most one of some programs runs. -/
def RunsOne (own : Set Nat) (w : World) : Prop :=
  ∀ i ∈ own, ∀ j ∈ own, w.Runs i → w.Runs j → i = j

theorem Adds.refl (o : Option Nat) (w : World) : w.Adds o w := ⟨Nat.le_refl _, fun _ h => .inl h⟩

theorem Adds.trans (h : w.Adds o w') (h' : w'.Adds o w'') : w.Adds o w'' := by
  refine ⟨h.length.trans h'.length, fun j hj => ?_⟩
  rcases h'.runs j hj with hj | hj
  · exact h.runs j hj
  · exact .inr hj

/-- If none is added, every program that runs has been running. -/
theorem Adds.runs_of_none (h : w.Adds none w') {j : Nat} (hj : w'.Runs j) : w.Runs j :=
  (h.runs j hj).resolve_right nofun

theorem Spares.adds (h : w.Spares w') (o : Option Nat) : w.Adds o w' := by
  refine ⟨Nat.le_of_eq (congrArg List.length h.started.symm), fun j ⟨s, hs, hgoes⟩ => ?_⟩
  rw [h.started] at hs
  exact .inl ⟨s, hs, fun hended => hgoes (Lifetime.hasEnded_of_le hended h.now)⟩

theorem Tends.adds {id : Nat} (h : w.Tends id w') (o : Option Nat) : w.Adds o w' :=
  ⟨Nat.le_of_eq h.length.symm, fun _ hj => .inl (h.runs hj)⟩

/-- A program is added at the end of the list. -/
theorem adds_push (s : Started) :
    w.Adds (some w.started.length) { w with started := w.started ++ [s] } := by
  refine ⟨by simp, fun j ⟨s', hs', hgoes⟩ => ?_⟩
  have hlt : j < (w.started ++ [s]).length := (List.getElem?_eq_some_iff.mp hs').1
  rw [List.length_append, List.length_singleton] at hlt
  by_cases hj : j < w.started.length
  · exact .inl ⟨s', (List.getElem?_append_left hj).symm.trans hs', hgoes⟩
  · exact .inr (congrArg some (by omega))

theorem RunsOnly.adds (h : w.RunsOnly own o) (hadds : w.Adds o w') : w'.RunsOnly own o := by
  intro j hown hj
  rcases hadds.runs j hj with hj | hj
  · exact h j hown hj
  · exact hj

theorem RunsOnly.anti (h : w.RunsOnly own o) (hsubset : own' ⊆ own) : w.RunsOnly own' o :=
  fun j hown => h j (hsubset hown)

theorem RunsOnly.runsOne (h : w.RunsOnly own o) : w.RunsOne own := fun i hi j hj hiruns hjruns =>
  Option.some_inj.mp ((h i hi hiruns).symm.trans (h j hj hjruns))

theorem RunsOne.adds (h : w.RunsOne own) (hadds : w.Adds none w') : w'.RunsOne own := by
  intro i hi j hj hiruns hjruns
  exact h i hi j hj (hadds.runs_of_none hiruns) (hadds.runs_of_none hjruns)

theorem RunsOne.anti (h : w.RunsOne own) (hsubset : own' ⊆ own) : w.RunsOne own' :=
  fun i hi j hj => h i (hsubset hi) j (hsubset hj)

end World

namespace Machine.Leads

variable {m m' : Machine} {o : Option Nat} {w : World}

theorem adds (h : m.Leads (Adds o) m') : m.toWorld.Adds o m'.toWorld :=
  h.keeps (.refl o) (fun _ _ _ => .trans) fun _ _ h => h

theorem adds_of_mem (h : m.Leads (Adds o) m') (hw : w ∈ m.momentsSince m') :
    m.toWorld.Adds o w := by
  obtain ⟨n, hn, -, rfl⟩ := h.of_mem_momentsSince hw
  exact hn.adds

end Machine.Leads

/-! ## Starting a program -/

/-- A program is started, which can be seen, or nothing happens to programs. -/
theorem MachineAction.start_cases (command : List String) (directory : String)
    (environment : Environment) (m : Machine) :
    (∃ e m', start command directory environment m = (.error e, m') ∧ m.Leads Spares m' ∧
      m'.files = m.files ∧ m'.events = m.events) ∨
    ∃ s m', start command directory environment m = (.ok m.started.length, m') ∧
      m.Leads (Adds (some m.started.length)) m' ∧ m'.started = m.started ++ [s] ∧
      m'.files = m.files ∧
      m'.events = m.events ++ [.start s.pid command directory environment] := by
  have hplans : ∀ plans, m.Leads Spares { m.onward with plans } := fun plans =>
    .step rfl ⟨Nat.le_refl _, rfl, rfl⟩
  unfold start
  rw [observe_bind_apply]
  rcases m.plans with _ | ⟨errno | s, plans⟩
  · exact .inl ⟨_, m, rfl, .refl m, rfl, rfl⟩
  · exact .inl ⟨_, _, rfl, hplans plans, rfl, rfl⟩
  · have hadd : ({ m.onward with plans } : Machine).Leads (Adds (some m.started.length))
        { ({ m.onward with plans } : Machine).onward with
          started := m.started ++ [s.startedAt m.now] } :=
      .step rfl (adds_push (w := { m.toWorld with plans }) (s.startedAt m.now))
    have hevent : ∀ (m₁ : Machine) (e : Event),
        m₁.Leads (Adds (some m.started.length)) (event e m₁).2 := fun m₁ e =>
      .step rfl ⟨Nat.le_refl _, fun _ hj => .inl hj⟩
    have hplans' := (hplans plans).mono fun _ _ h => h.adds (some m.started.length)
    exact .inr ⟨s.startedAt m.now, _, rfl, hplans'.trans (hadd.trans (hevent _ _)), rfl, rfl, rfl⟩

/-! ## Actions that leave the session its server -/

namespace SessionAction

variable {α β : Type} {R S : World → World → Prop} {h h' : Host}

/-- An action goes on by steps of a given kind and leaves the session its server. -/
def Along (R : World → World → Prop) (x : SessionAction α) : Prop :=
  ∀ h, h.machine.Leads R (x h).2.machine ∧ (x h).2.session.server = h.session.server

namespace Along

variable {x y : SessionAction α}

theorem of_pure (a : α) : Along R (pure a : SessionAction α) := fun _ => ⟨.refl _, rfl⟩

theorem of_throw (e : Fault) : Along R (throw e : SessionAction α) := fun _ => ⟨.refl _, rfl⟩

theorem of_get : Along R (MonadState.get : SessionAction Host) := fun _ => ⟨.refl _, rfl⟩

theorem of_settle (r : Except Fault α) : Along R (settle r) := fun _ => ⟨.refl _, rfl⟩

theorem of_machine {x : MachineAction α} (hx : Proceeds R x) : Along R (onMachine x) :=
  fun h => ⟨hx h.machine, rfl⟩

theorem of_update {f : Session → Session} (hf : ∀ s, (f s).server = s.server) :
    Along R (update f) := fun h => ⟨.refl _, hf h.session⟩

theorem bind {f : α → SessionAction β} (hx : Along R x) (hf : ∀ a, Along R (f a)) :
    Along R (x >>= f) := by
  intro h
  obtain ⟨hleads, hserver⟩ := hx h
  refine bind_ends (P := fun r : Except Fault β × Host =>
    h.machine.Leads R r.2.machine ∧ r.2.session.server = h.session.server)
    (fun e h' hh' => ?_) fun a h' hh' => ?_
  · rw [hh'] at hleads hserver
    exact ⟨hleads, hserver⟩
  · rw [hh'] at hleads hserver
    obtain ⟨hleads', hserver'⟩ := hf a h'
    exact ⟨hleads.trans hleads', hserver'.trans hserver⟩

theorem ite {p : Prop} [Decidable p] (hx : Along R x) (hy : Along R y) :
    Along R (if p then x else y) := by
  split
  · exact hx
  · exact hy

theorem mono (hx : Along R x) (hRS : ∀ w w', R w w' → S w w') : Along S x := fun h =>
  ⟨(hx h).1.mono hRS, (hx h).2⟩

end Along

theorem record_spares (level : Level) (message : String) :
    Along World.Spares (record level message) :=
  .of_machine (.of_change (fun _ => rfl) fun _ => ⟨Nat.le_refl _, rfl, rfl⟩)

end SessionAction

namespace Session

open SessionAction

variable {h : Host}

/-- Finding out how to launch the server does nothing to programs. -/
theorem launchInfo_spares : Along World.Spares launchInfo := by
  refine .bind .of_get fun h => ?_
  dsimp only
  split
  · exact .of_pure _
  · refine .bind (.of_machine (h.session.acquirer.acquire_spares h.session.config none))
      fun acquisition => ?_
    refine .bind (.of_update fun _ => rfl) fun _ => .bind .of_get fun h' => ?_
    refine .bind (record_spares _ _) fun _ => .bind (record_spares _ _) fun _ => ?_
    refine .bind (record_spares _ _) fun _ => .bind (.of_settle _) fun extra => ?_
    exact .bind (.of_update fun _ => rfl) fun _ => .of_pure _

theorem verifyOverride_spares (a : Acquirer) (config : Config) :
    Proceeds World.Spares (a.verifyOverride config) := by
  refine .bind (.of_observe _) fun override => ?_
  rcases override with _ | path
  · exact .of_pure _
  · exact .bind (.of_observe _) fun isThere => .ite (.of_throw _) (.of_pure _)

/-- How a call for a start ends if the session holds no running server. -/
inductive Starts (h : Host) : Except Fault Nat × Host → Prop where
  | failed (e : Fault) (h' : Host) (hspares : h.machine.Leads World.Spares h'.machine)
      (hserver : h'.session.server = h.session.server) : Starts h (.error e, h')
  | started (id : Nat) (h' : Host) (hnew : h.machine.started.length ≤ id)
      (hthere : id < h'.machine.started.length)
      (hadds : h.machine.Leads (Adds (some id)) h'.machine)
      (hserver : h'.session.server = some id) : Starts h (.ok id, h')

theorem Starts.bind {α : Type} {x : SessionAction α} {f : α → SessionAction Nat}
    (hx : Along World.Spares x) (hf : ∀ a h', Starts h' (f a h')) (h : Host) :
    Starts h ((x >>= f) h) := by
  obtain ⟨hleads, hserver⟩ := hx h
  refine bind_ends (fun e h' hh' => ?_) fun a h' hh' => ?_
  · rw [hh'] at hleads hserver
    exact .failed e h' hleads hserver
  · rw [hh'] at hleads hserver
    have hrest := hf a h'
    generalize f a h' = r at hrest ⊢
    cases hrest with
    | failed e h'' hspares hserver' =>
      exact .failed e h'' (hleads.trans hspares) (hserver'.trans hserver)
    | started id h'' hnew hthere hadds hserver' =>
      have hadds' : h.machine.Leads (Adds (some id)) h'.machine := hleads.mono fun _ _ h => h.adds _
      exact .started id h'' (hadds'.adds.length.trans hnew) hthere (hadds'.trans hadds) hserver'

/-- The session holds the program that has been started last. -/
theorem starts_launched (command : List String) (directory : String) (environment : Environment)
    (h : Host) : Starts h ((onMachine (.start command directory environment) >>= fun id => do
      update fun s => { s with server := some id }
      return id) h) := by
  rcases MachineAction.start_cases command directory environment h.machine with
    ⟨e, m, hm, hspares, -⟩ | ⟨s, m, hm, hadds, hstarted, -⟩
  · have hstart : onMachine (.start command directory environment) h =
        (.error e, { h with machine := m }) := by rw [onMachine_apply, hm]
    rw [bind_of_error hstart]
    exact .failed e _ hspares rfl
  · have hstart : onMachine (.start command directory environment) h =
        (.ok h.machine.started.length, { h with machine := m }) := by rw [onMachine_apply, hm]
    rw [bind_of_ok hstart]
    have hthere : h.machine.started.length < m.started.length := by
      rw [hstarted, List.length_append, List.length_singleton]
      exact Nat.lt_succ_self _
    exact .started _ _ (Nat.le_refl _) hthere hadds rfl

/-- A call for a start fails at once if the session holds a running server.  Otherwise a server is
started, which the session then holds, or nothing happens to programs. -/
theorem start_cases (h : Host) :
    (isRunningOn h ∧ start h = (.error (.alreadyRunning h.session.workspaceRoot), h)) ∨
      isRunningOn h = false ∧ Starts h (start h) := by
  unfold start
  rw [get_bind_apply, bind_of_ok (show isRunning h = (.ok (isRunningOn h), h) from rfl)]
  by_cases hrunning : isRunningOn h
  · rw [if_pos hrunning]
    exact .inl ⟨hrunning, rfl⟩
  · rw [if_neg hrunning]
    refine .inr ⟨Bool.eq_false_of_not_eq_true hrunning, ?_⟩
    refine Starts.bind (.of_machine (verifyOverride_spares _ _)) (fun _ => ?_) h
    refine Starts.bind launchInfo_spares fun info => ?_
    exact Starts.bind (record_spares _ _) fun _ => starts_launched _ _ _

/-! ## Stopping -/

theorem stop_of_none (hserver : h.session.server = none) (timeout : Value) :
    stop timeout h = (.ok true, h) := by
  unfold stop
  rw [get_bind_apply]
  simp only [hserver]
  rfl

/-- A call for a stop deals with the server that the session holds, which the session gives up.  If
the call ends, the server has ended. -/
theorem stop_deals {timeout : Value} {seconds : Double} (hseconds : secondsOf timeout = .ok seconds)
    {id : Nat} (hserver : h.session.server = some id) :
    ∃ gs, Host.Deals id gs { h with session := { h.session with server := none } }
        (stop timeout h).2 ∧
      ((stop timeout h).1 = .error .stuck ∨ (∃ inTime, (stop timeout h).1 = .ok inTime) ∧
        (stop timeout h).2.machine.isAlive id = false) := by
  rw [stop_apply hserver hseconds]
  set deadline := h.machine.arithmetic.plus h.machine.time (.ofSeconds seconds)
  set h₀ : Host := { h with session := { h.session with server := none } }
  have hends : Settles id deadline
      (shutDown id (shownTimeout timeout) (h.machine.isAlive id) deadline) h₀ _ :=
    shutDown_ends id _ deadline h₀
  rcases hends with ⟨inTime, gs, h', hresult, hdeals, hended⟩ | ⟨gs, h', hresult, hdeals, -⟩
  · rw [hresult]
    exact ⟨gs, hdeals, .inr ⟨⟨inTime, rfl⟩, hended⟩⟩
  · rw [hresult]
    exact ⟨gs, hdeals, .inl rfl⟩

/-- A timeout that is no number of seconds lets the session give up its server, and nothing is done
to that. -/
theorem stop_of_unreadable {timeout : Value} {e : Fault} (hseconds : secondsOf timeout = .error e)
    {id : Nat} (hserver : h.session.server = some id) :
    stop timeout h = (.error e, { h with session := { h.session with server := none } }) := by
  unfold stop
  rw [get_bind_apply]
  simp only [hserver, hseconds]
  rfl

/-- Nothing else changes in the session. -/
theorem stop_session (timeout : Value) (h : Host) :
    (stop timeout h).2.session = { h.session with server := none } := by
  rcases hserver : h.session.server with _ | id
  · rw [stop_of_none hserver, ← hserver]
  · rcases hseconds : secondsOf timeout with e | seconds
    · rw [stop_of_unreadable hseconds hserver]
    · obtain ⟨gs, hdeals, -⟩ := stop_deals hseconds hserver
      exact hdeals.session

/-- No program starts in a call for a stop. -/
theorem stop_adds (timeout : Value) (h : Host) :
    h.machine.Leads (Adds none) (stop timeout h).2.machine := by
  rcases hserver : h.session.server with _ | id
  · rw [stop_of_none hserver]
    exact .refl _
  · rcases hseconds : secondsOf timeout with e | seconds
    · rw [stop_of_unreadable hseconds hserver]
      exact .refl _
    · obtain ⟨gs, hdeals, -⟩ := stop_deals hseconds hserver
      exact hdeals.machine.leads.mono fun _ _ htends => htends.adds none

/-- When a call for a stop ends that is given a number of seconds, the server that the session held
has ended. -/
theorem stop_cases {timeout : Value} {seconds : Double}
    (hseconds : secondsOf timeout = .ok seconds) (h : Host) :
    (stop timeout h).1 = .error .stuck ∨ (∃ inTime, (stop timeout h).1 = .ok inTime) ∧
      (stop timeout h).2.session.server = none ∧
      ∀ id, h.session.server = some id → (stop timeout h).2.machine.isAlive id = false := by
  rcases hserver : h.session.server with _ | id
  · rw [stop_of_none hserver]
    exact .inr ⟨⟨true, rfl⟩, hserver, nofun⟩
  · obtain ⟨gs, hdeals, hends⟩ := stop_deals hseconds hserver
    refine hends.imp_right fun ⟨hok, hended⟩ => ⟨hok, by rw [hdeals.session], ?_⟩
    rintro _ ⟨⟩
    exact hended

/-- A call for a stop has a result only if it is given a number of seconds, or has nothing to
do. -/
theorem secondsOf_of_stop {timeout : Value} {inTime : Bool} {h' : Host}
    (hstop : stop timeout h = (.ok inTime, h')) (hserver : h.session.server ≠ none) :
    ∃ seconds, secondsOf timeout = .ok seconds := by
  obtain ⟨id, hid⟩ := Option.ne_none_iff_exists'.mp hserver
  rcases hseconds : secondsOf timeout with e | seconds
  · rw [stop_of_unreadable hseconds hid] at hstop
    cases hstop
  · exact ⟨seconds, rfl⟩

/-- A call for a stop that ends leaves the session without a server, and another one has nothing to
do. -/
theorem stop_eq_ok {timeout : Value} {inTime : Bool} {h' : Host}
    (hstop : stop timeout h = (.ok inTime, h')) :
    h'.session.server = none ∧
      (∀ id, h.session.server = some id → h'.machine.isAlive id = false) ∧
      isRunningOn h' = false ∧ ∀ timeout', stop timeout' h' = (.ok true, h') := by
  have hended : h'.session.server = none ∧
      ∀ id, h.session.server = some id → h'.machine.isAlive id = false := by
    by_cases hserver : h.session.server = none
    · rw [stop_of_none hserver] at hstop
      cases hstop
      exact ⟨hserver, fun id hid => nomatch hserver.symm.trans hid⟩
    · obtain ⟨seconds, hseconds⟩ := secondsOf_of_stop hstop hserver
      have hcases := stop_cases hseconds h
      rw [hstop] at hcases
      exact (hcases.resolve_left nofun).2
  refine ⟨hended.1, hended.2, ?_, stop_of_none hended.1⟩
  unfold isRunningOn
  rw [hended.1]

end Session

end ServerLauncher
