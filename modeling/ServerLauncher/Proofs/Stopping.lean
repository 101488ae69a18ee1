import ServerLauncher.Proofs.Programs
import ServerLauncher.Session.Stop

/-!
# Stopping the server

When the server is stopped, all its descendants and then the server itself are asked to end.  Which
of them are killed depends on two looks: the server is killed if it has not ended when the wait for
it is over, and those of its descendants are killed that seem to run when they are looked at for the
last time.  The deadline has come at each of these looks if there is anything to kill.

A wait whose time is never up may last for ever.  That cannot happen if times are computed exactly
and the deadline is finite, and only then does a wait certainly not end too early.

## Main definitions

* `Arithmetic.Comes`: a deadline is certain to come.
* `SessionAction.Settles`: what an action comes to that acts on one program, unless it lasts for
  ever.
* `Started.reported`, `Started.late`: the descendants that are listed, and those of them that seem
  to run.
* `Session.shutDown`: the part of stopping in which the session no longer holds its server.

## Main statements

* `Session.signalAll_settles`: each descendant that is there gets a signal.
* `Session.awaitUntil_settles`: the last look at the descendants.
* `Session.shutDown_settles`: all of it, whatever the deadline is.
* `Session.stop_kills_only_late`: what is killed, and that nothing else is touched.
-/

namespace ServerLauncher

open ServerLauncher.Action World

/-! ## Deadlines -/

/-- A deadline is certain to come: times are computed exactly, and it is finite. -/
def Arithmetic.Comes (a : Arithmetic) (deadline : Time) : Prop :=
  a = .exact ∧ ∃ ticks, deadline = .at ticks

namespace Arithmetic.Comes

variable {a : Arithmetic} {deadline : Time} {micros left : Nat}

/-- The time left until a deadline passes, and then the deadline has come. -/
theorem microsUntil? (h : a.Comes deadline) :
    (a.microsUntil? (a.minus deadline (a.ofMicros micros)).clamped).isSome := by
  obtain ⟨rfl, ticks, rfl⟩ := h
  rw [exact_clamped_minus]
  rfl

theorem reaches (h : a.Comes deadline)
    (hleft : a.microsUntil? (a.minus deadline (a.ofMicros micros)).clamped = some left) :
    (a.ofMicros (micros + left)).reaches deadline := by
  obtain ⟨rfl, ticks, rfl⟩ := h
  exact reaches_of_microsUntil? hleft

/-- A deadline that is set by the time left until another one is certain to come, too. -/
theorem plus (h : a.Comes deadline) (micros : Nat) : a.Comes (a.plus (a.ofMicros micros)
    (a.minus deadline (a.ofMicros micros)).clamped) := by
  obtain ⟨rfl, ticks, rfl⟩ := h
  rw [exact_clamped_minus]
  exact ⟨rfl, _, rfl⟩

theorem reaches_of_plus (h : a.Comes deadline) {micros' : Nat}
    (hreached : (a.ofMicros micros').reaches (a.plus (a.ofMicros micros)
      (a.minus deadline (a.ofMicros micros)).clamped)) :
    (a.ofMicros micros').reaches deadline := by
  obtain ⟨rfl, ticks, rfl⟩ := h
  exact reaches_of_reaches_plus hreached

/-- A deadline that is set by a finite number of seconds is certain to come. -/
theorem of_finite (micros : Nat) (negative : Bool) (quanta : Nat) :
    exact.Comes (exact.plus (exact.ofMicros micros) (.ofSeconds (.finite negative quanta))) :=
  ⟨rfl, _, rfl⟩

end Arithmetic.Comes

/-- The deadline comes before all looks have been taken. -/
theorem Session.reaches_of_pollsUntil {m : Machine} {id : Nat} {deadline : Time}
    (h : m.arithmetic.Comes deadline) : ∃ k, pollLimit m id deadline = k + 1 ∧
      (m.arithmetic.ofMicros (m.now + pollInterval * k)).reaches deadline := by
  obtain ⟨hexact, ticks, rfl⟩ := h
  refine ⟨(ticks.toNat / ticksPerMicro - m.now) / pollInterval + 2, rfl, ?_⟩
  rw [hexact, Arithmetic.exact_reaches]
  have hmicros : ticks.toNat / ticksPerMicro < m.now +
      pollInterval * ((ticks.toNat / ticksPerMicro - m.now) / pollInterval + 2) := by
    generalize ticks.toNat / ticksPerMicro = micros
    unfold pollInterval
    omega
  have hticks := (Nat.div_lt_iff_lt_mul ticksPerMicro_pos).mp hmicros
  omega

/-! ## Descendants -/

/-- Whether a descendant seems to run; it does if it cannot be looked at. -/
def Descendant.seemsRunning (d : Descendant) (now : Nat) : Bool :=
  match d.status now with
  | .ok .running => true
  | .ok .zombie => false
  | .error .gone => false
  | .error .denied => true

namespace Started

/-- The descendants of a program that are listed when it is asked for them. -/
def reported (s : Started) : List Descendant :=
  match s.inspectObstacle, s.listObstacle with
  | none, none => s.descendants
  | _, _ => []

/-- The listed descendants that seem to run. -/
def late (s : Started) (now : Nat) : List Descendant :=
  s.reported.filter (·.seemsRunning now)

theorem reported_cases (s : Started) : s.reported = s.descendants ∨ s.reported = [] := by
  unfold reported
  split
  · exact .inl rfl
  · exact .inr rfl

theorem map_range_reported (s : Started) :
    (List.range s.reported.length).map (s.descendants[·]?) = s.reported.map some := by
  rcases s.reported_cases with h | h
  · rw [h]
    refine List.ext_getElem (by simp) fun i hi _ => ?_
    have hlt : i < s.descendants.length := by simpa using hi
    simp [hlt]
  · rw [h]
    rfl

/-- The numbers of descendants that are known by their places. -/
theorem filterMap_pids {s : Started} {children : List Nat} {ds : List Descendant}
    (h : children.map (s.descendants[·]?) = ds.map some) :
    children.filterMap (s.pids[·]?) = ds.map (·.pid) := by
  have hpids : (s.pids[·]?) = Option.map Descendant.pid ∘ (s.descendants[·]?) :=
    funext fun i => List.getElem?_map
  rw [hpids, ← List.filterMap_map, h, List.filterMap_map]
  exact List.filterMap_eq_map ▸ rfl

theorem Precedes.reported_length {s s' : Started} {now now' : Nat} (h : s.Precedes now s' now') :
    s'.reported.length = s.reported.length := by
  have hlength := congrArg List.length h.descendants
  rw [List.length_map, List.length_map] at hlength
  unfold reported
  rw [h.inspectObstacle, h.listObstacle]
  split
  · exact hlength
  · rfl

end Started

namespace Session

variable {id : Nat} {m : Machine} {s : Started}

theorem seemsRunning_of_started (hs : m.started? id = some s) (child : Nat) :
    seemsRunning m id child = (s.descendants[child]?).any (·.seemsRunning m.now) := by
  unfold seemsRunning Machine.descendants
  rw [hs]
  rcases s.descendants[child]? with _ | d
  · rfl
  · rfl

/-- A look at the listed descendants. -/
theorem map_filter_seemsRunning (hs : m.started? id = some s) :
    ((List.range s.reported.length).filter (seemsRunning m id)).map (s.descendants[·]?) =
      (s.late m.now).map some := by
  have hlook : seemsRunning m id =
      Option.any (·.seemsRunning m.now) ∘ (s.descendants[·]?) :=
    funext fun child => seemsRunning_of_started hs child
  rw [hlook, ← List.filter_map, s.map_range_reported, List.filter_map]
  rfl

end Session

/-! ## Actions of a session -/

namespace SessionAction

variable {α β : Type} {h : Host}

@[simp] theorem onMachine_apply (x : MachineAction α) (h : Host) :
    onMachine x h = ((x h.machine).1, { h with machine := (x h.machine).2 }) := rfl

@[simp] theorem attempt_apply (x : SessionAction α) (h : Host) :
    attempt x h = (.ok (x h).1, (x h).2) := rfl

@[simp] theorem attempt_bind_apply (x : SessionAction α) (f : Except Fault α → SessionAction β)
    (h : Host) : (attempt x >>= f) h = f (x h).1 (x h).2 := rfl

@[simp] theorem update_apply (f : Session → Session) (h : Host) :
    update f h = (.ok (), { h with session := f h.session }) := rfl

@[simp] theorem settle_apply (r : Except Fault α) (h : Host) : settle r h = (r, h) := rfl

end SessionAction

/-- A host has gone on, sending some signals on behalf of one program, and the session is as it
was. -/
structure Host.Deals (id : Nat) (gs : List Signal) (h h' : Host) : Prop where
  machine : h.machine.Deals id gs h'.machine
  session : h'.session = h.session

/-- An action on behalf of one program has a result of which something holds, together with the
signals that it has sent and the host afterwards, or it lasts for ever, waiting for a deadline that
is not certain to come. -/
def SessionAction.Settles {α : Type} (id : Nat) (deadline : Time) (x : SessionAction α) (h : Host)
    (Q : α → List Signal → Host → Prop) : Prop :=
  (∃ a gs h', x h = (.ok a, h') ∧ h.Deals id gs h' ∧ Q a gs h') ∨
  ∃ gs h', x h = (.error .stuck, h') ∧ h.Deals id gs h' ∧ ¬ h.machine.arithmetic.Comes deadline

namespace Host.Deals

variable {id : Nat} {gs gs' : List Signal} {h h' h'' : Host}

theorem refl (id : Nat) (h : Host) : h.Deals id [] h := ⟨.refl id h.machine, rfl⟩

theorem trans (hd : h.Deals id gs h') (hd' : h'.Deals id gs' h'') : h.Deals id (gs ++ gs') h'' :=
  ⟨hd.machine.trans hd'.machine, hd'.session.trans hd.session⟩

theorem arithmetic (hd : h.Deals id gs h') : h'.machine.arithmetic = h.machine.arithmetic :=
  hd.machine.leads.tends.arithmetic

end Host.Deals

namespace SessionAction

variable {α β : Type} {id : Nat} {deadline : Time} {h h' : Host} {gs : List Signal}
  {Q : α → List Signal → Host → Prop} {Q' : β → List Signal → Host → Prop}

namespace Settles

theorem of_pure {a : α} (hQ : Q a [] h) : Settles id deadline (pure a) h Q :=
  .inl ⟨a, [], h, rfl, .refl id h, hQ⟩

theorem of_machine {x : MachineAction α} {a : α} {m : Machine} (hx : x h.machine = (.ok a, m))
    (hdeals : h.machine.Deals id gs m) (hQ : Q a gs { h with machine := m }) :
    Settles id deadline (onMachine x) h Q :=
  .inl ⟨a, gs, { h with machine := m }, by rw [onMachine_apply, hx], ⟨hdeals, rfl⟩, hQ⟩

theorem mono {x : SessionAction α} {Q₁ : α → List Signal → Host → Prop}
    (hx : Settles id deadline x h Q₁)
    (hQ : ∀ a gs h', h.Deals id gs h' → Q₁ a gs h' → Q a gs h') : Settles id deadline x h Q := by
  rcases hx with ⟨a, gs, h', hx, hdeals, hQ₁⟩ | hstuck
  · exact .inl ⟨a, gs, h', hx, hdeals, hQ a gs h' hdeals hQ₁⟩
  · exact .inr hstuck

/-- The parts of a sequence settle one after the other. -/
theorem bind {x : SessionAction α} {f : α → SessionAction β} (hx : Settles id deadline x h Q)
    (hf : ∀ a gs h', h.Deals id gs h' → Q a gs h' →
      Settles id deadline (f a) h' fun b gs' h'' => Q' b (gs ++ gs') h'') :
    Settles id deadline (x >>= f) h Q' := by
  rcases hx with ⟨a, gs, h', hx, hdeals, hQ⟩ | ⟨gs, h', hx, hdeals, hcomes⟩
  · rcases hf a gs h' hdeals hQ with ⟨b, gs', h'', hfa, hdeals', hQ'⟩ |
      ⟨gs', h'', hfa, hdeals', hcomes⟩
    · exact .inl ⟨b, gs ++ gs', h'', (bind_of_ok hx).trans hfa, hdeals.trans hdeals', hQ'⟩
    · rw [hdeals.arithmetic] at hcomes
      exact .inr ⟨gs ++ gs', h'', (bind_of_ok hx).trans hfa, hdeals.trans hdeals', hcomes⟩
  · exact .inr ⟨gs, h', bind_of_error hx, hdeals, hcomes⟩

/-- What is only looked at does not matter. -/
theorem after {x : SessionAction α} {f : α → SessionAction β} {a : α} (hx : x h = (.ok a, h))
    (hf : Settles id deadline (f a) h Q') : Settles id deadline (x >>= f) h Q' := by
  unfold Settles
  rw [bind_of_ok hx]
  exact hf

theorem ite {p : Prop} [Decidable p] {x y : SessionAction α}
    (hx : p → Settles id deadline x h Q) (hy : ¬ p → Settles id deadline y h Q) :
    Settles id deadline (if p then x else y) h Q := by
  by_cases hp : p
  · rw [if_pos hp]
    exact hx hp
  · rw [if_neg hp]
    exact hy hp

end Settles

theorem record_settles (level : Level) (message : String) (h : Host) :
    Settles id deadline (record level message) h fun _ gs h' =>
      gs = [] ∧ h'.machine.now = h.machine.now :=
  .of_machine rfl ((MachineAction.record_quiet level .session message h.machine).deals id)
    ⟨rfl, rfl⟩

end SessionAction

namespace Session

open SessionAction

variable {id : Nat} {deadline : Time} {h : Host} {s : Started}

/-- It does not matter whether closing a pipe fails. -/
theorem closePipe_apply (id : Nat) (pipe : Pipe) (h : Host) : closePipe id pipe h =
    (.ok (), { h with machine := (MachineAction.closePipe id pipe h.machine).2 }) := by
  unfold closePipe
  rw [attempt_bind_apply, onMachine_apply]
  dsimp only
  rcases hclose : (MachineAction.closePipe id pipe h.machine).1 with fault | _
  · exact congrFun (if_pos (MachineAction.closePipe_isSystem hclose)) _
  · rfl

/-- Closing a pipe takes no time. -/
theorem closePipe_settles (id : Nat) (pipe : Pipe) (h : Host) :
    Settles id deadline (closePipe id pipe) h fun _ gs h' =>
      gs = [] ∧ h'.machine.now = h.machine.now ∧ h'.machine.started = h.machine.started := by
  have hquiet := MachineAction.closePipe_quiet id pipe h.machine
  exact .inl ⟨(), [], _, closePipe_apply id pipe h, ⟨hquiet.deals id, rfl⟩, rfl,
    MachineAction.closePipe_now id pipe h.machine, hquiet.quiet.started⟩

/-! ## Signals -/

/-- Each descendant that is there gets a signal. -/
theorem signalAll_settles {signal : Nat → MachineAction (Except Obstacle Unit)}
    {sig : Int → Signal}
    (hsignal : ∀ (m : Machine) (s : Started), m.started? id = some s → ∀ child, ∃ r m',
      signal child m = (.ok r, m') ∧ m.Deals id ((s.pids[child]?).toList.map sig) m' ∧
        m'.now = m.now) (children : List Nat) :
    ∀ {h : Host} {s : Started}, h.machine.started? id = some s →
      Settles id deadline (signalAll signal id children) h fun _ gs h' =>
        gs = (children.filterMap (s.pids[·]?)).map sig ∧ h'.machine.now = h.machine.now := by
  induction children with
  | nil => exact fun _ => .of_pure ⟨rfl, rfl⟩
  | cons child rest ih =>
    intro h s hs
    obtain ⟨r, m, hr, hdeals, hnow⟩ := hsignal h.machine s hs child
    have hhead : (s.pids[child]?).toList ++ rest.filterMap (s.pids[·]?) =
        (child :: rest).filterMap (s.pids[·]?) := by
      rcases hpid : s.pids[child]? with _ | pid
      · simp [hpid]
      · simp [hpid]
    unfold signalAll
    refine .bind (.of_machine hr hdeals ⟨rfl, hnow⟩ (Q := fun r' gs h' =>
      gs = (s.pids[child]?).toList.map sig ∧ h'.machine.now = h.machine.now))
      fun r' gs h' hdeals' hQ => ?_
    have hrest : ∀ h'' gs', h'.Deals id gs' h'' → gs' = [] ∧ h''.machine.now = h'.machine.now →
        Settles id deadline (signalAll signal id rest) h'' fun _ gs'' h₃ =>
          gs ++ (gs' ++ gs'') = ((child :: rest).filterMap (s.pids[·]?)).map sig ∧
            h₃.machine.now = h.machine.now := by
      intro h'' gs' hdeals'' hQ'
      obtain ⟨s'', hs'', hss''⟩ := (hdeals'.trans hdeals'').machine.started? hs
      refine (ih hs'').mono fun _ gs'' h₃ _ hQ'' => ⟨?_, ?_⟩
      · rw [hQ.1, hQ'.1, hQ''.1, hss''.pids, ← hhead, List.map_append, List.nil_append]
      · rw [hQ''.2, hQ'.2, hQ.2]
    split
    · exact hrest h' [] (.refl id h') ⟨rfl, rfl⟩
    · exact hrest h' [] (.refl id h') ⟨rfl, rfl⟩
    · exact .after (get_apply h') (.bind (record_settles _ _ h') fun _ gs' h'' hdeals'' hQ' =>
        hrest h'' gs' hdeals'' hQ')

/-- A signal to the server is sent. -/
theorem signal_settles {e : Int → Event} {g : Signal} {f : Lifetime → Nat → Lifetime}
    (hs : h.machine.started? id = some s) (hg : (e s.pid).signal? = some g)
    (hf : s.lifetime.hasEnded h.machine.now →
      (f s.lifetime h.machine.now).hasEnded h.machine.now) :
    Settles id deadline (onMachine (MachineAction.signal id e f)) h fun _ gs h' =>
      gs = [g] ∧ h'.machine.now = h.machine.now ∧
        h'.machine.started? id = some { s with lifetime := f s.lifetime h.machine.now } := by
  obtain ⟨m, hm, hdeals, hnow, hs'⟩ := MachineAction.signal_deals hs hg hf
  exact .of_machine hm hdeals ⟨rfl, hnow, hs'⟩

/-- A server that was killed has ended. -/
theorem kill_settles (hs : h.machine.started? id = some s) :
    Settles id deadline (onMachine (.kill id)) h fun _ gs h' =>
      gs = [.kill s.pid] ∧ h'.machine.isAlive id = false := by
  refine (signal_settles hs rfl fun _ => s.lifetime.hasEnded_kill _).mono fun _ gs h' _ hQ => ?_
  obtain ⟨hgs, hnow, hs'⟩ := hQ
  refine ⟨hgs, ?_⟩
  rw [Machine.isAlive_of_started hs', hnow, Bool.not_eq_false']
  exact s.lifetime.hasEnded_kill _

/-! ## Waiting -/

/-- A server that has not ended when the wait for it is over has not ended by the deadline. -/
theorem waitFor_settles (hs : h.machine.started? id = some s) :
    Settles id deadline (onMachine (.waitFor id
      (h.machine.arithmetic.minus deadline h.machine.time).clamped)) h fun inTime gs h' =>
        gs = [] ∧ inTime = !h'.machine.isAlive id ∧ (h.machine.arithmetic.Comes deadline →
          h'.machine.isAlive id → h'.machine.time.reaches deadline) := by
  set left := (h.machine.arithmetic.minus deadline h.machine.time).clamped
  have hquiet := MachineAction.waitFor_quiet id left h.machine
  rcases MachineAction.waitFor_cases hs left with ⟨m, hm, hended⟩ |
    ⟨micros, m, hmicros, hm, hnow, halive⟩ | ⟨hnever, -, hm⟩
  · rw [hm] at hquiet
    exact .of_machine hm (hquiet.deals id) ⟨rfl, by rw [hended]; rfl, fun _ halive =>
      absurd (hended.symm.trans halive) Bool.false_ne_true⟩
  · rw [hm] at hquiet
    refine .of_machine hm (hquiet.deals id) ⟨rfl, by rw [halive]; rfl, fun hcomes _ => ?_⟩
    show (m.arithmetic.ofMicros m.now).reaches deadline
    rw [hquiet.quiet.arithmetic, hnow]
    exact hcomes.reaches hmicros
  · refine .inr ⟨[], h, by rw [onMachine_apply, hm], .refl id h, fun hcomes => ?_⟩
    have hsome : (h.machine.arithmetic.microsUntil? left).isSome := hcomes.microsUntil?
    rw [hnever] at hsome
    exact Bool.false_ne_true hsome

/-- The wait for a server that has ended is over. -/
theorem waitFor_ended_settles (hs : h.machine.started? id = some s)
    (hended : h.machine.isAlive id = false) (limit : Time) :
    Settles id deadline (onMachine (.waitFor id limit)) h fun _ gs _ => gs = [] := by
  have hquiet := MachineAction.waitFor_quiet id limit h.machine
  rcases MachineAction.waitFor_cases hs limit with ⟨m, hm, -⟩ | ⟨micros, m, -, hm, -, halive⟩ |
    ⟨-, hnone, -⟩
  · rw [hm] at hquiet
    exact .of_machine hm (hquiet.deals id) rfl
  · rw [hm] at hquiet
    rw [(hquiet.deals id).not_isAlive hended] at halive
    exact absurd halive Bool.false_ne_true
  · rw [Machine.isAlive_of_started hs, Bool.not_eq_false', Lifetime.hasEnded_iff, hnone] at hended
    obtain ⟨e, he, -⟩ := hended
    cases he

/-- The descendants are looked at until none of them seems to run or the time is up. -/
theorem awaitUntil_settles (id : Nat) (children : List Nat) (limit : Time) (n : Nat) :
    ∀ {h : Host}, (h.machine.arithmetic.Comes deadline → ∃ k, n = k + 1 ∧
        (h.machine.arithmetic.ofMicros (h.machine.now + pollInterval * k)).reaches limit) →
      Settles id deadline (awaitUntil id children limit n) h fun alive gs h' =>
        gs = [] ∧ alive = children.filter (seemsRunning h'.machine id) ∧
          (alive = [] ∨ h'.machine.time.reaches limit) := by
  induction n with
  | zero =>
    intro h hlooks
    refine .inr ⟨[], h, rfl, .refl id h, fun hcomes => ?_⟩
    obtain ⟨k, hk, -⟩ := hlooks hcomes
    omega
  | succ n ih =>
    intro h hlooks
    unfold awaitUntil
    refine .after (get_apply h) (.ite (fun hdone => .of_pure ⟨rfl, rfl, ?_⟩) fun hgoes => ?_)
    · rw [Bool.or_eq_true, List.isEmpty_iff] at hdone
      exact hdone
    · have hpass : Settles id deadline (onMachine (.pass pollInterval)) h fun _ gs h' =>
          gs = [] ∧ h'.machine.now = h.machine.now + pollInterval :=
        .of_machine rfl ((MachineAction.pass_quiet pollInterval h.machine).deals id)
          ⟨rfl, h.machine.onward.advance_now pollInterval⟩
      refine .bind hpass fun _ gs h' hdeals hQ => ?_
      rw [hQ.1]
      refine ih fun hcomes => ?_
      rw [hdeals.arithmetic] at hcomes ⊢
      obtain ⟨k, hk, hreached⟩ := hlooks hcomes
      rcases k with _ | k
      · rw [Bool.or_eq_true, not_or] at hgoes
        exact absurd hreached hgoes.2
      · refine ⟨k, by omega, ?_⟩
        rw [hQ.2, Nat.add_assoc, Nat.add_comm pollInterval, ← Nat.mul_succ]
        exact hreached

/-- At the last look at the descendants the deadline has come if any of them seems to run. -/
theorem awaitExits_settles (id : Nat) (children : List Nat) (h : Host) :
    Settles id deadline (awaitExits id children
      (h.machine.arithmetic.minus deadline h.machine.time).clamped) h fun alive gs h' =>
        gs = [] ∧ alive = children.filter (seemsRunning h'.machine id) ∧
          (h.machine.arithmetic.Comes deadline → alive ≠ [] →
            h'.machine.time.reaches deadline) := by
  unfold awaitExits
  refine .after (get_apply h) ((awaitUntil_settles id children _ _ fun hcomes =>
    reaches_of_pollsUntil (hcomes.plus _)).mono fun alive gs h' hdeals hQ => ?_)
  refine ⟨hQ.1, hQ.2.1, fun hcomes hsome => ?_⟩
  have hreached := hQ.2.2.resolve_left hsome
  unfold World.time at hreached ⊢
  rw [hdeals.arithmetic] at hreached ⊢
  exact hcomes.reaches_of_plus hreached

/-- The server has ended, and it was killed only if it had not ended when the wait for it was
over. -/
theorem endServer_settles (hs : h.machine.started? id = some s) (timeout : String) :
    Settles id deadline (endServer id timeout deadline) h fun inTime gs h' =>
      h'.machine.isAlive id = false ∧ ∃ m₁ : Machine, h.machine.Leads (Tends id) m₁ ∧
        m₁.Leads (Tends id) h'.machine ∧ inTime = (!m₁.isAlive id) ∧
        gs = .terminate s.pid :: (if m₁.isAlive id then [.kill s.pid] else []) ∧
        (h.machine.arithmetic.Comes deadline → m₁.isAlive id → m₁.time.reaches deadline) := by
  unfold endServer
  refine .bind (signal_settles hs rfl Lifetime.hasEnded_terminate) fun _ gs₁ h₁ hdeals₁ hQ₁ => ?_
  obtain ⟨rfl, -, hs₁⟩ := hQ₁
  refine .after rfl (.bind (waitFor_settles hs₁) fun inTime gs₂ h₂ hdeals₂ hQ₂ => ?_)
  obtain ⟨rfl, hinTime, hreaches⟩ := hQ₂
  rw [hdeals₁.arithmetic] at hreaches
  have hleads := hdeals₁.machine.leads.trans hdeals₂.machine.leads
  by_cases halive : h₂.machine.isAlive id
  · rw [halive] at hinTime
    rw [hinTime, if_neg (by simp)]
    obtain ⟨s₂, hs₂, hss₂⟩ := hdeals₂.machine.started? hs₁
    refine .bind (record_settles _ _ h₂) fun _ gs₃ h₃ hdeals₃ hQ₃ => ?_
    obtain ⟨rfl, -⟩ := hQ₃
    obtain ⟨s₃, hs₃, hss₃⟩ := hdeals₃.machine.started? hs₂
    have hpid : s₃.pid = s.pid := hss₃.pid.trans hss₂.pid
    refine .bind (kill_settles hs₃) fun _ gs₄ h₄ hdeals₄ hQ₄ => ?_
    obtain ⟨rfl, hended⟩ := hQ₄
    obtain ⟨s₄, hs₄, -⟩ := hdeals₄.machine.started? hs₃
    refine .bind (waitFor_ended_settles hs₄ hended _) fun _ gs₅ h₅ hdeals₅ hgs₅ => .of_pure ?_
    refine ⟨hdeals₅.machine.not_isAlive hended, h₂.machine, hleads,
      (hdeals₃.machine.leads.trans hdeals₄.machine.leads).trans hdeals₅.machine.leads,
      by rw [halive]; rfl, ?_, hreaches⟩
    rw [hgs₅, hpid, if_pos halive]
    rfl
  · have hended := Bool.eq_false_of_not_eq_true halive
    rw [hended] at hinTime
    rw [hinTime]
    refine .of_pure ⟨hended, h₂.machine, hleads, .refl _, by rw [hended]; rfl, ?_, hreaches⟩
    rw [if_neg halive]
    rfl

/-! ## The server and its descendants -/

end Session

/-- A server is stopped.  On the machine `m₁` the wait for the server was over, and on `m₂` its
descendants were looked at for the last time. -/
structure Machine.Stops (id : Nat) (deadline : Time) (s : Started) (m m₁ m₂ : Machine)
    (s₂ : Started) (inTime : Bool) (gs : List Signal) (m' : Machine) : Prop where
  toServer : m.Leads (Tends id) m₁
  toDescendants : m₁.Leads (Tends id) m₂
  toEnd : m₂.Leads (Tends id) m'
  server : m.arithmetic.Comes deadline → m₁.isAlive id → m₁.time.reaches deadline
  started : m₂.started? id = some s₂
  descendants : m.arithmetic.Comes deadline → s₂.late m₂.now ≠ [] → m₂.time.reaches deadline
  signals : gs = s.reported.map (.terminate ·.pid) ++ .terminate s.pid ::
    (if m₁.isAlive id then [.kill s.pid] else []) ++ (s₂.late m₂.now).map (.kill ·.pid)
  inTime : inTime = (!m₁.isAlive id && (s₂.late m₂.now).isEmpty)

/-- It does not matter what happens before and after it. -/
theorem Machine.Stops.extend {id : Nat} {deadline : Time} {s s₂ : Started}
    {m₀ m m₁ m₂ m' m'' : Machine} {inTime : Bool} {gs : List Signal} (hm : m₀.Leads (Tends id) m)
    (h : m.Stops id deadline s m₁ m₂ s₂ inTime gs m') (hm' : m'.Leads (Tends id) m'') :
    m₀.Stops id deadline s m₁ m₂ s₂ inTime gs m'' where
  toServer := hm.trans h.toServer
  toDescendants := h.toDescendants
  toEnd := h.toEnd.trans hm'
  server := by
    rw [← hm.tends.arithmetic]
    exact h.server
  started := h.started
  descendants := by
    rw [← hm.tends.arithmetic]
    exact h.descendants
  signals := h.signals
  inTime := h.inTime

namespace Session

open SessionAction

variable {id : Nat} {deadline : Time} {h : Host} {s : Started}

theorem descendants_apply (hs : h.machine.started? id = some s) :
    descendants id h = (.ok (List.range s.reported.length), h) := by
  have hlist : ∃ r, MachineAction.listDescendants id h.machine = (.ok r, h.machine) ∧
      r.toOption.getD [] = List.range s.reported.length := by
    unfold MachineAction.listDescendants Started.reported
    rw [MachineAction.observe_bind_apply, hs]
    dsimp only
    rcases s.inspectObstacle with _ | obstacle
    · rcases s.listObstacle with _ | obstacle
      · exact ⟨_, rfl, rfl⟩
      · exact ⟨_, rfl, rfl⟩
    · exact ⟨_, rfl, rfl⟩
  obtain ⟨r, hr, hchildren⟩ := hlist
  have hmachine : onMachine (.listDescendants id) h = (.ok r, h) := by
    rw [onMachine_apply, hr]
  unfold descendants
  rw [bind_of_ok hmachine, ← hchildren]
  rcases r with _ | children
  · rfl
  · rfl

theorem terminateAll_settles (hs : h.machine.started? id = some s) (children : List Nat) :
    Settles id deadline (terminateAll id children) h fun _ gs h' =>
      gs = (children.filterMap (s.pids[·]?)).map .terminate ∧
        h'.machine.now = h.machine.now :=
  signalAll_settles (fun _ _ hs => MachineAction.signalDescendant_deals hs (fun _ => rfl)
    fun _ => rfl) children hs

theorem killAll_settles (hs : h.machine.started? id = some s) (children : List Nat) :
    Settles id deadline (killAll id children) h fun _ gs h' =>
      gs = (children.filterMap (s.pids[·]?)).map .kill ∧ h'.machine.now = h.machine.now :=
  signalAll_settles (fun _ _ hs => MachineAction.signalDescendant_deals hs (fun _ => rfl)
    fun _ => rfl) children hs

/-- The last look at the listed descendants finds those that are late. -/
theorem lastLook_settles (hs : h.machine.started? id = some s) :
    Settles id deadline (awaitExits id (List.range s.reported.length)
      (h.machine.arithmetic.minus deadline h.machine.time).clamped) h fun alive gs h' =>
        gs = [] ∧ ∃ s', h'.machine.started? id = some s' ∧
          alive.map (s'.descendants[·]?) = (s'.late h'.machine.now).map some ∧
          (h.machine.arithmetic.Comes deadline → s'.late h'.machine.now ≠ [] →
            h'.machine.time.reaches deadline) := by
  refine (awaitExits_settles id _ h).mono fun alive gs h' hdeals hQ => ?_
  obtain ⟨hgs, halive, hreaches⟩ := hQ
  obtain ⟨s', hs', hss'⟩ := hdeals.machine.started? hs
  have hlook := map_filter_seemsRunning hs'
  rw [hss'.reported_length, ← halive] at hlook
  refine ⟨hgs, s', hs', hlook, fun hcomes hlate => hreaches hcomes fun hnone => hlate ?_⟩
  rw [hnone] at hlook
  exact List.map_eq_nil_iff.mp hlook.symm

/-- Those that are late are killed.  The result says whether all have ended in time. -/
def killLate (id : Nat) (alive : List Nat) (inTime : Bool) : SessionAction Bool := do
  if alive.isEmpty then return inTime
  else
    record .warning ("Killing " ++ toString alive.length ++
      " remaining child process(es) of the language server")
    killAll id alive
    return false

theorem killLate_settles {alive : List Nat} {late : List Descendant}
    (hs : h.machine.started? id = some s)
    (hlook : alive.map (s.descendants[·]?) = late.map some) (inTime : Bool) :
    Settles id deadline (killLate id alive inTime) h fun b gs _ =>
      b = (inTime && late.isEmpty) ∧ gs = late.map (.kill ·.pid) := by
  have hlength := congrArg List.length hlook
  rw [List.length_map, List.length_map] at hlength
  unfold killLate
  refine .ite (fun hempty => .of_pure ?_) fun hsome => ?_
  · rw [List.isEmpty_iff_length_eq_zero, hlength, ← List.isEmpty_iff_length_eq_zero] at hempty
    rw [hempty, List.isEmpty_iff.mp hempty]
    exact ⟨(Bool.and_true _).symm, rfl⟩
  · rw [List.isEmpty_iff_length_eq_zero, hlength, ← List.isEmpty_iff_length_eq_zero] at hsome
    refine .bind (record_settles _ _ h) fun _ gs₁ h₁ hdeals₁ hQ₁ => ?_
    obtain ⟨s₁, hs₁, hss₁⟩ := hdeals₁.machine.started? hs
    refine .bind (killAll_settles hs₁ alive) fun _ gs₂ h₂ _ hQ₂ => .of_pure ⟨?_, ?_⟩
    · rw [Bool.eq_false_of_not_eq_true hsome, Bool.and_false]
    · rw [hQ₁.1, hQ₂.1, hss₁.pids, Started.filterMap_pids hlook, List.map_map, List.append_nil]
      rfl

theorem endAll_settles (hs : h.machine.started? id = some s) (timeout : String) :
    Settles id deadline (endAll id timeout deadline) h fun inTime gs h' =>
      h'.machine.isAlive id = false ∧ ∃ m₁ m₂ s₂,
        h.machine.Stops id deadline s m₁ m₂ s₂ inTime gs h'.machine := by
  unfold endAll
  refine .after (descendants_apply hs) ?_
  refine .bind (terminateAll_settles hs _) fun _ gs₁ h₁ hdeals₁ hQ₁ => ?_
  obtain ⟨s₁, hs₁, hss₁⟩ := hdeals₁.machine.started? hs
  refine .bind (endServer_settles hs₁ timeout) fun inTime gs₂ h₂ hdeals₂ hQ₂ => ?_
  obtain ⟨hended, m₁, hto, hfrom, hinTime, hgs₂, hserver⟩ := hQ₂
  obtain ⟨s₂, hs₂, hss₂⟩ := hdeals₂.machine.started? hs₁
  rw [← (hss₁.trans hss₂).reported_length]
  refine .after rfl (.bind (lastLook_settles hs₂) fun alive gs₃ h₃ hdeals₃ hQ₃ => ?_)
  obtain ⟨rfl, s₃, hs₃, hlook, hreaches⟩ := hQ₃
  refine (killLate_settles hs₃ hlook inTime).mono fun b gs₄ h₄ hdeals₄ hQ₄ => ?_
  refine ⟨(hdeals₃.trans hdeals₄).machine.not_isAlive hended, m₁, h₃.machine, s₃, ?_⟩
  rw [hdeals₁.arithmetic] at hserver
  rw [hdeals₂.arithmetic, hdeals₁.arithmetic] at hreaches
  refine ⟨hdeals₁.machine.leads.trans hto, hfrom.trans hdeals₃.machine.leads,
    hdeals₄.machine.leads, hserver, hs₃, hreaches, ?_, ?_⟩
  · rw [hQ₁.1, hgs₂, hss₁.pid, Started.filterMap_pids s.map_range_reported, List.map_map, hQ₄.2]
    simp [Function.comp_def]
  · rw [hQ₄.1, hinTime]

/-! ## Stopping -/

/-- The last things to do when the server is stopped. -/
def closeOutputs (id : Nat) (inTime : Bool) : SessionAction Bool := do
  closePipe id .output
  closePipe id .error
  let code := (((← get).machine.exitCode? id).map toString).getD "None"
  record .info ("Language server process stopped (return code " ++ code ++ ")")
  return inTime

/-- What is done to stop a server that the session no longer holds. -/
def shutDown (id : Nat) (timeout : String) (isAlive : Bool) (deadline : Time) :
    SessionAction Bool := do
  closePipe id .input
  if isAlive then endAll id timeout deadline >>= closeOutputs id else closeOutputs id true

/-- The session gives up its server before anything is done to it. -/
theorem stop_apply {timeout : Value} {seconds : Double} (hserver : h.session.server = some id)
    (hseconds : secondsOf timeout = .ok seconds) :
    stop timeout h = shutDown id (shownTimeout timeout) (h.machine.isAlive id)
      (h.machine.arithmetic.plus h.machine.time (.ofSeconds seconds))
      { h with session := { h.session with server := none } } := by
  unfold stop
  rw [get_bind_apply]
  simp only [hserver, hseconds]
  rfl

theorem closeOutputs_settles (id : Nat) (inTime : Bool) (h : Host) :
    Settles id deadline (closeOutputs id inTime) h fun b gs _ => b = inTime ∧ gs = [] := by
  unfold closeOutputs
  refine .bind (closePipe_settles id .output h) fun _ gs₁ h₁ _ hQ₁ => ?_
  refine .bind (closePipe_settles id .error h₁) fun _ gs₂ h₂ _ hQ₂ => .after (get_apply h₂) ?_
  refine .bind (record_settles _ _ h₂) fun _ gs₃ h₃ _ hQ₃ => .of_pure ⟨rfl, ?_⟩
  rw [hQ₁.1, hQ₂.1, hQ₃.1]
  rfl

/-- A server that has ended is not waited for, and nothing is sent a signal. -/
theorem shutDown_ended_settles (hended : h.machine.isAlive id = false) (timeout : String) :
    Settles id deadline (shutDown id timeout false deadline) h fun inTime gs h' =>
      inTime = true ∧ gs = [] ∧ h'.machine.isAlive id = false := by
  unfold shutDown
  refine .bind (closePipe_settles id .input h) fun _ gs₁ h₁ hdeals₁ hQ₁ => ?_
  refine (closeOutputs_settles id true h₁).mono fun inTime gs₂ h₂ hdeals₂ hQ₂ => ⟨hQ₂.1, ?_, ?_⟩
  · rw [hQ₁.1, hQ₂.2]
    rfl
  · exact (hdeals₁.trans hdeals₂).machine.not_isAlive hended

theorem shutDown_settles (hs : h.machine.started? id = some s) (timeout : String) :
    Settles id deadline (shutDown id timeout true deadline) h fun inTime gs h' =>
      h'.machine.isAlive id = false ∧ ∃ m₁ m₂ s₂,
        h.machine.Stops id deadline s m₁ m₂ s₂ inTime gs h'.machine := by
  unfold shutDown
  refine .bind (closePipe_settles id .input h) fun _ gs₁ h₁ hdeals₁ hQ₁ => ?_
  obtain ⟨rfl, hnow₁, hstarted₁⟩ := hQ₁
  have hs₁ : h₁.machine.started? id = some s := by
    unfold Machine.started?
    rw [hstarted₁]
    exact hs
  rw [if_pos rfl]
  refine .bind (endAll_settles hs₁ timeout) fun inTime gs₂ h₂ hdeals₂ hQ₂ => ?_
  obtain ⟨hended, m₁, m₂, s₂, hstops⟩ := hQ₂
  refine (closeOutputs_settles id inTime h₂).mono fun b gs₃ h₃ hdeals₃ hQ₃ => ?_
  rw [hQ₃.1, hQ₃.2, List.nil_append, List.append_nil]
  exact ⟨hdeals₃.machine.not_isAlive hended, m₁, m₂, s₂,
    hstops.extend hdeals₁.machine.leads hdeals₃.machine.leads⟩

/-- Whether it runs or not, the server has ended afterwards. -/
theorem shutDown_ends (id : Nat) (timeout : String) (deadline : Time) (h : Host) :
    Settles id deadline (shutDown id timeout (h.machine.isAlive id) deadline) h
      fun _ _ h' => h'.machine.isAlive id = false := by
  by_cases halive : h.machine.isAlive id
  · obtain ⟨s, hs, -⟩ := Machine.isAlive_iff_runs.mp halive
    rw [halive]
    exact (shutDown_settles hs timeout).mono fun _ _ _ _ hQ => hQ.1
  · have hended := Bool.eq_false_of_not_eq_true halive
    rw [hended]
    exact (shutDown_ended_settles hended timeout).mono fun _ _ _ _ hQ => hQ.2.2

/-- A running server is stopped, with times computed exactly and a finite timeout.  All its listed
descendants and then the server itself are asked to end.  The server is killed if it has not ended
when the wait for it is over, and those of its descendants are killed that seem to run at the last
look; at either of these moments the deadline has come if there is anything to kill.  The result
says whether nothing was killed.  No other program is touched at any moment. -/
theorem stop_kills_only_late {h : Host} {timeout : Value} {negative : Bool} {quanta id : Nat}
    {s : Started} (hexact : h.machine.arithmetic = .exact)
    (htimeout : secondsOf timeout = .ok (.finite negative quanta))
    (hserver : h.session.server = some id) (hs : h.machine.started? id = some s)
    (halive : h.machine.isAlive id) :
    let deadline := h.machine.arithmetic.plus h.machine.time (.ofSeconds (.finite negative quanta))
    ∃ inTime h', stop timeout h = (.ok inTime, h') ∧
      h'.session = { h.session with server := none } ∧ h'.machine.isAlive id = false ∧
      ∃ m₁ m₂ s₂, h.machine.Leads (Tends id) m₁ ∧ m₁.Leads (Tends id) m₂ ∧
        m₂.Leads (Tends id) h'.machine ∧
        m₂.started? id = some s₂ ∧ s.Precedes h.machine.now s₂ m₂.now ∧
        (m₁.isAlive id → m₁.time.reaches deadline) ∧
        (s₂.late m₂.now ≠ [] → m₂.time.reaches deadline) ∧
        let killed := (if m₁.isAlive id then [s.pid] else []) ++ (s₂.late m₂.now).map (·.pid)
        h'.machine.signals = h.machine.signals ++
          (s.reported.map (·.pid) ++ [s.pid]).map .terminate ++ killed.map .kill ∧
        (inTime = true ↔ killed = []) := by
  intro deadline
  have hcomes : h.machine.arithmetic.Comes deadline := by
    show h.machine.arithmetic.Comes
      (h.machine.arithmetic.plus (h.machine.arithmetic.ofMicros h.machine.now) _)
    rw [hexact]
    exact .of_finite _ _ _
  rw [stop_apply hserver htimeout, halive]
  set h₀ : Host := { h with session := { h.session with server := none } }
  have hsettles : Settles id deadline (shutDown id (shownTimeout timeout) true deadline) h₀ _ :=
    shutDown_settles (h := h₀) hs _
  rcases hsettles with
    ⟨inTime, gs, h', hresult, hdeals, hended, m₁, m₂, s₂, hstops⟩ | ⟨-, -, -, -, hnever⟩
  · refine ⟨inTime, h', hresult, hdeals.session, hended, m₁, m₂, s₂, hstops.toServer,
      hstops.toDescendants, hstops.toEnd, hstops.started, ?_, hstops.server hcomes,
      hstops.descendants hcomes, ?_, ?_⟩
    · obtain ⟨s', hs', hss'⟩ := (hstops.toServer.trans hstops.toDescendants).tends.own s hs
      have heq : s' = s₂ := Option.some_inj.mp (hs'.symm.trans hstops.started)
      rwa [heq] at hss'
    · have hsignals : h'.machine.signals = h.machine.signals ++ gs := hdeals.machine.signals
      rw [hsignals, hstops.signals]
      by_cases halive₁ : m₁.isAlive id
      · simp [halive₁, Function.comp_def]
      · simp [halive₁, Function.comp_def]
    · rw [hstops.inTime]
      by_cases halive₁ : m₁.isAlive id
      · simp [halive₁]
      · simp [halive₁]
  · exact absurd hcomes hnever

/-- A server that ignores the request to end.  One of its descendants ends soon, one ignores the
request, too, one cannot be looked at because it is gone, and one because that is denied. -/
def stubbornServer : Started :=
  { pid := 100
    lifetime := { grace := none }
    descendants := [{ pid := 101, lifetime := { grace := some 120000 } },
      { pid := 102, lifetime := { grace := none } },
      { pid := 103, lifetime := { grace := none }, statusObstacle := some .gone },
      { pid := 104, lifetime := {}, statusObstacle := some .denied,
        killObstacle := some .denied }] }

/-- A session that holds this server. -/
def stubbornHost : Host :=
  { machine := { arithmetic := .exact, started := [stubbornServer] }
    session := { workspaceRoot := "/w", config := {}, server := some 0
                 acquirer := { installDir := "/i", platform := none } } }

/-- After a second the server is killed, together with the descendant that has ignored the request
and the one that cannot be looked at. -/
theorem stop_kills_only_late_stubborn :
    (stop (.real (.ofNat 1)) stubbornHost).2.machine.signals =
      [.terminate 101, .terminate 102, .terminate 103, .terminate 104, .terminate 100,
        .kill 100, .kill 102, .kill 104] ∧
    (stop (.real (.ofNat 1)) stubbornHost).2.machine.now = 1000000 ∧
    ∃ inTime h', stop (.real (.ofNat 1)) stubbornHost = (.ok inTime, h') ∧
      h'.session = { stubbornHost.session with server := none } ∧ h'.machine.isAlive 0 = false := by
  have htimeout : secondsOf (.real (.ofNat 1)) = .ok (.finite false Double.quantaPerUnit) := by
    have hone : Double.ofNat 1 = .finite false Double.quantaPerUnit := by decide +kernel
    exact congrArg Except.ok hone
  refine ⟨by decide +kernel, by decide +kernel, ?_⟩
  obtain ⟨inTime, h', hresult, hsession, hended, -⟩ :=
    stop_kills_only_late (h := stubbornHost) rfl htimeout rfl rfl (by decide +kernel)
  exact ⟨inTime, h', hresult, hsession, hended⟩

end Session

end ServerLauncher
