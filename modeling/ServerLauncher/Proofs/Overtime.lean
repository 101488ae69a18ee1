import ServerLauncher.Proofs.Times
import ServerLauncher.Proofs.Turns

/-!
# The time of a stop

Time passes at two points of a stop, while the server is waited for and while its descendants are
looked at again and again.  Both go by one deadline.  The wait for the server ends by the deadline;
when the server had to be killed, it has ended, so that the second wait for it takes no time.  The
descendants are looked at for another interval only if the deadline has not come, so that the last
look is late by less than an interval.

## Main definitions

* `World.Still`: the clock stands still.
* `Session.Tolerates`: what begins before a deadline and takes an interval ends in time.
* `Host.IsWithin`, `SessionAction.StaysWithin`: the clock has not passed a bound, and does not.
* `Session.Polls`: the looks at the descendants, with a number of intervals between them.
* `Session.latestEnd`: the time by which a stop has ended.

## Main statements

* `MachineAction.waitFor_now_le`: a wait is not longer than its limit.
* `Session.exists_polls`: the looks come to an end.
* `Session.stop_in_time`: a stop ends, and when it does.
-/

namespace ServerLauncher

open ServerLauncher.Action MachineAction World

/-! ## Where time passes -/

/-- The clock stands still. -/
structure World.Still (w w' : World) : Prop where
  arithmetic : w'.arithmetic = w.arithmetic
  now : w'.now = w.now

theorem Machine.Leads.still {m m' : Machine} (h : m.Leads Still m') :
    m.toWorld.Still m'.toWorld :=
  h.keeps (fun _ => ⟨rfl, rfl⟩)
    (fun _ _ _ h h' => ⟨h'.arithmetic.trans h.arithmetic, h'.now.trans h.now⟩) fun _ _ h => h

theorem Machine.advanceTo_now_le (m : Machine) (t : Nat) :
    (m.advanceTo t).now ≤ max m.now t := by
  have hring := m.ringBy_now_le t
  show max (m.ringBy t).now t ≤ max m.now t
  omega

namespace MachineAction

variable {id : Nat} {m : Machine} {limit : Time} {micros : Nat}

theorem event_still (e : Event) : Proceeds Still (event e) :=
  .of_change (fun _ => rfl) fun _ => ⟨rfl, rfl⟩

theorem changeStarted_still (id : Nat) (f : Machine → Started → Started) :
    Proceeds Still (change fun m => m.changeStarted id (f m)) :=
  .of_change (fun _ => rfl) fun _ => ⟨rfl, rfl⟩

theorem signal_still (id : Nat) (e : Int → Event) (f : Lifetime → Nat → Lifetime) :
    Proceeds Still (signal id e f) :=
  signal_proceeds (fun _ => event_still _) fun f _ => changeStarted_still id f

theorem closePipe_still (id : Nat) (pipe : Pipe) : Proceeds Still (closePipe id pipe) := by
  intro m
  rw [closePipe_apply]
  rcases m.started? id with _ | s
  · exact .refl m
  · exact .step rfl ⟨rfl, rfl⟩

/-- A wait is not longer than its limit. -/
theorem waitFor_now_le (id : Nat) (hmicros : m.arithmetic.microsUntil? limit = some micros) :
    (waitFor id limit m).2.now ≤ m.now + micros := by
  have hpassed := m.onward.advance_now micros
  unfold waitFor
  rw [get_bind_apply]
  simp only [hmicros]
  rcases (m.started? id).bind (·.lifetime.exit) with _ | e
  · exact hpassed.le
  · have hended := m.onward.advanceTo_now_le e.time
    dsimp only
    by_cases hle : e.time ≤ m.now + micros
    · rw [if_pos hle]
      exact hended.trans (max_le (Nat.le_add_right _ _) hle)
    · rw [if_neg hle]
      exact hpassed.le

/-- The wait for a program that does not run is over at once, or it is one for ever. -/
theorem waitFor_future_now_le (hended : m.isAlive id = false) :
    (waitFor id .future m).2.now ≤ m.now := by
  have hnever : m.arithmetic.microsUntil? .future = none := by
    cases m.arithmetic with
    | exact => rfl
    | binary => rfl
  unfold waitFor
  rw [get_bind_apply]
  simp only [hnever]
  rcases hexit : (m.started? id).bind (·.lifetime.exit) with _ | e
  · exact Nat.le_refl _
  · obtain ⟨s, hs, he⟩ := Option.bind_eq_some_iff.mp hexit
    rw [Machine.isAlive_of_started hs, Bool.not_eq_false', Lifetime.hasEnded_iff] at hended
    obtain ⟨e', he', hle⟩ := hended
    obtain rfl := Option.some_inj.mp (he.symm.trans he')
    exact (m.onward.advanceTo_now_le e.time).trans (max_le (Nat.le_refl _) hle)

/-- A program that was killed does not run. -/
theorem kill_not_isAlive (id : Nat) (m : Machine) : (kill id m).2.isAlive id = false := by
  rcases hs : m.started? id with _ | s
  · have hkill : kill id m = (.ok (), m) := by
      unfold kill signal
      rw [observe_bind_apply, hs]
      rfl
    rw [hkill]
    unfold Machine.isAlive
    rw [hs]
  · obtain ⟨m', hkill, -, hnow, hs'⟩ :=
      signal_deals (e := .kill) (f := Lifetime.kill) hs rfl fun _ => s.lifetime.hasEnded_kill _
    show (signal id .kill Lifetime.kill m).2.isAlive id = false
    rw [hkill, Machine.isAlive_of_started hs', hnow, Bool.not_eq_false']
    exact s.lifetime.hasEnded_kill _

end MachineAction

/-- After an interval the clock shows what it would have shown after one interval more. -/
theorem Machine.now_after_interval (m : Machine) (j : Nat) :
    (m.onward.advance Session.pollInterval).now + Session.pollInterval * j =
      m.now + Session.pollInterval * (j + 1) := by
  have hnow := m.onward.advance_now Session.pollInterval
  show _ = m.onward.now + _
  rw [hnow, Nat.mul_succ]
  omega

/-! ## Exact times -/

namespace Arithmetic

variable {micros micros' left : Nat} {ticks : Int} {deadline : Time}

theorem ofMicros_mono (a : Arithmetic) (h : micros ≤ micros') :
    (a.ofMicros micros).before (a.ofMicros micros') := by
  rw [ofMicros_eq, ofMicros_eq]
  simpa [Time.before] using a.ticksOf_mono h

/-- The time left until a deadline is not counted to one microsecond more than needed. -/
theorem not_reaches_of_microsUntil?
    (h : exact.microsUntil? (exact.minus (.at ticks) (exact.ofMicros micros)).clamped =
      some (left + 1)) : ¬(exact.ofMicros (micros + left)).reaches (.at ticks) := by
  rw [exact_clamped_minus] at h
  simp only [microsUntil?, Option.some_inj] at h
  have hpos := ticksPerMicro_pos
  have hlt : left * ticksPerMicro < (max (ticks - (micros * ticksPerMicro : Nat)) 0).toNat := by
    have hle := Nat.div_mul_le_self
      ((max (ticks - (micros * ticksPerMicro : Nat)) 0).toNat + (ticksPerMicro - 1)) ticksPerMicro
    rw [h, Nat.add_mul] at hle
    omega
  rw [exact_reaches, Nat.add_mul]
  omega

/-- A deadline that was set by the time left until another one comes with that one. -/
theorem reaches_plus (hle : micros ≤ micros') (h : (exact.ofMicros micros').reaches (.at ticks)) :
    (exact.ofMicros micros').reaches (exact.plus (exact.ofMicros micros)
      (exact.minus (.at ticks) (exact.ofMicros micros)).clamped) := by
  have hticks : micros * ticksPerMicro ≤ micros' * ticksPerMicro := Nat.mul_le_mul_right _ hle
  rw [exact_reaches] at h
  rw [exact_clamped_minus]
  show (exact.ofMicros micros').reaches (.at ((micros * ticksPerMicro : Nat) +
    max (ticks - (micros * ticksPerMicro : Nat)) 0))
  rw [exact_reaches]
  omega

end Arithmetic

/-! ## Staying within a bound -/

namespace Session

/-- What begins before a deadline and takes an interval ends by a bound. -/
def Tolerates (bound deadline : Time) : Prop :=
  ∀ micros, ¬(Arithmetic.exact.ofMicros micros).reaches deadline →
    (Arithmetic.exact.ofMicros (micros + pollInterval)).before bound

end Session

/-- Times are computed exactly, and the clock has not passed a bound. -/
structure Host.IsWithin (bound : Time) (h : Host) : Prop where
  exact : h.machine.arithmetic = .exact
  now : (Arithmetic.exact.ofMicros h.machine.now).before bound

theorem Host.IsWithin.of_now {bound : Time} {h h' : Host} (hwithin : h.IsWithin bound)
    (harithmetic : h'.machine.arithmetic = h.machine.arithmetic)
    (hnow : h'.machine.now ≤ h.machine.now) : h'.IsWithin bound :=
  ⟨harithmetic.trans hwithin.exact,
    Time.before_trans (Arithmetic.exact.ofMicros_mono hnow) hwithin.now⟩

namespace SessionAction

variable {α β : Type} {bound : Time} {h : Host} {x : SessionAction α}

/-- An action does not let the clock pass a bound. -/
def StaysWithin (bound : Time) (x : SessionAction α) : Prop :=
  ∀ h, h.IsWithin bound → (x h).2.IsWithin bound

theorem bind_isWithin {f : α → SessionAction β} (hx : (x h).2.IsWithin bound)
    (hf : ∀ a, StaysWithin bound (f a)) : ((x >>= f) h).2.IsWithin bound := by
  refine bind_ends (P := fun r : Except Fault β × Host => r.2.IsWithin bound)
    (fun e h' hh' => ?_) fun a h' hh' => ?_
  · rw [hh'] at hx
    exact hx
  · rw [hh'] at hx
    exact hf a h' hx

namespace StaysWithin

/-- An action during which the clock stands still. -/
theorem of_still (hx : Along Still x) : StaysWithin bound x := fun h hwithin =>
  have hstill := (hx h).1.still
  hwithin.of_now hstill.arithmetic hstill.now.le

theorem of_pure (a : α) : StaysWithin bound (pure a : SessionAction α) := of_still (.of_pure a)

theorem bind {f : α → SessionAction β} (hx : StaysWithin bound x)
    (hf : ∀ a, StaysWithin bound (f a)) : StaysWithin bound (x >>= f) := fun h hwithin =>
  bind_isWithin (hx h hwithin) hf

theorem ite {p : Prop} [Decidable p] {y : SessionAction α} (hx : StaysWithin bound x)
    (hy : StaysWithin bound y) : StaysWithin bound (if p then x else y) := by
  split
  · exact hx
  · exact hy

end StaysWithin

theorem record_still (level : Level) (message : String) : Along Still (record level message) :=
  .of_machine (.of_change (fun _ => rfl) fun _ => ⟨rfl, rfl⟩)

end SessionAction

namespace Session

open SessionAction

variable {h : Host} {bound deadline : Time} {ticks : Int}

theorem closePipe_still (id : Nat) (pipe : Pipe) : Along Still (closePipe id pipe) := by
  intro h
  rw [closePipe_apply]
  exact ⟨MachineAction.closePipe_still id pipe h.machine, rfl⟩

theorem signalAll_still {own : Descendant → Option Obstacle} {done failed : Int → Event}
    {f : Lifetime → Nat → Lifetime} (id : Nat) (children : List Nat) :
    Along Still (signalAll (fun child => signalDescendant id child own done failed f) id
      children) :=
  signalAll_along record_still (fun child => signalDescendant_proceeds (fun _ => event_still _)
    (fun _ => event_still _) (fun f _ => changeStarted_still id f) child) id children

theorem closeOutputs_still (id : Nat) (inTime : Bool) : Along Still (closeOutputs id inTime) := by
  refine .bind (closePipe_still id .output) fun _ => .bind (closePipe_still id .error) fun _ => ?_
  exact .bind .of_get fun h => .bind (record_still _ _) fun _ => .of_pure _

/-- The wait for the server ends by the deadline, but for a part of a microsecond. -/
theorem awaitServer_isWithin (htolerates : Tolerates bound (.at ticks)) (id : Nat)
    (hwithin : h.IsWithin bound) : (onMachine (.waitFor id
      (h.machine.arithmetic.minus (.at ticks) h.machine.time).clamped) h).2.IsWithin bound := by
  set left := (h.machine.arithmetic.minus (.at ticks) h.machine.time).clamped
  have hcomes : h.machine.arithmetic.Comes (.at ticks) := ⟨hwithin.exact, ticks, rfl⟩
  have hquiet := (MachineAction.waitFor_quiet id left h.machine).quiet
  have hsome : (h.machine.arithmetic.microsUntil? left).isSome := hcomes.microsUntil?
  obtain ⟨micros, hmicros⟩ := Option.isSome_iff_exists.mp hsome
  have hnow := waitFor_now_le id hmicros
  rcases micros with _ | micros
  · exact hwithin.of_now hquiet.arithmetic hnow
  · unfold left World.time at hmicros
    rw [hwithin.exact] at hmicros
    have hend := htolerates _ (Arithmetic.not_reaches_of_microsUntil? hmicros)
    refine ⟨hquiet.arithmetic.trans hwithin.exact, Time.before_trans ?_ hend⟩
    refine Arithmetic.exact.ofMicros_mono (hnow.trans ?_)
    unfold pollInterval
    omega

/-- Killing the server and waiting for it takes no time. -/
theorem killServer_staysWithin (id : Nat) : StaysWithin bound (do
    onMachine (.kill id)
    let _ ← onMachine (.waitFor id .future)
    return false) := by
  intro h hwithin
  have hkilled : (onMachine (.kill id) h).2.IsWithin bound :=
    StaysWithin.of_still (.of_machine (signal_still id _ _)) h hwithin
  have hended := kill_not_isAlive id h.machine
  have hquiet := (MachineAction.waitFor_quiet id .future (kill id h.machine).2).quiet
  have hwaited : (onMachine (.waitFor id .future) (onMachine (.kill id) h).2).2.IsWithin bound :=
    hkilled.of_now hquiet.arithmetic (waitFor_future_now_le hended)
  refine bind_ends (P := fun r : Except Fault Bool × Host => r.2.IsWithin bound)
    (fun e h' hh' => ?_) fun a h' hh' => ?_
  · rw [hh'] at hkilled
    exact hkilled
  · rw [hh'] at hwaited
    exact bind_isWithin hwaited fun _ => .of_pure _

theorem endServer_staysWithin (htolerates : Tolerates bound (.at ticks)) (id : Nat)
    (timeout : String) : StaysWithin bound (endServer id timeout (.at ticks)) := by
  refine .bind (.of_still (.of_machine (signal_still id _ _))) fun _ h hwithin => ?_
  have hleft : timeLeft (.at ticks) h = (.ok _, h) := rfl
  rw [bind_of_ok hleft]
  refine bind_isWithin (awaitServer_isWithin htolerates id hwithin) fun inTime => ?_
  refine .ite (.of_pure _) (.bind (.of_still (record_still _ _)) fun _ => ?_)
  exact killServer_staysWithin id

theorem awaitUntil_succ (id : Nat) (children : List Nat) (deadline : Time) (n : Nat) (h : Host) :
    awaitUntil id children deadline (n + 1) h =
      if (children.filter (seemsRunning h.machine id)).isEmpty || h.machine.time.reaches deadline
      then (.ok (children.filter (seemsRunning h.machine id)), h)
      else awaitUntil id children deadline n
        { h with machine := h.machine.onward.advance pollInterval } := by
  show awaitUntil id children deadline (n + 1) h = _
  rw [awaitUntil, get_bind_apply]
  split_ifs
  · rfl
  · rfl

/-- The descendants are looked at for another interval only if the deadline has not come. -/
theorem awaitUntil_isWithin (id : Nat) (children : List Nat) (n : Nat) :
    ∀ {h : Host}, (∀ micros, h.machine.now ≤ micros →
        ¬(Arithmetic.exact.ofMicros micros).reaches deadline →
        (Arithmetic.exact.ofMicros (micros + pollInterval)).before bound) →
      h.IsWithin bound → (awaitUntil id children deadline n h).2.IsWithin bound := by
  induction n with
  | zero => exact fun _ hwithin => hwithin
  | succ n ih =>
    -- The premise speaks only of times that are still to come, so that it holds after an interval.
    intro h htolerates hwithin
    rw [awaitUntil_succ]
    split_ifs with hdone
    · exact hwithin
    · have hnow : (h.machine.onward.advance pollInterval).now = h.machine.now + pollInterval :=
        h.machine.onward.advance_now pollInterval
      have hquiet := (MachineAction.pass_quiet pollInterval h.machine).quiet
      refine ih (fun micros hle => htolerates micros ?_) ⟨?_, ?_⟩
      · exact (Nat.le_add_right _ _).trans (hnow.symm.le.trans hle)
      · exact hquiet.arithmetic.trans hwithin.exact
      · rw [Bool.or_eq_true, not_or] at hdone
        show (Arithmetic.exact.ofMicros (h.machine.onward.advance pollInterval).now).before bound
        rw [hnow]
        refine htolerates _ (Nat.le_refl _) fun hreached => hdone.2 ?_
        unfold World.time
        rw [hwithin.exact]
        exact hreached

theorem awaitExits_isWithin (htolerates : Tolerates bound (.at ticks)) (id : Nat)
    (children : List Nat) (hwithin : h.IsWithin bound) : (awaitExits id children
      (h.machine.arithmetic.minus (.at ticks) h.machine.time).clamped h).2.IsWithin bound := by
  refine awaitUntil_isWithin id children _ (fun micros hle hnot => htolerates micros ?_) hwithin
  unfold World.time at hnot
  rw [hwithin.exact] at hnot
  exact fun hreached => hnot (Arithmetic.reaches_plus hle hreached)

theorem endAll_staysWithin (htolerates : Tolerates bound (.at ticks)) (id : Nat)
    (timeout : String) : StaysWithin bound (endAll id timeout (.at ticks)) := by
  refine .bind (.of_still (descendants_along id)) fun children => ?_
  refine .bind (.of_still (signalAll_still id children)) fun _ => ?_
  refine .bind (endServer_staysWithin htolerates id timeout) fun inTime h hwithin => ?_
  have hleft : timeLeft (.at ticks) h = (.ok _, h) := rfl
  rw [bind_of_ok hleft]
  refine bind_isWithin (awaitExits_isWithin htolerates id children hwithin) fun alive => ?_
  refine .ite (.of_pure _) (.bind (.of_still (record_still _ _)) fun _ => ?_)
  exact .bind (.of_still (signalAll_still id alive)) fun _ => .of_pure _

theorem shutDown_staysWithin (htolerates : Tolerates bound (.at ticks)) (id : Nat)
    (timeout : String) (isAlive : Bool) :
    StaysWithin bound (shutDown id timeout isAlive (.at ticks)) := by
  have houtputs : ∀ inTime, StaysWithin bound (closeOutputs id inTime) := fun inTime =>
    .of_still (closeOutputs_still id inTime)
  refine .bind (.of_still (closePipe_still id .input)) fun _ => .ite ?_ (houtputs true)
  exact .bind (endAll_staysWithin htolerates id timeout) houtputs

/-! ## The looks at the descendants -/

/-- The descendants are looked at again and again, with a number of intervals between the looks. -/
structure Polls (id : Nat) (children : List Nat) (deadline : Time) (h : Host) (intervals : Nat)
    (alive : List Nat) (h' : Host) : Prop where
  /-- The looks come to an end, unless fewer of them are granted. -/
  ends : ∀ n, awaitUntil id children deadline n h = (.ok alive, h') ↔ intervals < n
  now : h'.machine.now = h.machine.now + pollInterval * intervals
  seen : alive = children.filter (seemsRunning h'.machine id)
  last : alive = [] ∨ h'.machine.time.reaches deadline
  /-- Each interval begins before the deadline. -/
  begins : ∀ j < intervals,
    ¬(h.machine.arithmetic.ofMicros (h.machine.now + pollInterval * j)).reaches deadline

/-- One look is enough if no descendant seems to run or the deadline has come. -/
theorem polls_of_done {id : Nat} {children : List Nat}
    (hdone : (children.filter (seemsRunning h.machine id)).isEmpty ||
      h.machine.time.reaches deadline) :
    Polls id children deadline h 0 (children.filter (seemsRunning h.machine id)) h where
  ends n := by
    rcases n with _ | n
    · exact ⟨nofun, nofun⟩
    · rw [awaitUntil_succ, if_pos hdone]
      exact ⟨fun _ => Nat.succ_pos n, fun _ => rfl⟩
  now := rfl
  seen := rfl
  last := by
    rw [Bool.or_eq_true, List.isEmpty_iff] at hdone
    exact hdone
  begins := nofun

/-- Otherwise there is an interval before the other looks. -/
theorem polls_of_not_done {id intervals : Nat} {children alive : List Nat} {h' : Host}
    (hdone : ¬((children.filter (seemsRunning h.machine id)).isEmpty ||
      h.machine.time.reaches deadline))
    (hpolls : Polls id children deadline
      { h with machine := h.machine.onward.advance pollInterval } intervals alive h') :
    Polls id children deadline h (intervals + 1) alive h' where
  ends n := by
    rcases n with _ | n
    · exact ⟨nofun, nofun⟩
    · rw [awaitUntil_succ, if_neg hdone, hpolls.ends n]
      omega
  now := hpolls.now.trans (h.machine.now_after_interval intervals)
  seen := hpolls.seen
  last := hpolls.last
  begins j hj := by
    rcases j with _ | j
    · rw [Bool.or_eq_true, not_or] at hdone
      exact hdone.2
    · rw [← h.machine.now_after_interval,
        ← (MachineAction.pass_quiet pollInterval h.machine).quiet.arithmetic]
      exact hpolls.begins j (Nat.lt_of_succ_lt_succ hj)

/-- If the deadline comes after some intervals, there are no more than these. -/
theorem exists_polls (id : Nat) (children : List Nat) (deadline : Time) (k : Nat) :
    ∀ {h : Host}, (h.machine.arithmetic.ofMicros (h.machine.now + pollInterval * k)).reaches
        deadline →
      ∃ intervals ≤ k, ∃ alive h', Polls id children deadline h intervals alive h' := by
  induction k with
  | zero =>
    intro h hreached
    refine ⟨0, Nat.le_refl _, _, h, polls_of_done ?_⟩
    rw [Bool.or_eq_true]
    exact .inr hreached
  | succ k ih =>
    intro h hreached
    by_cases hdone : (children.filter (seemsRunning h.machine id)).isEmpty ||
        h.machine.time.reaches deadline
    · exact ⟨0, Nat.zero_le _, _, h, polls_of_done hdone⟩
    · rw [← h.machine.now_after_interval,
        ← (MachineAction.pass_quiet pollInterval h.machine).quiet.arithmetic] at hreached
      obtain ⟨intervals, hle, alive, h', hpolls⟩ :=
        ih (h := { h with machine := h.machine.onward.advance pollInterval }) hreached
      exact ⟨intervals + 1, Nat.succ_le_succ hle, alive, h', polls_of_not_done hdone hpolls⟩

/-- The looks come to an end if times are computed exactly and the limit is finite. -/
theorem awaitExits_polls (hexact : h.machine.arithmetic = .exact) (id : Nat) (children : List Nat)
    (ticks : Int) : ∃ intervals alive h', awaitExits id children (.at ticks) h = (.ok alive, h') ∧
      Polls id children (h.machine.arithmetic.plus h.machine.time (.at ticks)) h intervals alive
        h' := by
  set deadline := h.machine.arithmetic.plus h.machine.time (.at ticks)
  have hcomes : h.machine.arithmetic.Comes deadline := by
    refine ⟨hexact, (h.machine.now * ticksPerMicro : Nat) + ticks, ?_⟩
    show h.machine.arithmetic.plus (h.machine.arithmetic.ofMicros h.machine.now) _ = _
    rw [hexact]
    rfl
  obtain ⟨k, hk, hreached⟩ : ∃ k, pollLimit h.machine id deadline = k + 1 ∧ _ :=
    reaches_of_pollsUntil hcomes
  obtain ⟨intervals, hle, alive, h', hpolls⟩ := exists_polls id children deadline k hreached
  refine ⟨intervals, alive, h', ?_, hpolls⟩
  show awaitUntil id children deadline (pollLimit h.machine id deadline) h = _
  rw [hpolls.ends, hk]
  exact Nat.lt_succ_of_le hle

/-! ## The end of a stop -/

/-- The deadline of a stop, or its beginning if that comes later, and an interval after it. -/
def latestEnd (m : Machine) (seconds : Double) : Time :=
  m.arithmetic.plus (m.arithmetic.plus m.time (Time.ofSeconds seconds).clamped)
    (m.arithmetic.ofMicros pollInterval)

theorem exact_latestEnd {m : Machine} (hexact : m.arithmetic = .exact) {seconds : Double}
    (hseconds : Time.ofSeconds seconds = .at ticks) : latestEnd m seconds =
      .at ((m.now * ticksPerMicro : Nat) + max ticks 0 + (pollInterval * ticksPerMicro : Nat)) := by
  have hclamped : (Time.at ticks).clamped = .at (max ticks 0) := by
    unfold Time.clamped
    simp only [Time.before, Time.zero, decide_eq_true_eq]
    split_ifs
    · rw [max_eq_left (by omega)]
    · rw [max_eq_right (by omega)]
  unfold latestEnd World.time
  rw [hseconds, hclamped, hexact]
  rfl

/-- What begins before the deadline of a stop and takes an interval ends by then, and so does what
takes no time. -/
theorem tolerates_latestEnd (hexact : h.machine.arithmetic = .exact) {seconds : Double}
    (hseconds : Time.ofSeconds seconds = .at ticks) :
    Tolerates (latestEnd h.machine seconds) (.at ((h.machine.now * ticksPerMicro : Nat) + ticks)) ∧
      h.IsWithin (latestEnd h.machine seconds) := by
  have hstart : Arithmetic.exact.ofMicros h.machine.now =
      .at (h.machine.now * ticksPerMicro : Nat) := rfl
  rw [exact_latestEnd hexact hseconds]
  refine ⟨fun micros hnot => ?_, hexact, ?_⟩
  · rw [Arithmetic.exact_reaches] at hnot
    have hlater : Arithmetic.exact.ofMicros (micros + pollInterval) =
        .at ((micros * ticksPerMicro : Nat) + (pollInterval * ticksPerMicro : Nat)) := by
      show Time.at ((micros + pollInterval) * ticksPerMicro : Nat) = _
      rw [Nat.add_mul, Int.natCast_add]
    rw [hlater]
    simp only [Time.before, decide_eq_true_eq]
    omega
  · rw [hstart]
    simp only [Time.before, decide_eq_true_eq]
    omega

/-- A stop within a finite number of seconds ends in time. -/
theorem stop_by_latestEnd (hexact : h.machine.arithmetic = .exact) {timeout : Value}
    {seconds : Double} (hseconds : Time.ofSeconds seconds = .at ticks)
    (htimeout : secondsOf timeout = .ok seconds) : ∃ inTime h', stop timeout h = (.ok inTime, h') ∧
      h'.machine.time.before (latestEnd h.machine seconds) := by
  obtain ⟨htolerates, hwithin⟩ := tolerates_latestEnd hexact hseconds
  set bound := latestEnd h.machine seconds
  have hclock : ∀ h' : Host, h'.IsWithin bound → h'.machine.time.before bound := by
    intro h' hwithin'
    unfold World.time
    rw [hwithin'.exact]
    exact hwithin'.now
  rcases hserver : h.session.server with _ | id
  · exact ⟨true, h, stop_of_none hserver timeout, hclock h hwithin⟩
  · set h₀ : Host := { h with session := { h.session with server := none } }
    set deadline := h.machine.arithmetic.plus h.machine.time (.ofSeconds seconds) with hdeadline
    have hat : deadline = .at ((h.machine.now * ticksPerMicro : Nat) + ticks) := by
      unfold World.time at hdeadline
      rw [hdeadline, hseconds, hexact]
      rfl
    have hstop : stop timeout h =
        shutDown id (shownTimeout timeout) (h₀.machine.isAlive id) deadline h₀ :=
      stop_apply hserver htimeout
    have hends : (stop timeout h).2.IsWithin bound := by
      rw [hstop, hat]
      exact shutDown_staysWithin htolerates id _ _ h₀ (hwithin.of_now rfl (Nat.le_refl _))
    rcases shutDown_ends id (shownTimeout timeout) deadline h₀ with
      ⟨inTime, gs, h', hresult, -⟩ | ⟨-, -, -, -, hnever⟩
    · rw [← hstop] at hresult
      rw [hresult] at hends
      exact ⟨inTime, h', hresult, hclock h' hends⟩
    · exact absurd ⟨hexact, _, hat⟩ hnever

/-- With times computed exactly, a stop within a finite number of seconds ends, and then the clock
shows no more than at its beginning, these seconds if they are not negative, and an interval
together.  The looks at any descendants come to an end, too, after some intervals, whether the
descendants end or not. -/
theorem stop_in_time {h : Host} (hexact : h.machine.arithmetic = .exact) :
    (∀ timeout negative quanta, secondsOf timeout = .ok (.finite negative quanta) →
      ∃ inTime h', stop timeout h = (.ok inTime, h') ∧
        h'.machine.time.before (latestEnd h.machine (.finite negative quanta))) ∧
    ∀ id children ticks, ∃ intervals alive h',
      awaitExits id children (.at ticks) h = (.ok alive, h') ∧
      Polls id children (h.machine.arithmetic.plus h.machine.time (.at ticks)) h intervals alive
        h' :=
  ⟨fun _ _ _ htimeout => stop_by_latestEnd hexact rfl htimeout, awaitExits_polls hexact⟩

/-- A server that ends soon after it is asked to, with a descendant that never does and one that
cannot be looked at. -/
def lingeringHost : Host :=
  { machine := {
      arithmetic := .exact
      started := [{
        pid := 100
        lifetime := { grace := some 20000 }
        descendants := [{ pid := 101, lifetime := { grace := none } },
          { pid := 102, lifetime := {}, statusObstacle := some .denied }] }] }
    session := { workspaceRoot := "/w", config := {}, server := some 0
                 acquirer := { installDir := "/i", platform := none } } }

/-- The descendants are looked at for the last time after the second that they are given, but less
than an interval after it.  They are killed at once if the time has been up from the beginning. -/
theorem stop_in_time_lingering :
    let second : Value := .real (.finite false Double.quantaPerUnit)
    let less : Value := .real (.finite true Double.quantaPerUnit)
    lingeringHost.machine.arithmetic = .exact ∧
    (stop second lingeringHost).2.machine.now = 1020000 ∧
    (stop less lingeringHost).2.machine.now = 0 ∧
    (∃ inTime h', stop second lingeringHost = (.ok inTime, h') ∧ h'.machine.time.before
      (latestEnd lingeringHost.machine (.finite false Double.quantaPerUnit))) ∧
    (∃ inTime h', stop less lingeringHost = (.ok inTime, h') ∧ h'.machine.time.before
      (latestEnd lingeringHost.machine (.finite true Double.quantaPerUnit))) ∧
    ∃ intervals alive h', Polls 0 [0, 1] (.at (60000 * ticksPerMicro)) lingeringHost intervals
      alive h' := by
  intro second less
  obtain ⟨hstops, hpolls⟩ := stop_in_time (h := lingeringHost) rfl
  refine ⟨rfl, by decide +kernel, by decide +kernel, hstops second _ _ rfl, hstops less _ _ rfl, ?_⟩
  obtain ⟨intervals, alive, h', -, hends⟩ := hpolls 0 [0, 1] (60000 * ticksPerMicro)
  have hdeadline : lingeringHost.machine.arithmetic.plus lingeringHost.machine.time
      (.at (60000 * ticksPerMicro)) = .at (60000 * ticksPerMicro) := by decide +kernel
  rw [hdeadline] at hends
  exact ⟨intervals, alive, h', hends⟩

end Session

end ServerLauncher
