import ServerLauncher.Machine.ServerActions
import ServerLauncher.Proofs.Frames

/-!
# Started programs

A program that has ended stays ended, and the actions that stop a program leave all other programs
as they are.  What such an action does is said by the signals that it sends and by what it tells.

## Main definitions

* `Started.Precedes`: a program as it is later.
* `World.Quiet`: nothing happens to programs, and no signal is sent.
* `World.Tends`: something happens to one program at most.
* `World.Runs`: a program has been started and has not ended.
* `World.signals`: the signals that have been sent, whether they could be delivered or not.
* `Machine.Deals`: a machine has gone on, sending some signals on behalf of one program.

## Main statements

* `MachineAction.signal_deals`, `MachineAction.signalDescendant_deals`: one signal is sent.
* `MachineAction.waitFor_cases`: a program has ended after a wait, or the time is up.
-/

namespace ServerLauncher

open MachineAction World

/-! ## Lifetimes -/

namespace Lifetime

variable {l : Lifetime} {now now' : Nat}

theorem hasEnded_iff : l.hasEnded now ↔ ∃ e, l.exit = some e ∧ e.time ≤ now := by
  unfold hasEnded
  rcases l.exit with _ | e
  · simp
  · simp

theorem hasEnded_of_le (h : l.hasEnded now) (hle : now ≤ now') : l.hasEnded now' := by
  obtain ⟨e, he, htime⟩ := hasEnded_iff.mp h
  exact hasEnded_iff.mpr ⟨e, he, htime.trans hle⟩

/-- The earliest end counts. -/
theorem hasEnded_endAt (e : Exit) : (l.endAt e).hasEnded now ↔ l.hasEnded now ∨ e.time ≤ now := by
  rw [hasEnded_iff, hasEnded_iff, endAt]
  rcases hexit : l.exit with _ | earlier
  · simp
  · by_cases hle : earlier.time ≤ e.time
    · simp only [if_pos hle, hexit, Option.some_inj, exists_eq_left']
      omega
    · simp only [if_neg hle, Option.some_inj, exists_eq_left']
      omega

theorem hasEnded_terminate (h : l.hasEnded now) : (l.terminate now).hasEnded now := by
  unfold terminate
  split
  · exact (hasEnded_endAt _).mpr (.inl h)
  · exact h

/-- A program that was killed has ended. -/
theorem hasEnded_kill (l : Lifetime) (now : Nat) : (l.kill now).hasEnded now :=
  (hasEnded_endAt _).mpr (.inr (Nat.le_refl now))

end Lifetime

/-! ## Programs -/

/-- The process numbers of the descendants of a program. -/
def Started.pids (s : Started) : List Int := s.descendants.map (·.pid)

/-- A descendant apart from how it ends. -/
def Descendant.identity (d : Descendant) : Descendant := { d with lifetime := {} }

/-- A program as it is later. -/
structure Started.Precedes (s : Started) (now : Nat) (s' : Started) (now' : Nat) : Prop where
  pid : s'.pid = s.pid
  inspectObstacle : s'.inspectObstacle = s.inspectObstacle
  listObstacle : s'.listObstacle = s.listObstacle
  descendants : s'.descendants.map Descendant.identity = s.descendants.map Descendant.identity
  ended : s.lifetime.hasEnded now → s'.lifetime.hasEnded now'

namespace Started.Precedes

variable {s s' s'' : Started} {now now' now'' : Nat}

theorem of_le (s : Started) (h : now ≤ now') : s.Precedes now s now' :=
  ⟨rfl, rfl, rfl, rfl, fun hended => Lifetime.hasEnded_of_le hended h⟩

theorem trans (h : s.Precedes now s' now') (h' : s'.Precedes now' s'' now'') :
    s.Precedes now s'' now'' where
  pid := h'.pid.trans h.pid
  inspectObstacle := h'.inspectObstacle.trans h.inspectObstacle
  listObstacle := h'.listObstacle.trans h.listObstacle
  descendants := h'.descendants.trans h.descendants
  ended := h'.ended ∘ h.ended

theorem pids (h : s.Precedes now s' now') : s'.pids = s.pids := by
  have hmap := congrArg (List.map Descendant.pid) h.descendants
  rw [List.map_map, List.map_map] at hmap
  exact hmap

end Started.Precedes

/-! ## Signals -/

/-- A signal to the program with a process number. -/
inductive Signal where
  | terminate (pid : Int)
  | kill (pid : Int)
deriving DecidableEq, Repr

/-- The signal whose sending is seen, whether it could be delivered or not. -/
def Event.signal? : Event → Option Signal
  | .terminate pid | .terminateFailed pid => some (.terminate pid)
  | .kill pid | .killFailed pid => some (.kill pid)
  | _ => none

/-- The signals that have been sent. -/
def World.signals (w : World) : List Signal := w.events.filterMap Event.signal?

namespace World

variable {id : Nat} {w w' w'' : World}

/-- Nothing happens to programs, and no signal is sent. -/
structure Quiet (w w' : World) : Prop where
  now : w.now ≤ w'.now
  arithmetic : w'.arithmetic = w.arithmetic
  started : w'.started = w.started
  signals : w'.signals = w.signals

/-- Something happens to one program at most, and no program is started. -/
structure Tends (id : Nat) (w w' : World) : Prop where
  now : w.now ≤ w'.now
  arithmetic : w'.arithmetic = w.arithmetic
  length : w'.started.length = w.started.length
  others : ∀ j ≠ id, w'.started[j]? = w.started[j]?
  own : ∀ s, w.started[id]? = some s →
    ∃ s', w'.started[id]? = some s' ∧ s.Precedes w.now s' w'.now

/-- A program has been started and has not ended. -/
def Runs (w : World) (id : Nat) : Prop :=
  ∃ s, w.started[id]? = some s ∧ ¬ s.lifetime.hasEnded w.now

theorem Quiet.refl (w : World) : w.Quiet w := ⟨Nat.le_refl _, rfl, rfl, rfl⟩

theorem Quiet.trans (h : w.Quiet w') (h' : w'.Quiet w'') : w.Quiet w'' :=
  ⟨h.now.trans h'.now, h'.arithmetic.trans h.arithmetic, h'.started.trans h.started,
    h'.signals.trans h.signals⟩

theorem Quiet.tends (h : w.Quiet w') (id : Nat) : w.Tends id w' where
  now := h.now
  arithmetic := h.arithmetic
  length := by rw [h.started]
  others j _ := by rw [h.started]
  own s hs := ⟨s, by rw [h.started, hs], .of_le s h.now⟩

theorem Tends.refl (id : Nat) (w : World) : w.Tends id w := (Quiet.refl w).tends id

theorem Tends.trans (h : w.Tends id w') (h' : w'.Tends id w'') : w.Tends id w'' where
  now := h.now.trans h'.now
  arithmetic := h'.arithmetic.trans h.arithmetic
  length := h'.length.trans h.length
  others j hj := (h'.others j hj).trans (h.others j hj)
  own s hs := by
    obtain ⟨s', hs', hss'⟩ := h.own s hs
    obtain ⟨s'', hs'', hss''⟩ := h'.own s' hs'
    exact ⟨s'', hs'', hss'.trans hss''⟩

/-- A program that runs has been running. -/
theorem Tends.runs (h : w.Tends id w') {j : Nat} (hruns : w'.Runs j) : w.Runs j := by
  obtain ⟨s', hs', hgoes⟩ := hruns
  by_cases hj : j = id
  · rw [hj] at hs' ⊢
    have hlt : id < w.started.length := h.length ▸ (List.getElem?_eq_some_iff.mp hs').1
    have hs := List.getElem?_eq_getElem hlt
    obtain ⟨s'', hs'', hss''⟩ := h.own _ hs
    rw [hs', Option.some_inj] at hs''
    rw [hs''] at hgoes
    exact ⟨_, hs, fun hended => hgoes (hss''.ended hended)⟩
  · refine ⟨s', (h.others j hj).symm.trans hs', fun hended => hgoes ?_⟩
    exact Lifetime.hasEnded_of_le hended h.now

end World

namespace Machine

variable {id : Nat} {gs gs' : List Signal} {m m' m'' : Machine} {s : Started}

theorem isAlive_of_started (hs : m.started? id = some s) :
    m.isAlive id = !s.lifetime.hasEnded m.now := by
  unfold isAlive
  rw [hs]

/-- A machine has gone on, sending some signals on behalf of one program. -/
structure Deals (id : Nat) (gs : List Signal) (m m' : Machine) : Prop where
  leads : m.Leads (Tends id) m'
  signals : m'.signals = m.signals ++ gs

theorem Leads.tends (h : m.Leads (Tends id) m') : m.toWorld.Tends id m'.toWorld :=
  h.keeps (.refl id) (fun _ _ _ => .trans) fun _ _ h => h

theorem Leads.quiet (h : m.Leads Quiet m') : m.toWorld.Quiet m'.toWorld :=
  h.keeps .refl (fun _ _ _ => .trans) fun _ _ h => h

theorem Leads.deals (h : m.Leads Quiet m') (id : Nat) : m.Deals id [] m' :=
  ⟨h.mono fun _ _ h => h.tends id, by rw [h.quiet.signals, List.append_nil]⟩

theorem Deals.refl (id : Nat) (m : Machine) : m.Deals id [] m := (Leads.refl m).deals id

theorem Deals.trans (h : m.Deals id gs m') (h' : m'.Deals id gs' m'') :
    m.Deals id (gs ++ gs') m'' :=
  ⟨h.leads.trans h'.leads, by rw [h'.signals, h.signals, List.append_assoc]⟩

/-- The program is still there, as it is later. -/
theorem Deals.started? (h : m.Deals id gs m') (hs : m.started? id = some s) :
    ∃ s', m'.started? id = some s' ∧ s.Precedes m.now s' m'.now :=
  h.leads.tends.own s hs

theorem isAlive_iff_runs : m.isAlive id ↔ m.toWorld.Runs id := by
  unfold isAlive Runs started?
  rcases m.started[id]? with _ | s
  · simp
  · simp

/-- A program that has ended stays ended. -/
theorem Deals.not_isAlive (h : m.Deals id gs m') (hended : m.isAlive id = false) :
    m'.isAlive id = false := by
  by_contra halive
  rw [Bool.not_eq_false, isAlive_iff_runs] at halive
  have hruns := h.leads.tends.runs halive
  rw [← isAlive_iff_runs, hended] at hruns
  exact Bool.false_ne_true hruns

/-! ## The clock -/

theorem ring_quiet (m : Machine) (t : Nat) : m.toWorld.Quiet (m.ring t).toWorld := by
  obtain ⟨network, events, records, -, hevents, heq⟩ := m.ring_eq t
  rw [heq]
  refine ⟨Nat.le_max_left _ _, rfl, rfl, ?_⟩
  have hnone : events.filterMap Event.signal? = [] := by
    rw [List.filterMap_eq_nil_iff]
    intro e he
    obtain ⟨url, rfl⟩ := hevents e he
    rfl
  show (m.events ++ events).filterMap Event.signal? = m.events.filterMap Event.signal?
  rw [List.filterMap_append, hnone, List.append_nil]

theorem advanceTo_quiet (m : Machine) (t : Nat) : m.Leads Quiet (m.onward.advanceTo t) := by
  have hring : m.Leads Quiet (m.onward.ringBy t) := by
    unfold ringBy
    split
    · split
      · refine .step ?_ (m.onward.ring_quiet _)
        obtain ⟨network, events, records, -, -, heq⟩ := m.onward.ring_eq ‹_›
        rw [heq]
        rfl
      · exact .step rfl (.refl _)
    · exact .step rfl (.refl _)
  exact hring.trans (.step rfl ⟨Nat.le_max_left _ _, rfl, rfl, rfl⟩)

end Machine

namespace MachineAction

variable {id : Nat} {m : Machine} {s : Started}

/-! ## What is quiet -/

theorem record_quiet (level : Level) (source : Source) (message : String) :
    Proceeds Quiet (record level source message) :=
  .of_change (fun _ => rfl) fun _ => ⟨Nat.le_refl _, rfl, rfl, rfl⟩

theorem pass_quiet (micros : Nat) : Proceeds Quiet (pass micros) := fun m => m.advanceTo_quiet _

theorem closePipe_apply (id : Nat) (pipe : Pipe) (m : Machine) :
    closePipe id pipe m = match m.started? id with
      | none => (.ok (), m)
      | some s => (if s.brokenPipes.contains pipe then .error (.system errnoBrokenPipe none)
          else .ok (), m.onward.observe (.closePipe s.pid pipe)) := by
  unfold closePipe
  rw [observe_bind_apply]
  rcases m.started? id with _ | s
  · rfl
  · show (if s.brokenPipes.contains pipe then throw _ else pure () : MachineAction Unit) _ = _
    by_cases hbroken : s.brokenPipes.contains pipe
    · rw [if_pos hbroken]
      simp only [if_pos hbroken]
      rfl
    · rw [if_neg hbroken]
      simp only [if_neg hbroken]
      rfl

theorem closePipe_quiet (id : Nat) (pipe : Pipe) : Proceeds Quiet (closePipe id pipe) := by
  intro m
  rw [closePipe_apply]
  rcases m.started? id with _ | s
  · exact .refl m
  · refine .step rfl ⟨Nat.le_refl _, rfl, rfl, ?_⟩
    show (m.events ++ [_]).filterMap Event.signal? = m.events.filterMap Event.signal?
    rw [List.filterMap_append]
    exact List.append_nil _

/-- Closing a pipe fails only because the pipe is broken. -/
theorem closePipe_isSystem {id : Nat} {pipe : Pipe} {m : Machine} {e : Fault}
    (h : (closePipe id pipe m).1 = .error e) : e.isSystem := by
  rw [closePipe_apply] at h
  rcases hs : m.started? id with _ | s
  · rw [hs] at h
    cases h
  · rw [hs] at h
    dsimp only at h
    split_ifs at h
    cases h
    rfl

theorem closePipe_now (id : Nat) (pipe : Pipe) (m : Machine) :
    (closePipe id pipe m).2.now = m.now := by
  rw [closePipe_apply]
  rcases m.started? id with _ | s
  · rfl
  · rfl

/-- A program is waited for while time passes, and nothing else is done. -/
theorem waitFor_proceeds {R : World → World → Prop}
    (hadvance : ∀ (m : Machine) (t : Nat), m.Leads R (m.onward.advanceTo t)) (id : Nat)
    (limit : Time) : Proceeds R (waitFor id limit) := by
  have hchange : ∀ t, Proceeds R (change fun m => m.advanceTo t) := fun t m => hadvance m t
  have hpass : ∀ micros, Proceeds R (pass micros) := fun micros m => hadvance m _
  refine .bind .of_get fun m => ?_
  dsimp only
  split
  · exact .bind (hchange _) fun _ => .of_pure _
  · exact .ite (.bind (hchange _) fun _ => .of_pure _) (.bind (hpass _) fun _ => .of_pure _)
  · exact .bind (hpass _) fun _ => .of_pure _
  · exact .of_throw _

theorem waitFor_quiet (id : Nat) (limit : Time) : Proceeds Quiet (waitFor id limit) :=
  waitFor_proceeds Machine.advanceTo_quiet id limit

/-- Listing the descendants of a program does nothing. -/
theorem listDescendants_proceeds {R : World → World → Prop} (id : Nat) :
    Proceeds R (listDescendants id) := by
  refine .bind (.of_observe _) fun o => ?_
  rcases o with _ | s
  · exact .of_pure _
  · dsimp only
    split
    · exact .of_pure _
    · exact .of_pure _
    · exact .of_pure _

/-! ## Signals -/

/-- An event is a signal, or it is none. -/
theorem event_deals (id : Nat) (e : Event) (m : Machine) :
    m.Deals id e.signal?.toList (event e m).2 := by
  refine ⟨.step rfl ⟨Nat.le_refl _, rfl, rfl, fun _ _ => rfl, fun s hs => ⟨s, hs, ?_⟩⟩, ?_⟩
  · exact .of_le s (Nat.le_refl _)
  · show (m.events ++ [e]).filterMap Event.signal? = m.events.filterMap Event.signal? ++ _
    rw [List.filterMap_append]
    rcases hsignal : e.signal? with _ | g
    · simp [hsignal]
    · simp [hsignal]

theorem changeStarted_deals {f : Machine → Started → Started}
    (hs : m.started? id = some s) (hf : s.Precedes m.now (f m.onward s) m.now) :
    m.Deals id [] (change (fun m => m.changeStarted id (f m)) m).2 := by
  have hget : ∀ j : Nat, ((m.onward.changeStarted id (f m.onward)).started)[j]? =
      (m.started[j]?).map fun s => if id = j then f m.onward s else s := fun j =>
    List.getElem?_modify ..
  refine ⟨.step rfl ⟨Nat.le_refl _, rfl, List.length_modify .., fun j hj => ?_, fun s' hs' => ?_⟩,
    (List.append_nil _).symm⟩
  · rw [change_apply, hget, Option.map_congr fun s _ => if_neg hj.symm]
    exact Option.map_id'
  · have hss' : s' = s := Option.some_inj.mp (hs'.symm.trans hs)
    rw [change_apply, hget, hs', hss']
    exact ⟨_, congrArg some (if_pos rfl), hf⟩

/-- A signal is an event and a change of one program. -/
theorem signal_proceeds {R : World → World → Prop} {e : Int → Event}
    {f : Lifetime → Nat → Lifetime} (hevent : ∀ pid, Proceeds R (event (e pid)))
    (hchange : ∀ f : Machine → Started → Started, (∀ m s, (f m s).pid = s.pid) →
      Proceeds R (change fun m => m.changeStarted id (f m))) : Proceeds R (signal id e f) := by
  refine .bind (.of_observe _) fun o => ?_
  rcases o with _ | s
  · exact .of_pure _
  · exact .bind (hevent _) fun _ => hchange _ fun _ _ => rfl

/-- So is one to a descendant. -/
theorem signalDescendant_proceeds {R : World → World → Prop}
    {own : Descendant → Option Obstacle} {done failed : Int → Event} {f : Lifetime → Nat → Lifetime}
    (hdone : ∀ pid, Proceeds R (event (done pid)))
    (hfailed : ∀ pid, Proceeds R (event (failed pid)))
    (hchange : ∀ f : Machine → Started → Started, (∀ m s, (f m s).pid = s.pid) →
      Proceeds R (change fun m => m.changeStarted id (f m))) (child : Nat) :
    Proceeds R (signalDescendant id child own done failed f) := by
  refine .bind (.of_observe _) fun o => ?_
  rcases o with _ | d
  · exact .of_pure _
  · refine .bind (.of_observe _) fun now => ?_
    split
    · exact .bind (hfailed _) fun _ => .of_pure _
    · exact .bind (hdone _) fun _ => .bind (hchange _ fun _ _ => rfl) fun _ => .of_pure _

/-- A signal to a started program is sent, and then the program is as it is after it. -/
theorem signal_deals {e : Int → Event} {g : Signal} {f : Lifetime → Nat → Lifetime}
    (hs : m.started? id = some s) (hg : (e s.pid).signal? = some g)
    (hf : s.lifetime.hasEnded m.now → (f s.lifetime m.now).hasEnded m.now) :
    ∃ m', signal id e f m = (.ok (), m') ∧ m.Deals id [g] m' ∧ m'.now = m.now ∧
      m'.started? id = some { s with lifetime := f s.lifetime m.now } := by
  have hevent := event_deals id (e s.pid) m
  rw [hg] at hevent
  have hchange := changeStarted_deals (m := (event (e s.pid) m).2)
    (f := fun m s => { s with lifetime := f s.lifetime m.now }) hs ⟨rfl, rfl, rfl, rfl, hf⟩
  refine ⟨_, ?_, hevent.trans hchange, rfl, ?_⟩
  · unfold signal
    rw [observe_bind_apply, hs]
    rfl
  · refine (List.getElem?_modify ..).trans ?_
    show (m.started? id).map _ = _
    rw [hs]
    exact congrArg some (if_pos rfl)

/-- A descendant that there is gets a signal, whether it can be delivered or not. -/
theorem signalDescendant_deals {own : Descendant → Option Obstacle} {done failed : Int → Event}
    {sig : Int → Signal} {f : Lifetime → Nat → Lifetime} (hs : m.started? id = some s)
    (hdone : ∀ pid, (done pid).signal? = some (sig pid))
    (hfailed : ∀ pid, (failed pid).signal? = some (sig pid)) (child : Nat) :
    ∃ r m', signalDescendant id child own done failed f m = (.ok r, m') ∧
      m.Deals id ((s.pids[child]?).toList.map sig) m' ∧ m'.now = m.now := by
  have hchild : (m.descendants id)[child]? = s.descendants[child]? := by
    unfold Machine.descendants
    rw [hs]
  unfold signalDescendant descendant? Started.pids
  rw [observe_bind_apply, hchild, List.getElem?_map]
  rcases hd : s.descendants[child]? with _ | d
  · exact ⟨_, m, rfl, .refl id m, rfl⟩
  · simp only [observe_bind_apply]
    rcases hobstacle : d.obstacle? (own d) m.now with _ | obstacle
    · have hevent := event_deals id (done d.pid) m
      rw [hdone] at hevent
      refine ⟨_, _, rfl, hevent.trans (changeStarted_deals (m := (event (done d.pid) m).2)
        (f := fun m s => { s with
          descendants := s.descendants.modify child fun d =>
            { d with lifetime := f d.lifetime m.now } }) hs ?_), rfl⟩
      refine ⟨rfl, rfl, rfl, ?_, fun h => h⟩
      refine List.ext_getElem? fun j => ?_
      rw [List.getElem?_map, List.getElem?_map, List.getElem?_modify]
      rcases s.descendants[j]? with _ | d
      · rfl
      · show some (Descendant.identity (if child = j then _ else d)) = _
        split_ifs
        · rfl
        · rfl
    · have hevent := event_deals id (failed d.pid) m
      rw [hfailed] at hevent
      exact ⟨_, _, rfl, hevent, rfl⟩

/-! ## Waiting -/

/-- A program is waited for until it has ended, until the time is up, or for ever. -/
theorem waitFor_cases (hs : m.started? id = some s) (limit : Time) :
    (∃ m', waitFor id limit m = (.ok true, m') ∧ m'.isAlive id = false) ∨
    (∃ micros m', m.arithmetic.microsUntil? limit = some micros ∧
      waitFor id limit m = (.ok false, m') ∧ m'.now = m.now + micros ∧ m'.isAlive id = true) ∨
    (m.arithmetic.microsUntil? limit = none ∧ s.lifetime.exit = none ∧
      waitFor id limit m = (.error .stuck, m)) := by
  have hexit : (m.started? id).bind (·.lifetime.exit) = s.lifetime.exit := by
    rw [hs]
    rfl
  -- How it is when the clock has been moved on.
  have hthere : ∀ t, (m.onward.advanceTo t).started? id = some s := fun t =>
    (congrArg (·[id]?) (m.advanceTo_quiet t).quiet.started).trans hs
  have hreached : ∀ e, s.lifetime.exit = some e →
      (m.onward.advanceTo e.time).isAlive id = false := by
    intro e he
    rw [Machine.isAlive_of_started (hthere _), Bool.not_eq_false']
    exact Lifetime.hasEnded_iff.mpr ⟨e, he, Nat.le_max_right _ _⟩
  have hpassed : ∀ micros, ¬ s.lifetime.hasEnded (m.now + micros) →
      (m.onward.advance micros).isAlive id = true := by
    intro micros hnot
    have hnow := m.onward.advance_now micros
    rw [Machine.isAlive_of_started (m := m.onward.advance micros) (hthere _), hnow]
    simpa using hnot
  unfold waitFor
  rw [get_bind_apply]
  simp only [hexit]
  rcases he : s.lifetime.exit with _ | e
  · rcases hmicros : m.arithmetic.microsUntil? limit with _ | micros
    · exact .inr (.inr ⟨rfl, rfl, rfl⟩)
    · have hnot : ¬ s.lifetime.hasEnded (m.now + micros) := by
        simp [Lifetime.hasEnded, he]
      exact .inr (.inl ⟨micros, _, rfl, rfl, m.onward.advance_now micros, hpassed micros hnot⟩)
  · rcases hmicros : m.arithmetic.microsUntil? limit with _ | micros
    · exact .inl ⟨_, rfl, hreached e he⟩
    · dsimp only
      by_cases hle : e.time ≤ m.now + micros
      · rw [if_pos hle]
        exact .inl ⟨_, rfl, hreached e he⟩
      · rw [if_neg hle]
        have hnot : ¬ s.lifetime.hasEnded (m.now + micros) := by
          simp [Lifetime.hasEnded, he, hle]
        exact .inr (.inl ⟨micros, _, rfl, rfl, m.onward.advance_now micros, hpassed micros hnot⟩)

end MachineAction

end ServerLauncher
