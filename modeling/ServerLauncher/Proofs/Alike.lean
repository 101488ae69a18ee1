import ServerLauncher.Proofs.Parallel
import ServerLauncher.Proofs.Requests

/-!
# Machines that are alike

Two machines run the same download, but on one of them the alarm is set to a later time.  As long as
the alarm of the other one has not gone off, they differ only in when it will, and in what the
requests have said about the time left.

When the alarm has gone off they are not alike any more; but what is left to be done after the last
check of the deadline looks at files only, and these are still the same.

## Main definitions

* `Machine.Alike`: two machines differ only in their alarms and in what the requests have said.
* `World.ledger`, `Machine.SameLedger`: what the last stage looks at, and what a download leaves
  behind.
* `Machine.Tied`: two machines have the same ledger, and they are alike before the alarm.

## Main statements

* `Machine.Alike.advance`: alike machines stay alike while time passes, before the alarm.
* `Machine.relates_ledger`, `Machine.relates_tied`: actions on files have the same results.
* `MachineAction.closeConnection_agrees`, `MachineAction.takeChunk_agrees` and so on: so have those
  actions on the network in which no time passes.
-/

namespace ServerLauncher

open MachineAction World StepKind

/-! ## Machines that are alike -/

/-- An alarm goes off before another one does, or neither is on. -/
inductive Alarm.NotAfter : Alarm → Alarm → Prop where
  | off : NotAfter .off .off
  | at {t t' : Nat} (h : t ≤ t') : NotAfter (.at t) (.at t')
  | never (t : Nat) : NotAfter (.at t) .never
  | both : NotAfter .never .never

namespace Machine

variable {m m' : Machine}

/-- The machine with another alarm, other events, and another past. -/
def retold (m : Machine) (alarm : Alarm) (events : List Event) (past : List World) : Machine :=
  { m with transfer := { m.transfer with alarm }, events, past }

/-- The machine is like another one whose alarm goes off later and whose requests have said
something else, but to the same addresses. -/
inductive Alike (m : Machine) : Machine → Prop where
  | intro (alarm : Alarm) (events : List Event) (past : List World)
      (halarm : m.transfer.alarm.NotAfter alarm)
      (hevents : events.filterMap Event.address? = m.addresses) :
      Alike m (m.retold alarm events past)

theorem Alike.refl (h : m.transfer.alarm = .off) : m.Alike m := by
  refine .intro m.transfer.alarm m.events m.past ?_ rfl
  rw [h]
  exact .off

theorem Alike.network_eq (h : m.Alike m') : m'.network = m.network := by
  cases h
  rfl

/-- Machines stay alike when both change in the same way, but for what tells them apart. -/
theorem Alike.update {f : Machine → Machine} (h : m.Alike m')
    (hf : ∀ alarm events past, ∃ past',
      f (m.retold alarm events past) = (f m).retold alarm events past')
    (halarm : (f m).transfer.alarm = m.transfer.alarm)
    (haddresses : (f m).addresses = m.addresses) : (f m).Alike (f m') := by
  cases h with
  | intro alarm events past hlater hevents =>
    obtain ⟨past', heq⟩ := hf alarm events past
    rw [heq]
    refine .intro alarm events past' ?_ ?_
    · rw [halarm]
      exact hlater
    · rw [hevents, haddresses]

/-- Machines stay alike when the same is seen on both, or requests to the same address. -/
theorem Alike.observe (h : m.Alike m') {e e' : Event} (he : e'.address? = e.address?) :
    (m.onward.observe e).Alike (m'.onward.observe e') := by
  cases h with
  | intro alarm events past halarm hevents =>
    refine .intro alarm (events ++ [e']) _ halarm ?_
    have hsame : [e'].filterMap Event.address? = [e].filterMap Event.address? := by
      simp only [List.filterMap_cons, he, List.filterMap_nil]
    show _ = (m.events ++ [e]).filterMap Event.address?
    rw [List.filterMap_append, List.filterMap_append, hevents, hsame]
    rfl

/-- The alarm does not go off if its time is later. -/
theorem ringBy_of_notAfter (limit : Nat) {alarm : Alarm} (events : List Event)
    (past : List World) (halarm : m.transfer.alarm.NotAfter alarm)
    (hrunning : (m.ringBy limit).transfer.hasExpired = false) :
    m.ringBy limit = m ∧
      (m.retold alarm events past).ringBy limit = m.retold alarm events past := by
  have hstays : ∀ t, m.transfer.alarm = .at t → ¬ t ≤ limit := by
    intro t ht hle
    obtain ⟨network, events, records, -, -, heq⟩ := m.ring_eq t
    simp only [ringBy, ht, if_pos hle, heq] at hrunning
    cases hrunning
  unfold ringBy
  generalize m.transfer.alarm = now at halarm hstays
  cases halarm with
  | off => exact ⟨rfl, rfl⟩
  | both => exact ⟨rfl, rfl⟩
  | never t =>
    refine ⟨?_, rfl⟩
    dsimp only
    rw [if_neg (hstays t rfl)]
  | @«at» t t' hle =>
    have hlater : ¬ t' ≤ limit := fun h => hstays t rfl (hle.trans h)
    refine ⟨?_, ?_⟩
    · dsimp only
      rw [if_neg (hstays t rfl)]
    · show (if t' ≤ limit then _ else _) = _
      rw [if_neg hlater]

/-- Machines stay alike while time passes, before the alarm. -/
theorem Alike.advance (h : m.Alike m') {micros : Nat}
    (hrunning : (m.onward.advance micros).transfer.hasExpired = false) :
    (m.onward.advance micros).Alike (m'.onward.advance micros) := by
  cases h with
  | intro alarm events past halarm hevents =>
    obtain ⟨hstays, hstays'⟩ := ringBy_of_notAfter (m := m.onward) (m.now + micros) events
      ((m.retold alarm events past).toWorld :: past) halarm hrunning
    have hsame : (m.retold alarm events past).onward.ringBy (m.now + micros) =
        (m.retold alarm events past).onward := hstays'
    show Alike { (m.onward.ringBy (m.now + micros)).onward with
        now := max (m.onward.ringBy (m.now + micros)).now (m.now + micros) }
      { ((m.retold alarm events past).onward.ringBy (m.now + micros)).onward with
        now := max ((m.retold alarm events past).onward.ringBy (m.now + micros)).now
          (m.now + micros) }
    rw [hstays, hsame]
    exact .intro alarm events _ halarm hevents

end Machine

/-! ## What the last stage looks at -/

/-- What the last stage looks at, and what a download leaves behind. -/
structure Ledger where
  files : FileTree
  current : String
  uses : FileOperation → Nat
  disturbances : List Disturbance
  lacksExecuteBits : Bool
  written : Nat
  addresses : List String

/-- What the last stage looks at in a world. -/
def World.ledger (w : World) : Ledger :=
  ⟨w.files, w.current, w.uses, w.disturbances, w.lacksExecuteBits, w.transfer.written, w.addresses⟩

theorem World.Step.ledger_eq {k : StepKind} {w w' : World} (h : w.Step k w')
    (hk : k = .clock ∨ k = .note ∨ k = .alarm) : w'.ledger = w.ledger := by
  have haddresses : w'.addresses = w.addresses := by
    rw [addresses_eq, addresses_eq, h.requests_eq]
    rcases hk with rfl | rfl | rfl <;> simp
  unfold ledger
  rw [haddresses]
  rcases hk with rfl | rfl | rfl
  all_goals cases h <;> rfl

namespace Machine

variable {m m' : Machine}

theorem advance_ledger (m : Machine) (micros : Nat) :
    (m.onward.advance micros).ledger = m.ledger := by
  have hpass : m.Leads (StepOf {.clock}) (m.onward.advance micros) :=
    pass_makes (by simp) micros m
  exact hpass.keeps_eq (f := World.ledger) fun k hk _ _ hs => by
    exact hs.ledger_eq (.inl hk)

/-- Two machines agree in what the last stage looks at. -/
def SameLedger (m m' : Machine) : Prop := m'.ledger = m.ledger

theorem Alike.ledger_eq (h : m.Alike m') : m.SameLedger m' := by
  cases h with
  | intro alarm events past halarm hevents =>
    show Ledger.mk _ _ _ _ _ _ (events.filterMap Event.address?) = _
    rw [hevents]
    rfl

theorem relates_ledger : Relates SameLedger where
  files h := congrArg Ledger.files h
  current h := congrArg Ledger.current h
  uses h := congrArg Ledger.uses h
  disturbances h := congrArg Ledger.disturbances h
  store h f := by
    have hstored := congrArg (fun ledger : Ledger => { ledger with files := f ledger.files }) h
    exact hstored
  count h f := by
    have hcounted := congrArg (fun ledger : Ledger => { ledger with uses := f ledger.uses }) h
    exact hcounted
  handle h _ := h
  delay {m m'} h micros := by
    unfold SameLedger
    rw [advance_ledger, advance_ledger]
    exact h

/-- Two machines have the same ledger, and they are alike before the alarm. -/
structure Tied (m m' : Machine) : Prop where
  ledger : m.SameLedger m'
  alike : m.transfer.hasExpired = false → m.Alike m'

theorem Alike.tied (h : m.Alike m') : m.Tied m' := ⟨h.ledger_eq, fun _ => h⟩

/-- What has not expired by now had not expired before. -/
theorem Leads.running {ks : Set StepKind} (h : m.Leads (StepOf ks) m')
    (hrunning : m'.transfer.hasExpired = false) : m.transfer.hasExpired = false := by
  by_contra hexpired
  rw [Bool.not_eq_false] at hexpired
  rw [h.precedes.hasExpired hexpired] at hrunning
  cases hrunning

theorem relates_tied : Relates Tied where
  files h := relates_ledger.files h.ledger
  current h := relates_ledger.current h.ledger
  uses h := relates_ledger.uses h.ledger
  disturbances h := relates_ledger.disturbances h.ledger
  store h f := ⟨relates_ledger.store h.ledger f, fun hrunning =>
    (h.alike hrunning).update (f := fun m => { m.onward with files := f m.files })
      (fun _ _ _ => ⟨_, rfl⟩) rfl rfl⟩
  count h f := ⟨relates_ledger.count h.ledger f, fun hrunning =>
    (h.alike hrunning).update (f := fun m => { m.onward with uses := f m.uses })
      (fun _ _ _ => ⟨_, rfl⟩) rfl rfl⟩
  handle h f := ⟨relates_ledger.handle h.ledger f, fun hrunning =>
    (h.alike hrunning).update (f := fun m => { m.onward with opened := f m.opened })
      (fun _ _ _ => ⟨_, rfl⟩) rfl rfl⟩
  delay {m m'} h micros := by
    refine ⟨relates_ledger.delay h.ledger micros, fun hrunning => ?_⟩
    have hpass : m.Leads (StepOf {.clock}) (m.onward.advance micros) :=
      pass_makes (by simp) micros m
    exact (h.alike (hpass.running hrunning)).advance hrunning

end Machine

/-! ## Actions on the network -/

namespace MachineAction

open Machine

theorem record_agrees (level : Level) (source : Source) (message : String) :
    Agrees Alike (record level source message) :=
  .of_change fun _ _ h => h.update (f := fun m => m.onward.record level source message)
    (fun _ _ _ => ⟨_, rfl⟩) rfl rfl

theorem event_agrees (e : Event) : Agrees Alike (event e) :=
  .of_change fun _ _ h => h.observe rfl

theorem network_agrees (f : Network → Network) :
    Agrees Alike (change fun m => { m with network := f m.network }) :=
  .of_change fun _ _ h => h.update (f := fun m => { m.onward with network := f m.network })
    (fun _ _ _ => ⟨_, rfl⟩) rfl rfl

theorem connection?_agrees (id : Nat) : Agrees Alike (MachineAction.connection? id) :=
  .of_observe fun _ _ h => by rw [h.network_eq]

theorem isCut_agrees (id : Nat) : Agrees Alike (observe (isCut · id)) :=
  .of_observe fun _ _ h => by
    unfold isCut
    rw [h.network_eq]

theorem closeConnection_agrees (id : Nat) : Agrees Alike (closeConnection id) := by
  refine .bind (connection?_agrees id) fun c => ?_
  cases c with
  | none => exact .of_pure _
  | some c =>
    exact .ite (.of_pure _) (.bind (network_agrees (·.change id _)) fun _ => event_agrees _)

theorem takeChunk_agrees (id : Nat) (effect : ShutdownEffect) (chunk : Chunk) :
    Agrees Alike (takeChunk id effect chunk) := by
  refine .bind (isCut_agrees id) fun _ => .ite ?_ ?_
  · cases effect with
    | failure => exact .of_throw _
    | none | endOfBody => exact .of_pure _
  · exact .bind (network_agrees (·.change id _)) fun _ => .of_settle _

end MachineAction

end ServerLauncher
