import Mathlib.Data.Set.Basic
import ServerLauncher.Proofs.Sessions

/-!
# One server at a time

A session is used by any number of calls, one after the other, while the world around it changes on
its own.  Of the programs that it has started at most one runs at every moment, and between two
calls that is the one that the session holds.

There is one way to lose a server.  A call for a stop gives it up before it reads its timeout; if
that is no number of seconds which can be added to the clock, the call fails and the server goes on
without the session.  The programs that a use of a session lets go of in this way can be told from
its calls, and it is of all others that at most one runs.

## Main definitions

* `Session.Use`: what a user of a session can do with it.
* `Session.Use.forgotten`: the programs that a use of a session lets go of.
* `Session.IsKept`: every call keeps a relation between the hosts before and after.
* `Host.Steers`: at most one program runs all the time, and at the end the session holds it.
* `Session.IsOrderly`: what the next call does.

## Main statements

* `Session.IsKept.run`: what every call keeps is kept by every use of a session.
* `Session.Use.steers`: every use of a session starts its programs one at a time.
* `Session.one_server`: at most one server runs that has not been let go of, and what a call for a
  start and one for a stop do.
* `Session.one_server_forgotten`: two servers run if one has been let go of.
-/

namespace ServerLauncher

open ServerLauncher.Action MachineAction World

/-! ## Uses of a session -/

/-- The world changes on its own: time passes and programs end, but none is started. -/
structure World.Ages (w w' : World) : Prop where
  now : w.now ≤ w'.now
  length : w'.started.length = w.started.length
  runs : ∀ j, w'.Runs j → w.Runs j

theorem World.Ages.adds {w w' : World} (h : w.Ages w') (o : Option Nat) : w.Adds o w' :=
  ⟨Nat.le_of_eq h.length.symm, fun j hj => .inl (h.runs j hj)⟩

/-- The result of an action, whether it is a fault or not.  An action that lasts for ever has
none. -/
def SessionAction.rescue {α : Type} (x : SessionAction α) : SessionAction (Except Fault α) :=
  fun h => match x h with
    | (.error .stuck, h') => (.error .stuck, h')
    | (r, h') => (.ok r, h')

namespace SessionAction

variable {α : Type} {x : SessionAction α} {h : Host}

theorem rescue_snd (x : SessionAction α) (h : Host) : (rescue x h).2 = (x h).2 := by
  unfold rescue
  split
  · next heq => rw [heq]
  · next heq => rw [heq]

theorem rescue_of_stuck (hx : (x h).1 = .error .stuck) : (rescue x h).1 = .error .stuck := by
  have heq : x h = (.error .stuck, (x h).2) := Prod.ext hx rfl
  unfold rescue
  rw [heq]

end SessionAction

namespace Session

open SessionAction

/-- What a user of a session can do with it, in any order, while the world changes on its own. -/
inductive Use : Type → Type 1 where
  | start : Use Nat
  | stop (timeout : Value) : Use Bool
  | isRunning : Use Bool
  | launchInfo : Use LaunchInfo
  /-- The server is started for the time of a use. -/
  | «using» {α : Type} (body : Use α) : Use α
  | meanwhile (g : Machine → Machine) (hpast : ∀ m, (g m).past = m.past)
      (hages : ∀ m : Machine, m.toWorld.Ages (g m).toWorld) : Use Unit
  | pure {α : Type} (a : α) : Use α
  | throw {α : Type} (e : Fault) (h : e ≠ .stuck) : Use α
  | rescue {α : Type} (body : Use α) : Use (Except Fault α)
  | bind {α β : Type} (first : Use α) (next : α → Use β) : Use β

/-- A use of a session is carried out. -/
def Use.run {α : Type} : Use α → SessionAction α
  | .start => Session.start
  | .stop timeout => Session.stop timeout
  | .isRunning => Session.isRunning
  | .launchInfo => Session.launchInfo
  | .using body => Session.using body.run
  | .meanwhile g _ _ => onMachine (change g)
  | .pure a => Pure.pure a
  | .throw e _ => MonadExcept.throw e
  | .rescue body => SessionAction.rescue body.run
  | .bind first next => first.run >>= fun a => (next a).run

/-! ## Programs that are let go of -/

/-- The program that a call for a stop lets go of, since its timeout is no number of seconds. -/
def letsGo (timeout : Value) (s : Session) : List Nat :=
  match secondsOf timeout with
  | .ok _ => []
  | .error _ => s.server.toList

/-- The programs that a use of a session lets go of. -/
def Use.forgotten {α : Type} : Use α → Host → List Nat
  | .start, _ => []
  | .stop timeout, h => letsGo timeout h.session
  | .isRunning, _ => []
  | .launchInfo, _ => []
  | .using body, h =>
    match Session.start h with
    | (.ok _, h') => body.forgotten h'
    | (.error _, _) => []
  | .meanwhile _ _ _, _ => []
  | .pure _, _ => []
  | .throw _ _, _ => []
  | .rescue body, h => body.forgotten h
  | .bind first next, h =>
    first.forgotten h ++ match first.run h with
      | (.ok a, h') => (next a).forgotten h'
      | (.error _, _) => []

/-- Some programs without those of a list. -/
def without (own : Set Nat) (ids : List Nat) : Set Nat := {j | j ∈ own ∧ j ∉ ids}

theorem without_subset (own : Set Nat) (ids : List Nat) : without own ids ⊆ own := fun _ hj => hj.1

theorem without_nil (own : Set Nat) : without own [] = own := by
  ext j
  simp [without]

theorem without_append (own : Set Nat) (ids ids' : List Nat) :
    without own (ids ++ ids') = without (without own ids) ids' := by
  ext j
  simp [without, and_assoc]

/-- The session gives up its server, and only that is let go of. -/
theorem letsGo_of_unreadable {timeout : Value} {e : Fault} (hseconds : secondsOf timeout = .error e)
    (s : Session) : letsGo timeout s = s.server.toList := by
  rw [letsGo, hseconds]

theorem letsGo_of_readable {timeout : Value} {seconds : Double}
    (hseconds : secondsOf timeout = .ok seconds) (s : Session) : letsGo timeout s = [] := by
  rw [letsGo, hseconds]

/-! ## What every use keeps -/

/-- A relation between the hosts before and after is kept by every call, whatever its result, and by
the world when it changes on its own. -/
structure IsKept (R : Host → Host → Prop) : Prop where
  refl : ∀ h, R h h
  trans : ∀ {h h' h''}, R h h' → R h' h'' → R h h''
  start : ∀ h, R h (start h).2
  stop : ∀ timeout h, R h (stop timeout h).2
  launchInfo : ∀ h, R h (launchInfo h).2
  meanwhile : ∀ g : Machine → Machine, (∀ m, (g m).past = m.past) →
    (∀ m : Machine, m.toWorld.Ages (g m).toWorld) → ∀ h, R h (onMachine (change g) h).2

variable {α β : Type} {x : SessionAction α} {R : Host → Host → Prop}

theorem IsKept.bind {f : α → SessionAction β} (hR : IsKept R) (hx : ∀ h, R h (x h).2)
    (hf : ∀ a h, R h (f a h).2) (h : Host) : R h ((x >>= f) h).2 := by
  have hfirst := hx h
  refine bind_ends (P := fun r : Except Fault β × Host => R h r.2)
    (fun e h₁ hh₁ => ?_) fun a h₁ hh₁ => ?_
  · rw [hh₁] at hfirst
    exact hfirst
  · rw [hh₁] at hfirst
    exact hR.trans hfirst (hf a h₁)

/-- What every call keeps is kept by every use of a session. -/
theorem IsKept.run (hR : IsKept R) (u : Use α) : ∀ h : Host, R h (u.run h).2 := by
  induction u with
  | start => exact hR.start
  | stop timeout => exact hR.stop timeout
  | isRunning => exact hR.refl
  | launchInfo => exact hR.launchInfo
  | «using» _ ih =>
    exact hR.bind hR.start fun _ => hR.bind ih fun _ =>
      hR.bind (hR.stop stopTimeout) fun _ => hR.refl
  | meanwhile g hpast hages => exact hR.meanwhile g hpast hages
  | pure a => exact hR.refl
  | throw e _ => exact hR.refl
  | rescue _ ih =>
    intro h
    rw [Use.run, SessionAction.rescue_snd]
    exact ih h
  | bind _ _ ihx ihf => exact hR.bind ihx ihf

end Session

/-- The server that a session holds has been started, unless the session has held it before. -/
structure Host.Numbers (h h' : Host) : Prop where
  grows : h.machine.started.length ≤ h'.machine.started.length
  held : ∀ id, h'.session.server = some id →
    id < h'.machine.started.length ∨ h.session.server = some id

namespace Host.Numbers

variable {h h' h'' : Host}

theorem refl (h : Host) : h.Numbers h := ⟨Nat.le_refl _, fun _ => .inr⟩

/-- What has been started later or held before has so from the beginning on. -/
theorem comes {id : Nat} (hnumbers : h.Numbers h')
    (hgrows : h'.machine.started.length ≤ h''.machine.started.length)
    (hid : id < h''.machine.started.length ∨ h'.session.server = some id) :
    id < h''.machine.started.length ∨ h.session.server = some id := by
  rcases hid with hlt | hheld
  · exact .inl hlt
  · exact (hnumbers.held id hheld).imp_left (Nat.lt_of_lt_of_le · hgrows)

theorem trans (hnumbers : h.Numbers h') (hnumbers' : h'.Numbers h'') : h.Numbers h'' where
  grows := hnumbers.grows.trans hnumbers'.grows
  held id hid := hnumbers.comes hnumbers'.grows (hnumbers'.held id hid)

/-- An action that leaves the session its server. -/
theorem of_adds {o : Option Nat} (hleads : h.machine.Leads (Adds o) h'.machine)
    (hserver : h'.session.server = h.session.server) : h.Numbers h' :=
  ⟨hleads.adds.length, fun _ hid => .inr (hserver ▸ hid)⟩

end Host.Numbers

namespace Session

open SessionAction

theorem numbers_isKept : IsKept Host.Numbers where
  refl := .refl
  trans := .trans
  start h := by
    rcases start_cases h with ⟨-, hresult⟩ | ⟨-, hstarts⟩
    · rw [hresult]
      exact .refl h
    · generalize start h = r at hstarts ⊢
      cases hstarts with
      | failed e h' hspares hserver =>
        exact .of_adds (hspares.mono fun _ _ h => h.adds none) hserver
      | started id h' _ hthere hadds hserver =>
        refine ⟨hadds.adds.length, fun id' hid' => .inl ?_⟩
        cases hserver.symm.trans hid'
        exact hthere
  stop timeout h := by
    refine ⟨(stop_adds timeout h).adds.length, fun id hid => ?_⟩
    rw [stop_session] at hid
    cases hid
  launchInfo h :=
    .of_adds ((launchInfo_spares h).1.mono fun _ _ h => h.adds none) (launchInfo_spares h).2
  meanwhile _ hpast hages h :=
    .of_adds (.step (hpast _) ((hages h.machine.onward).adds none)) rfl

/-- What is let go of has been started, unless the session has held it from the beginning. -/
theorem Use.forgotten_lt {α : Type} (u : Use α) (h : Host) : ∀ id ∈ u.forgotten h,
    id < (u.run h).2.machine.started.length ∨ h.session.server = some id := by
  induction u generalizing h with
  | start => exact nofun
  | stop timeout =>
    intro id hid
    rw [forgotten, letsGo] at hid
    split at hid
    · cases hid
    · exact .inr (Option.mem_toList.mp hid)
  | isRunning => exact nofun
  | launchInfo => exact nofun
  | «using» body ih =>
    intro id hid
    rw [forgotten] at hid
    have hstart := numbers_isKept.start h
    rcases hstarted : Session.start h with ⟨e | server, h₁⟩
    · rw [hstarted] at hid
      cases hid
    · rw [hstarted] at hid hstart
      have hstop := numbers_isKept.stop stopTimeout (body.run h₁).2
      have hend : ((Use.using body).run h).2 = (Session.stop stopTimeout (body.run h₁).2).2 := by
        rw [run, Session.using, bind_of_ok hstarted, SessionAction.attempt_bind_apply]
        exact bind_ends (P := fun r => r.2 = _) (fun _ _ heq => by rw [heq]) fun _ _ heq => by
          rw [heq]
          rfl
      rw [hend]
      have hbody := numbers_isKept.run body h₁
      exact hstart.comes (hbody.grows.trans hstop.grows)
        ((ih h₁ id hid).imp_left (Nat.lt_of_lt_of_le · hstop.grows))
  | meanwhile => exact nofun
  | pure => exact nofun
  | throw => exact nofun
  | rescue body ih =>
    rw [run, rescue_snd]
    exact ih h
  | bind first next ihx ihf =>
    intro id hid
    rw [forgotten, List.mem_append] at hid
    have hfirst := numbers_isKept.run first h
    have hbefore := ihx h id
    rcases hresult : first.run h with ⟨e | a, h₁⟩
    · have hrun : (first.bind next).run h = (.error e, h₁) := bind_of_error hresult
      rw [hresult] at hid hbefore
      rw [hrun]
      exact hbefore (hid.resolve_right nofun)
    · have hrun : (first.bind next).run h = (next a).run h₁ := bind_of_ok hresult
      have hafter := numbers_isKept.run (next a) h₁
      rw [hresult] at hid hbefore hfirst
      rw [hrun]
      rcases hid with hid | hid
      · exact (hbefore hid).imp_left (Nat.lt_of_lt_of_le · hafter.grows)
      · exact hfirst.comes hafter.grows (ihf a h₁ id hid)

end Session

/-! ## One program at a time -/

/-- From a host on, at most one of some programs runs all the time, and when an action ends, the
session holds it. -/
structure Host.Steers {α : Type} (own : Set Nat) (h : Host) (r : Except Fault α × Host) : Prop where
  leads : h.machine.Leads (fun _ _ => True) r.2.machine
  one : ∀ w ∈ h.machine.momentsSince r.2.machine, w.RunsOne own
  held : r.1 ≠ .error .stuck → r.2.machine.RunsOnly own r.2.session.server

namespace Host.Steers

variable {α β : Type} {own own' : Set Nat} {h h' : Host} {o : Option Nat}

/-- At each moment at most the program runs that the session holds at the end. -/
theorem of_adds {r : Except Fault α × Host} (hleads : h.machine.Leads (Adds o) r.2.machine)
    (honly : h.machine.RunsOnly own o) (hserver : r.2.session.server = o) : h.Steers own r where
  leads := hleads.mono fun _ _ _ => trivial
  one w hw := (honly.adds (hleads.adds_of_mem hw)).runsOne
  held _ := by
    rw [hserver]
    exact honly.adds hleads.adds

theorem anti {r : Except Fault α × Host} (hr : h.Steers own r) (hsubset : own' ⊆ own) :
    h.Steers own' r where
  leads := hr.leads
  one w hw := (hr.one w hw).anti hsubset
  held hends := (hr.held hends).anti hsubset

theorem trans {r : Except Fault α × Host} {r' : Except Fault β × Host} (hr : h.Steers own r)
    (hr' : r.2.Steers own r') : h.Steers own r' where
  leads := hr.leads.trans hr'.leads
  one w hw := by
    rcases hr.leads.mem_momentsSince_or hr'.leads hw with hw | hw
    · exact hr.one w hw
    · exact hr'.one w hw
  held := hr'.held

/-- The result matters only if it is that of an action that lasts for ever. -/
theorem of_result {r : Except Fault α × Host} {r' : Except Fault β × Host} (hr : h.Steers own r)
    (hhost : r'.2 = r.2) (hstuck : r.1 = .error .stuck → r'.1 = .error .stuck) :
    h.Steers own r' where
  leads := by
    rw [hhost]
    exact hr.leads
  one := by
    rw [hhost]
    exact hr.one
  held hr' := by
    rw [hhost]
    exact hr.held fun h => hr' (hstuck h)

end Host.Steers

namespace Session

variable {own : Set Nat} {h : Host}

theorem runsOnly_none (honly : h.machine.RunsOnly own h.session.server)
    (hidle : isRunningOn h = false) : h.machine.RunsOnly own none := by
  intro j hown hj
  have hserver := honly j hown hj
  unfold isRunningOn at hidle
  rw [hserver] at hidle
  rw [← Machine.isAlive_iff_runs] at hj
  exact absurd (hidle.symm.trans hj) Bool.false_ne_true

/-- At each moment of a call for a start at most the program runs that the session holds at the
end. -/
theorem start_steers (honly : h.machine.RunsOnly own h.session.server) :
    h.machine.Leads (Adds (start h).2.session.server) (start h).2.machine ∧
      h.machine.RunsOnly own (start h).2.session.server := by
  rcases start_cases h with ⟨-, hresult⟩ | ⟨hidle, hstarts⟩
  · rw [hresult]
    exact ⟨.refl _, honly⟩
  · have hnone := runsOnly_none honly hidle
    generalize start h = r at hstarts ⊢
    cases hstarts with
    | failed e h' hspares hserver =>
      rw [hserver]
      exact ⟨hspares.mono fun _ _ h => h.adds _, honly⟩
    | started id h' _ _ hadds hserver =>
      rw [hserver]
      exact ⟨hadds, fun j hown hj => nomatch hnone j hown hj⟩

/-- While the server is stopped, no program starts. -/
theorem stop_one (timeout : Value) (hone : h.machine.RunsOne own) {w : World}
    (hw : w ∈ h.machine.momentsSince (stop timeout h).2.machine) : w.RunsOne own :=
  hone.adds ((stop_adds timeout h).adds_of_mem hw)

/-- A call for a stop that is given no number of seconds lets go of the server, and any other ends
it. -/
theorem stop_steers (timeout : Value) (honly : h.machine.RunsOnly own h.session.server) :
    h.Steers (without own (letsGo timeout h.session)) (stop timeout h) where
  leads := (stop_adds timeout h).mono fun _ _ _ => trivial
  one _ hw := (stop_one timeout honly.runsOne hw).anti (without_subset _ _)
  held hends := by
    intro j ⟨hown, hkept⟩ hj
    have hheld := honly j hown ((stop_adds timeout h).adds.runs_of_none hj)
    rcases hseconds : secondsOf timeout with e | seconds
    · rw [letsGo_of_unreadable hseconds, hheld] at hkept
      exact absurd (List.mem_singleton.mpr rfl) hkept
    · obtain ⟨-, -, hended⟩ := (stop_cases hseconds h).resolve_left hends
      rw [← Machine.isAlive_iff_runs, hended j hheld] at hj
      exact absurd hj Bool.false_ne_true

/-- The server is stopped whatever comes of the action that it was started for. -/
theorem using_steers {α : Type} {x : SessionAction α} {ids : List Nat}
    (honly : h.machine.RunsOnly own h.session.server)
    (hx : ∀ id h', start h = (.ok id, h') → h'.machine.RunsOnly own h'.session.server →
      h'.Steers (without own ids) (x h'))
    (hnone : ∀ e h', start h = (.error e, h') → ids = []) :
    h.Steers (without own ids) («using» x h) := by
  have hstart : h.Steers own (start h) := .of_adds (start_steers honly).1 (start_steers honly).2 rfl
  unfold «using»
  refine bind_ends (P := h.Steers (without own ids)) (fun e h₁ hh₁ => ?_) fun id h₁ hh₁ => ?_
  · rw [hnone e h₁ hh₁, without_nil]
    rw [hh₁] at hstart
    exact hstart.of_result rfl fun hstuck => congrArg Except.error (Except.error.inj hstuck)
  have hbody := hx id h₁ hh₁
  rw [hh₁] at hstart
  rw [SessionAction.attempt_bind_apply]
  replace hbody := (hstart.anti (without_subset _ ids)).trans (hbody (hstart.held nofun))
  generalize x h₁ = r at hbody ⊢
  -- Even after an action that lasts for ever, stopping does not start a program.
  have htimeout : secondsOf stopTimeout = .ok (.ofNat 5) := rfl
  have hone := hbody.one _ hbody.leads.last_mem_momentsSince
  have hleads := stop_adds stopTimeout r.2
  have hends : ∀ r' : Except Fault α × Host, r'.2 = (stop stopTimeout r.2).2 →
      (r'.1 ≠ .error .stuck → r.1 ≠ .error .stuck ∧ (stop stopTimeout r.2).1 ≠ .error .stuck) →
      h.Steers (without own ids) r' := by
    intro r' hhost hstuck
    refine ⟨?_, fun w hw => ?_, fun hr' => ?_⟩
    · rw [hhost]
      exact hbody.leads.trans (hleads.mono fun _ _ _ => trivial)
    · rw [hhost] at hw
      rcases hbody.leads.mem_momentsSince_or hleads hw with hw | hw
      · exact hbody.one w hw
      · exact stop_one stopTimeout hone hw
    · obtain ⟨hgoes, hstops⟩ := hstuck hr'
      have hstop := stop_steers stopTimeout (hbody.held hgoes)
      rw [letsGo_of_readable htimeout, without_nil] at hstop
      rw [hhost]
      exact hstop.held hstops
  refine bind_ends (P := h.Steers (without own ids)) (fun e h₃ hh₃ => ?_) fun inTime h₃ hh₃ => ?_
  · rw [hh₃] at hends
    refine hends _ rfl fun hgoes => ?_
    have hcases := stop_cases htimeout r.2
    rw [hh₃] at hcases
    rcases hcases with hstuck | ⟨⟨inTime, hok⟩, -⟩
    · exact absurd (congrArg Except.error (Except.error.inj hstuck)) hgoes
    · cases hok
  · rw [hh₃] at hends
    exact hends _ rfl fun hgoes => ⟨hgoes, nofun⟩

/-- An action that lets go of no program. -/
theorem steers_of_adds {α : Type} {o : Option Nat} {r : Except Fault α × Host}
    (hleads : h.machine.Leads (Adds o) r.2.machine) (honly : h.machine.RunsOnly own o)
    (hserver : r.2.session.server = o) : h.Steers (without own []) r := by
  rw [without_nil]
  exact .of_adds hleads honly hserver

/-- Every use of a session starts its programs one at a time, but for those that it lets go of. -/
theorem Use.steers {α : Type} (u : Use α) : ∀ (own : Set Nat) (h : Host),
    h.machine.RunsOnly own h.session.server → h.Steers (without own (u.forgotten h)) (u.run h) := by
  induction u with
  | start =>
    intro own h honly
    exact steers_of_adds (start_steers honly).1 (start_steers honly).2 rfl
  | stop timeout => exact fun own h honly => stop_steers timeout honly
  | isRunning => exact fun own h honly => steers_of_adds (.refl _) honly rfl
  | launchInfo =>
    intro own h honly
    obtain ⟨hspares, hserver⟩ := launchInfo_spares h
    exact steers_of_adds (hspares.mono fun _ _ h => h.adds _) honly hserver
  | «using» body ih =>
    intro own h honly
    refine using_steers honly (fun id h' hstart honly' => ?_) fun e h' hstart => ?_
    · rw [forgotten, hstart]
      exact ih own h' honly'
    · rw [forgotten, hstart]
  | meanwhile g hpast hages =>
    intro own h honly
    have hstep : h.machine.Leads (Adds h.session.server) (change g h.machine).2 :=
      .step (hpast _) ((hages h.machine.onward).adds _)
    exact steers_of_adds hstep honly rfl
  | pure a => exact fun own h honly => steers_of_adds (.refl _) honly rfl
  | throw e _ => exact fun own h honly => steers_of_adds (.refl _) honly rfl
  | rescue body ih =>
    intro own h honly
    exact (ih own h honly).of_result (SessionAction.rescue_snd _ h)
      SessionAction.rescue_of_stuck
  | bind first next ihx ihf =>
    intro own h honly
    have hfirst := ihx own h honly
    rw [forgotten, without_append]
    rcases hresult : first.run h with ⟨e | a, h₁⟩
    · have hrun : (first.bind next).run h = (.error e, h₁) := bind_of_error hresult
      rw [hresult] at hfirst
      rw [hrun, without_nil]
      exact hfirst.of_result rfl fun hstuck => congrArg Except.error (Except.error.inj hstuck)
    · have hrun : (first.bind next).run h = (next a).run h₁ := bind_of_ok hresult
      rw [hresult] at hfirst
      rw [hrun]
      exact (hfirst.anti (without_subset _ _)).trans (ihf a _ h₁ (hfirst.held nofun))

/-- Between two calls a session holds the only one of some programs that runs, and the next call
keeps to what is said here. -/
structure IsOrderly (own : Set Nat) (h : Host) : Prop where
  held : h.machine.RunsOnly own h.session.server
  duringStart : ∀ w ∈ h.machine.momentsSince (start h).2.machine,
    w.RunsOnly own (start h).2.session.server
  duringLaunchInfo : ∀ w ∈ h.machine.momentsSince (launchInfo h).2.machine,
    w.RunsOnly own (launchInfo h).2.session.server
  duringStop : ∀ timeout, ∀ w ∈ h.machine.momentsSince (stop timeout h).2.machine, w.RunsOne own
  started : ∀ id h', start h = (.ok id, h') →
    h.machine.started.length ≤ id ∧ h'.session.server = some id
  running : isRunningOn h → start h = (.error (.alreadyRunning h.session.workspaceRoot), h)
  stopped : ∀ timeout inTime h', stop timeout h = (.ok inTime, h') →
    h'.session.server = none ∧
      (∀ id, h.session.server = some id → h'.machine.isAlive id = false) ∧
      isRunningOn h' = false ∧ ∀ timeout', stop timeout' h' = (.ok true, h')
  /-- A call for a stop that is given no number of seconds fails, and all that it does is to let go
  of the server. -/
  unread : ∀ timeout e, secondsOf timeout = .error e → h.session.server ≠ none →
    stop timeout h = (.error e, { h with session := { h.session with server := none } })

theorem isOrderly_of_runsOnly (honly : h.machine.RunsOnly own h.session.server) :
    IsOrderly own h where
  held := honly
  duringStart w hw := by
    obtain ⟨hadds, honly'⟩ := start_steers honly
    exact honly'.adds (hadds.adds_of_mem hw)
  duringLaunchInfo w hw := by
    obtain ⟨hspares, hserver⟩ := launchInfo_spares h
    rw [hserver]
    exact honly.adds ((hspares.mono fun _ _ h => h.adds _).adds_of_mem hw)
  duringStop timeout w hw := stop_one timeout honly.runsOne hw
  started id h' hstart := by
    rcases start_cases h with ⟨-, hresult⟩ | ⟨-, hstarts⟩
    · rw [hresult] at hstart
      cases hstart
    · rw [hstart] at hstarts
      cases hstarts with
      | started _ _ hnew _ _ hserver => exact ⟨hnew, hserver⟩
  running hrunning := by
    rcases start_cases h with ⟨-, hresult⟩ | ⟨hidle, -⟩
    · exact hresult
    · exact absurd (hidle.symm.trans hrunning) Bool.false_ne_true
  stopped _ _ _ hstop := stop_eq_ok hstop
  unread timeout e hseconds hheld := by
    obtain ⟨id, hid⟩ := Option.ne_none_iff_exists'.mp hheld
    exact stop_of_unreadable hseconds hid

/-- A session is used in any way, and some of the programs that have been started since are let go
of by a call for a stop that fails.  Of the others at most one runs at every moment, and after each
call it is the one that the session holds; that is so all through a call for a start and one for the
launch, too.  While it runs a call for a start fails at once.  After a call for a stop that returns
the program has ended that the session held, it holds none, and another call for a stop does
nothing.  A call for a stop fails if it is given no number of seconds, and then it has let go of the
program and done nothing else. -/
theorem one_server {α : Type} (u : Use α) (h : Host) :
    let own := {j | h.machine.started.length ≤ j ∧ j ∉ u.forgotten h}
    (∀ w ∈ h.machine.momentsSince (u.run h).2.machine, w.RunsOne own) ∧
      (∀ j ∈ u.forgotten h,
        j < (u.run h).2.machine.started.length ∨ h.session.server = some j) ∧
      ((u.run h).1 ≠ .error .stuck → IsOrderly own (u.run h).2) := by
  intro own
  have honly : h.machine.RunsOnly {j | h.machine.started.length ≤ j} h.session.server := by
    intro j hn ⟨s, hs, _⟩
    have hlt := (List.getElem?_eq_some_iff.mp hs).1
    have hle : h.machine.started.length ≤ j := hn
    omega
  have hsteers := u.steers _ h honly
  exact ⟨hsteers.one, u.forgotten_lt h, fun hends => isOrderly_of_runsOnly (hsteers.held hends)⟩

/-- A new session, on a machine on which the first start of a program fails. -/
def restartHost : Host :=
  { machine := { plans := [.error 2, .ok stubbornServer, .ok { pid := 200, lifetime := {} }] }
    session := { workspaceRoot := "/w", config := { downloadEnabled := false }
                 acquirer := { installDir := "/i", platform := none } } }

/-- A start that fails, one during the use of a running server, and one after it. -/
def restarting : Use (Bool × Nat) :=
  .bind (.rescue .start) fun _ => .bind (.using (.rescue .start)) fun again =>
    .bind .start fun id => .pure (again.isOk, id)

/-- The server that refuses to end has ended when the next one is started. -/
theorem one_server_restarted :
    (restarting.run restartHost).1.toOption = some (false, 1) ∧
    restarting.forgotten restartHost = [] ∧
    (∀ w ∈ restartHost.machine.momentsSince (restarting.run restartHost).2.machine,
      w.RunsOne Set.univ) ∧
    IsOrderly Set.univ (restarting.run restartHost).2 := by
  have hresult : (restarting.run restartHost).1.toOption = some (false, 1) := by decide +kernel
  have hforgotten : restarting.forgotten restartHost = [] := by decide +kernel
  have hown : {j | restartHost.machine.started.length ≤ j ∧
      j ∉ restarting.forgotten restartHost} = Set.univ := by
    rw [hforgotten]
    simp [restartHost]
  obtain ⟨hmoments, -, horderly⟩ := one_server restarting restartHost
  rw [hown] at hmoments horderly
  refine ⟨hresult, hforgotten, hmoments, horderly fun hstuck => ?_⟩
  rw [hstuck] at hresult
  cases hresult

/-- Two servers run: a call for a stop has failed that was given an integer beyond the floats, and
has let go of the first one. -/
theorem one_server_forgotten :
    let u : Use Nat := .bind (.rescue .start) fun _ => .bind .start fun _ =>
      .bind (.rescue (.stop (.integer (Nat.pow 10 400)))) fun _ => .start
    let h := (u.run restartHost).2
    (u.run restartHost).1.isOk ∧ u.forgotten restartHost = [0] ∧ h.session.server = some 1 ∧
      h.machine.isAlive 0 ∧ h.machine.isAlive 1 := by
  decide +kernel

end Session

end ServerLauncher
