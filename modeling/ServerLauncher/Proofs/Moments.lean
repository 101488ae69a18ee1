import Mathlib.Data.List.Chain
import Mathlib.Logic.Relation
import ServerLauncher.Machine.Basic

/-!
# The moments of an action

An action takes a machine through a row of moments, from the present one to the one at its end.
This module says how that row is made up of the rows of the parts of an action, so that what one
step keeps is kept between any two moments of a run.

## Main definitions

* `Machine.Through`: a machine has gone through some moments.
* `Machine.Leads`: a machine has gone on by steps of a given kind.
* `MachineAction.Proceeds`: an action goes on by steps of a given kind, on every machine.

## Main statements

* `Machine.Leads.through`: the steps are those between neighbouring moments.
* `Machine.Leads.momentsSince_append`: the moments of two runs in turn.
* `Machine.Leads.of_mem_momentsSince`: at each moment a machine was on its way.
-/

namespace ServerLauncher

/-! ## Running actions

Actions of a machine, actions of a session and commands differ in what they act on and in how they
fail; how an action is run that is made of others is the same for all. -/

namespace Action

section Running

variable {ε σ α β : Type} {x : ExceptT ε (StateM σ) α}
  {f : α → ExceptT ε (StateM σ) β} {s s' s'' : σ}

@[simp] theorem pure_apply (a : α) (s : σ) :
    (pure a : ExceptT ε (StateM σ) α) s = (.ok a, s) := rfl

@[simp] theorem throw_apply (e : ε) (s : σ) :
    (throw e : ExceptT ε (StateM σ) α) s = (.error e, s) := rfl

@[simp] theorem get_apply (s : σ) :
    (MonadState.get : ExceptT ε (StateM σ) σ) s = (.ok s, s) := rfl

/-- Two ends of an action are the same if the results and the states are. -/
@[simp] theorem end_eq_end (r r' : Except ε α) (s s' : σ) :
    @Eq (Id (Except ε α × σ)) (r, s) (r', s') ↔ r = r' ∧ s = s' :=
  Prod.ext_iff

theorem bind_of_ok {a : α} (h : x s = (.ok a, s')) : (x >>= f) s = f a s' := by
  simp only [bind, ExceptT.bind, ExceptT.mk, StateT.bind, h]
  rfl

theorem bind_of_error {e : ε} (h : x s = (.error e, s')) :
    (x >>= f) s = (.error e, s') := by
  simp only [bind, ExceptT.bind, ExceptT.mk, StateT.bind, h]
  rfl

/-- A sequence has a result when its first part has one and the rest has, too. -/
theorem bind_eq_ok {b : β} :
    (x >>= f) s = (.ok b, s'') ↔ ∃ a s', x s = (.ok a, s') ∧ f a s' = (.ok b, s'') := by
  constructor
  · intro h
    rcases hx : x s with ⟨_ | a, s'⟩
    · rw [bind_of_error hx] at h
      cases h
    · rw [bind_of_ok hx] at h
      exact ⟨a, s', rfl, h⟩
  · rintro ⟨a, s', hx, hf⟩
    rw [bind_of_ok hx, hf]

/-- A sequence fails when its first part does, or when the rest does after that. -/
theorem bind_eq_error {e : ε} :
    (x >>= f) s = (.error e, s'') ↔
      x s = (.error e, s'') ∨ ∃ a s', x s = (.ok a, s') ∧ f a s' = (.error e, s'') := by
  constructor
  · intro h
    rcases hx : x s with ⟨e' | a, s'⟩
    · rw [bind_of_error hx] at h
      cases h
      exact .inl rfl
    · rw [bind_of_ok hx] at h
      exact .inr ⟨a, s', rfl, h⟩
  · rintro (hx | ⟨a, s', hx, hf⟩)
    · exact bind_of_error hx
    · rw [bind_of_ok hx, hf]

/-- A sequence ends as its first part does if that fails, and else as the rest. -/
theorem bind_ends {P : Except ε β × σ → Prop}
    (herror : ∀ e s', x s = (.error e, s') → P (.error e, s'))
    (hok : ∀ a s', x s = (.ok a, s') → P (f a s')) : P ((x >>= f) s) := by
  rcases hx : x s with ⟨e | a, s'⟩
  · rw [bind_of_error hx]
    exact herror e s' hx
  · rw [bind_of_ok hx]
    exact hok a s' hx

theorem bind_fst_eq_error {e : ε} :
    ((x >>= f) s).1 = .error e ↔
      (x s).1 = .error e ∨ ∃ a s', x s = (.ok a, s') ∧ (f a s').1 = .error e := by
  constructor
  · intro h
    rcases bind_eq_error.mp (Prod.ext h rfl) with hx | ⟨a, s', hx, hf⟩
    · exact .inl (congrArg Prod.fst hx)
    · exact .inr ⟨a, s', hx, congrArg Prod.fst hf⟩
  · rintro (hx | ⟨a, s', hx, hf⟩)
    · rw [bind_of_error (Prod.ext hx rfl)]
    · rw [bind_of_ok hx, hf]

/-- A sequence fails if its second part always does. -/
theorem error_of_bind (hf : ∀ a s, ∃ e, (f a s).1 = .error e) :
    ∃ e, ((x >>= f) s).1 = .error e := by
  rcases hs : x s with ⟨e | a, s'⟩
  · rw [bind_of_error hs]
    exact ⟨e, rfl⟩
  · rw [bind_of_ok hs]
    exact hf a s'

@[simp] theorem pure_bind_apply (a : α) (f : α → ExceptT ε (StateM σ) β) (s : σ) :
    ((pure a : ExceptT ε (StateM σ) α) >>= f) s = f a s := rfl

@[simp] theorem get_bind_apply (f : σ → ExceptT ε (StateM σ) β) (s : σ) :
    ((MonadState.get : ExceptT ε (StateM σ) σ) >>= f) s = f s s := rfl

end Running

end Action

namespace MachineAction

export Action (pure_apply throw_apply get_apply bind_of_ok bind_of_error bind_eq_ok bind_eq_error
  bind_ends bind_fst_eq_error error_of_bind pure_bind_apply get_bind_apply)

section Running

variable {α β : Type}

@[simp] theorem settle_apply (r : Except Fault α) (m : Machine) : settle r m = (r, m) := rfl

@[simp] theorem observe_apply (g : Machine → α) (m : Machine) : observe g m = (.ok (g m), m) := rfl

@[simp] theorem change_apply (g : Machine → Machine) (m : Machine) :
    change g m = (.ok (), g m.onward) := rfl

@[simp] theorem attempt_apply (x : MachineAction α) (m : Machine) :
    attempt x m = (.ok (x m).1, (x m).2) := rfl

@[simp] theorem observe_bind_apply (g : Machine → α) (f : α → MachineAction β) (m : Machine) :
    (observe g >>= f) m = f (g m) m := rfl

@[simp] theorem change_bind_apply (g : Machine → Machine) (f : Unit → MachineAction β)
    (m : Machine) : (change g >>= f) m = f () (g m.onward) := rfl

@[simp] theorem attempt_bind_apply (x : MachineAction α)
    (f : Except Fault α → MachineAction β) (m : Machine) :
    (attempt x >>= f) m = f (x m).1 (x m).2 := rfl

end Running

end MachineAction

/-! ## Moments -/

namespace Machine

@[simp] theorem onward_toWorld (m : Machine) : m.onward.toWorld = m.toWorld := rfl

@[simp] theorem onward_past (m : Machine) : m.onward.past = m.toWorld :: m.past := rfl

/-- A machine has gone through some moments, the first of them its present, before it became what
another machine is. -/
structure Through (m : Machine) (ws : List World) (m' : Machine) : Prop where
  past : m'.past = ws.reverse ++ m.past
  first : (ws ++ [m'.toWorld]).head? = some m.toWorld

theorem Through.refl (m : Machine) : m.Through [] m := ⟨rfl, rfl⟩

theorem Through.trans {m m' m'' : Machine} {ws ws' : List World} (h : m.Through ws m')
    (h' : m'.Through ws' m'') : m.Through (ws ++ ws') m'' := by
  refine ⟨by rw [h'.past, h.past]; simp, ?_⟩
  have hfirst := h.first
  cases ws with
  | nil =>
    simp only [List.nil_append, List.head?_cons, Option.some.injEq] at hfirst
    rw [List.nil_append, h'.first, hfirst]
  | cons w ws => simpa using hfirst

theorem momentsSince_eq {m m' : Machine} {ws : List World} (h : m'.past = ws.reverse ++ m.past) :
    m.momentsSince m' = ws ++ [m'.toWorld] := by
  simp [momentsSince, h]

/-- A machine has gone on by one step. -/
def StepsTo (R : World → World → Prop) (m m' : Machine) : Prop :=
  m'.past = m.toWorld :: m.past ∧ R m.toWorld m'.toWorld

/-- A machine has gone on by any number of steps. -/
def Leads (R : World → World → Prop) : Machine → Machine → Prop :=
  Relation.ReflTransGen (StepsTo R)

namespace Leads

variable {R S : World → World → Prop} {m m' m'' : Machine}

theorem refl (m : Machine) : m.Leads R m := Relation.ReflTransGen.refl

theorem trans (h : m.Leads R m') (h' : m'.Leads R m'') : m.Leads R m'' :=
  Relation.ReflTransGen.trans h h'

theorem step (hpast : m'.past = m.toWorld :: m.past) (h : R m.toWorld m'.toWorld) : m.Leads R m' :=
  Relation.ReflTransGen.single ⟨hpast, h⟩

theorem mono (hRS : ∀ w w', R w w' → S w w') (h : m.Leads R m') : m.Leads S m' :=
  Relation.ReflTransGen.mono (fun _ _ hs => ⟨hs.1, hRS _ _ hs.2⟩) _ _ h

/-- What each step keeps is kept by all of them. -/
theorem keeps (hrefl : ∀ w, S w w) (htrans : ∀ u v w, S u v → S v w → S u w)
    (hRS : ∀ w w', R w w' → S w w') (h : m.Leads R m') : S m.toWorld m'.toWorld := by
  induction h with
  | refl => exact hrefl _
  | tail _ hs ih => exact htrans _ _ _ ih (hRS _ _ hs.2)

/-- The steps are those between neighbouring moments. -/
theorem through (h : m.Leads R m') :
    ∃ ws, m.Through ws m' ∧ (ws ++ [m'.toWorld]).IsChain R := by
  induction h with
  | refl => exact ⟨[], .refl m, by simp⟩
  | @tail m' m'' _ hs ih =>
    obtain ⟨ws, hthrough, hchain⟩ := ih
    refine ⟨ws ++ [m'.toWorld], hthrough.trans ⟨by simp [hs.1], by simp⟩, ?_⟩
    rw [List.isChain_append]
    refine ⟨hchain, by simp, ?_⟩
    simpa using hs.2

theorem momentsSince_self (m : Machine) : m.momentsSince m = [m.toWorld] := by
  have hpast : m.past = ([] : List World).reverse ++ m.past := rfl
  rw [momentsSince_eq hpast, List.nil_append]

/-- One more step is one more moment. -/
theorem momentsSince_step (h : m.Leads R m') (hpast : m''.past = m'.toWorld :: m'.past) :
    m.momentsSince m'' = m.momentsSince m' ++ [m''.toWorld] := by
  obtain ⟨ws, hthrough, -⟩ := h.through
  have hall : m''.past = (ws ++ [m'.toWorld]).reverse ++ m.past := by
    rw [hpast, hthrough.past]
    simp
  rw [momentsSince_eq hall, momentsSince_eq hthrough.past]

/-- The moments of two runs in turn; the end of the first one is the beginning of the second. -/
theorem momentsSince_append (h : m.Leads R m') (h' : m'.Leads S m'') :
    ∃ later, m'.momentsSince m'' = m'.toWorld :: later ∧
      m.momentsSince m'' = m.momentsSince m' ++ later := by
  have hboth : m.Leads (fun _ _ => True) m' := h.mono fun _ _ _ => trivial
  have hrest : m'.Leads (fun _ _ => True) m'' := h'.mono fun _ _ _ => trivial
  clear h h'
  induction hrest with
  | refl => exact ⟨[], momentsSince_self m', by simp⟩
  | @tail n n' hn hs ih =>
    obtain ⟨later, hlater, hall⟩ := ih
    refine ⟨later ++ [n'.toWorld], ?_, ?_⟩
    · rw [momentsSince_step hn hs.1, hlater]
      rfl
    · rw [momentsSince_step (hboth.trans hn) hs.1, hall]
      simp

/-- A moment of two runs in turn is one of the first or one of the second. -/
theorem mem_momentsSince_or (h : m.Leads R m') (h' : m'.Leads S m'') {w : World}
    (hw : w ∈ m.momentsSince m'') : w ∈ m.momentsSince m' ∨ w ∈ m'.momentsSince m'' := by
  obtain ⟨later, hlater, hall⟩ := h.momentsSince_append h'
  rw [hall, List.mem_append] at hw
  rw [hlater]
  exact hw.imp_right (List.mem_cons_of_mem _)

/-- At each moment of a run the machine was on its way to the end. -/
theorem of_mem_momentsSince (h : m.Leads R m') {w : World} (hw : w ∈ m.momentsSince m') :
    ∃ n, m.Leads R n ∧ n.Leads R m' ∧ n.toWorld = w := by
  induction h with
  | refl =>
    rw [momentsSince_self, List.mem_singleton] at hw
    exact ⟨m, .refl m, .refl m, hw.symm⟩
  | @tail n n' hn hs ih =>
    rw [momentsSince_step hn hs.1, List.mem_append, List.mem_singleton] at hw
    rcases hw with hw | rfl
    · obtain ⟨k, hk, hkn, hkw⟩ := ih hw
      exact ⟨k, hk, Relation.ReflTransGen.tail hkn hs, hkw⟩
    · exact ⟨n', Relation.ReflTransGen.tail hn hs, .refl n', rfl⟩

theorem last_mem_momentsSince (h : m.Leads R m') : m'.toWorld ∈ m.momentsSince m' := by
  obtain ⟨ws, hthrough, -⟩ := h.through
  rw [momentsSince_eq hthrough.past]
  simp

/-- The moments of the second of two runs are moments of both in turn. -/
theorem mem_momentsSince_of_right (h : m.Leads R m') (h' : m'.Leads S m'') {w : World}
    (hw : w ∈ m'.momentsSince m'') : w ∈ m.momentsSince m'' := by
  obtain ⟨later, hlater, hall⟩ := h.momentsSince_append h'
  rw [hlater, List.mem_cons] at hw
  rw [hall, List.mem_append]
  rcases hw with rfl | hw
  · exact .inl h.last_mem_momentsSince
  · exact .inr hw

/-- The moments of the first of two runs are moments of both in turn. -/
theorem mem_momentsSince_of_left (h : m.Leads R m') (h' : m'.Leads S m'') {w : World}
    (hw : w ∈ m.momentsSince m') : w ∈ m.momentsSince m'' := by
  obtain ⟨later, -, hall⟩ := h.momentsSince_append h'
  rw [hall]
  exact List.mem_append_left _ hw

/-- What a machine was on its way is a moment of the run. -/
theorem mem_momentsSince (h : m.Leads R m') (h' : m'.Leads S m'') :
    m'.toWorld ∈ m.momentsSince m'' := h.mem_momentsSince_of_left h' h.last_mem_momentsSince

end Leads

end Machine

/-! ## Actions -/

namespace MachineAction

/-- An action goes on by steps of a given kind, on every machine. -/
def Proceeds {α : Type} (R : World → World → Prop) (x : MachineAction α) : Prop :=
  ∀ m : Machine, m.Leads R (x m).2

namespace Proceeds

variable {α β : Type} {R S : World → World → Prop} {x : MachineAction α}

theorem of_pure (a : α) : Proceeds R (pure a : MachineAction α) := fun m => .refl m

theorem of_throw (e : Fault) : Proceeds R (throw e : MachineAction α) := fun m => .refl m

theorem of_get : Proceeds R (MonadState.get : MachineAction Machine) := fun m => .refl m

theorem of_settle (r : Except Fault α) : Proceeds R (settle r) := fun m => .refl m

theorem of_observe (g : Machine → α) : Proceeds R (observe g) := fun m => .refl m

theorem of_attempt (h : Proceeds R x) : Proceeds R (attempt x) := h

theorem bind {f : α → MachineAction β} (hx : Proceeds R x) (hf : ∀ a, Proceeds R (f a)) :
    Proceeds R (x >>= f) := by
  intro m
  have h := hx m
  rcases hm : x m with ⟨_ | a, m'⟩
  · rw [bind_of_error hm]
    simpa [hm] using h
  · rw [bind_of_ok hm]
    rw [hm] at h
    exact h.trans (hf a m')

theorem ite {p : Prop} [Decidable p] {y : MachineAction α} (hx : Proceeds R x)
    (hy : Proceeds R y) : Proceeds R (if p then x else y) := by
  split
  · exact hx
  · exact hy

theorem of_change {g : Machine → Machine} (hpast : ∀ m, (g m).past = m.past)
    (h : ∀ m : Machine, R m.toWorld (g m.onward).toWorld) : Proceeds R (change g) := fun m =>
  .step (by simp [hpast]) (h m)

end Proceeds

end MachineAction

end ServerLauncher
