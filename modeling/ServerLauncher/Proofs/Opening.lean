import ServerLauncher.Proofs.Body

/-!
# Opening the file

Up to the end of the stage that writes the body, an attempt either fails before it has opened its
file, or it opens the file once and goes on from there.  What is to be known about the time after
the opening is a parameter, so that each property brings its own.

## Main definitions

* `StepKind.preparing`: the kinds of steps before the file is opened.
* `Attempt.Opening`: an attempt opens its file.

## Main statements

* `Attempt.deliver_opening`: an attempt opens its file or fails before.
* `Attempt.deliver_cases`: which kinds of steps an attempt makes before and after the opening.
-/

namespace ServerLauncher

open MachineAction World StepKind

/-- The steps before a file is opened, with the locations at which directories may be made. -/
def StepKind.preparing (above : Set Location) : Set StepKind := requesting ∪ making above

/-- All steps but those that change permissions or remove files. -/
def StepKind.delivering : Set StepKind := {k | ∀ l, k ≠ .permission l ∧ k ≠ .removal l}

namespace Attempt

/-- The attempt opens its file, after which something is related to what it was then. -/
def Opening (a : Attempt) (above : Set Location) (R : Location → Machine → Machine → Prop)
    (m m' : Machine) : Prop :=
  ∃ m₁ l m₂, m.Leads (StepOf (preparing above)) m₁ ∧ Opens a.target m₁ l m₂ ∧ R l m₂ m'

variable {a : Attempt} {above : Set Location} {R : Location → Machine → Machine → Prop}
  {m m' m'' : Machine}

theorem leads_preparing_of_making (h : m.Leads (StepOf (making above)) m') :
    m.Leads (StepOf (preparing above)) m' := h.of_subset fun _ => .inr

theorem leads_preparing_of_requesting (h : m.Leads (StepOf requesting) m') :
    m.Leads (StepOf (preparing above)) m' := h.of_subset fun _ => .inl

theorem Opening.after (h : m.Leads (StepOf (preparing above)) m')
    (h' : a.Opening above R m' m'') : a.Opening above R m m'' := by
  obtain ⟨m₁, l, m₂, hbefore, hopens, hafter⟩ := h'
  exact ⟨m₁, l, m₂, h.trans hbefore, hopens, hafter⟩

theorem Opening.imp {R' : Location → Machine → Machine → Prop} (h : a.Opening above R m m')
    (hR : ∀ l m₂, R l m₂ m' → R' l m₂ m'') : a.Opening above R' m m'' := by
  obtain ⟨m₁, l, m₂, hbefore, hopens, hafter⟩ := h
  exact ⟨m₁, l, m₂, hbefore, hopens, hR l m₂ hafter⟩

theorem leads_opened {l : Location} {m₁ m₂ : Machine}
    (hbefore : m.Leads (StepOf (preparing above)) m₁) (hopens : Opens a.target m₁ l m₂) :
    m.Leads (StepOf Set.univ) m₂ :=
  (hbefore.of_subset (Set.subset_univ _)).trans (hopens.leads.of_subset (Set.subset_univ _))

/-! ## Until the body is written -/

theorem save_opening (hdirectories : Makes (making above) (makeDirectoryFor a.target)) {id : Nat}
    (hfill : ∀ m₁ l m₂, m.Leads (StepOf (making above)) m₁ → Opens a.target m₁ l m₂ →
      R l m₂ (a.fill id l m₂).2) :
    (m.Leads (StepOf (making above)) (a.save id m).2 ∧ ∃ e, (a.save id m).1 = .error e) ∨
    a.Opening above R m (a.save id m).2 := by
  unfold save
  have hmake := hdirectories m
  rcases hm : makeDirectoryFor a.target m with ⟨e | _, m'⟩
  · rw [bind_of_error hm]
    rw [hm] at hmake
    exact .inl ⟨hmake, e, rfl⟩
  rw [bind_of_ok hm]
  rw [hm] at hmake
  rcases openFile_cases clock_mem_making open_mem_making a.target m' with
    ⟨hleads, e, he⟩ | ⟨m₁, l, hleads, hresult, hopens⟩
  · rw [bind_of_error (Prod.ext he rfl)]
    exact .inl ⟨hmake.trans hleads, e, rfl⟩
  · rw [bind_of_ok (Prod.ext hresult rfl)]
    exact .inr ⟨m₁, l, _, leads_preparing_of_making (hmake.trans hleads), hopens,
      hfill m₁ l _ (hmake.trans hleads) hopens⟩

theorem stream_opening (hdirectories : Makes (making above) (makeDirectoryFor a.target)) {id : Nat}
    (hfill : ∀ m₁ l m₂, m.Leads (StepOf (making above)) m₁ → Opens a.target m₁ l m₂ →
      R l m₂ (a.fill id l m₂).2)
    (hrest : ∀ l m₂ m' m'', R l m₂ m' → m'.Leads (StepOf checking) m'' → R l m₂ m'') :
    (m.Leads (StepOf (preparing above)) (a.stream id m).2 ∧ ∃ e, (a.stream id m).1 = .error e) ∨
    a.Opening above R m (a.stream id m).2 := by
  rw [stream_apply]
  rcases save_opening hdirectories hfill with ⟨hleads, e, he⟩ | hopens
  · refine .inl ⟨(leads_preparing_of_making hleads).trans (leads_preparing_of_requesting ?_), ?_⟩
    · exact a.ending_makes (by simp [requesting]) (by simp [requesting]) id _ _ _
    rw [he]
    exact error_of_bind fun _ _ => ⟨_, rfl⟩
  · refine .inr (hopens.imp fun l m₂ h => hrest l m₂ _ _ h ?_)
    exact a.ending_makes (by simp [checking]) (by simp [checking]) id _ _ _

/-- An attempt opens its file, holding an answer of whose body nothing has been read, or fails
before. -/
theorem deliver_opening (hdirectories : Makes (making above) (makeDirectoryFor a.target))
    (hfill : ∀ (id : Nat) (r : Response) (c : Connection) (m₁ : Machine) (l : Location)
      (m₂ : Machine), m₁.toWorld.HoldsAnswer id r c → Opens a.target m₁ l m₂ →
      R l m₂ (a.fill id l m₂).2)
    (hrest : ∀ l m₂ m' m'', R l m₂ m' → m'.Leads (StepOf checking) m'' → R l m₂ m'')
    (m : Machine) :
    (m.Leads (StepOf (preparing above)) (a.deliver m).2 ∧ ∃ e, (a.deliver m).1 = .error e) ∨
    a.Opening above R m (a.deliver m).2 := by
  unfold deliver
  have harm : m.Leads (StepOf (preparing above)) (a.arm m).2 :=
    leads_preparing_of_requesting (a.arm_makes (by simp [requesting]) m)
  rcases hm : a.arm m with ⟨e | _, m₁⟩
  · rw [bind_of_error hm]
    rw [hm] at harm
    exact .inl ⟨harm, e, rfl⟩
  rw [bind_of_ok hm]
  rw [hm] at harm
  have hrequest : m₁.Leads (StepOf (preparing above)) (a.request m₁).2 :=
    leads_preparing_of_requesting (a.request_makes (subset_refl _) m₁)
  rcases hm₁ : a.request m₁ with ⟨e | id, m₂⟩
  · rw [bind_of_error hm₁]
    rw [hm₁] at hrequest
    exact .inl ⟨harm.trans hrequest, e, rfl⟩
  rw [bind_of_ok hm₁]
  rw [hm₁] at hrequest
  obtain ⟨url, r, answers, ⟨c, hholds⟩, -⟩ := request_eq_ok hm₁
  have hbefore := harm.trans hrequest
  have hstream := stream_opening hdirectories (fun m₃ l m₄ hmaking hopens => by
    obtain ⟨c', hholds'⟩ := hholds.leads hmaking (by simp [making])
    exact hfill id r c' m₃ l m₄ hholds' hopens) hrest
  rcases hm₂ : a.stream id m₂ with ⟨e | _, m₃⟩
  · rw [bind_of_error hm₂]
    rw [hm₂] at hstream
    rcases hstream with ⟨hleads, -⟩ | hopens
    · exact .inl ⟨hbefore.trans hleads, e, rfl⟩
    · exact .inr (Opening.after hbefore hopens)
  · rw [bind_of_ok hm₂]
    rw [hm₂] at hstream
    rcases hstream with ⟨-, e, he⟩ | hopens
    · cases he
    · refine .inr (Opening.after hbefore (hopens.imp fun l m₅ h => hrest l m₅ _ _ h ?_))
      exact a.verify_makes (by simp [checking]) (by simp [checking]) (by simp [checking]) m₃

/-- The kinds of steps before and after the opening. -/
theorem deliver_cases (hdirectories : Makes (making above) (makeDirectoryFor a.target))
    (m : Machine) :
    (m.Leads (StepOf (preparing above)) (a.deliver m).2 ∧ ∃ e, (a.deliver m).1 = .error e) ∨
    a.Opening above (fun l m₂ m' => (afterOpening m₂).Leads (StepOf (writing l ∪ checking)) m') m
      (a.deliver m).2 := by
  refine deliver_opening hdirectories (fun id r c m₁ l m₂ _ _ => ?_)
    (fun l m₂ m' m'' h hleads => h.trans (hleads.of_subset fun _ => .inr)) m
  exact a.fill_leads (fun _ => .inl) id m₂

theorem deliver_makes (a : Attempt) : Makes delivering a.deliver := by
  intro m
  have hpreparing : preparing Set.univ ⊆ delivering := by
    refine Set.union_subset ?_ (Set.union_subset ?_ ?_)
    · simp [requesting, delivering, Set.insert_subset_iff]
    · simp [delivering, Set.insert_subset_iff]
    · rintro k ⟨l', -, rfl⟩
      simp [delivering]
  have hwriting : ∀ l, writing l ∪ checking ⊆ delivering := by
    simp [writing, checking, delivering, Set.insert_subset_iff]
  rcases deliver_cases (makeDirectoryFor_makes a.target) m with
    ⟨hleads, -⟩ | ⟨m₁, l, m₂, hbefore, hopens, hafter⟩
  · exact hleads.of_subset hpreparing
  · have hcreating : m₁.Leads (StepOf delivering) m₂ :=
      hopens.leads.of_subset (by simp [delivering, Set.insert_subset_iff])
    have hopening : m₂.Leads (StepOf delivering) (afterOpening m₂) :=
      afterOpening_leads (by simp [delivering]) m₂
    exact (hbefore.of_subset hpreparing).trans
      (hcreating.trans (hopening.trans (hafter.of_subset (hwriting l))))

end Attempt

end ServerLauncher
