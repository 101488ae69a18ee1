import ServerLauncher.Proofs.Opening

/-!
# The outcome of a download

What follows the stages of an attempt never fails by itself, so that the outcome of a download is
settled by its stages.

## Main definitions

* `Attempt.afterRun`: what follows the stages of an attempt.
* `Machine.answering`: a machine with given files and answers.

## Main statements

* `Attempt.perform_apply`: the outcome is that of the stages, and what follows them.
* `Attempt.run_cases`: which kinds of steps the stages make before and after the opening.
* `Downloader.download_apply`: a download is an attempt on a transfer that starts anew.
-/

namespace ServerLauncher

open MachineAction World StepKind

namespace Attempt

variable (a : Attempt) {result : Except Fault Nat} {n : Nat}

theorem outcomeOf_eq_succeeded : outcomeOf result = .ok (.succeeded n) ↔ result = .ok n := by
  unfold outcomeOf
  split
  · simp
  · simp
  · simp

theorem report_fst (result : Except Fault Nat) (m : Machine) : (a.report result m).1 = .ok () := by
  unfold report
  split <;> rfl

theorem removePartial_fst (m : Machine) : (a.removePartial m).1 = .ok () := by
  unfold removePartial
  rw [get_bind_apply]
  split_ifs
  · rfl
  · rw [attempt_bind_apply]
    rcases (removeFile a.target m).1 with fault | _
    · dsimp only
      split_ifs <;> rfl
    · rfl

theorem cleanUp_fst (result : Except Fault Nat) (m : Machine) :
    (a.cleanUp result m).1 = .ok () := by
  cases result with
  | ok n => rfl
  | error fault => exact a.removePartial_fst m

/-- What follows the stages of an attempt. -/
def afterRun (a : Attempt) (result : Except Fault Nat) (m : Machine) : Machine :=
  (a.cleanUp result (disarm (a.report result m).2).2).2

/-- The outcome of an attempt is that of its stages, whatever follows them. -/
theorem perform_apply (m : Machine) :
    a.perform m = (outcomeOf (a.run m).1, a.afterRun (a.run m).1 (a.run m).2) := by
  unfold perform afterRun
  rw [attempt_bind_apply, bind_of_ok (Prod.ext (a.report_fst _ _) rfl)]
  have hdisarm : disarm (a.report (a.run m).1 (a.run m).2).2 = (.ok (), _) := rfl
  rw [bind_of_ok hdisarm, bind_of_ok (Prod.ext (a.cleanUp_fst _ _) rfl)]
  rfl

theorem afterRun_ok_leads (m : Machine) :
    m.Leads (StepOf {.note, .alarm}) (a.afterRun (.ok n) m) :=
  (a.report_makes (by simp) _ m).trans (disarm_makes (by simp) _)

theorem removePartial_of_not_opened {m : Machine} (h : m.transfer.hasOpened = false) :
    a.removePartial m = (.ok (), m) := by
  unfold removePartial
  rw [get_bind_apply, h]
  rfl

/-- Nothing is removed after an attempt that has not opened its file. -/
theorem afterRun_leads_of_not_opened (result : Except Fault Nat) {m : Machine}
    (h : m.transfer.hasOpened = false) :
    m.Leads (StepOf {.note, .alarm}) (a.afterRun result m) := by
  have hbefore : m.Leads (StepOf {.note, .alarm}) (disarm (a.report result m).2).2 :=
    (a.report_makes (by simp) _ m).trans (disarm_makes (by simp) _)
  have hclosed : (disarm (a.report result m).2).2.transfer.hasOpened = false := by
    rw [hbefore.hasOpened_eq (by simp), h]
  cases result with
  | ok n => exact hbefore
  | error fault =>
    rw [afterRun, cleanUp, a.removePartial_of_not_opened hclosed]
    exact hbefore

theorem afterRun_leads {reached : Set Location}
    (hl : Path.LeadsInto a.target reached)
    (result : Except Fault Nat) (m : Machine) :
    m.Leads (StepOf (clearing reached)) (a.afterRun result m) := by
  have hclock : .clock ∈ clearing reached := .inl (by simp)
  have hnote : .note ∈ clearing reached := .inl (by simp)
  have halarm : .alarm ∈ clearing reached := .inl (by simp)
  have hremove : .use .remove ∈ clearing reached := .inl (by simp)
  have hremoval : Path.LeadsInto a.target {l | .removal l ∈ clearing reached} :=
    fun t current l hwalk => .inr ⟨l, hl t current l hwalk, rfl⟩
  have hbefore := (a.report_makes hnote result m).trans (disarm_makes halarm _)
  cases result with
  | ok n => exact hbefore
  | error fault => exact hbefore.trans (a.removePartial_makes hclock hnote hremove hremoval _)

/-- What the stages do after the delivery. -/
theorem run_leads {reached : Set Location}
    (hl : Path.LeadsInto a.target reached)
    (m : Machine) : (a.deliver m).2.Leads (StepOf (permitting reached)) (a.run m).2 := by
  unfold run
  rcases hm : a.deliver m with ⟨e | _, m₁⟩
  · rw [bind_of_error hm]
    exact .refl m₁
  · rw [bind_of_ok hm]
    exact Proceeds.bind (a.makeExecutable_makes hl) (fun _ => .bind .of_get fun _ => .of_pure _) m₁

/-- The stages fail when the delivery does. -/
theorem run_eq_deliver {m : Machine} {e : Fault} (h : (a.deliver m).1 = .error e) :
    a.run m = (.error e, (a.deliver m).2) := by
  unfold run
  rw [bind_of_error (Prod.ext h rfl)]

/-- The kinds of steps of all stages, before and after the opening. -/
theorem run_cases {above reached : Set Location}
    (hdirectories : Makes (making above) (makeDirectoryFor a.target))
    (hl : Path.LeadsInto a.target reached)
    (m : Machine) :
    (m.Leads (StepOf (preparing above)) (a.run m).2 ∧ ∃ e, (a.run m).1 = .error e) ∨
    a.Opening above (fun l m₂ m' =>
      (afterOpening m₂).Leads (StepOf (writing l ∪ checking ∪ permitting reached)) m') m
      (a.run m).2 := by
  rcases deliver_cases hdirectories m with ⟨hleads, e, he⟩ | hopening
  · rw [a.run_eq_deliver he]
    exact .inl ⟨hleads, e, rfl⟩
  · refine .inr (hopening.imp fun l m₂ hafter => ?_)
    have hrest : (a.deliver m).2.Leads (StepOf (writing l ∪ checking ∪ permitting reached))
        (a.run m).2 := (a.run_leads hl m).of_subset Set.subset_union_right
    exact (hafter.of_subset Set.subset_union_left).trans hrest

/-- An attempt that fails before the opening makes no other steps than those before the opening. -/
theorem perform_leads_of_not_opened {above : Set Location} {m : Machine} {e : Fault}
    (hopened : m.transfer.hasOpened = false)
    (hleads : m.Leads (StepOf (preparing above)) (a.run m).2) (he : (a.run m).1 = .error e) :
    m.Leads (StepOf (preparing above)) (a.perform m).2 := by
  have hclosed : (a.run m).2.transfer.hasOpened = false := by
    rw [hleads.hasOpened_eq (by simp [preparing, requesting, making]), hopened]
  rw [perform_apply, he]
  refine hleads.trans ((a.afterRun_leads_of_not_opened (.error e) hclosed).of_subset ?_)
  rintro k (rfl | rfl)
  · exact .inl (by simp [requesting])
  · exact .inl (by simp [requesting])

theorem begin_fst (m : Machine) : (a.begin m).1 = .ok () := rfl

theorem perform_makes (a : Attempt) : Makes Set.univ a.perform := by
  intro m
  rw [perform_apply]
  have hany := Path.leadsInto_univ a.target
  have hdeliver := (a.deliver_makes m).of_subset (Set.subset_univ _)
  have hrun := (a.run_leads hany m).of_subset (Set.subset_univ _)
  exact hdeliver.trans (hrun.trans ((a.afterRun_leads hany _ _).of_subset (Set.subset_univ _)))

theorem begin_files (m : Machine) : (a.begin m).2.files = m.files := rfl

/-- The beginning of an attempt is a new transfer and a record. -/
theorem begin_leads {R : World → World → Prop} (htransfer : ∀ w, R w { w with transfer := {} })
    (hrecord : ∀ w records, R w { w with records }) (m : Machine) : m.Leads R (a.begin m).2 := by
  have hnew : Proceeds R (updateTransfer fun _ => {}) :=
    .of_change (fun _ => rfl) fun m => htransfer m.toWorld
  have htold : ∀ message, Proceeds R (record .info .download message) := fun _ =>
    .of_change (fun _ => rfl) fun m => hrecord m.toWorld _
  exact hnew.bind (fun _ => htold _) m

/-- An attempt begins with a transfer that starts anew. -/
theorem begin_transfer (m : Machine) : (a.begin m).2.transfer = {} := rfl

end Attempt

theorem FetchOutcome.eq_succeeded {x : Except Fault FetchOutcome × Machine} {n : Nat}
    (h : x.1.toOption.map (·.bytesWritten) = some (n + 1)) :
    x = (.ok (.succeeded (n + 1)), x.2) := by
  obtain ⟨fault | ⟨written⟩ | ⟨problem, cause⟩, m⟩ := x
  · cases h
  · cases h
    rfl
  · cases h

/-- A machine on which some files lie, and whose network answers each request for an address
alike. -/
def Machine.answering (files : FileTree) (answers : List (String × Response)) : Machine :=
  { files, network := { replies := answers.map fun (url, r) => (url, [{ result := .ok r }]) } }

/-- A download is an attempt on a transfer that starts anew. -/
theorem Downloader.download_apply (d : Downloader) (url target : String) (timeout : Double)
    (m : Machine) :
    d.download url target timeout m =
      (d.attemptOn url target timeout m).perform
        ((d.attemptOn url target timeout m).begin m).2 := by
  unfold download
  rw [observe_bind_apply, bind_of_ok (Prod.ext (Attempt.begin_fst _ m) rfl)]
  rfl

/-- A download does nothing to programs. -/
theorem Downloader.download_spares (d : Downloader) (url target : String) (timeout : Double)
    (m : Machine) : m.Leads Spares (d.download url target timeout m).2 := by
  rw [download_apply]
  set a := d.attemptOn url target timeout m
  have hbegin : m.Leads Spares (a.begin m).2 :=
    a.begin_leads (fun _ => ⟨Nat.le_refl _, rfl, rfl⟩) (fun _ _ => ⟨Nat.le_refl _, rfl, rfl⟩) m
  exact hbegin.trans ((a.perform_makes _).mono fun _ _ => StepOf.spares)

end ServerLauncher
