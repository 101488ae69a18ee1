import ServerLauncher.Proofs.Outcome

/-!
# What a download leaves behind

A download that fails leaves the target as it was, if it has not opened it, or else removes it.
Apart from the target it only makes directories above it.

## Main definitions

* `Attempt.OpensTarget`: the target is opened for writing at some moment.
* `Attempt.RemovalFails`: the removal of what was written fails.

## Main statements

* `Attempt.perform_leads`: which locations an attempt touches.
* `Attempt.removePartial_cases`: an opened file is removed unless the removal fails.
* `Downloader.download_cleans_up`: the files after a download.
-/

namespace ServerLauncher

open MachineAction World StepKind

/-- The steps that touch one location at most, apart from making directories at some others. -/
def StepKind.touching (above : Set Location) (l : Location) : Set StepKind :=
  {k | ∀ k', k.location? = some k' → k' = l ∨ k' ∈ above ∧ k = .directory k'}

namespace Attempt

variable {a : Attempt} {m m' : Machine} {l : Location}

/-- The target becomes open for writing at some moment of the stages. -/
def OpensTarget (a : Attempt) (m : Machine) : Prop :=
  ∃ w ∈ a.run.moments m, w.opened = FileTree.locate a.target :: m.opened

/-- The machine on which a failed attempt removes what it has written. -/
def beforeRemoval (a : Attempt) (m : Machine) : Machine :=
  (disarm (a.report (a.run m).1 (a.run m).2).2).2

/-- The removal of what a failed attempt has written fails with an error of the operating system. -/
def RemovalFails (a : Attempt) (m : Machine) : Prop :=
  ∃ errno, (removeFile a.target (a.beforeRemoval m)).1 = .error (.system errno (some a.target)) ∧
    ∃ d ∈ m.disturbances, d.operation = .remove ∧ d.number = m.uses .remove + 1 ∧
      d.errno = some errno

/-! ## Where files are touched -/

section Target

variable {slashes : List Char} {components : List (List Char)}

theorem preparing_subset_touching (above : Set Location) (l : Location) :
    preparing above ⊆ touching above l := by
  rintro k (hk | hk | ⟨l', hl', rfl⟩) k' hlocation
  · rw [location?_of_mem_requesting hk] at hlocation
    cases hlocation
  · rcases hk with rfl | rfl | rfl <;> cases hlocation
  · cases hlocation
    exact .inr ⟨hl', rfl⟩

theorem subset_touching {ks : Set StepKind} (above : Set Location) {l : Location}
    (h : ∀ k ∈ ks, ∀ k', k.location? = some k' → k' = l) : ks ⊆ touching above l :=
  fun k hk k' hlocation => .inl (h k hk k' hlocation)

/-- An attempt touches its target, and makes directories above it. -/
theorem perform_leads (h : Path.Spells slashes components a.target) (hne : components ≠ [])
    (m : Machine) : m.Leads (StepOf (touching {l | l <+: (FileTree.locate a.target).dropLast}
      (FileTree.locate a.target))) (a.perform m).2 := by
  rw [perform_apply]
  refine .trans ?_ ((a.afterRun_leads h.leadsInto _ _).of_subset ?_)
  · rcases a.run_cases (makeDirectoryFor_makes_above h hne) h.leadsInto m with
      ⟨hleads, -⟩ | ⟨m₁, l, m₂, hbefore, hopens, hafter⟩
    · exact hleads.of_subset (preparing_subset_touching _ _)
    · obtain ⟨-, rfl, -⟩ := h.walk_eq_ok.mp hopens.walk
      have hopening : m₂.Leads (StepOf {.opening}) (afterOpening m₂) :=
        afterOpening_leads (by simp) m₂
      refine (hbefore.of_subset (preparing_subset_touching _ _)).trans
        ((hopens.leads.of_subset ?_).trans ((hopening.of_subset ?_).trans (hafter.of_subset ?_)))
      · exact subset_touching _ (by simp [location?])
      · exact subset_touching _ (by simp [location?])
      · refine subset_touching _ ?_
        simp [location?, writing, checking, permitting, finishing, or_imp, forall_and]
  · refine subset_touching _ ?_
    simp [location?, clearing, or_imp, forall_and]

end Target

/-! ## The removal -/

/-- A file is removed unless the removal is disturbed by a failure. -/
theorem removeFile_cases {path : String} {content : ByteArray} {mode : Nat}
    (hwalk : m.files.walk m.location path = .ok l)
    (hentry : m.files.get? l = some (.file content mode)) :
    (∃ d ∈ m.disturbances, d.operation = .remove ∧ d.number = m.uses .remove + 1 ∧
      ∃ errno, d.errno = some errno ∧
        (removeFile path m).1 = .error (.system errno (some path))) ∨
    ((removeFile path m).1 = .ok () ∧ (removeFile path m).2.files.get? l = none) := by
  have hleads : m.Leads (StepOf {.clock, .use .remove}) (use .remove (some path) m).2 :=
    use_makes (by simp) (by simp) (some path) m
  have hcases := use_cases .remove (some path) m
  unfold removeFile
  rcases hm : use .remove (some path) m with ⟨result, m₁⟩
  rw [hm] at hleads hcases
  rcases hcases with ⟨d, hd, hop, hnumber, errno, herrno, rfl⟩ | rfl
  · refine .inl ⟨d, hd, hop, hnumber, errno, herrno, ?_⟩
    rw [bind_of_error hm]
  · right
    rw [bind_of_ok hm]
    have hwalk' := hleads.precedes.walk_eq_ok hwalk
    have hentry' : m₁.files.get? l = some (.file content mode) :=
      (hleads.get?_eq (by simp [location?])).trans hentry
    have hl : l ≠ [] := FileTree.ne_nil_of_not_directory (t := m₁.files) (by simp [hentry'])
    rw [changeFiles, FileTree.holdsNull_of_walk hwalk', if_neg Bool.false_ne_true,
      FileTree.remove_of_file hwalk' hentry']
    exact ⟨rfl, (FileTree.get?_erase hl).trans (if_pos rfl)⟩

/-- What an attempt has opened is removed unless the removal is disturbed by a failure. -/
theorem removePartial_cases (hopened : m.transfer.hasOpened)
    (hwalk : m.files.walk m.location a.target = .ok l) (hfile : (m.contentAt l).isSome) :
    (∃ d ∈ m.disturbances, d.operation = .remove ∧ d.number = m.uses .remove + 1 ∧
      ∃ errno, d.errno = some errno ∧
        (removeFile a.target m).1 = .error (.system errno (some a.target))) ∨
    (a.removePartial m).2.files.get? l = none := by
  obtain ⟨content, hcontent⟩ := Option.isSome_iff_exists.mp hfile
  obtain ⟨mode, hentry⟩ := contentAt_eq_some.mp hcontent
  rcases removeFile_cases hwalk hentry with hdisturbed | ⟨hok, hnone⟩
  · exact .inl hdisturbed
  · right
    unfold removePartial
    rw [get_bind_apply, hopened, if_neg (by simp), attempt_bind_apply, hok]
    exact hnone

/-! ## The stages -/

section Target

variable {slashes : List Char} {components : List (List Char)}

/-- An attempt that fails before the opening leaves the target as it was. -/
theorem get?_eq_of_not_opened (h : Path.Spells slashes components a.target) (hne : components ≠ [])
    (hleads : m.Leads (StepOf (preparing {l | l <+: (FileTree.locate a.target).dropLast})) m') :
    m'.files.get? (FileTree.locate a.target) = m.files.get? (FileTree.locate a.target) := by
  have hbelow : FileTree.locate a.target ≠ [] := by
    rw [h.locate_eq]
    simpa using hne
  have hnot : ¬ FileTree.locate a.target <+: (FileTree.locate a.target).dropLast := by
    intro hprefix
    have hlength := hprefix.length_le
    have hpos := List.length_pos_iff.mpr hbelow
    rw [List.length_dropLast] at hlength
    omega
  refine hleads.get?_eq fun k hk hlocation => ?_
  rcases preparing_subset_touching _ [] hk _ hlocation with hroot | ⟨habove, -⟩
  · exact hbelow hroot
  · exact hnot habove

/-- A failed attempt that has opened its target removes it, unless the removal fails. -/
theorem get?_of_opening (h : Path.Spells slashes components a.target) {above : Set Location}
    (hopening : a.Opening above (fun l m₂ m' => (afterOpening m₂).Leads (StepOf
      (writing l ∪ checking ∪ permitting {FileTree.locate a.target})) m') m (a.run m).2) {e : Fault}
    (he : (a.run m).1 = .error e) :
    (a.perform m).2.files.get? (FileTree.locate a.target) = none ∨ a.RemovalFails m := by
  obtain ⟨m₁, l, m₂, hbefore, hopens, hafter⟩ := hopening
  obtain ⟨-, rfl, -⟩ := h.walk_eq_ok.mp hopens.walk
  set l := FileTree.locate a.target
  have hreport : (a.run m).2.Leads (StepOf {.note, .alarm}) (a.beforeRemoval m) :=
    (a.report_makes (by simp) _ _).trans (disarm_makes (by simp) _)
  have hopened : (afterOpening m₂).transfer.hasOpened := rfl
  have hwalk : (afterOpening m₂).files.walk (afterOpening m₂).location a.target = .ok l :=
    hopens.leads.precedes.walk_eq_ok hopens.walk
  have hcontent : (afterOpening m₂).contentAt l = some .empty :=
    contentAt_eq_some.mpr ⟨_, hopens.entry⟩
  have hfile : ((afterOpening m₂).contentAt l).isSome := by
    rw [hcontent]
    rfl
  have huses : (a.beforeRemoval m).uses .remove = m.uses .remove := by
    rw [hreport.uses_eq (by simp),
      hafter.uses_eq (by simp [writing, checking, permitting, finishing])]
    exact (hopens.leads.uses_eq (by simp)).trans
      (hbefore.uses_eq (by simp [preparing, requesting, making]))
  have hdisturbances : (a.beforeRemoval m).disturbances = m.disturbances := by
    rw [hreport.precedes.disturbances, hafter.precedes.disturbances]
    exact hopens.leads.precedes.disturbances.trans hbefore.precedes.disturbances
  have hperform : (a.perform m).2 = (a.removePartial (a.beforeRemoval m)).2 := by
    rw [perform_apply, he, beforeRemoval, he]
    rfl
  have hlater := hafter.precedes.trans hreport.precedes
  have hremains := hreport.file_remains (by simp)
    (hafter.file_remains (by simp [writing, checking, permitting, finishing]) hfile)
  rcases removePartial_cases (hlater.hasOpened hopened) (hlater.walk_eq_ok hwalk) hremains with
    ⟨d, hd, hop, hnumber, errno, herrno, hfails⟩ | hnone
  · rw [hdisturbances] at hd
    rw [huses] at hnumber
    exact .inr ⟨errno, hfails, d, hd, hop, hnumber, herrno⟩
  · rw [hperform]
    exact .inl hnone

theorem not_opensTarget {above : Set Location}
    (h : m.Leads (StepOf (preparing above)) (a.run m).2) : ¬ a.OpensTarget m := by
  rintro ⟨w, hw, hopened⟩
  obtain ⟨n, hn, -, rfl⟩ := h.of_mem_momentsSince hw
  rw [hn.opened_eq (by simp [preparing, requesting, making])] at hopened
  exact List.cons_ne_self _ _ hopened.symm

theorem opensTarget_of_opening (h : Path.Spells slashes components a.target)
    {above : Set Location} {ks : Location → Set StepKind}
    (hopening : a.Opening above (fun l m₂ m' => (afterOpening m₂).Leads (StepOf (ks l)) m') m
      (a.run m).2) : a.OpensTarget m := by
  obtain ⟨m₁, l, m₂, hbefore, hopens, hafter⟩ := hopening
  obtain ⟨-, rfl, -⟩ := h.walk_eq_ok.mp hopens.walk
  have hopening : m₂.Leads (StepOf Set.univ) (afterOpening m₂) :=
    afterOpening_leads (Set.mem_univ _) m₂
  have hlater := hopening.trans (hafter.of_subset (Set.subset_univ _))
  refine ⟨m₂.toWorld, (leads_opened hbefore hopens).mem_momentsSince hlater, ?_⟩
  rw [hopens.opened, hbefore.opened_eq (by simp [preparing, requesting, making])]

/-- Apart from its target an attempt leaves everything as it was, or makes directories above the
target where nothing was. -/
theorem get?_of_ne (h : Path.Spells slashes components a.target) (hne : components ≠ [])
    (m : Machine) {k : Location} (hk : k ≠ FileTree.locate a.target) :
    (a.perform m).2.files.get? k = m.files.get? k ∨
      (k <+: FileTree.locate a.target ∧ m.files.get? k = none ∧
        (a.perform m).2.files.get? k = some .directory) := by
  have hleads := a.perform_leads h hne m
  have honly : ∀ kind ∈ touching {l | l <+: (FileTree.locate a.target).dropLast}
      (FileTree.locate a.target), kind.location? = some k → kind = .directory k := by
    intro kind hkind hlocation
    rcases hkind k hlocation with heq | ⟨-, hmade⟩
    · exact absurd heq hk
    · exact hmade
  rcases hleads.get?_eq_or_made honly with hsame | ⟨hmade, hnone, hthere⟩
  · exact .inl hsame
  · rcases hmade k rfl with heq | ⟨habove, -⟩
    · exact absurd heq hk
    · exact .inr ⟨habove.trans (List.dropLast_prefix _), hnone, hthere⟩

end Target

end Attempt

/-! ## The download -/

/-- A download that does not succeed leaves its target as it was if it has not opened it.  If it
has, there is no such file afterwards, unless the removal fails; the outcome does not depend on
that.  Whether it succeeds or not, apart from the target a download only makes directories above
it.  Files are told apart by their locations, as there are no links. -/
theorem Downloader.download_cleans_up {d : Downloader} {url target : String} {timeout : Double}
    {m m' : Machine} {result : Except Fault FetchOutcome} (habsolute : Path.isAbsolute target)
    (hnormal : Path.normalize target = target) (hbelow : FileTree.locate target ≠ [])
    (h : d.download url target timeout m = (result, m')) :
    let a := d.attemptOn url target timeout m
    let m₀ := (a.begin m).2
    let l := FileTree.locate target
    result = Attempt.outcomeOf (a.run m₀).1 ∧
    ((∀ n, result ≠ .ok (.succeeded n)) →
      (¬ a.OpensTarget m₀ → m'.files.get? l = m.files.get? l) ∧
      (a.OpensTarget m₀ → m'.files.get? l = none ∨ a.RemovalFails m₀)) ∧
    ∀ k ≠ l, m'.files.get? k = m.files.get? k ∨
      (k <+: l ∧ m.files.get? k = none ∧ m'.files.get? k = some .directory) := by
  intro a m₀ l
  obtain ⟨slashes, components, hspells⟩ := Path.normalize_spells habsolute
  rw [hnormal] at hspells
  have hne : components ≠ [] := by
    rintro rfl
    exact hbelow hspells.locate_eq
  rw [download_apply] at h
  have hperform : (a.perform m₀).2 = m' := congrArg Prod.snd h
  rw [Attempt.perform_apply, Prod.mk.injEq] at h
  obtain ⟨rfl, -⟩ := h
  refine ⟨rfl, ?_, ?_⟩
  · intro hfails
    obtain ⟨e, he⟩ : ∃ e, (a.run m₀).1 = .error e := by
      rcases hresult : (a.run m₀).1 with e | n
      · exact ⟨e, rfl⟩
      · exact absurd (Attempt.outcomeOf_eq_succeeded.mpr hresult) (hfails n)
    rcases a.run_cases (makeDirectoryFor_makes_above hspells hne)
      hspells.leadsInto m₀ with ⟨hleads, -⟩ | hopening
    · refine ⟨fun _ => ?_, fun hopens => absurd hopens (Attempt.not_opensTarget hleads)⟩
      have hall := a.perform_leads_of_not_opened rfl hleads he
      rw [hperform] at hall
      have hsame := Attempt.get?_eq_of_not_opened hspells hne hall
      rw [a.begin_files] at hsame
      exact hsame
    · refine ⟨fun hnot => absurd ?_ hnot, fun _ => ?_⟩
      · exact Attempt.opensTarget_of_opening hspells hopening
      · rw [← hperform]
        exact Attempt.get?_of_opening hspells hopening he
  · intro k hk
    rw [← hperform]
    exact Attempt.get?_of_ne hspells hne m₀ hk

/-- A file is there, and the answer has no body. -/
def emptyAnswerMachine : Machine :=
  .answering ⟨[(FileTree.locate "/x", .file ⟨#[9]⟩ 0o600)]⟩ [("u", {})]

/-- The download of an empty body removes the file that it has opened. -/
theorem Downloader.download_cleans_up_empty :
    (emptyAnswerMachine.files.get? (FileTree.locate "/x")).isSome ∧
      (Downloader.download {} "u" "/x" (.infinite false) emptyAnswerMachine).2.files.get?
        (FileTree.locate "/x") = none := by
  have hdone : Downloader.download {} "u" "/x" (.infinite false) emptyAnswerMachine =
      (_, _) := (Prod.eta _).symm
  obtain ⟨-, hfails, -⟩ := Downloader.download_cleans_up (by decide +kernel) (by decide +kernel)
    (by decide +kernel) hdone
  have hfailed : (Downloader.download {} "u" "/x" (.infinite false)
      emptyAnswerMachine).1.toOption.map (·.isSuccess) = some false := by decide +kernel
  obtain ⟨-, hopened⟩ := hfails fun n hn => by
    rw [hn] at hfailed
    cases hfailed
  refine ⟨by decide +kernel, ?_⟩
  set a := Downloader.attemptOn {} "u" "/x" (.infinite false) emptyAnswerMachine
  have hany : (a.run.moments (a.begin emptyAnswerMachine).2).any
      (·.opened = FileTree.locate a.target :: (a.begin emptyAnswerMachine).2.opened) := by
    decide +kernel
  obtain ⟨w, hw, hmoment⟩ := List.any_eq_true.mp hany
  refine (hopened ⟨w, hw, of_decide_eq_true hmoment⟩).resolve_right ?_
  rintro ⟨errno, -, d, hd, -⟩
  cases hd

end ServerLauncher
