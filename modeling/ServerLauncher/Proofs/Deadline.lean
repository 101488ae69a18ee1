import ServerLauncher.Proofs.Delivery
import ServerLauncher.Proofs.Outcome

/-!
# The deadline of a download

Once the deadline of an attempt has passed it stays passed, wherever time goes by.  If that happens
before the file is made executable the attempt does not succeed, and what is read from then on is
not written.

## Main definitions

* `World.HoldsPart`: a file holds the beginning of some bytes.
* `Attempt.Heeds`: what an attempt has written at one moment if it had expired at another one.
* `Attempt.Heeding`: the invariant of an attempt that has opened its file.

## Main statements

* `Attempt.isExpiredAt_of_precedes`: a passed deadline stays passed.
* `Attempt.Turn.heeding`: each turn of the loop keeps the invariant.
* `Downloader.download_heeds_deadline`: the deadline is kept at every moment of a download.
-/

namespace ServerLauncher

open MachineAction World StepKind

/-! ## Expiry -/

/-- A passed deadline stays passed. -/
theorem Attempt.isExpiredAt_of_precedes {a : Attempt} {w w' : World} (h : w.Precedes w')
    (hexpired : a.isExpiredAt w) : a.isExpiredAt w' := by
  unfold isExpiredAt at hexpired ⊢
  rw [Bool.or_eq_true] at hexpired ⊢
  rcases hexpired with hring | hreached
  · exact .inl (h.hasExpired hring)
  · right
    rw [World.time, h.arithmetic]
    exact Arithmetic.reaches_of_le _ h.now hreached

/-! ## What has been read -/

/-- What has been read stays read. -/
theorem Machine.Leads.received {ks : Set StepKind} {m m' : Machine} (h : m.Leads (StepOf ks) m')
    (hks : .holding ∉ ks) : ∃ rest, m'.received = m.received ++ rest := by
  rcases hheld : m.transfer.connection with _ | id
  · refine ⟨m'.received, ?_⟩
    simp [World.received, hheld]
  · have hheld' := (h.connection_eq hks).trans hheld
    rcases hc : m.network.connection? id with _ | c
    · refine ⟨m'.received, ?_⟩
      simp [World.received, hheld, hc]
    · obtain ⟨c', hc', hcc', -⟩ := h.connection? hc
      rw [World.received_eq hheld hc, World.received_eq hheld' hc']
      exact hcc'.received

/-- The file at a location, if there is one, holds the beginning of some bytes. -/
def World.HoldsPart (w : World) (l : Location) (bytes : ByteArray) : Prop :=
  ∀ content, w.contentAt l = some content → ∃ rest, bytes = content ++ rest

namespace World.HoldsPart

variable {w w' : World} {l : Location} {bytes more : ByteArray}

theorem append (h : w.HoldsPart l bytes) (hmore : ∃ rest, more = bytes ++ rest) :
    w.HoldsPart l more := by
  intro content hcontent
  obtain ⟨rest, hrest⟩ := h content hcontent
  obtain ⟨rest', hrest'⟩ := hmore
  exact ⟨rest ++ rest', by rw [hrest', hrest, ByteArray.append_assoc]⟩

theorem step {k : StepKind} (h : w.HoldsPart l bytes) (hstep : w.Step k w')
    (hcreate : k ≠ .create l) (happend : k ≠ .append l) : w'.HoldsPart l bytes :=
  fun content hcontent => h content (hstep.contentAt_eq hcreate happend hcontent)

end World.HoldsPart

namespace Attempt

variable {a : Attempt} {m₀ m m' m'' : Machine} {l : Location}

/-- If the deadline had passed at a moment, the target holds at a later one only what had been read
by then.  A file that the transfer has not opened holds what it held at the beginning. -/
def Heeds (a : Attempt) (start w w' : World) : Prop :=
  a.isExpiredAt w → ∀ l content mode,
    w'.files.find w'.location a.target = .ok (l, .file content mode) →
    (w'.transfer.hasOpened = false ∧ start.contentAt l = some content) ∨
      ∃ rest, w.received = content ++ rest

/-! ## The invariant -/

/-- The moments since a machine heed the deadline, and the target holds at most what had been read
when the deadline passed. -/
structure Heeding (a : Attempt) (m₀ : Machine) (l : Location) (m : Machine) : Prop where
  leads : m₀.Leads (StepOf Set.univ) m
  walk : m.files.walk m.location a.target = .ok l
  moments : (m₀.momentsSince m).Pairwise (a.Heeds m₀.toWorld)
  bounded : ∀ w ∈ m₀.momentsSince m, a.isExpiredAt w → m.toWorld.HoldsPart l w.received
  within : m.toWorld.HoldsPart l m.received

namespace Heeding

/-- One more step keeps the invariant if the file stays within its bounds. -/
theorem step {k : StepKind} (h : a.Heeding m₀ l m) (hpast : m'.past = m.toWorld :: m.past)
    (hstep : m.toWorld.Step k m'.toWorld)
    (hbounded : ∀ w ∈ m₀.momentsSince m, a.isExpiredAt w → m'.toWorld.HoldsPart l w.received)
    (hwithin : m'.toWorld.HoldsPart l m'.received) : a.Heeding m₀ l m' := by
  have hmoments := h.leads.momentsSince_step hpast
  have hwalk := hstep.precedes.walk_eq_ok h.walk
  refine ⟨h.leads.trans (.step hpast (hstep.of (Set.mem_univ k))), hwalk, ?_, ?_, hwithin⟩
  · rw [hmoments, List.pairwise_append]
    refine ⟨h.moments, List.pairwise_singleton _ _, ?_⟩
    intro w hw w' hw'
    rw [List.mem_singleton] at hw'
    subst hw'
    intro hexpired l' content mode hfind
    obtain ⟨hwalk', hentry⟩ := FileTree.find_eq_ok.mp hfind
    rw [hwalk, Except.ok.injEq] at hwalk'
    subst hwalk'
    exact .inr (hbounded w hw hexpired content (contentAt_eq_some.mpr ⟨mode, hentry⟩))
  · intro w hw hexpired
    rw [hmoments, List.mem_append, List.mem_singleton] at hw
    rcases hw with hw | rfl
    · exact hbounded w hw hexpired
    · exact hwithin

/-- Steps that do not add to the file keep the invariant. -/
theorem mono {ks : Set StepKind} (h : a.Heeding m₀ l m) (hleads : m.Leads (StepOf ks) m')
    (hks : .create l ∉ ks ∧ .append l ∉ ks ∧ .holding ∉ ks) : a.Heeding m₀ l m' := by
  obtain ⟨hcreate, happend, hholding⟩ := hks
  induction hleads with
  | refl => exact h
  | @tail n n' _ hs ih =>
    obtain ⟨hpast, k, hk, hstep⟩ := hs
    have hmore := (Machine.Leads.step hpast (hstep.of hk)).received hholding
    have hkcreate : k ≠ .create l := fun heq => hcreate (heq ▸ hk)
    have hkappend : k ≠ .append l := fun heq => happend (heq ▸ hk)
    refine ih.step hpast hstep ?_ ?_
    · intro w hw hexpired
      exact (ih.bounded w hw hexpired).step hstep hkcreate hkappend
    · exact (ih.within.step hstep hkcreate hkappend).append hmore

/-- What has been read in time may be written even if the deadline passes before it is. -/
theorem append {bytes : ByteArray} (h : a.Heeding m₀ l m)
    (hinTime : a.isExpiredAt m.toWorld = false) (hwrite : m.Leads (StepOf {.clock, .use .write}) m')
    (hpart : (afterAppending l bytes m').toWorld.HoldsPart l m.received) :
    a.Heeding m₀ l (afterAppending l bytes m') := by
  have h' := h.mono hwrite (by simp)
  refine h'.step rfl (.append l bytes) ?_ ?_
  · intro w hw hexpired
    rcases h.leads.mem_momentsSince_or hwrite hw with hw | hw
    · -- The deadline had not passed when the bytes were read, nor before.
      obtain ⟨n, -, hn, rfl⟩ := h.leads.of_mem_momentsSince hw
      rw [isExpiredAt_of_precedes hn.precedes hexpired] at hinTime
      cases hinTime
    · obtain ⟨n, hn, -, rfl⟩ := hwrite.of_mem_momentsSince hw
      exact hpart.append (hn.received (by simp))
  · exact hpart.append (hwrite.received (by simp))

end Heeding

/-! ## The loop -/

variable {id : Nat} {c : Connection} {mode : Nat}

theorem Reads.heeding {bytes : ByteArray} (h : a.Heeding m₀ l m)
    (hreads : a.Reads id c m bytes m') : a.Heeding m₀ l m' := by
  obtain ⟨m₁, hleads, rfl⟩ := hreads.leads
  have htaking : m₁.Leads (StepOf {.reading}) (afterTaking id m₁) :=
    afterTaking_leads (by simp) id m₁
  exact (h.mono hleads (by simp)).mono htaking (by simp)

/-- Each turn of the loop keeps the invariant. -/
theorem Turn.heeding {result : Option (Except Fault Unit)} (h : a.Heeding m₀ l m)
    (hpouring : Pouring id l mode .empty c m.toWorld) (hturn : a.Turn id l c m result m') :
    a.Heeding m₀ l m' := by
  cases hturn with
  | ended _ hleads => exact h.mono hleads (by simp)
  | failed e _ hleads => exact h.mono hleads (by simp)
  | dropped e m₁ hleads =>
    have htaking : m₁.Leads (StepOf {.reading}) (afterTaking id m₁) :=
      afterTaking_leads (by simp) id m₁
    exact (h.mono hleads (by simp)).mono htaking (by simp)
  | skipped bytes _ hreads => exact Reads.heeding h hreads
  | unwritten e bytes _ _ hreads hwrite => exact (Reads.heeding h hreads).mono hwrite (by simp)
  | written bytes m₁ m₂ _ hreads hwrite hcount =>
    have h₁ := Reads.heeding h hreads
    obtain ⟨c₁, hpouring₁, -, -⟩ := hpouring.reads hreads
    obtain ⟨content, hreceived, hentry, -⟩ := hpouring₁.content
    have hpart : (afterAppending l bytes m₂).toWorld.HoldsPart l m₁.received := by
      intro content' hcontent'
      obtain ⟨mode', hentry'⟩ := contentAt_eq_some.mp hcontent'
      have hsame : m₂.files.get? l = some (.file content mode) :=
        (hwrite.get?_eq (by simp [location?])).trans hentry
      have happended : (m₂.files.append l bytes).get? l = some (.file (content ++ bytes) mode) := by
        rw [FileTree.get?_append, if_pos rfl, hsame]
        rfl
      have heq := happended.symm.trans hentry'
      cases heq
      refine ⟨.empty, ?_⟩
      rw [World.received_eq hpouring₁.held hpouring₁.connection?, hreceived, ByteArray.append_empty]
    have hcounting : (afterAppending l bytes m₂).Leads (StepOf {.counting})
        (afterCounting bytes.size (afterAppending l bytes m₂)) :=
      .step rfl ((Step.count bytes.size).of (by simp))
    exact (((Reads.heeding h hreads).append hreads.inTime hwrite hpart).mono hcounting
      (by simp)).mono hcount (by simp)

theorem copy_heeding (n : Nat) : ∀ {reported : Nat} {m : Machine} {c : Connection},
    a.Heeding m₀ l m → Pouring id l mode .empty c m.toWorld →
      a.Heeding m₀ l (a.copy id l n reported m).2 := by
  induction n with
  | zero => exact fun h _ => h
  | succ n ih =>
    intro reported m c h hpouring
    rcases a.copy_turn hpouring.connection? n reported with
      ⟨result, m₁, hturn, heq⟩ | ⟨m₁, reported', hturn, heq⟩
    · rw [heq]
      exact hturn.heeding h hpouring
    · rw [heq]
      obtain ⟨c₁, hpouring₁, -, -⟩ := hpouring.turn hturn
      exact ih (hturn.heeding h hpouring) hpouring₁

theorem pour_heeding (h : a.Heeding m₀ l m) (hpouring : Pouring id l mode .empty c m.toWorld) :
    a.Heeding m₀ l (a.pour id l m).2 := by
  unfold pour
  rw [MachineAction.connection?, observe_bind_apply, hpouring.connection?]
  dsimp only
  have hevent : m.Leads (StepOf {.note}) (event (.read c.url a.downloader.chunkSize) m).2 :=
    event_makes (by simp) _ ⟨rfl, rfl⟩ m
  obtain ⟨c₁, hpouring₁, -, -⟩ := hpouring.leads hevent (by simp [Idle, location?])
  exact copy_heeding _ (h.mono hevent (by simp)) hpouring₁

/-! ## The stages -/

theorem contentAt_before (h : m₀.Leads (StepOf (preparing Set.univ)) m) {content : ByteArray}
    (hcontent : m.contentAt l = some content) : m₀.contentAt l = some content := by
  obtain ⟨mode, hentry⟩ := contentAt_eq_some.mp hcontent
  rw [entry_before h (by simp [hentry])] at hentry
  exact contentAt_eq_some.mpr ⟨mode, hentry⟩

theorem contentAt_opening (h : m.Leads (StepOf {.create l, .handle}) m') {k : Location}
    {content : ByteArray} (hcontent : m'.contentAt k = some content) :
    m.contentAt k = some content ∨ content = .empty := by
  induction h with
  | refl => exact .inl hcontent
  | tail _ hs ih =>
    obtain ⟨-, kind, hkind, hstep⟩ := hs
    by_cases hcreate : kind = .create k
    · subst hcreate
      rw [hstep.contentAt_of_create, Option.some.injEq] at hcontent
      exact .inr hcontent.symm
    · have happend : kind ≠ .append k := by
        rintro rfl
        simp at hkind
      exact ih (hstep.contentAt_eq hcreate happend hcontent)

/-- Up to the opening the target holds what it held at the beginning, or nothing. -/
theorem content_until_opening (hbefore : m₀.Leads (StepOf (preparing Set.univ)) m)
    (hopened : m₀.transfer.hasOpened = false) (hopens : Opens a.target m l m') {w : World}
    (hw : w ∈ m₀.momentsSince m') {k : Location} {content : ByteArray}
    (hcontent : w.contentAt k = some content) :
    (w.transfer.hasOpened = false ∧ m₀.contentAt k = some content) ∨ content = .empty := by
  have hclosed : m.transfer.hasOpened = false := by
    rw [hbefore.hasOpened_eq (by simp [preparing, requesting, making]), hopened]
  rcases hbefore.mem_momentsSince_or hopens.leads hw with hw | hw
  · obtain ⟨n, hn, -, rfl⟩ := hbefore.of_mem_momentsSince hw
    refine .inl ⟨?_, contentAt_before hn hcontent⟩
    rw [hn.hasOpened_eq (by simp [preparing, requesting, making]), hopened]
  · obtain ⟨n, hn, -, rfl⟩ := hopens.leads.of_mem_momentsSince hw
    rcases contentAt_opening hn hcontent with hsame | hempty
    · refine .inl ⟨?_, contentAt_before hbefore hsame⟩
      rw [hn.hasOpened_eq (by simp), hclosed]
    · exact .inr hempty

/-- The file has just been opened, and is empty. -/
theorem Heeding.start (hbefore : m₀.Leads (StepOf (preparing Set.univ)) m)
    (hopened : m₀.transfer.hasOpened = false) (hopens : Opens a.target m l m') :
    a.Heeding m₀ l (afterOpening m') := by
  have hopening : m'.Leads (StepOf {.opening}) (afterOpening m') := afterOpening_leads (by simp) m'
  have hleads := leads_opened hbefore hopens
  have hwalk : m'.files.walk m'.location a.target = .ok l :=
    hopens.leads.precedes.walk_eq_ok hopens.walk
  have hempty : ∀ bytes, m'.toWorld.HoldsPart l bytes := by
    intro bytes content hcontent
    obtain ⟨mode, hentry⟩ := contentAt_eq_some.mp hcontent
    rw [hopens.entry] at hentry
    cases hentry
    exact ⟨bytes, ByteArray.empty_append.symm⟩
  -- Up to here no content depends on what has been read.
  have hbase : a.Heeding m₀ l m' := by
    refine ⟨hleads, hwalk, ?_, fun w _ _ => hempty w.received, hempty m'.received⟩
    refine List.pairwise_of_forall_mem_list ?_
    intro w _ w' hw' _ k content mode hfind
    obtain ⟨-, hentry⟩ := FileTree.find_eq_ok.mp hfind
    rcases content_until_opening hbefore hopened hopens hw'
      (contentAt_eq_some.mpr ⟨mode, hentry⟩) with hsame | rfl
    · exact .inl hsame
    · exact .inr ⟨w.received, ByteArray.empty_append.symm⟩
  exact hbase.mono hopening (by simp)

theorem fill_heeding (h : a.Heeding m₀ l (afterOpening m))
    (hpouring : Pouring id l mode .empty c m.toWorld) : a.Heeding m₀ l (a.fill id l m).2 := by
  have hopening : m.Leads (StepOf {.opening}) (afterOpening m) := afterOpening_leads (by simp) m
  obtain ⟨c₁, hpouring₁, -, -⟩ := hpouring.leads hopening (by simp [Idle, location?])
  have hclosing : (a.pour id l (afterOpening m)).2.Leads (StepOf {.clock, .handle, .use .close})
      (a.fill id l m).2 := by
    rw [fill_apply]
    exact closing_makes (by simp) (by simp) (by simp) _ _
  exact (pour_heeding h hpouring₁).mono hclosing (by simp)

/-- Before the opening there is nothing to heed. -/
theorem heeds_before (h : m₀.Leads (StepOf (preparing Set.univ)) m)
    (hopened : m₀.transfer.hasOpened = false) :
    (m₀.momentsSince m).Pairwise (a.Heeds m₀.toWorld) := by
  refine List.pairwise_of_forall_mem_list ?_
  intro w _ w' hw' _ k content mode hfind
  obtain ⟨-, hentry⟩ := FileTree.find_eq_ok.mp hfind
  obtain ⟨n, hn, -, rfl⟩ := h.of_mem_momentsSince hw'
  refine .inl ⟨?_, contentAt_before hn (contentAt_eq_some.mpr ⟨mode, hentry⟩)⟩
  rw [hn.hasOpened_eq (by simp [preparing, requesting, making]), hopened]

/-- A delivery either opens its file and keeps the invariant from then on, or fails before. -/
theorem deliver_heeding (hopened : m₀.transfer.hasOpened = false)
    (hwritten : m₀.transfer.written = 0) :
    (m₀.Leads (StepOf (preparing Set.univ)) (a.deliver m₀).2 ∧
      ∃ e, (a.deliver m₀).1 = .error e) ∨ ∃ l, a.Heeding m₀ l (a.deliver m₀).2 := by
  have hopening := deliver_opening (a := a)
    (R := fun l m₂ m' => m₂.transfer.written = 0 → a.Heeding m₀ l (afterOpening m₂) →
      a.Heeding m₀ l m') (makeDirectoryFor_makes a.target) ?_ ?_ m₀
  · rcases hopening with hfails | ⟨m₁, l, m₂, hbefore, hopens, hafter⟩
    · exact .inl hfails
    · have hwritten₂ : m₂.transfer.written = 0 := by
        rw [hopens.leads.written_eq (by simp),
          hbefore.written_eq (by simp [preparing, requesting, making]), hwritten]
      exact .inr ⟨l, hafter hwritten₂ (Heeding.start hbefore hopened hopens)⟩
  · intro id r c m₁ l m₂ hholds hopens hwritten₂ h
    have hwritten₁ : m₁.transfer.written = 0 := by
      rw [← hopens.leads.written_eq (by simp), hwritten₂]
    obtain ⟨c', hpouring, -, -⟩ := Pouring.start hholds hopens hwritten₁
    exact fill_heeding h hpouring
  · intro l m₂ m' m'' hafter hleads hwritten₂ h
    exact (hafter hwritten₂ h).mono hleads (by simp [checking])

/-- All moments of an attempt heed the deadline. -/
theorem perform_heeds (hopened : m₀.transfer.hasOpened = false)
    (hwritten : m₀.transfer.written = 0) :
    (a.perform.moments m₀).Pairwise (a.Heeds m₀.toWorld) := by
  have hany := Path.leadsInto_univ a.target
  rcases deliver_heeding (a := a) hopened hwritten with ⟨hbefore, e, he⟩ | ⟨l, h⟩
  · have hrun := a.run_eq_deliver he
    refine heeds_before (a.perform_leads_of_not_opened (e := e) hopened ?_ ?_) hopened
    · rw [hrun]
      exact hbefore
    · rw [hrun]
  · unfold moments
    rw [perform_apply]
    have hrun := h.mono (a.run_leads hany m₀) (by simp [permitting, finishing])
    exact (hrun.mono (a.afterRun_leads hany _ _) (by simp [clearing])).moments

/-- The stages succeed only if the deadline has not passed when the file is complete. -/
theorem deliver_of_run_eq_ok {n : Nat} (h : a.run m = (.ok n, m')) :
    ∃ m₁, a.deliver m = (.ok (), m₁) ∧ a.isExpiredAt m₁.toWorld = false := by
  unfold run at h
  obtain ⟨_, m₁, hdeliver, h⟩ := bind_eq_ok.mp h
  obtain ⟨_, m₂, hmake, -⟩ := bind_eq_ok.mp h
  refine ⟨m₁, hdeliver, ?_⟩
  rcases a.makeExecutable_cases m₁ with ⟨-, e, he⟩ | ⟨hinTime, -⟩
  · rw [hmake] at he
    cases he
  · exact hinTime

end Attempt

/-- The transfer holds a connection that was not shut down and whose body has been read to its
end. -/
def World.HasWholeBody (w : World) : Prop :=
  ∃ id c, w.transfer.connection = some id ∧ w.network.connection? id = some c ∧
    c.isShut = false ∧ c.chunks = []

/-- A download whose deadline passes before the file is made executable does not succeed.  What is
read once the deadline has passed is never written, and a body that was cut short is not taken for a
whole one. -/
theorem Downloader.download_heeds_deadline (d : Downloader) (url target : String)
    (timeout : Double) (m : Machine) :
    let a := d.attemptOn url target timeout m
    let m₀ := (a.begin m).2
    (∀ w ∈ a.deliver.moments m₀, a.isExpiredAt w →
      ∀ n, (d.download url target timeout m).1 ≠ .ok (.succeeded n)) ∧
    (a.perform.moments m₀).Pairwise (a.Heeds m.toWorld) ∧
    (∀ n, (d.download url target timeout m).1 = .ok (.succeeded n) →
      ∃ m₁, a.deliver m₀ = (.ok (), m₁) ∧ m₁.HasWholeBody) := by
  intro a m₀
  have hopened : m₀.transfer.hasOpened = false := rfl
  have hwritten : m₀.transfer.written = 0 := rfl
  have hsucceeds : ∀ n, (d.download url target timeout m).1 = .ok (.succeeded n) →
      ∃ m₁, a.deliver m₀ = (.ok (), m₁) ∧ a.isExpiredAt m₁.toWorld = false := by
    intro n hn
    rw [download_apply, Attempt.perform_apply, Attempt.outcomeOf_eq_succeeded] at hn
    exact Attempt.deliver_of_run_eq_ok (Prod.ext hn rfl)
  refine ⟨?_, Attempt.perform_heeds hopened hwritten, ?_⟩
  · intro w hw hexpired n hn
    obtain ⟨m₁, hdeliver, hinTime⟩ := hsucceeds n hn
    obtain ⟨m₂, -, hlater, rfl⟩ := (a.deliver_makes m₀).of_mem_momentsSince hw
    rw [hdeliver] at hlater
    rw [Attempt.isExpiredAt_of_precedes hlater.precedes hexpired] at hinTime
    cases hinTime
  · intro n hn
    obtain ⟨m₁, hdeliver, hinTime⟩ := hsucceeds n hn
    obtain ⟨l, r, c, ⟨id, hfilled⟩, -⟩ := Attempt.deliver_eq_ok hwritten hdeliver
    refine ⟨m₁, hdeliver, id, c, hfilled.pouring.held, hfilled.pouring.connection?, ?_,
      hfilled.nothingLeft⟩
    -- A connection is shut down only by the alarm, and that has not gone off.
    by_contra hshut
    rw [Bool.not_eq_false] at hshut
    rw [Attempt.isExpiredAt, hfilled.pouring.shut hshut] at hinTime
    cases hinTime

/-- An answer whose second chunk arrives after two seconds.  To its reader a connection that was
shut down looks like the end of the body. -/
def tricklingMachine : Machine :=
  .answering {} [("u", { chunks := [{ content := .ok ⟨#[1]⟩ },
    { delay := 2000000, content := .ok ⟨#[2]⟩ }], onShutdown := .endOfBody })]

/-- The answer is too slow for a download within one second, but not for one within three. -/
theorem Downloader.download_heeds_deadline_trickling :
    let short := Downloader.attemptOn {} "u" "/x" (.ofNat 1) tricklingMachine
    let long := Downloader.attemptOn {} "u" "/x" (.ofNat 3) tricklingMachine
    (∃ w ∈ short.deliver.moments (short.begin tricklingMachine).2, short.isExpiredAt w ∧
      ∀ n, (Downloader.download {} "u" "/x" (.ofNat 1) tricklingMachine).1 ≠
        .ok (.succeeded n)) ∧
    (Downloader.download {} "u" "/x" (.ofNat 3) tricklingMachine).1 = .ok (.succeeded 2) ∧
      ∃ m₁, long.deliver (long.begin tricklingMachine).2 = (.ok (), m₁) ∧ m₁.HasWholeBody := by
  intro short long
  constructor
  · have hany : (short.deliver.moments (short.begin tricklingMachine).2).any short.isExpiredAt := by
      decide +kernel
    obtain ⟨w, hw, hexpired⟩ := List.any_eq_true.mp hany
    exact ⟨w, hw, hexpired, (Downloader.download_heeds_deadline {} "u" "/x" (.ofNat 1)
      tricklingMachine).1 w hw hexpired⟩
  · have hwritten : (Downloader.download {} "u" "/x" (.ofNat 3)
        tricklingMachine).1.toOption.map (·.bytesWritten) = some (1 + 1) := by decide +kernel
    have hresult : (Downloader.download {} "u" "/x" (.ofNat 3) tricklingMachine).1 =
        .ok (.succeeded 2) := by rw [FetchOutcome.eq_succeeded hwritten]
    exact ⟨hresult, (Downloader.download_heeds_deadline {} "u" "/x" (.ofNat 3)
      tricklingMachine).2.2 2 hresult⟩

end ServerLauncher
