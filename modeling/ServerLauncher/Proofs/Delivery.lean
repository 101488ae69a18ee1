import ServerLauncher.Proofs.Opening

/-!
# A delivery that succeeds

When the stages up to the check of the file succeed, the file holds the whole body of the last
answer, which was received from the requested address or after one redirect.

## Main definitions

* `Attempt.Filled`: the target holds the whole body of an answer.

## Main statements

* `Attempt.deliver_eq_ok`: what a delivery has done that succeeds.
-/

namespace ServerLauncher

open MachineAction World StepKind

namespace Attempt

variable {a : Attempt} {id : Nat} {l : Location} {mode : Nat} {c : Connection} {m m' : Machine}

/-- The file at a location holds the whole body of the answer that the transfer holds; where the
file lies the target leads to. -/
structure Filled (a : Attempt) (id : Nat) (l : Location) (mode : Nat) (r : Response)
    (c : Connection) (w : World) : Prop where
  pouring : Pouring id l mode .empty c w
  response : c.response = r
  nothingLeft : c.chunks = []
  last : w.network.connections.length = id + 1
  walk : w.files.walk w.location a.target = .ok l

/-- A file that was opened just now lacks nothing of a body of which nothing has been read. -/
theorem Pouring.start {r : Response} (hholds : m.toWorld.HoldsAnswer id r c)
    (hopens : Opens a.target m l m') (hwritten : m.transfer.written = 0) :
    ∃ c', Pouring id l (Entry.openedMode (m.files.get? l)) .empty c' m'.toWorld ∧
      c'.response = r ∧ m'.toWorld.HoldsAnswer id r c' := by
  obtain ⟨c', h'⟩ := hholds.leads hopens.leads (by simp)
  have hchunks : c'.chunks = c'.response.chunks := by rw [h'.response, h'.untouched]
  have htaken : c'.taken = [] := by rw [Connection.taken, hchunks, Nat.sub_self, List.take_zero]
  refine ⟨c', ⟨h'.held, h'.connection?, ?_, ?_, h'.shut, .empty, ?_, hopens.entry, ?_⟩, h'.response,
    h'⟩
  · exact ⟨[], hchunks⟩
  · simp [htaken]
  · simp [Connection.received, htaken, bytesOf, ByteArray.append_empty]
  · exact (hopens.leads.written_eq (by simp)).trans hwritten

theorem pour_eq_ok (hm : Pouring id l mode .empty c m.toWorld)
    (h : a.pour id l m = (.ok (), m')) :
    ∃ c', Pouring id l mode .empty c' m'.toWorld ∧ c'.response = c.response ∧ c'.chunks = [] := by
  unfold pour at h
  rw [MachineAction.connection?, observe_bind_apply, hm.connection?] at h
  dsimp only at h
  obtain ⟨_, m₁, hevent, h⟩ := bind_eq_ok.mp h
  have hleads : m.Leads (StepOf {.note}) m₁ := (event_makes (by simp) _ ⟨rfl, rfl⟩).leads hevent
  obtain ⟨c₁, h₁, -, hresponse⟩ := hm.leads hleads (by simp [Idle, location?])
  rw [observe_bind_apply] at h
  have hfuel : c₁.chunks.length < chunksLeft id m₁ + 1 := by
    simp [chunksLeft, h₁.connection?]
  obtain ⟨c', h', hresponse', hnil⟩ := copy_eq_ok _ h₁ hfuel h
  exact ⟨c', h', hresponse'.trans hresponse, hnil⟩

theorem fill_eq_ok (hm : Pouring id l mode .empty c m.toWorld)
    (h : a.fill id l m = (.ok (), m')) :
    ∃ c', Pouring id l mode .empty c' m'.toWorld ∧ c'.response = c.response ∧ c'.chunks = [] := by
  have hopening : m.Leads (StepOf {.opening}) (afterOpening m) := afterOpening_leads (by simp) m
  obtain ⟨c₁, h₁, -, hresponse⟩ := hm.leads hopening (by simp [Idle, location?])
  rw [fill_apply] at h
  obtain ⟨_, m₂, hclose, hsettle⟩ := bind_eq_ok.mp h
  rw [settle_apply, Prod.mk.injEq] at hsettle
  obtain ⟨hpour, rfl⟩ := hsettle
  obtain ⟨c₂, h₂, hresponse', hnil⟩ := pour_eq_ok h₁ (Prod.ext hpour rfl)
  have hleads : (a.pour id l (afterOpening m)).2.Leads (StepOf {.clock, .handle, .use .close}) m₂ :=
    (closeFile_makes (by simp) (by simp) (by simp) l).leads hclose
  obtain ⟨c', h', hsame, hresponse''⟩ := h₂.leads hleads (by simp [Idle, location?])
  exact ⟨c', h', (hresponse''.trans hresponse').trans hresponse, hsame.trans hnil⟩

/-- Where a path leads to a file, nothing but the making of directories has happened before. -/
theorem entry_before (h : m.Leads (StepOf (preparing Set.univ)) m')
    (hl : m'.files.get? l ≠ some .directory) : m'.files.get? l = m.files.get? l := by
  refine (h.get?_eq_or_made fun k hk hlocation => ?_).resolve_right fun hmade => hl hmade.2.2
  rcases hk with hk | hk | ⟨l', -, rfl⟩
  · rw [location?_of_mem_requesting hk] at hlocation
    cases hlocation
  · rcases hk with rfl | rfl | rfl <;> cases hlocation
  · cases hlocation
    rfl

theorem save_eq_ok {r : Response} (hholds : m.toWorld.HoldsAnswer id r c)
    (hwritten : m.transfer.written = 0) (h : a.save id m = (.ok (), m')) :
    m'.network.answers = m.network.answers ∧
      ∃ l c', a.Filled id l (Entry.openedMode (m.files.get? l)) r c' m'.toWorld := by
  unfold save at h
  obtain ⟨_, m₁, hmake, h⟩ := bind_eq_ok.mp h
  obtain ⟨l, m₂, hopen, h⟩ := bind_eq_ok.mp h
  have hmaking : m.Leads (StepOf (making Set.univ)) m₁ :=
    (makeDirectoryFor_makes a.target).leads hmake
  obtain ⟨m₃, hopening, hopens⟩ : ∃ m₃, m₁.Leads (StepOf (making Set.univ)) m₃ ∧
      Opens a.target m₃ l m₂ := openFile_eq_ok clock_mem_making open_mem_making hopen
  have hbefore := hmaking.trans hopening
  obtain ⟨c₁, h₁⟩ := hholds.leads hbefore (by simp [making])
  have hwritten' : m₃.transfer.written = 0 := by
    rw [hbefore.written_eq (by simp [making]), hwritten]
  obtain ⟨c₂, h₂, hresponse, hholds'⟩ := Pouring.start h₁ hopens hwritten'
  rw [entry_before (leads_preparing_of_making hbefore) hopens.not_directory] at h₂
  obtain ⟨c', h', hresponse', hnil⟩ := fill_eq_ok h₂ h
  have hfill : m₂.Leads (StepOf ({.opening} ∪ writing l)) m' := by
    have hfilled : (afterOpening m₂).Leads (StepOf ({.opening} ∪ writing l)) (a.fill id l m₂).2 :=
      a.fill_leads (fun _ => .inr) id m₂
    rw [h] at hfilled
    exact (afterOpening_leads (.inl rfl) m₂).trans hfilled
  refine ⟨?_, l, c', h', hresponse'.trans hresponse, hnil, ?_, ?_⟩
  · rw [hfill.answers_eq (by simp [writing]), hopens.leads.answers_eq (by simp),
      hbefore.answers_eq (by simp [making])]
  · rw [hfill.connections_length_eq (by simp [writing])]
    exact hholds'.last
  · exact hfill.precedes.walk_eq_ok (hopens.leads.precedes.walk_eq_ok hopens.walk)

namespace Filled

variable {r : Response}

theorem received_eq (h : a.Filled id l mode r c m.toWorld) : c.received = bytesOf r.chunks := by
  rw [Connection.received, Connection.taken, h.nothingLeft, h.response, List.length_nil,
    Nat.sub_zero, List.take_length]

theorem entry (h : a.Filled id l mode r c m.toWorld) :
    m.files.get? l = some (.file (bytesOf r.chunks) mode) := by
  obtain ⟨content, hcontent, hentry, -⟩ := h.pouring.content
  rw [ByteArray.append_empty, h.received_eq] at hcontent
  rw [hcontent]
  exact hentry

theorem written_eq (h : a.Filled id l mode r c m.toWorld) :
    m.transfer.written = (bytesOf r.chunks).size := by
  obtain ⟨content, hcontent, -, hwritten⟩ := h.pouring.content
  rw [ByteArray.append_empty, h.received_eq] at hcontent
  rw [hcontent]
  exact hwritten

theorem complete (h : a.Filled id l mode r c m.toWorld) :
    ∀ chunk ∈ r.chunks, ∃ bytes, chunk.content = .ok bytes := by
  intro chunk hmem
  refine h.pouring.complete chunk ?_
  rw [Connection.taken, h.nothingLeft, h.response, List.length_nil, Nat.sub_zero, List.take_length]
  exact hmem

/-- Closing and checking keep what has been filled. -/
theorem leads (h : a.Filled id l mode r c m.toWorld)
    (hleads : m.Leads (StepOf checking) m') :
    ∃ c', a.Filled id l mode r c' m'.toWorld := by
  obtain ⟨c', h', hsame, hresponse⟩ := h.pouring.leads hleads (by simp [Idle, checking, location?])
  refine ⟨c', h', hresponse.trans h.response, hsame.trans h.nothingLeft, ?_,
    hleads.precedes.walk_eq_ok h.walk⟩
  rw [hleads.connections_length_eq (by simp [checking])]
  exact h.last

end Filled

theorem stream_eq_ok {r : Response} (hholds : m.toWorld.HoldsAnswer id r c)
    (hwritten : m.transfer.written = 0) (h : a.stream id m = (.ok (), m')) :
    m'.network.answers = m.network.answers ∧
      ∃ l c', a.Filled id l (Entry.openedMode (m.files.get? l)) r c' m'.toWorld := by
  rw [stream_apply] at h
  obtain ⟨_, m₁, hclose, hconclude⟩ := bind_eq_ok.mp h
  rcases hsave : a.save id m with ⟨e | _, m₂⟩
  · rw [hsave] at hconclude
    cases hconclude
  · rw [hsave] at h
    obtain ⟨hanswers, l, c₁, hfilled⟩ := save_eq_ok hholds hwritten hsave
    have hleads : m₂.Leads (StepOf checking) m' :=
      (a.ending_makes (by simp [checking]) (by simp [checking]) id _ _).leads h
    obtain ⟨c', hfilled'⟩ := hfilled.leads hleads
    exact ⟨(hleads.answers_eq (by simp [checking])).trans hanswers, l, c', hfilled'⟩

/-- A file that has passed the check is not empty. -/
theorem verify_eq_ok (hwalk : m.files.walk m.location a.target = .ok l) {content : ByteArray}
    (hentry : m.files.get? l = some (.file content mode)) (h : a.verify m = (.ok (), m')) :
    content.size ≠ 0 := by
  unfold verify at h
  obtain ⟨⟨size, mode'⟩, m₁, hguarding, h⟩ := bind_eq_ok.mp h
  have hsize : size ≠ 0 := by
    rintro rfl
    cases h
  have hstatus : fileStatus a.target m = (.ok (size, mode'), m₁) := by
    rcases guarding_cases (.sizeUnknown a.target) (fileStatus a.target) m with ⟨-, e, he⟩ | heq
    · rw [he] at hguarding
      cases hguarding
    · exact heq.symm.trans hguarding
  obtain ⟨-, e, he⟩ | ⟨m₂, size', mode'', hleads, hfound, heq⟩ : _ ∨ ∃ m₂ size mode,
      m.Leads (StepOf {.clock, .use .stat}) m₂ ∧ _ :=
    fileStatus_cases (by simp) (by simp) a.target m
  · rw [hstatus] at he
    cases he
  · rw [hstatus] at heq
    cases heq
    have hsame : m₁.files = m.files := hleads.files_eq (by simp [location?])
    have hfile := FileTree.status_of_file hwalk hentry
    rw [hsame, World.location, hleads.precedes.current] at hfound
    rw [World.location] at hfile
    rw [hfile] at hfound
    cases hfound
    exact hsize

/-- A delivery that succeeds has filled the target with the whole body of the last answer. -/
structure Delivers (a : Attempt) (m m' : Machine) (l : Location) (r : Response) (c : Connection) :
    Prop where
  filled : ∃ id, a.Filled id l (Entry.openedMode (m.files.get? l)) r c m'.toWorld
  answers : ∃ url answers, m'.network.answers = m.network.answers ++ answers ∧
    a.Answers answers url r
  status : r.status = 200
  nonempty : (bytesOf r.chunks).size ≠ 0

theorem deliver_eq_ok (hwritten : m.transfer.written = 0) (h : a.deliver m = (.ok (), m')) :
    ∃ l r c, a.Delivers m m' l r c := by
  unfold deliver at h
  obtain ⟨_, m₁, harm, h⟩ := bind_eq_ok.mp h
  obtain ⟨id, m₂, hrequest, h⟩ := bind_eq_ok.mp h
  obtain ⟨_, m₃, hstream, hverify⟩ := bind_eq_ok.mp h
  have harming : m.Leads (StepOf requesting) m₁ := (a.arm_makes (by simp [requesting])).leads harm
  have harming' : m.Leads (StepOf {.alarm}) m₁ := (a.arm_makes (by simp)).leads harm
  have hrequesting : m₁.Leads (StepOf requesting) m₂ :=
    (a.request_makes (subset_refl _)).leads hrequest
  have hbefore := harming.trans hrequesting
  obtain ⟨url, r, answers, ⟨c₁, hholds⟩, -, hanswers, hone, hstatus⟩ := request_eq_ok hrequest
  have hwritten' : m₂.transfer.written = 0 := by
    rw [hbefore.written_eq (by simp [requesting]), hwritten]
  obtain ⟨hanswers', l, c₂, hfilled⟩ := stream_eq_ok hholds hwritten' hstream
  have hverifying : m₃.Leads (StepOf checking) m' :=
    (a.verify_makes (by simp [checking]) (by simp [checking]) (by simp [checking])).leads hverify
  obtain ⟨c', hfilled'⟩ := hfilled.leads hverifying
  refine ⟨l, r, c', ⟨id, ?_⟩, ⟨url, answers, ?_, hone⟩, hstatus, ?_⟩
  · rw [hbefore.files_eq (by simp [requesting, location?])] at hfilled'
    exact hfilled'
  · rw [hverifying.answers_eq (by simp [checking]), hanswers', hanswers,
      harming'.answers_eq (by simp)]
  · exact verify_eq_ok hfilled.walk hfilled.entry hverify

end Attempt

end ServerLauncher
