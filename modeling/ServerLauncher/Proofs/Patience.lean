import ServerLauncher.Proofs.Alike

/-!
# More time

A download that succeeds within some time succeeds in the same way within more time.  The two runs
go side by side, on machines that are alike: whatever succeeds in the shorter run before the alarm
goes off has the same success in the longer one.  A success after the alarm can only be that of the
last stage, which looks at files only.

## Main definitions

* `Attempt.Follows`: what succeeds on one machine before the alarm succeeds on the other one.
* `Attempt.Outlasted`: the same attempt with a later deadline.

## Main statements

* `Attempt.Follows.bind`: actions in turn follow if each of them does.
* `Attempt.deliver_follows`: the stages until the file is complete.
* `Attempt.makeExecutable_follows`: the last stage.
* `Downloader.download_patient`: a download has the same success within more time.
-/

namespace ServerLauncher

open MachineAction World StepKind

/-! ## What succeeds before the alarm -/

namespace Attempt

open Machine

/-- Where one action succeeds before the alarm, another one has the same success on a machine that
is alike.  The deadlines of both attempts are such that the machines can have computed them. -/
structure Follows (a a' : Attempt) {α : Type} (x x' : MachineAction α) : Prop where
  makes : Makes Set.univ x
  follows {m m' m₁ : Machine} {v : α} (h : m.Alike m')
    (hm : a.HasDeadlineOn m ∧ a'.HasDeadlineOn m) (hx : x m = (.ok v, m₁))
    (hrunning : m₁.transfer.hasExpired = false) : ∃ m₁', x' m' = (.ok v, m₁') ∧ m₁.Alike m₁'

namespace Follows

variable {a a' : Attempt} {α β : Type} {x x' : MachineAction α}

theorem bind {f f' : α → MachineAction β} (hx : a.Follows a' x x')
    (hf : ∀ v, a.Follows a' (f v) (f' v)) : a.Follows a' (x >>= f) (x' >>= f') where
  makes := hx.makes.bind fun v => (hf v).makes
  follows {m m' m₂ v₂} h hm hrun hrunning := by
    obtain ⟨v, m₁, hfirst, hsecond⟩ := bind_eq_ok.mp hrun
    have hleads := hx.makes.leads hfirst
    have hbefore := ((hf v).makes.leads hsecond).running hrunning
    obtain ⟨m₁', hfirst', h₁⟩ := hx.follows h hm hfirst hbefore
    obtain ⟨m₂', hsecond', h₂⟩ :=
      (hf v).follows h₁ ⟨hm.1.leads hleads, hm.2.leads hleads⟩ hsecond hrunning
    exact ⟨m₂', bind_eq_ok.mpr ⟨v, m₁', hfirst', hsecond'⟩, h₂⟩

theorem of_tied (hmakes : Makes Set.univ x) (h : Agrees Tied x) : a.Follows a' x x where
  makes := hmakes
  follows {m m' m₁ v} hm _ hx hrunning := by
    obtain ⟨m₁', hx', hrelated⟩ := h.eq_ok hm.tied hx
    exact ⟨m₁', hx', hrelated.alike hrunning⟩

theorem of_agrees (hmakes : Makes Set.univ x) (h : Agrees Alike x) : a.Follows a' x x where
  makes := hmakes
  follows hm _ hx _ := h.eq_ok hm hx

theorem of_pure (v : α) : a.Follows a' (pure v : MachineAction α) (pure v) :=
  .of_agrees (.of_pure v) (.of_pure v)

theorem ite {p : Prop} [Decidable p] {y y' : MachineAction α} (hx : a.Follows a' x x')
    (hy : a.Follows a' y y') : a.Follows a' (if p then x else y) (if p then x' else y') := by
  split
  · exact hx
  · exact hy

end Follows

/-- The same attempt with another timeout and a later deadline. -/
inductive Outlasted (a : Attempt) : Attempt → Prop where
  | intro (timeout : Double) (finish : Time) (h : a.finish.before finish) :
      Outlasted a { a with timeout, finish }

variable {a a' : Attempt} {m m' m₁ : Machine} {id : Nat} {url : String} {r : Response}

theorem HasDeadlineOn.alike (hm : a.HasDeadlineOn m) (h : m.Alike m') : a.HasDeadlineOn m' := by
  cases h
  exact hm

theorem Outlasted.inTime (ha : a.Outlasted a') (h : m.Alike m')
    (hinTime : a.isExpiredAt m.toWorld = false) : a'.isExpiredAt m'.toWorld = false := by
  obtain ⟨hrunning, hnot⟩ := Bool.or_eq_false_iff.mp hinTime
  cases ha with
  | intro timeout finish hlater =>
    cases h with
    | intro alarm events past =>
      refine Bool.or_eq_false_iff.mpr ⟨hrunning, ?_⟩
      by_contra hreached
      rw [Bool.not_eq_false] at hreached
      have hreached' : m.time.reaches a.finish := Time.reaches_of_before hlater hreached
      exact absurd (hnot.symm.trans hreached') Bool.false_ne_true

theorem running_of_inTime (hinTime : a.isExpiredAt m.toWorld = false) :
    m.transfer.hasExpired = false :=
  (Bool.or_eq_false_iff.mp hinTime).1

/-! ## The alarm -/

/-- The alarm that goes off after some microseconds. -/
def alarmIn (now : Nat) : Option Nat → Alarm
  | some micros => .at (now + micros)
  | none => .never

theorem arm_of_inTime (hm : a.HasDeadlineOn m) (hinTime : a.isExpiredAt m.toWorld = false) :
    a.arm m = (.ok (), { m.onward with transfer := { m.transfer with
      alarm := alarmIn m.now (m.arithmetic.micros? (a.timeLeft m)) } }) := by
  unfold arm
  rw [bind_of_ok (remaining_of_inTime hm hinTime)]
  rfl

theorem alarmIn_notAfter (now : Nat) {micros? micros?' : Option Nat}
    (h : ∀ micros, micros?' = some micros → ∃ fewer, micros? = some fewer ∧ fewer ≤ micros) :
    (alarmIn now micros?).NotAfter (alarmIn now micros?') := by
  cases micros?' with
  | none =>
    cases micros? with
    | none => exact .both
    | some fewer => exact .never _
  | some micros =>
    obtain ⟨fewer, rfl, hle⟩ := h micros rfl
    exact .at (by omega)

theorem arm_follows (ha : a.Outlasted a') : a.Follows a' a.arm a'.arm where
  makes := a.arm_makes (Set.mem_univ _)
  follows {m m' m₁ v} h hm hx hrunning := by
    have hinTime : a.isExpiredAt m.toWorld = false := by
      by_contra hexpired
      rw [Bool.not_eq_false] at hexpired
      have herror := (arm_eq_error hm.1).mpr ⟨hexpired, rfl⟩
      rw [hx] at herror
      cases herror
    rw [arm_of_inTime hm.1 hinTime] at hx
    cases hx
    refine ⟨_, arm_of_inTime (hm.2.alike h) (ha.inTime h hinTime), ?_⟩
    cases h with
    | intro alarm events past halarm hevents =>
      cases ha with
      | intro timeout finish hlater =>
        refine .intro _ events _ (alarmIn_notAfter m.now fun micros hmicros => ?_) hevents
        refine m.arithmetic.micros?_mono ?_ hmicros
        show (m.arithmetic.minus a.finish (m.arithmetic.ofMicros m.now)).before
          (m.arithmetic.minus finish (m.arithmetic.ofMicros m.now))
        rw [Arithmetic.ofMicros_eq]
        exact m.arithmetic.minus_mono _ hlater

/-! ## The request -/

/-- A request is answered alike, whatever it has said about the time left. -/
theorem sent_follows {e e' : Event} (h : m.Alike m') {answer : Nat × Response}
    (hx : MachineAction.request e url m = (.ok answer, m₁))
    (hrunning : m₁.transfer.hasExpired = false) (he : e'.address? = e.address?) :
    ∃ m₁', MachineAction.request e' url m' = (.ok answer, m₁') ∧ m₁.Alike m₁' := by
  have hasked := (h.observe he).update
    (f := fun n => { n.onward with network := (n.network.next url).2 })
    (fun _ _ _ => ⟨_, rfl⟩) rfl rfl
  have hnext : m'.network.next url = m.network.next url := by rw [h.network_eq]
  rw [request_apply] at hx
  rcases hresult : (m.network.next url).1.result with fault | response
  · rw [hresult] at hx
    cases hx
  rw [hresult] at hx
  cases hx
  have hreply : (afterReply e url m).Alike (afterReply e' url m') := by
    unfold afterReply
    rw [hnext]
    exact hasked.advance hrunning
  rw [request_apply, hnext, hresult]
  have hconnected := hreply.update
    (f := fun n => { n.onward with network := (n.network.connect url response).2 })
    (fun _ _ _ => ⟨_, rfl⟩) rfl rfl
  have hlength : (afterReply e' url m').network.connections.length =
      (afterReply e url m).network.connections.length := by rw [hreply.network_eq]
  rw [hlength]
  exact ⟨_, rfl, hconnected⟩

theorem ask_follows (h : m.Alike m') {answer : Nat × Response}
    (hx : a.ask url m = (.ok answer, m₁)) (hrunning : m₁.transfer.hasExpired = false) :
    ∃ m₁', a'.ask url m' = (.ok answer, m₁') ∧ m₁.Alike m₁' := by
  unfold ask at hx ⊢
  exact sent_follows h hx hrunning (by simp only [Event.address?])

theorem get_follows (ha : a.Outlasted a') (url : String) :
    a.Follows a' (a.get url) (a'.get url) where
  makes := a.get_makes (Set.subset_univ _) url
  follows {m m' m₁ v} h hm hx hrunning := by
    rcases a.remaining_cases m with ⟨e, hleft⟩ | ⟨hinTime, -⟩
    · unfold get at hx
      rw [bind_of_error hleft] at hx
      cases hx
    obtain ⟨id, r⟩ := v
    obtain ⟨⟨m₂, hask, rfl⟩, hanswered⟩ := (get_eq_answer hm.1 hinTime).mp hx
    have hquiet : m₂.transfer.hasExpired = false := hrunning
    obtain ⟨m₂', hask', hreceived⟩ :
        ∃ m₂', a'.ask url m' = (.ok (id, r), m₂') ∧ m₂.Alike m₂' := ask_follows h hask hquiet
    have hheld : (afterHolding id m₂).Alike (afterHolding id m₂') :=
      hreceived.update (f := afterHolding id) (fun _ _ _ => ⟨_, rfl⟩) rfl rfl
    refine ⟨afterHolding id m₂', ?_, hheld⟩
    exact (get_eq_answer (hm.2.alike h) (ha.inTime h hinTime)).mpr
      ⟨⟨m₂', hask', rfl⟩, ha.inTime hheld hanswered⟩

theorem closing_follows (id : Nat) :
    a.Follows a' (closeConnection id) (closeConnection id) :=
  .of_agrees (closeConnection_makes (Set.mem_univ _) (Set.mem_univ _) id)
    (closeConnection_agrees id)

theorem record_follows (level : Level) (source : Source) (message : String) :
    a.Follows a' (record level source message) (record level source message) :=
  .of_agrees (record_makes (Set.mem_univ _) _ _ _) (record_agrees level source message)

theorem throw_follows {α : Type} (e : Fault) :
    a.Follows a' (throw e : MachineAction α) (throw e) :=
  .of_agrees (.of_throw e) (.of_throw e)

theorem follow_follows (ha : a.Outlasted a') (id : Nat) (r : Response) :
    a.Follows a' (a.follow id r) (a'.follow id r) := by
  have hget := get_follows ha
  cases ha with
  | intro timeout finish hlater =>
    refine .ite (.bind (closing_follows id) fun _ => ?_) (.of_pure _)
    exact .bind (.of_agrees (.of_settle _) (.of_settle _)) fun url =>
      .bind (record_follows _ _ _) fun _ => hget url

theorem request_follows (ha : a.Outlasted a') : a.Follows a' a.request a'.request := by
  have hget := get_follows ha a.url
  have hfollow := follow_follows ha
  cases ha with
  | intro timeout finish hlater =>
    exact .bind hget fun answered => .bind (hfollow answered.1 answered.2) fun _ =>
      .ite (.bind (closing_follows _) fun _ => throw_follows _) (.of_pure _)

/-! ## The body -/

/-- A wait ends alike if the alarm does not go off. -/
theorem wait_follows (id delay : Nat) : a.Follows a' (wait id delay) (wait id delay) where
  makes := wait_makes (Set.mem_univ _) id delay
  follows {m m' m₁ v} h hm hx hrunning := by
    set rung := m.onward.ringBy (m.now + delay) with hrung
    have hwaited : m₁ = if isCut rung id then rung
        else { rung.onward with now := max rung.now (m.now + delay) } :=
      (congrArg Prod.snd hx).symm
    have hquiet : rung.transfer.hasExpired = false := by
      rw [hwaited] at hrunning
      split_ifs at hrunning <;> exact hrunning
    cases h with
    | intro alarm events past halarm hevents =>
      obtain ⟨hstays, hstays'⟩ := ringBy_of_notAfter (m := m.onward) (m.now + delay) events
        ((m.retold alarm events past).toWorld :: past) halarm hquiet
      refine ⟨_, rfl, ?_⟩
      have hsame : (m.retold alarm events past).onward.ringBy (m.now + delay) =
          (m.retold alarm events past).onward := hstays'
      rw [hwaited, hrung, hstays]
      show Alike _ (if isCut ((m.retold alarm events past).onward.ringBy (m.now + delay)) id then
          (m.retold alarm events past).onward.ringBy (m.now + delay)
        else { ((m.retold alarm events past).onward.ringBy (m.now + delay)).onward with
          now := max ((m.retold alarm events past).onward.ringBy (m.now + delay)).now
            (m.now + delay) })
      rw [hsame]
      by_cases hcut : isCut m.onward id
      · have hcut' : isCut (m.retold alarm events past).onward id := hcut
        rw [if_pos hcut, if_pos hcut']
        exact .intro alarm events _ halarm hevents
      · have hcut' : ¬ isCut (m.retold alarm events past).onward id := hcut
        rw [if_neg hcut, if_neg hcut']
        exact .intro alarm events _ halarm hevents

theorem nextChunk_follows (id : Nat) : a.Follows a' (nextChunk id) (nextChunk id) := by
  have htake (effect : ShutdownEffect) (chunk : Chunk) :
      a.Follows a' (takeChunk id effect chunk) (takeChunk id effect chunk) :=
    .of_agrees (takeChunk_makes (Set.mem_univ _) id effect chunk)
      (takeChunk_agrees id effect chunk)
  refine .bind (.of_agrees (.of_observe _) (connection?_agrees id)) fun c => ?_
  rcases c with _ | c
  · exact .of_pure _
  · dsimp only
    rcases c.chunks with _ | ⟨chunk, rest⟩
    · exact .of_pure _
    · exact .bind (.of_agrees (.of_observe _) (isCut_agrees id)) fun _ =>
        .ite (.bind (wait_follows id chunk.delay) fun _ => htake _ chunk) (htake _ chunk)

theorem checkDeadline_follows (ha : a.Outlasted a') :
    a.Follows a' a.checkDeadline a'.checkDeadline where
  makes := a.checkDeadline_makes
  follows {m m' m₁ v} h hm hx hrunning := by
    rw [checkDeadline_apply] at hx ⊢
    have hinTime : a.isExpiredAt m.toWorld = false := by
      by_contra hexpired
      rw [Bool.not_eq_false] at hexpired
      rw [if_pos hexpired] at hx
      cases hx
    rw [hinTime] at hx
    rw [ha.inTime h hinTime]
    cases hx
    exact ⟨m', rfl, h⟩

/-- How much is reported depends on what has been written so far. -/
theorem writeChunk_follows (l : Location) (reported : Nat) (bytes : ByteArray) :
    a.Follows a' (writeChunk l reported bytes) (writeChunk l reported bytes) := by
  have hwrite : a.Follows a' (writeFile l bytes) (writeFile l bytes) :=
    .of_tied (writeFile_makes (Set.mem_univ _) (Set.mem_univ _) (Set.mem_univ _) bytes)
      (writeFile_agrees relates_tied l bytes)
  have hcount : a.Follows a'
      (updateTransfer fun t => { t with written := t.written + bytes.size })
      (updateTransfer fun t => { t with written := t.written + bytes.size }) :=
    .of_agrees (change_makes (Set.mem_univ .counting) (fun _ => rfl) fun _ => .count bytes.size)
      (.of_change fun m m' h => h.update
        (f := fun m => { m.onward with transfer := { m.transfer with
          written := m.transfer.written + bytes.size } }) (fun _ _ _ => ⟨_, rfl⟩) rfl rfl)
  have hread : a.Follows a' (observe (·.transfer.written / megabyte))
      (observe (·.transfer.written / megabyte)) :=
    .of_agrees (.of_observe _) (.of_observe fun m m' h => by
      cases h
      rfl)
  have hparts : writeChunk l reported bytes = (do
      writeFile l bytes
      updateTransfer fun t => { t with written := t.written + bytes.size }
      let megabytes ← observe (·.transfer.written / megabyte)
      if reported < megabytes then
        record .info .download ("Downloaded " ++ toString megabytes ++ " MB...")
        return megabytes
      else return reported) := rfl
  rw [hparts]
  exact .bind hwrite fun _ => .bind hcount fun _ => .bind hread fun _ =>
    .ite (.bind (record_follows _ _ _) fun _ => .of_pure _) (.of_pure _)

theorem copy_follows (ha : a.Outlasted a') (id : Nat) (l : Location) (n : Nat) :
    ∀ reported, a.Follows a' (a.copy id l n reported) (a'.copy id l n reported) := by
  induction n with
  | zero => exact fun _ => .of_pure _
  | succ n ih =>
    refine fun reported => .bind (nextChunk_follows id) fun chunk => ?_
    rcases chunk with _ | bytes
    · exact checkDeadline_follows ha
    · exact .bind (checkDeadline_follows ha) fun _ =>
        .ite (ih reported) (.bind (writeChunk_follows l reported bytes) ih)

theorem pour_follows (ha : a.Outlasted a') (id : Nat) (l : Location) :
    a.Follows a' (a.pour id l) (a'.pour id l) := by
  have hcopy := copy_follows ha id l
  cases ha with
  | intro timeout finish hlater =>
    refine .bind (.of_agrees (.of_observe _) (connection?_agrees id)) fun c => ?_
    rcases c with _ | c
    · exact .of_pure _
    · refine .bind (.of_agrees (event_makes (Set.mem_univ _) _ ⟨rfl, rfl⟩) (event_agrees _))
        fun _ => .bind (.of_agrees (.of_observe _) (.of_observe fun m m' h => ?_)) fun n => hcopy _ 0
      unfold chunksLeft
      rw [h.network_eq]

theorem closeFile_follows (l : Location) : a.Follows a' (closeFile l) (closeFile l) :=
  .of_tied (closeFile_makes (Set.mem_univ _) (Set.mem_univ _) (Set.mem_univ _) l)
    (closeFile_agrees relates_tied l)

/-- The file is closed in any case, but only what has been read and written is a success. -/
theorem fill_follows (ha : a.Outlasted a') (id : Nat) (l : Location) :
    a.Follows a' (a.fill id l) (a'.fill id l) where
  makes m := (a.fill_makes id l m).of_subset (Set.subset_univ _)
  follows {m m' m₁ v} h hm hx hrunning := by
    rw [fill_apply] at hx ⊢
    obtain ⟨_, m₂, hclose, hsettle⟩ := bind_eq_ok.mp hx
    rw [settle_apply, Prod.mk.injEq] at hsettle
    obtain ⟨hpour, rfl⟩ := hsettle
    have hopening : m.Leads (StepOf Set.univ) (afterOpening m) :=
      afterOpening_leads (Set.mem_univ _) m
    have hopened : (afterOpening m).Alike (afterOpening m') :=
      h.update (f := afterOpening) (fun _ _ _ => ⟨_, rfl⟩) rfl rfl
    have hpouring := a.pour_makes (Set.subset_univ (pouring l)) id (afterOpening m)
    have hcloses : a.Follows a' (closeFile l) (closeFile l) := closeFile_follows l
    have hclosing := hcloses.makes.leads hclose
    have hdeadline := And.intro (hm.1.leads hopening) (hm.2.leads hopening)
    obtain ⟨m₃, hpour', hpoured⟩ := (pour_follows ha id l).follows hopened hdeadline
      (Prod.ext hpour rfl) (hclosing.running hrunning)
    obtain ⟨m₄, hclose', hclosed⟩ := hcloses.follows hpoured
      ⟨hdeadline.1.leads hpouring, hdeadline.2.leads hpouring⟩ hclose hrunning
    rw [hpour']
    exact ⟨m₄, bind_eq_ok.mpr ⟨_, m₄, hclose', rfl⟩, hclosed⟩

theorem save_follows (ha : a.Outlasted a') (id : Nat) :
    a.Follows a' (a.save id) (a'.save id) := by
  have hfill := fill_follows ha id
  cases ha with
  | intro timeout finish hlater =>
    have hdirectories : Makes Set.univ (makeDirectoryFor a.target) := fun m =>
      (makeDirectoryFor_makes a.target m).of_subset (Set.subset_univ _)
    have hopen : Makes Set.univ (openFile a.target) :=
      openFile_makes (Set.mem_univ _) (Set.mem_univ _) (Set.mem_univ _) fun _ _ _ _ => trivial
    exact .bind (.of_tied hdirectories (makeDirectoryFor_agrees relates_tied)) fun _ =>
      .bind (.of_tied hopen (openFile_agrees relates_tied)) hfill

theorem conclude_eq_ok {result : Except Fault Unit}
    (h : a.conclude url result m = (.ok (), m₁)) : result = .ok () ∧ m = m₁ := by
  cases result with
  | ok _ =>
    cases h
    exact ⟨rfl, rfl⟩
  | error fault => cases h

theorem stream_follows (ha : a.Outlasted a') (id : Nat) :
    a.Follows a' (a.stream id) (a'.stream id) where
  makes m := (a.stream_makes id m).of_subset (Set.subset_univ _)
  follows {m m' m₁ v} h hm hx hrunning := by
    rw [stream_apply] at hx ⊢
    have hsaving := (save_follows ha id).makes m
    rcases hsave : a.save id m with ⟨result, m₂⟩
    rw [hsave] at hx hsaving
    obtain ⟨_, m₃, hclose, hconclude⟩ := bind_eq_ok.mp hx
    obtain ⟨rfl, rfl⟩ := conclude_eq_ok hconclude
    have hcloses : a.Follows a' (closeConnection id) (closeConnection id) := closing_follows id
    have hclosing := hcloses.makes.leads hclose
    obtain ⟨m₂', hsave', hsaved⟩ :=
      (save_follows ha id).follows h hm hsave (hclosing.running hrunning)
    obtain ⟨m₃', hclose', hclosed⟩ := hcloses.follows hsaved
      ⟨hm.1.leads hsaving, hm.2.leads hsaving⟩ hclose hrunning
    rw [hsave', bind_of_ok hclose']
    exact ⟨m₃', rfl, hclosed⟩

/-! ## The file -/

theorem guarding_agrees {Q : Machine → Machine → Prop} {α : Type} {x : MachineAction α}
    (hx : Agrees Q x) (problem : Problem) : Agrees Q (guarding problem x) := by
  refine .bind (.of_attempt hx) fun result => ?_
  cases result with
  | ok v => exact .of_pure v
  | error fault => exact .of_throw _

theorem verify_follows (ha : a.Outlasted a') : a.Follows a' a.verify a'.verify := by
  cases ha with
  | intro timeout finish hlater =>
    have hstatus : Makes Set.univ (fileStatus a.target) :=
      fileStatus_makes (Set.mem_univ _) (Set.mem_univ _) a.target
    exact .bind (.of_tied (guarding_makes hstatus _)
      (guarding_agrees (fileStatus_agrees relates_tied) _)) fun _ =>
        .ite (throw_follows _) (record_follows _ _ _)

/-- The stages until the file is complete have the same success. -/
theorem deliver_follows (ha : a.Outlasted a') : a.Follows a' a.deliver a'.deliver :=
  .bind (arm_follows ha) fun _ => .bind (request_follows ha) fun id =>
    .bind (stream_follows ha id) fun _ => verify_follows ha

theorem permitExecution_agrees (path : String) : Agrees SameLedger (permitExecution path) :=
  .bind (fileStatus_agrees relates_ledger) fun _ => setMode_agrees relates_ledger _

/-- The last stage has the same success, and leaves the same files behind, even if the alarm goes
off meanwhile. -/
theorem makeExecutable_follows (ha : a.Outlasted a') (h : m.Alike m')
    (hm : a'.HasDeadlineOn m) (hx : a.makeExecutable m = (.ok (), m₁)) :
    ∃ m₁', a'.makeExecutable m' = (.ok (), m₁') ∧ m₁.SameLedger m₁' := by
  unfold makeExecutable at hx ⊢
  rcases a.remaining_cases m with ⟨e, hleft⟩ | ⟨hinTime, left, hleft⟩
  · rw [bind_of_error hleft] at hx
    cases hx
  rw [bind_of_ok hleft] at hx
  rw [bind_of_ok (remaining_of_inTime (hm.alike h) (ha.inTime h hinTime))]
  -- From here on nobody asks whether the alarm has gone off, and the files alone decide.
  cases ha with
  | intro timeout finish hlater =>
    have hrest : Agrees SameLedger (observe (·.lacksExecuteBits) >>= fun lacks =>
        if lacks then return () else guarding (.notExecutable a.target)
          (permitExecution a.target)) :=
      .bind (.of_observe fun m m' h => congrArg Ledger.lacksExecuteBits h) fun _ =>
        .ite (.of_pure _) (guarding_agrees (permitExecution_agrees _) _)
    exact hrest.eq_ok h.ledger_eq hx

/-- All stages have the same success, and leave the same files behind. -/
theorem run_follows (ha : a.Outlasted a') (h : m.Alike m')
    (hm : a.HasDeadlineOn m ∧ a'.HasDeadlineOn m) {n : Nat} (hx : a.run m = (.ok n, m₁)) :
    ∃ m₁', a'.run m' = (.ok n, m₁') ∧ m₁.SameLedger m₁' := by
  obtain ⟨_, m₂, hdeliver, hrest⟩ := bind_eq_ok.mp hx
  obtain ⟨_, m₃, hexecutable, hend⟩ := bind_eq_ok.mp hrest
  cases hend
  -- The last stage has begun, so the alarm was still silent when the file was complete.
  have hrunning : m₂.transfer.hasExpired = false := by
    rcases a.remaining_cases m₂ with ⟨e, hleft⟩ | ⟨hinTime, -⟩
    · unfold makeExecutable at hexecutable
      rw [bind_of_error hleft] at hexecutable
      cases hexecutable
    · exact running_of_inTime hinTime
  obtain ⟨m₂', hdeliver', hdelivered⟩ := (deliver_follows ha).follows h hm hdeliver hrunning
  have hdelivery := (deliver_follows ha).makes.leads hdeliver
  obtain ⟨m₃', hexecutable', hsame⟩ :=
    makeExecutable_follows ha hdelivered (hm.2.leads hdelivery) hexecutable
  refine ⟨m₃', bind_eq_ok.mpr ⟨_, m₂', hdeliver', bind_eq_ok.mpr ⟨_, m₃', hexecutable', ?_⟩⟩, hsame⟩
  have hwritten : m₃'.transfer.written = m₁.transfer.written := congrArg Ledger.written hsame
  show (Except.ok m₃'.transfer.written, m₃') = (Except.ok m₁.transfer.written, m₃')
  rw [hwritten]

theorem afterRun_ledger (a : Attempt) (n : Nat) (m : Machine) :
    (a.afterRun (.ok n) m).ledger = m.ledger :=
  (a.afterRun_ok_leads m).keeps_eq (f := World.ledger) fun _ hk _ _ hs => hs.ledger_eq (.inr hk)

end Attempt

/-! ## The download -/

/-- A download that succeeds within some time succeeds within more time, too: with as many bytes,
after requests to the same addresses, and with the same files. -/
theorem Downloader.download_patient (d : Downloader) (url target : String) {timeout more : Double}
    (m : Machine) {n : Nat} (hmore : (Time.ofSeconds timeout).before (.ofSeconds more))
    (h : (d.download url target timeout m).1 = .ok (.succeeded n)) :
    (d.download url target more m).1 = .ok (.succeeded n) ∧
      (d.download url target more m).2.addresses = (d.download url target timeout m).2.addresses ∧
      (d.download url target more m).2.files = (d.download url target timeout m).2.files := by
  have hdeadline := And.intro (hasDeadlineOn_begin d url target timeout m)
    (hasDeadlineOn_begin d url target more m)
  rw [download_apply, Attempt.perform_apply] at h
  rw [download_apply, download_apply, Attempt.perform_apply, Attempt.perform_apply]
  set a := d.attemptOn url target timeout m
  set a' := d.attemptOn url target more m
  have ha : a.Outlasted a' := by
    refine .intro more (m.arithmetic.plus m.time (.ofSeconds more)) ?_
    show (m.arithmetic.plus (m.arithmetic.ofMicros m.now) _).before
      (m.arithmetic.plus (m.arithmetic.ofMicros m.now) _)
    rw [Arithmetic.ofMicros_eq]
    exact m.arithmetic.plus_mono _ hmore
  -- Both runs begin on the same machine; the deadlines tell them apart later on.
  have hbegin : (a'.begin m).2 = (a.begin m).2 := rfl
  have halike : (a.begin m).2.Alike (a.begin m).2 := .refl (by rw [a.begin_transfer])
  have hrun : a.run (a.begin m).2 = (.ok n, (a.run (a.begin m).2).2) :=
    Prod.ext (Attempt.outcomeOf_eq_succeeded.mp h) rfl
  obtain ⟨m₁, hrun', hsame⟩ := Attempt.run_follows ha halike hdeadline hrun
  rw [hbegin, hrun', Attempt.outcomeOf_eq_succeeded.mp h]
  have hledger : (a'.afterRun (.ok n) m₁).ledger =
      (a.afterRun (.ok n) (a.run (a.begin m).2).2).ledger := by
    rw [a'.afterRun_ledger, a.afterRun_ledger]
    exact hsame
  exact ⟨rfl, congrArg Ledger.addresses hledger, congrArg Ledger.files hledger⟩

/-- A file whose permissions take five seconds to be set. -/
def slowFileMachine : Machine :=
  { Machine.answering {} [("u", { chunks := [{ content := .ok ⟨#[1, 2]⟩ }] })] with
    disturbances := [{ operation := .chmod, delay := 5000000 }] }

/-- The alarm goes off within three seconds while the permissions are set, and not within ten; the
download succeeds in both cases. -/
theorem Downloader.download_patient_slowFile :
    (Downloader.download {} "u" "/x" (.ofNat 3) slowFileMachine).2.transfer.hasExpired ∧
    (Downloader.download {} "u" "/x" (.ofNat 10) slowFileMachine).2.transfer.hasExpired = false ∧
    (Downloader.download {} "u" "/x" (.ofNat 10) slowFileMachine).1 = .ok (.succeeded 2) ∧
    (Downloader.download {} "u" "/x" (.ofNat 10) slowFileMachine).2.addresses =
      (Downloader.download {} "u" "/x" (.ofNat 3) slowFileMachine).2.addresses ∧
    (Downloader.download {} "u" "/x" (.ofNat 10) slowFileMachine).2.files =
      (Downloader.download {} "u" "/x" (.ofNat 3) slowFileMachine).2.files := by
  have hwritten : (Downloader.download {} "u" "/x" (.ofNat 3)
      slowFileMachine).1.toOption.map (·.bytesWritten) = some (1 + 1) := by decide +kernel
  have hresult : (Downloader.download {} "u" "/x" (.ofNat 3) slowFileMachine).1 =
      .ok (.succeeded 2) := by rw [FetchOutcome.eq_succeeded hwritten]
  refine ⟨by decide +kernel, by decide +kernel, ?_⟩
  exact Downloader.download_patient {} "u" "/x" slowFileMachine (by decide +kernel) hresult

end ServerLauncher
