import ServerLauncher.Proofs.FailureKinds

/-!
# A download ends by its deadline

On a machine that computes times exactly a download ends by its deadline if nothing but the network
takes time, and the network keeps to what it is told: a request is replied to within the time that
it was given, and reading an answer ends when its connection is shut down.

Until the request has succeeded the clock is bounded by the time that each request is given.  From
then on it is bounded by the alarm, which is on or has shut down the very connection that is read.

## Main definitions

* `Reply.Obliges`: a reply comes in time, and its answer heeds a shutdown.
* `Machine.Punctual`: the clock has not passed a limit, and files take no time.
* `Machine.Watched`: the alarm is set to the limit, or has gone off.
* `Machine.Reads`: the alarm is set to the limit, or the connection that is read was shut down.

## Main statements

* `MachineAction.nextChunk_reads`: the wait for a chunk ends by the limit.
* `Attempt.request_answered`: the requests end by the limit.
* `Downloader.download_punctual`: a download ends by its deadline.
-/

namespace ServerLauncher

open MachineAction World StepKind

/-! ## The network -/

/-- Reading an answer ends when its connection is shut down. -/
def Response.HeedsShutdown (r : Response) : Prop :=
  r.onShutdown ≠ .none ∧ r.shutdownFault = none

/-- A reply comes within some time, and reading its answer ends when the connection is shut down. -/
structure Reply.Obliges (reply : Reply) (arithmetic : Arithmetic) (left : Time) : Prop where
  inTime : (arithmetic.ofMicros reply.delay).before left
  heeds : ∀ r, reply.result = .ok r → r.HeedsShutdown

/-! ## Before the limit -/

namespace Machine

variable {limit id : Nat} {m m' : Machine} {ks : Set StepKind}

/-- The clock has not passed a limit, and using files takes no time. -/
structure Punctual (limit : Nat) (m : Machine) : Prop where
  now : m.now ≤ limit
  prompt : ∀ d ∈ m.disturbances, d.delay = 0

/-- The machine computes exactly, and the alarm is set to the limit or has gone off. -/
structure Watched (limit : Nat) (m : Machine) : Prop extends Punctual limit m where
  exact : m.arithmetic = .exact
  alarm : m.transfer.alarm = .at limit ∨ (m.transfer.alarm = .off ∧ m.transfer.hasExpired)

/-- The alarm is set to the limit, or has shut the connection down from which the transfer reads. -/
structure Reads (limit id : Nat) (m : Machine) : Prop extends Punctual limit m where
  held : m.transfer.connection = some id
  heeds : ∃ c, m.network.connection? id = some c ∧ c.response.HeedsShutdown ∧
    (m.transfer.alarm = .at limit ∨ (m.transfer.alarm = .off ∧ c.isShut))

/-- The requests have ended by a limit; an answer that they have is read under the alarm. -/
structure Answered (limit : Nat) (result : Except Fault Nat) (m : Machine) : Prop extends
    Punctual limit m where
  reads : ∀ id, result = .ok id → m.Reads limit id

theorem Punctual.answered (h : m.Punctual limit) (e : Fault) : m.Answered limit (.error e) :=
  ⟨h, fun _ h => nomatch h⟩

theorem Reads.answered (h : m.Reads limit id) : m.Answered limit (.ok id) := by
  refine ⟨h.toPunctual, fun j hj => ?_⟩
  cases hj
  exact h

theorem Punctual.leads (h : m.Punctual limit) (hleads : m.Leads (StepOf ks) m')
    (hnow : m'.now ≤ limit) : m'.Punctual limit := by
  refine ⟨hnow, fun d hd => h.prompt d ?_⟩
  rwa [hleads.precedes.disturbances] at hd

theorem Punctual.still (h : m.Punctual limit) (hleads : m.Leads (StepOf ks) m')
    (hks : .clock ∉ ks) : m'.Punctual limit := by
  refine h.leads hleads ?_
  rw [(Prod.mk.inj (hleads.clock_eq hks)).1]
  exact h.now

theorem Watched.leads (h : m.Watched limit) (hleads : m.Leads (StepOf ks) m') (hks : .alarm ∉ ks)
    (hnow : m'.now ≤ limit) : m'.Watched limit := by
  refine ⟨h.toPunctual.leads hleads hnow, hleads.precedes.arithmetic.trans h.exact, ?_⟩
  refine hleads.keeps_holding (P := fun w : World => w.transfer.alarm = .at limit ∨
    (w.transfer.alarm = .off ∧ w.transfer.hasExpired)) (fun k hk w w' hs hw => ?_) h.alarm
  rcases hs.alarm_cases fun heq => hks (heq ▸ hk) with hsame | ⟨-, hrung⟩
  · rw [hsame]
    exact hw.imp_right fun hw => ⟨hw.1, hs.precedes.hasExpired hw.2⟩
  · exact .inr hrung

theorem lasts_punctual (limit : Nat) : Lasts (Punctual limit) where
  elsewhere {m m'} h hm := by
    have hnow : m'.now = m.now := congrArg (·.1) h
    have hdisturbances : m'.disturbances = m.disturbances := congrArg (·.2.2.1) h
    refine ⟨?_, ?_⟩
    · rw [hnow]
      exact hm.now
    · rw [hdisturbances]
      exact hm.prompt
  delay {m d} hd hm := by
    have hpass : m.Leads (StepOf {.clock}) (m.onward.advance d.delay) :=
      pass_makes (by simp) d.delay m
    refine hm.leads hpass ?_
    rw [advance_now, hm.prompt d hd]
    exact hm.now

theorem isCut_of_heeds {c : Connection} (hc : m.network.connection? id = some c)
    (hheeds : c.response.HeedsShutdown) (hshut : c.isShut) : isCut m id := by
  unfold isCut
  rw [hc]
  simpa [hshut] using hheeds.1

/-- When the alarm goes off, the connection that is read is shut down. -/
theorem Reads.ring (h : m.Reads limit id) :
    (m.ring limit).Reads limit id ∧ isCut (m.ring limit) id := by
  obtain ⟨c, hc, hheeds, -⟩ := h.heeds
  have hcut : m.ring limit = { m with
      now := max m.now limit
      transfer := { m.transfer with alarm := .off, hasExpired := true }
      network := m.network.change id fun c => { c with isShut := true }
      records := m.records ++ [⟨.warning, .download,
        "Deadline passed while downloading from " ++ c.url ++ ", aborting the transfer"⟩]
      events := m.events ++ [.shutdown c.url] } := by
    simp only [Machine.ring, cutOff, h.held, hc, hheeds.2, Option.isSome_none,
      Bool.false_eq_true, if_false]
    rfl
  have hc' : (m.ring limit).network.connection? id = some { c with isShut := true } := by
    rw [hcut, Network.connection?_change, hc, Option.map_some, if_pos rfl]
  refine ⟨⟨⟨?_, ?_⟩, ?_, ⟨_, hc', hheeds, .inr ⟨?_, rfl⟩⟩⟩, isCut_of_heeds hc' hheeds rfl⟩
  · rw [hcut]
    have hnow := h.now
    show max m.now limit ≤ limit
    omega
  · rw [hcut]
    exact h.prompt
  · rw [hcut]
    exact h.held
  · rw [hcut]

/-- Until a time, the alarm goes off or is set to a later one. -/
theorem Reads.ringBy (h : m.Reads limit id) (target : Nat) :
    ((m.ringBy target).Reads limit id ∧ isCut (m.ringBy target) id) ∨
      (m.ringBy target = m ∧ target < limit) := by
  obtain ⟨c, hc, hheeds, hon | ⟨hoff, hshut⟩⟩ := h.heeds
  · by_cases htarget : limit ≤ target
    · have hring : m.ringBy target = m.ring limit := by
        simp only [Machine.ringBy, hon, if_pos htarget]
      rw [hring]
      exact .inl h.ring
    · have hstays : m.ringBy target = m := by
        simp only [Machine.ringBy, hon, if_neg htarget]
      exact .inr ⟨hstays, by omega⟩
  · have hstays : m.ringBy target = m := by
      simp only [Machine.ringBy, hoff]
    rw [hstays]
    exact .inl ⟨h, isCut_of_heeds hc hheeds hshut⟩

/-- What reading depends on. -/
theorem Reads.of_eq (h : m.Reads limit id) (hnow : m'.now ≤ limit)
    (hdisturbances : m'.disturbances = m.disturbances) (hnetwork : m'.network = m.network)
    (halarm : m'.transfer.alarm = m.transfer.alarm)
    (hheld : m'.transfer.connection = m.transfer.connection) : m'.Reads limit id := by
  refine ⟨⟨hnow, ?_⟩, hheld.trans h.held, ?_⟩
  · rw [hdisturbances]
    exact h.prompt
  · rw [hnetwork, halarm]
    exact h.heeds

theorem Reads.onward (h : m.Reads limit id) : m.onward.Reads limit id :=
  h.of_eq h.now rfl rfl rfl rfl

theorem lasts_reads (limit id : Nat) : Lasts (Reads limit id) where
  elsewhere {m m'} h hm := by
    have hnow : m'.now = m.now := congrArg (·.1) h
    have halarm : m'.transfer.alarm = m.transfer.alarm := congrArg (·.2.2.2.2.alarm) h
    have hheld : m'.transfer.connection = m.transfer.connection :=
      congrArg (·.2.2.2.2.connection) h
    refine hm.of_eq ?_ (congrArg (·.2.2.1) h) (congrArg (·.2.2.2.1) h) halarm hheld
    rw [hnow]
    exact hm.now
  delay {m d} hd hm := by
    rw [hm.prompt d hd]
    have hnow : (m.onward.advance 0).now ≤ limit := by
      rw [advance_now]
      exact hm.now
    have hrung : (m.onward.ringBy (m.onward.now + 0)).Reads limit id := by
      rcases hm.onward.ringBy (m.onward.now + 0) with ⟨hrung, -⟩ | ⟨hstays, -⟩
      · exact hrung
      · rw [hstays]
        exact hm.onward
    exact hrung.of_eq hnow rfl rfl rfl rfl

end Machine

namespace MachineAction

open Machine

variable {limit id : Nat}

/-- A wait ends by the limit: before the alarm goes off, or when it does. -/
theorem wait_reads (delay : Nat) :
    Guarantees (Reads limit id) (fun _ => True) (wait id delay) := by
  refine .of_change fun m hm => ?_
  dsimp only
  rcases hm.onward.ringBy (m.onward.now + delay) with ⟨hrung, hcut⟩ | ⟨hstays, hlimit⟩
  · rw [if_pos hcut]
    exact hrung
  · rw [hstays]
    split_ifs
    · exact hm.onward
    · refine hm.onward.of_eq ?_ rfl rfl rfl rfl
      have hnow := hm.now
      show max m.now (m.now + delay) ≤ limit
      exact Nat.max_le.mpr ⟨hnow, hlimit.le⟩

theorem takeChunk_reads (effect : ShutdownEffect) (chunk : Chunk) :
    Guarantees (Reads limit id) (fun _ => True) (takeChunk id effect chunk) := by
  refine .bind (.of_observe _) fun _ => .ite ?_ (.bind (.of_change fun m hm => ?_) fun _ m hm => ?_)
  · cases effect with
    | failure => exact .of_throw trivial
    | none | endOfBody => exact .of_pure _
  · obtain ⟨c, hc, hheeds, halarm⟩ := hm.heeds
    have hc' : (m.network.change id fun c => { c with chunks := c.chunks.tail }).connection? id =
        some { c with chunks := c.chunks.tail } := by
      rw [Network.connection?_change, hc, Option.map_some, if_pos rfl]
    exact ⟨⟨hm.now, hm.prompt⟩, hm.held, _, hc', hheeds, halarm⟩
  · exact ⟨hm, fun _ _ => trivial⟩

/-- The next chunk has been read, or found not to come, by the limit. -/
theorem nextChunk_reads : Guarantees (Reads limit id) (fun _ => True) (nextChunk id) := by
  refine .bind (.of_observe _) fun c => ?_
  rcases c with _ | c
  · exact .of_pure _
  dsimp only
  rcases c.chunks with _ | ⟨chunk, rest⟩
  · exact .of_pure _
  · exact .bind (.of_observe _) fun _ =>
      .ite (.bind (wait_reads _) fun _ => takeChunk_reads _ _) (takeChunk_reads _ _)

end MachineAction

/-! ## The requests -/

namespace Attempt

open Machine

variable {a : Attempt} {finish id : Nat} {m m' : Machine}

/-- The last reading of the clock that is not past a deadline. -/
def limitOf (finish : Nat) : Nat := finish / ticksPerMicro

/-- A reply that comes in the time left comes by the limit. -/
theorem delay_le (hfinish : a.finish = .at finish) (hexact : m.arithmetic = .exact) {delay : Nat}
    (h : (m.arithmetic.ofMicros delay).before (a.timeLeft m)) :
    m.now + delay ≤ limitOf finish := by
  unfold timeLeft World.time at h
  rw [hfinish, hexact, Arithmetic.exact_minus] at h
  simp only [Arithmetic.ofMicros, Arithmetic.settle, Time.before, decide_eq_true_eq] at h
  rw [limitOf, Nat.le_div_iff_mul_le ticksPerMicro_pos, Nat.add_mul]
  generalize m.now * ticksPerMicro = now at h ⊢
  generalize delay * ticksPerMicro = ticks at h ⊢
  omega

theorem ask_watched {limit : Nat} (a : Attempt) (url : String) (hm : m.Watched limit)
    (hdelay : m.now + (m.network.next url).1.delay ≤ limit) :
    (a.ask url m).2.Watched limit := by
  unfold ask
  generalize he : Event.request _ _ _ _ _ _ = e
  have hrequest : e.isRequest := by
    rw [← he]
    rfl
  have hnow : (afterReply e url m).now ≤ limit := by
    unfold afterReply
    rw [advance_now]
    exact hdelay
  have hreply := hm.leads (afterReply_leads hrequest url m) (by simp) hnow
  rw [request_apply]
  rcases (m.network.next url).1.result with fault | r
  · exact hreply
  · exact ⟨⟨hnow, hreply.prompt⟩, hreply.exact, hreply.alarm⟩

/-- The clock does not pass the limit while a connection is closed. -/
theorem closeConnection_punctual {limit : Nat} (hm : m.Punctual limit) (id : Nat) :
    (closeConnection id m).2.Punctual limit := by
  have hclose : m.Leads (StepOf {.network, .note}) (closeConnection id m).2 :=
    closeConnection_makes (by simp) (by simp) id m
  exact hm.still hclose (by simp)

/-- The clock does not pass the limit in a request. -/
theorem get_watched (hdeadline : a.HasDeadlineOn m) (hfinish : a.finish = .at finish)
    (hm : m.Watched (limitOf finish)) {url : String}
    (hreply : (m.network.next url).1.Obliges m.arithmetic (a.timeLeft m)) :
    (a.get url m).2.Watched (limitOf finish) := by
  by_cases hexpired : a.isExpiredAt m.toWorld
  · unfold get
    rw [bind_of_error (a.remaining_of_isExpiredAt hexpired)]
    exact hm
  rw [Bool.not_eq_true] at hexpired
  have hask := a.ask_watched url hm (delay_le hfinish hm.exact hreply.inTime)
  rw [get_apply hdeadline hexpired]
  generalize a.ask url m = asked at hask ⊢
  obtain ⟨fault | ⟨id, r⟩, m₁⟩ := asked
  · exact hask
  · have hheld : (afterHolding id m₁).Watched (limitOf finish) :=
      ⟨⟨hask.now, hask.prompt⟩, hask.exact, hask.alarm⟩
    have hclose : (afterHolding id m₁).Leads (StepOf {.network, .note})
        (closeConnection id (afterHolding id m₁)).2 :=
      closeConnection_makes (by simp) (by simp) id _
    dsimp only
    by_cases hlate : a.isExpiredAt m₁.toWorld
    · rw [if_pos hlate]
      exact hheld.leads hclose (by simp) (closeConnection_punctual hheld.toPunctual id).now
    · rw [if_neg hlate]
      exact hheld

/-- The answer to a request that succeeds is read under the alarm. -/
theorem Receives.reads {r : Response} {url : String} (h : a.Receives url m id r m')
    (hholds : ∃ c, m'.toWorld.HoldsAnswer id r c) (hm : m'.Watched (limitOf finish))
    (hreply : (m.network.next url).1.Obliges m.arithmetic (a.timeLeft m)) :
    m'.Reads (limitOf finish) id := by
  obtain ⟨c, hholds⟩ := hholds
  obtain ⟨m₁, hanswer, -⟩ := h.answer
  have hresult : (m.network.next url).1.result = .ok r := by
    rw [ask, request_apply] at hanswer
    rcases hresult : (m.network.next url).1.result with fault | r'
    · rw [hresult] at hanswer
      cases hanswer
    · rw [hresult] at hanswer
      cases hanswer
      rfl
  have hheeds : c.response.HeedsShutdown := by
    rw [hholds.response]
    exact hreply.heeds r hresult
  have hrunning : m'.transfer.hasExpired = false := (Bool.or_eq_false_iff.mp h.inTime).1
  have halarm : m'.transfer.alarm = .at (limitOf finish) := by
    rcases hm.alarm with hon | ⟨-, hrung⟩
    · exact hon
    · rw [hrunning] at hrung
      cases hrung
  exact ⟨hm.toPunctual, hholds.held, c, hholds.connection?, hheeds, .inl halarm⟩

theorem get_answered (hdeadline : a.HasDeadlineOn m) (hinTime : a.isExpiredAt m.toWorld = false)
    (hfinish : a.finish = .at finish) (hm : m.Watched (limitOf finish)) {url : String}
    (hreply : (m.network.next url).1.Obliges m.arithmetic (a.timeLeft m)) :
    (a.get url m).2.Answered (limitOf finish) ((a.get url m).1.map Prod.fst) := by
  have hwatched := get_watched hdeadline hfinish hm hreply
  rcases hget : a.get url m with ⟨e | ⟨id, r⟩, m'⟩
  · rw [hget] at hwatched
    exact hwatched.toPunctual.answered e
  · rw [hget] at hwatched
    have hreceives := (get_eq_answer hdeadline hinTime).mp hget
    exact (hreceives.reads (get_eq_ok hget).1 hwatched hreply).answered

/-- The request for the address of a redirect has the rest of the time. -/
theorem follow_answered (hdeadline : a.HasDeadlineOn m) (hfinish : a.finish = .at finish)
    (hreplies : ∀ url m₁, a.Asks m url m₁ →
      (m₁.network.next url).1.Obliges m₁.arithmetic (a.timeLeft m₁)) {r : Response}
    (hreceives : a.Receives a.url m id r m') (hm : m'.Watched (limitOf finish))
    (hreads : m'.Reads (limitOf finish) id) :
    (a.follow id r m').2.Answered (limitOf finish) ((a.follow id r m').1.map Prod.fst) := by
  rw [follow_apply]
  by_cases hstatus : r.status ∈ redirectStatuses
  · rw [if_pos hstatus]
    rcases haddress : a.redirectAddress r with e | url
    · exact (closeConnection_punctual hm.toPunctual id).answered e
    · have hredirects : a.Redirects m url (afterRedirect id url m') :=
        ⟨id, r, m', hreceives, hstatus, haddress, rfl⟩
      have hleads := afterRedirect_leads id url m'
      have hwatched := hm.leads hleads (by simp) (hm.toPunctual.still hleads (by simp)).now
      exact get_answered (hdeadline.leads hredirects.leads) hredirects.inTime hfinish hwatched
        (hreplies url _ (.redirected hredirects))
  · rw [if_neg hstatus]
    exact hreads.answered

theorem judge_answered {limit : Nat} (hm : m.Reads limit id) (r : Response) :
    (judge id r m).2.Answered limit (judge id r m).1 := by
  rw [judge_apply]
  by_cases hstatus : r.status = 200
  · rw [if_pos hstatus]
    exact hm.answered
  · rw [if_neg hstatus]
    exact (closeConnection_punctual hm.toPunctual id).answered _

/-- The requests end by the limit if each of them is replied to as it should be. -/
theorem request_answered (hdeadline : a.HasDeadlineOn m)
    (hinTime : a.isExpiredAt m.toWorld = false) (hfinish : a.finish = .at finish)
    (hm : m.Watched (limitOf finish)) (hreplies : ∀ url m₁, a.Asks m url m₁ →
      (m₁.network.next url).1.Obliges m₁.arithmetic (a.timeLeft m₁)) :
    (a.request m).2.Answered (limitOf finish) (a.request m).1 := by
  have hwatched := get_watched hdeadline hfinish hm (hreplies a.url m .first)
  have hget := get_answered hdeadline hinTime hfinish hm (hreplies a.url m .first)
  unfold request
  refine bind_ends (P := fun r => Answered (limitOf finish) r.1 r.2) (fun e m₁ hfirst => ?_)
    fun ⟨first, r₁⟩ m₁ hfirst => ?_
  · rw [hfirst] at hget
    exact hget.toPunctual.answered e
  rw [hfirst] at hget hwatched
  have hreceives := (get_eq_answer hdeadline hinTime).mp hfirst
  have hfollow := follow_answered hdeadline hfinish hreplies hreceives hwatched
    (hget.reads first rfl)
  refine bind_ends (P := fun r => Answered (limitOf finish) r.1 r.2) (fun e m₂ hsecond => ?_)
    fun ⟨id, r⟩ m₂ hsecond => ?_
  · rw [hsecond] at hfollow
    exact hfollow.toPunctual.answered e
  · rw [hsecond] at hfollow
    exact judge_answered (hfollow.reads id rfl) r

/-! ## The other stages -/

theorem arm_watched (hdeadline : a.HasDeadlineOn m) (hinTime : a.isExpiredAt m.toWorld = false)
    (hfinish : a.finish = .at finish) (hexact : m.arithmetic = .exact)
    (hm : m.Punctual (limitOf finish)) : (a.arm m).2.Watched (limitOf finish) := by
  have hleft : a.timeLeft m = .at ((finish : Int) - (m.now * ticksPerMicro : Nat)) := by
    unfold timeLeft World.time
    rw [hfinish, hexact, Arithmetic.exact_minus]
  have hmicros : m.onward.arithmetic.micros? (a.timeLeft m) = some (limitOf finish - m.now) := by
    show m.arithmetic.micros? (a.timeLeft m) = some (limitOf finish - m.now)
    rw [hleft, hexact]
    have hticks : ((finish : Int) - (m.now * ticksPerMicro : Nat)).toNat =
        finish - ticksPerMicro * m.now := by
      rw [Nat.mul_comm ticksPerMicro]
      omega
    simp only [Arithmetic.micros?]
    rw [hticks, Nat.sub_mul_div, limitOf]
  have hnow := hm.now
  have halarm : (a.arm m).2.transfer.alarm = .at (limitOf finish) := by
    unfold arm
    rw [bind_of_ok (remaining_of_inTime hdeadline hinTime), change_apply]
    simp only [hmicros]
    show Alarm.at (m.now + (limitOf finish - m.now)) = _
    congr 1
    omega
  have hleads : m.Leads (StepOf {.alarm}) (a.arm m).2 := a.arm_makes (by simp) m
  exact ⟨hm.still hleads (by simp), hleads.precedes.arithmetic.trans hexact, .inl halarm⟩

theorem stream_punctual {limit : Nat} (a : Attempt) (hm : m.Reads limit id) :
    (a.stream id m).2.Punctual limit := by
  have hsave := (save_guarantees (a := a) (lasts_reads limit id) (fun _ _ => trivial) trivial
    nextChunk_reads m hm).1
  rw [stream_apply, bind_of_ok (closeConnection_apply id _)]
  have hclosed := closeConnection_punctual hsave.toPunctual id
  have hconclude : ∀ url result, Makes ∅ (a.conclude url result) := fun url result =>
    a.conclude_makes url result
  exact hclosed.still (hconclude _ _ _) (Set.notMem_empty _)

theorem guarding_guarantees {α : Type} {I : Machine → Prop} {x : MachineAction α}
    (hx : Guarantees I (fun _ => True) x) (problem : Problem) :
    Guarantees I (fun _ => True) (guarding problem x) :=
  .bind_attempt hx (fun _ => .of_pure _) fun _ _ => .of_throw trivial

theorem verify_punctual (a : Attempt) (limit : Nat) :
    Guarantees (Punctual limit) (fun _ => True) a.verify := by
  have hstatus : Guarantees (Punctual limit) (Fault.IsOfFiles (Path.holdsNull a.target))
      (fileStatus a.target) := fileStatus_guarantees (lasts_punctual limit) fun h => h
  refine .bind (guarding_guarantees (hstatus.mono fun _ _ => trivial) _) fun _ =>
    .ite (.of_throw trivial) (.of_change fun m hm => ?_)
  exact (lasts_punctual limit).elsewhere (m := m) rfl hm

theorem makeExecutable_punctual (a : Attempt) (limit : Nat) :
    Guarantees (Punctual limit) (fun _ => True) a.makeExecutable := by
  have hremaining : Guarantees (Punctual limit) (fun _ => True) a.remaining :=
    .bind .of_get fun _ => .ite (.of_throw trivial) (.of_pure _)
  have hpermit := permitExecution_guarantees (lasts_punctual limit) a.target
  exact .bind hremaining fun _ => .bind (.of_observe _) fun _ => .ite (.of_pure _)
    (guarding_guarantees (hpermit.mono fun _ _ => trivial) _)

theorem removePartial_punctual (a : Attempt) (limit : Nat) :
    Guarantees (Punctual limit) (fun _ => True) a.removePartial := by
  have hremove : Guarantees (Punctual limit) (Fault.IsOfFiles (Path.holdsNull a.target))
      (removeFile a.target) := removeFile_guarantees (lasts_punctual limit) fun h => h
  have hrecord : ∀ level message, Guarantees (Punctual limit) (fun _ => True)
      (record level .download message) := fun _ _ =>
    .of_change fun m hm => (lasts_punctual limit).elsewhere (m := m) rfl hm
  exact .bind .of_get fun _ => .ite (.of_pure _) (.bind_attempt (hremove.mono fun _ _ => trivial)
    (fun _ => hrecord _ _) fun _ _ => .ite (.of_pure _) (hrecord _ _))

theorem deliver_punctual (hdeadline : a.HasDeadlineOn m) (hfinish : a.finish = .at finish)
    (hexact : m.arithmetic = .exact) (hm : m.Punctual (limitOf finish))
    (hreplies : ∀ url m₁, a.Asks (a.arm m).2 url m₁ →
      (m₁.network.next url).1.Obliges m₁.arithmetic (a.timeLeft m₁)) :
    (a.deliver m).2.Punctual (limitOf finish) := by
  have harm : m.Leads (StepOf {.alarm}) (a.arm m).2 := a.arm_makes (by simp) m
  unfold deliver
  refine bind_ends (P := fun r => Punctual (limitOf finish) r.2) (fun e m₁ hm₁ => ?_)
    fun _ m₁ hm₁ => ?_
  · rw [hm₁] at harm
    exact hm.still harm (by simp)
  have hinTime : a.isExpiredAt m.toWorld = false := by
    by_contra hexpired
    rw [Bool.not_eq_false] at hexpired
    have herror := (arm_eq_error hdeadline).mpr ⟨hexpired, rfl⟩
    rw [hm₁] at herror
    cases herror
  have hwatched := arm_watched hdeadline hinTime hfinish hexact hm
  rw [hm₁] at hwatched hreplies
  obtain ⟨hdeadline', hinTime'⟩ := arm_eq_ok hdeadline hm₁
  have hrequest := request_answered hdeadline' hinTime' hfinish hwatched hreplies
  refine bind_ends (P := fun r => Punctual (limitOf finish) r.2) (fun e m₂ hm₂ => ?_)
    fun id m₂ hm₂ => ?_
  · rw [hm₂] at hrequest
    exact hrequest.toPunctual
  rw [hm₂] at hrequest
  have hstream := a.stream_punctual (hrequest.reads id rfl)
  refine bind_ends (P := fun r => Punctual (limitOf finish) r.2) (fun e m₃ hm₃ => ?_)
    fun _ m₃ hm₃ => ?_
  · rw [hm₃] at hstream
    exact hstream
  · rw [hm₃] at hstream
    exact (a.verify_punctual _ m₃ hstream).1

theorem perform_punctual (hdeadline : a.HasDeadlineOn m) (hfinish : a.finish = .at finish)
    (hexact : m.arithmetic = .exact) (hm : m.Punctual (limitOf finish))
    (hreplies : ∀ url m₁, a.Asks (a.arm m).2 url m₁ →
      (m₁.network.next url).1.Obliges m₁.arithmetic (a.timeLeft m₁)) :
    (a.perform m).2.Punctual (limitOf finish) := by
  have hdeliver := deliver_punctual hdeadline hfinish hexact hm hreplies
  have hrun : (a.run m).2.Punctual (limitOf finish) := by
    unfold run
    refine bind_ends (P := fun r => Punctual (limitOf finish) r.2) (fun e m₁ hm₁ => ?_)
      fun _ m₁ hm₁ => ?_
    · rwa [hm₁] at hdeliver
    · rw [hm₁] at hdeliver
      exact (Guarantees.bind (a.makeExecutable_punctual _) (fun _ => .bind .of_get fun _ =>
        .of_pure _) m₁ hdeliver).1
  rw [perform_apply, afterRun]
  generalize a.run m = ended at hrun ⊢
  have hreport : ended.2.Leads (StepOf {.note, .alarm}) (disarm (a.report ended.1 ended.2).2).2 :=
    (a.report_makes (by simp) _ _).trans (disarm_makes (by simp) _)
  have hdisarmed := hrun.still hreport (by simp)
  obtain ⟨fault | n, m'⟩ := ended
  · exact (a.removePartial_punctual _ _ hdisarmed).1
  · exact hdisarmed

end Attempt

/-! ## The download -/

/-- A download ends by its deadline on a machine that computes exactly, if files take no time, every
request is replied to within the time that it is given, and reading an answer ends when its
connection is shut down.  That is so whether or not a redirect is followed, and however slowly the
body arrives. -/
theorem Downloader.download_punctual {d : Downloader} {url target : String} {timeout : Double}
    {quanta : Nat} {m : Machine} (hexact : m.arithmetic = .exact)
    (hfinite : timeout = .finite false quanta) (hfiles : ∀ d ∈ m.disturbances, d.delay = 0)
    (hnetwork : let a := d.attemptOn url target timeout m
      ∀ url' m₁, a.Asks (a.arm (a.begin m).2).2 url' m₁ →
        (m₁.network.next url').1.Obliges m₁.arithmetic (a.timeLeft m₁)) :
    (d.download url target timeout m).2.time.before
      (m.arithmetic.plus m.time (.ofSeconds timeout)) := by
  have hdeadline := d.hasDeadlineOn_begin url target timeout m
  have hfinish : (d.attemptOn url target timeout m).finish =
      .at (m.now * ticksPerMicro + quanta * ticksPerQuantum : Nat) := by
    simp only [attemptOn, World.time, hexact, hfinite, Arithmetic.ofMicros, Arithmetic.settle,
      Time.ofSeconds, Arithmetic.plus, Bool.false_eq_true, if_false]
    push_cast
    rfl
  have hend : (d.download url target timeout m).2 = _ :=
    congrArg Prod.snd (d.download_apply url target timeout m)
  have hdeadline' : m.arithmetic.plus m.time (.ofSeconds timeout) = _ := hfinish
  rw [hend, hdeadline']
  set a := d.attemptOn url target timeout m
  have hbegin : (a.begin m).2.Punctual
      (Attempt.limitOf (m.now * ticksPerMicro + quanta * ticksPerQuantum)) := by
    refine ⟨?_, hfiles⟩
    rw [Attempt.limitOf, Nat.le_div_iff_mul_le ticksPerMicro_pos]
    exact Nat.le_add_right _ _
  have hperform := Attempt.perform_punctual hdeadline hfinish hexact hbegin hnetwork
  have hexact' : (a.perform (a.begin m).2).2.arithmetic = .exact :=
    (a.perform_makes (a.begin m).2).precedes.arithmetic.trans hexact
  rw [World.time, hexact', Arithmetic.exact_before]
  exact hperform.now

/-- A redirect. -/
def movedAnswer : Response :=
  { status := 302, headers := [("Location", "/v")], onShutdown := .endOfBody }

/-- An answer whose second chunk takes its time.  To its reader a connection that was shut down
looks like the end of the body. -/
def lateAnswer : Response :=
  { chunks := [{ delay := 200000, content := .ok ⟨#[1]⟩ },
      { delay := 600000, content := .ok ⟨#[2]⟩ }], onShutdown := .endOfBody }

/-- A redirect, after which the second chunk would arrive when more than a second has passed. -/
def lateBodyMachine : Machine :=
  { arithmetic := .exact
    network := { replies := [("http://h/u", [{ delay := 300000, result := .ok movedAnswer }]),
      ("http://h/v", [{ delay := 400000, result := .ok lateAnswer }])] } }

/-- Whether a reply obliges, as far as that can be computed. -/
def Reply.obliges (reply : Reply) (arithmetic : Arithmetic) (left : Time) : Bool :=
  (arithmetic.ofMicros reply.delay).before left && match reply.result with
    | .ok r => r.onShutdown != .none && r.shutdownFault.isNone
    | .error _ => true

theorem Reply.obliges_spec {reply : Reply} {arithmetic : Arithmetic} {left : Time}
    (h : reply.obliges arithmetic left) : reply.Obliges arithmetic left := by
  obtain ⟨hinTime, hheeds⟩ := Bool.and_eq_true_iff.mp h
  refine ⟨hinTime, fun r hr => ?_⟩
  rw [hr] at hheeds
  simpa [Response.HeedsShutdown] using hheeds

/-- A download within one second from this machine. -/
abbrev lateBodyAttempt : Attempt :=
  Downloader.attemptOn {} "http://h/u" "/x" (.ofNat 1) lateBodyMachine

/-- The machine on which the attempt sends its first request. -/
abbrev lateBodyStart : Machine :=
  (lateBodyAttempt.arm (lateBodyAttempt.begin lateBodyMachine).2).2

theorem lateBody_obliges {url : String} {m : Machine}
    (h : lateBodyAttempt.Asks lateBodyStart url m) :
    (m.network.next url).1.obliges m.arithmetic (lateBodyAttempt.timeLeft m) := by
  cases h with
  | first => decide +kernel
  | redirected h =>
    obtain ⟨id, r, m₁, ⟨⟨m₂, hask, rfl⟩, -⟩, -, haddress, rfl⟩ := h
    have hid : (lateBodyAttempt.ask lateBodyAttempt.url lateBodyStart).1.toOption.map (·.1) =
        some 0 := by decide +kernel
    have hurl : (lateBodyAttempt.ask lateBodyAttempt.url lateBodyStart).1.toOption.bind
        (fun answered => (lateBodyAttempt.redirectAddress answered.2).toOption) =
        some "http://h/v" := by decide +kernel
    have hm₂ : m₂ = (lateBodyAttempt.ask lateBodyAttempt.url lateBodyStart).2 :=
      (congrArg Prod.snd hask).symm
    rw [hask] at hid hurl
    have hurl' : (lateBodyAttempt.redirectAddress r).toOption = some "http://h/v" := hurl
    rw [haddress] at hurl'
    cases hid
    cases hurl'
    rw [hm₂]
    decide +kernel

/-- The body is cut off when the second has passed. -/
theorem Downloader.download_punctual_redirected :
    (Downloader.download {} "http://h/u" "/x" (.ofNat 1) lateBodyMachine).2.requests.length = 2 ∧
    (Downloader.download {} "http://h/u" "/x" (.ofNat 1) lateBodyMachine).2.now = 1000000 ∧
    (Downloader.download {} "http://h/u" "/x" (.ofNat 1) lateBodyMachine).2.time.before
      (lateBodyMachine.arithmetic.plus lateBodyMachine.time (.ofSeconds (.ofNat 1))) := by
  have hfinite : Double.ofNat 1 = .finite false Double.quantaPerUnit := by decide +kernel
  refine ⟨by decide +kernel, by decide +kernel, ?_⟩
  refine Downloader.download_punctual rfl hfinite (fun _ hd => nomatch hd) ?_
  exact fun _ _ hasks => Reply.obliges_spec (lateBody_obliges hasks)

end ServerLauncher
