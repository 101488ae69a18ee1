import ServerLauncher.Proofs.Body

/-!
# What an attempt fails of

An attempt goes from stage to stage, and each stage has a few ways to fail.  This module lists the
setbacks of an attempt, and says when its request meets with one and which fault it then ends in.
Whatever is asked about a failed attempt becomes a question about a list of nine cases, and not
about the order in which the stages look at an error.

A setback is what really happened: the error of a request as the network reported it, and not yet
the problem of a download that is made of it.  So it can be said which error becomes which problem.

## Main definitions

* `Setback`, `Setback.fault`: what happened, and what the attempt then ends in.
* `Attempt.Receives`, `Attempt.Redirects`, `Attempt.Asks`, `Attempt.GoesBy`: the requests of an
  attempt and their answers.
* `Attempt.RequestMeets`: the setbacks of the request.

## Main statements

* `Attempt.get_eq_answer`, `Attempt.get_eq_error`: what one request comes to.
* `Attempt.request_eq_answer`: the request has an answer when the attempt goes by one that means
  success.
* `Attempt.request_eq_error`: the request fails of the setbacks that it meets with.
-/

namespace ServerLauncher

open MachineAction World StepKind

/-! ## Setbacks -/

/-- What an attempt fails of. -/
inductive Setback where
  /-- The deadline has passed. -/
  | late
  /-- A request for an address fails, after the deadline or before. -/
  | request (url : String) (fault : Fault) (isLate : Bool)
  /-- A redirect does not say where to. -/
  | withoutLocation (r : Response)
  /-- A redirect leads to something that is no address. -/
  | unreadable (e : UrlError)
  /-- An answer does not mean success. -/
  | unsuccessful (r : Response)
  /-- The body of the answer from an address is not read or not written, which is noticed after the
  deadline or before. -/
  | body (url : String) (fault : Fault) (isLate : Bool)
  /-- The file cannot be inspected. -/
  | size (fault : Fault)
  /-- The file is empty. -/
  | empty
  /-- The file cannot be made executable. -/
  | permission (fault : Fault)

namespace Attempt

/-- The problem of the download that the failure of a request is. -/
def requestFault (a : Attempt) (url : String) (hasExpired : Bool) (fault : Fault) : Fault :=
  if !fault.isRequest then fault
  else if fault.isTimeout || hasExpired then a.timeoutFault (some fault)
  else .problem (.requestFailed url) (some fault)

/-- The problem of the download that an error of the operating system is. -/
def guardedFault (problem : Problem) (fault : Fault) : Fault :=
  if fault.isSystem then .problem problem (some fault) else fault

end Attempt

/-- What an attempt ends in that meets with a setback. -/
def Setback.fault (a : Attempt) : Setback → Fault
  | late => a.timeoutFault none
  | request url fault isLate => a.requestFault url isLate fault
  | withoutLocation r => .problem (.redirectWithoutLocation r.status r.reason) none
  | unreadable e => .address e
  | unsuccessful r => .problem (.badStatus r.status r.reason) none
  | body url fault isLate => a.bodyFault url isLate fault
  | size fault => Attempt.guardedFault (.sizeUnknown a.target) fault
  | empty => .problem .emptyArtifact none
  | permission fault => Attempt.guardedFault (.notExecutable a.target) fault

namespace Attempt

variable {a : Attempt} {m m' : Machine} {id : Nat} {url : String} {r : Response} {e : Fault}

/-! ## The deadline -/

/-- The attempt has a deadline that the machine can have computed, so that it has passed as soon as
no time is left. -/
def HasDeadlineOn (a : Attempt) (m : Machine) : Prop := m.arithmetic.Computes a.finish

theorem HasDeadlineOn.leads {ks : Set StepKind} (h : a.HasDeadlineOn m)
    (hleads : m.Leads (StepOf ks) m') : a.HasDeadlineOn m' := by
  unfold HasDeadlineOn
  rw [hleads.precedes.arithmetic]
  exact h

theorem isExpiredAt_eq_of_leads {ks : Set StepKind} (h : m.Leads (StepOf ks) m')
    (hks : .clock ∉ ks) : a.isExpiredAt m'.toWorld = a.isExpiredAt m.toWorld := by
  obtain ⟨hnow, hexpired⟩ := Prod.mk.inj (h.clock_eq hks)
  unfold isExpiredAt World.time
  rw [hexpired, hnow, h.precedes.arithmetic]

/-- The time left until the deadline. -/
def timeLeft (a : Attempt) (m : Machine) : Time := m.arithmetic.minus a.finish m.time

theorem remaining_of_inTime (hm : a.HasDeadlineOn m) (h : a.isExpiredAt m.toWorld = false) :
    a.remaining m = (.ok (a.timeLeft m), m) := by
  obtain ⟨hrunning, hnot⟩ := Bool.or_eq_false_iff.mp h
  have hleft : (m.arithmetic.minus a.finish m.time).before .zero = false := by
    by_contra hzero
    rw [Bool.not_eq_false] at hzero
    have hreached := m.arithmetic.reaches_of_before_zero hm hzero
    exact absurd (hnot.symm.trans hreached) Bool.false_ne_true
  simp only [remaining, get_bind_apply]
  rw [hleft, hrunning]
  rfl

/-- An attempt is armed unless its deadline has passed. -/
theorem arm_eq_error (hm : a.HasDeadlineOn m) :
    (a.arm m).1 = .error e ↔ a.isExpiredAt m.toWorld ∧ a.timeoutFault none = e := by
  unfold arm
  by_cases hexpired : a.isExpiredAt m.toWorld
  · rw [bind_of_error (a.remaining_of_isExpiredAt hexpired)]
    simp [hexpired]
  · rw [bind_of_ok (remaining_of_inTime hm (by simpa using hexpired))]
    simp [hexpired]

theorem checkDeadline_apply (a : Attempt) (m : Machine) : a.checkDeadline m =
    (if a.isExpiredAt m.toWorld then .error (a.timeoutFault none) else .ok (), m) := by
  unfold checkDeadline
  rw [isExpired, observe_bind_apply]
  split_ifs <;> rfl

/-! ## The requests -/

/-- Closing a connection never fails. -/
theorem closeConnection_apply (id : Nat) (m : Machine) :
    closeConnection id m = (.ok (), (closeConnection id m).2) := by
  refine Prod.ext ?_ rfl
  unfold closeConnection
  rw [MachineAction.connection?, observe_bind_apply]
  rcases m.network.connection? id with _ | c
  · rfl
  · dsimp only
    split_ifs <;> rfl

/-- The file is asked for at an address, with the time left. -/
def ask (a : Attempt) (url : String) (m : Machine) : Except Fault (Nat × Response) × Machine :=
  MachineAction.request (.request url (m.arithmetic.micros? (a.timeLeft m)) a.downloader.userAgent
    Downloader.accept true false) url m

/-- The machine whose transfer holds a connection. -/
def afterHolding (id : Nat) (m : Machine) : Machine :=
  { m.onward with transfer := { m.transfer with connection := some id } }

/-- An answer from an address is received in time. -/
structure Receives (a : Attempt) (url : String) (m : Machine) (id : Nat) (r : Response)
    (m' : Machine) : Prop where
  answer : ∃ m₁, a.ask url m = (.ok (id, r), m₁) ∧ m' = afterHolding id m₁
  inTime : a.isExpiredAt m'.toWorld = false

/-- The machine whose attempt is about to follow a redirect. -/
def afterRedirect (id : Nat) (url : String) (m : Machine) : Machine :=
  (record .info .download ("Following redirect to " ++ url) (closeConnection id m).2).2

/-- The first answer is received in time and leads to another address. -/
def Redirects (a : Attempt) (m : Machine) (url : String) (m' : Machine) : Prop :=
  ∃ id r m₁, a.Receives a.url m id r m₁ ∧ r.status ∈ redirectStatuses ∧
    a.redirectAddress r = .ok url ∧ m' = afterRedirect id url m₁

/-- The addresses that are asked: the one of the attempt, and the one of a redirect. -/
inductive Asks (a : Attempt) (m : Machine) : String → Machine → Prop where
  | first : Asks a m a.url m
  | redirected {url : String} {m' : Machine} (h : a.Redirects m url m') : Asks a m url m'

/-- The answer that the attempt goes by: one received in time that is not followed as a redirect.
The answer to a redirect is not followed any further. -/
inductive GoesBy (a : Attempt) (m : Machine) : Nat → Response → Machine → Prop where
  | first {id : Nat} {r : Response} {m' : Machine} (h : a.Receives a.url m id r m')
      (hstatus : r.status ∉ redirectStatuses) : GoesBy a m id r m'
  | redirected {url : String} {m₁ : Machine} {id : Nat} {r : Response} {m' : Machine}
      (h : a.Redirects m url m₁) (hanswer : a.Receives url m₁ id r m') : GoesBy a m id r m'

/-- The setbacks of the request. -/
inductive RequestMeets (a : Attempt) (m : Machine) : Setback → Prop where
  | failed {url : String} {m₁ m₂ : Machine} {fault : Fault} (hasks : a.Asks m url m₁)
      (h : a.ask url m₁ = (.error fault, m₂)) :
      RequestMeets a m (.request url fault (a.isExpiredAt m₂.toWorld))
  | late {url : String} {m₁ m₂ : Machine} {answer : Nat × Response} (hasks : a.Asks m url m₁)
      (h : a.ask url m₁ = (.ok answer, m₂)) (hlate : a.isExpiredAt m₂.toWorld) :
      RequestMeets a m .late
  | withoutLocation {id : Nat} {r : Response} {m₁ : Machine} (h : a.Receives a.url m id r m₁)
      (hstatus : r.status ∈ redirectStatuses)
      (hlocation : r.header? "Location" = none ∨ r.header? "Location" = some "") :
      RequestMeets a m (.withoutLocation r)
  | unreadable {id : Nat} {r : Response} {m₁ : Machine} {location : String} {e : UrlError}
      (h : a.Receives a.url m id r m₁) (hstatus : r.status ∈ redirectStatuses)
      (hlocation : r.header? "Location" = some location) (hne : location ≠ "")
      (hjoin : Url.join a.url location = .error e) : RequestMeets a m (.unreadable e)
  | unsuccessful {id : Nat} {r : Response} {m₁ : Machine} (h : a.GoesBy m id r m₁)
      (hstatus : r.status ≠ 200) : RequestMeets a m (.unsuccessful r)

theorem afterRedirect_leads (id : Nat) (url : String) (m : Machine) :
    m.Leads (StepOf {.network, .note}) (afterRedirect id url m) :=
  (closeConnection_makes (by simp) (by simp) id m).trans (record_makes (by simp) _ _ _ _)

@[simp] theorem isExpiredAt_afterHolding (a : Attempt) (id : Nat) (m : Machine) :
    a.isExpiredAt (afterHolding id m).toWorld = a.isExpiredAt m.toWorld := rfl

/-- What a request comes to that is made in time. -/
theorem get_apply (hm : a.HasDeadlineOn m) (hinTime : a.isExpiredAt m.toWorld = false)
    (url : String) : a.get url m = match a.ask url m with
      | (.ok (id, r), m₁) =>
        if a.isExpiredAt m₁.toWorld then
          (.error (a.timeoutFault none), (closeConnection id (afterHolding id m₁)).2)
        else (.ok (id, r), afterHolding id m₁)
      | (.error fault, m₁) =>
        (.error (a.requestFault url (a.isExpiredAt m₁.toWorld) fault), m₁) := by
  unfold get
  rw [bind_of_ok (remaining_of_inTime hm hinTime), get_bind_apply, attempt_bind_apply, ask]
  generalize Event.request _ _ _ _ _ _ = event
  rcases MachineAction.request event url m with ⟨fault | ⟨id, r⟩, m₁⟩
  · -- The errors are told apart one after the other, the clock being looked at last.
    dsimp only [requestFault]
    by_cases hforeign : !fault.isRequest
    · rw [if_pos hforeign, if_pos hforeign, throw_apply]
    · rw [if_neg hforeign, if_neg hforeign]
      by_cases htimeout : fault.isTimeout
      · rw [if_pos htimeout, if_pos (by simp [htimeout]), throw_apply]
      · rw [if_neg htimeout, isExpired, observe_bind_apply]
        by_cases hlate : a.isExpiredAt m₁.toWorld
        · rw [if_pos hlate, if_pos (by simp [hlate]), throw_apply]
        · rw [if_neg hlate, if_neg (by simp [hlate, htimeout]), throw_apply]
  · have hholding : updateTransfer (fun t => { t with connection := some id }) m₁ =
        (.ok (), afterHolding id m₁) := rfl
    dsimp only
    rw [bind_of_ok hholding, isExpired, observe_bind_apply, isExpiredAt_afterHolding]
    by_cases hlate : a.isExpiredAt m₁.toWorld
    · rw [if_pos hlate, if_pos hlate, bind_of_ok (closeConnection_apply id _), throw_apply]
    · rw [if_neg hlate, if_neg hlate, pure_apply]

/-- A request succeeds when an answer is received in time. -/
theorem get_eq_answer (hm : a.HasDeadlineOn m) (hinTime : a.isExpiredAt m.toWorld = false) :
    a.get url m = (.ok (id, r), m') ↔ a.Receives url m id r m' := by
  rw [get_apply hm hinTime]
  constructor
  · intro h
    rcases hask : a.ask url m with ⟨fault | ⟨id', r'⟩, m₁⟩
    · rw [hask] at h
      cases h
    · rw [hask] at h
      dsimp only at h
      by_cases hlate : a.isExpiredAt m₁.toWorld
      · rw [if_pos hlate] at h
        cases h
      · rw [if_neg hlate] at h
        cases h
        exact ⟨⟨m₁, hask, rfl⟩, by simpa using hlate⟩
  · rintro ⟨⟨m₁, hask, rfl⟩, hanswered⟩
    rw [isExpiredAt_afterHolding] at hanswered
    rw [hask]
    dsimp only
    rw [hanswered, if_neg Bool.false_ne_true]

/-- A request fails by itself, or is answered too late. -/
theorem get_eq_error (hm : a.HasDeadlineOn m) (hinTime : a.isExpiredAt m.toWorld = false) :
    (a.get url m).1 = .error e ↔
      (∃ fault m₁, a.ask url m = (.error fault, m₁) ∧
        a.requestFault url (a.isExpiredAt m₁.toWorld) fault = e) ∨
      ∃ answer m₁, a.ask url m = (.ok answer, m₁) ∧ a.isExpiredAt m₁.toWorld ∧
        a.timeoutFault none = e := by
  rw [get_apply hm hinTime]
  rcases hask : a.ask url m with ⟨fault | ⟨id, r⟩, m₁⟩
  · simp
  · by_cases hlate : a.isExpiredAt m₁.toWorld
    · simp [hlate]
    · simp [hlate]

theorem redirectAddress_eq_error : a.redirectAddress r = .error e ↔
    ((r.header? "Location" = none ∨ r.header? "Location" = some "") ∧
      .problem (.redirectWithoutLocation r.status r.reason) none = e) ∨
    ∃ location u, r.header? "Location" = some location ∧ location ≠ "" ∧
      Url.join a.url location = .error u ∧ .address u = e := by
  unfold redirectAddress
  split
  · next hnone => simp [hnone]
  · next hempty => simp [hempty]
  · next location hne hlocation =>
    have hnot : ¬location = "" := hne
    rcases hjoin : Url.join a.url location with u | url
    · simp [hlocation, hnot, hjoin]
    · simp [hlocation, hnot, hjoin]

/-- A machine that has received an answer in time is still in time when it follows a redirect. -/
theorem Redirects.inTime (h : a.Redirects m url m') : a.isExpiredAt m'.toWorld = false := by
  obtain ⟨id, r, m₁, hreceives, -, -, rfl⟩ := h
  rw [isExpiredAt_eq_of_leads (afterRedirect_leads id url m₁) (by simp)]
  exact hreceives.inTime

theorem ask_leads (a : Attempt) (url : String) (m : Machine) :
    m.Leads (StepOf requesting) (a.ask url m).2 :=
  MachineAction.request_makes (by simp [requesting]) (by simp [requesting]) (by simp [requesting])
    (by simp [requesting]) rfl url m

theorem Receives.leads (h : a.Receives url m id r m') : m.Leads (StepOf requesting) m' := by
  obtain ⟨m₁, hask, rfl⟩ := h.answer
  have hasking := a.ask_leads url m
  rw [hask] at hasking
  exact hasking.trans (.step rfl ((Step.hold id).of (by simp [requesting])))

theorem Redirects.leads (h : a.Redirects m url m') : m.Leads (StepOf requesting) m' := by
  obtain ⟨id, r, m₁, hreceives, -, -, rfl⟩ := h
  exact hreceives.leads.trans
    ((afterRedirect_leads id url m₁).of_subset (by simp [requesting, Set.insert_subset_iff]))

/-- What becomes of an answer: it is followed if it is a redirect. -/
theorem follow_apply (a : Attempt) (id : Nat) (r : Response) (m : Machine) : a.follow id r m =
    if r.status ∈ redirectStatuses then match a.redirectAddress r with
      | .ok url => a.get url (afterRedirect id url m)
      | .error e => (.error e, (closeConnection id m).2)
    else (.ok (id, r), m) := by
  unfold follow
  by_cases hstatus : r.status ∈ redirectStatuses
  · rw [if_pos hstatus, if_pos (List.contains_iff_mem.mpr hstatus),
      bind_of_ok (closeConnection_apply id m)]
    rcases a.redirectAddress r with e | url
    · rfl
    · rfl
  · rw [if_neg hstatus, if_neg (mt List.contains_iff_mem.mp hstatus), pure_apply]

/-- The answer that the attempt goes by. -/
def answer (a : Attempt) : MachineAction (Nat × Response) :=
  a.get a.url >>= fun first => a.follow first.1 first.2

/-- The answer that the attempt goes by has to mean success. -/
def judge (id : Nat) (r : Response) : MachineAction Nat :=
  if r.status ≠ 200 then do
    closeConnection id
    throw (.problem (.badStatus r.status r.reason) none)
  else return id

theorem request_eq (a : Attempt) :
    a.request = a.answer >>= fun answered => judge answered.1 answered.2 := by
  rw [answer, bind_assoc]
  rfl

theorem judge_apply (id : Nat) (r : Response) (m : Machine) : judge id r m =
    if r.status = 200 then (.ok id, m)
    else (.error (.problem (.badStatus r.status r.reason) none), (closeConnection id m).2) := by
  unfold judge
  by_cases hstatus : r.status = 200
  · rw [if_neg (not_not.mpr hstatus), if_pos hstatus, pure_apply]
  · rw [if_pos hstatus, if_neg hstatus, bind_of_ok (closeConnection_apply id m), throw_apply]

theorem answer_eq_ok (hm : a.HasDeadlineOn m) (hinTime : a.isExpiredAt m.toWorld = false) :
    a.answer m = (.ok (id, r), m') ↔ a.GoesBy m id r m' := by
  constructor
  · intro h
    obtain ⟨⟨first, r₁⟩, m₁, hget, hfollow⟩ := bind_eq_ok.mp h
    have hreceives := (get_eq_answer hm hinTime).mp hget
    rw [follow_apply] at hfollow
    by_cases hstatus : r₁.status ∈ redirectStatuses
    · rw [if_pos hstatus] at hfollow
      rcases haddress : a.redirectAddress r₁ with e | url
      · rw [haddress] at hfollow
        cases hfollow
      · rw [haddress] at hfollow
        have hredirects : a.Redirects m url (afterRedirect first url m₁) :=
          ⟨first, r₁, m₁, hreceives, hstatus, haddress, rfl⟩
        exact .redirected hredirects
          ((get_eq_answer (hm.leads hredirects.leads) hredirects.inTime).mp hfollow)
    · rw [if_neg hstatus] at hfollow
      cases hfollow
      exact .first hreceives hstatus
  · rintro (⟨hreceives, hstatus⟩ | ⟨hredirects, hanswer⟩)
    · refine bind_eq_ok.mpr ⟨_, _, (get_eq_answer hm hinTime).mpr hreceives, ?_⟩
      rw [follow_apply, if_neg hstatus]
    · have hget := (get_eq_answer (hm.leads hredirects.leads) hredirects.inTime).mpr hanswer
      obtain ⟨first, r₁, m₂, hreceives, hstatus, haddress, rfl⟩ := hredirects
      refine bind_eq_ok.mpr ⟨_, _, (get_eq_answer hm hinTime).mpr hreceives, ?_⟩
      rw [follow_apply, if_pos hstatus, haddress]
      exact hget

/-- The request has an answer when the attempt goes by one that means success. -/
theorem request_eq_answer (hm : a.HasDeadlineOn m) (hinTime : a.isExpiredAt m.toWorld = false) :
    a.request m = (.ok id, m') ↔ ∃ r, a.GoesBy m id r m' ∧ r.status = 200 := by
  rw [request_eq, bind_eq_ok]
  constructor
  · rintro ⟨⟨id', r⟩, m₁, hanswer, hjudge⟩
    rw [judge_apply] at hjudge
    by_cases hstatus : r.status = 200
    · rw [if_pos hstatus] at hjudge
      cases hjudge
      exact ⟨r, (answer_eq_ok hm hinTime).mp hanswer, hstatus⟩
    · rw [if_neg hstatus] at hjudge
      cases hjudge
  · rintro ⟨r, hgoes, hstatus⟩
    refine ⟨_, _, (answer_eq_ok hm hinTime).mpr hgoes, ?_⟩
    rw [judge_apply, if_pos hstatus]

/-- A request that is sent fails, or is answered too late, as a setback of the attempt. -/
theorem Asks.meets (hm : a.HasDeadlineOn m) (hinTime : a.isExpiredAt m.toWorld = false)
    (hasks : a.Asks m url m') (h : (a.get url m').1 = .error e) :
    ∃ s, a.RequestMeets m s ∧ s.fault a = e := by
  have hget : a.HasDeadlineOn m' ∧ a.isExpiredAt m'.toWorld = false := by
    cases hasks with
    | first => exact ⟨hm, hinTime⟩
    | redirected hredirects => exact ⟨hm.leads hredirects.leads, hredirects.inTime⟩
  rcases (get_eq_error hget.1 hget.2).mp h with
    ⟨fault, m₂, hask, hfault⟩ | ⟨answer, m₂, hask, hlate, hfault⟩
  · exact ⟨_, .failed hasks hask, hfault⟩
  · exact ⟨_, .late hasks hask hlate, hfault⟩

/-- The request fails when a request that is sent does. -/
theorem Asks.fails (hm : a.HasDeadlineOn m) (hinTime : a.isExpiredAt m.toWorld = false)
    (hasks : a.Asks m url m') (h : (∃ fault m₁, a.ask url m' = (.error fault, m₁) ∧
        a.requestFault url (a.isExpiredAt m₁.toWorld) fault = e) ∨
      ∃ answer m₁, a.ask url m' = (.ok answer, m₁) ∧ a.isExpiredAt m₁.toWorld ∧
        a.timeoutFault none = e) : (a.answer m).1 = .error e := by
  cases hasks with
  | first => exact bind_fst_eq_error.mpr (.inl ((get_eq_error hm hinTime).mpr h))
  | redirected hredirects =>
    have hget := (get_eq_error (hm.leads hredirects.leads) hredirects.inTime).mpr h
    obtain ⟨first, r, m₁, hreceives, hstatus, haddress, rfl⟩ := hredirects
    refine bind_fst_eq_error.mpr (.inr ⟨_, _, (get_eq_answer hm hinTime).mpr hreceives, ?_⟩)
    rw [follow_apply, if_pos hstatus, haddress]
    exact hget

/-- A redirect that leads nowhere makes the request fail. -/
theorem answer_eq_error_of_redirect (hm : a.HasDeadlineOn m)
    (hinTime : a.isExpiredAt m.toWorld = false) (h : a.Receives a.url m id r m')
    (hstatus : r.status ∈ redirectStatuses) (haddress : a.redirectAddress r = .error e) :
    (a.answer m).1 = .error e := by
  refine bind_fst_eq_error.mpr (.inr ⟨_, _, (get_eq_answer hm hinTime).mpr h, ?_⟩)
  rw [follow_apply, if_pos hstatus, haddress]

/-- The request fails of the setbacks that it meets with. -/
theorem request_eq_error (hm : a.HasDeadlineOn m) (hinTime : a.isExpiredAt m.toWorld = false) :
    (a.request m).1 = .error e ↔ ∃ s, a.RequestMeets m s ∧ s.fault a = e := by
  rw [request_eq, bind_fst_eq_error]
  constructor
  · rintro (hanswer | ⟨⟨id, r⟩, m₁, hanswer, hjudge⟩)
    · rcases bind_fst_eq_error.mp hanswer with hget | ⟨⟨first, r⟩, m₁, hget, hfollow⟩
      · exact Asks.first.meets hm hinTime hget
      · have hreceives := (get_eq_answer hm hinTime).mp hget
        rw [follow_apply] at hfollow
        by_cases hstatus : r.status ∈ redirectStatuses
        · rw [if_pos hstatus] at hfollow
          rcases haddress : a.redirectAddress r with e' | url
          · rw [haddress] at hfollow
            cases hfollow
            rcases redirectAddress_eq_error.mp haddress with
              ⟨hlocation, hfault⟩ | ⟨location, u, hlocation, hne, hjoin, hfault⟩
            · exact ⟨_, .withoutLocation hreceives hstatus hlocation, hfault⟩
            · exact ⟨_, .unreadable hreceives hstatus hlocation hne hjoin, hfault⟩
          · rw [haddress] at hfollow
            have hredirects : a.Redirects m url (afterRedirect first url m₁) :=
              ⟨first, r, m₁, hreceives, hstatus, haddress, rfl⟩
            exact (Asks.redirected hredirects).meets hm hinTime hfollow
        · rw [if_neg hstatus] at hfollow
          cases hfollow
    · rw [judge_apply] at hjudge
      by_cases hstatus : r.status = 200
      · rw [if_pos hstatus] at hjudge
        cases hjudge
      · rw [if_neg hstatus] at hjudge
        cases hjudge
        exact ⟨_, .unsuccessful ((answer_eq_ok hm hinTime).mp hanswer) hstatus, rfl⟩
  · rintro ⟨s, hmeets, rfl⟩
    cases hmeets with
    | failed hasks h => exact .inl (hasks.fails hm hinTime (.inl ⟨_, _, h, rfl⟩))
    | late hasks h hlate => exact .inl (hasks.fails hm hinTime (.inr ⟨_, _, h, hlate, rfl⟩))
    | withoutLocation h hstatus hlocation =>
      exact .inl (answer_eq_error_of_redirect hm hinTime h hstatus
        (redirectAddress_eq_error.mpr (.inl ⟨hlocation, rfl⟩)))
    | unreadable h hstatus hlocation hne hjoin =>
      exact .inl (answer_eq_error_of_redirect hm hinTime h hstatus
        (redirectAddress_eq_error.mpr (.inr ⟨_, _, hlocation, hne, hjoin, rfl⟩)))
    | unsuccessful h hstatus =>
      refine .inr ⟨_, _, (answer_eq_ok hm hinTime).mpr h, ?_⟩
      rw [judge_apply, if_neg hstatus]
      rfl

end Attempt

end ServerLauncher
