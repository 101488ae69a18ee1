import ServerLauncher.Proofs.Closing
import ServerLauncher.Proofs.Times

/-!
# The requests of a download

Whatever the network answers, a download sends two requests at most: one to its own address, and one
to the address that the first answer redirects it to.  Between any two neighbouring moments either
no request is sent, or one is that carries the time left until the deadline, and some is left.

That some time is left rests on two checks that differ: a request is made if the difference to the
deadline, computed with rounding, is positive and the alarm has not gone off.

## Main definitions

* `World.addresses`: the addresses of the requests that have been sent.
* `Attempt.AsksInTime`: how the requests may change from one moment to the next.
* `Attempt.Visits`: the addresses that an attempt may ask, given the answers it receives.
* `Attempt.Sends`: what an attempt has sent and received on its way.

## Main statements

* `Attempt.get_sends`, `Attempt.request_sends`, `Attempt.run_sends`: the requests of the stages.
* `Downloader.download_asks_in_time`: the requests of a download.
-/

namespace ServerLauncher

open MachineAction World StepKind

/-- The address that a request is sent to. -/
def Event.address? : Event → Option String
  | request url .. => some url
  | _ => none

/-- The addresses of the requests that have been sent. -/
def World.addresses (w : World) : List String := w.events.filterMap Event.address?

theorem World.addresses_eq (w : World) : w.addresses = w.requests.filterMap Event.address? := by
  unfold addresses requests
  rw [List.filterMap_filter]
  congr 1
  funext e
  cases e <;> rfl

namespace Attempt

variable {a : Attempt} {m m' m'' : Machine} {url : String}

/-- The time left until the deadline at a moment. -/
def leftAt (a : Attempt) (w : World) : Time := w.arithmetic.minus a.finish w.time

/-- The request for an address at a moment; it carries the time left. -/
def requestAt (a : Attempt) (url : String) (w : World) : Event :=
  .request url (w.arithmetic.micros? (a.leftAt w)) a.downloader.userAgent Downloader.accept true
    false

/-- From one moment to the next no request is sent, or one is that carries the time left, the
deadline has not passed, and some time is left. -/
def AsksInTime (a : Attempt) (w w' : World) : Prop :=
  w'.requests = w.requests ∨ ∃ url, w'.requests = w.requests ++ [a.requestAt url w] ∧
    a.isExpiredAt w = false ∧ (a.leftAt w).IsPositive

/-- The addresses that an attempt may ask: none, its own one, or that and the one to which the
first answer redirects it. -/
inductive Visits (a : Attempt) : List (String × Response) → List String → Prop where
  | none (answers : List (String × Response)) : a.Visits answers []
  | first (answers : List (String × Response)) : a.Visits answers [a.url]
  | redirected (first : Response) (rest : List (String × Response)) (location url : String)
      (hstatus : first.status = 301 ∨ first.status = 302)
      (hlocation : first.header? "Location" = some location) (hne : location ≠ "")
      (hjoin : Url.join a.url location = .ok url) :
      a.Visits ((a.url, first) :: rest) [a.url, url]

theorem Visits.length_le {answers : List (String × Response)} {urls : List String}
    (h : a.Visits answers urls) : urls.length ≤ 2 := by
  cases h with
  | none => exact Nat.zero_le _
  | first => exact Nat.le_succ 1
  | redirected => exact Nat.le_refl _

/-- What an attempt has sent and received on its way from one machine to another. -/
structure Sends (a : Attempt) (m m' : Machine) (answers : List (String × Response))
    (urls : List String) : Prop where
  leads : m.Leads a.AsksInTime m'
  answers : m'.network.answers = m.network.answers ++ answers
  addresses : m'.addresses = m.addresses ++ urls

namespace Sends

variable {answers answers' : List (String × Response)} {urls urls' : List String}

theorem trans (h : a.Sends m m' answers urls) (h' : a.Sends m' m'' answers' urls') :
    a.Sends m m'' (answers ++ answers') (urls ++ urls') where
  leads := h.leads.trans h'.leads
  answers := by rw [h'.answers, h.answers, List.append_assoc]
  addresses := by rw [h'.addresses, h.addresses, List.append_assoc]

/-- Nothing is sent or received in silent steps. -/
theorem of_silent {ks : Set StepKind} (h : m.Leads (StepOf ks) m') (hks : ks ⊆ silent) :
    a.Sends m m' [] [] where
  leads := h.mono fun w w' ⟨k, hk, hstep⟩ => .inl (hstep.requests_eq (hks hk).1)
  answers := by
    rw [List.append_nil]
    exact h.answers_eq fun hanswer => (hks hanswer).2 rfl
  addresses := by
    rw [List.append_nil, addresses_eq, addresses_eq]
    congr 1
    exact h.keeps_eq (f := World.requests) fun k hk _ _ hstep => hstep.requests_eq (hks hk).1

theorem then_silent {ks : Set StepKind} (h : a.Sends m m' answers urls)
    (h' : m'.Leads (StepOf ks) m'') (hks : ks ⊆ silent) : a.Sends m m'' answers urls := by
  simpa using h.trans (of_silent h' hks)

end Sends

/-! ## One request -/

theorem isPositive_leftAt (hm : a.HasDeadlineOn m) (hdefined : a.finish ≠ .undefined)
    (hinTime : a.isExpiredAt m.toWorld = false) : (a.leftAt m.toWorld).IsPositive :=
  m.arithmetic.isPositive_minus hm hdefined (Bool.or_eq_false_iff.mp hinTime).2

/-- The answers that the end of a request brings. -/
def answersOf (url : String) : Except Fault (Nat × Response) → List (String × Response)
  | .ok answer => [(url, answer.2)]
  | .error _ => []

/-- A request is the first thing that is seen of asking an address. -/
theorem ask_sends (hm : a.HasDeadlineOn m) (hdefined : a.finish ≠ .undefined)
    (hinTime : a.isExpiredAt m.toWorld = false) (url : String) :
    a.Sends m (a.ask url m).2 (answersOf url (a.ask url m).1) [url] := by
  set e := a.requestAt url m.toWorld with he
  have hask : a.ask url m = MachineAction.request e url m := rfl
  have hevent : a.Sends m (event e m).2 [] [url] := by
    have hrequests : (event e m).2.requests = m.requests ++ [e] := by
      show (m.events ++ [e]).filter Event.isRequest = _
      rw [List.filter_append]
      rfl
    refine ⟨.step rfl (.inr ⟨url, hrequests, hinTime, isPositive_leftAt hm hdefined hinTime⟩),
      (List.append_nil _).symm, ?_⟩
    rw [addresses_eq, addresses_eq, hrequests, List.filterMap_append]
    rfl
  have hreply : (event e m).2.Leads (StepOf {.clock, .network}) (afterReply e url m) := by
    have htake : Makes {.clock, .network} (change fun m : Machine =>
      { m with network := (m.network.next url).2 }) := takeReply_makes (by simp) url
    have hpass : Makes {.clock, .network} (pass (m.network.next url).1.delay) :=
      pass_makes (by simp) _
    exact (htake _).trans (hpass _)
  have hasked := hevent.then_silent hreply (by simp [silent, Set.insert_subset_iff])
  rw [hask, request_apply]
  rcases (m.network.next url).1.result with fault | r
  · exact hasked
  · have hanswer : a.Sends (afterReply e url m) (afterAnswer url r (afterReply e url m))
        [(url, r)] [] := by
      refine ⟨.step rfl (.inl rfl), ?_, (List.append_nil _).symm⟩
      exact Network.answers_connect _ _ _
    simpa [answersOf] using hasked.trans hanswer

/-- A request is sent once if the deadline has not passed, and its answer is received if it
succeeds. -/
theorem get_sends (hm : a.HasDeadlineOn m) (hdefined : a.finish ≠ .undefined)
    (hinTime : a.isExpiredAt m.toWorld = false) (url : String) :
    ∃ answers, a.Sends m (a.get url m).2 answers [url] ∧
      ∀ answer, (a.get url m).1 = .ok answer → answers = [(url, answer.2)] := by
  have hask := ask_sends hm hdefined hinTime url
  refine ⟨answersOf url (a.ask url m).1, ?_⟩
  rw [get_apply hm hinTime]
  rcases hm₁ : a.ask url m with ⟨fault | ⟨id, r⟩, m₁⟩
  · rw [hm₁] at hask
    exact ⟨hask, fun _ h => by cases h⟩
  · rw [hm₁] at hask
    have hholding : m₁.Leads (StepOf {.holding}) (afterHolding id m₁) :=
      .step rfl ((Step.hold id).of (by simp))
    have hheld := hask.then_silent hholding (by simp [silent])
    dsimp only
    by_cases hlate : a.isExpiredAt m₁.toWorld
    · rw [if_pos hlate]
      have hclose : Makes {.network, .note} (closeConnection id) :=
        closeConnection_makes (by simp) (by simp) id
      exact ⟨hheld.then_silent (hclose _) (by simp [silent, Set.insert_subset_iff]),
        fun _ h => by cases h⟩
    · rw [if_neg hlate]
      refine ⟨hheld, fun answer h => ?_⟩
      cases h
      rfl

/-! ## The stages -/

theorem redirectAddress_eq_ok {r : Response} (h : a.redirectAddress r = .ok url) :
    ∃ location, r.header? "Location" = some location ∧ location ≠ "" ∧
      Url.join a.url location = .ok url := by
  unfold redirectAddress at h
  split at h
  · cases h
  · cases h
  · next location hne hlocation =>
    refine ⟨location, hlocation, hne, ?_⟩
    rcases hjoin : Url.join a.url location with e | url'
    · rw [hjoin] at h
      cases h
    · rw [hjoin] at h
      cases h
      rfl

theorem closing_silent (id : Nat) (m : Machine) :
    m.Leads (StepOf {.network, .note}) (closeConnection id m).2 :=
  closeConnection_makes (by simp) (by simp) id m

/-- Following a redirect, once, asks the address that the first answer names. -/
theorem follow_sends (hm : a.HasDeadlineOn m) (hdefined : a.finish ≠ .undefined) {id : Nat}
    {r : Response} (hreceives : a.Receives a.url m id r m')
    (hfirst : a.Sends m m' [(a.url, r)] [a.url]) :
    ∃ answers urls, a.Sends m (a.follow id r m').2 answers urls ∧ a.Visits answers urls := by
  rw [follow_apply]
  by_cases hstatus : r.status ∈ redirectStatuses
  · rw [if_pos hstatus]
    rcases haddress : a.redirectAddress r with e | url
    · have hclosed := hfirst.then_silent (closing_silent id m')
        (by simp [silent, Set.insert_subset_iff])
      exact ⟨_, _, hclosed, .first _⟩
    · have hredirects : a.Redirects m url (afterRedirect id url m') :=
        ⟨id, r, m', hreceives, hstatus, haddress, rfl⟩
      have hbefore := hfirst.then_silent (afterRedirect_leads id url m')
        (by simp [silent, Set.insert_subset_iff])
      obtain ⟨answers, hget, -⟩ :=
        get_sends (hm.leads hredirects.leads) hdefined hredirects.inTime url
      obtain ⟨location, hlocation, hne, hjoin⟩ := redirectAddress_eq_ok haddress
      have hredirect : r.status = 301 ∨ r.status = 302 := by
        simpa [redirectStatuses] using hstatus
      exact ⟨_, _, hbefore.trans hget, .redirected r _ location url hredirect hlocation hne hjoin⟩
  · rw [if_neg hstatus]
    exact ⟨_, _, hfirst, .first _⟩

/-- The request asks nobody after the deadline, and else one address or two. -/
theorem request_sends (hm : a.HasDeadlineOn m) (hdefined : a.finish ≠ .undefined) :
    ∃ answers urls, a.Sends m (a.request m).2 answers urls ∧ a.Visits answers urls := by
  by_cases hexpired : a.isExpiredAt m.toWorld
  · have hget : a.get a.url m = (.error (a.timeoutFault none), m) :=
      bind_of_error (a.remaining_of_isExpiredAt hexpired)
    have hrequest : a.request m = (.error (a.timeoutFault none), m) := bind_of_error hget
    rw [hrequest]
    have hnothing : m.Leads (StepOf ∅) m := .refl m
    exact ⟨[], [], .of_silent hnothing (Set.empty_subset _), .none []⟩
  rw [Bool.not_eq_true] at hexpired
  obtain ⟨answers, hget, hanswers⟩ := get_sends hm hdefined hexpired a.url
  rw [request_eq, answer]
  refine bind_ends (P := fun r => ∃ answers urls, a.Sends m r.2 answers urls ∧
    a.Visits answers urls) (fun e m₂ hfails => ?_) fun answered m₂ hgoes => ?_
  · rcases bind_eq_error.mp hfails with hfirst | ⟨⟨first, r₁⟩, m₁, hfirst, hfollow⟩
    · rw [hfirst] at hget
      exact ⟨answers, [a.url], hget, .first _⟩
    · rw [hfirst] at hget
      cases hanswers _ (congrArg Prod.fst hfirst)
      have hsends := follow_sends hm hdefined ((get_eq_answer hm hexpired).mp hfirst) hget
      dsimp only at hfollow
      rwa [hfollow] at hsends
  · obtain ⟨id, r⟩ := answered
    obtain ⟨⟨first, r₁⟩, m₁, hfirst, hfollow⟩ := bind_eq_ok.mp hgoes
    rw [hfirst] at hget
    cases hanswers _ (congrArg Prod.fst hfirst)
    have hsends := follow_sends hm hdefined ((get_eq_answer hm hexpired).mp hfirst) hget
    dsimp only at hfollow
    rw [hfollow] at hsends
    obtain ⟨answers, urls, hsends, hvisits⟩ := hsends
    refine ⟨answers, urls, ?_, hvisits⟩
    dsimp only
    rw [judge_apply]
    by_cases hstatus : r.status = 200
    · rw [if_pos hstatus]
      exact hsends
    · rw [if_neg hstatus]
      exact hsends.then_silent (closing_silent id m₂) (by simp [silent, Set.insert_subset_iff])

/-- Writing the body sends nothing. -/
theorem stream_makes (a : Attempt) (id : Nat) : Makes silent (a.stream id) :=
  .bind (.of_observe _) fun _ => .bind (.of_attempt (a.save_makes id)) fun result =>
    a.ending_makes (by simp [silent]) (by simp [silent]) id _ result

theorem verify_silent (a : Attempt) : Makes silent a.verify :=
  a.verify_makes (by simp [silent]) (by simp [silent]) (by simp [silent])

/-- The stages send what the request sends. -/
theorem run_sends (hm : a.HasDeadlineOn m) (hdefined : a.finish ≠ .undefined) :
    ∃ answers urls, a.Sends m (a.run m).2 answers urls ∧ a.Visits answers urls := by
  have harm : m.Leads (StepOf {.alarm}) (a.arm m).2 := a.arm_makes (by simp) m
  obtain ⟨answers, urls, hrequest, hvisits⟩ := request_sends (hm.leads harm) hdefined
  have harmed : a.Sends m (a.arm m).2 [] [] := .of_silent harm (by simp [silent])
  have hasked : a.Sends m (a.request (a.arm m).2).2 answers urls := by
    simpa using harmed.trans hrequest
  have hbody : ∀ id, Makes silent (a.stream id >>= fun _ => a.verify) := fun id =>
    (a.stream_makes id).bind fun _ => a.verify_silent
  have hdelivery : ∃ answers urls, a.Sends m (a.deliver m).2 answers urls ∧
      a.Visits answers urls := by
    unfold deliver
    refine bind_ends (P := fun r => ∃ answers urls, a.Sends m r.2 answers urls ∧
      a.Visits answers urls) (fun e m₁ hfails => ?_) fun _ m₁ hok => ?_
    · rw [hfails] at harmed
      exact ⟨[], [], harmed, .none []⟩
    rw [hok] at hasked
    refine bind_ends (P := fun r => ∃ answers urls, a.Sends m r.2 answers urls ∧
      a.Visits answers urls) (fun e m₂ hfails => ?_) fun id m₂ hok' => ?_
    · rw [hfails] at hasked
      exact ⟨answers, urls, hasked, hvisits⟩
    · rw [hok'] at hasked
      exact ⟨answers, urls, hasked.then_silent (hbody id m₂) (subset_refl _), hvisits⟩
  obtain ⟨answers, urls, hsends, hvisits⟩ := hdelivery
  -- What is left is the change of permissions.
  have hrest := a.run_leads (Path.leadsInto_univ a.target) m
  refine ⟨answers, urls, hsends.then_silent hrest ?_, hvisits⟩
  refine Set.union_subset (by simp [finishing, silent, Set.insert_subset_iff]) ?_
  rintro k ⟨l, -, rfl⟩
  simp [silent]

/-- Nothing is sent after the stages. -/
theorem afterRun_silent (a : Attempt) (result : Except Fault Nat) (m : Machine) :
    m.Leads (StepOf silent) (a.afterRun result m) := by
  refine (a.afterRun_leads (Path.leadsInto_univ a.target) result m).of_subset ?_
  refine Set.union_subset (by simp [silent, Set.insert_subset_iff]) ?_
  rintro k ⟨l, -, rfl⟩
  simp [silent]

/-- An attempt that begins after its deadline ends at once. -/
theorem run_of_isExpiredAt (h : a.isExpiredAt m.toWorld) :
    a.run m = (.error (a.timeoutFault none), m) := by
  have harm : a.arm m = (.error (a.timeoutFault none), m) :=
    bind_of_error (a.remaining_of_isExpiredAt h)
  have hdeliver : a.deliver m = (.error (a.timeoutFault none), m) := bind_of_error harm
  exact bind_of_error hdeliver

end Attempt

/-! ## The download -/

/-- No request is sent, and nothing is done to files. -/
structure World.Rests (w w' : World) : Prop where
  requests : w'.requests = w.requests
  files : w'.files = w.files
  uses : w'.uses = w.uses

theorem World.Step.rests {k : StepKind} {w w' : World} (h : w.Step k w')
    (hk : k = .note ∨ k = .alarm) : w.Rests w' := by
  refine ⟨h.requests_eq ?_, h.files_eq ?_, funext fun op => h.uses_eq ?_⟩
  all_goals rcases hk with rfl | rfl <;> simp [StepKind.location?]

namespace Downloader

open Attempt

variable (d : Downloader) (url target : String) {timeout : Double} (m : Machine)

/-- A download whose deadline is not after its beginning does nothing. -/
theorem download_rests (h : (Time.ofSeconds timeout).before .zero) :
    m.Leads Rests (d.download url target timeout m).2 := by
  rw [download_apply]
  set a := d.attemptOn url target timeout m with ha
  have hbegin : m.Leads Rests (a.begin m).2 :=
    a.begin_leads (fun _ => ⟨rfl, rfl, rfl⟩) (fun _ _ => ⟨rfl, rfl, rfl⟩) m
  -- Rounding keeps the order, so a deadline in the past is not computed to be in the future.
  have hreached : (a.begin m).2.time.reaches a.finish :=
    m.arithmetic.reaches_plus_of_before_zero m.now h
  have hexpired : a.isExpiredAt (a.begin m).2.toWorld := Bool.or_eq_true_iff.mpr (.inr hreached)
  have hclosed : (a.begin m).2.transfer.hasOpened = false := by rw [begin_transfer]
  refine hbegin.trans ?_
  rw [perform_apply, run_of_isExpiredAt hexpired]
  refine (a.afterRun_leads_of_not_opened _ hclosed).mono fun w w' ⟨k, hk, hstep⟩ => ?_
  exact hstep.rests (by simpa using hk)

theorem download_sends (h : timeout ≠ .nan) : ∃ answers urls,
    (d.attemptOn url target timeout m).Sends m (d.download url target timeout m).2 answers urls ∧
      (d.attemptOn url target timeout m).Visits answers urls := by
  have hdeadline := hasDeadlineOn_begin d url target timeout m
  have hdefined : (d.attemptOn url target timeout m).finish ≠ .undefined := by
    show m.arithmetic.plus (m.arithmetic.ofMicros m.now) (.ofSeconds timeout) ≠ .undefined
    rw [Arithmetic.ofMicros_eq]
    exact m.arithmetic.plus_ne_undefined _ (Time.ofSeconds_ne_undefined h)
  rw [download_apply]
  set a := d.attemptOn url target timeout m
  have hbegin : a.Sends m (a.begin m).2 [] [] :=
    ⟨a.begin_leads (fun _ => .inl rfl) (fun _ _ => .inl rfl) m, (List.append_nil _).symm,
      (List.append_nil _).symm⟩
  obtain ⟨answers, urls, hrun, hvisits⟩ := run_sends hdeadline hdefined
  have hstages : a.Sends m (a.run (a.begin m).2).2 answers urls := by
    simpa using hbegin.trans hrun
  rw [perform_apply]
  exact ⟨answers, urls, hstages.then_silent (a.afterRun_silent _ _) (subset_refl _), hvisits⟩

/-- Every request of a download is sent before the deadline and carries the time left, which is
positive.  There are two of them at most: the first is for the address of the download, and the
second is for the address that the first answer redirects it to.  If no time is left from the
beginning, there is none, and nothing is done to files. -/
theorem download_asks_in_time (h : timeout ≠ .nan) :
    ((d.download url target timeout).moments m).IsChain
      (d.attemptOn url target timeout m).AsksInTime ∧
    (∃ answers urls,
      (d.download url target timeout m).2.network.answers = m.network.answers ++ answers ∧
      (d.download url target timeout m).2.addresses = m.addresses ++ urls ∧
      (d.attemptOn url target timeout m).Visits answers urls) ∧
    ((Time.ofSeconds timeout).before .zero →
      ∀ w ∈ (d.download url target timeout).moments m, m.toWorld.Rests w) := by
  obtain ⟨answers, urls, hsends, hvisits⟩ := download_sends d url target m h
  refine ⟨?_, ⟨answers, urls, hsends.answers, hsends.addresses, hvisits⟩, fun hlate w hw => ?_⟩
  · obtain ⟨ws, hthrough, hchain⟩ := hsends.leads.through
    rwa [moments, Machine.momentsSince_eq hthrough.past]
  · obtain ⟨m', hleads, -, rfl⟩ := (download_rests d url target m hlate).of_mem_momentsSince hw
    exact hleads.keeps (fun _ => ⟨rfl, rfl, rfl⟩)
      (fun _ _ _ h h' => ⟨h'.requests.trans h.requests, h'.files.trans h.files,
        h'.uses.trans h.uses⟩) fun _ _ h => h

end Downloader

/-- Every answer is a redirect to where it comes from. -/
def circlingMachine : Machine :=
  .answering {} [("http://h/u", { status := 302, headers := [("Location", "/u")] })]

/-- A server that redirects forever is asked twice, and not at all if there is no time for it. -/
theorem Downloader.download_asks_in_time_circling :
    (Downloader.download {} "http://h/u" "/x" (.ofNat 5) circlingMachine).2.addresses =
      ["http://h/u", "http://h/u"] ∧
    ((Downloader.download {} "http://h/u" "/x" (.ofNat 5)).moments circlingMachine).IsChain
      (Downloader.attemptOn {} "http://h/u" "/x" (.ofNat 5) circlingMachine).AsksInTime ∧
    ∀ w ∈ (Downloader.download {} "http://h/u" "/x" (.ofNat 0)).moments circlingMachine,
      circlingMachine.toWorld.Rests w := by
  refine ⟨by decide +kernel, ?_, ?_⟩
  · exact (Downloader.download_asks_in_time {} "http://h/u" "/x" circlingMachine
      (Double.ofNat_ne_nan 5)).1
  · exact (Downloader.download_asks_in_time {} "http://h/u" "/x" circlingMachine
      (Double.ofNat_ne_nan 0)).2.2 (by decide +kernel)

end ServerLauncher
