import ServerLauncher.Proofs.Stages

/-!
# The answer that a download goes by

A request that succeeds leaves the transfer with the connection of the last answer, of whose body
nothing has been read.

## Main definitions

* `Network.answers`: the answers that have been received, with the addresses they came from.
* `World.HoldsAnswer`: the transfer holds a connection of which nothing has been read.
* `Attempt.Answers`: the answers that a download goes by, one or two.

## Main statements

* `MachineAction.request_apply`: what a request comes to.
* `Attempt.get_eq_ok`, `Attempt.request_eq_ok`: what a request has done that succeeds.
-/

namespace ServerLauncher

open MachineAction World StepKind

/-- The answers that have been received, with the addresses they came from. -/
def Network.answers (n : Network) : List (String × Response) :=
  n.connections.map fun c => (c.url, c.response)

theorem Network.answers_change {n : Network} {id : Nat} {f : Connection → Connection}
    (h : ∀ c, (f c).url = c.url ∧ (f c).response = c.response) :
    (n.change id f).answers = n.answers := by
  refine List.ext_getElem? fun j => ?_
  simp only [answers, change, List.getElem?_map, List.getElem?_modify]
  rcases n.connections[j]? with _ | c
  · rfl
  · split_ifs
    · simp [(h c).1, (h c).2]
    · rfl

theorem Network.answers_connect (n : Network) (url : String) (r : Response) :
    (n.connect url r).2.answers = n.answers ++ [(url, r)] := by
  simp [answers, connect]

/-- Answers are received only in steps of their own kind. -/
theorem World.Step.answers_eq {k : StepKind} {w w' : World} (h : w.Step k w') (hk : k ≠ .answer) :
    w'.network.answers = w.network.answers := by
  cases h with
  | ring t network events records halarm hnetwork =>
    rcases hnetwork with rfl | ⟨id, -, rfl⟩
    · rfl
    · exact Network.answers_change fun _ => ⟨rfl, rfl⟩
  | close id => exact Network.answers_change fun _ => ⟨rfl, rfl⟩
  | take id => exact Network.answers_change fun _ => ⟨rfl, rfl⟩
  | connect => exact absurd rfl hk
  | _ => rfl

theorem Machine.Leads.answers_eq {ks : Set StepKind} {m m' : Machine}
    (h : m.Leads (StepOf ks) m') (hks : .answer ∉ ks) :
    m'.network.answers = m.network.answers :=
  h.keeps_eq (f := (·.network.answers)) fun _ hk _ _ hs =>
    hs.answers_eq fun heq => hks (heq ▸ hk)

theorem Machine.Leads.connections_length_eq {ks : Set StepKind} {m m' : Machine}
    (h : m.Leads (StepOf ks) m') (hks : .answer ∉ ks) :
    m'.network.connections.length = m.network.connections.length := by
  have hlength := congrArg List.length (h.answers_eq hks)
  simpa [Network.answers] using hlength

/-- The transfer holds the last connection, of which nothing has been read. -/
structure World.HoldsAnswer (w : World) (id : Nat) (r : Response) (c : Connection) : Prop where
  held : w.transfer.connection = some id
  connection? : w.network.connection? id = some c
  last : w.network.connections.length = id + 1
  response : c.response = r
  untouched : c.chunks = r.chunks
  shut : c.isShut → w.transfer.hasExpired

theorem World.HoldsAnswer.leads {ks : Set StepKind} {m m' : Machine} {id : Nat} {r : Response}
    {c : Connection} (h : m.toWorld.HoldsAnswer id r c) (hleads : m.Leads (StepOf ks) m')
    (hks : .reading ∉ ks ∧ .holding ∉ ks ∧ .answer ∉ ks) :
    ∃ c', m'.toWorld.HoldsAnswer id r c' := by
  obtain ⟨hreading, hholding, hanswer⟩ := hks
  obtain ⟨c', hc', hcc', hchunks, hshut⟩ := hleads.connection? h.connection?
  refine ⟨c', (hleads.connection_eq hholding).trans h.held, hc', ?_, hcc'.response.trans h.response,
    (hchunks hreading).trans h.untouched, fun hc'shut => ?_⟩
  · rw [hleads.connections_length_eq hanswer]
    exact h.last
  · rcases hshut hc'shut with hcshut | hexpired
    · exact hleads.precedes.hasExpired (h.shut hcshut)
    · exact hexpired

namespace MachineAction

/-- The machine when a request has been sent and the reply to it has come. -/
def afterReply (e : Event) (url : String) (m : Machine) : Machine :=
  let asked := (m.onward.observe e).onward
  ({ asked with network := (asked.network.next url).2 }.onward).advance
    (m.network.next url).1.delay

/-- The machine that has received an answer. -/
def afterAnswer (url : String) (r : Response) (m : Machine) : Machine :=
  { m.onward with network := (m.network.connect url r).2 }

/-- What a request comes to: the reply is an answer or a failure. -/
theorem request_apply (e : Event) (url : String) (m : Machine) : request e url m =
    match (m.network.next url).1.result with
    | .error fault => (.error fault, afterReply e url m)
    | .ok r => (.ok ((afterReply e url m).network.connections.length, r),
        afterAnswer url r (afterReply e url m)) := by
  unfold request event pass
  rw [change_bind_apply, observe_bind_apply, change_bind_apply, change_bind_apply]
  have hsame : (m.onward.observe e).network = m.network := rfl
  rw [hsame]
  rcases (m.network.next url).1.result with fault | r
  · rfl
  · rfl

theorem afterReply_leads {e : Event} (he : e.isRequest) (url : String) (m : Machine) :
    m.Leads (StepOf {.clock, .ask, .network}) (afterReply e url m) := by
  have hask : m.Leads (StepOf {.clock, .ask, .network}) (event e m).2 :=
    request_event_makes (by simp) he m
  have htake : Makes {.clock, .ask, .network} (change fun m : Machine =>
      { m with network := (m.network.next url).2 }) := takeReply_makes (by simp) url
  have hpass : Makes {.clock, .ask, .network} (pass (m.network.next url).1.delay) :=
    pass_makes (by simp) _
  exact (hask.trans (htake _)).trans (hpass _)

end MachineAction

namespace Attempt

variable {a : Attempt} {m m' : Machine} {id : Nat} {r : Response}

/-- What a request has done that is answered in time. -/
theorem get_eq_ok {url : String} (h : a.get url m = (.ok (id, r), m')) :
    (∃ c, m'.toWorld.HoldsAnswer id r c) ∧ a.isExpiredAt m'.toWorld = false ∧
      m'.network.answers = m.network.answers ++ [(url, r)] := by
  unfold get at h
  rcases a.remaining_cases m with ⟨e, hleft⟩ | ⟨-, left, hleft⟩
  · rw [bind_of_error hleft] at h
    cases h
  rw [bind_of_ok hleft, get_bind_apply, attempt_bind_apply] at h
  have he : (Event.request url (m.arithmetic.micros? left) a.downloader.userAgent
    Downloader.accept true false).isRequest := rfl
  generalize Event.request _ _ _ _ _ _ = e at h he
  rcases hrequest : MachineAction.request e url m with ⟨fault | ⟨id', r'⟩, m₁⟩
  · rw [hrequest] at h
    dsimp only at h
    split_ifs at h
    · cases h
    · cases h
    · rw [isExpired, observe_bind_apply] at h
      split_ifs at h <;> cases h
  · rw [hrequest] at h
    dsimp only at h
    rw [updateTransfer, change_bind_apply, isExpired, observe_bind_apply] at h
    split_ifs at h with hexpired
    · obtain ⟨_, m₂, -, hthrow⟩ := bind_eq_ok.mp h
      cases hthrow
    · cases h
      rw [Bool.not_eq_true] at hexpired
      rw [request_apply] at hrequest
      rcases hresult : (m.network.next url).1.result with fault | answer
      · rw [hresult] at hrequest
        cases hrequest
      rw [hresult] at hrequest
      cases hrequest
      have hleads := afterReply_leads he url m
      refine ⟨⟨{ url, response := r, chunks := r.chunks }, rfl, ?_, ?_, rfl, rfl, by simp⟩,
        hexpired, ?_⟩
      · simp [afterAnswer, Network.connect, Network.connection?]
      · simp [afterAnswer, Network.connect]
      · have hbefore := hleads.answers_eq (by simp)
        exact (Network.answers_connect _ _ _).trans (by rw [hbefore])

/-- The answers that a download goes by: one, or a redirect and one more. -/
inductive Answers (a : Attempt) : List (String × Response) → String → Response → Prop where
  | direct (r : Response) : a.Answers [(a.url, r)] a.url r
  | redirected (first : Response) (url : String) (r : Response)
      (hstatus : first.status ∈ redirectStatuses) (haddress : a.redirectAddress first = .ok url) :
      a.Answers [(a.url, first), (url, r)] url r

/-- What a request has done that succeeds. -/
theorem request_eq_ok (h : a.request m = (.ok id, m')) :
    ∃ url r answers, (∃ c, m'.toWorld.HoldsAnswer id r c) ∧ a.isExpiredAt m'.toWorld = false ∧
      m'.network.answers = m.network.answers ++ answers ∧ a.Answers answers url r ∧
      r.status = 200 := by
  unfold request at h
  obtain ⟨⟨first, r₁⟩, m₁, hfirst, h⟩ := bind_eq_ok.mp h
  obtain ⟨hholds, hexpired, hanswers⟩ := get_eq_ok hfirst
  obtain ⟨⟨id', r'⟩, m₂, hfollow, h⟩ := bind_eq_ok.mp h
  have hstatus : r'.status = 200 ∧ id' = id ∧ m₂ = m' := by
    dsimp only at h
    split_ifs at h with hstatus
    · obtain ⟨_, m₃, -, hthrow⟩ := bind_eq_ok.mp h
      cases hthrow
    · cases h
      exact ⟨not_not.mp hstatus, rfl, rfl⟩
  obtain ⟨hok, rfl, rfl⟩ := hstatus
  unfold follow at hfollow
  split_ifs at hfollow with hredirect
  · obtain ⟨_, m₃, hclose, hfollow⟩ := bind_eq_ok.mp hfollow
    obtain ⟨url, m₄, hsettle, hfollow⟩ := bind_eq_ok.mp hfollow
    obtain ⟨_, m₅, hrecord, hget⟩ := bind_eq_ok.mp hfollow
    obtain ⟨hholds', hexpired', hanswers'⟩ := get_eq_ok hget
    rw [settle_apply, Prod.mk.injEq] at hsettle
    obtain ⟨haddress, rfl⟩ := hsettle
    have hleads : m₁.Leads (StepOf {.network, .note}) m₃ :=
      (closeConnection_makes (by simp) (by simp) first).leads hclose
    have hleads' : m₃.Leads (StepOf {.network, .note}) m₅ :=
      (record_makes (by simp) _ _ _).leads hrecord
    have hbefore := (hleads.trans hleads').answers_eq (by simp)
    refine ⟨url, r', [(a.url, r₁), (url, r')], hholds', hexpired', ?_, ?_, hok⟩
    · rw [hanswers', hbefore, hanswers, List.append_assoc, List.singleton_append]
    · exact .redirected r₁ url r' (List.contains_iff_mem.mp hredirect) haddress
  · cases hfollow
    exact ⟨a.url, r₁, _, hholds, hexpired, hanswers, .direct r₁, hok⟩

end Attempt

end ServerLauncher
