import Mathlib.Data.Set.Subsingleton
import ServerLauncher.Proofs.Failures

/-!
# What a download lets go of

A download holds a connection, a file and an alarm for some time, and has let go of all three when
it ends, however it ends.  No request is sent while a connection is open, so that of the connections
of a download one at most is open at any moment.

## Main definitions

* `World.openSince`: the connections from a number on that are open.
* `World.Orderly`: a step sends no request while a connection is open, and opens one at most.
* `Attempt.leftOpen`: the connection that a request leaves open.

## Main statements

* `Machine.Leads.goesOn`: what neither asks nor receives an answer is in order.
* `Attempt.get_goesOn`, `Attempt.request_goesOn`: a request that fails leaves no connection open.
* `Downloader.download_releases`: nothing is held after a download, and the clock changes nothing.
-/

namespace ServerLauncher

open MachineAction World StepKind

/-! ## Open connections -/

/-- The steps other than sending a request and receiving an answer. -/
def StepKind.silent : Set StepKind := {k | k ≠ .ask ∧ k ≠ .answer}

/-- The connections from a number on that are open. -/
def World.openSince (w : World) (n : Nat) : Set Nat :=
  {id | n ≤ id ∧ ∃ c, w.network.connection? id = some c ∧ c.isClosed = false}

theorem World.openSince_length (w : World) : w.openSince w.network.connections.length = ∅ := by
  refine Set.eq_empty_of_forall_notMem fun id hid => ?_
  obtain ⟨hid, c, hc, -⟩ := hid
  have hnone : w.network.connection? id = none := List.getElem?_eq_none hid
  rw [hnone] at hc
  cases hc

/-- A changed connection that is open was open before, if the change opens none. -/
theorem Network.open_of_change {n : Network} {id j : Nat} {f : Connection → Connection}
    (h : ∃ c, (n.change id f).connection? j = some c ∧ c.isClosed = false)
    (hf : ∀ c, c.isClosed → (f c).isClosed) :
    ∃ c, n.connection? j = some c ∧ c.isClosed = false := by
  obtain ⟨c', hc', hopen⟩ := h
  rw [connection?_change, Option.map_eq_some_iff] at hc'
  obtain ⟨c, hc, rfl⟩ := hc'
  refine ⟨c, hc, ?_⟩
  by_cases hj : id = j
  · rw [if_pos hj] at hopen
    by_contra hclosed
    rw [Bool.not_eq_false] at hclosed
    rw [hf c hclosed] at hopen
    cases hopen
  · rwa [if_neg hj] at hopen

namespace World

variable {k : StepKind} {w w' : World} {n : Nat}

/-- Connections become open only when an answer is received. -/
theorem Step.openSince_subset (h : w.Step k w') (hk : k ≠ .answer) :
    w'.openSince n ⊆ w.openSince n := by
  intro id hid
  obtain ⟨hn, hopen⟩ := hid
  refine ⟨hn, ?_⟩
  cases h with
  | ring t network events records halarm hnetwork =>
    rcases hnetwork with rfl | ⟨j, -, rfl⟩
    · exact hopen
    · exact Network.open_of_change hopen fun _ h => h
  | close j => exact Network.open_of_change hopen fun _ _ => rfl
  | take j => exact Network.open_of_change hopen fun _ h => h
  | connect => exact absurd rfl hk
  | _ => exact hopen

/-- A step sends no request while a connection is open, and leaves one open at most. -/
structure Orderly (n : Nat) (w w' : World) : Prop where
  request : w'.requests ≠ w.requests → w.openSince n = ∅
  one : (w.openSince n).Subsingleton → (w'.openSince n).Subsingleton

theorem Step.orderly (h : w.Step k w') (hanswer : k ≠ .answer)
    (hask : k = .ask → w.openSince n = ∅) : w.Orderly n w' where
  request := by
    intro hne
    by_cases hk : k = .ask
    · exact hask hk
    · exact absurd (h.requests_eq hk) hne
  one hone := hone.anti (h.openSince_subset hanswer)

end World

/-- A machine has gone on in order, after which no other connections than some are open. -/
structure Machine.GoesOn (n : Nat) (ids : Set Nat) (m m' : Machine) : Prop where
  leads : m.Leads (Orderly n) m'
  openSince : m'.openSince n ⊆ ids

namespace Machine

variable {ks : Set StepKind} {n : Nat} {ids ids' : Set Nat} {m m' m'' : Machine}

theorem GoesOn.refl (h : m.openSince n ⊆ ids) : m.GoesOn n ids m := ⟨.refl m, h⟩

theorem GoesOn.trans (h : m.GoesOn n ids m') (h' : m'.GoesOn n ids' m'') : m.GoesOn n ids' m'' :=
  ⟨h.leads.trans h'.leads, h'.openSince⟩

/-- Without an answer no further connection is open; a request may be sent only if none is. -/
theorem Leads.goesOn (h : m.Leads (StepOf ks) m') (hanswer : .answer ∉ ks)
    (hask : .ask ∈ ks → ids = ∅) (hm : m.openSince n ⊆ ids) : m.GoesOn n ids m' := by
  induction h with
  | refl => exact .refl hm
  | tail _ hs ih =>
    obtain ⟨hpast, k, hk, hstep⟩ := hs
    have hk' : k ≠ .answer := fun heq => hanswer (heq ▸ hk)
    refine ih.trans ⟨.step hpast (hstep.orderly hk' fun heq => ?_), ?_⟩
    · have hnone := ih.openSince
      rw [hask (heq ▸ hk)] at hnone
      exact Set.subset_empty_iff.mp hnone
    · exact (hstep.openSince_subset hk').trans ih.openSince

end Machine

namespace MachineAction

variable {n id : Nat} {m : Machine}

/-- A connection that is closed is not open. -/
theorem closeConnection_goesOn (hm : m.openSince n ⊆ {id}) :
    m.GoesOn n ∅ (closeConnection id m).2 := by
  have hleads : m.Leads (StepOf {.network, .note}) (closeConnection id m).2 :=
    closeConnection_makes (by simp) (by simp) id m
  have hgoes := hleads.goesOn (by simp) (by simp) hm
  refine ⟨hgoes.leads, fun j hj => ?_⟩
  obtain rfl : j = id := hgoes.openSince hj
  obtain ⟨-, c, hc, hopen⟩ := hj
  unfold closeConnection at hc
  rw [MachineAction.connection?, observe_bind_apply] at hc
  rcases hm : m.network.connection? j with _ | c'
  · rw [hm] at hc
    exact absurd (hm.symm.trans hc) (by simp)
  · rw [hm] at hc
    dsimp only at hc
    by_cases hclosed : c'.isClosed
    · rw [if_pos hclosed, pure_apply, hm, Option.some_inj] at hc
      rw [← hc, hclosed] at hopen
      cases hopen
    · rw [if_neg hclosed, change_bind_apply] at hc
      have hc' : ((m.network.change j fun c => { c with isClosed := true }).connection? j) =
          some c := hc
      rw [Network.connection?_change, hm, Option.map_some, if_pos rfl, Option.some_inj] at hc'
      rw [← hc'] at hopen
      cases hopen

/-- The connection of an answer is the only one that is open afterwards. -/
theorem afterAnswer_goesOn (url : String) (r : Response) (hm : m.openSince n ⊆ ∅) :
    m.GoesOn n {m.network.connections.length} (afterAnswer url r m) := by
  have hsubset : (afterAnswer url r m).openSince n ⊆ {m.network.connections.length} := by
    rintro j ⟨hj, c, hc, hopen⟩
    by_contra hne
    have hlength := (List.getElem?_eq_some_iff.mp hc).1
    have hj' : j < m.network.connections.length := by
      simp only [afterAnswer, Network.connect, List.length_append, List.length_singleton]
        at hlength
      have hne' : j ≠ m.network.connections.length := hne
      omega
    have hbefore : m.network.connection? j = some c := by
      simp only [afterAnswer, Network.connect, Network.connection?] at hc
      rwa [List.getElem?_append_left hj'] at hc
    exact hm ⟨hj, c, hbefore, hopen⟩
  have hstep : m.Leads (Orderly n) (afterAnswer url r m) := by
    refine .step rfl ⟨fun hne => absurd rfl hne, fun _ => ?_⟩
    exact Set.subsingleton_singleton.anti hsubset
  exact ⟨hstep, hsubset⟩

end MachineAction

/-! ## The stages -/

namespace Attempt

variable {a : Attempt} {n id : Nat} {m : Machine}

/-- The connection that a request leaves open. -/
def leftOpen : Except Fault Nat → Set Nat
  | .ok id => {id}
  | .error _ => ∅

/-- Sending a request leaves the connection of its answer open, if there is one. -/
theorem ask_goesOn (url : String) (hm : m.openSince n ⊆ ∅) :
    m.GoesOn n (leftOpen ((a.ask url m).1.map Prod.fst)) (a.ask url m).2 := by
  unfold ask
  generalize he : Event.request _ _ _ _ _ _ = e
  have hrequest : e.isRequest := by
    rw [← he]
    rfl
  have hreply := (afterReply_leads hrequest url m).goesOn (by simp) (fun _ => rfl) hm
  rw [request_apply]
  rcases (m.network.next url).1.result with fault | r
  · exact hreply
  · exact hreply.trans (afterAnswer_goesOn url r hreply.openSince)

theorem get_goesOn (hdeadline : a.HasDeadlineOn m) (url : String) (hm : m.openSince n ⊆ ∅) :
    m.GoesOn n (leftOpen ((a.get url m).1.map Prod.fst)) (a.get url m).2 := by
  by_cases hexpired : a.isExpiredAt m.toWorld
  · unfold get
    rw [bind_of_error (a.remaining_of_isExpiredAt hexpired)]
    exact .refl hm
  · rw [get_apply hdeadline (by simpa using hexpired)]
    have hask := a.ask_goesOn url hm
    generalize a.ask url m = answered at hask ⊢
    obtain ⟨fault | ⟨id, r⟩, m₁⟩ := answered
    · exact hask
    · have hholding : m₁.Leads (StepOf {.holding}) (afterHolding id m₁) :=
        .step rfl ((Step.hold id).of (by simp))
      have hheld := hask.trans (hholding.goesOn (by simp) (by simp) hask.openSince)
      dsimp only
      by_cases hlate : a.isExpiredAt m₁.toWorld
      · rw [if_pos hlate]
        exact hheld.trans (closeConnection_goesOn hheld.openSince)
      · rw [if_neg hlate]
        exact hheld

/-- A redirect is followed only when its connection is closed. -/
theorem follow_goesOn (hdeadline : a.HasDeadlineOn m) (r : Response) (hm : m.openSince n ⊆ {id}) :
    m.GoesOn n (leftOpen ((a.follow id r m).1.map Prod.fst)) (a.follow id r m).2 := by
  rw [follow_apply]
  by_cases hstatus : r.status ∈ redirectStatuses
  · rw [if_pos hstatus]
    have hclosed := closeConnection_goesOn hm
    rcases a.redirectAddress r with e | url
    · exact hclosed
    · have hrecord : (closeConnection id m).2.Leads (StepOf {.note}) (afterRedirect id url m) :=
        record_makes (by simp) _ _ _ _
      have hredirect := hclosed.trans (hrecord.goesOn (by simp) (by simp) hclosed.openSince)
      have hdeadline' : a.HasDeadlineOn (afterRedirect id url m) :=
        hdeadline.leads (afterRedirect_leads id url m)
      exact hredirect.trans (get_goesOn hdeadline' url hredirect.openSince)
  · rw [if_neg hstatus]
    exact .refl hm

theorem judge_goesOn (r : Response) (hm : m.openSince n ⊆ {id}) :
    m.GoesOn n (leftOpen (judge id r m).1) (judge id r m).2 := by
  rw [judge_apply]
  by_cases hstatus : r.status = 200
  · rw [if_pos hstatus]
    exact .refl hm
  · rw [if_neg hstatus]
    exact closeConnection_goesOn hm

theorem request_goesOn (hdeadline : a.HasDeadlineOn m) (hm : m.openSince n ⊆ ∅) :
    m.GoesOn n (leftOpen (a.request m).1) (a.request m).2 := by
  have hget := get_goesOn hdeadline a.url hm
  have hleads := a.get_makes (subset_refl _) a.url m
  unfold request
  refine bind_ends (P := fun r => m.GoesOn n (leftOpen r.1) r.2) (fun e m₁ hfirst => ?_)
    fun ⟨first, r₁⟩ m₁ hfirst => ?_
  · rwa [hfirst] at hget
  rw [hfirst] at hget hleads
  have hfollow := hget.trans (follow_goesOn (hdeadline.leads hleads) r₁ hget.openSince)
  refine bind_ends (P := fun r => m.GoesOn n (leftOpen r.1) r.2) (fun e m₂ hsecond => ?_)
    fun ⟨id, r⟩ m₂ hsecond => ?_
  · rwa [hsecond] at hfollow
  rw [hsecond] at hfollow
  exact hfollow.trans (judge_goesOn r hfollow.openSince)

theorem fill_makes (a : Attempt) (id : Nat) (l : Location) : Makes silent (a.fill id l) :=
  .bind (change_makes (k := .opening) (by simp [silent]) (fun _ => rfl) fun _ => .opened)
    fun _ => .bind (.of_attempt (a.pour_makes
      (by simp [pouring, silent, Set.insert_subset_iff]) id)) fun result =>
        closing_makes (by simp [silent]) (by simp [silent]) (by simp [silent]) result

/-- Writing the target has nothing to do with requests. -/
theorem save_makes (a : Attempt) (id : Nat) : Makes silent (a.save id) := by
  have hdirectories : Makes silent (makeDirectoryFor a.target) := fun m =>
    (makeDirectoryFor_makes a.target m).of_subset (Set.union_subset
      (by simp [silent, Set.insert_subset_iff]) (by rintro k ⟨l, -, rfl⟩; simp [silent]))
  have hopen : Makes silent (openFile a.target) :=
    openFile_makes (by simp [silent]) (by simp [silent]) (by simp [silent])
      fun _ _ _ _ => by simp [silent]
  exact .bind hdirectories fun _ => .bind hopen fun l => a.fill_makes id l

theorem stream_goesOn (a : Attempt) (hm : m.openSince n ⊆ {id}) :
    m.GoesOn n ∅ (a.stream id m).2 := by
  have hsave := (a.save_makes id m).goesOn (by simp [silent]) (by simp [silent]) hm
  have hclosed := hsave.trans (closeConnection_goesOn hsave.openSince)
  rw [stream_apply, bind_of_ok (closeConnection_apply id _)]
  have hconclude : ∀ url result, Makes ∅ (a.conclude url result) := fun url result =>
    a.conclude_makes url result
  exact hclosed.trans
    ((hconclude _ _ _).goesOn (Set.notMem_empty _) (fun h => h.elim) hclosed.openSince)

theorem deliver_goesOn (hdeadline : a.HasDeadlineOn m) (hm : m.openSince n ⊆ ∅) :
    m.GoesOn n ∅ (a.deliver m).2 := by
  have harm : m.Leads (StepOf {.alarm}) (a.arm m).2 := a.arm_makes (by simp) m
  have harmed := harm.goesOn (by simp) (by simp) hm
  unfold deliver
  refine bind_ends (P := fun r => m.GoesOn n ∅ r.2) (fun e m₁ hm₁ => ?_) fun _ m₁ hm₁ => ?_
  · rwa [hm₁] at harmed
  rw [hm₁] at harm harmed
  have hrequested := harmed.trans (request_goesOn (hdeadline.leads harm) harmed.openSince)
  refine bind_ends (P := fun r => m.GoesOn n ∅ r.2) (fun e m₂ hm₂ => ?_) fun id m₂ hm₂ => ?_
  · rwa [hm₂] at hrequested
  rw [hm₂] at hrequested
  have hstreamed := hrequested.trans (a.stream_goesOn hrequested.openSince)
  refine bind_ends (P := fun r => m.GoesOn n ∅ r.2) (fun e m₃ hm₃ => ?_) fun _ m₃ hm₃ => ?_
  · rwa [hm₃] at hstreamed
  rw [hm₃] at hstreamed
  have hverify : m₃.Leads (StepOf checking) (a.verify m₃).2 :=
    a.verify_makes (by simp [checking]) (by simp [checking]) (by simp [checking]) m₃
  exact hstreamed.trans
    (hverify.goesOn (by simp [checking]) (by simp [checking]) hstreamed.openSince)

theorem run_goesOn (hdeadline : a.HasDeadlineOn m) (hm : m.openSince n ⊆ ∅) :
    m.GoesOn n ∅ (a.run m).2 := by
  have hdeliver := deliver_goesOn hdeadline hm
  exact hdeliver.trans ((a.run_leads (Path.leadsInto_univ _) m).goesOn
    (by simp [permitting, finishing]) (fun _ => rfl) hdeliver.openSince)

theorem perform_goesOn (hdeadline : a.HasDeadlineOn m) (hm : m.openSince n ⊆ ∅) :
    m.GoesOn n ∅ (a.perform m).2 := by
  have hrun := run_goesOn hdeadline hm
  rw [perform_apply]
  exact hrun.trans ((a.afterRun_leads (Path.leadsInto_univ _) _ _).goesOn
    (by simp [clearing]) (fun _ => rfl) hrun.openSince)

/-! ## The file -/

theorem fill_opened (a : Attempt) (id : Nat) (l : Location) (m : Machine) :
    (a.fill id l m).2.opened = m.opened.erase l := by
  have hpour : (afterOpening m).Leads (StepOf (pouring l)) (a.pour id l (afterOpening m)).2 :=
    a.pour_makes (subset_refl _) id _
  have hpoured : (a.pour id l (afterOpening m)).2.opened = m.opened :=
    hpour.opened_eq (by simp [pouring])
  rw [fill_apply]
  generalize a.pour id l (afterOpening m) = poured at hpoured ⊢
  have hleads : ∀ m' : Machine, m'.Leads (StepOf {.clock, .use .close})
      ((use .close none >>= fun _ => settle poured.1) m').2 :=
    Proceeds.bind (use_makes (by simp) (by simp) none) fun _ => .of_settle _
  have hclose : (closeFile l >>= fun _ => settle poured.1) poured.2 =
      (use .close none >>= fun _ => settle poured.1)
        { poured.2.onward with opened := poured.2.opened.erase l } := by
    unfold closeFile
    rw [bind_assoc]
    rfl
  rw [hclose, (hleads _).opened_eq (by simp), hpoured]

/-- The file that is opened for the body is closed when the body has ended. -/
theorem deliver_opened (a : Attempt) (m : Machine) : (a.deliver m).2.opened = m.opened := by
  have hdirectories := makeDirectoryFor_makes a.target
  rcases deliver_opening (R := fun l m₂ m' => m'.opened = m₂.opened.erase l) hdirectories
    (fun id _ _ _ l m₂ _ _ => a.fill_opened id l m₂)
    (fun l m₂ m' m'' h hleads => (hleads.opened_eq (by simp [checking])).trans h) m with
    ⟨hleads, -⟩ | ⟨m₁, l, m₂, hbefore, hopens, hclosed⟩
  · exact hleads.opened_eq (by simp [preparing, requesting, making])
  · rw [hclosed, hopens.opened, List.erase_cons_head]
    exact hbefore.opened_eq (by simp [preparing, requesting, making])

theorem perform_opened (a : Attempt) (m : Machine) : (a.perform m).2.opened = m.opened := by
  have hany := Path.leadsInto_univ a.target
  rw [perform_apply, (a.afterRun_leads hany _ _).opened_eq (by simp [clearing]),
    (a.run_leads hany m).opened_eq (by simp [permitting, finishing]), a.deliver_opened]

/-! ## The alarm -/

/-- The alarm is off when an attempt ends, whatever it removes after that. -/
theorem perform_alarm (a : Attempt) (m : Machine) : (a.perform m).2.transfer.alarm = .off := by
  rw [perform_apply, afterRun]
  have hoff : (disarm (a.report (a.run m).1 (a.run m).2).2).2.transfer.alarm = .off := rfl
  cases (a.run m).1 with
  | ok n => exact hoff
  | error fault =>
    have hremove : Makes {k | k ≠ .alarm} a.removePartial :=
      a.removePartial_makes (by simp) (by simp) (by simp) (by simp [Path.LeadsInto])
    exact (hremove _).keeps_holding (P := (·.transfer.alarm = .off))
      (fun _ hk _ _ hs => hs.alarm_off hk) hoff

end Attempt

/-! ## The download -/

/-- When no alarm is on, the passing of time changes nothing but the clock. -/
theorem Machine.advance_of_alarm_off {m : Machine} (h : m.transfer.alarm = .off) (micros : Nat) :
    (m.advance micros).toWorld = { m.toWorld with now := m.now + micros } := by
  unfold advance advanceTo ringBy
  rw [h]
  simp

/-- However a download ends, it has closed every connection that it has opened and the file that it
has written, and switched its alarm off, so that the passing of time then changes nothing but the
clock.  At each moment one of its connections at most is open, and none is when it sends a
request. -/
theorem Downloader.download_releases (d : Downloader) (url target : String) (timeout : Double)
    (m : Machine) :
    let n := m.network.connections.length
    let m' := (d.download url target timeout m).2
    m'.openSince n = ∅ ∧ m'.opened = m.opened ∧
    m'.transfer.alarm = .off ∧
    (∀ micros, (m'.advance micros).toWorld = { m'.toWorld with now := m'.now + micros }) ∧
    (∀ w ∈ (d.download url target timeout).moments m, (w.openSince n).Subsingleton) ∧
    ((d.download url target timeout).moments m).IsChain fun w w' =>
      w'.requests ≠ w.requests → w.openSince n = ∅ := by
  intro n m'
  have hnone : m.openSince n = ∅ := m.openSince_length
  have hend : m' = _ := congrArg Prod.snd (d.download_apply url target timeout m)
  set a := d.attemptOn url target timeout m
  have hbegin : m.Leads (Orderly n) (a.begin m).2 :=
    a.begin_leads (fun _ => ⟨fun hne => absurd rfl hne, fun h => h⟩)
      (fun _ _ => ⟨fun hne => absurd rfl hne, fun h => h⟩) m
  have hperform : (a.begin m).2.GoesOn n ∅ (a.perform (a.begin m).2).2 :=
    Attempt.perform_goesOn (d.hasDeadlineOn_begin url target timeout m) hnone.subset
  have halarm : m'.transfer.alarm = .off := by
    rw [hend]
    exact a.perform_alarm _
  have hopened : m'.opened = m.opened := by
    rw [hend]
    exact a.perform_opened _
  have hleads : m.Leads (Orderly n) m' := by
    rw [hend]
    exact hbegin.trans hperform.leads
  refine ⟨?_, hopened, halarm, Machine.advance_of_alarm_off halarm, fun w hw => ?_, ?_⟩
  · rw [hend]
    exact Set.subset_empty_iff.mp hperform.openSince
  · obtain ⟨k, hk, -, rfl⟩ := hleads.of_mem_momentsSince hw
    have hone : (m.openSince n).Subsingleton := by
      rw [hnone]
      exact Set.subsingleton_empty
    exact hk.keeps (S := fun w w' => (w.openSince n).Subsingleton → (w'.openSince n).Subsingleton)
      (fun _ h => h) (fun _ _ _ h h' => h' ∘ h) (fun _ _ h => h.one) hone
  · obtain ⟨ws, hthrough, hchain⟩ := hleads.through
    have hmoments : (d.download url target timeout).moments m = ws ++ [m'.toWorld] :=
      Machine.momentsSince_eq hthrough.past
    rw [hmoments]
    exact hchain.imp fun _ _ h => h.request

end ServerLauncher
