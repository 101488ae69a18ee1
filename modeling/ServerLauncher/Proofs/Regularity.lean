import ServerLauncher.Proofs.Failures

/-!
# Networks that fail as promised

The client that sends the requests promises that they fail only with failures of requests, and that
reading an answer fails with nothing else.  A network of which this is true stays so while a
download uses it: replies are taken off, connections are made of replies, and the chunks that a
connection has left are only ever fewer.  So what the stages of a download have to expect from the
network is known from the network as it is at the beginning.

This is a triple with two postconditions, one for the machine and one for the fault; actions in turn
keep the promise if each of them does.

## Main definitions

* `Network.IsRegular`: a network fails only with failures of requests.
* `MachineAction.Behaves`: on a machine with a regular network an action fails only with some
  faults, and leaves the network regular.

## Main statements

* `Machine.Leads.isRegular`: steps that neither send requests nor receive answers keep a network
  regular.
* `MachineAction.request_behaves`, `MachineAction.nextChunk_behaves`: the requests and the chunks.
* `Attempt.save_behaves`: the writing of a body fails with nothing that is not foreseen.
-/

namespace ServerLauncher

open MachineAction World StepKind

/-! ## Regular networks -/

/-- A chunk fails, if it does, with the failure of a request. -/
def Chunk.IsRegular (chunk : Chunk) : Prop := ∀ e, chunk.content = .error e → e.isRequest

/-- A request fails, if it does, with the failure of a request, and so does the reading of its
answer. -/
structure Reply.IsRegular (reply : Reply) : Prop where
  request (e : Fault) (h : reply.result = .error e) : e.isRequest
  body (r : Response) (h : reply.result = .ok r) : ∀ chunk ∈ r.chunks, chunk.IsRegular

namespace Network

/-- A network fails only with failures of requests. -/
structure IsRegular (n : Network) : Prop where
  replies : ∀ entry ∈ n.replies, ∀ reply ∈ entry.2, reply.IsRegular
  connections : ∀ c ∈ n.connections, ∀ chunk ∈ c.chunks, chunk.IsRegular

namespace IsRegular

variable {n : Network} {id : Nat} {c : Connection}

theorem connection? (h : n.IsRegular) (hc : n.connection? id = some c) :
    ∀ chunk ∈ c.chunks, chunk.IsRegular :=
  h.connections c (List.mem_of_getElem? hc)

/-- A connection changes without getting new chunks. -/
theorem change (h : n.IsRegular) (id : Nat) {f : Connection → Connection}
    (hf : ∀ c, (f c).chunks <:+ c.chunks) : (n.change id f).IsRegular := by
  refine ⟨h.replies, fun c hc chunk hchunk => ?_⟩
  obtain ⟨j, hj⟩ := List.mem_iff_getElem?.mp hc
  have hchanged : (n.connection? j).map (fun c => if id = j then f c else c) = some c :=
    (n.connection?_change id j f).symm.trans hj
  obtain ⟨c', hc', rfl⟩ := Option.map_eq_some_iff.mp hchanged
  refine h.connection? hc' chunk ?_
  split_ifs at hchunk
  · exact (hf c').mem hchunk
  · exact hchunk

/-- A connection is made with the answer to a request. -/
theorem connect (h : n.IsRegular) (url : String) {r : Response}
    (hr : ∀ chunk ∈ r.chunks, chunk.IsRegular) : (n.connect url r).2.IsRegular := by
  refine ⟨h.replies, fun c hc => ?_⟩
  rcases List.mem_append.mp hc with hold | hnew
  · exact h.connections c hold
  · cases List.mem_singleton.mp hnew
    exact hr

/-- Nobody answering is a failure of a request, too. -/
theorem isRegular_unknownAddress : unknownAddress.IsRegular where
  request e h := by
    cases h
    rfl
  body r h := by cases h

/-- A reply is taken off those that are to come. -/
theorem next (h : n.IsRegular) (url : String) :
    (n.next url).1.IsRegular ∧ (n.next url).2.IsRegular := by
  unfold Network.next
  split
  · exact ⟨isRegular_unknownAddress, h⟩
  · exact ⟨isRegular_unknownAddress, h⟩
  · next reply hreplies =>
    obtain ⟨before, after, heq, -⟩ := List.lookup_eq_some_iff.mp hreplies
    have hmem : (url, [reply]) ∈ n.replies := by simp [heq]
    exact ⟨h.replies _ hmem reply (by simp), h⟩
  · next reply rest _ hreplies =>
    obtain ⟨before, after, heq, -⟩ := List.lookup_eq_some_iff.mp hreplies
    have hmem : (url, reply :: rest) ∈ n.replies := by simp [heq]
    refine ⟨h.replies _ hmem reply (by simp), ⟨fun entry hentry => ?_, h.connections⟩⟩
    obtain ⟨old, hold, rfl⟩ := List.mem_map.mp hentry
    split_ifs
    · exact fun later hlater => h.replies _ hmem later (List.mem_cons_of_mem _ hlater)
    · exact h.replies old hold

end IsRegular

end Network

/-- Only sending requests and receiving answers could bring in what is not regular. -/
theorem World.Step.isRegular {w w' : World} {k : StepKind} (h : w.Step k w')
    (hnetwork : k ≠ .network) (hanswer : k ≠ .answer) (hregular : w.network.IsRegular) :
    w'.network.IsRegular := by
  cases h with
  | ring t network events records _ hring =>
    rcases hring with rfl | ⟨id, -, rfl⟩
    · exact hregular
    · exact hregular.change id fun _ => List.suffix_refl _
  | reply | close => exact absurd rfl hnetwork
  | connect => exact absurd rfl hanswer
  | take id => exact hregular.change id fun _ => List.tail_suffix _
  | _ => exact hregular

theorem Machine.Leads.isRegular {ks : Set StepKind} {m m' : Machine}
    (h : m.Leads (StepOf ks) m') (hnetwork : .network ∉ ks) (hanswer : .answer ∉ ks)
    (hregular : m.network.IsRegular) : m'.network.IsRegular :=
  h.keeps_holding (P := (·.network.IsRegular))
    (fun _ hk _ _ hs =>
      hs.isRegular (fun heq => hnetwork (heq ▸ hk)) fun heq => hanswer (heq ▸ hk)) hregular

/-- Servers that send no failures make a regular network. -/
theorem Machine.isRegular_answering {files : FileTree} {answers : List (String × Response)}
    (h : ∀ answer ∈ answers, ∀ chunk ∈ answer.2.chunks, chunk.IsRegular) :
    (Machine.answering files answers).network.IsRegular where
  replies entry hentry reply hreply := by
    obtain ⟨answer, hanswer, rfl⟩ := List.mem_map.mp hentry
    cases List.mem_singleton.mp hreply
    refine ⟨fun e hresult => (by cases hresult), fun r hresult => ?_⟩
    cases hresult
    exact h answer hanswer
  connections c hc := by cases hc

namespace MachineAction

/-! ## Actions -/

/-- On a machine with a regular network an action fails only with faults of a given kind, and leaves
the network regular. -/
abbrev Behaves {α : Type} (Q : Fault → Prop) (x : MachineAction α) : Prop :=
  Guarantees (·.network.IsRegular) Q x

/-! ### The network -/

/-- Sending a request and receiving its answer. -/
theorem request_behaves (e : Event) (url : String) : Behaves (·.isRequest) (request e url) := by
  refine .bind (.of_change fun _ hm => hm) fun _ m hm => ?_
  obtain ⟨hreply, hnext⟩ := hm.next url
  rw [observe_bind_apply, change_bind_apply]
  have hpass : Behaves (·.isRequest) (pass (m.network.next url).1.delay) :=
    .of_change fun m hm => (pass_makes (Set.mem_singleton _) _ m).isRegular (by simp) (by simp) hm
  refine Guarantees.bind hpass (fun _ => ?_) _ hnext
  rcases hresult : (m.network.next url).1.result with fault | r
  · exact .of_throw (hreply.request fault hresult)
  · exact .bind (.of_observe _) fun id =>
      .bind (.of_change fun _ hm => hm.connect url (hreply.body r hresult)) fun _ => .of_pure _

theorem closeConnection_behaves {Q : Fault → Prop} (id : Nat) :
    Behaves Q (closeConnection id) := by
  refine .bind (.of_observe _) fun c => ?_
  rcases c with _ | c
  · exact .of_pure _
  · have hclose : ∀ m : Machine, m.network.IsRegular →
        (m.network.change id fun c => { c with isClosed := true }).IsRegular :=
      fun _ hm => hm.change id fun _ => List.suffix_refl _
    exact .ite (.of_pure _) (.bind (.of_change hclose) fun _ => .of_change fun _ hm => hm)

/-- A chunk is read, or the connection is found to be shut down. -/
theorem takeChunk_behaves (id : Nat) (effect : ShutdownEffect) {chunk : Chunk}
    (hchunk : chunk.IsRegular) : Behaves (·.isRequest) (takeChunk id effect chunk) := by
  refine .bind (.of_observe _) fun isCut => .ite ?_ ?_
  · cases effect with
    | failure => exact .of_throw rfl
    | none | endOfBody => exact .of_pure _
  · refine .bind (.of_change fun _ hm => hm.change id fun _ => List.tail_suffix _) fun _ m hm =>
      ⟨hm, fun e h => hchunk e ?_⟩
    rcases hcontent : chunk.content with fault | bytes
    · rw [settle_apply, hcontent] at h
      exact congrArg _ (Except.error.inj h)
    · rw [settle_apply, hcontent] at h
      cases h

theorem nextChunk_behaves (id : Nat) : Behaves (·.isRequest) (nextChunk id) := by
  intro m hm
  unfold nextChunk
  rw [MachineAction.connection?, observe_bind_apply]
  have hend : Behaves (·.isRequest) (pure none : MachineAction (Option ByteArray)) := .of_pure _
  rcases hc : m.network.connection? id with _ | c
  · exact hend m hm
  dsimp only
  rcases hchunks : c.chunks with _ | ⟨chunk, rest⟩
  · exact hend m hm
  have htake := takeChunk_behaves id c.response.onShutdown
    (hm.connection? hc chunk (by simp [hchunks]))
  have hwait : Behaves (·.isRequest) (wait id chunk.delay) :=
    .of_change fun m hm =>
      (wait_makes (Set.mem_singleton _) id _ m).isRegular (by simp) (by simp) hm
  exact Guarantees.bind (.of_observe _) (fun _ => .ite (.bind hwait fun _ => htake) htake) m hm

end MachineAction

/-! ## The body -/

/-- Using files leaves a network regular. -/
theorem Machine.lasts_isRegular : Lasts (·.network.IsRegular) where
  elsewhere {m m'} h hm := by
    have hnetwork : m'.network = m.network := congrArg (·.2.2.2.1) h
    rwa [hnetwork]
  delay {m d} _ hm :=
    (pass_makes (Set.mem_singleton _) d.delay m).isRegular (by simp) (by simp) hm

namespace Attempt

variable {a : Attempt}

/-- The faults that the stage which writes a body can meet with. -/
inductive Foresees (a : Attempt) : Fault → Prop where
  | late : Foresees a (a.timeoutFault none)
  | request {e : Fault} (h : e.isRequest) : Foresees a e
  | files {e : Fault} (h : Fault.IsOfFiles (Path.holdsNull a.target) e) : Foresees a e

/-- The writing of a body fails with nothing that is not foreseen. -/
theorem save_behaves (a : Attempt) (id : Nat) : Behaves a.Foresees (a.save id) :=
  save_guarantees Machine.lasts_isRegular (fun _ => .files) .late
    ((nextChunk_behaves id).mono fun _ => .request)

end Attempt

end ServerLauncher
