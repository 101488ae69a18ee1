import ServerLauncher.Proofs.Answers

/-!
# Writing a body

While a body is written, the file holds the bytes of the chunks that have been read from the
connection, and their number has been counted.  This is the invariant of the loop; each turn of it
either ends the loop or restores the invariant.

## Main definitions

* `Chunk.bytes`, `bytesOf`: the bytes of chunks in turn.
* `Connection.received`, `World.received`: the bytes that have been read from a connection.
* `Attempt.Turn`: what one turn of the loop does.
* `Attempt.Pouring`: the invariant.

## Main statements

* `Attempt.copy_turn`: the loop is made of turns.
* `Attempt.Pouring.turn`: a turn after which the loop goes on restores the invariant.
* `Attempt.copy_eq_ok`: a loop that ends well has written the whole body.
-/

namespace ServerLauncher

open MachineAction World StepKind

/-! ## Bytes -/

/-- The bytes of a chunk; a failure has none. -/
def Chunk.bytes (c : Chunk) : ByteArray :=
  match c.content with
  | .ok bytes => bytes
  | .error _ => .empty

/-- The bytes of chunks in turn. -/
def bytesOf : List Chunk → ByteArray
  | [] => .empty
  | c :: rest => c.bytes ++ bytesOf rest

theorem bytesOf_append (cs ds : List Chunk) : bytesOf (cs ++ ds) = bytesOf cs ++ bytesOf ds := by
  induction cs with
  | nil => exact ByteArray.empty_append.symm
  | cons c cs ih => rw [List.cons_append, bytesOf, ih, bytesOf, ByteArray.append_assoc]

namespace Connection

/-- The chunks that have been read. -/
def taken (c : Connection) : List Chunk :=
  c.response.chunks.take (c.response.chunks.length - c.chunks.length)

/-- The bytes that have been read. -/
def received (c : Connection) : ByteArray := bytesOf c.taken

theorem taken_append {c : Connection} (h : c.chunks <:+ c.response.chunks) :
    c.taken ++ c.chunks = c.response.chunks := by
  obtain ⟨before, hbefore⟩ := h
  unfold taken
  rw [← hbefore]
  simp

theorem taken_eq {c : Connection} {before : List Chunk}
    (h : before ++ c.chunks = c.response.chunks) :
    c.taken = before := by
  unfold taken
  rw [← h]
  simp

/-- What has been read later begins with what has been read before. -/
theorem Precedes.received {c c' : Connection} (h : c.Precedes c') :
    ∃ rest, c'.received = c.received ++ rest := by
  have hlength : c'.chunks.length ≤ c.chunks.length := h.chunks.length_le
  have hprefix : c.taken <+: c'.taken := by
    unfold taken
    rw [h.response]
    exact List.take_prefix_take_left (by omega)
  obtain ⟨more, hmore⟩ := hprefix
  exact ⟨bytesOf more, by rw [Connection.received, ← hmore, bytesOf_append]; rfl⟩

end Connection

/-- The bytes that have been read from the connection that the transfer holds. -/
def World.received (w : World) : ByteArray :=
  match w.transfer.connection.bind w.network.connection? with
  | some c => c.received
  | none => .empty

theorem World.received_eq {w : World} {id : Nat} {c : Connection}
    (hheld : w.transfer.connection = some id) (hc : w.network.connection? id = some c) :
    w.received = c.received := by
  simp only [received, hheld, Option.bind_some, hc]

/-! ## Chunks -/

namespace MachineAction

variable {ks : Set StepKind} {m : Machine}

/-- The machine whose next chunk has been read from a connection. -/
def afterTaking (id : Nat) (m : Machine) : Machine :=
  { m.onward with network := m.network.change id fun c => { c with chunks := c.chunks.tail } }

theorem afterTaking_leads (hk : .reading ∈ ks) (id : Nat) (m : Machine) :
    m.Leads (StepOf ks) (afterTaking id m) :=
  .step rfl ((Step.take id).of hk)

theorem takeChunk_cases (id : Nat) (effect : ShutdownEffect) (chunk : Chunk) (m : Machine) :
    (∃ e, takeChunk id effect chunk m = (.error e, m)) ∨
    (takeChunk id effect chunk m = (.ok none, m) ∧ isCut m id) ∨
    takeChunk id effect chunk m = (chunk.content.map some, afterTaking id m) := by
  unfold takeChunk
  rw [observe_bind_apply]
  split_ifs with hcut
  · cases effect with
    | failure => exact .inl ⟨_, rfl⟩
    | none | endOfBody => exact .inr (.inl ⟨rfl, hcut⟩)
  · exact .inr (.inr rfl)

/-- A reader fails, sees the end of the body, or gets the next chunk. -/
theorem nextChunk_cases (hk : .clock ∈ ks) {id : Nat} {c : Connection}
    (hc : m.network.connection? id = some c) :
    ∃ m₁, m.Leads (StepOf ks) m₁ ∧ ((∃ e, nextChunk id m = (.error e, m₁)) ∨
      (nextChunk id m = (.ok none, m₁) ∧ (c.chunks = [] ∨ isCut m₁ id)) ∨
      ∃ chunk rest, c.chunks = chunk :: rest ∧
        nextChunk id m = (chunk.content.map some, afterTaking id m₁)) := by
  unfold nextChunk
  rw [MachineAction.connection?, observe_bind_apply, hc]
  dsimp only
  rcases hchunks : c.chunks with _ | ⟨chunk, rest⟩
  · exact ⟨m, .refl m, .inr (.inl ⟨rfl, .inl rfl⟩)⟩
  · dsimp only
    rw [observe_bind_apply]
    -- Whether there was a wait or not, what follows is the same.
    obtain ⟨m₁, hleads, heq⟩ : ∃ m₁, m.Leads (StepOf ks) m₁ ∧
        (if !isCut m id then do
          wait id chunk.delay
          takeChunk id c.response.onShutdown chunk
        else takeChunk id c.response.onShutdown chunk) m =
          takeChunk id c.response.onShutdown chunk m₁ := by
      split_ifs
      · exact ⟨_, wait_makes hk id chunk.delay m, rfl⟩
      · exact ⟨m, .refl m, rfl⟩
    refine ⟨m₁, hleads, ?_⟩
    rcases takeChunk_cases id c.response.onShutdown chunk m₁ with ⟨e, he⟩ | ⟨hend, hcut⟩ | htaken
    · exact .inl ⟨e, heq.trans he⟩
    · exact .inr (.inl ⟨heq.trans hend, .inr hcut⟩)
    · exact .inr (.inr ⟨chunk, rest, rfl, heq.trans htaken⟩)

/-- The machine whose file has been added to. -/
def afterAppending (l : Location) (bytes : ByteArray) (m : Machine) : Machine :=
  { m.onward with files := m.files.append l bytes }

end MachineAction

namespace Attempt

variable {a : Attempt} {id : Nat} {l : Location} {c : Connection} {m : Machine}

/-- The machine whose transfer has counted more bytes. -/
def afterCounting (n : Nat) (m : Machine) : Machine :=
  { m.onward with transfer := { m.transfer with written := m.transfer.written + n } }

/-- What the writing of a chunk comes to: nothing is written, or the chunk is added and counted, and
the number of megabytes is reported if it is higher. -/
theorem writeChunk_apply (l : Location) (reported : Nat) (bytes : ByteArray) (m : Machine) :
    writeChunk l reported bytes m = match use .write none m with
      | (.error e, m₁) => (.error e, m₁)
      | (.ok (), m₁) =>
        let added := afterCounting bytes.size (afterAppending l bytes m₁)
        let megabytes := (m₁.transfer.written + bytes.size) / megabyte
        if reported < megabytes then
          (.ok megabytes, added.onward.record .info .download
            ("Downloaded " ++ toString megabytes ++ " MB..."))
        else (.ok reported, added) := by
  unfold writeChunk writeFile
  rcases hm : use .write none m with ⟨e | _, m₁⟩
  · rw [bind_of_error (bind_of_error hm)]
  · rw [bind_of_ok ((bind_of_ok hm).trans (change_apply _ _)), updateTransfer, change_bind_apply,
      get_bind_apply]
    exact apply_ite (fun x : MachineAction Nat =>
      x (afterCounting bytes.size (afterAppending l bytes m₁))) _ _ _

theorem writeChunk_cases (l : Location) (reported : Nat) (bytes : ByteArray) (m : Machine) :
    ∃ m₁, m.Leads (StepOf {.clock, .use .write}) m₁ ∧
      ((∃ e, writeChunk l reported bytes m = (.error e, m₁)) ∨ ∃ m₂ reported',
        (afterCounting bytes.size (afterAppending l bytes m₁)).Leads (StepOf {.note}) m₂ ∧
        writeChunk l reported bytes m = (.ok reported', m₂)) := by
  have huse : m.Leads (StepOf {.clock, .use .write}) (use .write none m).2 :=
    use_makes (by simp) (by simp) none m
  rw [writeChunk_apply]
  rcases hm : use .write none m with ⟨e | _, m₁⟩
  · rw [hm] at huse
    exact ⟨m₁, huse, .inl ⟨e, rfl⟩⟩
  · rw [hm] at huse
    refine ⟨m₁, huse, .inr ?_⟩
    dsimp only
    split_ifs
    · exact ⟨_, _, (record_makes (by simp) _ _ _).leads (change_apply _ _), rfl⟩
    · exact ⟨_, reported, .refl _, rfl⟩

/-! ## Turns -/

/-- A chunk has been read in time. -/
structure Reads (a : Attempt) (id : Nat) (c : Connection) (m : Machine) (bytes : ByteArray)
    (m' : Machine) : Prop where
  chunks : ∃ chunk rest, c.chunks = chunk :: rest ∧ chunk.content = .ok bytes
  leads : ∃ m₁, m.Leads (StepOf {.clock}) m₁ ∧ m' = afterTaking id m₁
  inTime : a.isExpiredAt m'.toWorld = false

/-- What one turn of the loop does, and the end of the loop if there is one. -/
inductive Turn (a : Attempt) (id : Nat) (l : Location) (c : Connection) (m : Machine) :
    Option (Except Fault Unit) → Machine → Prop where
  /-- The end of the body is seen in time. -/
  | ended (m₁ : Machine) (h : m.Leads (StepOf {.clock}) m₁)
      (hinTime : a.isExpiredAt m₁.toWorld = false) (hend : c.chunks = [] ∨ isCut m₁ id) :
      Turn a id l c m (some (.ok ())) m₁
  /-- Nothing is read. -/
  | failed (e : Fault) (m₁ : Machine) (h : m.Leads (StepOf {.clock}) m₁) :
      Turn a id l c m (some (.error e)) m₁
  /-- A failure is read, or a chunk too late. -/
  | dropped (e : Fault) (m₁ : Machine) (h : m.Leads (StepOf {.clock}) m₁) :
      Turn a id l c m (some (.error e)) (afterTaking id m₁)
  /-- An empty chunk is read. -/
  | skipped (bytes : ByteArray) (m₁ : Machine) (h : a.Reads id c m bytes m₁)
      (hempty : bytes.size = 0) : Turn a id l c m none m₁
  /-- A chunk is read but not written. -/
  | unwritten (e : Fault) (bytes : ByteArray) (m₁ m₂ : Machine) (h : a.Reads id c m bytes m₁)
      (hwrite : m₁.Leads (StepOf {.clock, .use .write}) m₂) : Turn a id l c m (some (.error e)) m₂
  /-- A chunk is read and written. -/
  | written (bytes : ByteArray) (m₁ m₂ m₃ : Machine) (h : a.Reads id c m bytes m₁)
      (hwrite : m₁.Leads (StepOf {.clock, .use .write}) m₂)
      (hcount : (afterCounting bytes.size (afterAppending l bytes m₂)).Leads (StepOf {.note}) m₃) :
      Turn a id l c m none m₃

theorem checkDeadline_cases (m : Machine) :
    (∃ e, a.checkDeadline m = (.error e, m)) ∨
    (a.checkDeadline m = (.ok (), m) ∧ a.isExpiredAt m.toWorld = false) := by
  unfold checkDeadline
  rw [isExpired, observe_bind_apply]
  split_ifs with hexpired
  · exact .inl ⟨_, rfl⟩
  · exact .inr ⟨rfl, by simpa using hexpired⟩

/-- The loop is made of turns. -/
theorem copy_turn (hc : m.network.connection? id = some c) (n reported : Nat) :
    (∃ result m', a.Turn id l c m (some result) m' ∧
      a.copy id l (n + 1) reported m = (result, m')) ∨
    ∃ m' reported', a.Turn id l c m none m' ∧
      a.copy id l (n + 1) reported m = a.copy id l n reported' m' := by
  rw [copy]
  obtain ⟨m₁, hleads, ⟨e, heq⟩ | ⟨heq, hend⟩ | ⟨chunk, rest, hchunks, heq⟩⟩ :
      ∃ m₁, m.Leads (StepOf {.clock}) m₁ ∧ _ := nextChunk_cases (by simp) hc
  · rw [bind_of_error heq]
    exact .inl ⟨_, _, .failed e m₁ hleads, rfl⟩
  · rw [bind_of_ok heq]
    dsimp only
    rcases a.checkDeadline_cases m₁ with ⟨e, he⟩ | ⟨hok, hinTime⟩
    · rw [he]
      exact .inl ⟨_, _, .failed e m₁ hleads, rfl⟩
    · rw [hok]
      exact .inl ⟨_, _, .ended m₁ hleads hinTime hend, rfl⟩
  · rcases hcontent : chunk.content with e | bytes
    · rw [hcontent] at heq
      rw [bind_of_error heq]
      exact .inl ⟨_, _, .dropped e m₁ hleads, rfl⟩
    · rw [hcontent] at heq
      rw [bind_of_ok heq]
      dsimp only
      rcases a.checkDeadline_cases (afterTaking id m₁) with ⟨e, he⟩ | ⟨hok, hinTime⟩
      · rw [bind_of_error he]
        exact .inl ⟨_, _, .dropped e m₁ hleads, rfl⟩
      · have hreads : a.Reads id c m bytes (afterTaking id m₁) :=
          ⟨⟨chunk, rest, hchunks, hcontent⟩, ⟨m₁, hleads, rfl⟩, hinTime⟩
        rw [bind_of_ok hok]
        split_ifs with hempty
        · exact .inr ⟨_, reported, .skipped bytes _ hreads hempty, rfl⟩
        · obtain ⟨m₂, hwrite, ⟨e, he⟩ | ⟨m₃, reported', hcount, heq'⟩⟩ :=
            writeChunk_cases l reported bytes (afterTaking id m₁)
          · rw [bind_of_error he]
            exact .inl ⟨_, _, .unwritten e bytes _ m₂ hreads hwrite, rfl⟩
          · rw [bind_of_ok heq']
            exact .inr ⟨m₃, reported', .written bytes _ m₂ m₃ hreads hwrite hcount, rfl⟩

/-! ## The invariant -/

/-- The file holds the bytes that have been read from the connection that the transfer holds, except
those that it lags behind, and their number has been counted.  A connection that was shut down
belongs to an expired transfer. -/
structure Pouring (id : Nat) (l : Location) (mode : Nat) (lag : ByteArray) (c : Connection)
    (w : World) : Prop where
  held : w.transfer.connection = some id
  connection? : w.network.connection? id = some c
  suffix : c.chunks <:+ c.response.chunks
  complete : ∀ chunk ∈ c.taken, ∃ bytes, chunk.content = .ok bytes
  shut : c.isShut → w.transfer.hasExpired
  content : ∃ content, c.received = content ++ lag ∧
    w.files.get? l = some (.file content mode) ∧ w.transfer.written = content.size

/-- The kinds of steps that have nothing to do with the reading and writing of a body. -/
def Idle (l : Location) (ks : Set StepKind) : Prop :=
  .reading ∉ ks ∧ .holding ∉ ks ∧ .counting ∉ ks ∧ ∀ k ∈ ks, k.location? ≠ some l

namespace Pouring

variable {mode : Nat} {lag bytes : ByteArray} {ks : Set StepKind} {m' : Machine}

/-- What has nothing to do with the body keeps the invariant. -/
theorem leads (h : Pouring id l mode lag c m.toWorld) (hleads : m.Leads (StepOf ks) m')
    (hks : Idle l ks) :
    ∃ c', Pouring id l mode lag c' m'.toWorld ∧ c'.chunks = c.chunks ∧
      c'.response = c.response := by
  obtain ⟨hreading, hholding, hcounting, hlocation⟩ := hks
  obtain ⟨c', hc', hcc', hchunks, hshut⟩ := hleads.connection? h.connection?
  have hsame : c'.chunks = c.chunks := hchunks hreading
  have htaken : c'.taken = c.taken := by rw [Connection.taken, hcc'.response, hsame]; rfl
  have hreceived : c'.received = c.received := by rw [Connection.received, htaken]; rfl
  obtain ⟨content, hcontent, hentry, hwritten⟩ := h.content
  refine ⟨c', ⟨(hleads.connection_eq hholding).trans h.held, hc', ?_, ?_, ?_, content, ?_, ?_, ?_⟩,
    hsame, hcc'.response⟩
  · rw [hsame, hcc'.response]
    exact h.suffix
  · rw [htaken]
    exact h.complete
  · intro hc'shut
    rcases hshut hc'shut with hcshut | hexpired
    · exact hleads.precedes.hasExpired (h.shut hcshut)
    · exact hexpired
  · rw [hreceived]
    exact hcontent
  · rw [hleads.get?_eq hlocation]
    exact hentry
  · rw [hleads.written_eq hcounting]
    exact hwritten

/-- After a chunk has been read the file lags behind by it. -/
theorem reads (h : Pouring id l mode .empty c m.toWorld) (hreads : a.Reads id c m bytes m') :
    ∃ c', Pouring id l mode bytes c' m'.toWorld ∧ c'.response = c.response ∧
      c'.chunks.length < c.chunks.length := by
  obtain ⟨m₁, hleads, rfl⟩ := hreads.leads
  obtain ⟨chunk, rest, hchunks, hok⟩ := hreads.chunks
  obtain ⟨c₁, h₁, hsame, hresponse⟩ := h.leads hleads (by simp [Idle, location?])
  rw [hchunks] at hsame
  have hall : c₁.taken ++ chunk :: rest = c₁.response.chunks := by
    rw [← hsame]
    exact Connection.taken_append h₁.suffix
  set c' : Connection := { c₁ with chunks := c₁.chunks.tail } with hc'
  have hrest : c'.chunks = rest := by rw [hc', hsame]; rfl
  have htaken : c'.taken = c₁.taken ++ [chunk] := by
    refine Connection.taken_eq ?_
    rw [hrest, List.append_assoc, List.singleton_append]
    exact hall
  obtain ⟨content, hcontent, hentry, hwritten⟩ := h₁.content
  rw [ByteArray.append_empty] at hcontent
  refine ⟨c', ⟨h₁.held, ?_, ?_, ?_, h₁.shut, content, ?_, hentry, hwritten⟩, hresponse, ?_⟩
  · rw [afterTaking, Network.connection?_change]
    exact (congrArg _ h₁.connection?).trans (by simp [hc'])
  · exact (List.tail_suffix _).trans h₁.suffix
  · intro chunk' hmem
    rw [htaken, List.mem_append, List.mem_singleton] at hmem
    rcases hmem with hmem | rfl
    · exact h₁.complete chunk' hmem
    · exact ⟨bytes, hok⟩
  · rw [Connection.received, htaken, bytesOf_append, ← hcontent]
    simp [bytesOf, Chunk.bytes, hok, Connection.received, ByteArray.append_empty]
  · rw [hrest, hchunks]
    simp

/-- A chunk that is written is not lacking any more. -/
theorem writes (h : Pouring id l mode bytes c m.toWorld) :
    Pouring id l mode .empty c (afterCounting bytes.size (afterAppending l bytes m)).toWorld := by
  obtain ⟨content, hcontent, hentry, hwritten⟩ := h.content
  refine ⟨h.held, h.connection?, h.suffix, h.complete, h.shut, c.received, ?_, ?_, ?_⟩
  · exact ByteArray.append_empty.symm
  · refine (FileTree.get?_append bytes).trans ?_
    rw [if_pos rfl, hentry, hcontent]
    rfl
  · rw [hcontent, ByteArray.size_append, ← hwritten]
    rfl

/-- A turn after which the loop goes on restores the invariant. -/
theorem turn (h : Pouring id l mode .empty c m.toWorld) (hturn : a.Turn id l c m none m') :
    ∃ c', Pouring id l mode .empty c' m'.toWorld ∧ c'.response = c.response ∧
      c'.chunks.length < c.chunks.length := by
  cases hturn with
  | skipped bytes _ hreads hempty =>
    obtain ⟨c', h', hresponse, hlength⟩ := h.reads hreads
    rw [ByteArray.size_eq_zero_iff.mp hempty] at h'
    exact ⟨c', h', hresponse, hlength⟩
  | written bytes _ m₂ _ hreads hwrite hcount =>
    obtain ⟨c₁, h₁, hresponse, hlength⟩ := h.reads hreads
    obtain ⟨c₂, h₂, hsame, hresponse'⟩ := h₁.leads hwrite (by simp [Idle, location?])
    obtain ⟨c₃, h₃, hsame', hresponse''⟩ := h₂.writes.leads hcount (by simp [Idle, location?])
    refine ⟨c₃, h₃, (hresponse''.trans hresponse').trans hresponse, ?_⟩
    rw [hsame', hsame]
    exact hlength

end Pouring

/-- A loop that ends well has written the whole body, in time. -/
theorem copy_eq_ok {mode : Nat} {m' : Machine} (n : Nat) :
    ∀ {reported : Nat} {m : Machine} {c : Connection}, Pouring id l mode .empty c m.toWorld →
      c.chunks.length < n → a.copy id l n reported m = (.ok (), m') →
      ∃ c', Pouring id l mode .empty c' m'.toWorld ∧ c'.response = c.response ∧ c'.chunks = [] := by
  induction n with
  | zero => exact fun _ hlength => absurd hlength (Nat.not_lt_zero _)
  | succ n ih =>
    intro reported m c h hlength hcopy
    rcases a.copy_turn h.connection? n reported with
      ⟨result, m₁, hturn, heq⟩ | ⟨m₁, reported', hturn, heq⟩
    · rw [heq] at hcopy
      cases hcopy
      cases hturn with
      | ended _ hleads hinTime hend =>
        obtain ⟨c', h', hsame, hresponse⟩ := h.leads hleads (by simp [Idle, location?])
        refine ⟨c', h', hresponse, ?_⟩
        rcases hend with hnil | hcut
        · rw [hsame, hnil]
        · -- A reader is cut off only after the transfer has expired.
          rw [isCut, h'.connection?] at hcut
          rw [isExpiredAt, Bool.or_eq_false_iff] at hinTime
          have hexpired := h'.shut (Bool.and_eq_true_iff.mp hcut).1
          rw [hinTime.1] at hexpired
          cases hexpired
    · obtain ⟨c₁, h₁, hresponse, hless⟩ := h.turn hturn
      rw [heq] at hcopy
      obtain ⟨c', h', hresponse', hnil⟩ := ih h₁ (by omega) hcopy
      exact ⟨c', h', hresponse'.trans hresponse, hnil⟩

end Attempt

end ServerLauncher
