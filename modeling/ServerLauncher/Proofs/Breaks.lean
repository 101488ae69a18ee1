import ServerLauncher.Proofs.Setbacks

/-!
# What breaks off the writing of a body

While a body is written, chunks are read and written in turn until something goes wrong, and the
file is closed whatever has happened.  Closing it may fail, too; its error then takes the place of
the one that broke off the loop, so that the latter is never heard of.

The loop is broken off after some chunks that were read in time and written.  This is an inductive
relation with one constructor for each way to go wrong and one for each way to go on; the loop is
shown to fail exactly when the relation holds.

## Main definitions

* `Attempt.Interruption`: the deadline or a fault.
* `Attempt.CopyBreaks`, `Attempt.PourBreaks`, `Attempt.SaveBreaks`: the loop, the reading of an
  answer and the making of the whole file are broken off.
* `Attempt.StreamMeets`: the setbacks of the body.

## Main statements

* `Attempt.copy_eq_error`: the loop fails exactly when it is broken off.
* `Attempt.save_eq_error`: so does the making of the file.
* `Attempt.stream_eq_error`: the stage that writes the body fails of the setbacks that it meets
  with.
-/

namespace ServerLauncher

open MachineAction World StepKind

namespace Attempt

/-- What breaks off the writing of a body: a deadline that is found to have passed, or a fault. -/
inductive Interruption where
  | late
  | error (fault : Fault)

/-- The fault that an interruption shows as. -/
def Interruption.raised (a : Attempt) : Interruption → Fault
  | late => a.timeoutFault none
  | error fault => fault

variable {a : Attempt} {id : Nat} {l : Location} {c : Connection} {m m' : Machine} {e : Fault}

/-! ## The loop -/

/-- The loop over the chunks is broken off, after any number of chunks that were read in time. -/
inductive CopyBreaks (a : Attempt) (id : Nat) (l : Location) :
    Nat → Machine → Interruption → Machine → Prop where
  /-- Reading fails. -/
  | unread {reported : Nat} {m m' : Machine} {fault : Fault}
      (h : nextChunk id m = (.error fault, m')) : CopyBreaks a id l reported m (.error fault) m'
  /-- A chunk or the end of the body comes too late. -/
  | late {reported : Nat} {m m' : Machine} {chunk : Option ByteArray}
      (h : nextChunk id m = (.ok chunk, m')) (hlate : a.isExpiredAt m'.toWorld) :
      CopyBreaks a id l reported m .late m'
  /-- Writing fails. -/
  | unwritten {reported : Nat} {m m₁ m' : Machine} {bytes : ByteArray} {fault : Fault}
      (h : nextChunk id m = (.ok (some bytes), m₁)) (hinTime : a.isExpiredAt m₁.toWorld = false)
      (hbytes : bytes.size ≠ 0) (hwrite : writeChunk l reported bytes m₁ = (.error fault, m')) :
      CopyBreaks a id l reported m (.error fault) m'
  /-- An empty chunk is left out, and the loop goes on. -/
  | skipped {reported : Nat} {m m₁ m' : Machine} {bytes : ByteArray} {i : Interruption}
      (h : nextChunk id m = (.ok (some bytes), m₁)) (hinTime : a.isExpiredAt m₁.toWorld = false)
      (hempty : bytes.size = 0) (hrest : CopyBreaks a id l reported m₁ i m') :
      CopyBreaks a id l reported m i m'
  /-- A chunk is written, and the loop goes on. -/
  | written {reported reported' : Nat} {m m₁ m₂ m' : Machine} {bytes : ByteArray}
      {i : Interruption} (h : nextChunk id m = (.ok (some bytes), m₁))
      (hinTime : a.isExpiredAt m₁.toWorld = false) (hbytes : bytes.size ≠ 0)
      (hwrite : writeChunk l reported bytes m₁ = (.ok reported', m₂))
      (hrest : CopyBreaks a id l reported' m₂ i m') : CopyBreaks a id l reported m i m'

/-- A chunk that is read is the first one of the connection, and missing from it from then on. -/
theorem nextChunk_takes {bytes : ByteArray} (hc : m.network.connection? id = some c)
    (h : nextChunk id m = (.ok (some bytes), m')) :
    ∃ chunk c', c.chunks = chunk :: c'.chunks ∧ chunk.content = .ok bytes ∧
      m'.network.connection? id = some c' := by
  obtain ⟨m₁, hleads, ⟨e, he⟩ | ⟨hend, -⟩ | ⟨chunk, rest, hchunks, htaken⟩⟩ :
      ∃ m₁, m.Leads (StepOf {.clock}) m₁ ∧ _ := nextChunk_cases (by simp) hc
  · rw [h] at he
    cases he
  · rw [h] at hend
    cases hend
  · rw [h] at htaken
    obtain ⟨hcontent, rfl⟩ := Prod.mk.inj htaken
    obtain ⟨c₁, hc₁, -, hsame, -⟩ := hleads.connection? hc
    refine ⟨chunk, { c₁ with chunks := c₁.chunks.tail }, ?_, ?_, ?_⟩
    · simp [hsame (by simp), hchunks]
    · rcases hchunk : chunk.content with e | bytes'
      · rw [hchunk] at hcontent
        cases hcontent
      · rw [hchunk] at hcontent
        cases hcontent
        rfl
    · rw [afterTaking, Network.connection?_change]
      exact (congrArg _ hc₁).trans (by simp)

/-- A connection from which a chunk is read has fewer chunks from then on. -/
theorem nextChunk_eq_some {bytes : ByteArray} (hc : m.network.connection? id = some c)
    (h : nextChunk id m = (.ok (some bytes), m')) :
    ∃ c', m'.network.connection? id = some c' ∧ c'.chunks.length < c.chunks.length := by
  obtain ⟨chunk, c', hchunks, -, hc'⟩ := nextChunk_takes hc h
  exact ⟨c', hc', by simp [hchunks]⟩

/-- Writing a chunk leaves the chunks that were there. -/
theorem writeChunk_connection? (hc : m.network.connection? id = some c) (l : Location)
    (reported : Nat) (bytes : ByteArray) :
    ∃ c', (writeChunk l reported bytes m).2.network.connection? id = some c' ∧
      c'.chunks = c.chunks := by
  have hleads : m.Leads (StepOf (pouring l \ {.reading})) (writeChunk l reported bytes m).2 :=
    writeChunk_makes (subset_refl _) reported bytes m
  obtain ⟨c', hc', -, hsame, -⟩ := hleads.connection? hc
  exact ⟨c', hc', hsame (by simp)⟩

/-- One turn of the loop. -/
theorem copy_apply (a : Attempt) (id : Nat) (l : Location) (n reported : Nat) (m : Machine) :
    a.copy id l (n + 1) reported m = match nextChunk id m with
      | (.error fault, m₁) => (.error fault, m₁)
      | (.ok chunk, m₁) =>
        if a.isExpiredAt m₁.toWorld then (.error (a.timeoutFault none), m₁)
        else match chunk with
          | none => (.ok (), m₁)
          | some bytes =>
            if bytes.size = 0 then a.copy id l n reported m₁
            else (writeChunk l reported bytes >>= a.copy id l n) m₁ := by
  rw [copy]
  rcases hnext : nextChunk id m with ⟨fault | _ | bytes, m₁⟩
  · rw [bind_of_error hnext]
  · rw [bind_of_ok hnext]
    dsimp only
    rw [checkDeadline_apply]
    by_cases hlate : a.isExpiredAt m₁.toWorld
    · rw [if_pos hlate, if_pos hlate]
    · rw [if_neg hlate, if_neg hlate]
  · rw [bind_of_ok hnext]
    dsimp only
    by_cases hlate : a.isExpiredAt m₁.toWorld
    · rw [if_pos hlate]
      refine bind_of_error ?_
      rw [checkDeadline_apply, if_pos hlate]
    · rw [if_neg hlate]
      have hcheck : a.checkDeadline m₁ = (.ok (), m₁) := by
        rw [checkDeadline_apply, if_neg hlate]
      rw [bind_of_ok hcheck]
      by_cases hempty : bytes.size = 0
      · rw [if_pos hempty, if_pos hempty]
      · rw [if_neg hempty, if_neg hempty]

/-- A loop that is broken off fails. -/
theorem CopyBreaks.copy_eq {reported : Nat} {i : Interruption}
    (h : a.CopyBreaks id l reported m i m') :
    ∀ {n : Nat} {c : Connection}, m.network.connection? id = some c → c.chunks.length ≤ n →
      a.copy id l (n + 1) reported m = (.error (i.raised a), m') := by
  -- A turn after which the loop goes on has taken a chunk, so that `n` turns are left for the rest.
  induction h with
  | unread h =>
    intro n c hc hlength
    rw [copy_apply, h, Interruption.raised]
  | late h hlate =>
    intro n c hc hlength
    rw [copy_apply, h]
    dsimp only
    rw [if_pos hlate, Interruption.raised]
  | unwritten h hinTime hbytes hwrite =>
    intro n c hc hlength
    rw [copy_apply, h]
    dsimp only
    rw [hinTime, if_neg Bool.false_ne_true, if_neg hbytes, bind_of_error hwrite,
      Interruption.raised]
  | skipped h hinTime hempty _ ih =>
    intro n c hc hlength
    obtain ⟨c₁, hc₁, hless⟩ := nextChunk_eq_some hc h
    obtain ⟨n, rfl⟩ := Nat.exists_eq_add_one_of_ne_zero (by omega : n ≠ 0)
    rw [copy_apply, h]
    dsimp only
    rw [hinTime, if_neg Bool.false_ne_true, if_pos hempty]
    exact ih hc₁ (by omega)
  | @written reported reported' m m₁ m₂ m' bytes i h hinTime hbytes hwrite _ ih =>
    intro n c hc hlength
    obtain ⟨c₁, hc₁, hless⟩ := nextChunk_eq_some hc h
    obtain ⟨c₂, hc₂, hsame⟩ := writeChunk_connection? hc₁ l reported bytes
    rw [hwrite] at hc₂
    obtain ⟨n, rfl⟩ := Nat.exists_eq_add_one_of_ne_zero (by omega : n ≠ 0)
    rw [copy_apply, h]
    dsimp only
    rw [hinTime, if_neg Bool.false_ne_true, if_neg hbytes, bind_of_ok hwrite]
    exact ih hc₂ (by rw [hsame]; omega)

/-- A loop that fails has been broken off. -/
theorem copyBreaks_of_copy_eq (n : Nat) : ∀ {reported : Nat} {m : Machine} {c : Connection},
    m.network.connection? id = some c → c.chunks.length < n →
      a.copy id l n reported m = (.error e, m') →
      ∃ i, a.CopyBreaks id l reported m i m' ∧ i.raised a = e := by
  induction n with
  | zero => exact fun _ hlength => absurd hlength (Nat.not_lt_zero _)
  | succ n ih =>
    intro reported m c hc hlength hcopy
    rw [copy_apply] at hcopy
    rcases hnext : nextChunk id m with ⟨fault | chunk, m₁⟩
    · rw [hnext] at hcopy
      cases hcopy
      exact ⟨_, .unread hnext, rfl⟩
    rw [hnext] at hcopy
    dsimp only at hcopy
    by_cases hlate : a.isExpiredAt m₁.toWorld
    · rw [if_pos hlate] at hcopy
      cases hcopy
      exact ⟨_, .late hnext hlate, rfl⟩
    rw [if_neg hlate] at hcopy
    rw [Bool.not_eq_true] at hlate
    rcases chunk with _ | bytes
    · cases hcopy
    obtain ⟨c₁, hc₁, hless⟩ := nextChunk_eq_some hc hnext
    dsimp only at hcopy
    by_cases hempty : bytes.size = 0
    · rw [if_pos hempty] at hcopy
      obtain ⟨i, hbreaks, hraised⟩ := ih hc₁ (by omega) hcopy
      exact ⟨i, .skipped hnext hlate hempty hbreaks, hraised⟩
    · rw [if_neg hempty] at hcopy
      rcases bind_eq_error.mp hcopy with hwrite | ⟨reported', m₂, hwrite, hrest⟩
      · exact ⟨_, .unwritten hnext hlate hempty hwrite, rfl⟩
      · obtain ⟨c₂, hc₂, hsame⟩ := writeChunk_connection? hc₁ l reported bytes
        rw [hwrite] at hc₂
        obtain ⟨i, hbreaks, hraised⟩ := ih hc₂ (by rw [hsame]; omega) hrest
        exact ⟨i, .written hnext hlate hempty hwrite hbreaks, hraised⟩

/-- The loop fails exactly when it is broken off. -/
theorem copy_eq_error {n reported : Nat} (hc : m.network.connection? id = some c)
    (hlength : c.chunks.length ≤ n) :
    a.copy id l (n + 1) reported m = (.error e, m') ↔
      ∃ i, a.CopyBreaks id l reported m i m' ∧ i.raised a = e := by
  constructor
  · exact copyBreaks_of_copy_eq (n + 1) hc (Nat.lt_succ_of_le hlength)
  · rintro ⟨i, hbreaks, rfl⟩
    exact hbreaks.copy_eq hc hlength

/-! ## The file -/

/-- The machine whose answer is being read. -/
def afterReading (a : Attempt) (c : Connection) (m : Machine) : Machine :=
  (event (.read c.url a.downloader.chunkSize) m).2

/-- The reading of an answer is broken off. -/
def PourBreaks (a : Attempt) (id : Nat) (l : Location) (m : Machine) (i : Interruption)
    (m' : Machine) : Prop :=
  ∃ c, m.network.connection? id = some c ∧
    a.CopyBreaks id l 0 (a.afterReading c m) i m'

theorem pour_apply_of_connection (hc : m.network.connection? id = some c) :
    a.pour id l m = a.copy id l (c.chunks.length + 1) 0 (a.afterReading c m) := by
  have hreading : event (.read c.url a.downloader.chunkSize) m = (.ok (), a.afterReading c m) := rfl
  have hchunks : chunksLeft id (a.afterReading c m) = c.chunks.length := by
    have hc' : (a.afterReading c m).network.connection? id = some c := hc
    rw [chunksLeft, hc']
  unfold pour
  rw [MachineAction.connection?, observe_bind_apply, hc]
  dsimp only
  rw [bind_of_ok hreading, observe_bind_apply, hchunks]

theorem pour_eq_error :
    a.pour id l m = (.error e, m') ↔ ∃ i, a.PourBreaks id l m i m' ∧ i.raised a = e := by
  rcases hc : m.network.connection? id with _ | c
  · constructor
    · intro h
      rw [pour, MachineAction.connection?, observe_bind_apply, hc] at h
      cases h
    · rintro ⟨i, ⟨c, hc', -⟩, -⟩
      rw [hc] at hc'
      cases hc'
  · have hc' : (a.afterReading c m).network.connection? id = some c := hc
    rw [pour_apply_of_connection hc, copy_eq_error hc' (Nat.le_refl _)]
    simp [PourBreaks, hc]

/-- The making of the file is broken off.  What goes wrong when the file is closed counts more than
what went wrong before. -/
inductive SaveBreaks (a : Attempt) (id : Nat) (m : Machine) : Interruption → Machine → Prop where
  /-- The directory is not made. -/
  | unmade {m' : Machine} {fault : Fault} (h : makeDirectoryFor a.target m = (.error fault, m')) :
      SaveBreaks a id m (.error fault) m'
  /-- The file is not opened. -/
  | unopened {m₁ m' : Machine} {fault : Fault} (hmake : makeDirectoryFor a.target m = (.ok (), m₁))
      (h : openFile a.target m₁ = (.error fault, m')) : SaveBreaks a id m (.error fault) m'
  /-- The body is not copied, and the file is closed. -/
  | uncopied {m₁ m₂ m₃ m' : Machine} {l : Location} {i : Interruption}
      (hmake : makeDirectoryFor a.target m = (.ok (), m₁))
      (hopen : openFile a.target m₁ = (.ok l, m₂)) (h : a.PourBreaks id l (afterOpening m₂) i m₃)
      (hclose : closeFile l m₃ = (.ok (), m')) : SaveBreaks a id m i m'
  /-- The file is not closed, whatever was before. -/
  | unclosed {m₁ m₂ m' : Machine} {l : Location} {fault : Fault}
      (hmake : makeDirectoryFor a.target m = (.ok (), m₁))
      (hopen : openFile a.target m₁ = (.ok l, m₂))
      (h : closeFile l (a.pour id l (afterOpening m₂)).2 = (.error fault, m')) :
      SaveBreaks a id m (.error fault) m'

theorem fill_eq_error : a.fill id l m = (.error e, m') ↔
    closeFile l (a.pour id l (afterOpening m)).2 = (.error e, m') ∨
      ∃ m₁, a.pour id l (afterOpening m) = (.error e, m₁) ∧ closeFile l m₁ = (.ok (), m') := by
  rw [fill_apply, bind_eq_error]
  refine or_congr Iff.rfl ?_
  rcases hpour : a.pour id l (afterOpening m) with ⟨fault | _, m₁⟩
  · constructor
    · rintro ⟨_, m₂, hclose, hsettle⟩
      cases hsettle
      exact ⟨m₁, rfl, hclose⟩
    · rintro ⟨m₂, heq, hclose⟩
      cases heq
      exact ⟨(), m', hclose, rfl⟩
  · constructor
    · rintro ⟨_, m₂, -, hsettle⟩
      cases hsettle
    · rintro ⟨m₂, heq, -⟩
      cases heq

/-- The making of the file fails exactly when it is broken off. -/
theorem save_eq_error :
    a.save id m = (.error e, m') ↔ ∃ i, a.SaveBreaks id m i m' ∧ i.raised a = e := by
  unfold save
  constructor
  · intro h
    rcases bind_eq_error.mp h with hmake | ⟨_, m₁, hmake, h⟩
    · exact ⟨_, .unmade hmake, rfl⟩
    rcases bind_eq_error.mp h with hopen | ⟨l, m₂, hopen, hfill⟩
    · exact ⟨_, .unopened hmake hopen, rfl⟩
    rcases fill_eq_error.mp hfill with hclose | ⟨m₃, hpour, hclose⟩
    · exact ⟨_, .unclosed hmake hopen hclose, rfl⟩
    · obtain ⟨i, hbreaks, hraised⟩ := pour_eq_error.mp hpour
      exact ⟨i, .uncopied hmake hopen hbreaks hclose, hraised⟩
  · rintro ⟨i, hbreaks, rfl⟩
    cases hbreaks with
    | unmade h => exact bind_eq_error.mpr (.inl h)
    | unopened hmake h =>
      exact bind_eq_error.mpr (.inr ⟨_, _, hmake, bind_eq_error.mpr (.inl h)⟩)
    | uncopied hmake hopen h hclose =>
      have hpour := pour_eq_error.mpr ⟨_, h, rfl⟩
      have hfill := fill_eq_error.mpr (.inr ⟨_, hpour, hclose⟩)
      exact bind_eq_error.mpr (.inr ⟨_, _, hmake, bind_eq_error.mpr (.inr ⟨_, _, hopen, hfill⟩)⟩)
    | unclosed hmake hopen h =>
      have hfill := fill_eq_error.mpr (.inl h)
      exact bind_eq_error.mpr (.inr ⟨_, _, hmake, bind_eq_error.mpr (.inr ⟨_, _, hopen, hfill⟩)⟩)

/-! ## The stage -/

/-- The setbacks of the body.  The error is looked at after the file has been closed. -/
inductive StreamMeets (a : Attempt) (id : Nat) (m : Machine) : Setback → Prop where
  | late {m₁ : Machine} (h : a.SaveBreaks id m .late m₁) : StreamMeets a id m .late
  | failed {c : Connection} {m₁ : Machine} {fault : Fault}
      (hc : m.network.connection? id = some c) (h : a.SaveBreaks id m (.error fault) m₁) :
      StreamMeets a id m (.body c.url fault (a.isExpiredAt m₁.toWorld))

/-- The stage that writes the body fails of the setbacks that it meets with. -/
theorem stream_eq_error (hc : m.network.connection? id = some c) :
    (a.stream id m).1 = .error e ↔ ∃ s, a.StreamMeets id m s ∧ s.fault a = e := by
  have hclosing : ∀ m₁ : Machine, a.isExpiredAt (closeConnection id m₁).2.toWorld =
      a.isExpiredAt m₁.toWorld := fun m₁ => by
    have hleads : m₁.Leads (StepOf {.network, .note}) (closeConnection id m₁).2 :=
      closeConnection_makes (by simp) (by simp) id m₁
    exact isExpiredAt_eq_of_leads hleads (by simp)
  have hconclude : ∀ (fault : Fault) (m₁ : Machine),
      a.conclude c.url (.error fault) (closeConnection id m₁).2 =
        (.error (a.bodyFault c.url (a.isExpiredAt m₁.toWorld) fault), (closeConnection id m₁).2) :=
    fun fault m₁ => by
      rw [← hclosing]
      rfl
  rw [stream_apply, hc]
  dsimp only [Option.map_some, Option.getD_some]
  rw [bind_of_ok (closeConnection_apply id _)]
  constructor
  · intro h
    rcases hsave : a.save id m with ⟨fault | _, m₁⟩
    · rw [hsave, hconclude] at h
      obtain ⟨i, hbreaks, rfl⟩ := save_eq_error.mp hsave
      cases i with
      | late =>
        cases h
        exact ⟨_, .late hbreaks, rfl⟩
      | error fault =>
        cases h
        exact ⟨_, .failed hc hbreaks, rfl⟩
    · rw [hsave] at h
      cases h
  · rintro ⟨s, hmeets, rfl⟩
    cases hmeets with
    | late hbreaks =>
      rw [save_eq_error.mpr ⟨_, hbreaks, rfl⟩, hconclude]
      rfl
    | failed hc' hbreaks =>
      rw [hc] at hc'
      cases hc'
      rw [save_eq_error.mpr ⟨_, hbreaks, rfl⟩, hconclude]
      rfl

end Attempt

end ServerLauncher
