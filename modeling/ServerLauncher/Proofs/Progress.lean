import ServerLauncher.Proofs.Breaks

/-!
# The progress that is reported

While a body is written, the user is told whenever the bytes written so far make up a higher number
of whole megabytes than was told last.  A chunk can reach a megabyte exactly, jump over several of
them or reach none, and the loop can end after any chunk, so that what is told is best said of the
chunks that have been written, whatever the end.

The loop is compared with a function of these chunks that does nothing but count and report
(`reportsOf`).  What the user is told is exactly what that function gives, and its numbers are those
that the running total goes through.

Time passes while a body is written, and the alarm that goes off then leaves a record, too.  It is a
warning; among the records that only inform, those of the progress are the only ones.

## Main definitions

* `Record.progress`: the record of a number of megabytes.
* `World.infos`: the records that only inform.
* `Attempt.Reaches`: the running total goes through a number of megabytes.
* `Attempt.reportsOf`: the numbers that a list of chunks calls for.
* `Attempt.Adds`: a file is added to, and numbers of megabytes are reported.
* `Attempt.Saves`: what the writing of a body leaves in the target, and what it tells.

## Main statements

* `Attempt.mem_reportsOf`, `Attempt.pairwise_reportsOf`: the numbers that are reported.
* `Attempt.copy_adds`: the loop reports what the chunks call for that it has written.
* `Attempt.stream_reports`: so does the stage that writes the body.
-/

namespace ServerLauncher

open MachineAction World StepKind

/-- The record that tells how many megabytes have been written. -/
def Record.progress (megabytes : Nat) : Record :=
  ⟨.info, .download, "Downloaded " ++ toString megabytes ++ " MB..."⟩

/-! ## What is not told -/

namespace World

/-- The records that only inform. -/
def infos (w : World) : List Record := w.records.filter (·.level = .info)

/-- Nothing is told but warnings and errors. -/
def TellsNothing (w w' : World) : Prop := w'.infos = w.infos

end World

namespace Machine

variable {m m' : Machine}

theorem Leads.contentAt_eq {ks : Set StepKind} {l : Location} (h : m.Leads (StepOf ks) m')
    (hks : ∀ k ∈ ks, k ≠ .create l ∧ k ≠ .append l ∧ k ≠ .removal l) :
    m'.contentAt l = m.contentAt l :=
  h.keeps_eq (f := (·.contentAt l)) fun k hk w w' hs => by
    obtain ⟨hcreate, happend, hremoval⟩ := hks k hk
    rcases hcontent : w'.contentAt l with _ | content
    · by_contra hne
      have hremains := hs.file_remains hremoval (Option.isSome_iff_ne_none.mpr (Ne.symm hne))
      rw [hcontent] at hremains
      cases hremains
    · exact (hs.contentAt_eq hcreate happend hcontent).symm

theorem Leads.infos_eq (h : m.Leads TellsNothing m') : m'.infos = m.infos :=
  h.keeps (S := TellsNothing) (fun _ => rfl) (fun _ _ _ h h' => h'.trans h) fun _ _ h => h

/-- The record of an alarm is a warning. -/
theorem ring_infos (m : Machine) (t : Nat) : (m.ring t).infos = m.infos := by
  unfold ring cutOff
  split
  · rfl
  · split
    · rfl
    · simp only
      split <;> exact (List.filter_append ..).trans (List.append_nil _)

theorem ringBy_tellsNothing (m : Machine) (t : Nat) :
    m.Leads TellsNothing (m.onward.ringBy t) := by
  unfold ringBy
  split
  · split
    · refine .step ?_ (m.onward.ring_infos _)
      obtain ⟨network, events, records, -, -, heq⟩ := m.onward.ring_eq ‹_›
      rw [heq]
      rfl
    · exact .step rfl rfl
  · exact .step rfl rfl

end Machine

namespace MachineAction

variable {path : String}

theorem pass_tellsNothing (micros : Nat) : Proceeds TellsNothing (pass micros) := fun m =>
  (m.ringBy_tellsNothing _).trans (.step rfl rfl)

theorem wait_tellsNothing (id delay : Nat) : Proceeds TellsNothing (wait id delay) := by
  intro m
  have hring := m.ringBy_tellsNothing (m.now + delay)
  simp only [wait, change_apply]
  split
  · exact hring
  · exact hring.trans (.step rfl rfl)

theorem suffer_tellsNothing (used : Option String) (ds : List Disturbance) :
    Proceeds TellsNothing (suffer used ds) := by
  induction ds with
  | nil => exact .of_pure _
  | cons d rest ih =>
    refine .bind (pass_tellsNothing d.delay) fun _ => ?_
    cases d.errno with
    | none => exact ih
    | some errno => exact .of_throw _

theorem use_tellsNothing (op : FileOperation) (used : Option String) :
    Proceeds TellsNothing (use op used) :=
  .bind (.of_change (fun _ => rfl) fun _ => rfl) fun _ =>
    .bind (.of_observe _) fun ds => suffer_tellsNothing used ds

theorem changeFiles_tellsNothing {α : Type}
    (f : FileTree → Location → Except Nat (FileTree × α)) :
    Proceeds TellsNothing (changeFiles path f) := by
  intro m
  rcases changeFiles_cases path f m with ⟨e, heq⟩ | ⟨files, a, -, heq⟩
  · rw [heq]
    exact .refl m
  · rw [heq]
    exact .step rfl rfl

theorem ensureDirectory_tellsNothing (path : String) :
    Proceeds TellsNothing (ensureDirectory path) := by
  refine .bind (.of_attempt (.bind (use_tellsNothing .mkdir _) fun _ =>
    changeFiles_tellsNothing _)) fun result => ?_
  cases result with
  | ok _ => exact .of_pure _
  | error fault => exact .bind (.of_observe _) fun _ => .ite (.of_pure _) (.of_throw _)

theorem makeDirectories_tellsNothing (n : Nat) :
    ∀ path, Proceeds TellsNothing (makeDirectories n path) := by
  induction n with
  | zero => exact fun _ => .of_pure _
  | succ n ih =>
    intro path
    have hrest : ∀ b : Prop, [Decidable b] →
        Proceeds TellsNothing (if b then return () else ensureDirectory path) := fun b _ =>
      .ite (.of_pure _) (ensureDirectory_tellsNothing path)
    unfold makeDirectories
    generalize lastComponent path = components
    obtain ⟨head, tail⟩ := components
    have habove : Proceeds TellsNothing (toleratingExisting (makeDirectories n head)) := by
      refine .bind (.of_attempt (ih head)) fun result => ?_
      cases result with
      | ok _ => exact .of_pure _
      | error fault => exact .ite (.of_pure _) (.of_throw _)
    refine .bind (.of_observe _) fun isThere => ?_
    dsimp only
    split
    · exact .bind habove fun _ => hrest _
    · exact hrest _

theorem makeDirectoryFor_tellsNothing (path : String) :
    Proceeds TellsNothing (makeDirectoryFor path) :=
  makeDirectories_tellsNothing _ _

theorem openFile_tellsNothing (path : String) : Proceeds TellsNothing (openFile path) :=
  .bind (use_tellsNothing .open _) fun _ => .bind (changeFiles_tellsNothing _) fun _ =>
    .bind (.of_change (fun _ => rfl) fun _ => rfl) fun _ => .of_pure _

theorem closeFile_tellsNothing (l : Location) : Proceeds TellsNothing (closeFile l) :=
  .bind (.of_change (fun _ => rfl) fun _ => rfl) fun _ => use_tellsNothing .close none

theorem takeChunk_tellsNothing (id : Nat) (effect : ShutdownEffect) (chunk : Chunk) :
    Proceeds TellsNothing (takeChunk id effect chunk) := by
  refine .bind (.of_observe _) fun isCut => .ite ?_ ?_
  · cases effect with
    | failure => exact .of_throw _
    | none | endOfBody => exact .of_pure _
  · exact .bind (.of_change (fun _ => rfl) fun _ => rfl) fun _ => .of_settle _

theorem nextChunk_tellsNothing (id : Nat) : Proceeds TellsNothing (nextChunk id) := by
  refine .bind (.of_observe _) fun c => ?_
  rcases c with _ | c
  · exact .of_pure _
  · dsimp only
    rcases c.chunks with _ | ⟨chunk, rest⟩
    · exact .of_pure _
    · exact .bind (.of_observe _) fun _ => .ite
        (.bind (wait_tellsNothing id _) fun _ => takeChunk_tellsNothing id _ chunk)
        (takeChunk_tellsNothing id _ chunk)

theorem closeConnection_tellsNothing (id : Nat) :
    Proceeds TellsNothing (closeConnection id) := by
  refine .bind (.of_observe _) fun c => ?_
  rcases c with _ | c
  · exact .of_pure _
  · exact .ite (.of_pure _) (.bind (.of_change (fun _ => rfl) fun _ => rfl) fun _ =>
      .of_change (fun _ => rfl) fun _ => rfl)

end MachineAction

namespace Attempt

/-! ## The numbers that are reported -/

section Numbers

variable {before reported n : Nat} {chunk : Chunk} {chunks : List Chunk}

/-- Where some bytes have been written before, the running total goes through a number of whole
megabytes when further chunks are written: that is the number after one or more of them. -/
def Reaches (before : Nat) (chunks : List Chunk) (n : Nat) : Prop :=
  ∃ done, done <+: chunks ∧ done ≠ [] ∧ (before + (bytesOf done).size) / megabyte = n

/-- The numbers of megabytes that are reported while chunks are written, where some bytes have been
written before and a number has been reported. -/
def reportsOf (reported before : Nat) : List Chunk → List Nat
  | [] => []
  | chunk :: rest =>
    let total := before + chunk.bytes.size
    if reported < total / megabyte then
      total / megabyte :: reportsOf (total / megabyte) total rest
    else reportsOf reported total rest

theorem not_reaches_nil : ¬ Reaches before [] n := by
  rintro ⟨done, hdone, hne, -⟩
  exact hne (List.prefix_nil.mp hdone)

/-- The first chunk reaches a number, or the others do after it. -/
theorem reaches_cons : Reaches before (chunk :: chunks) n ↔
    (before + chunk.bytes.size) / megabyte = n ∨
      Reaches (before + chunk.bytes.size) chunks n := by
  have htotal (done : List Chunk) : before + (bytesOf (chunk :: done)).size =
      before + chunk.bytes.size + (bytesOf done).size := by
    rw [bytesOf, ByteArray.size_append, Nat.add_assoc]
  constructor
  · rintro ⟨done, hdone, hne, hn⟩
    obtain ⟨done, rfl, hrest⟩ := (List.prefix_cons_iff.mp hdone).resolve_left hne
    rw [htotal] at hn
    rcases List.eq_nil_or_concat done with rfl | ⟨_, _, rfl⟩
    · exact .inl hn
    · exact .inr ⟨_, hrest, by simp, hn⟩
  · rintro (hn | ⟨done, hdone, -, hn⟩)
    · exact ⟨[chunk], by simp, by simp, by rw [htotal]; exact hn⟩
    · exact ⟨chunk :: done, by simpa using hdone, by simp, by rw [htotal]; exact hn⟩

/-- The running total does not go down. -/
theorem Reaches.le (h : Reaches before chunks n) : before / megabyte ≤ n := by
  obtain ⟨done, -, -, rfl⟩ := h
  exact Nat.div_le_div_right (Nat.le_add_right _ _)

/-- What is reported are the numbers reached that are higher than the one reported before. -/
theorem mem_reportsOf : n ∈ reportsOf reported before chunks ↔
    reported < n ∧ Reaches before chunks n := by
  induction chunks generalizing reported before with
  | nil => simp [reportsOf, not_reaches_nil]
  | cons chunk rest ih =>
    rw [reaches_cons, reportsOf]
    split_ifs with hhigher
    · rw [List.mem_cons, ih]
      constructor
      · rintro (rfl | ⟨hlt, hreached⟩)
        · exact ⟨hhigher, .inl rfl⟩
        · exact ⟨hhigher.trans hlt, .inr hreached⟩
      · rintro ⟨-, rfl | hreached⟩
        · exact .inl rfl
        -- A later chunk that stays within the same megabyte reaches the first number again.
        · exact hreached.le.eq_or_lt.imp Eq.symm fun hlt => ⟨hlt, hreached⟩
    · rw [ih]
      refine and_congr_right fun hlt => ⟨.inr, fun h => h.resolve_left ?_⟩
      omega

/-- The numbers that are reported go up. -/
theorem pairwise_reportsOf (reported before : Nat) (chunks : List Chunk) :
    (reportsOf reported before chunks).Pairwise (· < ·) := by
  induction chunks generalizing reported before with
  | nil => exact .nil
  | cons chunk rest ih =>
    rw [reportsOf]
    split_ifs
    · exact .cons (fun n hn => (mem_reportsOf.mp hn).1) (ih _ _)
    · exact ih _ _

end Numbers

/-! ## What is added to the file -/

variable {a : Attempt} {id reported : Nat} {l : Location} {chunk : Chunk} {chunks : List Chunk}
  {written written' : List Chunk} {numbers numbers' : List Nat} {ks : Set StepKind}
  {m m' m'' : Machine}

/-- The chunks of a body that are written when they are read: those that are not empty. -/
def toWrite (chunks : List Chunk) : List Chunk := chunks.filter (·.bytes.size ≠ 0)

theorem toWrite_cons_of_empty (h : chunk.bytes.size = 0) :
    toWrite (chunk :: chunks) = toWrite chunks :=
  List.filter_cons_of_neg (by simpa using h)

theorem toWrite_cons_of_nonempty (h : chunk.bytes.size ≠ 0) :
    toWrite (chunk :: chunks) = chunk :: toWrite chunks :=
  List.filter_cons_of_pos (by simpa using h)

/-- Some chunks have been added to the file at a location, their bytes have been counted, and some
numbers of megabytes have been reported. -/
structure Adds (l : Location) (written : List Chunk) (numbers : List Nat) (m m' : Machine) :
    Prop where
  file (content : ByteArray) (mode : Nat) (h : m.files.get? l = some (.file content mode)) :
    m'.files.get? l = some (.file (content ++ bytesOf written) mode)
  counted : m'.transfer.written = m.transfer.written + (bytesOf written).size
  infos : m'.infos = m.infos ++ numbers.map .progress

namespace Adds

theorem trans (h : Adds l written numbers m m') (h' : Adds l written' numbers' m' m'') :
    Adds l (written ++ written') (numbers ++ numbers') m m'' where
  file content mode hfile := by
    rw [bytesOf_append, ← ByteArray.append_assoc]
    exact h'.file _ mode (h.file content mode hfile)
  counted := by
    rw [h'.counted, h.counted, bytesOf_append, ByteArray.size_append, Nat.add_assoc]
  infos := by
    rw [h'.infos, h.infos, List.map_append, List.append_assoc]

/-- What has nothing to do with the file and tells nothing adds nothing. -/
theorem of_leads (hleads : m.Leads (StepOf ks) m') (htold : m.Leads TellsNothing m')
    (hks : .counting ∉ ks ∧ ∀ k ∈ ks, k.location? ≠ some l) : Adds l [] [] m m' where
  file content mode hfile := by
    rw [hleads.get?_eq hks.2, bytesOf, ByteArray.append_empty]
    exact hfile
  counted := hleads.written_eq hks.1
  infos := htold.infos_eq.trans (List.append_nil _).symm

/-- What adds nothing can come first. -/
theorem after (h : Adds l [] [] m m') (h' : Adds l written numbers m' m'') :
    Adds l written numbers m m'' := h.trans h'

end Adds

/-- The number after a further chunk, if it is higher, is reported before those of the rest. -/
theorem reportsOf_cons (reported before : Nat) (chunk : Chunk) (rest : List Chunk) :
    reportsOf reported before (chunk :: rest) = reportsOf reported before [chunk] ++
      reportsOf (max reported ((before + chunk.bytes.size) / megabyte))
        (before + chunk.bytes.size) rest := by
  simp only [reportsOf]
  split_ifs with hhigher
  · rw [max_eq_right hhigher.le, List.singleton_append]
  · rw [max_eq_left (not_lt.mp hhigher), List.nil_append]

/-- A chunk is added to the file and counted. -/
theorem adds_chunk (l : Location) (chunk : Chunk) (m : Machine) :
    Adds l [chunk] [] m (afterCounting chunk.bytes.size (afterAppending l chunk.bytes m)) := by
  have hbytes : bytesOf [chunk] = chunk.bytes := ByteArray.append_empty
  refine ⟨fun content mode hfile => ?_, ?_, (List.append_nil _).symm⟩
  · refine (FileTree.get?_append chunk.bytes).trans ?_
    rw [if_pos rfl, hfile, hbytes]
    rfl
  · rw [hbytes]
    rfl

/-- A number of megabytes is reported. -/
theorem adds_report (l : Location) (megabytes : Nat) (m : Machine) :
    Adds l [] [megabytes] m (m.onward.record .info .download
      ("Downloaded " ++ toString megabytes ++ " MB...")) := by
  refine ⟨fun content mode hfile => ?_, rfl, List.filter_append ..⟩
  rw [bytesOf, ByteArray.append_empty]
  exact hfile

/-- A chunk that is written is added to the file, and its number reported if that is higher. -/
theorem writeChunk_adds (l : Location) (reported : Nat) (chunk : Chunk) (m : Machine) :
    ((∃ e, (writeChunk l reported chunk.bytes m).1 = .error e) ∧
      Adds l [] [] m (writeChunk l reported chunk.bytes m).2) ∨
    ((writeChunk l reported chunk.bytes m).1 =
        .ok (max reported ((m.transfer.written + chunk.bytes.size) / megabyte)) ∧
      Adds l [chunk] (reportsOf reported m.transfer.written [chunk]) m
        (writeChunk l reported chunk.bytes m).2) := by
  have huse : m.Leads (StepOf {.clock, .use .write}) (use .write none m).2 :=
    use_makes (by simp) (by simp) none m
  have hnothing : Adds l [] [] m (use .write none m).2 :=
    .of_leads huse (use_tellsNothing .write none m) (by simp [location?])
  rw [writeChunk_apply]
  rcases hm : use .write none m with ⟨e | _, m₁⟩
  · rw [hm] at hnothing
    exact .inl ⟨⟨e, rfl⟩, hnothing⟩
  · rw [hm] at hnothing huse
    have hbefore : m₁.transfer.written = m.transfer.written := huse.written_eq (by simp)
    have hadded := hnothing.after (adds_chunk l chunk m₁)
    rw [← hbefore, reportsOf, reportsOf]
    right
    dsimp only
    split_ifs with hhigher
    · rw [max_eq_right hhigher.le]
      exact ⟨rfl, hadded.trans (adds_report l _ _)⟩
    · rw [max_eq_left (not_lt.mp hhigher)]
      exact ⟨rfl, hadded⟩

/-! ## The loop -/

/-- The chunks that a connection has left. -/
def Offers (id : Nat) (chunks : List Chunk) (m : Machine) : Prop :=
  ∃ c, m.network.connection? id = some c ∧ c.chunks = chunks

theorem Offers.leads (h : Offers id chunks m) (hleads : m.Leads (StepOf ks) m')
    (hks : .reading ∉ ks) : Offers id chunks m' := by
  obtain ⟨c, hc, rfl⟩ := h
  obtain ⟨c', hc', -, hsame, -⟩ := hleads.connection? hc
  exact ⟨c', hc', hsame hks⟩

/-- Reading a chunk adds nothing to the file. -/
theorem nextChunk_adds (l : Location) (id : Nat) (m : Machine) :
    Adds l [] [] m (nextChunk id m).2 := by
  have hleads : m.Leads (StepOf {.clock, .reading}) (nextChunk id m).2 :=
    nextChunk_makes (by simp) (by simp) id m
  exact .of_leads hleads (nextChunk_tellsNothing id m) (by simp [location?])

/-- However the loop ends, it has written the chunks up to some chunk, those that are empty apart,
and has reported what they call for. -/
theorem copy_adds (a : Attempt) (l : Location) (n : Nat) :
    ∀ (reported : Nat) {chunks : List Chunk} {m : Machine}, Offers id chunks m →
      ∃ k, Adds l (toWrite (chunks.take k))
        (reportsOf reported m.transfer.written (toWrite (chunks.take k))) m
        (a.copy id l n reported m).2 := by
  have hnone : ∀ {reported : Nat} {chunks : List Chunk} {m m' : Machine}, Adds l [] [] m m' →
      ∃ k, Adds l (toWrite (chunks.take k))
        (reportsOf reported m.transfer.written (toWrite (chunks.take k))) m m' :=
    fun h => ⟨0, h⟩
  -- `reported` and the running total change together from turn to turn; `reportsOf` goes along.
  induction n with
  | zero =>
    intro reported chunks m _
    have hstays : m.Leads (StepOf ∅) m := .refl m
    exact hnone (.of_leads hstays (.refl m) (by simp))
  | succ n ih =>
    intro reported chunks m hoffers
    have hread := nextChunk_adds l id m
    obtain ⟨c, hc, rfl⟩ := hoffers
    rw [copy_apply]
    rcases hnext : nextChunk id m with ⟨fault | _ | bytes, m₁⟩
    · rw [hnext] at hread
      exact hnone hread
    · rw [hnext] at hread
      dsimp only
      split_ifs
      · exact hnone hread
      · exact hnone hread
    obtain ⟨chunk, c', hchunks, hcontent, hc'⟩ := nextChunk_takes hc hnext
    obtain rfl : chunk.bytes = bytes := by rw [Chunk.bytes, hcontent]
    rw [hnext] at hread
    have hbefore : m₁.transfer.written = m.transfer.written := hread.counted
    dsimp only
    split_ifs with hlate hempty
    · exact hnone hread
    · obtain ⟨k, hrest⟩ := ih reported ⟨c', hc', rfl⟩
      refine ⟨k + 1, ?_⟩
      rw [hchunks, List.take_succ_cons, toWrite_cons_of_empty hempty, ← hbefore]
      exact hread.after hrest
    · have hoffers : Offers id c'.chunks (writeChunk l reported chunk.bytes m₁).2 :=
        writeChunk_connection? hc' l reported chunk.bytes
      rcases writeChunk_adds l reported chunk m₁ with ⟨⟨e, he⟩, hfailed⟩ | ⟨hok, hwritten⟩
      · rw [bind_of_error (Prod.ext he rfl)]
        exact hnone (hread.after hfailed)
      · rw [bind_of_ok (Prod.ext hok rfl)]
        obtain ⟨k, hrest⟩ := ih (max reported _) hoffers
        have htotal : (writeChunk l reported chunk.bytes m₁).2.transfer.written =
            m₁.transfer.written + chunk.bytes.size := by
          rw [hwritten.counted, bytesOf, bytesOf, ByteArray.append_empty]
        refine ⟨k + 1, ?_⟩
        rw [hchunks, List.take_succ_cons, toWrite_cons_of_nonempty hempty, reportsOf_cons,
          ← hbefore]
        rw [htotal] at hrest
        exact hread.after (hwritten.trans hrest)

/-! ## The file -/

theorem pour_adds (a : Attempt) (h : Offers id chunks m) (l : Location) :
    ∃ k, Adds l (toWrite (chunks.take k))
      (reportsOf 0 m.transfer.written (toWrite (chunks.take k))) m (a.pour id l m).2 := by
  obtain ⟨c, hc, hchunks⟩ := h
  have hevent : m.Leads (StepOf {.note}) (a.afterReading c m) :=
    event_makes (by simp) _ ⟨rfl, rfl⟩ m
  have hoffers : Offers id chunks (a.afterReading c m) :=
    Offers.leads ⟨c, hc, hchunks⟩ hevent (by simp)
  have hread : Adds l [] [] m (a.afterReading c m) :=
    .of_leads hevent (.step rfl rfl) (by simp [location?])
  obtain ⟨k, hadds⟩ := a.copy_adds l (c.chunks.length + 1) 0 hoffers
  rw [pour_apply_of_connection hc]
  exact ⟨k, hread.after hadds⟩

theorem fill_adds (a : Attempt) (h : Offers id chunks m) (l : Location) :
    ∃ k, Adds l (toWrite (chunks.take k))
      (reportsOf 0 m.transfer.written (toWrite (chunks.take k))) m (a.fill id l m).2 := by
  have hopening : m.Leads (StepOf {.opening}) (afterOpening m) := afterOpening_leads (by simp) m
  have hopened : Adds l [] [] m (afterOpening m) :=
    .of_leads hopening (.step rfl rfl) (by simp [location?])
  obtain ⟨k, hpoured⟩ := a.pour_adds (h.leads hopening (by simp)) l
  have hclosing : Makes {.clock, .handle, .use .close}
      (closeFile l >>= fun _ => settle (a.pour id l (afterOpening m)).1) :=
    closing_makes (by simp) (by simp) (by simp) _
  have htold : Proceeds TellsNothing
      (closeFile l >>= fun _ => settle (a.pour id l (afterOpening m)).1) :=
    .bind (closeFile_tellsNothing l) fun _ => .of_settle _
  have hclosed : Adds l [] [] (a.pour id l (afterOpening m)).2 (a.fill id l m).2 := by
    rw [fill_apply]
    exact .of_leads (hclosing _) (htold _) (by simp [location?])
  refine ⟨k, ?_⟩
  have hall := hopened.after (hpoured.trans hclosed)
  rwa [List.append_nil, List.append_nil] at hall

/-- No file has got another content, or some chunks make up the file that the target leads to. -/
def TargetHolds (a : Attempt) (written : List Chunk) (m m' : Machine) : Prop :=
  (written = [] ∧ ∀ l, m'.contentAt l = m.contentAt l) ∨
    ∃ l mode, m'.files.find m'.location a.target = .ok (l, .file (bytesOf written) mode)

/-- The target has been made of some chunks, their bytes have been counted, and of all that only
informs some numbers of megabytes have been told. -/
structure Saves (a : Attempt) (written : List Chunk) (numbers : List Nat) (m m' : Machine) :
    Prop where
  target : a.TargetHolds written m m'
  counted : m'.transfer.written = m.transfer.written + (bytesOf written).size
  infos : m'.infos = m.infos ++ numbers.map .progress

theorem TargetHolds.leads (h : a.TargetHolds written m m') (hleads : m'.Leads (StepOf ks) m'')
    (hks : ∀ k ∈ ks, k.location? = none) : a.TargetHolds written m m'' := by
  rcases h with ⟨hnothing, hsame⟩ | ⟨l, mode, hfile⟩
  · refine .inl ⟨hnothing, fun l => ?_⟩
    rw [← hsame, World.contentAt, hleads.files_eq hks]
    rfl
  · refine .inr ⟨l, mode, ?_⟩
    obtain ⟨hwalk, hentry⟩ := FileTree.find_eq_ok.mp hfile
    rw [← hleads.files_eq hks] at hentry
    exact FileTree.find_eq_ok.mpr ⟨hleads.precedes.walk_eq_ok hwalk, hentry⟩

/-- What has nothing to do with files and tells nothing can come last. -/
theorem Saves.leads (h : a.Saves written numbers m m') (hleads : m'.Leads (StepOf ks) m'')
    (htold : m'.Leads TellsNothing m'') (hcounting : .counting ∉ ks)
    (hks : ∀ k ∈ ks, k.location? = none) : a.Saves written numbers m m'' where
  target := h.target.leads hleads hks
  counted := (hleads.written_eq hcounting).trans h.counted
  infos := htold.infos_eq.trans h.infos

/-- Nothing has been saved while directories were made and the file could not be opened. -/
theorem Saves.of_making (hleads : m.Leads (StepOf (making Set.univ)) m')
    (htold : m.Leads TellsNothing m') : a.Saves [] [] m m' where
  target := by
    refine .inl ⟨rfl, fun _ => hleads.contentAt_eq fun k hk => ?_⟩
    rcases hk with (rfl | rfl | rfl) | ⟨_, -, rfl⟩ <;> simp
  counted := hleads.written_eq (by simp [making])
  infos := htold.infos_eq.trans (List.append_nil _).symm

/-- What is saved when a file is opened is what is added to it. -/
theorem Saves.of_opens {opened : Machine} (hbefore : m.Leads (StepOf (making Set.univ)) m')
    (hopens : Opens a.target m' l opened) (htold : m.Leads TellsNothing opened)
    (hadds : Adds l written numbers opened m'') (hfill : opened.Leads (StepOf ks) m'') :
    a.Saves written numbers m m'' where
  target := by
    have hwalk := hfill.precedes.walk_eq_ok (hopens.leads.precedes.walk_eq_ok hopens.walk)
    have hentry := hadds.file _ _ hopens.entry
    rw [ByteArray.empty_append] at hentry
    exact .inr ⟨l, _, FileTree.find_eq_ok.mpr ⟨hwalk, hentry⟩⟩
  counted := by
    rw [hadds.counted, hopens.leads.written_eq (by simp), hbefore.written_eq (by simp [making])]
  infos := by
    rw [hadds.infos, htold.infos_eq]

theorem save_saves (a : Attempt) (h : Offers id chunks m) :
    ∃ k, a.Saves (toWrite (chunks.take k))
      (reportsOf 0 m.transfer.written (toWrite (chunks.take k))) m (a.save id m).2 := by
  have hmaking := makeDirectoryFor_makes a.target m
  have htold := makeDirectoryFor_tellsNothing a.target m
  unfold save
  rcases hm : makeDirectoryFor a.target m with ⟨e | _, m₁⟩
  · rw [hm] at hmaking htold
    rw [bind_of_error hm]
    exact ⟨0, .of_making hmaking htold⟩
  rw [hm] at hmaking htold
  rw [bind_of_ok hm]
  have htold' := htold.trans (openFile_tellsNothing a.target m₁)
  rcases openFile_cases clock_mem_making open_mem_making a.target m₁ with
    ⟨hleads, e, he⟩ | ⟨m₂, l, hleads, hresult, hopens⟩
  · rw [bind_of_error (Prod.ext he rfl)]
    exact ⟨0, .of_making (hmaking.trans hleads) htold'⟩
  · rw [bind_of_ok (Prod.ext hresult rfl)]
    set opened := (openFile a.target m₁).2
    have hbefore := hmaking.trans hleads
    have hwritten : opened.transfer.written = m.transfer.written := by
      rw [hopens.leads.written_eq (by simp), hbefore.written_eq (by simp [making])]
    have hoffers : Offers id chunks opened :=
      (h.leads hbefore (by simp [making])).leads hopens.leads (by simp)
    obtain ⟨k, hadds⟩ := a.fill_adds hoffers l
    have hopening : opened.Leads (StepOf ({.opening} ∪ writing l)) (afterOpening opened) :=
      afterOpening_leads (.inl rfl) opened
    have hfill := hopening.trans (a.fill_leads (fun _ => .inr) id opened)
    rw [hwritten] at hadds
    exact ⟨k, .of_opens hbefore hopens htold' hadds hfill⟩

theorem ending_tellsNothing (a : Attempt) (id : Nat) (url : String) (result : Except Fault Unit) :
    Proceeds TellsNothing (closeConnection id >>= fun _ => a.conclude url result) := by
  refine .bind (closeConnection_tellsNothing id) fun _ => ?_
  rcases result with fault | _
  · exact .bind (.of_observe _) fun _ => .of_throw _
  · exact .of_pure _

/-- However the writing of a body ends, the target has been made of the chunks up to some chunk,
those that are empty apart, and among all that only informs the user has been told of exactly the
positive numbers of megabytes that the running total has gone through, each of them once and in
order. -/
theorem stream_reports (a : Attempt) {id : Nat} {c : Connection} {m : Machine}
    (hc : m.network.connection? id = some c) :
    ∃ written numbers, (∃ k, written = toWrite (c.chunks.take k)) ∧
      a.Saves written numbers m (a.stream id m).2 ∧ numbers.Pairwise (· < ·) ∧
      ∀ n, n ∈ numbers ↔ 0 < n ∧ Reaches m.transfer.written written n := by
  obtain ⟨k, hsaves⟩ := a.save_saves ⟨c, hc, rfl⟩
  refine ⟨_, _, ⟨k, rfl⟩, ?_, pairwise_reportsOf _ _ _, fun n => mem_reportsOf⟩
  have hending : Makes {.network, .note} (closeConnection id >>= fun _ =>
      a.conclude (((m.network.connection? id).map (·.url)).getD a.url) (a.save id m).1) :=
    a.ending_makes (by simp) (by simp) id _ _
  rw [stream_apply]
  exact hsaves.leads (hending _) (a.ending_tellsNothing id _ _ _) (by simp) (by simp [location?])

/-- A machine that has counted all bytes of a megabyte but one, and a connection that is to bring
two bytes, with nothing between them, and then to break. -/
def crossingMachine : Machine :=
  { network := { connections := [{
      url := "http://h/a", response := {}, chunks := [
        { content := .ok ⟨#[1]⟩ }, { content := .ok .empty }, { content := .ok ⟨#[2]⟩ },
        { content := .error (.request .connection "Connection broken") }] }] }
    transfer := { written := megabyte - 1 } }

theorem stream_reports_crossing :
    ∃ c, crossingMachine.network.connection? 0 = some c ∧
      let a := Downloader.attemptOn {} "http://h/a" "/x" (.infinite false) crossingMachine
      (∃ written numbers, (∃ k, written = toWrite (c.chunks.take k)) ∧
        a.Saves written numbers crossingMachine (a.stream 0 crossingMachine).2 ∧
        numbers.Pairwise (· < ·) ∧
        ∀ n, n ∈ numbers ↔ 0 < n ∧ Reaches (megabyte - 1) written n) ∧
      (a.stream 0 crossingMachine).2.infos = [.progress 1] ∧
      (a.stream 0 crossingMachine).2.contentAt ["x"] = some ⟨#[1, 2]⟩ :=
  ⟨_, rfl, stream_reports _ rfl, by decide +kernel, by decide +kernel⟩

end Attempt

end ServerLauncher
