import ServerLauncher.Download.Attempt
import ServerLauncher.Proofs.Frames
import ServerLauncher.Proofs.Path

/-!
# The stages of an attempt

Which kinds of steps the stages of an attempt at a download are made of.  What they are said to be
holds for all ends of a stage, whether it succeeds or not.

## Main definitions

* `StepKind.requesting`, `StepKind.making`, `StepKind.pouring`, `StepKind.writing`,
  `StepKind.checking`, `StepKind.finishing`, `StepKind.permitting`, `StepKind.clearing`: the kinds
  of steps of the stages and of what follows them.

## Main statements

* `Attempt.request_makes`, `Attempt.copy_makes` and so on: the kinds of steps of each stage.
* `makeDirectoryFor_makes_above`: directories are made above a normalized target only.
* `Attempt.makeExecutable_cases`: permissions are changed at the very end or not at all.
-/

namespace ServerLauncher

open MachineAction World

namespace StepKind

/-- The steps of a request. -/
def requesting : Set StepKind := {clock, note, ask, network, answer, alarm, holding}

/-- The steps of making directories, at some locations only, and of failing to open a file. -/
def making (above : Set Location) : Set StepKind :=
  {clock, use .mkdir, use .open} ∪ directory '' above

/-- The steps of writing to a file that is open. -/
def pouring (l : Location) : Set StepKind := {clock, note, reading, counting, use .write, append l}

/-- The steps of writing a file. -/
def writing (l : Location) : Set StepKind :=
  {clock, note, reading, counting, opening, handle, use .write, use .close, append l}

theorem pouring_subset_writing (l : Location) : pouring l ⊆ writing l := by
  simp [pouring, writing, Set.insert_subset_iff]

/-- The steps of closing a connection and of checking a file. -/
def checking : Set StepKind := {clock, note, network, use .stat}

/-- The steps of making a file executable, short of doing so. -/
def finishing : Set StepKind := {clock, use .stat, use .chmod}

/-- The steps of making a file executable that lies at one of some locations. -/
def permitting (reached : Set Location) : Set StepKind := finishing ∪ permission '' reached

/-- The steps that follow the stages, with the locations at which a file may be removed. -/
def clearing (reached : Set Location) : Set StepKind :=
  {clock, note, alarm, use .remove} ∪ removal '' reached

variable {above : Set Location}

/-- No step of a request concerns a file. -/
theorem location?_of_mem_requesting {k : StepKind} (h : k ∈ requesting) : k.location? = none := by
  have hall : ∀ k ∈ requesting, k.location? = none := by simp [requesting, location?]
  exact hall k h

theorem clock_mem_making : clock ∈ making above := .inl (.inl rfl)

theorem mkdir_mem_making : use .mkdir ∈ making above := .inl (.inr (.inl rfl))

theorem open_mem_making : use .open ∈ making above := .inl (.inr (.inr rfl))

theorem directory_mem_making {l : Location} (h : l ∈ above) : directory l ∈ making above :=
  .inr ⟨l, h, rfl⟩

end StepKind

open StepKind

/-! ## Directories -/

/-- A normalized path leads to its location. -/
theorem Path.Spells.leadsInto {slashes : List Char} {components : List (List Char)}
    {path : String} (h : Path.Spells slashes components path) :
    Path.LeadsInto path {FileTree.locate path} :=
  fun _ _ _ hwalk => (h.walk_eq_ok.mp hwalk).2.1

/-- Nothing is said about where directories are made. -/
theorem makeDirectoryFor_makes (target : String) :
    Makes (making Set.univ) (makeDirectoryFor target) :=
  makeDirectories_makes (Q := fun _ => True) clock_mem_making mkdir_mem_making
    (fun _ _ _ _ => trivial) (fun _ _ _ _ _ _ => directory_mem_making (Set.mem_univ _)) _ _
    trivial

/-- The directories that are made for a normalized path lie above it. -/
theorem makeDirectoryFor_makes_above {slashes : List Char} {components : List (List Char)}
    {target : String} (h : Path.Spells slashes components target) (hne : components ≠ []) :
    Makes (making {l | l <+: (FileTree.locate target).dropLast}) (makeDirectoryFor target) := by
  rcases List.eq_nil_or_concat components with rfl | ⟨init, last, rfl⟩
  · exact absurd rfl hne
  rw [List.concat_eq_append] at h
  have hdirectory := h.directory
  have habove : (FileTree.locate target).dropLast = init.map String.ofList := by
    rw [h.locate_eq, List.map_append]
    simp
  unfold makeDirectoryFor
  dsimp only
  rw [hdirectory.isEmpty_eq_false, if_neg Bool.false_ne_true]
  refine makeDirectories_makes
    (Q := fun p => ∃ kept, Path.Spells slashes kept p ∧ kept <+: init) clock_mem_making
    mkdir_mem_making ?_ ?_ _ _ ⟨init, hdirectory, List.prefix_refl _⟩
  · rintro p ⟨kept, hkept, hprefix⟩ - htail
    obtain ⟨kept', last', rfl, hhead⟩ := hkept.lastComponent htail
    exact ⟨kept', hhead, (List.prefix_append _ _).trans hprefix⟩
  · rintro p ⟨kept, hkept, hprefix⟩ t current l hwalk
    obtain ⟨-, rfl, -⟩ := hkept.walk_eq_ok.mp hwalk
    refine directory_mem_making ?_
    rw [Set.mem_ofPred_eq, habove, hkept.locate_eq]
    exact hprefix.map _

namespace Attempt

variable {ks : Set StepKind} (a : Attempt)

/-! ## The deadline -/

theorem isExpired_makes : Makes ks a.isExpired := .of_observe _

/-- Nothing is left of an expired attempt. -/
theorem remaining_of_isExpiredAt {m : Machine} (h : a.isExpiredAt m.toWorld) :
    a.remaining m = (.error (a.timeoutFault none), m) := by
  have hcondition : (m.arithmetic.minus a.finish m.time).before .zero ∨ m.transfer.hasExpired := by
    rcases Bool.or_eq_true_iff.mp h with hexpired | hreached
    · exact .inr hexpired
    · exact .inl (Arithmetic.before_zero_of_reaches _ hreached)
  simp only [remaining, get_bind_apply]
  rw [if_pos (Bool.or_eq_true_iff.mpr hcondition)]
  rfl

/-- Time is left only for an attempt that has not expired. -/
theorem remaining_cases (m : Machine) :
    (∃ e, a.remaining m = (.error e, m)) ∨
    (a.isExpiredAt m.toWorld = false ∧ ∃ left, a.remaining m = (.ok left, m)) := by
  by_cases hexpired : a.isExpiredAt m.toWorld
  · exact .inl ⟨_, a.remaining_of_isExpiredAt hexpired⟩
  · rw [Bool.not_eq_true] at hexpired
    simp only [remaining, get_bind_apply]
    split_ifs
    · exact .inl ⟨_, rfl⟩
    · exact .inr ⟨hexpired, _, rfl⟩

theorem remaining_makes : Makes ks a.remaining :=
  .bind .of_get fun _ => .ite (.of_throw _) (.of_pure _)

theorem checkDeadline_makes : Makes ks a.checkDeadline :=
  .bind a.isExpired_makes fun _ => .ite (.of_throw _) (.of_pure _)

theorem arm_makes (hk : .alarm ∈ ks) : Makes ks a.arm :=
  .bind a.remaining_makes fun _ => change_makes hk (fun _ => rfl) fun _ => .alarm _

theorem disarm_makes (hk : .alarm ∈ ks) : Makes ks disarm :=
  change_makes hk (fun _ => rfl) fun _ => .alarm _

/-! ## The request -/

theorem get_makes (hks : requesting ⊆ ks) (url : String) : Makes ks (a.get url) := by
  have hclock : .clock ∈ ks := hks (by simp [requesting])
  have hnote : .note ∈ ks := hks (by simp [requesting])
  have hask : .ask ∈ ks := hks (by simp [requesting])
  have hnetwork : .network ∈ ks := hks (by simp [requesting])
  have hanswer : .answer ∈ ks := hks (by simp [requesting])
  have hholding : .holding ∈ ks := hks (by simp [requesting])
  refine .bind a.remaining_makes fun left => .bind .of_get fun m =>
    .bind (.of_attempt (request_makes hask hnetwork hclock hanswer rfl url)) fun result => ?_
  cases result with
  | ok answered =>
    obtain ⟨id, response⟩ := answered
    refine .bind (change_makes hholding (fun _ => rfl) fun _ => .hold id) fun _ =>
      .bind a.isExpired_makes fun _ => .ite ?_ (.of_pure _)
    exact .bind (closeConnection_makes hnetwork hnote id) fun _ => .of_throw _
  | error fault =>
    refine .ite (.of_throw _) (.ite (.of_throw _) ?_)
    exact .bind a.isExpired_makes fun _ => .ite (.of_throw _) (.of_throw _)

theorem follow_makes (hks : requesting ⊆ ks) (id : Nat) (r : Response) :
    Makes ks (a.follow id r) := by
  have hnote : .note ∈ ks := hks (by simp [requesting])
  have hnetwork : .network ∈ ks := hks (by simp [requesting])
  refine .ite ?_ (.of_pure _)
  exact .bind (closeConnection_makes hnetwork hnote id) fun _ => .bind (.of_settle _) fun url =>
    .bind (record_makes hnote _ _ _) fun _ => a.get_makes hks url

theorem request_makes (hks : requesting ⊆ ks) : Makes ks a.request := by
  have hnote : .note ∈ ks := hks (by simp [requesting])
  have hnetwork : .network ∈ ks := hks (by simp [requesting])
  refine .bind (a.get_makes hks a.url) fun answered =>
    .bind (a.follow_makes hks answered.1 answered.2) fun followed => .ite ?_ (.of_pure _)
  exact .bind (closeConnection_makes hnetwork hnote _) fun _ => .of_throw _

/-! ## The body -/

variable {l : Location}

theorem writeChunk_makes (hks : pouring l \ {.reading} ⊆ ks) (reported : Nat) (bytes : ByteArray) :
    Makes ks (writeChunk l reported bytes) := by
  have hclock : .clock ∈ ks := hks (by simp [pouring])
  have hnote : .note ∈ ks := hks (by simp [pouring])
  have hcounting : .counting ∈ ks := hks (by simp [pouring])
  have hwrite : .use .write ∈ ks := hks (by simp [pouring])
  have happend : .append l ∈ ks := hks (by simp [pouring])
  refine .bind (writeFile_makes hclock hwrite happend bytes) fun _ =>
    .bind (change_makes hcounting (fun _ => rfl) fun _ => .count bytes.size) fun _ =>
    .bind .of_get fun m => .ite ?_ (.of_pure _)
  exact .bind (record_makes hnote _ _ _) fun _ => .of_pure _

theorem copy_makes (hks : pouring l ⊆ ks) (id n : Nat) :
    ∀ reported, Makes ks (a.copy id l n reported) := by
  have hclock : .clock ∈ ks := hks (by simp [pouring])
  have hreading : .reading ∈ ks := hks (by simp [pouring])
  induction n with
  | zero => exact fun _ => .of_pure _
  | succ n ih =>
    intro reported
    refine .bind (nextChunk_makes hclock hreading id) fun chunk => ?_
    cases chunk with
    | none => exact a.checkDeadline_makes
    | some bytes =>
      refine .bind a.checkDeadline_makes fun _ => .ite (ih reported) ?_
      exact .bind (writeChunk_makes (fun _ hk => hks hk.1) reported bytes)
        fun reported' => ih reported'

theorem pour_makes (hks : pouring l ⊆ ks) (id : Nat) : Makes ks (a.pour id l) := by
  have hnote : .note ∈ ks := hks (by simp [pouring])
  refine .bind (.of_observe _) fun c => ?_
  cases c with
  | none => exact .of_pure _
  | some c =>
    exact .bind (event_makes hnote _ ⟨rfl, rfl⟩) fun _ => .bind (.of_observe _) fun n =>
      a.copy_makes hks id _ _

/-- The machine whose transfer has opened its file. -/
def afterOpening (m : Machine) : Machine :=
  { m.onward with transfer := { m.transfer with hasOpened := true } }

theorem afterOpening_leads (hopening : .opening ∈ ks) (m : Machine) :
    m.Leads (StepOf ks) (afterOpening m) :=
  .step rfl (Step.opened.of hopening)

theorem fill_apply (id : Nat) (l : Location) (m : Machine) :
    a.fill id l m = (closeFile l >>= fun _ => settle (a.pour id l (afterOpening m)).1)
      (a.pour id l (afterOpening m)).2 := rfl

theorem closing_makes (hclock : .clock ∈ ks) (hhandle : .handle ∈ ks) (hclose : .use .close ∈ ks)
    {α : Type} (result : Except Fault α) : Makes ks (closeFile l >>= fun _ => settle result) :=
  .bind (closeFile_makes hclock hclose hhandle l) fun _ => .of_settle _

/-- What follows after the transfer has opened its file. -/
theorem fill_leads (hks : writing l ⊆ ks) (id : Nat) (m : Machine) :
    (afterOpening m).Leads (StepOf ks) (a.fill id l m).2 := by
  have hclock : .clock ∈ ks := hks (by simp [writing])
  have hhandle : .handle ∈ ks := hks (by simp [writing])
  have hclose : .use .close ∈ ks := hks (by simp [writing])
  rw [fill_apply]
  exact (a.pour_makes ((pouring_subset_writing l).trans hks) id _).trans
    (closing_makes hclock hhandle hclose _ _)

theorem conclude_makes (url : String) (result : Except Fault Unit) :
    Makes ks (a.conclude url result) := by
  cases result with
  | ok _ => exact .of_pure _
  | error fault => exact .bind a.isExpired_makes fun _ => .of_throw _

theorem stream_apply (id : Nat) (m : Machine) :
    a.stream id m = (closeConnection id >>= fun _ =>
      a.conclude (((m.network.connection? id).map (·.url)).getD a.url) (a.save id m).1)
      (a.save id m).2 := by
  simp only [stream, connection?, observe_bind_apply, attempt_bind_apply]

theorem ending_makes (hnetwork : .network ∈ ks) (hnote : .note ∈ ks) (id : Nat) (url : String)
    (result : Except Fault Unit) :
    Makes ks (closeConnection id >>= fun _ => a.conclude url result) :=
  .bind (closeConnection_makes hnetwork hnote id) fun _ => a.conclude_makes url result

/-! ## The file -/

theorem guarding_makes {α : Type} {x : MachineAction α} (hx : Makes ks x) (problem : Problem) :
    Makes ks (guarding problem x) := by
  refine .bind (.of_attempt hx) fun result => ?_
  cases result with
  | ok result => exact .of_pure _
  | error fault => exact .of_throw _

theorem verify_makes (hclock : .clock ∈ ks) (hnote : .note ∈ ks) (hstat : .use .stat ∈ ks) :
    Makes ks a.verify :=
  .bind (guarding_makes (fileStatus_makes hclock hstat _) _) fun _ =>
    .ite (.of_throw _) (record_makes hnote _ _ _)

theorem guarding_cases {α : Type} (problem : Problem) (x : MachineAction α) (m : Machine) :
    ((∃ e, (x m).1 = .error e) ∧ ∃ e, guarding problem x m = (.error e, (x m).2)) ∨
    guarding problem x m = x m := by
  unfold guarding
  rw [attempt_bind_apply]
  rcases hx : x m with ⟨e | result, m'⟩
  · exact .inl ⟨⟨e, rfl⟩, _, rfl⟩
  · exact .inr rfl

theorem permitExecution_cases (path : String) (m : Machine) :
    (m.Leads (StepOf finishing) (permitExecution path m).2 ∧
      ∃ e, (permitExecution path m).1 = .error e) ∨
    ∃ m₁ size mode files, m.Leads (StepOf finishing) m₁ ∧
      m.files.status m.location path = .ok (size, mode) ∧
      m₁.files.setMode m₁.location path (mode ||| executeBits) = .ok files ∧
      permitExecution path m = (.ok (), { m₁.onward with files }) := by
  have hclock : .clock ∈ finishing := by simp [finishing]
  have hstat : .use .stat ∈ finishing := by simp [finishing]
  have hchmod : .use .chmod ∈ finishing := by simp [finishing]
  have hfiles : ∀ k ∈ finishing, k.location? = none := by simp [finishing, location?]
  unfold permitExecution
  rcases fileStatus_cases hclock hstat path m with
    ⟨hleads, e, he⟩ | ⟨m₁, size, mode, hleads, hs, heq⟩
  · rw [bind_of_error (Prod.ext he rfl)]
    exact .inl ⟨hleads, e, rfl⟩
  · rw [hleads.files_eq hfiles, World.location, hleads.precedes.current] at hs
    rw [bind_of_ok heq]
    rcases setMode_cases hclock hchmod path (mode ||| executeBits) m₁ with
      ⟨hleads', he'⟩ | ⟨m₂, files, hleads', hset, heq'⟩
    · exact .inl ⟨hleads.trans hleads', he'⟩
    · exact .inr ⟨m₂, size, mode, files, hleads.trans hleads', hs, hset, heq'⟩

theorem permitExecution_makes {reached : Set Location} {path : String}
    (hl : Path.LeadsInto path reached) :
    Makes (permitting reached) (permitExecution path) := by
  have hclock : .clock ∈ permitting reached := .inl (by simp [finishing])
  have hstat : .use .stat ∈ permitting reached := .inl (by simp [finishing])
  have hchmod : .use .chmod ∈ permitting reached := .inl (by simp [finishing])
  exact .bind (fileStatus_makes hclock hstat path) fun status =>
    setMode_makes hclock hchmod (fun t current l hwalk => .inr ⟨l, hl t current l hwalk, rfl⟩)
      (status.2 ||| executeBits)

theorem makeExecutable_makes {reached : Set Location}
    (hl : Path.LeadsInto a.target reached) : Makes (permitting reached) a.makeExecutable :=
  .bind a.remaining_makes fun _ => .bind (.of_observe _) fun _ =>
    .ite (.of_pure _) (guarding_makes (permitExecution_makes hl) _)

/-- The permissions of the target are changed by the last step of the stage, or not at all. -/
theorem makeExecutable_cases (m : Machine) :
    (m.Leads (StepOf finishing) (a.makeExecutable m).2 ∧ ∃ e, (a.makeExecutable m).1 = .error e) ∨
    a.isExpiredAt m.toWorld = false ∧ (m.lacksExecuteBits ∧ a.makeExecutable m = (.ok (), m) ∨
      m.lacksExecuteBits = false ∧ ∃ m₁ size mode files, m.Leads (StepOf finishing) m₁ ∧
        m.files.status m.location a.target = .ok (size, mode) ∧
        m₁.files.setMode m₁.location a.target (mode ||| executeBits) = .ok files ∧
        a.makeExecutable m = (.ok (), { m₁.onward with files })) := by
  unfold makeExecutable
  rcases a.remaining_cases m with ⟨e, hleft⟩ | ⟨hexpired, left, hleft⟩
  · rw [bind_of_error hleft]
    exact .inl ⟨.refl m, e, rfl⟩
  rw [bind_of_ok hleft, observe_bind_apply]
  split_ifs with hlacks
  · exact .inr ⟨hexpired, .inl ⟨hlacks, rfl⟩⟩
  rw [Bool.not_eq_true] at hlacks
  rcases guarding_cases (.notExecutable a.target) (permitExecution a.target) m with
    ⟨⟨e, he⟩, e', he'⟩ | heq
  · rw [he']
    rcases permitExecution_cases a.target m with ⟨hleads, -⟩ | ⟨_, _, _, _, -, -, -, hok⟩
    · exact .inl ⟨hleads, e', rfl⟩
    · rw [hok] at he
      cases he
  · rw [heq]
    rcases permitExecution_cases a.target m with hfails | hpermits
    · exact .inl hfails
    · exact .inr ⟨hexpired, .inr ⟨hlacks, hpermits⟩⟩

theorem removePartial_makes (hclock : .clock ∈ ks) (hnote : .note ∈ ks)
    (hremove : .use .remove ∈ ks) (hl : Path.LeadsInto a.target {l | .removal l ∈ ks}) :
    Makes ks a.removePartial := by
  refine .bind .of_get fun m => .ite (.of_pure _) ?_
  refine .bind (.of_attempt (removeFile_makes hclock hremove hl)) fun result => ?_
  cases result with
  | ok _ => exact record_makes hnote _ _ _
  | error fault => exact .ite (.of_pure _) (record_makes hnote _ _ _)

theorem report_makes (hnote : .note ∈ ks) (result : Except Fault Nat) :
    Makes ks (a.report result) := by
  unfold report
  split
  · exact record_makes hnote _ _ _
  · exact record_makes hnote _ _ _
  · exact .of_pure _

end Attempt

end ServerLauncher
