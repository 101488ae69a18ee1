import Mathlib.Data.Set.Insert
import Mathlib.Tactic.SplitIfs
import ServerLauncher.Machine.FileActions
import ServerLauncher.Machine.NetworkActions
import ServerLauncher.Proofs.FileTree
import ServerLauncher.Proofs.Moments

/-!
# The steps of a download

What the actions on files and on the network do to the world, one step at a time.  There are few
kinds of steps, and each action is made of some of them; whatever all steps of these kinds keep is
kept by the action at every moment.

## Main definitions

* `StepKind`: the kinds of steps, those that concern files with the location of the file.
* `World.Step`: the steps.
* `Path.LeadsInto`: a path leads to some locations only.
* `MachineAction.Makes`: an action makes steps of certain kinds only.

## Main statements

* `MachineAction.makeDirectories_makes`, `MachineAction.nextChunk_makes` and so on: the kinds of
  steps of each action.
* `MachineAction.openFile_cases`: a file is opened at once or not at all.
-/

namespace ServerLauncher

/-! ## Steps -/

/-- Whether a request is seen. -/
def Event.isRequest : Event → Bool
  | request .. => true
  | _ => false

/-- Whether pipes to a program are opened, since it is started, or one is closed. -/
def Event.isOfPipes : Event → Bool
  | start .. | closePipe .. => true
  | _ => false

theorem Event.not_isOfPipes_of_isRequest {e : Event} (h : e.isRequest) :
    e.isOfPipes = false := by
  cases e with
  | request => rfl
  | _ => cases h

/-- The kinds of steps. -/
inductive StepKind where
  /-- Time passes, or the alarm goes off. -/
  | clock
  /-- Something is recorded, or can be seen from outside. -/
  | note
  /-- A request is sent. -/
  | ask
  /-- An operation on files is counted. -/
  | use (op : FileOperation)
  /-- A file becomes open for writing, or is no longer. -/
  | handle
  /-- A request is taken off those to be answered, or a connection is closed. -/
  | network
  /-- An answer is received. -/
  | answer
  /-- A chunk is taken. -/
  | reading
  /-- The alarm is switched on or off. -/
  | alarm
  /-- The transfer holds another connection. -/
  | holding
  /-- The transfer has opened its file. -/
  | opening
  /-- Bytes are counted as written. -/
  | counting
  /-- A directory is made. -/
  | directory (l : Location)
  /-- A file is made, or loses its content. -/
  | create (l : Location)
  /-- A file is added to. -/
  | append (l : Location)
  /-- A file gets other permissions. -/
  | permission (l : Location)
  /-- A file is removed. -/
  | removal (l : Location)

/-- A path leads to some locations only, whatever the files are. -/
def Path.LeadsInto (path : String) (ls : Set Location) : Prop :=
  ∀ (t : FileTree) (current l : Location), t.walk current path = .ok l → l ∈ ls

theorem Path.leadsInto_univ (path : String) : LeadsInto path Set.univ :=
  fun _ _ l _ => Set.mem_univ l

/-- The permissions of a file that is opened for writing: those it has, or those of new files. -/
def Entry.openedMode : Option Entry → Nat
  | some (.file _ mode) => mode
  | _ => usualMode

namespace World

/-- The steps, by their kinds. -/
inductive Step (w : World) : StepKind → World → Prop where
  | tick (t : Nat) (h : w.now ≤ t) : Step w .clock { w with now := t }
  | ring (t : Nat) (network : Network) (events : List Event) (records : List Record)
      (halarm : w.transfer.alarm = .at t)
      (hnetwork : network = w.network ∨ ∃ id, w.transfer.connection = some id ∧
        network = w.network.change id fun c => { c with isShut := true })
      (hevents : ∀ e ∈ events, ∃ url, e = .shutdown url) :
      Step w .clock { w with
        now := max w.now t
        transfer := { w.transfer with alarm := .off, hasExpired := true }
        network
        events := w.events ++ events
        records := w.records ++ records }
  | note (events : List Event) (records : List Record)
      (hevents : ∀ e ∈ events, e.isRequest = false ∧ e.isOfPipes = false) :
      Step w .note { w with events := w.events ++ events, records := w.records ++ records }
  | ask (e : Event) (h : e.isRequest) : Step w .ask { w with events := w.events ++ [e] }
  | use (op : FileOperation) :
      Step w (.use op) { w with uses := fun o => if o = op then w.uses o + 1 else w.uses o }
  | handle (opened : List Location) : Step w .handle { w with opened }
  | reply (replies : List (String × List Reply)) :
      Step w .network { w with network := { w.network with replies } }
  | close (id : Nat) :
      Step w .network { w with network := w.network.change id fun c => { c with isClosed := true } }
  | connect (url : String) (r : Response) :
      Step w .answer { w with network := (w.network.connect url r).2 }
  | take (id : Nat) :
      Step w .reading { w with
        network := w.network.change id fun c => { c with chunks := c.chunks.tail } }
  | alarm (alarm : Alarm) :
      Step w .alarm { w with transfer := { w.transfer with alarm } }
  | hold (id : Nat) :
      Step w .holding { w with transfer := { w.transfer with connection := some id } }
  | opened :
      Step w .opening { w with transfer := { w.transfer with hasOpened := true } }
  | count (n : Nat) :
      Step w .counting { w with transfer := { w.transfer with written := w.transfer.written + n } }
  | directory (l : Location) (h : w.files.get? l = none) :
      Step w (.directory l) { w with files := w.files.put l .directory }
  | create (l : Location) (h : w.files.get? l ≠ some .directory) :
      Step w (.create l) { w with
        files := w.files.put l (.file .empty (Entry.openedMode (w.files.get? l))) }
  | append (l : Location) (bytes : ByteArray) :
      Step w (.append l) { w with files := w.files.append l bytes }
  | permission (l : Location) (content : ByteArray) (old mode : Nat)
      (h : w.files.get? l = some (.file content old)) :
      Step w (.permission l) { w with files := w.files.put l (.file content mode) }
  | removal (l : Location) (h : w.files.get? l ≠ some .directory) :
      Step w (.removal l) { w with files := w.files.erase l }

/-- The steps of some kinds. -/
def StepOf (ks : Set StepKind) (w w' : World) : Prop := ∃ k ∈ ks, w.Step k w'

theorem Step.of {ks : Set StepKind} {k : StepKind} {w w' : World} (h : w.Step k w') (hk : k ∈ ks) :
    StepOf ks w w' := ⟨k, hk, h⟩

theorem StepOf.mono {ks ks' : Set StepKind} (hks : ks ⊆ ks') {w w' : World} :
    StepOf ks w w' → StepOf ks' w w' := fun ⟨k, hk, hs⟩ => ⟨k, hks hk, hs⟩

/-- Nothing changes when no time passes. -/
theorem Step.stay (w : World) : w.Step .clock w := .tick w.now (Nat.le_refl _)

end World

namespace Machine

/-! ## The clock -/

/-- Steps of some kinds are steps of more kinds. -/
theorem Leads.of_subset {ks ks' : Set StepKind} {m m' : Machine}
    (h : m.Leads (World.StepOf ks) m') (hks : ks ⊆ ks') : m.Leads (World.StepOf ks') m' :=
  h.mono fun _ _ => World.StepOf.mono hks

/-- What changes when the alarm goes off. -/
theorem ring_eq (m : Machine) (t : Nat) : ∃ network events records,
    (network = m.network ∨ ∃ id, m.transfer.connection = some id ∧
      network = m.network.change id fun c => { c with isShut := true }) ∧
    (∀ e ∈ events, ∃ url, e = .shutdown url) ∧
    m.ring t = { m with
      now := max m.now t
      transfer := { m.transfer with alarm := .off, hasExpired := true }
      network
      events := m.events ++ events
      records := m.records ++ records } := by
  unfold ring cutOff
  split
  · exact ⟨m.network, [], [], .inl rfl, by simp, by simp⟩
  · next id hid =>
    split
    · exact ⟨m.network, [], [], .inl rfl, by simp, by simp⟩
    · next c _ =>
      have hshutdown : ∀ e ∈ [Event.shutdown c.url], ∃ url, e = .shutdown url := by simp
      simp only
      split
      · exact ⟨m.network, _, _, .inl rfl, hshutdown, rfl⟩
      · exact ⟨_, _, _, .inr ⟨id, hid, rfl⟩, hshutdown, rfl⟩

theorem onward_leads {ks : Set StepKind} (hk : .clock ∈ ks) (m : Machine) :
    m.Leads (World.StepOf ks) m.onward :=
  .step rfl ((World.Step.stay _).of hk)

/-- The alarm goes off, if it does, as a step of the clock. -/
theorem ringBy_leads {ks : Set StepKind} (hk : .clock ∈ ks) (m : Machine) (t : Nat) :
    m.Leads (World.StepOf ks) (m.onward.ringBy t) := by
  unfold ringBy
  split
  · next time halarm =>
    split
    · obtain ⟨network, events, records, hnetwork, hevents, heq⟩ := m.onward.ring_eq time
      rw [heq]
      exact .step rfl
        ((World.Step.ring _ network events records halarm hnetwork hevents).of hk)
    · exact onward_leads hk m
  · exact onward_leads hk m

theorem tick_leads {ks : Set StepKind} (hk : .clock ∈ ks) (m : Machine) (t : Nat) :
    m.Leads (World.StepOf ks) { m.onward with now := max m.now t } :=
  .step rfl ((World.Step.tick _ (Nat.le_max_left _ _)).of hk)

theorem advanceTo_leads {ks : Set StepKind} (hk : .clock ∈ ks) (m : Machine) (t : Nat) :
    m.Leads (World.StepOf ks) (m.onward.advanceTo t) :=
  (ringBy_leads hk m t).trans (tick_leads hk _ t)

theorem ringBy_now_le (m : Machine) (limit : Nat) :
    (m.ringBy limit).now ≤ max m.now limit := by
  unfold ringBy
  split
  · next t _ =>
    split
    · next ht =>
      obtain ⟨network, events, records, -, -, heq⟩ := m.ring_eq t
      rw [heq]
      show max m.now t ≤ max m.now limit
      omega
    · exact Nat.le_max_left _ _
  · exact Nat.le_max_left _ _

theorem advance_now (m : Machine) (micros : Nat) :
    (m.advance micros).now = m.now + micros := by
  have hle := m.ringBy_now_le (m.now + micros)
  show max (m.ringBy (m.now + micros)).now (m.now + micros) = m.now + micros
  omega

end Machine

/-! ## Actions -/

namespace MachineAction

/-- An action makes steps of certain kinds only. -/
abbrev Makes {α : Type} (ks : Set StepKind) (x : MachineAction α) : Prop :=
  Proceeds (World.StepOf ks) x

theorem Makes.leads {α : Type} {ks : Set StepKind} {x : MachineAction α} (h : Makes ks x)
    {m m' : Machine} {result : Except Fault α} (hx : x m = (result, m')) :
    m.Leads (World.StepOf ks) m' := by
  have hleads := h m
  rwa [hx] at hleads

section Kinds

variable {ks : Set StepKind}

theorem change_makes {k : StepKind} {g : Machine → Machine} (hk : k ∈ ks)
    (hpast : ∀ m, (g m).past = m.past)
    (h : ∀ m : Machine, m.toWorld.Step k (g m.onward).toWorld) : Makes ks (change g) :=
  .of_change hpast fun m => (h m).of hk

theorem pass_makes (hk : .clock ∈ ks) (d : Nat) : Makes ks (pass d) := fun m =>
  Machine.advanceTo_leads hk m _

theorem record_makes (hk : .note ∈ ks) (level : Level) (source : Source) (message : String) :
    Makes ks (record level source message) :=
  change_makes hk (fun _ => rfl) fun m => by
    simpa [Machine.record] using
      World.Step.note (w := m.toWorld) [] [⟨level, source, message⟩] (by simp)

theorem event_makes (hk : .note ∈ ks) (e : Event)
    (he : e.isRequest = false ∧ e.isOfPipes = false) : Makes ks (event e) :=
  change_makes hk (fun _ => rfl) fun m => by
    simpa [Machine.observe] using World.Step.note (w := m.toWorld) [e] [] (by simpa using he)

theorem request_event_makes (hk : .ask ∈ ks) {e : Event} (he : e.isRequest) : Makes ks (event e) :=
  change_makes hk (fun _ => rfl) fun _ => .ask e he

/-! ### Files -/

theorem suffer_makes (hk : .clock ∈ ks) (path : Option String) (ds : List Disturbance) :
    Makes ks (suffer path ds) := by
  induction ds with
  | nil => exact .of_pure _
  | cons d rest ih =>
    refine .bind (pass_makes hk _) fun _ => ?_
    cases d.errno with
    | none => exact ih
    | some errno => exact .of_throw _

theorem use_makes (hk : .clock ∈ ks) {op : FileOperation} (hop : .use op ∈ ks)
    (path : Option String) : Makes ks (use op path) :=
  .bind (change_makes hop (fun _ => rfl) fun _ => .use op) fun _ =>
    .bind (.of_observe _) fun _ => suffer_makes hk _ _

theorem suffer_cases (path : Option String) (ds : List Disturbance) (m : Machine) :
    (∃ d ∈ ds, ∃ errno, d.errno = some errno ∧
      (suffer path ds m).1 = .error (.system errno path)) ∨ (suffer path ds m).1 = .ok () := by
  induction ds generalizing m with
  | nil => exact .inr rfl
  | cons d rest ih =>
    rw [suffer, pass, change_bind_apply]
    rcases herrno : d.errno with _ | errno
    · rcases ih _ with ⟨d', hd', hfails⟩ | hok
      · exact .inl ⟨d', List.mem_cons_of_mem _ hd', hfails⟩
      · exact .inr hok
    · exact .inl ⟨d, List.mem_cons_self, errno, herrno, rfl⟩

/-- The use of an operation fails only from a disturbance of that use. -/
theorem use_cases (op : FileOperation) (path : Option String) (m : Machine) :
    (∃ d ∈ m.disturbances, d.operation = op ∧ d.number = m.uses op + 1 ∧
      ∃ errno, d.errno = some errno ∧ (use op path m).1 = .error (.system errno path)) ∨
    (use op path m).1 = .ok () := by
  unfold use
  rw [change_bind_apply, observe_bind_apply]
  refine Or.imp_left ?_ (suffer_cases path _ _)
  rintro ⟨d, hd, hfails⟩
  unfold disturbances at hd
  rw [List.mem_filter, Bool.and_eq_true, beq_iff_eq, beq_iff_eq] at hd
  obtain ⟨hmem, hop, hnumber⟩ := hd
  exact ⟨d, hmem, hop, hnumber.trans (if_pos rfl), hfails⟩

/-- A change of the files either fails at once or is made. -/
theorem changeFiles_cases {α : Type} (path : String)
    (f : FileTree → Location → Except Nat (FileTree × α)) (m : Machine) :
    (∃ e, changeFiles path f m = (.error e, m)) ∨ ∃ files a,
      f m.files m.location = .ok (files, a) ∧
      changeFiles path f m = (.ok a, { m.onward with files }) := by
  unfold changeFiles
  split_ifs
  · exact .inl ⟨_, rfl⟩
  · rcases hf : f m.files m.location with errno | ⟨files, a⟩
    · exact .inl ⟨_, rfl⟩
    · exact .inr ⟨files, a, rfl, rfl⟩

/-- A change of the files is a step if it succeeds. -/
theorem changeFiles_makes {α : Type} {path : String}
    {f : FileTree → Location → Except Nat (FileTree × α)}
    (h : ∀ (w : World) (files : FileTree) (a : α), f w.files w.location = .ok (files, a) →
      World.StepOf ks w { w with files }) : Makes ks (changeFiles path f) := by
  intro m
  rcases changeFiles_cases path f m with ⟨e, heq⟩ | ⟨files, a, hf, heq⟩
  · rw [heq]
    exact .refl m
  · rw [heq]
    exact .step rfl (h m.toWorld files a hf)

/-- A change of the files after the use of an operation either fails or is made at once. -/
theorem changing_cases {α : Type} (hk : .clock ∈ ks) {op : FileOperation} (hop : .use op ∈ ks)
    (used : Option String) (path : String) (f : FileTree → Location → Except Nat (FileTree × α))
    (m : Machine) :
    (m.Leads (World.StepOf ks) ((use op used >>= fun _ => changeFiles path f) m).2 ∧
      ∃ e, ((use op used >>= fun _ => changeFiles path f) m).1 = .error e) ∨
    ∃ m₁ files a, m.Leads (World.StepOf ks) m₁ ∧ f m₁.files m₁.location = .ok (files, a) ∧
      (use op used >>= fun _ => changeFiles path f) m = (.ok a, { m₁.onward with files }) := by
  have huse := use_makes hk hop used m
  rcases hm : use op used m with ⟨e | _, m₁⟩
  · rw [bind_of_error hm]
    rw [hm] at huse
    exact .inl ⟨huse, e, rfl⟩
  · rw [bind_of_ok hm]
    rw [hm] at huse
    rcases changeFiles_cases path f m₁ with ⟨e, heq⟩ | ⟨files, a, hf, heq⟩
    · rw [heq]
      exact .inl ⟨huse, e, rfl⟩
    · exact .inr ⟨m₁, files, a, huse, hf, heq⟩

/-- A look at the files is a step in which no time passes. -/
theorem looking_makes {α : Type} (hk : .clock ∈ ks) {op : FileOperation} (hop : .use op ∈ ks)
    (used : Option String) (path : String) (look : FileTree → Location → Except Nat α) :
    Makes ks (use op used >>= fun _ =>
      changeFiles path fun files l => (look files l).map (files, ·)) :=
  .bind (use_makes hk hop _) fun _ => changeFiles_makes fun w files a h => by
    rcases hs : look w.files w.location with _ | s
    · rw [hs] at h
      cases h
    · rw [hs] at h
      cases h
      exact (World.Step.stay w).of hk

theorem fileStatus_makes (hk : .clock ∈ ks) (hop : .use .stat ∈ ks) (path : String) :
    Makes ks (fileStatus path) :=
  looking_makes hk hop _ path fun files l => files.status l path

theorem readFile_makes (hk : .clock ∈ ks) (hop : .use .open ∈ ks) (path : String) :
    Makes ks (readFile path) :=
  looking_makes hk hop _ path fun files l => files.read l path

theorem fileStatus_cases (hk : .clock ∈ ks) (hop : .use .stat ∈ ks) (path : String) (m : Machine) :
    (m.Leads (World.StepOf ks) (fileStatus path m).2 ∧ ∃ e, (fileStatus path m).1 = .error e) ∨
    ∃ m₁ size mode, m.Leads (World.StepOf ks) m₁ ∧
      m₁.files.status m₁.location path = .ok (size, mode) ∧
      fileStatus path m = (.ok (size, mode), m₁) := by
  rcases changing_cases hk hop (some path) path
    (fun files l => (files.status l path).map (files, ·)) m with
    hfails | ⟨m₁, files, a, hleads, hf, heq⟩
  · exact .inl hfails
  · rcases hs : m₁.files.status m₁.location path with errno | ⟨size, mode⟩
    · rw [hs] at hf
      cases hf
    · rw [hs] at hf
      cases hf
      exact .inr ⟨m₁.onward, size, mode, hleads.trans (Machine.onward_leads hk m₁), hs, heq⟩

theorem setMode_cases (hk : .clock ∈ ks) (hop : .use .chmod ∈ ks) (path : String) (mode : Nat)
    (m : Machine) :
    (m.Leads (World.StepOf ks) (setMode path mode m).2 ∧ ∃ e, (setMode path mode m).1 = .error e) ∨
    ∃ m₁ files, m.Leads (World.StepOf ks) m₁ ∧
      m₁.files.setMode m₁.location path mode = .ok files ∧
      setMode path mode m = (.ok (), { m₁.onward with files }) := by
  rcases changing_cases hk hop (some path) path
    (fun files l => (files.setMode l path mode).map (·, ())) m with
    hfails | ⟨m₁, files, a, hleads, hf, heq⟩
  · exact .inl hfails
  · rcases hs : m₁.files.setMode m₁.location path mode with errno | files'
    · rw [hs] at hf
      cases hf
    · rw [hs] at hf
      cases hf
      exact .inr ⟨m₁, files, hleads, hs, heq⟩

theorem makeDirectory_makes (hk : .clock ∈ ks) (hop : .use .mkdir ∈ ks) {path : String}
    (hl : Path.LeadsInto path {l | .directory l ∈ ks}) : Makes ks (makeDirectory path) :=
  .bind (use_makes hk hop _) fun _ => changeFiles_makes fun w files _ h => by
    unfold FileTree.makeDirectory at h
    rcases hwalk : w.files.walk w.location path with _ | l
    · rw [hwalk] at h
      cases h
    · rw [hwalk] at h
      by_cases hsome : (w.files.get? l).isSome
      · simp [bind, Except.bind, Except.map, hsome] at h
      · rw [Bool.not_eq_true, Option.isSome_eq_false_iff, Option.isNone_iff_eq_none] at hsome
        simp only [bind, Except.bind, Except.map, hsome, pure, Except.pure] at h
        cases h
        exact (World.Step.directory l hsome).of (hl _ _ _ hwalk)

theorem ensureDirectory_makes (hk : .clock ∈ ks) (hop : .use .mkdir ∈ ks) {path : String}
    (hl : Path.LeadsInto path {l | .directory l ∈ ks}) : Makes ks (ensureDirectory path) := by
  refine .bind (.of_attempt (makeDirectory_makes hk hop hl)) fun r => ?_
  cases r with
  | ok _ => exact .of_pure _
  | error fault => exact .bind (.of_observe _) fun b => .ite (.of_pure _) (.of_throw _)

theorem toleratingExisting_makes {x : MachineAction Unit} (hx : Makes ks x) :
    Makes ks (toleratingExisting x) := by
  refine .bind (.of_attempt hx) fun r => ?_
  cases r with
  | ok _ => exact .of_pure _
  | error fault => exact .ite (.of_pure _) (.of_throw _)

/-- Directories are made only where the path and the paths above it lead to. -/
theorem makeDirectories_makes (hk : .clock ∈ ks) (hop : .use .mkdir ∈ ks) {Q : String → Prop}
    (habove : ∀ p, Q p → (lastComponent p).1.isEmpty = false →
      (lastComponent p).2.isEmpty = false → Q (lastComponent p).1)
    (hl : ∀ p, Q p → Path.LeadsInto p {l | .directory l ∈ ks}) (n : Nat) :
    ∀ p, Q p → Makes ks (makeDirectories n p) := by
  induction n with
  | zero => exact fun p _ => .of_pure _
  | succ n ih =>
    intro p hp
    have hrest : ∀ b : Prop, [Decidable b] →
        Makes ks (if b then return () else ensureDirectory p) := fun b _ =>
      .ite (.of_pure _) (ensureDirectory_makes hk hop (hl p hp))
    have hhead := habove p hp
    unfold makeDirectories
    generalize lastComponent p = components at hhead ⊢
    obtain ⟨head, tail⟩ := components
    refine .bind (.of_observe _) fun isThere => ?_
    dsimp only at hhead ⊢
    split
    · next habv =>
      simp only [Bool.and_eq_true, Bool.not_eq_true'] at habv
      exact .bind (toleratingExisting_makes (ih _ (hhead habv.1.1 habv.1.2))) fun _ => hrest _
    · exact hrest _

/-- A file has been opened for writing, where a path led to. -/
structure Opens (path : String) (m : Machine) (l : Location) (m' : Machine) : Prop where
  leads : m.Leads (World.StepOf {.create l, .handle}) m'
  walk : m.files.walk m.location path = .ok l
  not_directory : m.files.get? l ≠ some .directory
  entry : m'.files.get? l = some (.file .empty (Entry.openedMode (m.files.get? l)))
  opened : m'.opened = l :: m.opened

theorem opens_of_create {path : String} {m : Machine} {l : Location} {files : FileTree}
    (h : m.files.create m.location path = .ok (files, l)) :
    Opens path m l { ({ m.onward with files } : Machine).onward with opened := l :: m.opened } := by
  unfold FileTree.create at h
  rcases hwalk : m.files.walk m.location path with _ | l'
  · rw [hwalk] at h
    cases h
  · rw [hwalk] at h
    simp only [bind, Except.bind] at h
    have hcreate : m.files.get? l' ≠ some .directory ∧ l' = l ∧
        files = m.files.put l' (.file .empty (Entry.openedMode (m.files.get? l'))) := by
      split at h
      · cases h
      · next content mode hget =>
        cases h
        exact ⟨by simp [hget], rfl, by rw [hget]; rfl⟩
      · next hget =>
        cases h
        exact ⟨by simp [hget], rfl, by rw [hget]; rfl⟩
    obtain ⟨hdirectory, rfl, rfl⟩ := hcreate
    have hmake : m.Leads (World.StepOf {.create l', .handle}) { m.onward with
        files := m.files.put l' (.file .empty (Entry.openedMode (m.files.get? l'))) } :=
      .step rfl ((World.Step.create l' hdirectory).of (by simp))
    refine ⟨hmake.trans (.step rfl ((World.Step.handle (l' :: m.opened)).of (by simp))), hwalk,
      hdirectory, ?_, rfl⟩
    exact (FileTree.get?_put (FileTree.ne_nil_of_not_directory hdirectory)).trans (if_pos rfl)

/-- Opening a file fails without a change of the files, or succeeds at once. -/
theorem openFile_cases (hk : .clock ∈ ks) (hop : .use .open ∈ ks) (path : String) (m : Machine) :
    (m.Leads (World.StepOf ks) (openFile path m).2 ∧ ∃ e, (openFile path m).1 = .error e) ∨
    ∃ m₁ l, m.Leads (World.StepOf ks) m₁ ∧ (openFile path m).1 = .ok l ∧
      Opens path m₁ l (openFile path m).2 := by
  have huse := use_makes hk hop (some path) m
  unfold openFile
  rcases hm : use .open (some path) m with ⟨_ | _, m₁⟩
  · rw [bind_of_error hm]
    rw [hm] at huse
    exact .inl ⟨huse, _, rfl⟩
  · rw [bind_of_ok hm]
    rw [hm] at huse
    rcases changeFiles_cases path (fun files l => files.create l path) m₁ with
      ⟨e, heq⟩ | ⟨files, l, hcreate, heq⟩
    · rw [bind_of_error heq]
      exact .inl ⟨huse, e, rfl⟩
    · rw [bind_of_ok heq]
      exact .inr ⟨m₁, l, huse, rfl, opens_of_create hcreate⟩

theorem openFile_eq_ok (hk : .clock ∈ ks) (hop : .use .open ∈ ks) {path : String} {m m' : Machine}
    {l : Location} (h : openFile path m = (.ok l, m')) :
    ∃ m₁, m.Leads (World.StepOf ks) m₁ ∧ Opens path m₁ l m' := by
  have hcases := openFile_cases hk hop path m
  rw [h] at hcases
  rcases hcases with ⟨-, e, he⟩ | ⟨m₁, l', hleads, hresult, hopens⟩
  · cases he
  · cases hresult
    exact ⟨m₁, hleads, hopens⟩

theorem openFile_makes (hk : .clock ∈ ks) (hop : .use .open ∈ ks) (hhandle : .handle ∈ ks)
    {path : String} (hl : Path.LeadsInto path {l | .create l ∈ ks}) : Makes ks (openFile path) := by
  intro m
  rcases openFile_cases hk hop path m with ⟨hleads, -⟩ | ⟨m₁, l, hleads, -, hopens⟩
  · exact hleads
  · have hcreate : .create l ∈ ks := hl _ _ _ hopens.walk
    refine hleads.trans (hopens.leads.of_subset ?_)
    rintro k (rfl | rfl)
    · exact hcreate
    · exact hhandle

theorem writeFile_makes (hk : .clock ∈ ks) (hop : .use .write ∈ ks) {l : Location}
    (hl : .append l ∈ ks) (bytes : ByteArray) : Makes ks (writeFile l bytes) :=
  .bind (use_makes hk hop _) fun _ =>
    change_makes hl (fun _ => rfl) fun _ => .append l bytes

theorem closeFile_makes (hk : .clock ∈ ks) (hop : .use .close ∈ ks) (hhandle : .handle ∈ ks)
    (l : Location) : Makes ks (closeFile l) :=
  .bind (change_makes hhandle (fun _ => rfl) fun _ => .handle _) fun _ =>
    use_makes hk hop _

theorem setMode_makes (hk : .clock ∈ ks) (hop : .use .chmod ∈ ks) {path : String}
    (hl : Path.LeadsInto path {l | .permission l ∈ ks}) (mode : Nat) :
    Makes ks (setMode path mode) := by
  refine .bind (use_makes hk hop _) fun _ => changeFiles_makes fun w files _ h => ?_
  rcases hmode : w.files.setMode w.location path mode with _ | files'
  · rw [hmode] at h
    cases h
  · rw [hmode] at h
    cases h
    unfold FileTree.setMode FileTree.find at hmode
    rcases hwalk : w.files.walk w.location path with _ | l
    · rw [hwalk] at hmode
      cases hmode
    · rw [hwalk] at hmode
      simp only [bind, Except.bind] at hmode
      rcases hget : w.files.get? l with _ | _ | ⟨content, old⟩
      · rw [hget] at hmode
        cases hmode
      · rw [hget] at hmode
        cases hmode
        exact (World.Step.stay w).of hk
      · rw [hget] at hmode
        cases hmode
        exact (World.Step.permission l content old _ hget).of (hl _ _ _ hwalk)

theorem removeFile_makes (hk : .clock ∈ ks) (hop : .use .remove ∈ ks) {path : String}
    (hl : Path.LeadsInto path {l | .removal l ∈ ks}) : Makes ks (removeFile path) := by
  refine .bind (use_makes hk hop _) fun _ => changeFiles_makes fun w files _ h => ?_
  rcases hremove : w.files.remove w.location path with _ | files'
  · rw [hremove] at h
    cases h
  · rw [hremove] at h
    cases h
    unfold FileTree.remove FileTree.find at hremove
    rcases hwalk : w.files.walk w.location path with _ | l
    · rw [hwalk] at hremove
      cases hremove
    · rw [hwalk] at hremove
      simp only [bind, Except.bind] at hremove
      rcases hget : w.files.get? l with _ | _ | ⟨content, mode⟩
      · rw [hget] at hremove
        cases hremove
      · rw [hget] at hremove
        cases hremove
      · rw [hget] at hremove
        cases hremove
        exact (World.Step.removal l (by simp [hget])).of (hl _ _ _ hwalk)

/-! ### The network -/

/-- The next answer for an address is taken off those to come. -/
theorem takeReply_makes (hnetwork : .network ∈ ks) (url : String) :
    Makes ks (change fun m => { m with network := (m.network.next url).2 }) :=
  change_makes hnetwork (fun _ => rfl) fun m => by
    have hnext : (m.network.next url).2 =
        { m.network with replies := (m.network.next url).2.replies } := by
      unfold Network.next
      split <;> rfl
    have hstep := World.Step.reply (w := m.toWorld) (m.network.next url).2.replies
    rw [← hnext] at hstep
    exact hstep

theorem request_makes (hask : .ask ∈ ks) (hnetwork : .network ∈ ks) (hk : .clock ∈ ks)
    (hanswer : .answer ∈ ks) {e : Event} (he : e.isRequest) (url : String) :
    Makes ks (request e url) := by
  refine .bind (request_event_makes hask he) fun _ => .bind (.of_observe _) fun reply =>
    .bind (takeReply_makes hnetwork url) fun _ => .bind (pass_makes hk _) fun _ => ?_
  split
  · exact .of_throw _
  · exact .bind (.of_observe _) fun id =>
      .bind (change_makes hanswer (fun _ => rfl) fun _ => .connect url _) fun _ => .of_pure _

theorem closeConnection_makes (hnetwork : .network ∈ ks) (hnote : .note ∈ ks) (id : Nat) :
    Makes ks (closeConnection id) := by
  refine .bind (.of_observe _) fun c => ?_
  cases c with
  | none => exact .of_pure _
  | some c =>
    refine .ite (.of_pure _) ?_
    exact .bind (change_makes hnetwork (fun _ => rfl) fun _ => .close id) fun _ =>
      event_makes hnote _ ⟨rfl, rfl⟩

theorem wait_makes (hk : .clock ∈ ks) (id delay : Nat) : Makes ks (wait id delay) := by
  intro m
  have hring := Machine.ringBy_leads hk m (m.now + delay)
  simp only [wait, change_apply]
  split
  · exact hring
  · exact hring.trans (Machine.tick_leads hk _ _)

theorem takeChunk_makes (hreading : .reading ∈ ks) (id : Nat) (effect : ShutdownEffect)
    (chunk : Chunk) : Makes ks (takeChunk id effect chunk) := by
  refine .bind (.of_observe _) fun b => .ite ?_ ?_
  · cases effect with
    | failure => exact .of_throw _
    | none | endOfBody => exact .of_pure _
  · exact .bind (change_makes hreading (fun _ => rfl) fun _ => .take id) fun _ => .of_settle _

theorem nextChunk_makes (hk : .clock ∈ ks) (hreading : .reading ∈ ks) (id : Nat) :
    Makes ks (nextChunk id) := by
  refine .bind (.of_observe _) fun c => ?_
  split
  · exact .of_pure _
  · split
    · exact .of_pure _
    · refine .bind (.of_observe _) fun b => ?_
      split
      · exact .bind (wait_makes hk _ _) fun _ => takeChunk_makes hreading _ _ _
      · exact takeChunk_makes hreading _ _ _

end Kinds

end MachineAction

end ServerLauncher
