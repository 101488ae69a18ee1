import ServerLauncher.Proofs.Clock
import ServerLauncher.Proofs.FileTree
import ServerLauncher.Proofs.Steps

/-!
# What steps leave as it is

Most steps touch one part of the world.  This module says which part a step of each kind leaves as
it is, and what every step keeps.

## Main definitions

* `World.EntryStep`: what steps of each kind do to the entry at a location.
* `World.Precedes`: what all steps keep.
* `World.pipeEvents`: the pipes to programs that have been opened and closed.
* `World.Spares`: nothing happens to programs.
* `World.contentAt`: the content of the file at a location.
* `World.LacksExecution`: no executable file lies at a location.

## Main statements

* `World.Step.precedes`: the clock does not go back, an expired transfer stays expired, directories
  stay, and the body of a connection gets only shorter.
* `World.Step.get?_eq`: a step that concerns another location or none leaves a location as it is.
* `World.Step.lacksExecution`: only a change of permissions makes a file executable.
-/

namespace ServerLauncher

/-- The location that steps of a kind concern. -/
def StepKind.location? : StepKind → Option Location
  | .directory l | .create l | .append l | .permission l | .removal l => some l
  | _ => none

/-! ## Connections -/

/-- A connection as it is later. -/
structure Connection.Precedes (c c' : Connection) : Prop where
  url : c'.url = c.url
  response : c'.response = c.response
  chunks : c'.chunks <:+ c.chunks

namespace Connection.Precedes

theorem refl (c : Connection) : c.Precedes c := ⟨rfl, rfl, List.suffix_refl _⟩

theorem trans {c c' c'' : Connection} (h : c.Precedes c') (h' : c'.Precedes c'') :
    c.Precedes c'' :=
  ⟨h'.url.trans h.url, h'.response.trans h.response, h'.chunks.trans h.chunks⟩

end Connection.Precedes

theorem Network.connection?_change (n : Network) (id j : Nat) (f : Connection → Connection) :
    (n.change id f).connection? j = (n.connection? j).map fun c => if id = j then f c else c := by
  unfold change connection?
  rw [List.getElem?_modify]
  rfl

theorem Network.connection?_connect {n : Network} {j : Nat} {c : Connection} (url : String)
    (r : Response) (h : n.connection? j = some c) :
    (n.connect url r).2.connection? j = some c := by
  unfold connect connection? at *
  rw [List.getElem?_append_left (List.getElem?_eq_some_iff.mp h).1]
  exact h

namespace World

variable {k : StepKind} {w w' w'' : World} {l : Location}

/-- What becomes of a connection in one step. -/
theorem Step.connection? (h : w.Step k w') {id : Nat} {c : Connection}
    (hc : w.network.connection? id = some c) :
    ∃ c', w'.network.connection? id = some c' ∧ c.Precedes c' ∧
      (k ≠ .reading → c'.chunks = c.chunks) ∧
      (c'.isShut → c.isShut ∨ w'.transfer.hasExpired) := by
  have hstay : ∃ c', w.network.connection? id = some c' ∧ c.Precedes c' ∧
      (k ≠ .reading → c'.chunks = c.chunks) ∧
      (c'.isShut → c.isShut ∨ w'.transfer.hasExpired) :=
    ⟨c, hc, .refl c, fun _ => rfl, .inl⟩
  cases h with
  | ring t network events records halarm hnetwork =>
    rcases hnetwork with rfl | ⟨j, -, rfl⟩
    · exact hstay
    · refine ⟨_, by rw [Network.connection?_change, hc]; rfl, ?_⟩
      split_ifs
      · exact ⟨⟨rfl, rfl, List.suffix_refl _⟩, fun _ => rfl, fun _ => .inr rfl⟩
      · exact ⟨.refl c, fun _ => rfl, .inl⟩
  | close j =>
    refine ⟨_, by rw [Network.connection?_change, hc]; rfl, ?_⟩
    split_ifs
    · exact ⟨⟨rfl, rfl, List.suffix_refl _⟩, fun _ => rfl, .inl⟩
    · exact ⟨.refl c, fun _ => rfl, .inl⟩
  | take j =>
    refine ⟨_, by rw [Network.connection?_change, hc]; rfl, ?_⟩
    split_ifs
    · exact ⟨⟨rfl, rfl, List.tail_suffix _⟩, fun hk => absurd rfl hk, .inl⟩
    · exact ⟨.refl c, fun _ => rfl, .inl⟩
  | connect url r =>
    exact ⟨c, Network.connection?_connect url r hc, .refl c, fun _ => rfl, .inl⟩
  | _ => exact hstay

/-! ## Files -/

theorem Step.files_eq (h : w.Step k w') (hk : k.location? = none) : w'.files = w.files := by
  cases h with
  | directory | create | append | permission | removal => cases hk
  | _ => rfl

/-- What steps of each kind do to the entry at a location. -/
inductive EntryStep (l : Location) : StepKind → Option Entry → Option Entry → Prop where
  | stay (k : StepKind) (e : Option Entry) : EntryStep l k e e
  | directory : EntryStep l (.directory l) none (some .directory)
  | create (e : Option Entry) (h : e ≠ some .directory) :
      EntryStep l (.create l) e (some (.file .empty (Entry.openedMode e)))
  | append (e : Option Entry) (bytes : ByteArray) :
      EntryStep l (.append l) e (e.map (Entry.extend bytes))
  | permission (content : ByteArray) (old mode : Nat) :
      EntryStep l (.permission l) (some (.file content old)) (some (.file content mode))
  | removal (e : Option Entry) (h : e ≠ some .directory) : EntryStep l (.removal l) e none

/-- The entry at a location changes only in steps that concern the location. -/
theorem Step.entry (h : w.Step k w') (l : Location) :
    EntryStep l k (w.files.get? l) (w'.files.get? l) := by
  cases h with
  | directory l' hnone =>
    have hne := FileTree.ne_nil_of_not_directory (t := w.files) (l := l') (by simp [hnone])
    rw [FileTree.get?_put hne]
    split_ifs with heq
    · rw [heq, hnone]
      exact .directory
    · exact .stay _ _
  | create l' hdirectory =>
    rw [FileTree.get?_put (FileTree.ne_nil_of_not_directory hdirectory)]
    split_ifs with heq
    · rw [heq]
      exact .create _ hdirectory
    · exact .stay _ _
  | append l' bytes =>
    rw [FileTree.get?_append]
    split_ifs with heq
    · rw [heq]
      exact .append _ bytes
    · exact .stay _ _
  | permission l' content old mode hfile =>
    have hne := FileTree.ne_nil_of_not_directory (t := w.files) (l := l') (by simp [hfile])
    rw [FileTree.get?_put hne]
    split_ifs with heq
    · rw [heq, hfile]
      exact .permission content old mode
    · exact .stay _ _
  | removal l' hdirectory =>
    rw [FileTree.get?_erase (FileTree.ne_nil_of_not_directory hdirectory)]
    split_ifs with heq
    · rw [heq]
      exact .removal _ hdirectory
    · exact .stay _ _
  | _ => exact .stay _ _

/-- A step that concerns another location or none leaves a location as it is. -/
theorem Step.get?_eq (h : w.Step k w') (hk : k.location? ≠ some l) :
    w'.files.get? l = w.files.get? l := by
  have hentry := h.entry l
  generalize w.files.get? l = e, w'.files.get? l = e' at hentry
  cases hentry with
  | stay => rfl
  | _ => exact absurd rfl hk

/-- A directory is made only where nothing was. -/
theorem Step.get?_eq_or_made (h : w.Step (.directory l) w') :
    w'.files.get? l = w.files.get? l ∨
      (w.files.get? l = none ∧ w'.files.get? l = some .directory) := by
  have hentry := h.entry l
  generalize w.files.get? l = e, w'.files.get? l = e' at hentry ⊢
  cases hentry with
  | stay => exact .inl rfl
  | directory => exact .inr ⟨rfl, rfl⟩

/-- Directories stay. -/
theorem Step.keeps_directories (h : w.Step k w') : w.files.Keeps w'.files := by
  intro l hl
  have hentry := h.entry l
  rw [hl] at hentry
  generalize w'.files.get? l = e' at hentry
  cases hentry with
  | stay => rfl
  | create _ hdirectory => exact absurd rfl hdirectory
  | append => rfl
  | removal _ hdirectory => exact absurd rfl hdirectory

/-- The content of the file at a location. -/
def contentAt (w : World) (l : Location) : Option ByteArray :=
  match w.files.get? l with
  | some (.file content _) => some content
  | _ => none

theorem contentAt_eq_some {content : ByteArray} :
    w.contentAt l = some content ↔ ∃ mode, w.files.get? l = some (.file content mode) := by
  unfold contentAt
  rcases w.files.get? l with _ | _ | ⟨content', mode⟩
  · simp
  · simp
  · simp

/-- A file has its content only from being made and added to. -/
theorem Step.contentAt_eq (h : w.Step k w') (hcreate : k ≠ .create l) (happend : k ≠ .append l)
    {content : ByteArray} (hcontent : w'.contentAt l = some content) :
    w.contentAt l = some content := by
  rw [contentAt_eq_some] at hcontent ⊢
  obtain ⟨mode, hfile⟩ := hcontent
  have hentry := h.entry l
  rw [hfile] at hentry
  generalize w.files.get? l = e at hentry ⊢
  generalize he' : some (Entry.file content mode) = e' at hentry
  cases hentry with
  | stay => exact ⟨mode, he'.symm⟩
  | directory => cases he'
  | create => exact absurd rfl hcreate
  | append => exact absurd rfl happend
  | permission content' old new =>
    cases he'
    exact ⟨old, rfl⟩
  | removal => cases he'

theorem Step.contentAt_of_create (h : w.Step (.create l) w') : w'.contentAt l = some .empty := by
  cases h with
  | create _ hdirectory =>
    have hl := FileTree.ne_nil_of_not_directory hdirectory
    exact contentAt_eq_some.mpr ⟨_, (FileTree.get?_put hl).trans (if_pos rfl)⟩

/-- No executable file lies at a location. -/
def LacksExecution (w : World) (l : Location) : Prop :=
  ∀ content mode, w.files.get? l = some (.file content mode) → mode &&& executeBits = 0

/-- Only a change of permissions makes a file executable. -/
theorem Step.lacksExecution (h : w.Step k w') (hk : k ≠ .permission l)
    (hlacks : w.LacksExecution l) : w'.LacksExecution l := by
  unfold LacksExecution at hlacks ⊢
  have hentry := h.entry l
  generalize w.files.get? l = e, w'.files.get? l = e' at hlacks hentry ⊢
  intro content mode hfile
  cases hentry with
  | stay => exact hlacks content mode hfile
  | directory => cases hfile
  | create =>
    cases hfile
    unfold Entry.openedMode
    split
    · exact hlacks _ _ rfl
    · decide
  | append _ bytes =>
    rcases e with _ | _ | ⟨content', mode'⟩
    · cases hfile
    · cases hfile
    · cases hfile
      exact hlacks content' _ rfl
  | permission => exact absurd rfl hk
  | removal => cases hfile

/-- A file that is there stays there unless it is removed. -/
theorem Step.file_remains (h : w.Step k w') (hk : k ≠ .removal l)
    (hfile : (w.contentAt l).isSome) : (w'.contentAt l).isSome := by
  unfold contentAt at hfile ⊢
  have hentry := h.entry l
  generalize w.files.get? l = e, w'.files.get? l = e' at hfile hentry ⊢
  cases hentry with
  | stay => exact hfile
  | directory => cases hfile
  | create => rfl
  | append _ bytes =>
    rcases e with _ | _ | ⟨content', mode'⟩
    · cases hfile
    · cases hfile
    · rfl
  | permission => rfl
  | removal => exact absurd rfl hk

/-! ## The clock -/

/-- Time passes only in steps of their own kind, and only then does a transfer expire. -/
theorem Step.clock_eq (h : w.Step k w') (hk : k ≠ .clock) :
    (w'.now, w'.transfer.hasExpired) = (w.now, w.transfer.hasExpired) := by
  cases h with
  | tick | ring => exact absurd rfl hk
  | _ => rfl

/-! ## Programs -/

/-- The pipes to programs that have been opened and closed. -/
def pipeEvents (w : World) : List Event := w.events.filter Event.isOfPipes

theorem filter_isOfPipes_append {events more : List Event}
    (h : ∀ e ∈ more, e.isOfPipes = false) :
    (events ++ more).filter Event.isOfPipes = events.filter Event.isOfPipes := by
  have hnone : more.filter Event.isOfPipes = [] := by
    rw [List.filter_eq_nil_iff]
    intro e he
    rw [h e he]
    exact Bool.false_ne_true
  rw [List.filter_append, hnone, List.append_nil]

/-- The clock does not go back, and nothing happens to programs. -/
structure Spares (w w' : World) : Prop where
  now : w.now ≤ w'.now
  started : w'.started = w.started
  pipeEvents : w'.pipeEvents = w.pipeEvents

theorem Step.spares (h : w.Step k w') : w.Spares w' := by
  cases h with
  | tick t hle => exact ⟨hle, rfl, rfl⟩
  | ring t _ _ _ _ _ hevents =>
    refine ⟨Nat.le_max_left _ _, rfl, filter_isOfPipes_append fun e he => ?_⟩
    obtain ⟨url, rfl⟩ := hevents e he
    rfl
  | note _ _ hevents =>
    exact ⟨Nat.le_refl _, rfl, filter_isOfPipes_append fun e he => (hevents e he).2⟩
  | ask e hrequest =>
    refine ⟨Nat.le_refl _, rfl, filter_isOfPipes_append fun e' he' => ?_⟩
    rw [List.mem_singleton.mp he']
    exact Event.not_isOfPipes_of_isRequest hrequest
  | _ => exact ⟨Nat.le_refl _, rfl, rfl⟩

theorem Spares.refl (w : World) : w.Spares w := ⟨Nat.le_refl _, rfl, rfl⟩

theorem Spares.trans (h : w.Spares w') (h' : w'.Spares w'') : w.Spares w'' :=
  ⟨h.now.trans h'.now, h'.started.trans h.started, h'.pipeEvents.trans h.pipeEvents⟩

theorem StepOf.spares {ks : Set StepKind} (h : StepOf ks w w') : w.Spares w' := by
  obtain ⟨k, -, hstep⟩ := h
  exact hstep.spares

/-! ## The transfer and its operations -/

/-- The requests that have been sent. -/
def requests (w : World) : List Event := w.events.filter Event.isRequest

theorem Step.connection_eq (h : w.Step k w') (hk : k ≠ .holding) :
    w'.transfer.connection = w.transfer.connection := by
  cases h with
  | hold => exact absurd rfl hk
  | _ => rfl

theorem Step.written_eq (h : w.Step k w') (hk : k ≠ .counting) :
    w'.transfer.written = w.transfer.written := by
  cases h with
  | count => exact absurd rfl hk
  | _ => rfl

theorem Step.hasOpened_eq (h : w.Step k w') (hk : k ≠ .opening) :
    w'.transfer.hasOpened = w.transfer.hasOpened := by
  cases h with
  | opened => exact absurd rfl hk
  | _ => rfl

theorem Step.opened_eq (h : w.Step k w') (hk : k ≠ .handle) : w'.opened = w.opened := by
  cases h with
  | handle => exact absurd rfl hk
  | _ => rfl

theorem Step.uses_eq (h : w.Step k w') {op : FileOperation} (hk : k ≠ .use op) :
    w'.uses op = w.uses op := by
  cases h with
  | use op' =>
    have hne : op ≠ op' := fun heq => hk (heq ▸ rfl)
    exact if_neg hne
  | _ => rfl

/-- The alarm goes off, and is switched on and off only in steps of their own kind. -/
theorem Step.alarm_cases (h : w.Step k w') (hk : k ≠ .alarm) :
    w'.transfer.alarm = w.transfer.alarm ∨
      ((∃ t, w.transfer.alarm = .at t) ∧ w'.transfer.alarm = .off ∧ w'.transfer.hasExpired) := by
  cases h with
  | alarm => exact absurd rfl hk
  | ring t network events records halarm => exact .inr ⟨⟨t, halarm⟩, rfl, rfl⟩
  | _ => exact .inl rfl

/-- An alarm that is off stays off. -/
theorem Step.alarm_off (h : w.Step k w') (hk : k ≠ .alarm) (hoff : w.transfer.alarm = .off) :
    w'.transfer.alarm = .off := by
  rcases h.alarm_cases hk with hsame | ⟨⟨t, hon⟩, -⟩
  · exact hsame.trans hoff
  · rw [hoff] at hon
    cases hon

/-- Requests are sent only in steps of their own kind. -/
theorem Step.requests_eq (h : w.Step k w') (hk : k ≠ .ask) : w'.requests = w.requests := by
  have hother : ∀ events : List Event, (∀ e ∈ events, e.isRequest = false) →
      (w.events ++ events).filter Event.isRequest = w.requests := by
    intro events hevents
    have hnone : events.filter Event.isRequest = [] := by
      rw [List.filter_eq_nil_iff]
      intro e he
      rw [hevents e he]
      exact Bool.false_ne_true
    rw [List.filter_append, hnone, List.append_nil, requests]
  cases h with
  | ring t network events records halarm hnetwork hevents =>
    refine hother events fun e he => ?_
    obtain ⟨url, heq⟩ := hevents e he
    rw [heq]
    rfl
  | note events records hevents => exact hother events fun e he => (hevents e he).1
  | ask => exact absurd rfl hk
  | _ => rfl

/-! ## What every step keeps -/

/-- A world as it is later. -/
structure Precedes (w w' : World) : Prop where
  now : w.now ≤ w'.now
  arithmetic : w'.arithmetic = w.arithmetic
  current : w'.current = w.current
  lacksExecuteBits : w'.lacksExecuteBits = w.lacksExecuteBits
  disturbances : w'.disturbances = w.disturbances
  hasExpired : w.transfer.hasExpired → w'.transfer.hasExpired
  hasOpened : w.transfer.hasOpened → w'.transfer.hasOpened
  directories : w.files.Keeps w'.files
  connection? : ∀ id c, w.network.connection? id = some c →
    ∃ c', w'.network.connection? id = some c' ∧ c.Precedes c'

namespace Precedes

theorem refl (w : World) : w.Precedes w where
  now := Nat.le_refl _
  arithmetic := rfl
  current := rfl
  lacksExecuteBits := rfl
  disturbances := rfl
  hasExpired h := h
  hasOpened h := h
  directories _ h := h
  connection? _ c hc := ⟨c, hc, .refl c⟩

theorem trans (h : w.Precedes w') (h' : w'.Precedes w'') : w.Precedes w'' where
  now := Nat.le_trans h.now h'.now
  arithmetic := h'.arithmetic.trans h.arithmetic
  current := h'.current.trans h.current
  lacksExecuteBits := h'.lacksExecuteBits.trans h.lacksExecuteBits
  disturbances := h'.disturbances.trans h.disturbances
  hasExpired := h'.hasExpired ∘ h.hasExpired
  hasOpened := h'.hasOpened ∘ h.hasOpened
  directories l hl := h'.directories l (h.directories l hl)
  connection? id c hc := by
    obtain ⟨c', hc', hcc'⟩ := h.connection? id c hc
    obtain ⟨c'', hc'', hcc''⟩ := h'.connection? id c' hc'
    exact ⟨c'', hc'', hcc'.trans hcc''⟩

theorem location_eq (h : w.Precedes w') : w'.location = w.location := by
  rw [location, location, h.current]

/-- A path leads to the same location later on. -/
theorem walk_eq_ok (h : w.Precedes w') {path : String}
    (hwalk : w.files.walk w.location path = .ok l) :
    w'.files.walk w'.location path = .ok l := by
  rw [h.location_eq]
  exact FileTree.walk_of_keeps h.directories hwalk

end Precedes

theorem Step.precedes (h : w.Step k w') : w.Precedes w' where
  now := by
    cases h with
    | tick t h => exact h
    | ring => exact Nat.le_max_left _ _
    | _ => exact Nat.le_refl _
  arithmetic := by cases h <;> rfl
  current := by cases h <;> rfl
  lacksExecuteBits := by cases h <;> rfl
  disturbances := by cases h <;> rfl
  hasExpired hexpired := by
    cases h with
    | ring => rfl
    | _ => exact hexpired
  hasOpened hopened := by
    cases h with
    | opened => rfl
    | _ => exact hopened
  directories := h.keeps_directories
  connection? id c hc := by
    obtain ⟨c', hc', hcc', -⟩ := h.connection? hc
    exact ⟨c', hc', hcc'⟩

end World

/-! ## Runs -/

namespace Machine.Leads

variable {ks : Set StepKind} {m m' : Machine} {l : Location}

theorem keeps_eq {β : Type} {f : World → β} (h : m.Leads (World.StepOf ks) m')
    (hf : ∀ k ∈ ks, ∀ w w' : World, w.Step k w' → f w' = f w) : f m'.toWorld = f m.toWorld :=
  h.keeps (S := fun w w' => f w' = f w) (fun _ => rfl) (fun _ _ _ h h' => h'.trans h)
    fun w w' ⟨k, hk, hs⟩ => hf k hk w w' hs

theorem keeps_holding {P : World → Prop} (h : m.Leads (World.StepOf ks) m')
    (hP : ∀ k ∈ ks, ∀ w w' : World, w.Step k w' → P w → P w') (hm : P m.toWorld) : P m'.toWorld :=
  h.keeps (S := fun w w' => P w → P w') (fun _ h => h) (fun _ _ _ h h' => h' ∘ h)
    (fun w w' ⟨k, hk, hs⟩ => hP k hk w w' hs) hm

theorem spares (h : m.Leads World.Spares m') : m.toWorld.Spares m'.toWorld :=
  h.keeps .refl (fun _ _ _ => .trans) fun _ _ h => h

theorem precedes (h : m.Leads (World.StepOf ks) m') : m.toWorld.Precedes m'.toWorld :=
  h.keeps .refl (fun _ _ _ => .trans) fun _ _ ⟨_, _, hs⟩ => hs.precedes

theorem get?_eq (h : m.Leads (World.StepOf ks) m') (hks : ∀ k ∈ ks, k.location? ≠ some l) :
    m'.files.get? l = m.files.get? l :=
  h.keeps_eq fun k hk _ _ hs => hs.get?_eq (hks k hk)

/-- Where directories are made at most, either nothing changes or one is made. -/
theorem get?_eq_or_made (h : m.Leads (World.StepOf ks) m')
    (hks : ∀ k ∈ ks, k.location? = some l → k = .directory l) :
    m'.files.get? l = m.files.get? l ∨
      (.directory l ∈ ks ∧ m.files.get? l = none ∧ m'.files.get? l = some .directory) := by
  induction h with
  | refl => exact .inl rfl
  | tail _ hs ih =>
    obtain ⟨-, k, hk, hstep⟩ := hs
    by_cases hl : k.location? = some l
    · cases hks k hk hl
      rcases ih with hsame | ⟨-, hnone, hmade⟩
      · rcases hstep.get?_eq_or_made with hsame' | ⟨hnone', hmade'⟩
        · exact .inl (hsame'.trans hsame)
        · exact .inr ⟨hk, hsame.symm.trans hnone', hmade'⟩
      · exact .inr ⟨hk, hnone, hstep.keeps_directories l hmade⟩
    · rw [hstep.get?_eq hl]
      exact ih

theorem files_eq (h : m.Leads (World.StepOf ks) m') (hks : ∀ k ∈ ks, k.location? = none) :
    m'.files = m.files :=
  h.keeps_eq fun k hk _ _ hs => hs.files_eq (hks k hk)

theorem clock_eq (h : m.Leads (World.StepOf ks) m') (hks : .clock ∉ ks) :
    (m'.now, m'.transfer.hasExpired) = (m.now, m.transfer.hasExpired) :=
  h.keeps_eq (f := fun w => (w.now, w.transfer.hasExpired)) fun _ hk _ _ hs =>
    hs.clock_eq fun heq => hks (heq ▸ hk)

theorem connection_eq (h : m.Leads (World.StepOf ks) m') (hks : .holding ∉ ks) :
    m'.transfer.connection = m.transfer.connection :=
  h.keeps_eq (f := (·.transfer.connection)) fun _ hk _ _ hs =>
    hs.connection_eq fun heq => hks (heq ▸ hk)

theorem written_eq (h : m.Leads (World.StepOf ks) m') (hks : .counting ∉ ks) :
    m'.transfer.written = m.transfer.written :=
  h.keeps_eq (f := (·.transfer.written)) fun _ hk _ _ hs =>
    hs.written_eq fun heq => hks (heq ▸ hk)

theorem hasOpened_eq (h : m.Leads (World.StepOf ks) m') (hks : .opening ∉ ks) :
    m'.transfer.hasOpened = m.transfer.hasOpened :=
  h.keeps_eq (f := (·.transfer.hasOpened)) fun _ hk _ _ hs =>
    hs.hasOpened_eq fun heq => hks (heq ▸ hk)

theorem opened_eq (h : m.Leads (World.StepOf ks) m') (hks : .handle ∉ ks) :
    m'.opened = m.opened :=
  h.keeps_eq (f := (·.opened)) fun _ hk _ _ hs => hs.opened_eq fun heq => hks (heq ▸ hk)

theorem uses_eq (h : m.Leads (World.StepOf ks) m') {op : FileOperation} (hks : .use op ∉ ks) :
    m'.uses op = m.uses op :=
  h.keeps_eq (f := (·.uses op)) fun _ hk _ _ hs => hs.uses_eq fun heq => hks (heq ▸ hk)

theorem lacksExecution (h : m.Leads (World.StepOf ks) m') (hks : .permission l ∉ ks)
    (hlacks : m.toWorld.LacksExecution l) : m'.toWorld.LacksExecution l :=
  h.keeps_holding (P := (·.LacksExecution l))
    (fun _ hk _ _ hs => hs.lacksExecution fun heq => hks (heq ▸ hk)) hlacks

theorem file_remains (h : m.Leads (World.StepOf ks) m') (hks : .removal l ∉ ks)
    (hfile : (m.toWorld.contentAt l).isSome) : (m'.toWorld.contentAt l).isSome :=
  h.keeps_holding (P := fun w => (w.contentAt l).isSome)
    (fun _ hk _ _ hs => hs.file_remains fun heq => hks (heq ▸ hk)) hfile

/-- What becomes of a connection. -/
theorem connection? (h : m.Leads (World.StepOf ks) m') {id : Nat} {c : Connection}
    (hc : m.network.connection? id = some c) :
    ∃ c', m'.network.connection? id = some c' ∧ c.Precedes c' ∧
      (.reading ∉ ks → c'.chunks = c.chunks) ∧
      (c'.isShut → c.isShut ∨ m'.transfer.hasExpired) := by
  induction h with
  | refl => exact ⟨c, hc, .refl c, fun _ => rfl, .inl⟩
  | tail _ hs ih =>
    obtain ⟨c', hc', hcc', hchunks', hshut'⟩ := ih
    obtain ⟨-, k, hk, hstep⟩ := hs
    obtain ⟨c'', hc'', hcc'', hchunks'', hshut''⟩ := hstep.connection? hc'
    refine ⟨c'', hc'', hcc'.trans hcc'', fun hks => ?_, fun hshut => ?_⟩
    · exact (hchunks'' fun heq => hks (heq ▸ hk)).trans (hchunks' hks)
    · rcases hshut'' hshut with hshut | hexpired
      · exact (hshut' hshut).imp_right hstep.precedes.hasExpired
      · exact .inr hexpired

end Machine.Leads

end ServerLauncher
