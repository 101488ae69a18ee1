import ServerLauncher.Proofs.Delivery
import ServerLauncher.Proofs.Outcome

/-!
# The artifact of a download

A download that succeeds has read the whole body of the last answer, an answer with status 200 from
the requested address or from the address of one redirect.  The target holds exactly that body and
can be executed.

## Main definitions

* `Attempt.Completes`: what a successful attempt has made of one machine in another one.

## Main statements

* `Attempt.run_eq_ok`: the stages succeed only with a complete artifact.
* `Downloader.download_completes`: so does a download.
-/

namespace ServerLauncher

open MachineAction World StepKind

/-- The permissions of a file that has been made executable, where there is such a thing.  Of a mode
only the lowest twelve bits are permissions. -/
def executableMode (lacksExecuteBits : Bool) (mode : Nat) : Nat :=
  if lacksExecuteBits then mode else mode % 0o10000 ||| executeBits

/-- The last answer that was received is a given one, whose body has been read to its end. -/
def World.HasReadAll (w : World) (r : Response) : Prop :=
  ∃ c, w.network.connections.getLast? = some c ∧ c.response = r ∧ c.chunks = []

theorem World.HasReadAll.leads {ks : Set StepKind} {m m' : Machine} {r : Response}
    (h : m.toWorld.HasReadAll r) (hleads : m.Leads (StepOf ks) m')
    (hks : .answer ∉ ks ∧ .reading ∉ ks) : m'.toWorld.HasReadAll r := by
  obtain ⟨hanswer, hreading⟩ := hks
  obtain ⟨c, hlast, hresponse, hnil⟩ := h
  rw [List.getLast?_eq_getElem?] at hlast
  obtain ⟨c', hc', hcc', hchunks, -⟩ := hleads.connection? hlast
  refine ⟨c', ?_, hcc'.response.trans hresponse, (hchunks hreading).trans hnil⟩
  rw [List.getLast?_eq_getElem?, hleads.connections_length_eq hanswer]
  exact hc'

namespace Attempt

variable {a : Attempt} {m m' m'' : Machine} {l : Location} {r : Response} {n : Nat}

/-- The attempt has made a file of the body of an answer, which is the last one received. -/
structure Completes (a : Attempt) (m m' : Machine) (l : Location) (r : Response) (n : Nat) :
    Prop where
  /-- One answer has been received since, or a redirect and one more. -/
  answers : ∃ url answers, m'.network.answers = m.network.answers ++ answers ∧
    a.Answers answers url r
  status : r.status = 200
  read : m'.toWorld.HasReadAll r
  whole : ∀ chunk ∈ r.chunks, ∃ bytes, chunk.content = .ok bytes
  /-- The file has the permissions with which it was opened, and those to execute it. -/
  file : m'.files.find m'.location a.target = .ok (l, .file (bytesOf r.chunks)
    (executableMode m.lacksExecuteBits (Entry.openedMode (m.files.get? l))))
  size : n = (bytesOf r.chunks).size
  nonempty : 0 < n

/-- What neither receives nor reads nor touches the file keeps it complete. -/
theorem Completes.leads {ks : Set StepKind} (h : a.Completes m m' l r n)
    (hleads : m'.Leads (StepOf ks) m'')
    (hks : .answer ∉ ks ∧ .reading ∉ ks ∧ ∀ k ∈ ks, k.location? ≠ some l) :
    a.Completes m m'' l r n := by
  obtain ⟨hanswer, hreading, hlocation⟩ := hks
  obtain ⟨hwalk, hentry⟩ := FileTree.find_eq_ok.mp h.file
  have hentry' := (hleads.get?_eq hlocation).trans hentry
  refine ⟨?_, h.status, h.read.leads hleads ⟨hanswer, hreading⟩, h.whole,
    FileTree.find_eq_ok.mpr ⟨hleads.precedes.walk_eq_ok hwalk, hentry'⟩, h.size, h.nonempty⟩
  rw [hleads.answers_eq hanswer]
  exact h.answers

/-! ## The stages -/

/-- A file that has been made executable keeps its content. -/
theorem makeExecutable_eq_ok {content : ByteArray} {mode : Nat}
    (hwalk : m.files.walk m.location a.target = .ok l)
    (hentry : m.files.get? l = some (.file content mode))
    (h : a.makeExecutable m = (.ok (), m')) :
    m.Leads (StepOf (finishing ∪ {.permission l})) m' ∧
      m'.files.get? l = some (.file content (executableMode m.lacksExecuteBits mode)) := by
  rcases a.makeExecutable_cases m with ⟨-, e, he⟩ | ⟨-, ⟨hlacks, heq⟩ | ⟨hlacks, m₁, size, mode',
    files, hleads, hstatus, hset, heq⟩⟩
  · rw [h] at he
    cases he
  · rw [h] at heq
    cases heq
    exact ⟨.refl m, by rw [executableMode, if_pos hlacks]; exact hentry⟩
  · rw [h] at heq
    cases heq
    have hfiles : m₁.files = m.files := hleads.files_eq (by simp [finishing, location?])
    have hentry₁ : m₁.files.get? l = some (.file content mode) := by
      rw [hfiles]
      exact hentry
    rw [FileTree.status_of_file hwalk hentry] at hstatus
    cases hstatus
    rw [FileTree.setMode_of_file (hleads.precedes.walk_eq_ok hwalk) hentry₁] at hset
    cases hset
    have hbits : (mode ||| executeBits) % 0o10000 = executableMode m.lacksExecuteBits mode := by
      rw [executableMode, hlacks, if_neg Bool.false_ne_true]
      exact Nat.or_mod_two_pow (n := 12)
    have hl : l ≠ [] := FileTree.ne_nil_of_not_directory (t := m.files) (by simp [hentry])
    refine ⟨(hleads.of_subset fun _ => .inl).trans
      (.step rfl ((Step.permission l content mode _ hentry₁).of (.inr rfl))), ?_⟩
    rw [← hbits]
    exact (FileTree.get?_put hl).trans (if_pos rfl)

/-- The stages succeed only with a complete artifact. -/
theorem run_eq_ok (hwritten : m.transfer.written = 0) (h : a.run m = (.ok n, m')) :
    ∃ l r, a.Completes m m' l r n := by
  unfold run at h
  obtain ⟨_, m₁, hdeliver, h⟩ := bind_eq_ok.mp h
  obtain ⟨_, m₂, hmake, h⟩ := bind_eq_ok.mp h
  rw [get_bind_apply, pure_apply, Prod.mk.injEq, Except.ok.injEq] at h
  obtain ⟨rfl, rfl⟩ := h
  obtain ⟨l, r, c, ⟨id, hfilled⟩, ⟨url, answers, hanswers, hone⟩, hstatus, hnonempty⟩ :=
    deliver_eq_ok hwritten hdeliver
  obtain ⟨hleads, hentry⟩ := makeExecutable_eq_ok hfilled.walk hfilled.entry hmake
  have hlast : m₁.network.connections.getLast? = some c := by
    rw [List.getLast?_eq_getElem?, hfilled.last]
    exact hfilled.pouring.connection?
  have hread : m₁.toWorld.HasReadAll r := ⟨c, hlast, hfilled.response, hfilled.nothingLeft⟩
  have hsize : m₂.transfer.written = (bytesOf r.chunks).size := by
    rw [hleads.written_eq (by simp [finishing]), hfilled.written_eq]
  rw [((a.deliver_makes).leads hdeliver).precedes.lacksExecuteBits] at hentry
  refine ⟨l, r, ⟨url, answers, ?_, hone⟩, hstatus, hread.leads hleads (by simp [finishing]),
    hfilled.complete, ?_, hsize, ?_⟩
  · rw [hleads.answers_eq (by simp [finishing])]
    exact hanswers
  · exact FileTree.find_eq_ok.mpr ⟨hleads.precedes.walk_eq_ok hfilled.walk, hentry⟩
  · rw [hsize]
    exact Nat.pos_of_ne_zero hnonempty

/-- An attempt succeeds only with a complete artifact. -/
theorem perform_eq_succeeded (hwritten : m.transfer.written = 0)
    (h : a.perform m = (.ok (.succeeded n), m')) : ∃ l r, a.Completes m m' l r n := by
  rw [perform_apply, Prod.mk.injEq, outcomeOf_eq_succeeded] at h
  obtain ⟨hresult, hafter⟩ := h
  obtain ⟨l, r, hrun⟩ := run_eq_ok hwritten (Prod.ext hresult rfl)
  have hleads := a.afterRun_ok_leads (n := n) (a.run m).2
  rw [hresult] at hafter
  rw [hafter] at hleads
  exact ⟨l, r, hrun.leads hleads (by simp [location?])⟩

end Attempt

/-! ## The download -/

/-- A download that succeeds has made an executable file of the whole body of the last answer. -/
theorem Downloader.download_completes {d : Downloader} {url target : String} {timeout : Double}
    {m m' : Machine} {n : Nat}
    (h : d.download url target timeout m = (.ok (.succeeded n), m')) :
    ∃ l r, (d.attemptOn url target timeout m).Completes m m' l r n := by
  rw [download_apply] at h
  obtain ⟨l, r, hcomplete⟩ := Attempt.perform_eq_succeeded (by rw [Attempt.begin_transfer]) h
  exact ⟨l, r, hcomplete.answers, hcomplete.status, hcomplete.read, hcomplete.whole, hcomplete.file,
    hcomplete.size, hcomplete.nonempty⟩

/-- A file of mode `600` is there, and the address redirects to one whose answer comes in three
chunks, of which one is empty. -/
def redirectedMachine : Machine :=
  .answering ⟨[(["x"], .file ⟨#[9]⟩ 0o600)]⟩
    [("http://h/a", { status := 302, headers := [("Location", "/b")] }),
      ("http://h/b", { chunks := [{ content := .ok ⟨#[1, 2]⟩ }, { content := .ok .empty },
        { content := .ok ⟨#[3]⟩ }] })]

theorem Downloader.download_completes_redirected :
    ∃ m', Downloader.download {} "http://h/a" "/x" (.infinite false) redirectedMachine =
        (.ok (.succeeded 3), m') ∧
      ∃ l r, (Downloader.attemptOn {} "http://h/a" "/x" (.infinite false)
        redirectedMachine).Completes redirectedMachine m' l r 3 := by
  have hresult : (Downloader.download {} "http://h/a" "/x" (.infinite false)
      redirectedMachine).1.toOption.map (·.bytesWritten) = some (2 + 1) := by decide +kernel
  have hdownload := FetchOutcome.eq_succeeded hresult
  exact ⟨_, hdownload, Downloader.download_completes hdownload⟩

end ServerLauncher
