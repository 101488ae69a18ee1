import ServerLauncher.Proofs.Cleanup
import ServerLauncher.Proofs.CommandLines
import ServerLauncher.Proofs.Loading
import ServerLauncher.Proofs.Reuse
import ServerLauncher.Proofs.Walking

/-!
# A download that the next command resolves

One command downloads the server, the next one looks for it.  The first takes the installation
directory as it is written, the second makes it absolute; in between nothing is remembered but the
files.

## Main definitions

* `Command.targetOf`: where a download puts the server.
* `SettledMachine`: a machine whose current directory is there.
* `Machine.Continues`: a machine on which a command follows another one.

## Main statements

* `Command.download_eq_ok`: what a download that succeeds has done.
* `Command.loadConfig_again`: a configuration whose file is unchanged is loaded again.
* `Command.resolve_after_download`: a server that was downloaded is resolved.
-/

namespace ServerLauncher

open MachineAction World StepKind

/-! ## What stays -/

/-- No step changes the environment, or what is known of the platform. -/
theorem World.Step.surroundings_eq {w w' : World} {k : StepKind} (h : w.Step k w') :
    (w'.environment, w'.facts) = (w.environment, w.facts) := by
  cases h <;> rfl

namespace Machine.Leads

variable {ks : Set StepKind} {m m' : Machine}

theorem platform?_eq (h : m.Leads (StepOf ks) m') : m'.platform? = m.platform? := by
  have hsame := h.keeps_eq (f := fun w => (w.environment, w.facts)) fun _ _ _ _ hs =>
    hs.surroundings_eq
  obtain ⟨henvironment, hfacts⟩ := Prod.mk.inj hsame
  unfold Machine.platform? Machine.detectedFacts
  rw [henvironment, hfacts]

end Machine.Leads

/-! ## Downloads -/

namespace Attempt

variable {a : Attempt} {m m' : Machine} {n : Nat}

/-- A delivery that succeeds has changed the target, and made directories. -/
theorem deliver_touches (h : a.deliver m = (.ok (), m')) :
    ∃ l, m'.files.walk m'.location a.target = .ok l ∧
      m.Leads (StepOf (touching Set.univ l)) m' := by
  have hcases := deliver_cases (makeDirectoryFor_makes a.target) m
  rw [h] at hcases
  rcases hcases with ⟨-, e, he⟩ | ⟨m₁, l, m₂, hbefore, hopens, hafter⟩
  · cases he
  have hopening : m₂.Leads (StepOf {.opening}) (afterOpening m₂) := afterOpening_leads (by simp) m₂
  have hlater := hopens.leads.precedes.trans (hopening.precedes.trans hafter.precedes)
  refine ⟨l, hlater.walk_eq_ok hopens.walk, ?_⟩
  refine (hbefore.of_subset (preparing_subset_touching _ _)).trans
    ((hopens.leads.of_subset ?_).trans ((hopening.of_subset ?_).trans (hafter.of_subset ?_)))
  · exact subset_touching _ (by simp [location?])
  · exact subset_touching _ (by simp [location?])
  · refine subset_touching _ ?_
    simp [location?, writing, checking, or_imp, forall_and]

/-- An attempt that succeeds has changed the target, and made directories. -/
theorem perform_touches (hwritten : m.transfer.written = 0)
    (h : a.perform m = (.ok (.succeeded n), m')) :
    ∃ l, m'.files.walk m'.location a.target = .ok l ∧
      m.Leads (StepOf (touching Set.univ l)) m' := by
  rw [perform_apply, Prod.mk.injEq, outcomeOf_eq_succeeded] at h
  obtain ⟨hresult, rfl⟩ := h
  have hrun : a.run m = (.ok n, (a.run m).2) := Prod.ext hresult rfl
  rw [hresult]
  generalize (a.run m).2 = m₂ at hrun ⊢
  obtain ⟨_, m₁, hdeliver, hrest⟩ := bind_eq_ok.mp hrun
  obtain ⟨_, m₃, hmake, hend⟩ := bind_eq_ok.mp hrest
  rw [get_bind_apply, pure_apply, Prod.mk.injEq] at hend
  obtain ⟨-, rfl⟩ := hend
  obtain ⟨l, hwalk, hdelivering⟩ := deliver_touches hdeliver
  -- Both facts about the delivery speak of the same place, since its walk has one end.
  obtain ⟨l', r, c, ⟨id, hfilled⟩, -, -, -⟩ := deliver_eq_ok hwritten hdeliver
  cases hwalk.symm.trans hfilled.walk
  have hmaking := (makeExecutable_eq_ok hfilled.walk hfilled.entry hmake).1
  have hafter := a.afterRun_ok_leads (n := n) m₃
  refine ⟨l, (hmaking.precedes.trans hafter.precedes).walk_eq_ok hwalk, hdelivering.trans
    ((hmaking.of_subset ?_).trans (hafter.of_subset ?_))⟩
  · refine subset_touching _ ?_
    simp [location?, finishing, or_imp, forall_and]
  · exact subset_touching _ (by simp [location?])

end Attempt

/-- A download that succeeds keeps the files that lie elsewhere. -/
theorem Downloader.download_spares_files {d : Downloader} {url target : String} {timeout : Double}
    {m m' : Machine} {n : Nat} (h : d.download url target timeout m = (.ok (.succeeded n), m'))
    {l k : Location} (hwalk : m'.files.walk m'.location target = .ok l) (hk : k ≠ l)
    {content : ByteArray} {mode : Nat} (hfile : m.files.get? k = some (.file content mode)) :
    m'.files.get? k = some (.file content mode) := by
  rw [download_apply] at h
  set a := d.attemptOn url target timeout m
  obtain ⟨l', hwalk', hleads⟩ := Attempt.perform_touches (by rw [Attempt.begin_transfer]) h
  cases hwalk.symm.trans hwalk'
  -- Elsewhere only directories are made, and none where there is a file already.
  have hentry := hleads.get?_eq_or_made (l := k) fun kind hkind hlocation => by
    rcases hkind k hlocation with rfl | ⟨-, hdirectory⟩
    · exact absurd rfl hk
    · exact hdirectory
  rw [a.begin_files] at hentry
  rcases hentry with hsame | ⟨-, hnone, -⟩
  · rw [hsame, hfile]
  · rw [hfile] at hnone
    cases hnone

/-- A download loses no directory, and happens in the same surroundings. -/
theorem Downloader.download_keeps (d : Downloader) (url target : String) (timeout : Double)
    (m : Machine) : m.files.Keeps (d.download url target timeout m).2.files ∧
      (d.download url target timeout m).2.current = m.current ∧
      (d.download url target timeout m).2.platform? = m.platform? := by
  rw [download_apply]
  have hleads := (d.attemptOn url target timeout m).perform_makes
    ((d.attemptOn url target timeout m).begin m).2
  exact ⟨hleads.precedes.directories, hleads.precedes.current, hleads.platform?_eq⟩

/-! ## Machines -/

/-- A machine whose current directory is there, and is given by a normalized absolute path. -/
structure SettledMachine extends Machine where
  isAbsolute : Path.isAbsolute current
  normalized : Path.normalize current = current
  isDirectory : files.isDirectory toMachine.location current

/-- A machine on which a command follows another one that has left a machine: the files, the current
directory and the platform are the same, and no operation on files fails by itself. -/
structure Machine.Continues (m' m : Machine) : Prop where
  files : m'.files = m.files
  current : m'.current = m.current
  platform : m'.platform? = m.platform?
  fine : ∀ d ∈ m'.disturbances, d.errno = none

/-- The current directory is found from the root as long as no directory is lost. -/
theorem SettledMachine.walk (s : SettledMachine) {t : FileTree} (hkeeps : s.files.Keeps t) :
    t.walk [] s.current = .ok (FileTree.locate s.current) := by
  obtain ⟨slashes, components, hspells⟩ := Path.normalize_spells s.isAbsolute
  rw [s.normalized] at hspells
  have hthere := s.isDirectory
  unfold FileTree.isDirectory at hthere
  rcases hfind : s.files.find s.location s.current with errno | ⟨l, entry⟩
  · rw [hfind] at hthere
    cases hthere
  · obtain ⟨hwalk, -⟩ := FileTree.find_eq_ok.mp hfind
    obtain ⟨hnull, rfl, hencloses⟩ := hspells.walk_eq_ok.mp (FileTree.walk_of_keeps hkeeps hwalk)
    exact hspells.walk_eq_ok.mpr ⟨hnull, rfl, hencloses⟩

namespace Command

open Config (loading load_makes load_fst_eq_ok readFile_of_read read_of_readFile)

variable {reader : Config.Reader} {choices : Choices} {config : Config} {m m₁ m' : Machine}

/-! ## Loading once more -/

theorem handling_fst_eq_ok {α : Type} {handled : Fault → Bool} {describe : String → String}
    {x : MachineAction α} {a : α} :
    (handling handled describe x m).1 = .ok a ↔ (x m).1 = .ok a := by
  unfold handling
  rcases x m with ⟨fault | b, m₁⟩
  · simp
  · simp

theorem handling_snd {α : Type} {handled : Fault → Bool} {describe : String → String}
    {x : MachineAction α} : (handling handled describe x m).2 = (x m).2 := by
  unfold handling
  rcases x m with ⟨fault | a, m₁⟩
  · rfl
  · rfl

theorem loadConfig_leads (reader : Config.Reader) (choices : Choices) (m : Machine) :
    m.Leads (StepOf loading) (loadConfig reader choices m).2 := by
  unfold loadConfig
  rw [handling_snd]
  rcases choices.configPath with _ | path
  · exact .refl m
  · exact load_makes reader path m

/-- A configuration whose file is unchanged is loaded again. -/
theorem loadConfig_again (h : (loadConfig reader choices m).1 = .ok config)
    (hfine : ∀ d ∈ m'.disturbances, d.errno = none)
    (hsame : ∀ path, choices.configPath = some path → ∀ content,
      m.files.read m.location (Path.display path) = .ok content →
        m'.files.read m'.location (Path.display path) = .ok content) :
    (loadConfig reader choices m').1 = .ok config := by
  unfold loadConfig at h ⊢
  rw [handling_fst_eq_ok] at h ⊢
  rcases hpath : choices.configPath with _ | path
  · rw [hpath] at h
    exact h
  · rw [hpath] at h
    obtain ⟨content, hread, hconfig⟩ := load_fst_eq_ok.mp h
    have hfile := readFile_of_read hfine (hsame path hpath content (read_of_readFile hread))
    exact load_fst_eq_ok.mpr ⟨content, hfile, hconfig⟩

/-! ## The commands -/

/-- Where a download puts the server. -/
def targetOf (choices : Choices) (m : Machine) : String :=
  Path.join choices.installDir (binaryName m.platform?)

theorem target_of_forPlatform {version dir : String} {platform : Option PlatformId}
    {spec : DownloadSpec} (h : DownloadSpec.forPlatform version platform dir = some spec) :
    spec.target = Path.join dir (binaryName platform) := by
  unfold DownloadSpec.forPlatform at h
  obtain ⟨p, rfl, h⟩ := Option.bind_eq_some_iff.mp h
  obtain ⟨artifact, -, h⟩ := Option.bind_eq_some_iff.mp h
  cases h
  rfl

/-- A download that succeeds says how many bytes it has put where. -/
theorem download_eq_ok {version : Option String} {messages : Messages}
    (h : download choices config version m = (.ok messages, m')) : ∃ spec n,
      spec.target = targetOf choices m ∧
      Downloader.download {} spec.url spec.target config.downloadTimeout
        (Acquirer.announced spec m) = (.ok (.succeeded n), m') ∧
      messages.output =
        ["Downloaded " ++ toString n ++ " bytes to " ++ targetOf choices m] := by
  have hresult := handling_fst_eq_ok.mp (congrArg Prod.fst h)
  have hmachine := handling_snd.symm.trans (congrArg Prod.snd h)
  rw [observe_bind_apply] at hresult hmachine
  dsimp only at hresult hmachine
  generalize hspec : DownloadSpec.forPlatform _ m.platform? choices.installDir = spec?
    at hresult hmachine
  rcases spec? with _ | spec
  · cases hresult
  dsimp only at hresult hmachine
  have htarget : spec.target = targetOf choices m := target_of_forPlatform hspec
  have hfetch := Acquirer.fetch_apply {} spec config.downloadTimeout m
  rcases hdownload : Downloader.download {} spec.url spec.target config.downloadTimeout
    (Acquirer.announced spec m) with ⟨fault | ⟨n⟩ | ⟨problem, cause⟩, m₁⟩
  · rw [bind_of_error (hfetch.trans hdownload)] at hresult
    cases hresult
  · rw [bind_of_ok (hfetch.trans hdownload)] at hresult hmachine
    cases hresult
    cases hmachine
    exact ⟨spec, n, htarget, hdownload, by rw [← htarget]; rfl⟩
  · rw [bind_of_ok (hfetch.trans hdownload)] at hresult
    cases hresult

/-- An executable file has been put where a path leads, and everything else is as it was but for
more directories. -/
structure Installs (target : String) (m m' : Machine) (l : Location) (content : ByteArray)
    (mode : Nat) : Prop where
  walk : m'.files.walk m'.location target = .ok l
  entry : m'.files.get? l = some (.file content mode)
  executes : mode &&& executeBits ≠ 0
  elsewhere : ∀ k ≠ l, ∀ content' mode', m.files.get? k = some (.file content' mode') →
    m'.files.get? k = some (.file content' mode')
  keeps : m.files.Keeps m'.files
  current : m'.current = m.current
  platform : m'.platform? = m.platform?

/-- A download that succeeds has installed the server. -/
theorem download_installs {version : Option String} {messages : Messages}
    (hbits : m.lacksExecuteBits = false)
    (h : download choices config version m = (.ok messages, m')) : ∃ l content mode,
      Installs (targetOf choices m) m m' l content mode ∧
      messages.output =
        ["Downloaded " ++ toString content.size ++ " bytes to " ++ targetOf choices m] := by
  obtain ⟨spec, n, htarget, hdownload, houtput⟩ := download_eq_ok h
  obtain ⟨l, r, hcompletes⟩ := Downloader.download_completes hdownload
  obtain ⟨hwalk, hentry⟩ := FileTree.find_eq_ok.mp hcompletes.file
  have hannounced : (Acquirer.announced spec m).lacksExecuteBits = false := hbits
  rw [hannounced] at hentry
  obtain ⟨hkeeps, hcurrent, hplatform⟩ := Downloader.download_keeps {} spec.url spec.target
    config.downloadTimeout (Acquirer.announced spec m)
  rw [hdownload] at hkeeps hcurrent hplatform
  refine ⟨l, _, _, ⟨htarget ▸ hwalk, hentry, Acquirer.executableMode_executes _, ?_, hkeeps,
    hcurrent, hplatform⟩, ?_⟩
  · intro k hk content' mode' hfile
    exact Downloader.download_spares_files hdownload hwalk hk hfile
  · rw [houtput, hcompletes.size]

/-- A file elsewhere is read again as it was. -/
theorem Installs.read_again {target path : String} {l : Location} {content bytes : ByteArray}
    {mode : Nat} (h : Installs target m m' l content mode)
    (hne : m'.files.walk m'.location path ≠ m'.files.walk m'.location target)
    (hread : m.files.read m.location path = .ok bytes) :
    m'.files.read m'.location path = .ok bytes := by
  obtain ⟨k, mode', hwalk, hentry⟩ := FileTree.read_eq_ok.mp hread
  have hlocation : m'.location = m.location := congrArg FileTree.locate h.current
  have hwalk' : m'.files.walk m'.location path = .ok k := by
    rw [hlocation]
    exact FileTree.walk_of_keeps h.keeps hwalk
  have hk : k ≠ l := by
    rintro rfl
    rw [hwalk', h.walk] at hne
    exact hne rfl
  exact FileTree.read_eq_ok.mpr ⟨k, mode', hwalk', h.elsewhere k hk bytes mode' hentry⟩

/-- The acquirer of a command. -/
def acquirerOf (choices : Choices) (m : Machine) : Acquirer :=
  Acquirer.create choices.installDir none {} none m

/-- The path that a command tries first if none is configured. -/
def firstPath (choices : Choices) (m : Machine) : String :=
  Path.join (acquirerOf choices m).installDir (acquirerOf choices m).binaryName

/-- The path that is acquired is shown. -/
theorem resolve_apply (isVerbose : Bool) {source : AcquisitionSource} {path : String}
    (h : Acquirer.Returns ((acquirerOf choices m).acquire config none m).1 source path) :
    (∃ errors, (resolve choices config isVerbose m).1 = .ok { output := [path], errors }) ∧
      (resolve choices config isVerbose m).2 =
        ((acquirerOf choices m).acquire config none m).2 := by
  obtain ⟨ds, hacquired⟩ := h
  unfold acquirerOf at hacquired ⊢
  unfold resolve
  rw [handling_snd]
  simp only [handling_fst_eq_ok]
  rw [observe_bind_apply, bind_of_ok (Prod.ext hacquired rfl), pure_apply]
  exact ⟨⟨_, rfl⟩, rfl⟩

theorem isName_binaryName (platform : Option PlatformId) :
    Path.IsName (binaryName platform).toList := by
  have hname : binaryName platform = "capnp-ls" ∨ binaryName platform = "capnp-ls.exe" := by
    rcases platform with _ | p
    · exact .inl rfl
    · unfold binaryName
      dsimp only
      split_ifs
      · exact .inr rfl
      · exact .inl rfl
  rcases hname with hname | hname
  · rw [hname]
    exact ⟨by decide, by decide, by decide, by decide⟩
  · rw [hname]
    exact ⟨by decide, by decide, by decide, by decide⟩

/-- Where a server lies in the installation directory it is found, if no path is configured. -/
theorem resolve_of_accepts (hserver : config.serverPath = "")
    (haccepts : (acquirerOf choices m).accepts m (firstPath choices m)) (isVerbose : Bool) :
    (∃ errors, (resolve choices config isVerbose m).1 =
        .ok { output := [firstPath choices m], errors }) ∧
      m.Tells (resolve choices config isVerbose m).2 := by
  set a := acquirerOf choices m
  have hdecides := (a.acquire_goes config none m).decides
  have hnot : ¬a.Overrides config m := fun h => h.1 hserver
  have hfound := Acquirer.found_of_accepts haccepts none
  obtain ⟨hresult, hmachine⟩ := resolve_apply isVerbose ((hdecides.candidate _).mpr ⟨hnot, hfound⟩)
  refine ⟨hresult, ?_⟩
  rw [hmachine]
  refine hdecides.untouched fun spec hdownloads => ?_
  rw [hdownloads.not_found] at hfound
  cases hfound

/-! ## Two commands -/

variable {i : Interface} {words words' : List String} {task : Task} {version : Option String}
  {messages : Messages} {isVerbose : Bool}

/-- A command that fails while it is carried out does not end well. -/
theorem exitCode_of_handling (hi : i.IsLawful) {α : Type} {handled : Fault → Bool}
    {describe : String → String} {x : MachineAction α} {stop : Stop}
    (h : (handling handled describe x m).1 = .error stop) :
    (resultOf i choices (.error stop)).exitCode ≠ 0 := by
  unfold handling at h
  rcases hx : x m with ⟨fault | a, m₁⟩
  · rw [hx] at h
    cases h
    unfold stopOf
    split_ifs
    · exact hi.failed _
    · exact Nat.one_ne_zero
  · rw [hx] at h
    cases h

/-- The configuration is loaded, and a task is performed with it. -/
def performLoaded (reader : Config.Reader) (choices : Choices) (task : Task) : Step Messages := do
  let config ← loadConfig reader choices
  perform reader.rooms.environment choices config task

/-- A command line that is understood does no more than that. -/
theorem run_of_understands (reader : Config.Reader) (h : i.Understands words m choices task) :
    run reader i words m = (resultOf i choices (performLoaded reader choices task m).1,
      (performLoaded reader choices task m).2) := by
  obtain ⟨rest, hchoices, htask⟩ := h
  have hcarry : carryOut reader i choices rest m = performLoaded reader choices task m := by
    rcases hload : loadConfig reader choices m with ⟨stop | config, m₁⟩
    · rw [carryOut, performLoaded, bind_of_error hload, bind_of_error hload]
    · rw [carryOut, performLoaded, bind_of_ok hload, bind_of_ok hload, get_bind_apply, htask m₁]
  unfold run
  rw [hchoices]
  exact congrArg (fun r => (resultOf i choices r.1, r.2)) hcarry

/-- A download that ends well has loaded its configuration and succeeded. -/
theorem run_download (hi : i.IsLawful) (h : i.Understands words m choices (.download version))
    (hexit : (run reader i words m).1.exitCode = 0) : ∃ config m₁ messages m₂,
      loadConfig reader choices m = (.ok config, m₁) ∧
      download choices config version m₁ = (.ok messages, m₂) ∧
      run reader i words m = (resultOf i choices (.ok messages), m₂) := by
  have hrun := run_of_understands reader h
  rw [hrun] at hexit
  rcases hload : loadConfig reader choices m with ⟨stop | config, m₁⟩
  · rw [performLoaded, bind_of_error hload] at hexit
    exact absurd hexit (exitCode_of_handling hi (congrArg Prod.fst hload))
  rw [performLoaded, bind_of_ok hload, perform] at hrun hexit
  rcases hdownload : download choices config version m₁ with ⟨stop | messages, m₂⟩
  · rw [hdownload] at hexit
    exact absurd hexit (exitCode_of_handling hi (congrArg Prod.fst hdownload))
  · rw [hdownload] at hrun
    exact ⟨config, m₁, messages, m₂, rfl, hdownload, hrun⟩

theorem run_resolve (h : i.Understands words m choices (.resolve isVerbose)) {m₂ : Machine}
    (hload : loadConfig reader choices m = (.ok config, m₁))
    (hresolve : resolve choices config isVerbose m₁ = (.ok messages, m₂)) :
    run reader i words m = (resultOf i choices (.ok messages), m₂) := by
  rw [run_of_understands reader h, performLoaded, bind_of_ok hload, perform, hresolve]

/-- A single message is written as it is echoed. -/
theorem output_of_single {message : String} (h : messages.output = [message]) :
    (resultOf i choices (.ok messages)).output = i.echoed message := by
  have houtput : (resultOf i choices (.ok messages)).output =
      String.join (messages.output.map i.echoed) := rfl
  rw [houtput, h]
  simp

/-- The configuration may be loaded before the server is installed. -/
theorem run_installs {m₂ : Machine} (hbits : m.lacksExecuteBits = false)
    (hload : loadConfig reader choices m = (.ok config, m₁))
    (h : download choices config version m₁ = (.ok messages, m₂)) : ∃ l content mode,
      Installs (targetOf choices m) m m₂ l content mode ∧
      messages.output =
        ["Downloaded " ++ toString content.size ++ " bytes to " ++ targetOf choices m] := by
  have hleads := loadConfig_leads reader choices m
  rw [hload] at hleads
  have hfiles : m₁.files = m.files := hleads.files_eq (by simp [loading, location?])
  have hplatform := hleads.platform?_eq
  have hbits₁ : m₁.lacksExecuteBits = false := hleads.precedes.lacksExecuteBits.trans hbits
  have htarget : targetOf choices m₁ = targetOf choices m := by
    rw [targetOf, targetOf, hplatform]
  obtain ⟨l, content, mode, hinstalls, houtput⟩ := download_installs hbits₁ h
  rw [htarget] at hinstalls houtput
  refine ⟨l, content, mode, ⟨hinstalls.walk, hinstalls.entry, hinstalls.executes, ?_, ?_, ?_, ?_⟩,
    houtput⟩
  · rw [← hfiles]
    exact hinstalls.elsewhere
  · rw [← hfiles]
    exact hinstalls.keeps
  · exact hinstalls.current.trans hleads.precedes.current
  · exact hinstalls.platform.trans hplatform

/-- What was installed is so on every machine with the same files in the same surroundings. -/
theorem Installs.of_same {target : String} {m₂ : Machine} {l : Location} {content : ByteArray}
    {mode : Nat} (h : Installs target m m₂ l content mode) (hfiles : m'.files = m₂.files)
    (hcurrent : m'.current = m₂.current) (hplatform : m'.platform? = m₂.platform?) :
    Installs target m m' l content mode := by
  have hlocation : m'.location = m₂.location := congrArg FileTree.locate hcurrent
  refine ⟨?_, ?_, h.executes, ?_, ?_, hcurrent.trans h.current, hplatform.trans h.platform⟩
  · rw [hfiles, hlocation]
    exact h.walk
  · rw [hfiles]
    exact h.entry
  · rw [hfiles]
    exact h.elsewhere
  · rw [hfiles]
    exact h.keeps

/-- What was installed is found by its absolute path, too. -/
theorem Installs.find_absolute {s : SettledMachine} {target : String} {l : Location}
    {content : ByteArray} {mode : Nat} (h : Installs target s.toMachine m' l content mode) :
    m'.files.find m'.location (Path.absolute s.current target) = .ok (l, .file content mode) := by
  have hlocation : m'.location = FileTree.locate s.current := congrArg FileTree.locate h.current
  have hwalk := h.walk
  rw [hlocation] at hwalk ⊢
  exact FileTree.find_eq_ok.mpr
    ⟨Path.walk_absolute s.isAbsolute (s.walk h.keeps) hwalk _, h.entry⟩

/-- The first path that is tried is the absolute path of where a download puts the server. -/
theorem firstPath_eq (hcurrent : Path.isAbsolute m.current) (choices : Choices) :
    firstPath choices m = Path.absolute m.current (targetOf choices m) := by
  have hname := isName_binaryName m.platform?
  exact (Path.absolute_join hcurrent choices.installDir hname).symm

/-- What was installed is resolved. -/
theorem Installs.resolve {s : SettledMachine} {l : Location} {content : ByteArray} {mode : Nat}
    (h : Installs (targetOf choices s.toMachine) s.toMachine m' l content mode)
    (hserver : config.serverPath = "") (isVerbose : Bool) :
    (∃ errors, (resolve choices config isVerbose m').1 = .ok {
        output := [Path.absolute s.current (targetOf choices s.toMachine)], errors }) ∧
      m'.Tells (Command.resolve choices config isVerbose m').2 := by
  have hcurrent : Path.isAbsolute m'.current := h.current ▸ s.isAbsolute
  have htarget : targetOf choices m' = targetOf choices s.toMachine := by
    rw [targetOf, targetOf, h.platform]
  have hfirst := firstPath_eq hcurrent choices
  rw [htarget, h.current] at hfirst
  obtain ⟨hfile, hexecutable⟩ := FileTree.isExecutable_of_file h.find_absolute
  have haccepts : (acquirerOf choices m').accepts m' (firstPath choices m') := by
    rw [hfirst, Acquirer.accepts, hfile, hexecutable]
    simp [h.executes]
  rw [← hfirst]
  exact resolve_of_accepts hserver haccepts isVerbose

/-- A file from which a configuration has been loaded is read. -/
theorem read_of_loadConfig (h : (loadConfig reader choices m).1 = .ok config) {path : String}
    (hpath : choices.configPath = some path) :
    ∃ bytes, m.files.read m.location (Path.display path) = .ok bytes := by
  unfold loadConfig at h
  rw [handling_fst_eq_ok, hpath] at h
  obtain ⟨bytes, hread, -⟩ := load_fst_eq_ok.mp h
  exact ⟨bytes, read_of_readFile hread⟩

/-- Words are understood again after an installation if the configuration is still there. -/
theorem Installs.understands (hi : i.IsLawful) {l : Location} {content : ByteArray} {mode : Nat}
    (h : Installs (targetOf choices m) m m' l content mode)
    (hunderstands : i.Understands words m choices task)
    (hread : ∀ path, choices.configPath = some path → ∃ bytes,
      m'.files.read m'.location (Path.display path) = .ok bytes) :
    i.Understands words m' choices task := by
  obtain ⟨rest, hchoices, htask⟩ := hunderstands
  refine ⟨rest, hi.again hchoices (fun path hpath => ?_) ?_, htask⟩
  · obtain ⟨bytes, hbytes⟩ := hread path hpath
    obtain ⟨k, mode', hwalk, hentry⟩ := FileTree.read_eq_ok.mp hbytes
    exact Path.isDirectory_of_walk_display hwalk hentry
  · exact Path.isFile_of_walk_join (Path.isAbsolute_of_isName (isName_binaryName _)) h.walk

/-- The command that resolves shows the absolute path of what was installed, asks for nothing and
leaves the files as they are.  The configuration must not have been replaced. -/
theorem Installs.run_resolve {s : SettledMachine} (hi : i.IsLawful) {l : Location}
    {content : ByteArray} {mode : Nat}
    (h : Installs (targetOf choices s.toMachine) s.toMachine m' l content mode)
    (hresolve : i.Understands words s.toMachine choices (.resolve isVerbose))
    (hfine : ∀ d ∈ m'.disturbances, d.errno = none)
    (hload : (loadConfig reader choices s.toMachine).1 = .ok config)
    (hserver : config.serverPath = "")
    (hconfig : ∀ path, choices.configPath = some path →
      m'.files.walk m'.location (Path.display path) ≠
        m'.files.walk m'.location (targetOf choices s.toMachine)) :
    ∃ errors m₂,
      run reader i words m' = (resultOf i choices (.ok {
        output := [Path.absolute s.current (targetOf choices s.toMachine)], errors }), m₂) ∧
      m₂.requests = m'.requests ∧ m₂.files = m'.files := by
  have hsame : ∀ path, choices.configPath = some path → ∀ bytes,
      s.files.read s.location (Path.display path) = .ok bytes →
        m'.files.read m'.location (Path.display path) = .ok bytes :=
    fun path hpath bytes => h.read_again (hconfig path hpath)
  have hresolve' : i.Understands words m' choices (.resolve isVerbose) := by
    refine h.understands hi hresolve fun path hpath => ?_
    obtain ⟨bytes, hread⟩ := read_of_loadConfig hload hpath
    exact ⟨bytes, hsame path hpath bytes hread⟩
  have hagain := loadConfig_again hload hfine hsame
  have hleads := loadConfig_leads reader choices m'
  rcases hloaded : loadConfig reader choices m' with ⟨result, m₁⟩
  rw [hloaded] at hagain hleads
  cases hagain
  have hfiles : m₁.files = m'.files := hleads.files_eq (by simp [loading, location?])
  have hrequests : m₁.requests = m'.requests :=
    hleads.keeps_eq (f := World.requests) fun k hk _ _ hstep => hstep.requests_eq <| by
      rintro rfl
      simp [loading] at hk
  -- Loading leaves what was installed in its place.
  have hinstalls := h.of_same hfiles hleads.precedes.current hleads.platform?_eq
  obtain ⟨⟨errors, hresult⟩, htells⟩ := hinstalls.resolve hserver isVerbose
  exact ⟨errors, _, Command.run_resolve hresolve' hloaded (Prod.ext hresult rfl),
    htells.requests_eq.trans hrequests, htells.files_eq.trans hfiles⟩

/-- A server that was downloaded is resolved: the number of bytes that is shown is the size of the
file, and the next command with the same choices shows the absolute path of that very file, asks for
nothing and leaves the files as they are.  The configuration must not lie where the server is put.
That holds with every library for command lines that can be relied on, and every format of the
configuration. -/
theorem resolve_after_download (reader : Config.Reader) (hi : i.IsLawful) (s : SettledMachine)
    (hdownload : i.Understands words s.toMachine choices (.download version))
    (hresolve : i.Understands words' s.toMachine choices (.resolve isVerbose))
    (hbits : s.lacksExecuteBits = false)
    (hexit : (run reader i words s.toMachine).1.exitCode = 0)
    (hserver : ∀ config, (loadConfig reader choices s.toMachine).1 = .ok config →
      config.serverPath = "")
    (hnext : m'.Continues (run reader i words s.toMachine).2)
    (hconfig : ∀ path, choices.configPath = some path →
      m'.files.walk m'.location (Path.display path) ≠
        m'.files.walk m'.location (targetOf choices s.toMachine)) :
    let target := targetOf choices s.toMachine
    let resolved := Path.absolute s.current target
    ∃ l content mode,
      m'.files.find m'.location target = .ok (l, .file content mode) ∧
      m'.files.find m'.location resolved = .ok (l, .file content mode) ∧
      (run reader i words s.toMachine).1.output =
        i.echoed ("Downloaded " ++ toString content.size ++ " bytes to " ++ target) ∧
      (run reader i words' m').1.exitCode = 0 ∧
      (run reader i words' m').1.output = i.echoed resolved ∧
      (run reader i words' m').2.requests = m'.requests ∧
      (run reader i words' m').2.files = m'.files := by
  intro target resolved
  obtain ⟨config, m₁, messages, m₂, hload, hmessages, hrun⟩ := run_download hi hdownload hexit
  rw [hrun] at hnext ⊢
  obtain ⟨l, content, mode, hinstalled, houtput⟩ := run_installs hbits hload hmessages
  have hinstalls := hinstalled.of_same hnext.files hnext.current hnext.platform
  have hloads : (loadConfig reader choices s.toMachine).1 = .ok config := congrArg Prod.fst hload
  obtain ⟨errors, m₃, hrun', hrequests, hfiles⟩ := hinstalls.run_resolve hi hresolve hnext.fine
    hloads (hserver config hloads) hconfig
  rw [hrun']
  exact ⟨l, content, mode, FileTree.find_eq_ok.mpr ⟨hinstalls.walk, hinstalls.entry⟩,
    hinstalls.find_absolute, output_of_single houtput, rfl, output_of_single rfl, hrequests, hfiles⟩

/-- A library that understands two commands, with the options for the configuration and for the
installation directory in front. -/
def twoCommands : Interface where
  choices words _ := match words with
    | "--config" :: path :: "--install-dir" :: dir :: rest =>
      .ok (⟨some path, dir, "WARNING"⟩, rest)
    | _ => .error { exitCode := 2 }
  task words _ := match words with
    | ["download"] => .ok (.download none)
    | ["resolve"] => .ok (.resolve false)
    | _ => .error { exitCode := 2 }
  echoed message := message ++ "\n"
  failed text := { exitCode := 1, errors := "Error: " ++ text ++ "\n" }

theorem twoCommands_isLawful : twoCommands.IsLawful where
  again h _ _ := h
  failed _ := Nat.one_ne_zero

/-- A reader that knows an empty configuration. -/
def emptyReader : Config.Reader := readerOf [("{}", .mapping [])]

/-- A machine with given files from which the server may be downloaded. -/
def servingMachine (bytes : ByteArray) (files : FileTree) : Machine :=
  .answering files
    [(releaseUrl "v0.0.1" "capnp-ls-linux-x86_64", { chunks := [{ content := .ok bytes }] })]

/-- The current directory, and a configuration in it. -/
def workFiles : FileTree :=
  ⟨[(["work"], .directory), (["work", "c.yml"], .file "{}".toUTF8 0o644)]⟩

/-- The server is put into a directory next to one that is made on the way, and resolved there. -/
theorem resolve_after_download_relative :
    let words := ["--config", "c.yml", "--install-dir", "a/..//b/"]
    let m := servingMachine ⟨#[1, 2]⟩ workFiles
    let first := run emptyReader twoCommands (words ++ ["download"]) m
    let second := run emptyReader twoCommands (words ++ ["resolve"]) first.2
    ∃ l content mode,
      first.2.files.find first.2.location "a/..//b/capnp-ls" = .ok (l, .file content mode) ∧
      first.2.files.find first.2.location "/work/b/capnp-ls" = .ok (l, .file content mode) ∧
      first.1.output =
        "Downloaded " ++ toString content.size ++ " bytes to " ++ "a/..//b/capnp-ls" ++ "\n" ∧
      second.1.output = "/work/b/capnp-ls\n" ∧ second.2.requests = first.2.requests := by
  intro words m first second
  let choices : Choices := ⟨some "c.yml", "a/..//b/", "WARNING"⟩
  have hdownload : twoCommands.Understands (words ++ ["download"]) m choices (.download none) :=
    ⟨["download"], rfl, fun _ => rfl⟩
  have hresolve : twoCommands.Understands (words ++ ["resolve"]) m choices (.resolve false) :=
    ⟨["resolve"], rfl, fun _ => rfl⟩
  let s : SettledMachine := ⟨m, by decide +kernel, by decide +kernel, by decide +kernel⟩
  have hexit : first.1.exitCode = 0 := by decide +kernel
  have hnext : first.2.Continues first.2 := ⟨rfl, rfl, rfl, by decide +kernel⟩
  have hserver : ∀ config, (loadConfig emptyReader choices m).1 = .ok config →
      config.serverPath = "" := by
    intro config hconfig
    have hpath : (loadConfig emptyReader choices m).1.toOption.map Config.serverPath = some "" := by
      decide +kernel
    rw [hconfig] at hpath
    exact Option.some_inj.mp hpath
  have hconfig : ∀ path, choices.configPath = some path →
      first.2.files.walk first.2.location (Path.display path) ≠
        first.2.files.walk first.2.location (targetOf choices m) := by
    rintro path ⟨⟩
    decide +kernel
  have htarget : targetOf choices m = "a/..//b/capnp-ls" := by decide +kernel
  have habsolute : Path.absolute m.current "a/..//b/capnp-ls" = "/work/b/capnp-ls" := by
    decide +kernel
  obtain ⟨l, content, mode, hfound, hagain, hshown, -, hresolved, hrequests, -⟩ :=
    resolve_after_download emptyReader twoCommands_isLawful s hdownload hresolve rfl hexit hserver
      hnext hconfig
  have hechoed : ∀ message, twoCommands.echoed message = message ++ "\n" := fun _ => rfl
  have hline : "/work/b/capnp-ls" ++ "\n" = "/work/b/capnp-ls\n" := by decide +kernel
  rw [htarget] at hfound hagain hshown hresolved
  rw [habsolute] at hagain hresolved
  rw [hechoed] at hshown hresolved
  rw [hline] at hresolved
  subst second
  exact ⟨l, content, mode, hfound, hagain, hshown, hresolved, hrequests⟩

/-- A configuration is lost that lies where the server is put, and a configuration cannot be read
again if that fails by itself. -/
theorem resolve_after_download_unlike :
    let m := servingMachine "[".toUTF8 ⟨[(["work"], .directory), (["c"], .file "{}".toUTF8 0o644),
      (["i"], .directory), (["i", "capnp-ls"], .file "{}".toUTF8 0o644)]⟩
    (let words := ["--config", "/i/capnp-ls", "--install-dir", "/i"]
      let first := run emptyReader twoCommands (words ++ ["download"]) m
      let second := run emptyReader twoCommands (words ++ ["resolve"]) first.2
      first.1.exitCode = 0 ∧ second.1.output ≠ "/i/capnp-ls\n") ∧
    (let words := ["--config", "/c", "--install-dir", "/i"]
      let first := run emptyReader twoCommands (words ++ ["download"]) m
      let second := run emptyReader twoCommands (words ++ ["resolve"]) { first.2 with
        uses := fun _ => 0
        disturbances := [{ operation := .open, errno := some 5 }] }
      first.1.exitCode = 0 ∧ second.1.output ≠ "/i/capnp-ls\n") := by
  decide +kernel

end Command

end ServerLauncher
