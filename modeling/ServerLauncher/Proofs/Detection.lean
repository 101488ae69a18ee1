import ServerLauncher.Fault
import ServerLauncher.Release

/-!
# Detecting the platform

An identifier is spelled from an operating system, a C library if it is an unusual one, and an
architecture.  The library is whatever the machine reports, so that it could bring dashes of its own
into the identifier.  Nevertheless its parts can be told: the operating system ends at the first
dash, the architecture starts after the last one, and neither holds a dash itself.

## Main definitions

* `PlatformId.systemPart`, `PlatformId.library?`, `PlatformId.machinePart`: the parts of a platform.
* `PlatformId.spell`: the identifier with given parts.
* `PlatformFacts.library?`: the unusual library of a machine.
* `PlatformFacts.spelled?`: the identifier that a machine spells.
* `PlatformFacts.HasPartsOf`: a machine has the parts of a platform.

## Main statements

* `PlatformId.spell_inj`: the parts of an identifier can be told.
* `PlatformFacts.spelled?_eq_text`: a machine spells the identifier of a platform only from its
  parts.
* `PlatformFacts.identify_spelled`: what is detected, called and downloaded on every machine.
-/

namespace ServerLauncher

/-! ## The parts of an identifier -/

/-- What follows the first separator is settled by the whole. -/
theorem append_cons_inj_of_notMem {α : Type} {c : α} {l l' r r' : List α} (hl : c ∉ l)
    (hl' : c ∉ l') : l ++ c :: r = l' ++ c :: r' ↔ l = l' ∧ r = r' := by
  constructor
  · intro h
    induction l generalizing l' with
    | nil =>
      cases l' with
      | nil => exact ⟨rfl, (List.cons.inj h).2⟩
      | cons a l' => exact absurd (List.mem_cons.mpr (.inl (List.cons.inj h).1)) hl'
    | cons a l ih =>
      cases l' with
      | nil => exact absurd (List.mem_cons.mpr (.inl (List.cons.inj h).1.symm)) hl
      | cons a' l' =>
        obtain ⟨rfl, hrest⟩ := List.cons.inj h
        obtain ⟨rfl, rfl⟩ :=
          ih (fun hmem => hl (.tail _ hmem)) (fun hmem => hl' (.tail _ hmem)) hrest
        exact ⟨rfl, rfl⟩
  · rintro ⟨rfl, rfl⟩
    rfl

namespace PlatformId

/-- The part of a platform that stands for the operating system. -/
def systemPart : PlatformId → String
  | winX86 | winX64 | winArm64 => "win"
  | osxX64 | osxArm64 => "osx"
  | linuxX86 | linuxX64 | linuxArm64 | linuxMuslX64 | linuxMuslArm64 => "linux"

/-- The C library of a platform, unless it is the usual one. -/
def library? : PlatformId → Option String
  | linuxMuslX64 | linuxMuslArm64 => some "musl"
  | _ => none

/-- The part of a platform that stands for the processor architecture. -/
def machinePart : PlatformId → String
  | winX86 | linuxX86 => "x86"
  | winX64 | osxX64 | linuxX64 | linuxMuslX64 => "x64"
  | winArm64 | osxArm64 | linuxArm64 | linuxMuslArm64 => "arm64"

/-- How a library stands in an identifier. -/
def libraryText : Option String → String
  | some libc => libc ++ "-"
  | none => ""

/-- The identifier with given parts. -/
def spell (system : String) (library? : Option String) (machine : String) : String :=
  system ++ "-" ++ libraryText library? ++ machine

variable {p : PlatformId} {s system system' machine machine' : String}
  {library library' : Option String}

theorem text_eq_spell (p : PlatformId) : p.text = spell p.systemPart p.library? p.machinePart := by
  cases p <;> rfl

theorem dash_notMem_systemPart (p : PlatformId) : '-' ∉ p.systemPart.toList := by
  cases p <;> decide

theorem dash_notMem_machinePart (p : PlatformId) : '-' ∉ p.machinePart.toList := by
  cases p <;> decide

theorem libraryText_inj : libraryText library = libraryText library' ↔ library = library' := by
  have hne (libc : String) : libc ++ "-" ≠ "" := fun h => by
    simpa using congrArg String.toList h
  cases library with
  | none =>
    cases library' with
    | none => exact iff_of_true rfl rfl
    | some libc' => exact iff_of_false (fun h => hne libc' h.symm) nofun
  | some libc =>
    cases library' with
    | none => exact iff_of_false (hne libc) nofun
    | some libc' => exact (String.append_left_inj "-").trans Option.some_inj.symm

/-- A library leaves a dash before the architecture, as the operating system does. -/
theorem reverse_dash_libraryText (library : Option String) :
    ∃ before, ('-' :: (libraryText library).toList).reverse = '-' :: before := by
  cases library with
  | none => exact ⟨[], rfl⟩
  | some libc => exact ⟨libc.toList.reverse ++ ['-'], by simp [libraryText]⟩

/-- The parts of an identifier can be told, if only the library holds dashes. -/
theorem spell_inj (hsystem : '-' ∉ system.toList) (hsystem' : '-' ∉ system'.toList)
    (hmachine : '-' ∉ machine.toList) (hmachine' : '-' ∉ machine'.toList) :
    spell system library machine = spell system' library' machine' ↔
      system = system' ∧ library = library' ∧ machine = machine' := by
  constructor
  · intro h
    have hlist : system.toList ++ '-' :: ((libraryText library).toList ++ machine.toList) =
        system'.toList ++ '-' :: ((libraryText library').toList ++ machine'.toList) := by
      simpa [spell] using congrArg String.toList h
    obtain ⟨heq, hrest⟩ := (append_cons_inj_of_notMem hsystem hsystem').mp hlist
    -- Read backwards, the architecture ends at the first dash.
    have hback : machine.toList.reverse ++ ('-' :: (libraryText library).toList).reverse =
        machine'.toList.reverse ++ ('-' :: (libraryText library').toList).reverse := by
      simpa using congrArg (fun l => ('-' :: l).reverse) hrest
    obtain ⟨before, hbefore⟩ := reverse_dash_libraryText library
    obtain ⟨before', hbefore'⟩ := reverse_dash_libraryText library'
    rw [hbefore, hbefore', append_cons_inj_of_notMem (by simpa using hmachine)
      (by simpa using hmachine')] at hback
    have hmachines : machine.toList = machine'.toList := List.reverse_inj.mp hback.1
    rw [hmachines, List.append_left_inj] at hrest
    exact ⟨String.toList_injective heq, libraryText_inj.mp (String.toList_injective hrest),
      String.toList_injective hmachines⟩
  · rintro ⟨rfl, rfl, rfl⟩
    rfl

theorem ofText?_eq_some : ofText? s = some p ↔ s = p.text := by
  unfold ofText?
  constructor
  · intro h
    have hp := List.find?_some h
    exact (beq_iff_eq.mp hp).symm
  · rintro rfl
    cases p <;> rfl

theorem isWindows_iff (p : PlatformId) : p.isWindows = true ↔ p.systemPart = "win" := by
  cases p <;> decide

/-- The file name of the server has its ending on Windows only. -/
theorem exe_suffix_iff (p : PlatformId) :
    ".exe".toList <:+ (binaryName (some p)).toList ↔ p.systemPart = "win" := by
  cases p <;> decide

/-- There is one platform with a prebuilt server. -/
theorem artifact?_isSome_iff (p : PlatformId) : p.artifact?.isSome = true ↔ p = .linuxX64 := by
  cases p <;> decide

end PlatformId

namespace PlatformFacts

variable {facts : PlatformFacts} {p : PlatformId} {s system machine : String}

/-! ## What a machine reports -/

/-- The unusual C library of a machine. -/
def library? (facts : PlatformFacts) : Option String :=
  if facts.system = "Linux" ∧ facts.bitness = "64bit" ∧ facts.libc ≠ "" ∧ facts.libc ≠ "glibc" then
    some facts.libc
  else none

theorem libraryPart_eq (facts : PlatformFacts) :
    facts.libraryPart = PlatformId.libraryText facts.library? := by
  unfold libraryPart library?
  split <;> rfl

theorem systemPart?_eq_win : systemPart? s = some "win" ↔ s = "Windows" := by
  unfold systemPart?
  split <;> simp_all

theorem systemPart?_eq_linux : systemPart? s = some "linux" ↔ s = "Linux" := by
  unfold systemPart?
  split <;> simp_all

theorem machinePart?_eq_x64 : machinePart? s = some "x64" ↔ s = "AMD64" ∨ s = "x86_64" := by
  unfold machinePart?
  split <;> simp_all

theorem dash_notMem_systemPart? (h : systemPart? s = some system) : '-' ∉ system.toList := by
  unfold systemPart? at h
  split at h
  all_goals cases h
  all_goals decide

theorem dash_notMem_machinePart? (h : machinePart? s = some machine) : '-' ∉ machine.toList := by
  unfold machinePart? at h
  split at h
  all_goals cases h
  all_goals decide

/-! ## Detection -/

/-- The identifier that the parts of a machine spell, whether or not there is such a platform. -/
def spelled? (facts : PlatformFacts) : Option String := do
  let system ← systemPart? facts.system
  let machine ← machinePart? facts.machine
  return PlatformId.spell system facts.library? machine

/-- A machine has the parts of a platform. -/
structure HasPartsOf (facts : PlatformFacts) (p : PlatformId) : Prop where
  system : systemPart? facts.system = some p.systemPart
  library : facts.library? = p.library?
  machine : machinePart? facts.machine = some p.machinePart

/-- A machine spells the identifier of a platform only from its parts. -/
theorem spelled?_eq_text : facts.spelled? = some p.text ↔ facts.HasPartsOf p := by
  simp only [spelled?, Option.bind_eq_bind, Option.bind_eq_some_iff, Option.pure_def,
    Option.some_inj]
  constructor
  · rintro ⟨system, hsystem, machine, hmachine, htext⟩
    rw [p.text_eq_spell, PlatformId.spell_inj (dash_notMem_systemPart? hsystem)
      p.dash_notMem_systemPart (dash_notMem_machinePart? hmachine) p.dash_notMem_machinePart]
      at htext
    obtain ⟨rfl, hlibrary, rfl⟩ := htext
    exact ⟨hsystem, hlibrary, hmachine⟩
  · rintro ⟨hsystem, hlibrary, hmachine⟩
    exact ⟨_, hsystem, _, hmachine, by rw [p.text_eq_spell, hlibrary]⟩

/-- The platform that is detected is the one whose identifier the machine spells. -/
theorem detect_eq_some : facts.detect = some p ↔ facts.spelled? = some p.text := by
  simp only [detect, spelled?, Option.bind_eq_bind, Option.bind_eq_some_iff, Option.pure_def,
    Option.some_inj, PlatformId.ofText?_eq_some, libraryPart_eq, PlatformId.spell]

theorem identify_eq_ok : facts.identify = .ok p ↔ facts.detect = some p := by
  unfold identify
  split
  next p' hp' => rw [hp', Except.ok.injEq, Option.some_inj]
  next hnone => simp [hnone]

theorem identify_eq_error {fault : Fault} : facts.identify = .error fault ↔
    facts.detect = none ∧ fault = .problem (.unknownPlatform facts) none := by
  unfold identify
  split
  next p hp => simp [hp]
  next hnone => simp [hnone, eq_comm]

/-- The one platform with a prebuilt server has the usual library. -/
theorem hasPartsOf_linuxX64_iff : facts.HasPartsOf .linuxX64 ↔
    facts.system = "Linux" ∧ (facts.machine = "AMD64" ∨ facts.machine = "x86_64") ∧
      (facts.bitness ≠ "64bit" ∨ facts.libc = "" ∨ facts.libc = "glibc") := by
  constructor
  · rintro ⟨hsystem, hlibrary, hmachine⟩
    have hlinux := systemPart?_eq_linux.mp hsystem
    refine ⟨hlinux, machinePart?_eq_x64.mp hmachine, ?_⟩
    refine Classical.byContradiction fun hunusual => ?_
    simp only [not_or, Decidable.not_not] at hunusual
    rw [library?, if_pos ⟨hlinux, hunusual⟩] at hlibrary
    cases hlibrary
  · rintro ⟨hlinux, hmachine, husual⟩
    refine ⟨systemPart?_eq_linux.mpr hlinux, ?_, machinePart?_eq_x64.mpr hmachine⟩
    refine if_neg fun ⟨_, hbitness, hempty, hglibc⟩ => ?_
    exact husual.elim (· hbitness) fun h => h.elim hempty hglibc

theorem forPlatform_isSome_iff (version dir : String) :
    (DownloadSpec.forPlatform version facts.detect dir).isSome = true ↔
      facts.HasPartsOf .linuxX64 := by
  rw [← spelled?_eq_text, ← detect_eq_some]
  rcases facts.detect with _ | p
  · simp [DownloadSpec.forPlatform]
  · rw [Option.some_inj, ← p.artifact?_isSome_iff]
    rcases hartifact : p.artifact? with _ | artifact
    · simp [DownloadSpec.forPlatform, hartifact]
    · simp [DownloadSpec.forPlatform, hartifact]

/-- Only an architecture can be announced, and only on Windows where the machine is silent. -/
theorem withArchitecture_eq (facts : PlatformFacts) (announced : String) :
    facts.withArchitecture announced = { facts with
      machine := if facts.system = "Windows" ∧ facts.machine = "" then announced
        else facts.machine } := by
  unfold withArchitecture
  split <;> rfl

/-- What is detected, called and downloaded, whatever a machine reports and its environment
announces.  A platform is found just where the machine spells its identifier, and it never does so
but from the parts of that platform: the library cannot stand in for an operating system or an
architecture.  Anything else is a problem.  The platforms of Windows, with the ending of their
programs, are found on Windows only, and a prebuilt server on one kind of machine. -/
theorem identify_spelled (facts : PlatformFacts) (announced version dir : String) :
    facts.withArchitecture announced = { facts with
      machine := if facts.system = "Windows" ∧ facts.machine = "" then announced
        else facts.machine } ∧
    (∀ p : PlatformId,
      ((facts.withArchitecture announced).identify = .ok p ↔
        (facts.withArchitecture announced).spelled? = some p.text) ∧
      ((facts.withArchitecture announced).identify = .ok p ↔
        (facts.withArchitecture announced).HasPartsOf p)) ∧
    (∀ fault, (facts.withArchitecture announced).identify = .error fault ↔
      (∀ p : PlatformId, (facts.withArchitecture announced).spelled? ≠ some p.text) ∧
        fault = .problem (.unknownPlatform (facts.withArchitecture announced)) none) ∧
    (∀ p, (facts.withArchitecture announced).identify = .ok p →
      (p.isWindows = true ↔ facts.system = "Windows") ∧
      (".exe".toList <:+ (binaryName (some p)).toList ↔ facts.system = "Windows")) ∧
    ((DownloadSpec.forPlatform version
        (facts.withArchitecture announced).detect dir).isSome = true ↔
      facts.system = "Linux" ∧ (facts.machine = "AMD64" ∨ facts.machine = "x86_64") ∧
        (facts.bitness ≠ "64bit" ∨ facts.libc = "" ∨ facts.libc = "glibc")) := by
  have hsystem : (facts.withArchitecture announced).system = facts.system := by
    rw [withArchitecture_eq]
  refine ⟨withArchitecture_eq facts announced, fun p => ⟨?_, ?_⟩, fun fault => ?_, fun p hp => ?_,
    ?_⟩
  · rw [identify_eq_ok, detect_eq_some]
  · rw [identify_eq_ok, detect_eq_some, spelled?_eq_text]
  · simp only [identify_eq_error, Option.eq_none_iff_forall_ne_some, ne_eq, detect_eq_some]
  · rw [identify_eq_ok, detect_eq_some, spelled?_eq_text] at hp
    have hwin : p.systemPart = "win" ↔ facts.system = "Windows" := by
      rw [← systemPart?_eq_win, ← hsystem, hp.system, Option.some_inj]
    exact ⟨p.isWindows_iff.trans hwin, p.exe_suffix_iff.trans hwin⟩
  · rw [forPlatform_isSome_iff, hasPartsOf_linuxX64_iff, withArchitecture_eq]
    -- On Linux nothing is announced.
    refine and_congr_right fun hlinux => ?_
    rw [if_neg fun h => by rw [hlinux] at h; exact absurd h.1 (by decide)]

/-- A silent machine with Windows has the architecture that is announced; a library that is called
like an architecture makes no platform. -/
theorem identify_spelled_windows :
    (withArchitecture ⟨"Windows", "", "64bit", ""⟩ "ARM64").identify = .ok .winArm64 ∧
    PlatformId.isWindows .winArm64 = true ∧ binaryName (some .winArm64) = "capnp-ls.exe" ∧
    (withArchitecture ⟨"Linux", "x86_64", "64bit", "x64"⟩ "").identify =
      .error (.problem (.unknownPlatform ⟨"Linux", "x86_64", "64bit", "x64"⟩) none) := by
  have harm : (withArchitecture ⟨"Windows", "", "64bit", ""⟩ "ARM64").identify = .ok .winArm64 :=
    rfl
  have hwindows := (identify_spelled ⟨"Windows", "", "64bit", ""⟩ "ARM64" "" "").2.2.2.1 _ harm
  exact ⟨harm, hwindows.1.mpr rfl, rfl, rfl⟩

end PlatformFacts

end ServerLauncher
