/-!
# Platforms

A platform is an operating system and a processor architecture, on Linux also a C library.  It is
detected from what the machine reports about itself, and decides the file name of the server and
whether a prebuilt server can be downloaded.

## Main definitions

* `PlatformFacts`: what a machine reports about itself.
* `PlatformId`: the platforms that are told apart.
* `PlatformFacts.detect`: the platform of a machine.
* `PlatformId.artifact?`: the prebuilt server for a platform.
-/

namespace ServerLauncher

/-- What a machine reports about itself. -/
structure PlatformFacts where
  system : String
  machine : String
  bitness : String
  libc : String
deriving DecidableEq, Repr

/-- The platforms that are told apart. -/
inductive PlatformId where
  | winX86
  | winX64
  | winArm64
  | osxX64
  | osxArm64
  | linuxX86
  | linuxX64
  | linuxArm64
  | linuxMuslX64
  | linuxMuslArm64
deriving DecidableEq, Repr

namespace PlatformId

/-- All platforms. -/
def all : List PlatformId :=
  [winX86, winX64, winArm64, osxX64, osxArm64, linuxX86, linuxX64, linuxArm64, linuxMuslX64,
   linuxMuslArm64]

/-- The identifier of a platform in configurations and messages. -/
def text : PlatformId → String
  | winX86 => "win-x86"
  | winX64 => "win-x64"
  | winArm64 => "win-arm64"
  | osxX64 => "osx-x64"
  | osxArm64 => "osx-arm64"
  | linuxX86 => "linux-x86"
  | linuxX64 => "linux-x64"
  | linuxArm64 => "linux-arm64"
  | linuxMuslX64 => "linux-musl-x64"
  | linuxMuslArm64 => "linux-musl-arm64"

/-- The symbolic name of a platform in messages of the command line. -/
def label : PlatformId → String
  | winX86 => "PlatformId.WIN_x86"
  | winX64 => "PlatformId.WIN_x64"
  | winArm64 => "PlatformId.WIN_arm64"
  | osxX64 => "PlatformId.OSX_x64"
  | osxArm64 => "PlatformId.OSX_arm64"
  | linuxX86 => "PlatformId.LINUX_x86"
  | linuxX64 => "PlatformId.LINUX_x64"
  | linuxArm64 => "PlatformId.LINUX_arm64"
  | linuxMuslX64 => "PlatformId.LINUX_MUSL_x64"
  | linuxMuslArm64 => "PlatformId.LINUX_MUSL_arm64"

/-- The platform with a given identifier. -/
def ofText? (s : String) : Option PlatformId := all.find? fun p => p.text == s

/-- The platforms of Windows. -/
def isWindows : PlatformId → Bool
  | winX86 | winX64 | winArm64 => true
  | _ => false

/-- The prebuilt server that is released for a platform.  All other platforms rely on a configured
path or on the search path. -/
def artifact? : PlatformId → Option String
  | linuxX64 => some "capnp-ls-linux-x86_64"
  | _ => none

end PlatformId

/-- The bare command name of the server, looked up in the search path when it is started. -/
def commandName : String := "capnp-ls"

/-- The file name of the server on a platform that may be unknown. -/
def binaryName : Option PlatformId → String
  | some p => if p.isWindows then commandName ++ ".exe" else commandName
  | none => commandName

namespace PlatformFacts

/-! ## Detection -/

/-- The part of an identifier that stands for an operating system. -/
def systemPart? : String → Option String
  | "Windows" => some "win"
  | "Darwin" => some "osx"
  | "Linux" => some "linux"
  | _ => none

/-- The part of an identifier that stands for a processor architecture. -/
def machinePart? : String → Option String
  | "AMD64" => some "x64"
  | "x86_64" => some "x64"
  | "i386" => some "x86"
  | "i686" => some "x86"
  | "x86" => some "x86"
  | "aarch64" => some "arm64"
  | "arm64" => some "arm64"
  | "ARM64" => some "arm64"
  | _ => none

/-- The facts with the architecture that Windows announces in the environment, where the machine
itself is silent. -/
def withArchitecture (facts : PlatformFacts) (announced : String) : PlatformFacts :=
  if facts.system = "Windows" ∧ facts.machine = "" then { facts with machine := announced }
  else facts

/-- On 64-bit Linux a C library other than the usual one is part of the platform. -/
def libraryPart (facts : PlatformFacts) : String :=
  if facts.system = "Linux" ∧ facts.bitness = "64bit" ∧ facts.libc ≠ "" ∧ facts.libc ≠ "glibc" then
    facts.libc ++ "-"
  else ""

/-- The platform that the facts spell, if it is one of those told apart. -/
def detect (facts : PlatformFacts) : Option PlatformId := do
  let system ← systemPart? facts.system
  let machine ← machinePart? facts.machine
  PlatformId.ofText? (system ++ "-" ++ facts.libraryPart ++ machine)

end PlatformFacts

end ServerLauncher
