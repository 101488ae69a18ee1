import ServerLauncher.Path
import ServerLauncher.Platform

/-!
# Releases of the server

A release holds prebuilt servers for some platforms.  What is to be downloaded is settled by the
version, the platform and the directory to install into.

## Main definitions

* `releaseUrl`: the address of a file of a release.
* `DownloadSpec`: what to download, and where to.
* `DownloadSpec.forPlatform`: the download for a platform that has a prebuilt server.
-/

namespace ServerLauncher

/-- The address below which releases are published. -/
def releasesUrl : String := "https://github.com/trickstar0301/capnp-ls/releases/download"

/-- The address of a file of a release. -/
def releaseUrl (version artifact : String) : String :=
  releasesUrl ++ "/" ++ version ++ "/" ++ artifact

/-- What to download, and where to. -/
structure DownloadSpec where
  version : String
  platform : PlatformId
  target : String
  url : String
deriving DecidableEq, Repr

/-- The download for a platform, unless it has no prebuilt server. -/
def DownloadSpec.forPlatform (version : String) (platform : Option PlatformId)
    (installDir : String) : Option DownloadSpec := do
  let p ← platform
  let artifact ← p.artifact?
  return ⟨version, p, Path.join installDir (binaryName platform), releaseUrl version artifact⟩

end ServerLauncher
