import ServerLauncher.Text.Letters

/-!
# Policies for a configured server path

A configuration may name the server that is to be used.  The policy says what happens when there is
no such file.
-/

namespace ServerLauncher

/-- What happens when the configured server does not exist: under `strict` launching fails, under
`fallback` the path is ignored and the server is searched for. -/
inductive Policy where
  | strict
  | fallback
deriving DecidableEq, Repr

namespace Policy

/-- The name of a policy in configurations. -/
def text : Policy → String
  | strict => "strict"
  | fallback => "fallback"

/-- The symbolic name of a policy. -/
def label : Policy → String
  | strict => "ServerPathPolicy.STRICT"
  | fallback => "ServerPathPolicy.FALLBACK"

/-- The policy with a given name, in letters of either case. -/
def ofText? (s : String) : Option Policy :=
  let name := Text.lowercase s
  if name = strict.text then some strict
  else if name = fallback.text then some fallback
  else none

end Policy

end ServerLauncher
