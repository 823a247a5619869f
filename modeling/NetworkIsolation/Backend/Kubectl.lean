import NetworkIsolation.Backend.Command
import NetworkIsolation.Backend.LoadBalancer

/-!
# The load balancer through `kubectl`

Resources are fed to `kubectl` as manifests.  Connecting checks that the
credentials are there and that `kubectl` runs; the handle is how it is called.
-/

namespace NetworkIsolation.Backend

/-- How `kubectl` is called. -/
structure Kubectl where
  program : String
  kubeconfig : Option String
  deriving DecidableEq, Repr, Inhabited

namespace Kubectl

/-- A command line with the credentials in front of the arguments. -/
def line (kubectl : Kubectl) (arguments : List String) : List String :=
  let credentials :=
    match kubectl.kubeconfig with
    | some path => ["--kubeconfig", path]
    | none => []
  kubectl.program :: credentials ++ arguments

/-- The command that submits a resource. -/
def submitCommand (kubectl : Kubectl) (verb : String) (resource : Resource) : Command :=
  ⟨kubectl.line [verb, "-f", "-"], some resource.manifest.compact⟩

/-- The command that shows whether `kubectl` runs. -/
def versionCommand (kubectl : Kubectl) : Command :=
  ⟨kubectl.line ["version", "--client"], none⟩

/-- The error of a replacement whose target is another resource. -/
def mismatch (target : ResourceTarget) (resource : Resource) : BackendError :=
  .api ("replace target " ++ target.kind.word ++ "/" ++ target.name ++ " in " ++ target.space ++
    " does not match resource " ++ resource.kind.word ++ "/" ++ resource.name ++ " in " ++
    resource.space)

variable {σ : Type} [Journal σ]

/-- Submit a resource. -/
def submit (kubectl : Kubectl) (invoker : Invoker σ) (verb : String) (resource : Resource) :
    StateM σ (Reply Unit) := do
  note .loadBalancer .debug
    ("kubectl " ++ verb ++ " " ++ resource.kind.word ++ "/" ++ resource.name ++ " in " ++
      resource.space)
  match ← invoker.run (kubectl.submitCommand verb resource) with
  | .ok _ => return .ok ()
  | .error error => return .error error

/-- Replace a resource, which must be the target itself. -/
def replace (kubectl : Kubectl) (invoker : Invoker σ) (target : ResourceTarget)
    (resource : Resource) : StateM σ (Reply Unit) :=
  if resource.target = target then kubectl.submit invoker "replace" resource
  else return .error (mismatch target resource)

/-- The credentials, if they are asked for and not there. -/
def missingKubeconfig? (kubectl : Kubectl) (isFile : String → Bool) : Option String :=
  match kubectl.kubeconfig with
  | some path => if isFile path then none else some path
  | none => none

/-- Check the credentials, if there are any, and that `kubectl` runs. -/
def connect (kubectl : Kubectl) (invoker : Invoker σ) (isFile : σ → String → Bool) :
    StateM σ (Reply Kubectl) := do
  let state ← get
  match kubectl.missingKubeconfig? (isFile state) with
  | some path => return .error (.unavailable ("kubeconfig " ++ path ++ " not found"))
  | none =>
    match ← invoker.run kubectl.versionCommand with
    | .ok _ => return .ok kubectl
    | .error error => return .error (.unavailable (kubectl.program ++ ": " ++ error.message))

/-- The load balancer through an invoker; `isFile` tells whether a file is there. -/
def balancer (kubectl : Kubectl) (invoker : Invoker σ) (isFile : σ → String → Bool) :
    LoadBalancer σ Kubectl where
  connect := kubectl.connect invoker isFile
  create handle resource := handle.submit invoker "create" resource
  replace handle target resource := handle.replace invoker target resource

end Kubectl

end NetworkIsolation.Backend
