import NetworkIsolation.Configuration.Names

/-!
# Operator settings

Settings say which tools to call, which model they are to work on, where an
isolation document is found, and how the backend objects are named.  Every
section and every entry may be left out.
-/

namespace NetworkIsolation.Configuration

open NetworkIsolation.Document NetworkIsolation.Json NetworkIsolation.Text

/-- The fabric tool and its model. -/
structure FabricSettings where
  model : String := "openstack"
  program : String := "juju"
  deriving DecidableEq, Repr, Inhabited

/-- The load-balancer tool and its credentials. -/
structure LoadBalancerSettings where
  program : String := "kubectl"
  kubeconfig : Option String := none
  deriving DecidableEq, Repr, Inhabited

/-- Where the isolation document is found. -/
structure ImportSettings where
  path : String := "/var/snap/openstack/common/network-isolation.json"
  deriving DecidableEq, Repr, Inhabited

/-- All settings. -/
structure Settings where
  fabric : FabricSettings := {}
  loadBalancer : LoadBalancerSettings := {}
  importing : ImportSettings := {}
  names : IsolationNames := {}
  deriving DecidableEq, Repr, Inhabited

/-- The fabric section of a settings document. -/
def FabricSettings.record : Record FabricSettings where
  name := "FabricSection"
  fields := [
    .allow "model" .string fun model settings => { settings with model },
    .allow "juju" .string fun program settings => { settings with program }]
  strict := true
  start := {}

/-- The load-balancer section of a settings document. -/
def LoadBalancerSettings.record : Record LoadBalancerSettings where
  name := "LoadBalancerSection"
  fields := [
    .allow "kubectl" .string fun program settings => { settings with program },
    .allow "kubeconfig" (.nullable .path) fun kubeconfig settings => { settings with kubeconfig }]
  strict := true
  start := {}

/-- The import section of a settings document. -/
def ImportSettings.record : Record ImportSettings where
  name := "ImportSection"
  fields := [.allow "path" .path fun path settings => { settings with path }]
  strict := true
  start := {}

namespace Settings

/-- Settings as a record of a document. -/
def record : Record Settings where
  name := "Settings"
  fields := [
    .allow "fabric" FabricSettings.record.reader
      fun fabric settings => { settings with fabric },
    .allow "loadbalancer" LoadBalancerSettings.record.reader
      fun loadBalancer settings => { settings with loadBalancer },
    .allow "import" ImportSettings.record.reader
      fun importing settings => { settings with importing },
    .allow "names" IsolationNames.record.reader fun names settings => { settings with names }]
  strict := true
  start := {}

/-- The settings as an object. -/
def toValue (settings : Settings) : Json.Value :=
  .object [
    ("fabric", .object [
      ("model", .string settings.fabric.model),
      ("juju", .string settings.fabric.program)]),
    ("loadbalancer", .object [
      ("kubectl", .string settings.loadBalancer.program),
      ("kubeconfig", (settings.loadBalancer.kubeconfig.map .string).getD .null)]),
    ("import", .object [("path", .string settings.importing.path)]),
    ("names", settings.names.toValue)]

/-- Check that the settings can be used. -/
def validate (settings : Settings) : Except ConfigurationError Unit :=
  if isAllBlank settings.fabric.model then .error (.emptyName "fabric.model")
  else settings.names.validate

/-- Read and check a settings document. -/
def parse (text : String) : Except ConfigurationError Settings := do
  match Toml.parse? text with
  | none => throw (.badSettings .notWellFormed)
  | some table =>
    let settings ← (record.ofToml (.table .header table)).mapError
      fun cause => .badSettings (.wrongShape cause)
    settings.validate
    return settings

end Settings

end NetworkIsolation.Configuration
