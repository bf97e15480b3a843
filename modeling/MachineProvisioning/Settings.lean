import MachineProvisioning.Failure
import MachineProvisioning.Net.Endpoint
import MachineProvisioning.Placement.Order
import MachineProvisioning.Text.Quoted

/-! # Settings

The controller takes its settings from named variables. A variable that is missing or blank counts as
unset.
-/

namespace MachineProvisioning

structure Settings where
  maasUrl : String
  maasApiKey : String
  /-- The namespace to watch; all namespaces when absent. -/
  watchNamespace : Option String
  relaxation : Placement.Relaxation
  maintenanceTags : List String
  defaultDistroSeries : String
  metricsAddress : Net.Endpoint

namespace Settings

open Text

/-- The value of a variable, unless it is blank. -/
def nonBlank (lookup : String → Option String) (name : String) : Option String :=
  (lookup name).filter fun value => !(trimChars value.toList).isEmpty

/-- The pieces between commas without the blanks around them; empty pieces do not count. -/
def tagList (value : String) : List String :=
  ((split ',' value).map trim).filter (· ≠ "")

/-- The settings from a lookup of variables. The API key is required; the relaxation order and the
    metrics address have to be well formed. -/
def ofLookup (lookup : String → Option String) : Except Failure Settings := do
  let value := nonBlank lookup
  let maasApiKey ← match value "MAAS_API_KEY" with
    | some key => pure key
    | none => throw (.settings "MAAS_API_KEY environment variable is required")
  let relaxation ← match value "PLACEMENT_RELAXATION" with
    | none => pure Placement.Relaxation.default
    | some text =>
        match Placement.Relaxation.ofText text with
        | .ok order => pure order
        | .error fault => throw (.settings ("PLACEMENT_RELAXATION: " ++ fault))
  let metricsAddress ←
    match Net.Endpoint.ofText? ((value "METRICS_ADDR").getD "0.0.0.0:8080") with
    | some endpoint => pure endpoint
    | none => throw (.settings "METRICS_ADDR: invalid socket address syntax")
  pure
    { maasUrl := (value "MAAS_URL").getD "http://maas.maas:5240/MAAS"
      maasApiKey
      watchNamespace := value "WATCH_NAMESPACE"
      relaxation
      maintenanceTags :=
        ((value "MAINTENANCE_TAGS").map tagList).getD ({} : Placement.Policy).maintenanceTags
      defaultDistroSeries := (value "DEFAULT_DISTRO_SERIES").getD "jammy"
      metricsAddress }

/-- The name of a relaxation order in a description. -/
def relaxationLabel : Placement.Relaxation → String
  | .strict => "Strict"
  | .poolThenZone => "PoolThenZone"
  | .zoneThenPool => "ZoneThenPool"

/-- A description of the settings that keeps the API key to itself. -/
def describe (settings : Settings) : String :=
  let watched := match settings.watchNamespace with
    | none => "None"
    | some name => "Some(" ++ quoted name ++ ")"
  "Config \x7b maas_url: " ++ quoted settings.maasUrl ++ ", maas_api_key: \"<redacted>\", namespace: " ++
    watched ++ ", relaxation: " ++ relaxationLabel settings.relaxation ++ ", maintenance_tags: [" ++
    join ", " (settings.maintenanceTags.map quoted) ++ "], default_distro_series: " ++
    quoted settings.defaultDistroSeries ++ ", metrics_addr: " ++ settings.metricsAddress.toText ++
    " \x7d"

end Settings

end MachineProvisioning
