import MachineProvisioning.Decimal.Double
import MachineProvisioning.Telemetry.Metrics
import MachineProvisioning.Text.Split

/-! # Metrics as text

The exposition format has a family after another, by name: a help line, a type line and a line for
each sample. A family with labels and no sample is left out.
-/

namespace MachineProvisioning.Telemetry

open Text

/-- A label value in quotes: backslashes, quotes and line ends are escaped. -/
def labelText (value : String) : String :=
  let escaped := value.toList.flatMap fun c =>
    match c with
    | '\\' => ['\\', '\\']
    | '"' => ['\\', '"']
    | '\n' => ['\\', 'n']
    | c => [c]
  String.ofList ('"' :: escaped ++ ['"'])

/-- A sample with one label. -/
def labelled (name label value : String) (amount : String) : String :=
  name ++ "\x7b" ++ label ++ "=" ++ labelText value ++ "\x7d " ++ amount

/-- The lines of a family. -/
def family (name help kind : String) (samples : List String) : List String :=
  ["# HELP " ++ name ++ " " ++ help, "# TYPE " ++ name ++ " " ++ kind] ++ samples

/-- The lines of a counter with one label. -/
def counterFamily (name help label : String) (counts : Table String Nat) : List String :=
  if counts.entries.isEmpty then []
  else
    family name help "counter" (counts.entries.map fun (value, n) =>
      labelled name label value (decimal n))

/-- The lines of a histogram. -/
def histogramFamily (name help : String) (h : Histogram) : List String :=
  let bucket (bound : String) (n : Nat) : String :=
    labelled (name ++ "_bucket") "le" bound (decimal n)
  family name help "histogram"
    ((Histogram.cumulate 0 h.buckets).map (fun (bound, n) => bucket (Decimal.double bound) n) ++
      [bucket "+Inf" h.count, name ++ "_sum " ++ Decimal.double h.sum,
        name ++ "_count " ++ decimal h.count])

namespace Metrics

def exposition (m : Metrics) : String :=
  let forced := "maas_machine_forced_releases_total"
  let lines :=
    family forced "Instances force released after breaking or refusing graceful release" "counter"
      [forced ++ " " ++ decimal m.forcedReleases] ++
    counterFamily "maas_machine_instances_allocated_total"
      "MAAS instances allocated or composed by provisioning mode" "mode" m.allocations ++
    histogramFamily "maas_machine_reconcile_duration_seconds"
      "Duration of MaasMachine reconciliation passes" m.durations ++
    counterFamily "maas_machine_reconcile_total" "MaasMachine reconciliation passes by result"
      "result" m.reconciliations
  String.join (lines.map (· ++ "\n"))

end Metrics

/-- The answer to a probe. -/
structure Page where
  status : Nat
  contentType : Option String
  body : String
  deriving Repr, DecidableEq

def Page.text (body : String) : Page := ⟨200, some "text/plain; charset=utf-8", body⟩

/-- A page that consists of a status. -/
def Page.bare (status : Nat) : Page := ⟨status, none, ""⟩

/-- The page at a path, if there is one. -/
def page? (m : Metrics) (path : String) : Option Page :=
  match path with
  | "/healthz" => some (.text "OK")
  | "/readyz" => some (if m.ready then .text "READY" else .bare 503)
  | "/metrics" => some ⟨200, some "text/plain; version=0.0.4; charset=utf-8", m.exposition⟩
  | _ => none

/-- The path of a request target, without query and fragment. -/
def pathOf (target : String) : String :=
  String.ofList (target.toList.takeWhile fun c => c ≠ '?' && c ≠ '#')

/-- Answer a probe. Pages are read with GET, or with HEAD for all but the body. -/
def respond (m : Metrics) (method target : String) : Page :=
  match page? m (pathOf target) with
  | none => .bare 404
  | some page =>
      match method with
      | "GET" => page
      | "HEAD" => { page with body := "" }
      | _ => .bare 405

end MachineProvisioning.Telemetry
