import ClickGrant.Decimal.Text
import ClickGrant.Metrics.Basic

/-!
# Metrics as text

The text form of the metrics: for each family a line of help, a line with its type, and a line for
each series. Families stand in the order of their names and series in the order of their label
values; a family without series is left out. Values are doubles.

The layout is a definition, and nothing is proved of the text. What the numbers in it mean is proved of
the counters themselves (`Proofs.Metrics`, `Proofs.Registry.Accounts`).
-/
set_option autoImplicit false

namespace ClickGrant

/-- A family of series. -/
structure MetricFamily where
  name : String
  help : String
  type : String
  labelNames : List String
  /-- Label values and count of each series. -/
  series : List (List String × Nat)

/-- A character of a label's value. -/
def escapeLabelChar (c : Char) : List Char :=
  if c = '\\' then ['\\', '\\']
  else if c = '\n' then ['\\', 'n']
  else if c = '"' then ['\\', '"']
  else [c]

/-- A label with its value in quotes. -/
def labelText (name value : String) : String :=
  name ++ "=\"" ++ String.ofList (value.toList.flatMap escapeLabelChar) ++ "\""

/-- The labels of a series in braces, if it has any. -/
def labelsText (names values : List String) : String :=
  if names.isEmpty then ""
  else "\x7b" ++ String.intercalate "," (List.zipWith labelText names values) ++ "\x7d"

/-- Whether label values come before others or are the same. -/
def labelsLe : List String → List String → Bool
  | [], _ => true
  | _ :: _, [] => false
  | a :: as, b :: bs => a < b || (a = b && labelsLe as bs)

/-- The lines of a family. -/
def MetricFamily.text (f : MetricFamily) : String :=
  if f.series.isEmpty then ""
  else
    let series := f.series.mergeSort fun a b => labelsLe a.1 b.1
    "# HELP " ++ f.name ++ " " ++ f.help ++ "\n# TYPE " ++ f.name ++ " " ++ f.type ++ "\n"
      ++ String.join (series.map fun (values, n) =>
        f.name ++ labelsText f.labelNames values ++ " " ++ showFloat (Float.ofNat n) ++ "\n")

namespace Metrics

/-- The families, in the order of their names. -/
def families (m : Metrics) : List MetricFamily :=
  [{ name := "scmgr_click_reports_total", help := "Click reports by kind and result", type := "counter"
     labelNames := ["kind", "status"], series := m.clicks.values },
   { name := "scmgr_components_active", help := "Currently registered security components"
     type := "gauge", labelNames := [], series := [([], m.active)] },
   { name := "scmgr_grants_total", help := "Temporary permissions granted", type := "counter"
     labelNames := ["kind"], series := m.grants.values },
   { name := "scmgr_quarantined_total", help := "Processes flagged as malicious", type := "counter"
     labelNames := [], series := [([], m.quarantined)] },
   { name := "scmgr_registrations_total", help := "Component registration attempts by kind and result"
     type := "counter", labelNames := ["kind", "status"], series := m.registrations.values }]

/-- The text form. -/
def text (m : Metrics) : String := String.join (m.families.map MetricFamily.text)

end Metrics

end ClickGrant
