import Masking.Store.Program
import Masking.Text.Digits
import Masking.Text.Search

/-! Metrics of the whole service: a count for each metric and each set of labels, and the text in
which they are handed out. -/

namespace Masking

/-- One counted thing: the name of a metric, and the values that tell it from the others of that
name. -/
structure Series where
  metric : String
  labels : List (String × String)
deriving DecidableEq, Inhabited

/-- What has been counted so far, in the order in which it was first met. Of lengths of time only
their number is kept. -/
structure Recorder where
  counters : List (Series × Nat)
  durations : List (Series × Nat)
deriving DecidableEq, Inhabited

namespace Recorder

/-- The recorder that has counted nothing. -/
def empty : Recorder := ⟨[], []⟩

/-- Install a recorder where none is installed yet; there cannot be two of them. -/
def install : Option Recorder → Option Recorder
  | none => some empty
  | some _ => none

/-- Counts with one more of a series. -/
def bump (series : Series) : List (Series × Nat) → List (Series × Nat)
  | [] => [(series, 1)]
  | (other, count) :: rest =>
      if other = series then (other, count + 1) :: rest else (other, count) :: bump series rest

/-- The recorder after a counter has gone up. -/
def count (recorder : Recorder) (metric : String) (labels : List (String × String)) : Recorder :=
  { recorder with counters := bump ⟨metric, labels⟩ recorder.counters }

/-- The recorder after a length of time has been taken. -/
def time (recorder : Recorder) (metric : String) (labels : List (String × String)) : Recorder :=
  { recorder with durations := bump ⟨metric, labels⟩ recorder.durations }

/-- The recorder after an event. -/
def absorb (recorder : Recorder) : Store.Event → Recorder
  | .hit => recorder.count "redmask_store_hits_total" []
  | .miss => recorder.count "redmask_store_misses_total" []
  | .readError => recorder.count "redmask_store_read_errors_total" []
  | .writeFailure entry =>
      recorder.count "redmask_store_write_failures_total" [("entry", entry.name)]
  | .unit kind masked =>
      recorder.count "redmask_masking_units_total"
        [("kind", kind.name), ("outcome", if masked then "masked" else "failed")]
  | .timed operation => recorder.time "redmask_store_operation_seconds" [("operation", operation)]
  | .log _ => recorder
  | .synthesized => recorder

/-- The recorder after some events. -/
def absorbAll (recorder : Recorder) (events : List Store.Event) : Recorder :=
  events.foldl absorb recorder

/-- The recorder after a request has been answered. -/
def countRequest (recorder : Recorder) (method path : String) (status : Nat) : Recorder :=
  (recorder.count "redmask_http_requests_total"
      [("method", method), ("path", path), ("status", String.ofList (Text.decimal status))]).time
    "redmask_http_request_duration_seconds" [("method", method), ("path", path)]

/-- What a metric counts. -/
def helpTexts : List (String × String) :=
  [("redmask_http_requests_total", "Total number of HTTP requests"),
   ("redmask_http_request_duration_seconds", "HTTP request duration in seconds"),
   ("redmask_store_hits_total", "Forward lookups served from the store"),
   ("redmask_store_misses_total", "Forward lookups that required synthesis"),
   ("redmask_store_read_errors_total", "Forward lookups that failed at the transport level"),
   ("redmask_store_write_failures_total",
    "Forward or reverse writes that failed and were skipped"),
   ("redmask_store_operation_seconds", "Time spent on store operations"),
   ("redmask_masking_units_total", "Masking units processed, by kind and outcome")]

/-- The labels of a series as they are shown. -/
def showLabels : List (String × String) → String
  | [] => ""
  | labels =>
      let shown (label : String × String) : List Char :=
        (label.1 ++ "=\"" ++ label.2 ++ "\"").toList
      "\x7b" ++ String.ofList (Text.join [','] (labels.map shown)) ++ "\x7d"

/-- The metrics of some counts, each of them once, in the order in which they were first met. -/
def metricsOf (counts : List (Series × Nat)) : List String :=
  (counts.map fun entry => entry.1.metric).eraseDups

/-- The lines about one metric: what it counts, of what type it is, and its counts. -/
def family (type ending : String) (counts : List (Series × Nat)) (metric : String) :
    List String :=
  let help :=
    match helpTexts.lookup metric with
    | some text => ["# HELP " ++ metric ++ " " ++ text]
    | none => []
  let samples := (counts.filter fun entry => entry.1.metric = metric).map fun (series, count) =>
    metric ++ ending ++ showLabels series.labels ++ " " ++ String.ofList (Text.decimal count)
  help ++ ["# TYPE " ++ metric ++ " " ++ type] ++ samples

/-- Everything that has been counted, as lines of text. -/
def lines (recorder : Recorder) : List String :=
  (metricsOf recorder.counters).flatMap (family "counter" "" recorder.counters)
    ++ (metricsOf recorder.durations).flatMap (family "histogram" "_count" recorder.durations)

/-- Everything that has been counted, as a text. -/
def render (recorder : Recorder) : String :=
  String.ofList (Text.join ['\n'] (recorder.lines.map String.toList))

end Recorder

end Masking
