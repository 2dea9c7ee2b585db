import Masking.Number.Binary64
import Masking.Store.Program

/-! What a token store counts of its own calls, told from the events of the programs it runs. -/

namespace Masking

/-- The counts that a token store keeps of its calls. -/
structure StoreMetrics where
  hits : Nat
  misses : Nat
  readErrors : Nat
  writeFailures : Nat
deriving DecidableEq, Inhabited

namespace StoreMetrics

/-- The counts before any call. -/
def zero : StoreMetrics := ⟨0, 0, 0, 0⟩

/-- The counts after an event. -/
def absorb (metrics : StoreMetrics) : Store.Event → StoreMetrics
  | .hit => { metrics with hits := metrics.hits + 1 }
  | .miss => { metrics with misses := metrics.misses + 1 }
  | .readError => { metrics with readErrors := metrics.readErrors + 1 }
  | .writeFailure _ => { metrics with writeFailures := metrics.writeFailures + 1 }
  | _ => metrics

/-- The counts after some events. -/
def absorbAll (metrics : StoreMetrics) (events : List Store.Event) : StoreMetrics :=
  events.foldl absorb metrics

/-- The share of hits among the lookups that were answered, zero when there were none. Numbers are
rounded as binary64 numbers are. -/
def hitRate (metrics : StoreMetrics) : Binary64 :=
  let hits := Binary64.ofNat metrics.hits
  let total := Binary64.ofNat (metrics.hits + metrics.misses)
  if total.isZero then Binary64.zero false else hits.div total

end StoreMetrics

end Masking
