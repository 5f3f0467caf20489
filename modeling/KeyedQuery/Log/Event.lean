/-!
Events that are logged, and how severe they are.
-/

set_option autoImplicit false

namespace KeyedQuery.Log

inductive Severity where
  | trace
  | info
  | warn
  | error
deriving DecidableEq

namespace Severity

def name : Severity → String
  | .trace => "TRACE"
  | .info => "INFO"
  | .warn => "WARN"
  | .error => "ERROR"

def rank : Severity → Nat
  | .trace => 0
  | .info => 1
  | .warn => 2
  | .error => 3

def all : List Severity :=
  [.trace, .info, .warn, .error]

/-- Whether entries of the severity are written when `threshold` is the least that is. -/
def enabledAt (threshold severity : Severity) : Bool :=
  threshold.rank ≤ severity.rank

end Severity

inductive Event where
  | methodRegistered
  | queryPrepared
  | queryClassified
  | keyReadSingle
  | keyReadBatch
  | predicateScan
  /-- A type that the caller may choose was not chosen. -/
  | projectionMissing
  | queryFailed
deriving DecidableEq

namespace Event

def name : Event → String
  | .methodRegistered => "METHOD_REGISTERED"
  | .queryPrepared => "QUERY_PREPARED"
  | .queryClassified => "QUERY_CLASSIFIED"
  | .keyReadSingle => "ID_LOOKUP_SINGLE"
  | .keyReadBatch => "ID_LOOKUP_BATCH"
  | .predicateScan => "PREDICATE_SCAN"
  | .projectionMissing => "PROJECTION_MISSING"
  | .queryFailed => "QUERY_FAILED"

def isFailure : Event → Bool
  | .queryFailed => true
  | _ => false

def severity : Event → Severity
  | .queryFailed => .error
  | .projectionMissing => .warn
  | _ => .info

end Event

end KeyedQuery.Log
