/-!
Counters of what a query method has done.

Counters are 64-bit words. `Counters.value_afterAll` says that a counter holds the number of times
that it was incremented, modulo the size of the word.
-/

set_option autoImplicit false

namespace KeyedQuery

inductive Counter where
  | plansPrepared
  | singleReads
  | batchReads
  | scans
  | failures
deriving DecidableEq

structure Counters where
  plansPrepared : UInt64 := 0
  singleReads : UInt64 := 0
  batchReads : UInt64 := 0
  scans : UInt64 := 0
  failures : UInt64 := 0
deriving DecidableEq

namespace Counters

def value (counters : Counters) : Counter → UInt64
  | .plansPrepared => counters.plansPrepared
  | .singleReads => counters.singleReads
  | .batchReads => counters.batchReads
  | .scans => counters.scans
  | .failures => counters.failures

def increment (counters : Counters) : Counter → Counters
  | .plansPrepared => { counters with plansPrepared := counters.plansPrepared + 1 }
  | .singleReads => { counters with singleReads := counters.singleReads + 1 }
  | .batchReads => { counters with batchReads := counters.batchReads + 1 }
  | .scans => { counters with scans := counters.scans + 1 }
  | .failures => { counters with failures := counters.failures + 1 }

def afterAll (counters : Counters) (counted : List Counter) : Counters :=
  counted.foldl increment counters

def keyReads (counters : Counters) : UInt64 :=
  counters.singleReads + counters.batchReads

theorem value_increment (counters : Counters) (counted counter : Counter) :
    (counters.increment counted).value counter =
      counters.value counter + if counted = counter then 1 else 0 := by
  cases counted <;> cases counter <;> simp [increment, value]

/-- A counter holds the number of its increments. -/
theorem value_afterAll (counters : Counters) (counted : List Counter) (counter : Counter) :
    (counters.afterAll counted).value counter =
      counters.value counter + UInt64.ofNat (counted.count counter) := by
  induction counted generalizing counters with
  | nil => simp [afterAll]
  | cons head tail ih =>
      have step : (counters.afterAll (head :: tail)) = (counters.increment head).afterAll tail := rfl
      rw [step, ih, value_increment, List.count_cons]
      by_cases isHead : head = counter
      · simp only [isHead, beq_self_eq_true, if_true, UInt64.ofNat_add, UInt64.add_assoc]
        rw [UInt64.add_comm (UInt64.ofNat _)]
        rfl
      · simp [isHead]

theorem toNat_value_afterAll (counted : List Counter) (counter : Counter)
    (fits : counted.count counter < UInt64.size) :
    ((afterAll {} counted).value counter).toNat = counted.count counter := by
  have fresh : ({} : Counters).value counter = 0 := by cases counter <;> rfl
  rw [value_afterAll, fresh, UInt64.zero_add]
  exact UInt64.toNat_ofNat_of_lt' fits

end Counters

end KeyedQuery
