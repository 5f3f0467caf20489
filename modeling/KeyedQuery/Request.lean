import KeyedQuery.Invocation

/-!
Requests to a registered method.

A request asks for the plan, for the explanation or for the records of one invocation. Requests are
answered one after another, and the counters of the method go on from each to the next.
-/

set_option autoImplicit false

namespace KeyedQuery

inductive Request where
  | prepare (parameters : List Json) (arguments : Arguments)
  | explain (parameters : List Json) (arguments : Arguments)
  /-- The store may be another one each time, or the same one in another state. -/
  | execute (parameters : List Json) (arguments : Arguments) (store : Store)

def Request.isExecution : Request → Bool
  | .execute _ _ _ => true
  | _ => false

inductive Answer where
  | plan (plan : Plan)
  | explanation (explanation : Explanation)
  | records (result : Except QueryError (List Json))

def Answer.isFailure : Answer → Bool
  | .records (.error _) => true
  | _ => false

namespace Registration

def answer (registration : Registration) : Request → Observed Answer
  | .prepare parameters arguments => do
      let plan ← registration.prepare parameters arguments
      return .plan plan
  | .explain parameters arguments => do
      let explanation ← registration.explain parameters arguments
      return .explanation explanation
  | .execute parameters arguments store => do
      let result ← registration.execute parameters arguments store
      return .records result

def answerAll (registration : Registration) : List Request → Observed (List Answer)
  | [] => return []
  | request :: rest => do
      let answer ← registration.answer request
      let answers ← registration.answerAll rest
      return answer :: answers

/-- The counters of a method that has answered the requests, and no others, since it was
registered. -/
def countersAfter (registration : Registration) (requests : List Request) : Counters :=
  Counters.afterAll {} (registration.answerAll requests).counted

end Registration

end KeyedQuery
