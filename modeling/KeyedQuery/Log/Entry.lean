import KeyedQuery.Json.Quoted
import KeyedQuery.Log.Event

/-!
Log entries and the lines they are written as.

A line is a JSON object whose members are the event, the severity and then the fields in the order
of their keys; fields with one key keep their order. Errors go to one channel and everything else
to another.
-/

set_option autoImplicit false

namespace KeyedQuery.Log

structure Entry where
  severity : Severity
  event : String
  fields : List (String × String)
deriving DecidableEq

inductive Channel where
  | output
  | errors
deriving DecidableEq

def Event.entry (event : Event) (fields : List (String × String)) : Entry :=
  ⟨event.severity, event.name, fields⟩

/-- The entry for an event that is only of interest when queries are traced. -/
def Event.traceEntry (event : Event) (fields : List (String × String)) : Entry :=
  ⟨.trace, event.name, fields⟩

namespace Entry

def channel (entry : Entry) : Channel :=
  if entry.severity = .error then .errors else .output

def sortedFields (entry : Entry) : List (String × String) :=
  entry.fields.mergeSort fun earlier later => decide (earlier.1 ≤ later.1)

def members (entry : Entry) : List (String × String) :=
  ("event", entry.event) :: ("severity", entry.severity.name) :: entry.sortedFields

def memberText (member : String × String) : String :=
  Json.quote member.1 ++ ":" ++ Json.quote member.2

def line (entry : Entry) : String :=
  "\x7b" ++ String.intercalate "," (entry.members.map memberText) ++ "\x7d\n"

end Entry

/-- The lines that the entries write to a channel when `threshold` is the least severity that is
written. -/
def written (threshold : Severity) (channel : Channel) (entries : List Entry) : List String :=
  (entries.filter fun entry =>
    threshold.enabledAt entry.severity && entry.channel == channel).map Entry.line

end KeyedQuery.Log
