import KeyedQuery.Config.Text
import KeyedQuery.Counters
import KeyedQuery.Json.Printer
import KeyedQuery.Json.Record

/-!
The JSON form of configurations and counters.

`toJson` writes and `ofDocument?` reads, without accepting what it reads. Counters are only written.
-/

set_option autoImplicit false

namespace KeyedQuery

open Json (Document)

namespace Config

def toJson (config : Config) : Json :=
  .object [(keyFieldName, .string config.keyField), (logQueriesName, .bool config.logQueries)]

def text (config : Config) : String :=
  config.toJson.compact

/-- The configuration that a document stands for, accepted or not. -/
def ofDocument? (document : Document) : Option Config := do
  let fields ← document.record? [keyFieldName, logQueriesName] 0
  let keyField ← fields.defaulted? keyFieldName defaultKeyField Document.string?
  let logQueries ← fields.defaulted? logQueriesName true Document.bool?
  return ⟨keyField, logQueries⟩

end Config

def Counters.toJson (counters : Counters) : Json :=
  .object
    [("batch_lookups", .ofNat counters.batchReads.toNat),
      ("failures", .ofNat counters.failures.toNat),
      ("plans_prepared", .ofNat counters.plansPrepared.toNat),
      ("scans", .ofNat counters.scans.toNat),
      ("single_lookups", .ofNat counters.singleReads.toNat)]

end KeyedQuery
