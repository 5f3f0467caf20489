/-!
What can go wrong with a query.

Each cause has a code for programs, a kind that says whose fault it is, and a message for people.
-/

set_option autoImplicit false

namespace KeyedQuery

inductive ErrorKind where
  | contractViolation
  | invalidInvocation
  | configuration
  | execution
deriving DecidableEq

def ErrorKind.name : ErrorKind → String
  | .contractViolation => "CONTRACT_VIOLATION"
  | .invalidInvocation => "INVALID_INVOCATION"
  | .configuration => "CONFIGURATION"
  | .execution => "EXECUTION"

inductive QueryError where
  | qualifierNotFound (field : String)
  /-- No qualifier on the key field is bound to a value. -/
  | keyValueNotFound (field : String)
  | nullKey
  | invalidConfig (reason : String)
  | execution (reason : String)
deriving DecidableEq

namespace QueryError

def message : QueryError → String
  | .qualifierNotFound field => "Qualifier with '" ++ field ++ "' field was not found"
  | .keyValueNotFound field => "Value of '" ++ field ++ "' field in a Qualifier was not found"
  | .nullKey => "Parameters accessor value is null while parameters quantity is > 0"
  | .invalidConfig reason => "Invalid configuration: " ++ reason
  | .execution reason => "Execution failed: " ++ reason

def code : QueryError → String
  | .qualifierNotFound _ => "AERO_QUALIFIER_NOT_FOUND"
  | .keyValueNotFound _ => "AERO_QUALIFIER_INCONSISTENT"
  | .nullKey => "AERO_INVALID_ARGUMENT"
  | .invalidConfig _ => "AERO_CONFIG_INVALID"
  | .execution _ => "AERO_EXECUTION_FAILED"

def kind : QueryError → ErrorKind
  | .qualifierNotFound _ | .keyValueNotFound _ => .contractViolation
  | .nullKey => .invalidInvocation
  | .invalidConfig _ => .configuration
  | .execution _ => .execution

def isContractViolation (error : QueryError) : Bool :=
  error.kind == .contractViolation

end QueryError

end KeyedQuery
