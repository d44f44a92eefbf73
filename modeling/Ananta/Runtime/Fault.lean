import Ananta.Python.Text

/-! The exceptions that the workflow runtime raises. -/

namespace Ananta

/-- `ContractIssue`. -/
structure ContractIssue where
  code : String
  path : String
  message : Str := []
  deriving DecidableEq, Repr

/-- The exception classes, one constructor each, with the fields that some of them carry. -/
inductive FaultKind where
  | valueError
  | keyError
  | overflowError
  | indexError
  | typeError
  | unicodeEncodeError
  | permissionError
  | stopIteration
  -- The process ends before an effect is carried out.
  | interrupted
  | optimisticConcurrencyError
  | fencingTokenError
  | invalidTransitionError
  | signatureValidationError
  | temporalContractError
  | providerBudgetError
  | integrityError
  | identityValidationError (fieldName : String)
  | contractValidationError (issues : List ContractIssue)
  | transitionOwnershipReservationConflict
  | transitionOwnershipReservationStale
  | transitionOwnershipReservationHeld
  | transitionQueueReservationError
  | transitionQueueReservationConflict
  deriving DecidableEq, Repr

/-- A raised exception: its class and its message. -/
structure Fault where
  kind : FaultKind
  message : String
  deriving DecidableEq, Repr

end Ananta
