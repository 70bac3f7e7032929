import Giro.Decimal.Arithmetic
import Giro.Money

/-!
# Refusals

Why an operation is refused. Every refusal has a kind, by which callers decide
what to do next, and a message. Failures of the storage behind the engine are
refusals too; their kind is internal. Apart from refusals, an operation may end
because a sum or a product left the range of decimals.
-/

namespace Giro

/-- The kinds of refusals. -/
inductive RefusalKind
  | invalidArgument
  | forbidden
  | notFound
  | invalidState
  | unsupported
  | insufficientFunds
  | limitExceeded
  | conflict
  | serviceUnavailable
  | internal
deriving DecidableEq

namespace RefusalKind

/-- The stable name of a kind. -/
def name : RefusalKind -> String
  | invalidArgument => "INVALID_ARGUMENT"
  | forbidden => "FORBIDDEN"
  | notFound => "NOT_FOUND"
  | invalidState => "INVALID_STATE"
  | unsupported => "UNSUPPORTED"
  | insufficientFunds => "INSUFFICIENT_FUNDS"
  | limitExceeded => "LIMIT_EXCEEDED"
  | conflict => "CONFLICT"
  | serviceUnavailable => "SERVICE_UNAVAILABLE"
  | internal => "INTERNAL"

/-- The HTTP status that goes with a kind. -/
def httpStatus : RefusalKind -> Nat
  | invalidArgument => 400
  | unsupported => 400
  | forbidden => 403
  | notFound => 404
  | conflict => 409
  | invalidState => 422
  | insufficientFunds => 422
  | limitExceeded => 422
  | internal => 500
  | serviceUnavailable => 503

end RefusalKind

/-- Why an operation is refused. -/
inductive Refusal
  | invalidArgument (reason : String)
  | forbidden (reason : String)
  | notFound (reason : String)
  | invalidState (reason : String)
  | unsupported (reason : String)
  | insufficientFunds
  | limitExceeded (remaining : Decimal)
  | conflict (reason : String)
  | serviceUnavailable (reason : String)
  | database (reason : String)
  | system (reason : String)
deriving DecidableEq

namespace Refusal

/-- The kind of a refusal. -/
def kind : Refusal -> RefusalKind
  | invalidArgument _ => .invalidArgument
  | forbidden _ => .forbidden
  | notFound _ => .notFound
  | invalidState _ => .invalidState
  | unsupported _ => .unsupported
  | insufficientFunds => .insufficientFunds
  | limitExceeded _ => .limitExceeded
  | conflict _ => .conflict
  | serviceUnavailable _ => .serviceUnavailable
  | database _ => .internal
  | system _ => .internal

/-- What is reported about a refusal. -/
def message : Refusal -> String
  | invalidArgument reason => reason
  | forbidden reason => reason
  | notFound reason => reason
  | invalidState reason => reason
  | unsupported reason => reason
  | insufficientFunds => "Insufficient funds in sender account"
  | limitExceeded remaining =>
      "Daily transfer limit exceeded! Remaining limit: " ++ Money.format remaining
  | conflict reason => "Conflict: " ++ reason
  | serviceUnavailable reason => "Service unavailable: " ++ reason
  | database reason => "Database error: " ++ reason
  | system reason => "Internal system error: " ++ reason

/-- Whether the same request may succeed later. -/
def isRetryable (refusal : Refusal) : Bool :=
  refusal.kind = .serviceUnavailable

/-- The refusal of a faulty amount. -/
def ofAmount (fault : Money.Fault) : Refusal :=
  .invalidArgument ("Invalid amount: " ++ fault.message)

/-- An account's row lock did not become free in time. -/
def accountBusy : Refusal :=
  .serviceUnavailable "Account is busy, please try again later"

/-- A reference code or an external identifier is in use already. -/
def duplicateReference : Refusal :=
  .conflict "Transfer reference code already exists"

/-- Sender and receiver are one account. -/
def sameAccount : Refusal :=
  .invalidArgument "Cannot transfer to the same account"

end Refusal

/-- How a database reports that it cannot serve a request. -/
inductive DatabaseFault
  | reported (state : Option String) (message : String)
  | poolTimedOut
  | poolClosed
  | rowNotFound
  | columnNotFound (name : String)
deriving DecidableEq

namespace DatabaseFault

/-- What is reported about a database that cannot serve a request. -/
def message : DatabaseFault -> String
  | reported _ message => "error returned from database: " ++ message
  | poolTimedOut => "pool timed out while waiting for an open connection"
  | poolClosed => "attempted to acquire a connection on a closed pool"
  | rowNotFound =>
      "no rows returned by a query that expected to return at least one row"
  | columnNotFound name => "no column found for name: " ++ name

/--
The refusal that follows from a database fault. A violated unique constraint is a
conflict; a lock or a connection that is not to be had is a matter of time.
-/
def toRefusal : DatabaseFault -> Refusal
  | reported (some "23505") message => .conflict message
  | reported (some "55P03") _ => .accountBusy
  | poolTimedOut => .serviceUnavailable "Database connection pool exhausted"
  | fault => .database fault.message

end DatabaseFault

/-- How an operation ends other than by success. -/
inductive Failure
  | refused (refusal : Refusal)
  | overflowed (overflow : Overflow)
deriving DecidableEq

namespace Failure

/-- The result of an operation that can only be refused. -/
def ofRefusal {α : Type} : Except Refusal α -> Except Failure α
  | .ok value => .ok value
  | .error refusal => .error (.refused refusal)

/-- The result of an operation that can only overflow. -/
def ofOverflow {α : Type} : Except Overflow α -> Except Failure α
  | .ok value => .ok value
  | .error overflow => .error (.overflowed overflow)

end Failure
end Giro
