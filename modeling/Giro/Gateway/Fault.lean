import Giro.Gateway.Http
import Giro.Refusal

/-!
# Faults of requests

Every refusal that a request meets is answered with an HTTP status, a number
that tells its cause, and a message. Internal causes stay inside.
-/

namespace Giro

/-- Why a request is answered with an error. -/
structure ApiFault where
  status : Nat
  code : Nat
  message : String
deriving DecidableEq

/-- The number that tells a kind of refusal. -/
def RefusalKind.apiCode : RefusalKind -> Nat
  | invalidArgument => 1001
  | insufficientFunds => 1002
  | limitExceeded => 1003
  | invalidState => 1004
  | unsupported => 1005
  | forbidden => 2003
  | notFound => 4004
  | conflict => 4009
  | internal => 5000
  | serviceUnavailable => 5001

namespace ApiFault

/-- The request cannot be understood. -/
def badRequest (message : String) : ApiFault := ⟨400, 1001, message⟩

/-- The caller is not known. -/
def unauthorized (message : String) : ApiFault := ⟨401, 2001, message⟩

/-- The request cannot be served for the time being. -/
def unavailable (message : String) : ApiFault := ⟨503, 5001, message⟩

/-- What is said of internal causes. -/
def internalMessage : String := "Internal server error"

/-- The fault that a refusal makes of a request. -/
def ofRefusal (refusal : Refusal) : ApiFault where
  status := refusal.kind.httpStatus
  code := refusal.kind.apiCode
  message := if refusal.kind = .internal then internalMessage else refusal.message

/-- The fault of an amount that cannot be understood. -/
def ofAmount (fault : Money.Fault) : ApiFault :=
  badRequest ("Invalid amount: " ++ fault.message)

/-- The response that reports a fault. -/
def respond (fault : ApiFault) : HttpResponse :=
  .ofJson fault.status
    (.object [("code", .number fault.code), ("msg", .text fault.message)])

end ApiFault
end Giro
