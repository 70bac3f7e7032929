import Giro.Gateway.Endpoint
import Giro.Gateway.HistoryForm
import Giro.Gateway.Identity
import Giro.Gateway.MediaType
import Giro.Gateway.TransferForm

/-!
# What requests call for

A request calls for one operation of the bank. It is understood in a fixed
order: where it goes, who the caller is, what the path names, what the query
says, what the body holds. The first part that cannot be understood decides the
response.
-/

namespace Giro

/-- What a request calls for. -/
inductive Call
  | health
  | description
  | transfer (request : TransferRequest) (caller : Caller)
  | receipt (id : Int) (caller : Caller)
  | history
      (iban : String)
      (filter : TransferFilter)
      (page : PageRequest)
      (caller : Caller)
  | summary (iban : String) (caller : Caller)
  | categories (iban : String) (caller : Caller)
  | weeklyTrend (iban : String) (caller : Caller)
deriving DecidableEq

namespace Call

/-- A result, or the response that reports its fault. -/
def orFault {α : Type} : Except ApiFault α -> Except HttpResponse α
  | .ok value => .ok value
  | .error fault => .error fault.respond

/-- A value, or a response without content. -/
def orBare {α : Type} (status : Nat) : Option α -> Except HttpResponse α
  | some value => .ok value
  | none => .error (.bare status)

/-- The most bytes of a body that is read. -/
def maxBodyBytes : Nat := 0x200000

/-- The form in the body of a request for a transfer. -/
def transferForm (request : HttpRequest) : Except HttpResponse TransferForm :=
  match request.header? "content-type" with
  | none => .error (.bare 415)
  | some header =>
      if !(Identity.isVisible header && MediaType.isJson header) then .error (.bare 415)
      else if maxBodyBytes < request.body.length then .error (.bare 413)
      else
        match TransferForm.read request.body with
        | .ok form => .ok form
        | .error .malformed => .error (.bare 400)
        | .error .mismatched => .error (.bare 422)

/-- What a request calls for that has come to an endpoint, given what its path fills in. -/
def atEndpoint (request : HttpRequest) :
    Endpoint -> List (List Char) -> Except HttpResponse Call
  | .health, _ => .ok health
  | .description, _ => .ok description
  | .createTransfer, _ => do
      let caller <- orFault (Identity.caller request)
      let form <- transferForm request
      let wanted <- orFault form.request
      .ok (transfer wanted caller)
  | endpoint, pieces => do
      let caller <- orFault (Identity.caller request)
      let named <- orBare 400 (pieces.head?.bind Percent.decode?)
      match endpoint with
      | .receipt =>
          let id <- orBare 400 (Text.readInt64? named)
          .ok (receipt id caller)
      | .history =>
          let form <- orBare 400 (HistoryForm.read? (Percent.pairs request.query))
          let filter <- orFault form.filter
          .ok (history named filter form.pageRequest caller)
      | .summary => .ok (summary named caller)
      | .categories => .ok (categories named caller)
      | _ => .ok (weeklyTrend named caller)

/-- What a request calls for, or the response to one that cannot be understood. -/
def ofRequest (request : HttpRequest) : Except HttpResponse Call :=
  match Endpoint.ofPath? request.path with
  | none => .error (.bare 404)
  | some (endpoint, pieces) =>
      if endpoint.allows request.method then atEndpoint request endpoint pieces
      else .error (.bare 405)

end Call
end Giro
