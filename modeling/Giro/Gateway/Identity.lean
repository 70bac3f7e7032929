import Giro.Account.Caller
import Giro.Gateway.Fault

/-!
# Callers of requests

Whoever stands in front of the gateway has authenticated the caller and names
it in headers: a user number, which is required, a role, an email address as
principal, and the addresses through which the request came.
-/

namespace Giro
namespace Identity

/-- Whether a header's value is made of visible ASCII characters, blanks and tabs. -/
def isVisible (value : String) : Bool :=
  value.toList.all (fun next => next = '\t' || (0x20 <= next.toNat && next.toNat < 0x7F))

/-- A header that says something, without the blanks around it. -/
def header? (request : HttpRequest) (name : String) : Option String :=
  match request.header? name with
  | some value =>
      if isVisible value && !Text.allBlank value then some (Text.trim value) else none
  | none => none

/-- The user number. -/
def userId (request : HttpRequest) : Except ApiFault Int :=
  match header? request "x-user-id" with
  | none => .error (.unauthorized "Missing caller identity")
  | some text =>
      match Text.readInt64? text with
      | some number => .ok number
      | none => .error (.unauthorized "Invalid caller identity")

/-- The role; who names none is a user. -/
def role (request : HttpRequest) : Except ApiFault Role :=
  match header? request "x-user-role" with
  | none => .ok .user
  | some text =>
      match Role.parse text with
      | .ok role => .ok role
      | .error _ => .error (.unauthorized "Invalid caller role")

/-- The first of the addresses through which a request came. -/
def origin? (request : HttpRequest) : Option String :=
  match header? request "x-forwarded-for" with
  | none => none
  | some addresses =>
      let first := Text.trimChars (addresses.toList.takeWhile (fun next => next != ','))
      if first.isEmpty then none else some (String.ofList first)

/-- The caller of a request. -/
def caller (request : HttpRequest) : Except ApiFault Caller := do
  let userId <- userId request
  let role <- role request
  let principal :=
    (header? request "x-user-email").getD ("user-" ++ Text.showInt userId)
  .ok ⟨userId, role, principal, origin? request⟩

end Identity
end Giro
