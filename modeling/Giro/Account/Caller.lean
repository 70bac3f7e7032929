import Giro.Account.Basic
import Giro.Text.Digits

/-!
# Callers

Every operation is carried out on behalf of a caller, who is an ordinary user
or an administrator. Users have access to the accounts they own, administrators
to all accounts.
-/

namespace Giro

/-- What a caller may do. -/
inductive Role
  | user
  | admin
deriving DecidableEq

namespace Role

/-- The role named by a text, blanks around it and the case of its letters aside. -/
def parse (text : String) : Except String Role :=
  let word := Text.upper (Text.trim text)
  if word == "USER" || word == "ROLE_USER" then .ok .user
  else if word == "ADMIN" || word == "ROLE_ADMIN" || word == "SCOPE_ADMIN" then
    .ok .admin
  else .error ("Unknown role: " ++ word)

/-- The name under which a role is shown. -/
def name : Role -> String
  | user => "User"
  | admin => "Admin"

end Role

/-- On whose behalf an operation is carried out. -/
structure Caller where
  userId : Int
  role : Role
  principal : String
  origin : Option String
deriving DecidableEq

namespace Caller

/-- Whether the caller is an administrator. -/
def isAdmin (caller : Caller) : Bool :=
  caller.role = .admin

/-- Whether the caller has access to an account. -/
def mayUse (caller : Caller) (account : Account) : Bool :=
  caller.isAdmin || account.owner.userId == caller.userId

/-- The principal and the user number. -/
def display (caller : Caller) : String :=
  caller.principal ++ "#" ++ Text.showInt caller.userId

end Caller
end Giro
