import Giro.Decimal.Basic
import Giro.Text.Blank

/-!
# Accounts

An account belongs to an owner, is kept in one currency and may send up to a
limit per day. It takes part in transfers while its status is active and its
own active flag is set.
-/

namespace Giro

/-- The currencies in which accounts are kept. -/
inductive Currency
  | tryLira
  | usd
  | eur
  | gbp
deriving DecidableEq

namespace Currency

/-- The code of three letters. -/
def code : Currency -> String
  | tryLira => "TRY"
  | usd => "USD"
  | eur => "EUR"
  | gbp => "GBP"

/-- The currencies in the order of their codes' introduction. -/
def all : List Currency := [tryLira, usd, eur, gbp]

/-- The currency with a given code. -/
def ofCode? (code : String) : Option Currency :=
  all.find? (fun currency => currency.code == code)

/-- The currency named by a text, blanks around it and the case of its letters aside. -/
def parse (text : String) : Except String Currency :=
  let code := Text.upper (Text.trim text)
  match ofCode? code with
  | some currency => .ok currency
  | none => .error ("Unsupported currency: " ++ code)

end Currency

/-- Where an account is in its life. -/
inductive AccountStatus
  | active
  | suspended
  | closed
deriving DecidableEq

namespace AccountStatus

/-- The stored word for a status. -/
def word : AccountStatus -> String
  | active => "ACTIVE"
  | suspended => "SUSPENDED"
  | closed => "CLOSED"

/-- All statuses. -/
def all : List AccountStatus := [active, suspended, closed]

/-- The status that a stored word stands for. -/
def parse (text : String) : Except String AccountStatus :=
  match all.find? (fun status => status.word == text) with
  | some status => .ok status
  | none => .error ("Invalid account status: " ++ text)

end AccountStatus

/-- The user an account belongs to. -/
structure Owner where
  userId : Int
  firstName : String
  lastName : String
  email : String
  isActive : Bool
deriving DecidableEq

/-- First and last name. -/
def Owner.displayName (owner : Owner) : String :=
  owner.firstName ++ " " ++ owner.lastName

/-- An account with its balance. -/
structure Account where
  accountId : Int
  iban : String
  balance : Decimal
  currency : Currency
  status : AccountStatus
  dailyLimit : Decimal
  isActive : Bool
  owner : Owner
deriving DecidableEq

/-- Whether an account takes part in transfers. -/
def Account.isOperational (account : Account) : Bool :=
  account.status = .active && account.isActive

end Giro
