import Giro.Account.Basic
import Giro.Account.Iban
import Giro.Time.Instant
import Giro.Uuid

/-!
# Transfers

A request names two accounts and an amount. A draft is what is about to be
recorded, and a transfer is a recorded draft with its number. Recorded transfers
are never changed.
-/

namespace Giro

/-- What became of a recorded transfer. -/
inductive TransferStatus
  | pending
  | completed
  | failed
deriving DecidableEq

namespace TransferStatus

/-- The stored word for a status. -/
def word : TransferStatus -> String
  | pending => "PENDING"
  | completed => "COMPLETED"
  | failed => "FAILED"

/-- All statuses. -/
def all : List TransferStatus := [pending, completed, failed]

/-- The status with a stored word. -/
def ofWord? (word : String) : Option TransferStatus :=
  all.find? (fun status => status.word == word)

/-- The status that a stored word stands for. -/
def parse (text : String) : Except String TransferStatus :=
  match ofWord? text with
  | some status => .ok status
  | none => .error ("Invalid transfer status: " ++ text)

end TransferStatus

/-- What kind of movement a transfer is. -/
inductive TransferType
  | transfer
  | deposit
  | withdraw
  | fee
deriving DecidableEq

namespace TransferType

/-- The stored word for a type. -/
def word : TransferType -> String
  | transfer => "TRANSFER"
  | deposit => "DEPOSIT"
  | withdraw => "WITHDRAW"
  | fee => "FEE"

/-- All types. -/
def all : List TransferType := [transfer, deposit, withdraw, fee]

/-- The type with a stored word. -/
def ofWord? (word : String) : Option TransferType :=
  all.find? (fun type => type.word == word)

/-- The type that a stored word stands for. -/
def parse (text : String) : Except String TransferType :=
  match ofWord? text with
  | some type => .ok type
  | none => .error ("Invalid transfer type: " ++ text)

end TransferType

/-- A wish to move an amount from one account to another. -/
structure TransferRequest where
  sender : String
  receiver : String
  amount : Decimal
  currency : Option Currency
  description : Option String
deriving DecidableEq

namespace TransferRequest

/-- The request with both account numbers in normal form. -/
def normalized (request : TransferRequest) : TransferRequest :=
  { request with
    sender := Iban.normalize request.sender
    receiver := Iban.normalize request.receiver }

/-- Whether both numbers name the same account. -/
def isSelfTransfer (request : TransferRequest) : Bool :=
  Iban.normalize request.sender == Iban.normalize request.receiver

end TransferRequest

/-- A transfer about to be recorded. -/
structure TransferDraft where
  externalId : Uuid
  reference : String
  sender : String
  receiver : String
  amount : Decimal
  currency : Currency
  type : TransferType
  status : TransferStatus
  description : Option String
  createdAt : Instant
deriving DecidableEq

/-- A recorded transfer. -/
structure Transfer extends TransferDraft where
  id : Int
deriving DecidableEq

namespace Transfer

/-- Whether an account is on either side of a transfer. -/
def involves (transfer : Transfer) (iban : String) : Bool :=
  transfer.sender == iban || transfer.receiver == iban

/-- Whether a transfer has the reference or the external identifier of another one. -/
def clashesWith (transfer other : Transfer) : Bool :=
  transfer.reference == other.reference || transfer.externalId = other.externalId

end Transfer

/-- A recorded transfer with the owners of both accounts. -/
structure TransferDetails where
  transfer : Transfer
  sender : Owner
  receiver : Owner
deriving DecidableEq

/-- How much an account has sent on one day, and how much it may send. -/
structure DailyLimit where
  iban : String
  date : Date
  used : Decimal
  limit : Decimal
deriving DecidableEq

/-- Nothing sent on a day yet. -/
def DailyLimit.opened (iban : String) (date : Date) (limit : Decimal) : DailyLimit :=
  ⟨iban, date, .zero, limit⟩

/-- The stages of a transfer on its way. -/
inductive Stage
  | requested
  | locked
  | validated
  | accounted
  | recorded
  | finalized
deriving DecidableEq

namespace Stage

/-- The name of a stage. -/
def name : Stage -> String
  | requested => "REQUESTED"
  | locked => "LOCKED"
  | validated => "VALIDATED"
  | accounted => "ACCOUNTED"
  | recorded => "RECORDED"
  | finalized => "FINALIZED"

/-- The stage after a stage. -/
def next? : Stage -> Option Stage
  | requested => some locked
  | locked => some validated
  | validated => some accounted
  | accounted => some recorded
  | recorded => some finalized
  | finalized => none

/-- The number of stages before a stage. -/
def position : Stage -> Nat
  | requested => 0
  | locked => 1
  | validated => 2
  | accounted => 3
  | recorded => 4
  | finalized => 5

/-- Whether what a stage has reached is kept for good. -/
def isDurable (stage : Stage) : Bool :=
  stage = .finalized

/-- All stages in order. -/
def all : List Stage := [requested, locked, validated, accounted, recorded, finalized]

end Stage
end Giro
