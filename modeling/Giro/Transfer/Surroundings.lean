import Giro.Audit
import Giro.Notification.Event
import Giro.Refusal
import Giro.Script
import Giro.Transfer.Record

/-!
# What a transfer asks for

The questions that a transfer asks on its way. Those to the ledger concern one
transaction: it is begun, locks and reads rows, stages writes, and ends by a
commit, a rollback or by being discarded. The others go to the clock, to the
sources of reference codes and identifiers, to the audit trail and to the
notifier.
-/

namespace Giro

/-- What is asked of the ledger within one transaction. -/
inductive LedgerAsk
  | begin
  | lock (iban : String)
  | readLimit (iban : String) (date : Date)
  | writeLimit (row : DailyLimit)
  | writeAccount (row : Account)
  | record (draft : TransferDraft)
  | commit
  | rollback
  | discard
deriving DecidableEq

/-- What the ledger answers. -/
def LedgerAsk.Answer : LedgerAsk -> Type
  | begin => Except Refusal Unit
  | lock _ => Except Refusal (Option Account)
  | readLimit _ _ => Except Refusal (Option DailyLimit)
  | writeLimit _ => Except Refusal Unit
  | writeAccount _ => Except Refusal Unit
  | record _ => Except Refusal Transfer
  | commit => Except Refusal Unit
  | rollback => Except Refusal Unit
  | discard => Unit

/-- What is asked of everything but the ledger. -/
inductive OutsideAsk
  | now
  | reference (now : Instant)
  | externalId
  | audit (entry : AuditEntry)
  | dispatch (event : TransferEvent)
deriving DecidableEq

/-- What is answered; for an audit entry, whether it was written. -/
def OutsideAsk.Answer : OutsideAsk -> Type
  | now => Instant
  | reference _ => String
  | externalId => Uuid
  | audit _ => Bool
  | dispatch _ => Unit

/-- Everything that a transfer asks for. -/
inductive TransferAsk
  | ledger (ask : LedgerAsk)
  | outside (ask : OutsideAsk)
deriving DecidableEq

/-- Everything that a transfer is answered. -/
def TransferAsk.Answer : TransferAsk -> Type
  | ledger ask => ask.Answer
  | outside ask => ask.Answer

/-- The surroundings of a transfer. -/
def transferSurroundings : Interface where
  Ask := TransferAsk
  Answer := TransferAsk.Answer

/-- A computation in the surroundings of a transfer. -/
abbrev TransferScript := Script transferSurroundings

/-- The script that asks the ledger one question. -/
def TransferScript.ledger (ask : LedgerAsk) : TransferScript ask.Answer :=
  .ask (.ledger ask) .done

/-- A computation within a transaction, which ends early with a failure. -/
abbrev TransferWork (α : Type) := TransferScript (Except Failure α)

namespace TransferWork

variable {α β : Type}

/-- End with a refusal. -/
def refuse (refusal : Refusal) : TransferWork α :=
  .done (.error (.refused refusal))

/-- End with the failure of a result, or go on with its value. -/
def orElse (result : Except Failure α) (next : α -> TransferWork β) : TransferWork β :=
  match result with
  | .ok value => next value
  | .error failure => .done (.error failure)

/-- Go on with the answer of the ledger, or end with its refusal. -/
def granted (answer : Except Refusal α) (next : α -> TransferWork β) : TransferWork β :=
  match answer with
  | .ok value => next value
  | .error refusal => refuse refusal

/-- Lock an account's row and go on with the account, if there is one. -/
def lock (iban : String) (next : Option Account -> TransferWork β) : TransferWork β :=
  .ask (.ledger (.lock iban)) (fun answer => granted answer next)

/-- Read the row of an account's limit on a day. -/
def readLimit
    (iban : String)
    (date : Date)
    (next : Option DailyLimit -> TransferWork β) : TransferWork β :=
  .ask (.ledger (.readLimit iban date)) (fun answer => granted answer next)

/-- Stage the row of an account's limit on a day. -/
def writeLimit (row : DailyLimit) (next : TransferWork β) : TransferWork β :=
  .ask (.ledger (.writeLimit row))
    (fun (answer : Except Refusal Unit) => granted answer (fun _ => next))

/-- Stage an account's row. -/
def writeAccount (row : Account) (next : TransferWork β) : TransferWork β :=
  .ask (.ledger (.writeAccount row))
    (fun (answer : Except Refusal Unit) => granted answer (fun _ => next))

/-- Stage a transfer. -/
def record (draft : TransferDraft) (next : Transfer -> TransferWork β) :
    TransferWork β :=
  .ask (.ledger (.record draft)) (fun answer => granted answer next)

/-- Read the clock. -/
def now (next : Instant -> TransferWork β) : TransferWork β :=
  .ask (.outside .now) next

/-- Take a reference code for an instant and a new identifier. -/
def mint (now : Instant) (next : String -> Uuid -> TransferWork β) : TransferWork β :=
  .ask (.outside .externalId) (fun (identifier : Uuid) =>
    .ask (.outside (.reference now)) (fun (reference : String) =>
      next reference identifier))

end TransferWork
end Giro
