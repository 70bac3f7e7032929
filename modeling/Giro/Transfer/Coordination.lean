import Giro.Transfer.Locking
import Giro.Transfer.Validation

/-!
# Carrying out a transfer

A transfer is carried out within one transaction: both rows are locked, the
rules checked, the posting and the record staged, and all of it committed at
once. Whatever fails on the way ends the transaction without a trace. The audit
entry and the event follow the commit and change nothing about it.
-/

namespace Giro

/-- The transfer to be recorded for a request. -/
def TransferRequest.draft
    (request : TransferRequest)
    (pair : LockedPair)
    (identifier : Uuid)
    (reference : String)
    (now : Instant) : TransferDraft where
  externalId := identifier
  reference := reference
  sender := pair.sender.iban
  receiver := pair.receiver.iban
  amount := request.amount
  currency := pair.sender.currency
  type := .transfer
  status := .completed
  description := request.description
  createdAt := now

namespace TransferWork

/-- Stage the record of a posted transfer. -/
def recordPosting
    (request : TransferRequest)
    (pair : LockedPair)
    (posting : Posting)
    (now : Instant) : TransferWork (Transfer × Posting) :=
  mint now (fun reference identifier =>
    record (request.draft pair identifier reference now) (fun transfer =>
      .done (.ok (transfer, posting))))

/-- Check the rules and stage all rows, given what was used of today's limit. -/
def settle
    (request : TransferRequest)
    (caller : Caller)
    (pair : LockedPair)
    (now : Instant)
    (today : Option DailyLimit) : TransferWork (Transfer × Posting) :=
  let candidate : TransferCandidate :=
    { sender := pair.sender
      receiver := pair.receiver
      amount := request.amount
      currency := request.currency
      caller := caller
      usedToday := (today.map DailyLimit.used).getD .zero }
  orElse candidate.validate (fun _ =>
    granted (Posting.post pair request.amount now.date today) (fun posting =>
      apply posting (recordPosting request pair posting now)))

/-- Everything that happens within the transaction before it is ended. -/
def execute (request : TransferRequest) (sender receiver : String) (caller : Caller) :
    TransferWork (Transfer × Posting) :=
  lockPair sender receiver (fun pair =>
    now (fun instant =>
      readLimit sender instant.date (fun today =>
        settle request caller pair instant today)))

end TransferWork

/-- The event that tells the sender's owner of a transfer. -/
def Posting.event (posting : Posting) (transfer : Transfer) : TransferEvent where
  recipientAddress := posting.sender.owner.email
  recipientName := posting.sender.owner.firstName
  amount := transfer.amount
  receiver := transfer.receiver
  reference := transfer.reference

/-- What follows a commit: the audit entry, and then the event. -/
def afterCommit (caller : Caller) (transfer : Transfer) (posting : Posting) :
    TransferScript (Except Failure Transfer) :=
  .ask (.outside .now) (fun (instant : Instant) =>
    .ask (.outside (.audit (.ofTransfer caller transfer.reference instant)))
      (fun _ =>
        .ask (.outside (.dispatch (posting.event transfer)))
          (fun _ => .done (.ok transfer))))

/-- End the transaction as its outcome demands. -/
def conclude (caller : Caller) :
    Except Failure (Transfer × Posting) -> TransferScript (Except Failure Transfer)
  | .ok (transfer, posting) =>
      .ask (.ledger .commit) (fun (answer : Except Refusal Unit) =>
        match answer with
        | .ok _ => afterCommit caller transfer posting
        | .error refusal => .done (.error (.refused refusal)))
  | .error (.refused refusal) =>
      .ask (.ledger .rollback) (fun _ => .done (.error (.refused refusal)))
  | .error (.overflowed overflow) =>
      .ask (.ledger .discard) (fun _ => .done (.error (.overflowed overflow)))

/-- Move the amount of a request from its sender to its receiver on behalf of a caller. -/
def transferScript (request : TransferRequest) (caller : Caller) :
    TransferScript (Except Failure Transfer) :=
  let sender := Iban.normalize request.sender
  let receiver := Iban.normalize request.receiver
  if sender = receiver then .done (.error (.refused .sameAccount))
  else
    .ask (.ledger .begin) (fun (answer : Except Refusal Unit) =>
      match answer with
      | .error refusal => .done (.error (.refused refusal))
      | .ok _ =>
          (TransferWork.execute request sender receiver caller).bind (conclude caller))

end Giro
