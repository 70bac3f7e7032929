import Giro.Transfer.Posting
import Giro.Transfer.Surroundings

/-!
# Locking both accounts

The rows of sender and receiver are locked in ascending order of their account
numbers, whichever of them sends. All transfers keep to this order, so no two of
them can wait for one another.
-/

namespace Giro

/-- Two account numbers in the order in which their rows are locked. -/
def lockOrder (left right : String) : String × String :=
  if left <= right then (left, right) else (right, left)

/-- One side of a transfer has no account. -/
def Refusal.accountMissing (side iban : String) : Refusal :=
  .notFound (side ++ " account not found: " ++ iban)

namespace TransferWork

/-- Lock a row that has to exist. -/
def lockExisting
    (side iban : String)
    (next : Account -> TransferWork β) : TransferWork β :=
  lock iban (fun account =>
    match account with
    | some account => next account
    | none => refuse (.accountMissing side iban))

/-- Lock both rows of a transfer. -/
def lockPair
    (sender receiver : String)
    (next : LockedPair -> TransferWork β) : TransferWork β :=
  if sender = receiver then refuse .sameAccount
  else
    let order := lockOrder sender receiver
    let side (iban : String) : String :=
      if iban = sender then "Sender" else "Receiver"
    lockExisting (side order.1) order.1 (fun first =>
      lockExisting (side order.2) order.2 (fun second =>
        if order.1 = sender then next ⟨first, second⟩ else next ⟨second, first⟩))

/-- Stage the three rows of a posting. -/
def apply (posting : Posting) (next : TransferWork β) : TransferWork β :=
  writeLimit posting.daily
    (writeAccount posting.sender (writeAccount posting.receiver next))

/-- Stage the posting of an amount on a day for two rows that are locked already. -/
def postPair (pair : LockedPair) (amount : Decimal) (date : Date) : TransferWork Posting :=
  readLimit pair.sender.iban date (fun today =>
    granted (Posting.post pair amount date today) (fun posting =>
      apply posting (.done (.ok posting))))

end TransferWork
end Giro
