import Giro.Refusal
import Giro.Transfer.Record

/-!
# Postings

The new state of the three rows that a transfer touches: the debited account,
the credited account, and the sender's use of its limit on the day.
-/

namespace Giro

/-- Sender and receiver as they are once both are locked. -/
structure LockedPair where
  sender : Account
  receiver : Account
deriving DecidableEq

/-- The new state of every row that a transfer touches. -/
structure Posting where
  sender : Account
  receiver : Account
  daily : DailyLimit
deriving DecidableEq

/-- A balance or a total would leave the range of decimals. -/
def Refusal.balanceOverflow : Refusal :=
  .system "Balance arithmetic overflow"

namespace Posting

/--
The rows after a transfer. A day without a row starts with nothing used; the
row's limit becomes the one the sender has now.
-/
def post
    (pair : LockedPair)
    (amount : Decimal)
    (date : Date)
    (today : Option DailyLimit) : Except Refusal Posting :=
  let daily :=
    today.getD (.opened pair.sender.iban date pair.sender.dailyLimit)
  match pair.sender.balance.sub? amount, pair.receiver.balance.add? amount,
      daily.used.add? amount with
  | some debited, some credited, some used =>
      .ok
        { sender := { pair.sender with balance := debited }
          receiver := { pair.receiver with balance := credited }
          daily := { daily with used := used, limit := pair.sender.dailyLimit } }
  | _, _, _ => .error .balanceOverflow

end Posting
end Giro
