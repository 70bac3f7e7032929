import Giro.Account.Caller
import Giro.Refusal
import Giro.Transfer.Record

/-!
# Business rules

The rules that a transfer must satisfy, over the two accounts as they are once
both are locked. They are tried in a fixed order and the first one that is not
satisfied decides the refusal.
-/

namespace Giro

/-- Everything that the rules look at. -/
structure TransferCandidate where
  sender : Account
  receiver : Account
  amount : Decimal
  currency : Option Currency
  caller : Caller
  usedToday : Decimal

namespace Refusal

/-- The caller has no access to the sending account. -/
def notSender : Refusal :=
  .forbidden "You are not authorized to transfer from this account"

/-- The amount is zero or below. -/
def notPositive : Refusal :=
  .invalidArgument "Transfer amount must be positive"

/-- An account takes no part in transfers. -/
def notOperational (side : String) (status : AccountStatus) : Refusal :=
  .invalidState (side ++ " account is not active (status: " ++ status.word ++ ")")

/-- The user that the receiving account belongs to is not active. -/
def inactiveReceiver : Refusal :=
  .invalidState "Receiver user is not active"

/-- The accounts are kept in different currencies. -/
def currencyMismatch (sender receiver : Currency) : Refusal :=
  .unsupported
    ("Currency mismatch: " ++ sender.code ++ " -> " ++ receiver.code ++
      "; conversion is not supported")

/-- The request asks for another currency than the accounts'. -/
def currencyRequested (requested kept : Currency) : Refusal :=
  .unsupported
    ("Requested currency " ++ requested.code ++
      " does not match account currency " ++ kept.code)

end Refusal

namespace TransferCandidate

/-- The limit rule: what was sent today and the amount together stay within the limit. -/
def checkLimit (candidate : TransferCandidate) : Except Failure Unit :=
  match candidate.usedToday.add candidate.amount with
  | .error overflow => .error (.overflowed overflow)
  | .ok total =>
      if candidate.sender.dailyLimit < total then
        match candidate.sender.dailyLimit.sub candidate.usedToday with
        | .error overflow => .error (.overflowed overflow)
        | .ok left => .error (.refused (.limitExceeded (left.larger .zero)))
      else .ok ()

/-- All rules before the limit rule. -/
def checkRules (candidate : TransferCandidate) : Except Refusal Unit :=
  let sender := candidate.sender
  let receiver := candidate.receiver
  if !candidate.caller.mayUse sender then .error .notSender
  else if candidate.amount <= Decimal.zero then .error .notPositive
  else
    match Money.checkScale candidate.amount with
    | .error fault => .error (.ofAmount fault)
    | .ok _ =>
        if sender.iban = receiver.iban then .error .sameAccount
        else if !sender.isOperational then .error (.notOperational "Sender" sender.status)
        else if !receiver.isOperational then
          .error (.notOperational "Receiver" receiver.status)
        else if !receiver.owner.isActive then .error .inactiveReceiver
        else if sender.currency ≠ receiver.currency then
          .error (.currencyMismatch sender.currency receiver.currency)
        else
          match candidate.currency.filter (fun requested => requested ≠ sender.currency) with
          | some requested => .error (.currencyRequested requested sender.currency)
          | none =>
              if sender.balance < candidate.amount then .error .insufficientFunds
              else .ok ()

/-- All rules in order. -/
def validate (candidate : TransferCandidate) : Except Failure Unit :=
  match candidate.checkRules with
  | .error refusal => .error (.refused refusal)
  | .ok _ => candidate.checkLimit

end TransferCandidate
end Giro
