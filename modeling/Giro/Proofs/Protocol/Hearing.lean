import Giro.Proofs.Traffic.Basic
import Mathlib.Data.List.Basic

/-!
# What a transfer has heard

What can be told from the answers that a transfer has had so far: the rows that
came with its locks, the clock reading, which step was the first to fail and
with what. A step fails when the ledger refuses it, when a lock comes without an
account, or when the rules or the posting turn down what was read.
-/

namespace Giro

/-- A request on behalf of a caller, between two accounts in normal form. -/
structure Mandate where
  request : TransferRequest
  caller : Caller
  sender : String
  receiver : String

/-- The mandate of a request. Normal forms are compared, and never worth unfolding. -/
@[irreducible] def Mandate.of (request : TransferRequest) (caller : Caller) : Mandate :=
  ⟨request, caller, Iban.normalize request.sender, Iban.normalize request.receiver⟩

/-- The refusal in an answer, if it is one. -/
def refusalIn {α : Type} : Except Refusal α -> Option Refusal
  | .ok _ => none
  | .error refusal => some refusal

namespace LedgerAsk

/-- Whether something is written with a question. -/
def writes : LedgerAsk -> Bool
  | writeLimit _ | writeAccount _ | record _ => true
  | _ => false

/-- The refusal of a step. It makes no difference whether a transaction could be undone. -/
def refusal? : (ask : LedgerAsk) -> ask.Answer -> Option Refusal
  | .begin, (answer : Except Refusal Unit) => refusalIn answer
  | .lock _, (answer : Except Refusal (Option Account)) => refusalIn answer
  | .readLimit _ _, (answer : Except Refusal (Option DailyLimit)) => refusalIn answer
  | .writeLimit _, (answer : Except Refusal Unit) => refusalIn answer
  | .writeAccount _, (answer : Except Refusal Unit) => refusalIn answer
  | .record _, (answer : Except Refusal Transfer) => refusalIn answer
  | .commit, (answer : Except Refusal Unit) => refusalIn answer
  | .rollback, _ | .discard, _ => none

/-- The account of a lock, if there is one. -/
def accountFor? (iban : String) : (ask : LedgerAsk) -> ask.Answer -> Option Account
  | .lock other, (answer : Except Refusal (Option Account)) =>
      if other = iban then answer.toOption.join else none
  | _, _ => none

/-- The limit row that was read of an account, which may be none. -/
def limitFor? (iban : String) : (ask : LedgerAsk) -> ask.Answer -> Option (Option DailyLimit)
  | .readLimit other _, (answer : Except Refusal (Option DailyLimit)) =>
      if other = iban then answer.toOption else none
  | _, _ => none

/-- Whether a transaction was begun. -/
def opens : (ask : LedgerAsk) -> ask.Answer -> Bool
  | .begin, (answer : Except Refusal Unit) => answer.isOk
  | _, _ => false

/-- Whether a transaction was committed. -/
def commits : (ask : LedgerAsk) -> ask.Answer -> Bool
  | .commit, (answer : Except Refusal Unit) => answer.isOk
  | _, _ => false

/-- The row whose lock is asked for. -/
def lock? : LedgerAsk -> Option String
  | .lock iban => some iban
  | _ => none

/--
The rows that are written are those of two accounts, but for the balances, and the
limit row that was read of the first one, or else a new one.
-/
def KeepsTo (pair : LockedPair) (today : Option DailyLimit) : LedgerAsk -> Prop
  | .writeLimit row => row.iban = (today.map DailyLimit.iban).getD pair.sender.iban
  | .writeAccount row =>
      row = { pair.sender with balance := row.balance } ∨
        row = { pair.receiver with balance := row.balance }
  | .record draft => draft.sender = pair.sender.iban ∧ draft.receiver = pair.receiver.iban
  | _ => True

/-- The account numbers on the rows that are written. -/
def written : LedgerAsk -> List String
  | .writeLimit row => [row.iban]
  | .writeAccount row => [row.iban]
  | .record draft => [draft.sender, draft.receiver]
  | _ => []

/-- The rows in an answer bear the number that was asked for. -/
def Truthful : (ask : LedgerAsk) -> ask.Answer -> Prop
  | .lock iban, (answer : Except Refusal (Option Account)) =>
      ∀ account, answer = .ok (some account) -> account.iban = iban
  | .readLimit iban _, (answer : Except Refusal (Option DailyLimit)) =>
      ∀ row, answer = .ok (some row) -> row.iban = iban
  | _, _ => True

end LedgerAsk

/-- Whether somebody is told of a transfer: the audit trail or the notifier. -/
def TransferAsk.isNote : TransferAsk -> Bool
  | .outside (.audit _) | .outside (.dispatch _) => true
  | _ => false

namespace Exchange

/-- The account that an exchange handed over along with the lock of a row. -/
def accountFor? (iban : String) : Exchange -> Option Account
  | ⟨.ledger ask, answer⟩ => ask.accountFor? iban answer
  | ⟨.outside _, _⟩ => none

/-- The limit row that was read of an account with an exchange, which may be none. -/
def limitFor? (iban : String) : Exchange -> Option (Option DailyLimit)
  | ⟨.ledger ask, answer⟩ => ask.limitFor? iban answer
  | ⟨.outside _, _⟩ => none

/-- The reading of the clock. -/
def clock? : Exchange -> Option Instant
  | ⟨.outside .now, (instant : Instant)⟩ => some instant
  | _ => none

/-- The row whose lock was asked for. -/
def lock? : Exchange -> Option String
  | ⟨.ledger ask, _⟩ => ask.lock?
  | ⟨.outside _, _⟩ => none

/-- Whether a transaction was begun. -/
def opens : Exchange -> Bool
  | ⟨.ledger ask, answer⟩ => ask.opens answer
  | ⟨.outside _, _⟩ => false

/-- Whether a transaction was ended, successfully or not. -/
def ends : Exchange -> Bool
  | ⟨.ledger ask, _⟩ => ask.ends
  | ⟨.outside _, _⟩ => false

/-- Whether a transaction was committed. -/
def commits : Exchange -> Bool
  | ⟨.ledger ask, answer⟩ => ask.commits answer
  | ⟨.outside _, _⟩ => false

/-- Whether somebody was told of a transfer. -/
def isNote (exchange : Exchange) : Bool :=
  exchange.1.isNote

/-- The rows in an answer of the ledger bear the number that was asked for. -/
def Truthful : Exchange -> Prop
  | ⟨.ledger ask, answer⟩ => ask.Truthful answer
  | ⟨.outside _, _⟩ => True

/-- Only what ends a transaction can commit it. -/
theorem ends_of_commits {exchange : Exchange} (commits : exchange.commits = true) :
    exchange.ends = true := by
  obtain ⟨question, answer⟩ := exchange
  cases question with
  | outside ask => cases commits
  | ledger ask => cases ask <;> first | rfl | cases commits

end Exchange

namespace Mandate

variable (mandate : Mandate)

/-- The accounts in the order in which they are locked. -/
def order : String × String := lockOrder mandate.sender mandate.receiver

/-- What an account is called when it is missing. -/
def side (iban : String) : String :=
  if iban = mandate.sender then "Sender" else "Receiver"

/-- The posting that the rules let pass, or why there is none. -/
def propose (pair : LockedPair) (instant : Instant) (today : Option DailyLimit) :
    Except Failure Posting :=
  let candidate : TransferCandidate :=
    { sender := pair.sender
      receiver := pair.receiver
      amount := mandate.request.amount
      currency := mandate.request.currency
      caller := mandate.caller
      usedToday := (today.map DailyLimit.used).getD .zero }
  match candidate.validate with
  | .error failure => .error failure
  | .ok _ => Failure.ofRefusal (Posting.post pair mandate.request.amount instant.date today)

/-- The account that was handed over along with the lock of a row. -/
def account? (iban : String) (heard : List Exchange) : Option Account :=
  heard.findSome? (Exchange.accountFor? iban)

/-- The limit row that was read of the sender, which may be none. -/
def today? (heard : List Exchange) : Option (Option DailyLimit) :=
  heard.findSome? (Exchange.limitFor? mandate.sender)

/-- The first reading of the clock. -/
def instant? (heard : List Exchange) : Option Instant :=
  heard.findSome? Exchange.clock?

/-- The rows whose locks were asked for, in order. -/
def locksAsked (heard : List Exchange) : List String :=
  heard.filterMap Exchange.lock?

theorem locksAsked_concat (heard : List Exchange) (exchange : Exchange) :
    locksAsked (heard ++ [exchange]) = locksAsked heard ++ exchange.lock?.toList := by
  cases found : exchange.lock? <;> simp [locksAsked, found]

/-- Why the rules or the posting turn down a limit row, given what was heard before. -/
def rejection? (heard : List Exchange) (today : Option DailyLimit) : Option Failure :=
  match account? mandate.sender heard, account? mandate.receiver heard, instant? heard with
  | some sender, some receiver, some instant =>
      match mandate.propose ⟨sender, receiver⟩ instant today with
      | .error failure => some failure
      | .ok _ => none
  | _, _, _ => none

/-- What is wrong with an answer that is no refusal, given what was heard before. -/
def objection? (heard : List Exchange) : (ask : LedgerAsk) -> ask.Answer -> Option Failure
  | .lock iban, (answer : Except Refusal (Option Account)) =>
      match answer with
      | .ok none => some (.refused (.accountMissing (mandate.side iban) iban))
      | _ => none
  | .readLimit _ _, (answer : Except Refusal (Option DailyLimit)) =>
      match answer with
      | .ok today => mandate.rejection? heard today
      | .error _ => none
  | _, _ => none

/-- The failure of a step, given what was heard before. -/
def failure? (heard : List Exchange) : Exchange -> Option Failure
  | ⟨.ledger ask, answer⟩ =>
      match ask.refusal? answer with
      | some refusal => some (.refused refusal)
      | none => mandate.objection? heard ask answer
  | ⟨.outside _, _⟩ => none

theorem failure?_of_refusal?
    (heard : List Exchange)
    {ask : LedgerAsk}
    {answer : ask.Answer}
    {refusal : Refusal}
    (refused : ask.refusal? answer = some refusal) :
    mandate.failure? heard ⟨.ledger ask, answer⟩ = some (.refused refusal) := by
  change (match ask.refusal? answer with
    | some refusal => some (Failure.refused refusal)
    | none => mandate.objection? heard ask answer) = _
  rw [refused]

/-- The failure of the first step that fails among those after what was heard. -/
def failureAfter? : List Exchange -> List Exchange -> Option Failure
  | _, [] => none
  | heard, exchange :: rest =>
      (mandate.failure? heard exchange).or (failureAfter? (heard ++ [exchange]) rest)

/-- The failure of the first step that failed. -/
def failed? (heard : List Exchange) : Option Failure :=
  mandate.failureAfter? [] heard

theorem failureAfter?_append (heard steps more : List Exchange) :
    mandate.failureAfter? heard (steps ++ more) =
      (mandate.failureAfter? heard steps).or (mandate.failureAfter? (heard ++ steps) more) := by
  induction steps generalizing heard with
  | nil => simp [failureAfter?]
  | cons first rest ih => simp [failureAfter?, ih, Option.or_assoc]

/-- The first failure is an earlier one, or else one of the steps that were added. -/
theorem failed?_append (heard more : List Exchange) :
    mandate.failed? (heard ++ more) =
      (mandate.failed? heard).or (mandate.failureAfter? heard more) :=
  mandate.failureAfter?_append [] heard more

theorem failed?_concat (heard : List Exchange) (exchange : Exchange) :
    mandate.failed? (heard ++ [exchange]) =
      (mandate.failed? heard).or (mandate.failure? heard exchange) := by
  rw [failed?_append, failureAfter?, failureAfter?, Option.or_none]

end Mandate
end Giro
