import Giro.Proofs.Protocol.Conversation
import Giro.Proofs.Protocol.Hearing
import Giro.Proofs.Traffic.Judgement

/-!
# How a transfer conducts itself

Whatever a transfer is answered by the ledger, the audit trail and the notifier, it
asks its questions in their place: one transaction, both locks in ascending order,
writes to nothing but what it has locked, one end that is as its steps have gone,
and notes of it only once it is committed.
-/

namespace Giro

/-- How a transaction is to be ended, given the failure of its first step that failed. -/
def endFor : Option Failure -> LedgerAsk
  | none => .commit
  | some (.refused _) => .rollback
  | some (.overflowed _) => .discard

/-- A transaction has been begun, and not ended since. -/
structure Inside (heard : List Exchange) : Prop where
  opened : heard.any Exchange.opens = true
  unended : heard.any Exchange.ends = false

namespace Mandate

variable (mandate : Mandate)

/-- Both accounts have been handed over along with their locks. -/
structure Granted (heard : List Exchange) (pair : LockedPair) : Prop where
  sender : account? mandate.sender heard = some pair.sender
  receiver : account? mandate.receiver heard = some pair.receiver

/-- What must have been heard for a question to the ledger to be in its place. -/
def ProperLedger (heard : List Exchange) : LedgerAsk -> Prop
  | .begin => heard = []
  | .lock iban =>
      Inside heard ∧ locksAsked heard ++ [iban] <+: [mandate.order.1, mandate.order.2]
  | .readLimit iban date =>
      Inside heard ∧ iban = mandate.sender ∧ (∃ pair, mandate.Granted heard pair) ∧
        ∃ instant, instant? heard = some instant ∧ date = instant.date
  | .commit => Inside heard ∧ endFor (mandate.failed? heard) = .commit
  | .rollback => Inside heard ∧ endFor (mandate.failed? heard) = .rollback
  | .discard => Inside heard ∧ endFor (mandate.failed? heard) = .discard
  | write =>
      Inside heard ∧ ∃ pair today,
        mandate.Granted heard pair ∧ mandate.today? heard = some today ∧
          write.KeepsTo pair today

/-- What must have been heard for a question to be in its place. -/
def Proper (heard : List Exchange) : TransferAsk -> Prop
  | .ledger ask => mandate.ProperLedger heard ask
  | .outside ask => (TransferAsk.outside ask).isNote = true -> heard.any Exchange.commits = true

/-- The notes of a committed transfer: the clock is read, then the audit entry, then the event. -/
def notes
    (transfer : Transfer)
    (sender : Account)
    (instant : Instant)
    (entered : Bool) : List Exchange :=
  [⟨.ledger .commit, (.ok () : Except Refusal Unit)⟩,
    ⟨.outside .now, instant⟩,
    ⟨.outside (.audit (.ofTransfer mandate.caller transfer.reference instant)), entered⟩,
    ⟨.outside
      (.dispatch
        ⟨sender.owner.email, sender.owner.firstName, transfer.amount, transfer.receiver,
          transfer.reference⟩), ()⟩]

/-- A transfer between two accounts has come to the end that its steps demand. -/
structure Concluded (heard : List Exchange) (outcome : Except Failure Transfer) : Prop where
  ended : heard.countP Exchange.ends = if heard.any Exchange.opens then 1 else 0
  fails : ∀ failure, outcome = .error failure ↔ mandate.failed? heard = some failure
  succeeds : ∀ transfer, outcome = .ok transfer ->
    heard.any Exchange.commits = true ∧
      ∃ draft, ⟨.ledger (.record draft), (.ok transfer : Except Refusal Transfer)⟩ ∈ heard
  noted : heard.any Exchange.commits = true ->
    ∃ before transfer sender instant entered,
      outcome = .ok transfer ∧ heard = before ++ mandate.notes transfer sender instant entered ∧
        account? mandate.sender before = some sender ∧ before.any Exchange.isNote = false
  unnoted : heard.any Exchange.commits = false -> heard.any Exchange.isNote = false

/-- A transfer has come to its end; one that names a single account asks nothing at all. -/
def Final (heard : List Exchange) (outcome : Except Failure Transfer) : Prop :=
  mandate.sender = mandate.receiver ∧ heard = [] ∧ outcome = .error (.refused .sameAccount) ∨
    mandate.sender ≠ mandate.receiver ∧ mandate.Concluded heard outcome

/-! ## On the way -/

/-- A transaction is open, and nothing has failed in it. -/
structure Going (heard : List Exchange) : Prop extends Inside heard where
  unnoted : heard.any Exchange.isNote = false
  unfailed : mandate.failed? heard = none

/-- A transaction is open, and its first failing step has failed. -/
structure Fallen (heard : List Exchange) (failure : Failure) : Prop extends Inside heard where
  unnoted : heard.any Exchange.isNote = false
  failed : mandate.failed? heard = some failure

/-- What has come of the steps within a transaction. -/
def Settled (heard : List Exchange) : Except Failure (Transfer × Posting) -> Prop
  | .error failure => mandate.Fallen heard failure
  | .ok (transfer, posting) =>
      mandate.Going heard ∧
        (∃ draft, ⟨.ledger (.record draft), (.ok transfer : Except Refusal Transfer)⟩ ∈ heard) ∧
        ∃ sender, account? mandate.sender heard = some sender ∧
          posting.sender.owner = sender.owner

variable {mandate} {heard : List Exchange}

theorem uncommitted (inside : Inside heard) : heard.any Exchange.commits = false := by
  rw [List.any_eq_false]
  intro exchange member commits
  have ends := List.any_eq_false.mp inside.unended exchange member
  exact ends (Exchange.ends_of_commits commits)

theorem countP_ends (inside : Inside heard) : heard.countP Exchange.ends = 0 := by
  rw [List.countP_eq_zero]
  exact List.any_eq_false.mp inside.unended

/-- A step that succeeds leaves the transaction open. -/
theorem Going.hears
    (going : mandate.Going heard)
    {exchange : Exchange}
    (calm : exchange.ends = false)
    (silent : exchange.isNote = false)
    (succeeds : mandate.failure? heard exchange = none) :
    mandate.Going (heard ++ [exchange]) where
  opened := by simp [going.opened]
  unended := by simp [going.unended, calm]
  unnoted := by simp [going.unnoted, silent]
  unfailed := by rw [failed?_concat, going.unfailed, succeeds, Option.or_none]

/-- The first step that fails leaves the transaction to be ended. -/
theorem Going.falls
    (going : mandate.Going heard)
    {exchange : Exchange}
    {failure : Failure}
    (calm : exchange.ends = false)
    (silent : exchange.isNote = false)
    (fails : mandate.failure? heard exchange = some failure) :
    mandate.Fallen (heard ++ [exchange]) failure where
  opened := by simp [going.opened]
  unended := by simp [going.unended, calm]
  unnoted := by simp [going.unnoted, silent]
  failed := by rw [failed?_concat, going.unfailed, fails, Option.none_or]

/-! ## The end of a transaction -/

theorem keeps_ask
    {α : Type}
    {final : List Exchange -> α -> Prop}
    {question : TransferAsk}
    {next : question.Answer -> TransferScript α}
    (proper : mandate.Proper heard question)
    (rest : ∀ answer : question.Answer,
      (next answer).Keeps mandate.Proper final (heard ++ [(⟨question, answer⟩ : Exchange)])) :
    (Script.ask question next : TransferScript α).Keeps mandate.Proper final heard :=
  ⟨proper, rest⟩

/-- Where the end of a transaction leaves a failure, the failure is the outcome. -/
theorem concluded_error
    (inside : Inside heard)
    (unnoted : heard.any Exchange.isNote = false)
    {exchange : Exchange}
    {failure : Failure}
    (ends : exchange.ends = true)
    (uncommits : exchange.commits = false)
    (silent : exchange.isNote = false)
    (failed : mandate.failed? (heard ++ [exchange]) = some failure) :
    mandate.Concluded (heard ++ [exchange]) (.error failure) where
  ended := by simp [countP_ends inside, ends, inside.opened]
  fails := by
    intro other
    rw [failed]
    simp
  succeeds := by
    intro transfer equal
    cases equal
  noted := by
    intro commits
    simp [uncommitted inside, uncommits] at commits
  unnoted := fun _ => by simp [unnoted, silent]

/-- A transfer that has failed undoes its transaction, and its failure is the outcome. -/
theorem keeps_conclude_error
    {failure : Failure}
    (fallen : mandate.Fallen heard failure) :
    (conclude mandate.caller (.error failure)).Keeps mandate.Proper mandate.Concluded heard := by
  have concluded : ∀ exchange : Exchange,
      exchange.ends = true -> exchange.commits = false -> exchange.isNote = false ->
        mandate.Concluded (heard ++ [exchange]) (.error failure) := by
    intro exchange ends uncommits silent
    refine concluded_error fallen.toInside fallen.unnoted ends uncommits silent ?_
    rw [failed?_concat, fallen.failed, Option.some_or]
  cases failure with
  | refused refusal =>
      refine keeps_ask ⟨fallen.toInside, ?_⟩ (fun answer => concluded _ rfl rfl rfl)
      rw [fallen.failed]
      rfl
  | overflowed overflow =>
      refine keeps_ask ⟨fallen.toInside, ?_⟩ (fun answer => concluded _ rfl rfl rfl)
      rw [fallen.failed]
      rfl

/-- A committed transfer has succeeded, and been noted once. -/
theorem concluded_ok
    {transfer : Transfer}
    {sender : Account}
    (going : mandate.Going heard)
    (recorded : ∃ draft,
      ⟨.ledger (.record draft), (.ok transfer : Except Refusal Transfer)⟩ ∈ heard)
    (handed : account? mandate.sender heard = some sender)
    (instant : Instant)
    (entered : Bool) :
    mandate.Concluded (heard ++ mandate.notes transfer sender instant entered)
      (.ok transfer) where
  ended := by
    have once : (mandate.notes transfer sender instant entered).countP Exchange.ends = 1 := rfl
    simp [countP_ends going.toInside, once, going.opened]
  fails := by
    intro failure
    have fine : mandate.failureAfter? heard
        (mandate.notes transfer sender instant entered) = none := rfl
    rw [failed?_append, going.unfailed, fine]
    simp
  succeeds := by
    intro other equal
    cases equal
    obtain ⟨draft, member⟩ := recorded
    have commits : (mandate.notes transfer sender instant entered).any Exchange.commits =
        true := rfl
    exact ⟨by simp [commits], draft, List.mem_append_left _ member⟩
  noted := fun _ => ⟨heard, transfer, sender, instant, entered, rfl, rfl, handed, going.unnoted⟩
  unnoted := by
    intro uncommits
    have commits : (mandate.notes transfer sender instant entered).any Exchange.commits =
        true := rfl
    simp [commits] at uncommits

/-- A transfer whose steps all succeeded is committed, and noted if the commit succeeds. -/
theorem keeps_conclude_ok
    {transfer : Transfer}
    {posting : Posting}
    (settled : mandate.Settled heard (.ok (transfer, posting))) :
    (conclude mandate.caller (.ok (transfer, posting))).Keeps mandate.Proper mandate.Concluded
      heard := by
  obtain ⟨going, recorded, sender, handed, owner⟩ := settled
  refine keeps_ask ⟨going.toInside, by rw [going.unfailed]; rfl⟩ ?_
  intro (answer : Except Refusal Unit)
  cases answer with
  | error refusal =>
      refine concluded_error going.toInside going.unnoted rfl rfl rfl ?_
      rw [failed?_concat, going.unfailed]
      rfl
  | ok _ =>
      have committed : (heard ++ [(⟨.ledger .commit, (.ok () : Except Refusal Unit)⟩ :
          Exchange)]).any Exchange.commits = true := by
        rw [List.any_append]
        exact Bool.or_true _
      refine keeps_ask (fun note => by cases note) ?_
      intro (instant : Instant)
      refine keeps_ask (fun _ => by rw [List.any_append, committed]; rfl) ?_
      intro (entered : Bool)
      refine keeps_ask
        (fun _ => by rw [List.any_append, List.any_append, committed]; rfl) (fun _ => ?_)
      have concluded := concluded_ok going recorded handed instant entered
      rw [notes, ← owner] at concluded
      change mandate.Concluded _ _
      simp only [List.append_assoc, List.singleton_append]
      exact concluded

end Mandate
end Giro
