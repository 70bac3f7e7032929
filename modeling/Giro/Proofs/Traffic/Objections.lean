import Giro.Proofs.Ledger.Reconciliation
import Giro.Proofs.Traffic.Rulings

/-!
# Objections

Everything that can be said against a transfer, in the order in which it counts:
each objection as a question about the committed rows, asked of exact amounts and
of the request alone, and not of what any step has left behind. The lookup of both
accounts and the rules before the limit rule answer the first objection of theirs.
-/

namespace Giro

/-- What can be said against a transfer; an earlier objection goes before a later one. -/
inductive Objection
  | sameAccount
  | smallerMissing
  | largerMissing
  | notEntitled
  | notPositive
  | tooPrecise
  | senderInactive
  | receiverInactive
  | receiverOwnerInactive
  | currenciesDiffer
  | otherCurrencyAsked
  | uncovered
  | beyondLimit
  | referenceUsed
deriving DecidableEq

namespace Objection

/-- Objections to the two account numbers. -/
def toNumbers : List Objection := [smallerMissing, largerMissing]

/-- Objections to the request and to the two accounts. -/
def toAccounts : List Objection :=
  [notEntitled, notPositive, tooPrecise, senderInactive, receiverInactive,
    receiverOwnerInactive, currenciesDiffer, otherCurrencyAsked, uncovered]

/-- All objections in their order. -/
def all : List Objection :=
  sameAccount :: (toNumbers ++ ((toAccounts ++ [beyondLimit]) ++ [referenceUsed]))

/-- The kind of refusal that answers an objection. -/
def kind : Objection -> RefusalKind
  | sameAccount => .invalidArgument
  | smallerMissing => .notFound
  | largerMissing => .notFound
  | notEntitled => .forbidden
  | notPositive => .invalidArgument
  | tooPrecise => .invalidArgument
  | senderInactive => .invalidState
  | receiverInactive => .invalidState
  | receiverOwnerInactive => .invalidState
  | currenciesDiffer => .unsupported
  | otherCurrencyAsked => .unsupported
  | uncovered => .insufficientFunds
  | beyondLimit => .limitExceeded
  | referenceUsed => .conflict

end Objection

namespace Failure

theorem ofRefusal_eq_ok_iff {α : Type} (result : Except Refusal α) (value : α) :
    ofRefusal result = .ok value ↔ result = .ok value := by
  cases result <;> simp [ofRefusal]

theorem ofRefusal_eq_error_iff {α : Type} (result : Except Refusal α) (failure : Failure) :
    ofRefusal result = .error failure ↔
      ∃ refusal, failure = .refused refusal ∧ result = .error refusal := by
  cases result <;> simp [ofRefusal, eq_comm]

end Failure

namespace Tables

/-- How much of its limit on a day an account has used, in units. -/
def spent (tables : Tables) (iban : String) (date : Date) : Int :=
  ((tables.dailyLimit iban date).map (fun row => row.used.units)).getD 0

/-- Whether there is an objection to a transfer on the committed rows. -/
def raises (tables : Tables) (errand : Errand) : Objection -> Bool
  | .sameAccount => errand.sender = errand.receiver
  | .smallerMissing => (tables.findAccount (min errand.sender errand.receiver)).isNone
  | .largerMissing => (tables.findAccount (max errand.sender errand.receiver)).isNone
  | .notEntitled =>
      (tables.findAccount errand.sender).any (fun account =>
        errand.caller.role ≠ .admin && account.owner.userId ≠ errand.caller.userId)
  | .notPositive => errand.request.amount.units <= 0
  | .tooPrecise => ¬ errand.request.amount.Storable
  | .senderInactive =>
      (tables.findAccount errand.sender).any (fun account =>
        account.status ≠ .active || !account.isActive)
  | .receiverInactive =>
      (tables.findAccount errand.receiver).any (fun account =>
        account.status ≠ .active || !account.isActive)
  | .receiverOwnerInactive =>
      (tables.findAccount errand.receiver).any (fun account => !account.owner.isActive)
  | .currenciesDiffer =>
      (tables.findAccount errand.sender).map Account.currency ≠
        (tables.findAccount errand.receiver).map Account.currency
  | .otherCurrencyAsked =>
      (tables.findAccount errand.sender).any (fun account =>
        errand.request.currency.any (fun asked => asked ≠ account.currency))
  | .uncovered =>
      (tables.findAccount errand.sender).any (fun account =>
        account.balance.units < errand.request.amount.units)
  | .beyondLimit =>
      (tables.findAccount errand.sender).any (fun account =>
        account.dailyLimit.units <
          tables.spent errand.sender errand.instant.date + errand.request.amount.units)
  | .referenceUsed =>
      tables.transfers.any (fun logged =>
        logged.reference = errand.reference || logged.externalId = errand.identifier)

/-- The first objection to a transfer, if there is any. -/
def firstObjection (tables : Tables) (errand : Errand) : Option Objection :=
  Objection.all.find? (tables.raises errand)

/-- The refusal that answers an objection to a transfer. -/
inductive Answers (tables : Tables) (errand : Errand) : Objection -> Refusal -> Prop
  | sameAccount : Answers tables errand .sameAccount .sameAccount
  | smallerMissing :
      Answers tables errand .smallerMissing
        (.accountMissing (errand.side (min errand.sender errand.receiver))
          (min errand.sender errand.receiver))
  | largerMissing :
      Answers tables errand .largerMissing
        (.accountMissing (errand.side (max errand.sender errand.receiver))
          (max errand.sender errand.receiver))
  | notEntitled : Answers tables errand .notEntitled .notSender
  | notPositive : Answers tables errand .notPositive .notPositive
  | tooPrecise :
      Answers tables errand .tooPrecise
        (.ofAmount (.precision errand.request.amount.normalize.scale))
  | senderInactive
      {account : Account}
      (found : tables.findAccount errand.sender = some account) :
      Answers tables errand .senderInactive (.notOperational "Sender" account.status)
  | receiverInactive
      {account : Account}
      (found : tables.findAccount errand.receiver = some account) :
      Answers tables errand .receiverInactive (.notOperational "Receiver" account.status)
  | receiverOwnerInactive : Answers tables errand .receiverOwnerInactive .inactiveReceiver
  | currenciesDiffer
      {sender receiver : Account}
      (senderFound : tables.findAccount errand.sender = some sender)
      (receiverFound : tables.findAccount errand.receiver = some receiver) :
      Answers tables errand .currenciesDiffer
        (.currencyMismatch sender.currency receiver.currency)
  | otherCurrencyAsked
      {account : Account}
      {asked : Currency}
      (found : tables.findAccount errand.sender = some account)
      (request : errand.request.currency = some asked) :
      Answers tables errand .otherCurrencyAsked (.currencyRequested asked account.currency)
  | uncovered : Answers tables errand .uncovered .insufficientFunds
  | beyondLimit
      {account : Account}
      {remaining : Decimal}
      (found : tables.findAccount errand.sender = some account)
      (exact : remaining.units =
        max 0 (account.dailyLimit.units - tables.spent errand.sender errand.instant.date)) :
      Answers tables errand .beyondLimit (.limitExceeded remaining)
  | referenceUsed : Answers tables errand .referenceUsed .duplicateReference

theorem Answers.kind
    {tables : Tables}
    {errand : Errand}
    {objection : Objection}
    {refusal : Refusal}
    (answers : tables.Answers errand objection refusal) :
    refusal.kind = objection.kind := by
  cases answers <;> rfl

/-! ## The first objection decides -/

variable {tables : Tables} {errand : Errand} {α β : Type}

/-- A verdict answers the first of some objections, and is favourable if there is none. -/
def Heeds
    (tables : Tables)
    (errand : Errand)
    (objections : List Objection)
    (verdict : Except Failure α) : Prop :=
  match objections.find? (tables.raises errand) with
  | some objection =>
      ∃ refusal, verdict = .error (.refused refusal) ∧ tables.Answers errand objection refusal
  | none => ∃ value, verdict = .ok value

theorem heeds_nil (value : α) : tables.Heeds errand [] (.ok value : Except Failure α) :=
  ⟨value, rfl⟩

/-- An objection is answered, or leaves it to those that come after it. -/
theorem heeds_cons
    {objection : Objection}
    {objections : List Objection}
    {verdict : Except Failure α}
    (answered : tables.raises errand objection = true ->
      ∃ refusal, verdict = .error (.refused refusal) ∧
        tables.Answers errand objection refusal)
    (passed : tables.raises errand objection = false ->
      tables.Heeds errand objections verdict) :
    tables.Heeds errand (objection :: objections) verdict := by
  unfold Heeds
  cases raised : tables.raises errand objection with
  | true =>
      rw [List.find?_cons_of_pos raised]
      exact answered raised
  | false =>
      rw [List.find?_cons_of_neg (by simp [raised])]
      exact passed raised

/-- A check that comes first passes its refusal on, or leaves it to what comes after it. -/
theorem heeds_append
    {first second : List Objection}
    {check : Except Failure α}
    {verdict : Except Failure β}
    (heeds : tables.Heeds errand first check)
    (fails : ∀ failure, check = .error failure -> verdict = .error failure)
    (passes : ∀ value, check = .ok value -> tables.Heeds errand second verdict) :
    tables.Heeds errand (first ++ second) verdict := by
  unfold Heeds at heeds ⊢
  rw [List.find?_append]
  cases found : first.find? (tables.raises errand) with
  | some objection =>
      rw [found] at heeds
      obtain ⟨refusal, refused, answers⟩ := heeds
      exact ⟨refusal, fails _ refused, answers⟩
  | none =>
      rw [found] at heeds
      obtain ⟨value, passed⟩ := heeds
      exact passes value passed

/-- One rule, and what comes after it. -/
theorem heeds_rule
    {objection : Objection}
    {objections : List Objection}
    {condition : Prop}
    [Decidable condition]
    {refusal : Refusal}
    {verdict : Except Failure α}
    (raises : tables.raises errand objection = true ↔ condition)
    (answers : tables.Answers errand objection refusal)
    (passed : ¬ condition -> tables.Heeds errand objections verdict) :
    tables.Heeds errand (objection :: objections)
      (if condition then .error (.refused refusal) else verdict) := by
  apply heeds_cons
  · intro raised
    rw [if_pos (raises.mp raised)]
    exact ⟨refusal, rfl, answers⟩
  · intro unraised
    have unmet : ¬ condition := fun met => by simp [raises.mpr met] at unraised
    rw [if_neg unmet]
    exact passed unmet

/-- One rule of a check that only ever refuses, and the rules after it. -/
theorem heeds_check
    {objection : Objection}
    {objections : List Objection}
    {condition : Prop}
    [Decidable condition]
    {refusal : Refusal}
    {check : Except Refusal α}
    (raises : tables.raises errand objection = true ↔ condition)
    (answers : tables.Answers errand objection refusal)
    (passed : ¬ condition -> tables.Heeds errand objections (Failure.ofRefusal check)) :
    tables.Heeds errand (objection :: objections)
      (Failure.ofRefusal (if condition then .error refusal else check)) := by
  rw [apply_ite Failure.ofRefusal]
  exact heeds_rule raises answers passed

end Tables

theorem Money.checkScale_of_not_storable
    {amount : Decimal}
    (precise : ¬ amount.Storable) :
    Money.checkScale amount = .error (.precision amount.normalize.scale) := by
  rw [Decimal.storable_iff_scale_normalize, Nat.not_le] at precise
  exact if_pos precise

/-- Both accounts are locked in the order of their numbers. -/
theorem Errand.order_eq (errand : Errand) :
    errand.order = (min errand.sender errand.receiver, max errand.sender errand.receiver) := by
  unfold order
  exact lockOrder_eq errand.sender errand.receiver

namespace Tables

variable {tables : Tables} {errand : Errand} {pair : LockedPair}

theorem heeds_pairFor (tables : Tables) (errand : Errand) :
    tables.Heeds errand Objection.toNumbers (Failure.ofRefusal (tables.pairFor errand)) := by
  unfold pairFor
  rw [errand.order_eq]
  apply heeds_cons
  · intro missing
    rw [Option.isNone_iff_eq_none.mp missing]
    exact ⟨_, rfl, .smallerMissing⟩
  intro there
  obtain ⟨first, firstFound⟩ := Option.isSome_iff_exists.mp (by simpa [raises] using there)
  apply heeds_cons
  · intro missing
    rw [firstFound, Option.isNone_iff_eq_none.mp missing]
    exact ⟨_, rfl, .largerMissing⟩
  intro there
  obtain ⟨second, secondFound⟩ := Option.isSome_iff_exists.mp (by simpa [raises] using there)
  rw [firstFound, secondFound]
  exact heeds_nil _

/-- The rules before the limit rule answer the objections to the accounts. -/
theorem heeds_checkRules
    (senderFound : tables.findAccount errand.sender = some pair.sender)
    (receiverFound : tables.findAccount errand.receiver = some pair.receiver)
    (distinct : pair.sender.iban ≠ pair.receiver.iban)
    (today : Option DailyLimit) :
    tables.Heeds errand Objection.toAccounts
      (Failure.ofRefusal (errand.candidate pair today).checkRules) := by
  unfold TransferCandidate.checkRules
  dsimp only [Errand.candidate]
  refine heeds_check ?_ .notEntitled (fun entitled => ?_)
  · simp [raises, senderFound, Caller.mayUse, Caller.isAdmin]
  refine heeds_check ?_ .notPositive (fun positive => ?_)
  · simp [raises, Decimal.le_def]
  -- The check of the digits hands on the amount, so it is no branch on a condition.
  apply heeds_cons
  · intro precise
    rw [Money.checkScale_of_not_storable (by simpa [raises] using precise)]
    exact ⟨_, rfl, .tooPrecise⟩
  intro storable
  rw [(Money.checkScale_eq_ok_iff _ _).mpr ⟨by simpa [raises] using storable, rfl⟩]
  dsimp only
  rw [if_neg distinct]
  refine heeds_check ?_ (.senderInactive senderFound) (fun senderActive => ?_)
  · simp [raises, senderFound, Account.isOperational]
  refine heeds_check ?_ (.receiverInactive receiverFound) (fun receiverActive => ?_)
  · simp [raises, receiverFound, Account.isOperational]
  refine heeds_check ?_ .receiverOwnerInactive (fun ownerActive => ?_)
  · simp [raises, receiverFound]
  refine heeds_check ?_ (.currenciesDiffer senderFound receiverFound) (fun sameCurrency => ?_)
  · simp [raises, senderFound, receiverFound]
  -- The currency that is asked for is named in the refusal.
  have asks : tables.raises errand .otherCurrencyAsked =
      (errand.request.currency.filter
        (fun requested => requested ≠ pair.sender.currency)).isSome := by
    simp [raises, senderFound, Option.isSome_filter]
  apply heeds_cons
  · intro raised
    obtain ⟨requested, asked⟩ := Option.isSome_iff_exists.mp (asks.symm.trans raised)
    rw [asked]
    exact ⟨_, rfl, .otherCurrencyAsked senderFound (Option.filter_eq_some_iff.mp asked).1⟩
  intro unraised
  have unasked := Option.isSome_eq_false_iff.mp (asks.symm.trans unraised)
  rw [Option.isNone_iff_eq_none.mp unasked]
  refine heeds_check ?_ .uncovered (fun covered => heeds_nil _)
  simp [raises, senderFound, Decimal.lt_def]

end Tables
end Giro
