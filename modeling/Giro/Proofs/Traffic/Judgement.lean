import Giro.Proofs.Traffic.Basic
import Giro.Proofs.Transfer.Rules
import Mathlib.Data.String.Basic

/-!
# What is decided of a transfer

The verdict on a transfer as a function of the committed rows, and the rows after
a transfer that is let pass. Nothing is said of locks, of staged rows or of other
transfers: those are what has to be shown not to matter.
-/

namespace Giro

theorem lockOrder_eq (left right : String) :
    lockOrder left right = (min left right, max left right) := by
  unfold lockOrder
  split
  · rename_i upward
    rw [min_eq_left upward, max_eq_right upward]
  · rename_i downward
    have reverse : right <= left := le_of_not_ge downward
    rw [min_eq_right reverse, max_eq_left reverse]

theorem lockOrder_cases (left right : String) :
    lockOrder left right = (left, right) ∨ lockOrder left right = (right, left) := by
  unfold lockOrder
  split
  · exact Or.inl rfl
  · exact Or.inr rfl

namespace Errand

/-- The sending account. Normal forms are compared, and never worth unfolding. -/
@[irreducible] def sender (errand : Errand) : String :=
  Iban.normalize errand.request.sender

/-- The receiving account. -/
@[irreducible] def receiver (errand : Errand) : String :=
  Iban.normalize errand.request.receiver

/-- Both accounts in the order in which they are locked. -/
@[irreducible] def order (errand : Errand) : String × String :=
  lockOrder errand.sender errand.receiver

/-- What an account is called when it is missing. -/
def side (errand : Errand) (iban : String) : String :=
  if iban = errand.sender then "Sender" else "Receiver"

/-- The pair of two accounts in the order of their locks. -/
def arrange (errand : Errand) (first second : Account) : LockedPair :=
  if errand.order.1 = errand.sender then ⟨first, second⟩ else ⟨second, first⟩

/-- The clock while both rows are locked: three questions have been asked by then. -/
def instant (errand : Errand) : Instant :=
  errand.oracle 3 .now

/-- The identifier that is taken once the three rows are staged. -/
def identifier (errand : Errand) : Uuid :=
  errand.oracle 8 .externalId

/-- The reference code that is taken along with the identifier. -/
def reference (errand : Errand) : String :=
  errand.oracle 9 (.reference errand.instant)

/-- What the rules look at. -/
def candidate (errand : Errand) (pair : LockedPair) (today : Option DailyLimit) :
    TransferCandidate where
  sender := pair.sender
  receiver := pair.receiver
  amount := errand.request.amount
  currency := errand.request.currency
  caller := errand.caller
  usedToday := (today.map DailyLimit.used).getD .zero

/-- The posting of a transfer that satisfies the rules. -/
def propose (errand : Errand) (pair : LockedPair) (today : Option DailyLimit) :
    Except Failure Posting :=
  match (errand.candidate pair today).validate with
  | .error failure => .error failure
  | .ok _ =>
      Failure.ofRefusal (Posting.post pair errand.request.amount errand.instant.date today)

/-- The transfer to be recorded. -/
def draft (errand : Errand) (pair : LockedPair) : TransferDraft :=
  errand.request.draft pair errand.identifier errand.reference errand.instant

end Errand

/-- The check of both balances as they are staged, the sender's first. -/
def Posting.checkBalances (posting : Posting) : Except Refusal Unit :=
  if posting.sender.balance < Decimal.zero then
    .error (.negativeBalance posting.sender.iban)
  else if posting.receiver.balance < Decimal.zero then
    .error (.negativeBalance posting.receiver.iban)
  else .ok ()

namespace Tables

/-- Every row stands under the number, or the number and the day, that it carries. -/
structure Keyed (tables : Tables) : Prop where
  accounts : ∀ iban account,
    tables.findAccount iban = some account -> account.iban = iban
  limits : ∀ iban date row,
    tables.dailyLimit iban date = some row -> row.iban = iban ∧ row.date = date

/-- Both accounts of a transfer, or the refusal for the first one that is missing. -/
def pairFor (tables : Tables) (errand : Errand) : Except Refusal LockedPair :=
  match tables.findAccount errand.order.1 with
  | none => .error (.accountMissing (errand.side errand.order.1) errand.order.1)
  | some first =>
      match tables.findAccount errand.order.2 with
      | none => .error (.accountMissing (errand.side errand.order.2) errand.order.2)
      | some second => .ok (errand.arrange first second)

/-- What a transfer would be recorded as and posted to, or why it fails. -/
def judge (tables : Tables) (errand : Errand) : Except Failure (TransferDraft × Posting) :=
  if errand.sender = errand.receiver then .error (.refused .sameAccount)
  else
    match tables.pairFor errand with
    | .error refusal => .error (.refused refusal)
    | .ok pair =>
        match errand.propose pair (tables.dailyLimit errand.sender errand.instant.date) with
        | .error failure => .error failure
        | .ok posting =>
            match posting.checkBalances with
            | .error refusal => .error (.refused refusal)
            | .ok _ =>
                if tables.referenceTaken ⟨errand.draft pair, 0⟩ then
                  .error (.refused .duplicateReference)
                else .ok (errand.draft pair, posting)

/-- The rows after a transfer: its posting, and its record at the end of the log. -/
def book (tables : Tables) (posting : Posting) (transfer : Transfer) : Tables where
  accounts :=
    (tables.accounts.put posting.sender.iban posting.sender).put
      posting.receiver.iban posting.receiver
  limits := tables.limits.put (posting.daily.iban, posting.daily.date) posting.daily
  transfers := tables.transfers ++ [transfer]

/-- The rows of some accounts and of their limits are the same. -/
def Keeps (ibans : List String) (before after : Tables) : Prop :=
  ∀ iban ∈ ibans,
    after.findAccount iban = before.findAccount iban ∧
      ∀ date, after.dailyLimit iban date = before.dailyLimit iban date

theorem keeps_refl (ibans : List String) (tables : Tables) : Keeps ibans tables tables :=
  fun _ _ => ⟨rfl, fun _ => rfl⟩

/-- The clash of a transfer with the log does not depend on its number. -/
theorem referenceTaken_of_draft
    (tables : Tables)
    {left right : Transfer}
    (same : left.toTransferDraft = right.toTransferDraft) :
    tables.referenceTaken left = tables.referenceTaken right := by
  simp only [referenceTaken, Transfer.clashesWith, same]

end Tables

namespace Errand

variable (errand : Errand)

theorem order_cases :
    errand.order = (errand.sender, errand.receiver) ∨
      errand.order = (errand.receiver, errand.sender) := by
  unfold order
  exact lockOrder_cases errand.sender errand.receiver

/-- The accounts that are locked are the two accounts of the transfer. -/
theorem mem_order (iban : String) :
    iban ∈ [errand.order.1, errand.order.2] ↔
      iban = errand.sender ∨ iban = errand.receiver := by
  rcases errand.order_cases with straight | swapped
  · simp [straight]
  · simp [swapped, or_comm]

theorem order_distinct (distinct : errand.sender ≠ errand.receiver) :
    errand.order.1 ≠ errand.order.2 := by
  rcases errand.order_cases with straight | swapped
  · rw [straight]
    exact distinct
  · rw [swapped]
    exact distinct.symm

theorem arrange_named
    {first second : Account}
    (firstNamed : first.iban = errand.order.1)
    (secondNamed : second.iban = errand.order.2) :
    (errand.arrange first second).sender.iban = errand.sender ∧
      (errand.arrange first second).receiver.iban = errand.receiver := by
  unfold arrange
  rcases errand.order_cases with straight | swapped
  · rw [straight] at firstNamed secondNamed ⊢
    simp [firstNamed, secondNamed]
  · rw [swapped] at firstNamed secondNamed ⊢
    split
    · rename_i same
      exact ⟨firstNamed.trans same, secondNamed.trans same.symm⟩
    · exact ⟨secondNamed, firstNamed⟩

theorem propose_eq_ok_iff
    (pair : LockedPair)
    (today : Option DailyLimit)
    (posting : Posting) :
    errand.propose pair today = .ok posting ↔
      (errand.candidate pair today).validate = .ok () ∧
        Posting.post pair errand.request.amount errand.instant.date today = .ok posting := by
  unfold propose
  cases (errand.candidate pair today).validate with
  | error failure => simp
  | ok _ =>
      cases Posting.post pair errand.request.amount errand.instant.date today <;>
        simp [Failure.ofRefusal]

end Errand

/-- A posting changes two balances, and what was used of the sender's limit. -/
theorem Posting.post_eq_ok_iff
    (pair : LockedPair)
    (amount : Decimal)
    (date : Date)
    (today : Option DailyLimit)
    (posting : Posting) :
    Posting.post pair amount date today = .ok posting ↔
      ∃ debited credited used,
        pair.sender.balance.sub? amount = some debited ∧
        pair.receiver.balance.add? amount = some credited ∧
        (today.getD (.opened pair.sender.iban date pair.sender.dailyLimit)).used.add? amount =
          some used ∧
        posting =
          { sender := { pair.sender with balance := debited }
            receiver := { pair.receiver with balance := credited }
            daily :=
              { today.getD (.opened pair.sender.iban date pair.sender.dailyLimit) with
                used := used
                limit := pair.sender.dailyLimit } } := by
  unfold Posting.post
  dsimp only
  cases pair.sender.balance.sub? amount with
  | none => simp
  | some debited =>
      cases pair.receiver.balance.add? amount with
      | none => simp
      | some credited =>
          cases (today.getD
              (.opened pair.sender.iban date pair.sender.dailyLimit)).used.add? amount with
          | none => simp
          | some used => simp [eq_comm]

namespace Errand

variable {errand : Errand} {pair : LockedPair} {today : Option DailyLimit} {posting : Posting}

/-- The rows of a posting are those that were locked, but for two balances. -/
theorem accounts_of_propose (proposed : errand.propose pair today = .ok posting) :
    ∃ debited credited,
      posting.sender = { pair.sender with balance := debited } ∧
      posting.receiver = { pair.receiver with balance := credited } := by
  rw [propose_eq_ok_iff, Posting.post_eq_ok_iff] at proposed
  obtain ⟨-, debited, credited, used, -, -, -, rfl⟩ := proposed
  exact ⟨debited, credited, rfl, rfl⟩

theorem sender_of_propose (proposed : errand.propose pair today = .ok posting) :
    posting.sender.iban = pair.sender.iban := by
  obtain ⟨debited, credited, debit, -⟩ := accounts_of_propose proposed
  rw [debit]

theorem receiver_of_propose (proposed : errand.propose pair today = .ok posting) :
    posting.receiver.iban = pair.receiver.iban := by
  obtain ⟨debited, credited, -, credit⟩ := accounts_of_propose proposed
  rw [credit]

/-- The limit row of a posting is the sender's on the day of the clock reading. -/
theorem daily_of_propose
    (proposed : errand.propose pair today = .ok posting)
    (named : ∀ row ∈ today, row.iban = pair.sender.iban ∧ row.date = errand.instant.date) :
    posting.daily.iban = pair.sender.iban ∧ posting.daily.date = errand.instant.date := by
  rw [propose_eq_ok_iff, Posting.post_eq_ok_iff] at proposed
  obtain ⟨-, debited, credited, used, -, -, -, rfl⟩ := proposed
  cases today with
  | none => exact ⟨rfl, rfl⟩
  | some row => exact named row rfl

theorem acceptable_of_propose (proposed : errand.propose pair today = .ok posting) :
    (errand.candidate pair today).Acceptable := by
  rw [propose_eq_ok_iff, TransferCandidate.validate_eq_ok_iff,
    TransferCandidate.checkRules_eq_ok_iff] at proposed
  exact proposed.1.1

end Errand

namespace Tables

theorem pairFor_eq_ok
    {tables : Tables}
    {errand : Errand}
    {first second : Account}
    (firstFound : tables.findAccount errand.order.1 = some first)
    (secondFound : tables.findAccount errand.order.2 = some second) :
    tables.pairFor errand = .ok (errand.arrange first second) := by
  simp [pairFor, firstFound, secondFound]

/-- The pair of a transfer is made up of its two accounts. -/
theorem pairFor_eq_ok_iff
    {tables : Tables}
    {errand : Errand}
    (distinct : errand.sender ≠ errand.receiver)
    (pair : LockedPair) :
    tables.pairFor errand = .ok pair ↔
      tables.findAccount errand.sender = some pair.sender ∧
        tables.findAccount errand.receiver = some pair.receiver := by
  unfold pairFor Errand.arrange
  rcases errand.order_cases with straight | swapped
  · rw [straight]
    cases tables.findAccount errand.sender with
    | none => simp
    | some sender =>
        cases tables.findAccount errand.receiver with
        | none => simp
        | some receiver => cases pair; simp
  · rw [swapped]
    cases tables.findAccount errand.receiver with
    | none => simp
    | some receiver =>
        cases tables.findAccount errand.sender with
        | none => simp
        | some sender => cases pair; simp [distinct.symm, and_comm]

/-- What it takes for a transfer to be let pass. -/
theorem judge_eq_ok_iff
    (tables : Tables)
    (errand : Errand)
    (draft : TransferDraft)
    (posting : Posting) :
    tables.judge errand = .ok (draft, posting) ↔
      ∃ pair,
        errand.sender ≠ errand.receiver ∧
        tables.pairFor errand = .ok pair ∧
        errand.propose pair (tables.dailyLimit errand.sender errand.instant.date) =
          .ok posting ∧
        posting.checkBalances = .ok () ∧
        tables.referenceTaken ⟨errand.draft pair, 0⟩ = false ∧
        draft = errand.draft pair := by
  unfold judge
  by_cases same : errand.sender = errand.receiver
  · simp [same]
  rw [if_neg same]
  cases tables.pairFor errand with
  | error refusal => simp
  | ok pair =>
      cases proposed :
          errand.propose pair (tables.dailyLimit errand.sender errand.instant.date) with
      | error failure => simp [proposed]
      | ok proposal =>
          simp only [Except.ok.injEq, ne_eq, same, not_false_eq_true, true_and, exists_eq_left',
            proposed]
          cases checked : proposal.checkBalances with
          | error refusal =>
              simp only [reduceCtorEq, false_iff]
              rintro ⟨rfl, passed, -⟩
              rw [checked] at passed
              cases passed
          | ok _ =>
              cases taken : tables.referenceTaken ⟨errand.draft pair, 0⟩ with
              | true => simp
              | false =>
                  simp only [Bool.false_eq_true, if_false, Except.ok.injEq, Prod.mk.injEq,
                    true_and]
                  constructor
                  · rintro ⟨rfl, rfl⟩
                    exact ⟨rfl, checked, rfl⟩
                  · rintro ⟨rfl, -, rfl⟩
                    exact ⟨rfl, rfl⟩

/-! ## The rows after a transfer -/

theorem findAccount_book
    (tables : Tables)
    (posting : Posting)
    (transfer : Transfer)
    (iban : String) :
    (tables.book posting transfer).findAccount iban =
      if posting.receiver.iban = iban then some posting.receiver
      else if posting.sender.iban = iban then some posting.sender
      else tables.findAccount iban := by
  simp only [findAccount, book, Table.get?_put]

theorem dailyLimit_book
    (tables : Tables)
    (posting : Posting)
    (transfer : Transfer)
    (iban : String)
    (date : Date) :
    (tables.book posting transfer).dailyLimit iban date =
      if (posting.daily.iban, posting.daily.date) = (iban, date) then some posting.daily
      else tables.dailyLimit iban date := by
  simp only [dailyLimit, book, Table.get?_put]

theorem Keyed.book
    {tables : Tables}
    (keyed : tables.Keyed)
    (posting : Posting)
    (transfer : Transfer) :
    (tables.book posting transfer).Keyed where
  accounts := by
    intro iban account found
    rw [findAccount_book] at found
    split at found
    · cases found
      assumption
    split at found
    · cases found
      assumption
    · exact keyed.accounts iban account found
  limits := by
    intro iban date row found
    rw [dailyLimit_book] at found
    split at found
    · rename_i here
      cases found
      exact Prod.mk.inj here
    · exact keyed.limits iban date row found

/-- A transfer leaves the rows of all other accounts alone. -/
theorem keeps_book
    {ibans : List String}
    (tables : Tables)
    {posting : Posting}
    (transfer : Transfer)
    (senderOther : posting.sender.iban ∉ ibans)
    (receiverOther : posting.receiver.iban ∉ ibans)
    (dailyNamed : posting.daily.iban = posting.sender.iban) :
    Keeps ibans tables (tables.book posting transfer) := by
  intro iban member
  constructor
  · rw [findAccount_book, if_neg, if_neg]
    · rintro rfl
      exact senderOther member
    · rintro rfl
      exact receiverOther member
  · intro date
    rw [dailyLimit_book, if_neg]
    intro here
    rw [← (Prod.mk.inj here).1, dailyNamed] at member
    exact senderOther member

/-! ## Transfers that are let pass -/

/-- The use of an account's limit on a day before another transfer. -/
def usage (tables : Tables) (iban : String) (date : Date) (limit : Decimal) : DailyLimit :=
  (tables.dailyLimit iban date).getD (.opened iban date limit)

theorem used_usage (tables : Tables) (iban : String) (date : Date) (limit : Decimal) :
    ((tables.dailyLimit iban date).map DailyLimit.used).getD .zero =
      (tables.usage iban date limit).used := by
  rw [usage]
  cases tables.dailyLimit iban date <;> rfl

/-- What is known of a transfer that is let pass, its accounts and its posting. -/
structure Approves
    (tables : Tables)
    (transfer : Transfer)
    (posting : Posting)
    (pair : LockedPair) : Prop where
  senderFound : tables.findAccount transfer.sender = some pair.sender
  receiverFound : tables.findAccount transfer.receiver = some pair.receiver
  distinct : transfer.sender ≠ transfer.receiver
  positive : Decimal.zero < transfer.amount
  storable : transfer.amount.Storable
  covered : transfer.amount <= pair.sender.balance
  debit : pair.sender.balance.sub? transfer.amount = some posting.sender.balance
  credit : pair.receiver.balance.add? transfer.amount = some posting.receiver.balance
  senderRow : posting.sender = { pair.sender with balance := posting.sender.balance }
  receiverRow : posting.receiver = { pair.receiver with balance := posting.receiver.balance }
  use : (tables.usage transfer.sender transfer.createdAt.date pair.sender.dailyLimit).used.add?
    transfer.amount = some posting.daily.used
  within : posting.daily.used <= pair.sender.dailyLimit
  dailyRow : posting.daily =
    { tables.usage transfer.sender transfer.createdAt.date pair.sender.dailyLimit with
      used := posting.daily.used
      limit := pair.sender.dailyLimit }

/-- What is recorded of a transfer that is let pass is what was asked for. -/
theorem recorded_of_judge
    {tables : Tables}
    {errand : Errand}
    {transfer : Transfer}
    {posting : Posting}
    (keyed : tables.Keyed)
    (judged : tables.judge errand = .ok (transfer.toTransferDraft, posting)) :
    transfer.sender = errand.sender ∧
      transfer.receiver = errand.receiver ∧
      transfer.amount = errand.request.amount ∧
      transfer.description = errand.request.description := by
  rw [judge_eq_ok_iff] at judged
  obtain ⟨pair, distinct, found, -, -, -, drafted⟩ := judged
  rw [pairFor_eq_ok_iff distinct] at found
  rw [drafted]
  exact ⟨keyed.accounts _ _ found.1, keyed.accounts _ _ found.2, rfl, rfl⟩

theorem approves_of_judge
    {tables : Tables}
    {errand : Errand}
    {transfer : Transfer}
    {posting : Posting}
    (keyed : tables.Keyed)
    (judged : tables.judge errand = .ok (transfer.toTransferDraft, posting)) :
    ∃ pair, tables.Approves transfer posting pair := by
  obtain ⟨sender, receiver, amount, -⟩ := recorded_of_judge keyed judged
  rw [judge_eq_ok_iff] at judged
  obtain ⟨pair, distinct, found, proposed, -, -, drafted⟩ := judged
  rw [pairFor_eq_ok_iff distinct] at found
  obtain ⟨senderFound, receiverFound⟩ := found
  have senderNamed := keyed.accounts _ _ senderFound
  have receiverNamed := keyed.accounts _ _ receiverFound
  have instant : transfer.createdAt = errand.instant := by
    rw [drafted]
    rfl
  rw [Errand.propose_eq_ok_iff, TransferCandidate.validate_eq_ok_iff,
    TransferCandidate.checkRules_eq_ok_iff, TransferCandidate.checkLimit_eq_ok_iff,
    Posting.post_eq_ok_iff, ← sender, ← amount, ← instant, senderNamed, ← sender] at proposed
  obtain ⟨⟨acceptable, total, counted, within⟩, debited, credited, used, debit, credit, use,
    rfl⟩ := proposed
  refine ⟨pair, ?_⟩
  have sameUse := tables.used_usage transfer.sender transfer.createdAt.date
    pair.sender.dailyLimit
  have sameTotal : total = used := by
    have again := counted
    simp only [Errand.candidate, sameUse, ← amount] at again
    rw [usage, use] at again
    exact (Option.some.inj again).symm
  constructor
  · rw [sender]
    exact senderFound
  · rw [receiver]
    exact receiverFound
  · rw [sender, receiver]
    exact distinct
  · rw [amount]
    exact acceptable.positive
  · rw [amount]
    exact acceptable.storable
  · rw [amount]
    exact acceptable.covered
  · exact debit
  · exact credit
  · rfl
  · rfl
  · exact use
  · exact sameTotal ▸ within
  · rfl

end Tables
end Giro
