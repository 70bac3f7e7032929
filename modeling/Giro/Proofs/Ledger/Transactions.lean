import Giro.Proofs.Ledger.RowLocks

/-!
# Transactions side by side

What a question does to the transaction in which it is asked, one lemma for each
question, and that it does nothing to the others but hand them locks.
-/

namespace Giro
namespace Store

/-- All transactions but one are there after a change, with at most more locks. -/
def Spares (current : Option TransactionId) (before after : Store) : Prop :=
  ∀ other transaction, current ≠ some other ->
    before.transactions.get? other = some transaction ->
    ∃ later, after.transactions.get? other = some later ∧ transaction.Grows later

theorem Spares.of_transactions
    {current : Option TransactionId}
    {before after : Store}
    (same : after.transactions = before.transactions) :
    Spares current before after := by
  intro other transaction _ here
  exact ⟨transaction, same ▸ here, .refl transaction⟩

theorem Spares.trans
    {current : Option TransactionId}
    {first second third : Store}
    (left : Spares current first second)
    (right : Spares current second third) :
    Spares current first third := by
  intro other transaction different here
  obtain ⟨middle, there, grows⟩ := left other transaction different here
  obtain ⟨last, later, growsOn⟩ := right other middle different there
  exact ⟨last, later, grows.trans growsOn⟩

theorem spares_update
    (store : Store)
    (id : TransactionId)
    (change : Transaction -> Transaction) :
    Spares (some id) store (store.update id change) := by
  intro other transaction different here
  refine ⟨transaction, ?_, .refl transaction⟩
  rw [update, Table.get?_modify, if_neg (fun same => different (congrArg some same))]
  exact here

theorem spares_hand
    (current : Option TransactionId)
    (store : Store)
    (id : TransactionId)
    (iban : String)
    (waiting : List TransactionId) :
    Spares current store (store.hand id iban waiting) := by
  intro other transaction _ here
  rw [get?_hand, here]
  split
  · exact ⟨transaction.withLock iban, rfl, Transaction.grows_withLock iban transaction⟩
  · exact ⟨transaction, rfl, .refl transaction⟩

theorem spares_passOn (current : Option TransactionId) (store : Store) (iban : String) :
    Spares current store (store.passOn iban) := by
  rw [passOn_eq]
  split
  · exact .of_transactions rfl
  · exact spares_hand current store _ iban _

theorem spares_foldl_passOn
    (current : Option TransactionId)
    (ibans : List String)
    (store : Store) :
    Spares current store (ibans.foldl passOn store) := by
  induction ibans generalizing store with
  | nil => exact .of_transactions rfl
  | cons iban rest ih => exact (spares_passOn current store iban).trans (ih _)

theorem spares_close (store : Store) (id : TransactionId) :
    Spares (some id) store (store.close id) := by
  have erased : Spares (some id) store (store.without id) := by
    intro other transaction different here
    refine ⟨transaction, ?_, .refl transaction⟩
    simp only [without, Table.get?_erase]
    rw [if_neg (fun same => different (congrArg some same))]
    exact here
  rw [close_eq]
  exact erased.trans (spares_foldl_passOn _ _ _)

theorem Orderly.spares_begin
    {store : Store}
    (orderly : store.Orderly)
    (current : Option TransactionId) :
    Spares current store store.begin.2 := by
  intro other transaction _ here
  refine ⟨transaction, ?_, .refl transaction⟩
  have different : store.nextTransaction ≠ other := by
    rintro rfl
    rw [orderly.fresh _ (Nat.le_refl _)] at here
    cases here
  rw [← here]
  simp [Store.begin, Table.get?_put, different]

theorem transactions_endWait (store : Store) (id : TransactionId) (iban : String) :
    (store.endWait id iban).2.transactions = store.transactions := by
  unfold endWait
  split <;> rfl

theorem Orderly.spares_effect
    {store after : Store}
    {id : TransactionId}
    {ask : LedgerAsk}
    {later : Option TransactionId}
    (orderly : store.Orderly)
    (effect : Effect store id ask after later) :
    Spares (some id) store after := by
  cases effect with
  | begins => exact orderly.spares_begin (some id)
  | queues iban waiting taken unheld => exact .of_transactions rfl
  | grants iban free => exact spares_hand (some id) store id iban []
  | stages ask next change same => exact spares_update (store.renumber next) id change
  | keeps ask next => exact .of_transactions rfl
  | ends ask tables => exact spares_close (store.retable tables) id

/-- A question changes nothing about other transactions but the locks they wait for. -/
theorem Orderly.spares_serve
    {store : Store}
    (orderly : store.Orderly)
    (current : Option TransactionId)
    (ask : LedgerAsk) :
    Spares current store (store.serve current ask).store := by
  cases current with
  | none =>
      rcases store.serve_none ask with ⟨-, begun, -⟩ | ⟨idle, -⟩
      · rw [begun]
        exact orderly.spares_begin none
      · rw [idle]
        exact .of_transactions rfl
  | some id => exact orderly.spares_effect (effect_serve store id ask)

/-! ## The transaction that asks -/

section Asking

variable {store : Store} {id : TransactionId} {transaction : Transaction}

theorem get?_begin (store : Store) :
    store.begin.2.transactions.get? store.nextTransaction = some .fresh := by
  simp [Store.begin, Table.get?_put]

theorem get?_update
    (store : Store)
    (here : store.transactions.get? id = some transaction)
    (change : Transaction -> Transaction) :
    (store.update id change).transactions.get? id = some (change transaction) := by
  simp [update, Table.get?_modify, here]

theorem holds_of_mem
    (here : store.transactions.get? id = some transaction)
    {iban : String}
    (held : iban ∈ transaction.held) :
    store.holds id iban = true := by
  rw [holds_iff, heldBy_of_get? here]
  exact held

/--
A lock is granted along with the row, unless another transaction holds it. There
is no lock to be had without a row.
-/
theorem serve_lock
    (here : store.transactions.get? id = some transaction)
    {iban : String}
    (unstaged : transaction.accounts.get? iban = none) :
    (∃ after later,
      store.serve (some id) (.lock iban) =
          .answered (.ok (store.tables.findAccount iban) : Except Refusal (Option Account))
            (some id) after ∧
        after.tables = store.tables ∧
        after.transactions.get? id = some later ∧
        transaction.Grows later ∧
        ((store.tables.findAccount iban).isSome -> iban ∈ later.held)) ∨
    (∃ after,
      store.serve (some id) (.lock iban) = .waiting id iban (fun result => result) after ∧
        after.tables = store.tables ∧
        after.transactions = store.transactions ∧
        (store.lockOf iban).taken = true ∧
        iban ∉ transaction.held) := by
  have stagedNone : (store.transaction id).accounts.get? iban = none := by
    rw [transaction_of_get? here, unstaged]
  simp only [serve, serveOpen, lock, stagedNone]
  by_cases holds : store.holds id iban
  · left
    rw [if_pos holds]
    refine ⟨store, transaction, rfl, rfl, here, .refl transaction, fun _ => ?_⟩
    rwa [holds_iff, heldBy_of_get? here] at holds
  rw [if_neg holds]
  by_cases missing : (!store.tables.accounts.contains iban) = true
  · left
    rw [if_pos missing]
    have absent : store.tables.findAccount iban = none := by
      simpa [Tables.findAccount, Table.contains] using missing
    refine ⟨store, transaction, ?_, rfl, here, .refl transaction, ?_⟩
    · rw [absent]
    · rw [absent]
      exact fun some => Bool.noConfusion some
  rw [if_neg missing]
  by_cases taken : (store.lockOf iban).taken
  · right
    rw [if_pos taken]
    refine ⟨_, rfl, rfl, rfl, taken, ?_⟩
    rwa [holds_iff, heldBy_of_get? here] at holds
  · left
    rw [if_neg taken]
    refine ⟨store.hand id iban [], transaction.withLock iban, rfl, rfl, ?_,
      Transaction.grows_withLock iban transaction, fun _ => ?_⟩
    · simp [get?_hand, here]
    · simp

theorem serve_readLimit
    (here : store.transactions.get? id = some transaction)
    {iban : String}
    {date : Date}
    (unstaged : transaction.limits.get? (iban, date) = none) :
    store.serve (some id) (.readLimit iban date) =
      .answered (.ok (store.tables.dailyLimit iban date) : Except Refusal (Option DailyLimit))
        (some id) store := by
  simp only [serve, serveOpen, readLimit, transaction_of_get? here, unstaged]

theorem serve_writeLimit
    (here : store.transactions.get? id = some transaction)
    {row : DailyLimit}
    (held : row.iban ∈ transaction.held) :
    store.serve (some id) (.writeLimit row) =
      .answered (.ok () : Except Refusal Unit) (some id)
        (store.update id (fun transaction =>
          { transaction with limits := transaction.limits.put (row.iban, row.date) row })) := by
  simp [serve, serveOpen, writeLimit, written, holds_of_mem here held]

theorem serve_writeAccount
    (here : store.transactions.get? id = some transaction)
    {row : Account}
    (held : row.iban ∈ transaction.held)
    (covered : ¬ row.balance < Decimal.zero) :
    store.serve (some id) (.writeAccount row) =
      .answered (.ok () : Except Refusal Unit) (some id)
        (store.update id (fun transaction =>
          { transaction with accounts := transaction.accounts.put row.iban row })) := by
  simp [serve, serveOpen, writeAccount, written, holds_of_mem here held, covered]

theorem serve_writeAccount_negative
    (here : store.transactions.get? id = some transaction)
    {row : Account}
    (held : row.iban ∈ transaction.held)
    (negative : row.balance < Decimal.zero) :
    store.serve (some id) (.writeAccount row) =
      .answered (.error (.negativeBalance row.iban) : Except Refusal Unit) (some id) store := by
  simp [serve, serveOpen, writeAccount, written, holds_of_mem here held, negative]

theorem serve_record
    (here : store.transactions.get? id = some transaction)
    (alone : transaction.transfers = [])
    {draft : TransferDraft}
    (positive : ¬ draft.amount <= Decimal.zero)
    (unused : store.tables.referenceTaken { draft with id := store.nextId } = false) :
    store.serve (some id) (.record draft) =
      .answered (.ok { draft with id := store.nextId } : Except Refusal Transfer) (some id)
        (store.useId.update id (fun transaction =>
          { transaction with
            transfers := transaction.transfers ++ [{ draft with id := store.nextId }] })) := by
  simp [serve, serveOpen, record, positive, unused, transaction_of_get? here, alone]

theorem serve_record_clash
    {draft : TransferDraft}
    (positive : ¬ draft.amount <= Decimal.zero)
    (used : store.tables.referenceTaken { draft with id := store.nextId } = true) :
    store.serve (some id) (.record draft) =
      .answered (.error .duplicateReference : Except Refusal Transfer) (some id)
        store.useId := by
  simp [serve, serveOpen, record, positive, used]

theorem serve_commit
    (here : store.transactions.get? id = some transaction)
    (unused : transaction.transfers.any store.tables.referenceTaken = false) :
    store.serve (some id) .commit =
      .answered (.ok () : Except Refusal Unit) none
        ({ store with tables := installed store.tables transaction }.close id) := by
  simp [serve, serveOpen, commit, transaction_of_get? here, unused]

theorem serve_commit_refused
    (here : store.transactions.get? id = some transaction)
    (used : transaction.transfers.any store.tables.referenceTaken = true) :
    store.serve (some id) .commit =
      .answered (.error .duplicateReference : Except Refusal Unit) none (store.close id) := by
  simp [serve, serveOpen, commit, transaction_of_get? here, used]

end Asking
end Store
end Giro
