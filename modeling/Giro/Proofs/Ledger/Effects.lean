import Giro.Ledger.Serving

/-!
# Effects of questions

All that a question can do to the store: begin a transaction, hand over or queue
for a lock, stage something, or end the transaction. What is to be shown of every
question is shown of these few effects.
-/

namespace Giro

/-- The transaction with one more lock. -/
def Transaction.withLock (iban : String) (transaction : Transaction) : Transaction :=
  { transaction with held := transaction.held ++ [iban] }

@[simp] theorem Transaction.held_withLock (iban : String) (transaction : Transaction) :
    (transaction.withLock iban).held = transaction.held ++ [iban] := rfl

namespace Served

variable {ask : LedgerAsk}

/-- The store after a question was asked, whether or not it has been answered yet. -/
def store : Served ask -> Store
  | .answered _ _ store => store
  | .waiting _ _ _ store => store

/-- The transaction in which it goes on after a question. -/
def current : Served ask -> Option TransactionId
  | .answered _ current _ => current
  | .waiting id _ _ _ => some id

end Served

namespace Store

/-- The store with the lock of a row handed to a transaction. -/
def hand
    (store : Store)
    (id : TransactionId)
    (iban : String)
    (waiting : List TransactionId) : Store :=
  { store with locks := store.locks.put iban ⟨true, waiting⟩ }.update id
    (Transaction.withLock iban)

/-- The store with its tables replaced. -/
def retable (store : Store) (tables : Tables) : Store :=
  { store with tables := tables }

/-- The store with the state of a lock replaced. -/
def relock (store : Store) (iban : String) (lock : RowLock) : Store :=
  { store with locks := store.locks.put iban lock }

/-- The store with another number for the next transfer. -/
def renumber (store : Store) (next : Int) : Store :=
  { store with nextId := next }

/-- What a question asked within a transaction does to the store. -/
inductive Effect (store : Store) (id : TransactionId) :
    LedgerAsk -> Store -> Option TransactionId -> Prop
  | begins : Effect store id .begin store.begin.2 (some store.nextTransaction)
  | queues
      (iban : String)
      (waiting : List TransactionId)
      (taken : (store.lockOf iban).taken = true)
      (unheld : store.holds id iban = false) :
      Effect store id (.lock iban) (store.relock iban ⟨true, waiting⟩) (some id)
  | grants (iban : String) (free : (store.lockOf iban).taken = false) :
      Effect store id (.lock iban) (store.hand id iban []) (some id)
  | stages
      (ask : LedgerAsk)
      (next : Int)
      (change : Transaction -> Transaction)
      (same : ∀ transaction, (change transaction).held = transaction.held) :
      Effect store id ask ((store.renumber next).update id change) (some id)
  | keeps (ask : LedgerAsk) (next : Int) : Effect store id ask (store.renumber next) (some id)
  | ends (ask : LedgerAsk) (tables : Tables) :
      Effect store id ask ((store.retable tables).close id) none

theorem effect_lock (store : Store) (id : TransactionId) (iban : String) :
    Effect store id (.lock iban) (store.lock id iban).2 (some id) := by
  unfold lock
  split
  · exact .keeps _ store.nextId
  by_cases holds : store.holds id iban = true
  · rw [if_pos holds]
    exact .keeps _ store.nextId
  rw [if_neg holds]
  split
  · exact .keeps _ store.nextId
  by_cases taken : (store.lockOf iban).taken = true
  · rw [if_pos taken]
    exact .queues iban _ taken (by simpa using holds)
  · rw [if_neg taken]
    exact .grants iban (by simpa using taken)

theorem effect_writeLimit (store : Store) (id : TransactionId) (row : DailyLimit) :
    Effect store id (.writeLimit row) (store.written (store.writeLimit id row)).2 (some id) := by
  unfold writeLimit
  split
  · exact .keeps _ store.nextId
  · exact .stages _ store.nextId _ (fun _ => rfl)

theorem effect_writeAccount (store : Store) (id : TransactionId) (row : Account) :
    Effect store id (.writeAccount row) (store.written (store.writeAccount id row)).2
      (some id) := by
  unfold writeAccount
  split
  · exact .keeps _ store.nextId
  split
  · exact .keeps _ store.nextId
  · exact .stages _ store.nextId _ (fun _ => rfl)

theorem effect_record (store : Store) (id : TransactionId) (draft : TransferDraft) :
    Effect store id (.record draft) (store.record id draft).2 (some id) := by
  unfold record
  split
  · exact .keeps _ store.nextId
  dsimp only
  split
  · exact .keeps _ (store.nextId + 1)
  · exact .stages _ (store.nextId + 1) _ (fun _ => rfl)

theorem effect_commit (store : Store) (id : TransactionId) :
    Effect store id .commit (store.commit id).2 none := by
  unfold commit
  dsimp only
  split
  · exact .ends _ store.tables
  · exact .ends _ _

/-- Every question has one of these effects. -/
theorem effect_serve (store : Store) (id : TransactionId) (ask : LedgerAsk) :
    Effect store id ask (store.serve (some id) ask).store (store.serve (some id) ask).current := by
  cases ask with
  | begin => exact .begins
  | lock iban =>
      have effect := effect_lock store id iban
      simp only [serve, serveOpen]
      split <;> rename_i locked <;> rw [locked] at effect <;> exact effect
  | readLimit iban date => exact .keeps _ store.nextId
  | writeLimit row => exact effect_writeLimit store id row
  | writeAccount row => exact effect_writeAccount store id row
  | record draft => exact effect_record store id draft
  | commit => exact effect_commit store id
  | rollback => exact .ends _ store.tables
  | discard => exact .ends _ store.tables

/-- Without a transaction there is nothing to do but to begin one. -/
theorem serve_none (store : Store) (ask : LedgerAsk) :
    ask = .begin ∧ (store.serve none ask).store = store.begin.2 ∧
        (store.serve none ask).current = some store.nextTransaction ∨
      (store.serve none ask).store = store ∧ (store.serve none ask).current = none := by
  cases ask with
  | begin => exact Or.inl ⟨rfl, rfl, rfl⟩
  | _ => exact Or.inr ⟨rfl, rfl⟩

/-- A question opens no transaction but a new one. -/
theorem current_serve
    {store : Store}
    {current : Option TransactionId}
    {ask : LedgerAsk}
    {id : TransactionId}
    (after : (store.serve current ask).current = some id) :
    current = some id ∨ id = store.nextTransaction := by
  cases current with
  | none =>
      rcases store.serve_none ask with ⟨-, -, begun⟩ | ⟨-, idle⟩
      · exact Or.inr (Option.some.inj (after.symm.trans begun))
      · rw [idle] at after
        cases after
  | some own =>
      have effect := effect_serve store own ask
      rw [after] at effect
      generalize (store.serve (some own) ask).store = later at effect
      cases effect with
      | begins => exact Or.inr rfl
      | _ => exact Or.inl rfl

end Store
end Giro
