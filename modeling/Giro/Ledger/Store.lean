import Giro.Ledger.Tables
import Giro.Transfer.Surroundings

/-!
# Ledger store

The committed tables and the transactions open on them. A transaction holds the
locks of rows and stages what it writes; staged rows are seen by nobody else
until the commit installs all of them at once. A row lock is held by at most one
transaction and handed to waiting ones in the order of their arrival. When a
transaction ends, however it ends, its locks go with it.
-/

namespace Giro

/-- The name of an open transaction. -/
abbrev TransactionId := Nat

/-- What a transaction holds and has staged. -/
structure Transaction where
  held : List String
  accounts : Table String Account
  limits : Table (String × Date) DailyLimit
  transfers : List Transfer

/-- A transaction that has done nothing yet. -/
def Transaction.fresh : Transaction := ⟨[], .empty, .empty, []⟩

/-- The lock of a row and the transactions that wait for it, first come first. -/
structure RowLock where
  taken : Bool
  waiting : List TransactionId
deriving DecidableEq

/-- A lock that nobody holds. -/
def RowLock.free : RowLock := ⟨false, []⟩

/-- Tables, row locks and open transactions. -/
structure Store where
  tables : Tables
  nextId : Int
  locks : Table String RowLock
  transactions : Table TransactionId Transaction
  nextTransaction : TransactionId

/-- A row is written by a transaction that does not hold its lock. -/
def Refusal.notLocked (iban : String) : Refusal :=
  .system ("Write to account " ++ iban ++ " without holding its row lock")

/-- A balance would be negative. -/
def Refusal.negativeBalance (iban : String) : Refusal :=
  .database ("balance check violated for account " ++ iban)

/-- A transfer's amount would not be positive. -/
def Refusal.amountCheck : Refusal :=
  .database "amount check violated for transfer"

/-- A question is asked outside any transaction. -/
def Refusal.noTransaction : Refusal :=
  .system "No transaction is open"

namespace Store

/-- The store without accounts. -/
def empty : Store := ⟨.empty, 1, .empty, .empty, 0⟩

instance : Inhabited Store := ⟨empty⟩

/-- Begin a transaction. -/
def begin (store : Store) : TransactionId × Store :=
  (store.nextTransaction,
    { store with
      transactions := store.transactions.put store.nextTransaction .fresh
      nextTransaction := store.nextTransaction + 1 })

@[simp] theorem begin_tables (store : Store) : store.begin.2.tables = store.tables := rfl

/-- What a transaction holds and has staged. -/
def transaction (store : Store) (id : TransactionId) : Transaction :=
  (store.transactions.get? id).getD .fresh

/-- The store with a transaction changed. -/
def update (store : Store) (id : TransactionId) (change : Transaction -> Transaction) :
    Store :=
  { store with transactions := store.transactions.modify id change }

@[simp] theorem update_tables
    (store : Store) (id : TransactionId) (change : Transaction -> Transaction) :
    (store.update id change).tables = store.tables := rfl

/-- Whether a transaction holds the lock of a row. -/
def holds (store : Store) (id : TransactionId) (iban : String) : Bool :=
  (store.transaction id).held.contains iban

/-- The lock of a row. -/
def lockOf (store : Store) (iban : String) : RowLock :=
  (store.locks.get? iban).getD .free

/-- What comes of asking for a row. -/
inductive Grant
  | answered (account : Option Account)
  | queued
deriving DecidableEq

/--
Ask for the lock of a row and for the row. A transaction sees the row it has
staged; an account that does not exist is not locked; a lock held by another
transaction is waited for.
-/
def lock (store : Store) (id : TransactionId) (iban : String) : Grant × Store :=
  match (store.transaction id).accounts.get? iban with
  | some staged => (.answered (some staged), store)
  | none =>
      if store.holds id iban then (.answered (store.tables.findAccount iban), store)
      else if !store.tables.accounts.contains iban then (.answered none, store)
      else if (store.lockOf iban).taken then
        let waiting := (store.lockOf iban).waiting ++ [id]
        (.queued, { store with locks := store.locks.put iban ⟨true, waiting⟩ })
      else
        (.answered (store.tables.findAccount iban),
          { store with locks := store.locks.put iban ⟨true, []⟩ }.update id
            (fun transaction => { transaction with held := transaction.held ++ [iban] }))

@[simp] theorem lock_tables (store : Store) (id : TransactionId) (iban : String) :
    (store.lock id iban).2.tables = store.tables := by
  unfold lock
  split
  · rfl
  · split
    · rfl
    · split
      · rfl
      · split <;> rfl

/-- The row of a lock that was waited for and has been handed over. -/
def rowAfterWait (store : Store) (iban : String) : Option Account :=
  store.tables.findAccount iban

/-- Give up waiting for the lock of a row. -/
def giveUp (store : Store) (id : TransactionId) (iban : String) : Store :=
  let current := store.lockOf iban
  { store with
    locks :=
      store.locks.put iban
        { current with waiting := current.waiting.filter (fun waiter => waiter != id) } }

@[simp] theorem giveUp_tables (store : Store) (id : TransactionId) (iban : String) :
    (store.giveUp id iban).tables = store.tables := rfl

/-- Hand the lock of a row to the first transaction that waits for it, or free it. -/
def passOn (store : Store) (iban : String) : Store :=
  match (store.lockOf iban).waiting with
  | [] => { store with locks := store.locks.put iban .free }
  | waiter :: rest =>
      { store with locks := store.locks.put iban ⟨true, rest⟩ }.update waiter
        (fun transaction => { transaction with held := transaction.held ++ [iban] })

@[simp] theorem passOn_tables (store : Store) (iban : String) :
    (store.passOn iban).tables = store.tables := by
  unfold passOn
  split <;> rfl

theorem foldl_passOn_tables (ibans : List String) (store : Store) :
    (ibans.foldl passOn store).tables = store.tables := by
  induction ibans generalizing store with
  | nil => rfl
  | cons iban rest ih => simp [ih]

/-- End a transaction: what it staged is gone and its locks are passed on. -/
def close (store : Store) (id : TransactionId) : Store :=
  (store.transaction id).held.foldl passOn
    { store with transactions := store.transactions.erase id }

@[simp] theorem close_tables (store : Store) (id : TransactionId) :
    (store.close id).tables = store.tables := by
  simp [close, foldl_passOn_tables]

/-- The limit of an account on a day as a transaction sees it. -/
def readLimit (store : Store) (id : TransactionId) (iban : String) (date : Date) :
    Option DailyLimit :=
  match (store.transaction id).limits.get? (iban, date) with
  | some staged => some staged
  | none => store.tables.dailyLimit iban date

/-- Stage the limit of an account on a day. -/
def writeLimit (store : Store) (id : TransactionId) (row : DailyLimit) :
    Except Refusal Store :=
  if !store.holds id row.iban then .error (.notLocked row.iban)
  else
    .ok
      (store.update id (fun transaction =>
        { transaction with limits := transaction.limits.put (row.iban, row.date) row }))

/-- Stage an account. -/
def writeAccount (store : Store) (id : TransactionId) (row : Account) :
    Except Refusal Store :=
  if !store.holds id row.iban then .error (.notLocked row.iban)
  else if row.balance < Decimal.zero then .error (.negativeBalance row.iban)
  else
    .ok
      (store.update id (fun transaction =>
        { transaction with accounts := transaction.accounts.put row.iban row }))

/-- The store with one more transfer number used up. -/
def useId (store : Store) : Store :=
  { store with nextId := store.nextId + 1 }

@[simp] theorem useId_tables (store : Store) : store.useId.tables = store.tables := rfl

/--
Stage a transfer. Its number is used up even if its reference or its external
identifier is found in the log or among the transfers staged so far.
-/
def record (store : Store) (id : TransactionId) (draft : TransferDraft) :
    Except Refusal Transfer × Store :=
  if draft.amount <= Decimal.zero then (.error .amountCheck, store)
  else
    let transfer : Transfer := { draft with id := store.nextId }
    let clash :=
      (store.transaction id).transfers.any (fun staged => staged.clashesWith transfer) ||
        store.tables.referenceTaken transfer
    if clash then (.error .duplicateReference, store.useId)
    else
      (.ok transfer,
        store.useId.update id (fun transaction =>
          { transaction with transfers := transaction.transfers ++ [transfer] }))

@[simp] theorem record_tables (store : Store) (id : TransactionId) (draft : TransferDraft) :
    (store.record id draft).2.tables = store.tables := by
  unfold record
  split
  · rfl
  · dsimp only
    split <;> rfl

/-- The tables with everything installed that a transaction has staged. -/
def installed (tables : Tables) (transaction : Transaction) : Tables where
  accounts := tables.accounts.overwrite transaction.accounts
  limits := tables.limits.overwrite transaction.limits
  transfers := tables.transfers ++ transaction.transfers

/--
Commit a transaction. It is refused if another one has meanwhile used one of its
references; either way the transaction is over.
-/
def commit (store : Store) (id : TransactionId) : Except Refusal Unit × Store :=
  let transaction := store.transaction id
  if transaction.transfers.any store.tables.referenceTaken then
    (.error .duplicateReference, store.close id)
  else
    (.ok (), { store with tables := installed store.tables transaction }.close id)

/-- A commit installs what was staged, or nothing if it is refused. -/
theorem commit_tables (store : Store) (id : TransactionId) :
    (store.commit id).2.tables =
      match (store.commit id).1 with
      | .ok _ => installed store.tables (store.transaction id)
      | .error _ => store.tables := by
  unfold commit
  dsimp only
  split <;> simp

/-- Append a transfer to the log without a transaction. -/
def importTransfer (store : Store) (draft : TransferDraft) :
    Except Refusal Transfer × Store :=
  let transfer : Transfer := { draft with id := store.nextId }
  if store.tables.referenceTaken transfer then (.error .duplicateReference, store.useId)
  else
    (.ok transfer,
      { store.useId with
        tables := { store.tables with transfers := store.tables.transfers ++ [transfer] } })

/-- The store with its tables changed without a transaction. -/
def administer (store : Store) (change : Tables -> Tables) : Store :=
  { store with tables := change store.tables }

end Store
end Giro
