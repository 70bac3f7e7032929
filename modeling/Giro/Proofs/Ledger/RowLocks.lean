import Giro.Proofs.Ledger.Effects
import Mathlib.Data.List.Nodup

/-!
# Row locks

Nothing that is asked of the store makes two transactions hold the lock of one
row, and nothing that is asked within one transaction touches what another one
has staged. All that a transaction can find changed is that a lock it waits for
has been handed to it.
-/

namespace Giro

namespace Transaction

/-- A transaction has been handed locks, and nothing else about it has changed. -/
structure Grows (before after : Transaction) : Prop where
  held : ∀ iban, iban ∈ before.held -> iban ∈ after.held
  accounts : after.accounts = before.accounts
  limits : after.limits = before.limits
  transfers : after.transfers = before.transfers

theorem Grows.refl (transaction : Transaction) : transaction.Grows transaction :=
  ⟨fun _ => id, rfl, rfl, rfl⟩

theorem Grows.trans
    {first second third : Transaction}
    (left : first.Grows second)
    (right : second.Grows third) :
    first.Grows third where
  held := fun iban holds => right.held iban (left.held iban holds)
  accounts := right.accounts.trans left.accounts
  limits := right.limits.trans left.limits
  transfers := right.transfers.trans left.transfers

theorem grows_withLock (iban : String) (transaction : Transaction) :
    transaction.Grows (transaction.withLock iban) :=
  ⟨fun _ holds => List.mem_append_left _ holds, rfl, rfl, rfl⟩

end Transaction

namespace Store

/-- The rows whose locks a transaction holds. -/
def heldBy (store : Store) (id : TransactionId) : List String :=
  (store.transaction id).held

theorem holds_iff (store : Store) (id : TransactionId) (iban : String) :
    store.holds id iban = true ↔ iban ∈ store.heldBy id := by
  simp [holds, heldBy]

theorem transaction_of_get?
    {store : Store}
    {id : TransactionId}
    {transaction : Transaction}
    (here : store.transactions.get? id = some transaction) :
    store.transaction id = transaction := by
  simp [Store.transaction, here]

theorem heldBy_of_get?
    {store : Store}
    {id : TransactionId}
    {transaction : Transaction}
    (here : store.transactions.get? id = some transaction) :
    store.heldBy id = transaction.held := by
  rw [heldBy, transaction_of_get? here]

theorem heldBy_of_get?_eq_none
    {store : Store}
    {id : TransactionId}
    (absent : store.transactions.get? id = none) :
    store.heldBy id = [] := by
  simp [heldBy, Store.transaction, absent, Transaction.fresh]

/-- A row is locked by no more than one transaction, and marked as taken by then. -/
structure Orderly (store : Store) : Prop where
  fresh : ∀ id, store.nextTransaction <= id -> store.transactions.get? id = none
  taken : ∀ id iban, iban ∈ store.heldBy id -> (store.lockOf iban).taken = true
  single : ∀ left right iban,
    iban ∈ store.heldBy left -> iban ∈ store.heldBy right -> left = right
  distinct : ∀ id, (store.heldBy id).Nodup

/-- Nobody holds the lock of a row. -/
def Unheld (store : Store) (iban : String) : Prop :=
  ∀ id, iban ∉ store.heldBy id

theorem get?_hand
    (store : Store)
    (id other : TransactionId)
    (iban : String)
    (waiting : List TransactionId) :
    (store.hand id iban waiting).transactions.get? other =
      if id = other then (store.transactions.get? other).map (Transaction.withLock iban)
      else store.transactions.get? other :=
  Table.get?_modify store.transactions id other _

theorem lockOf_relock
    (store : Store)
    (iban other : String)
    (lock : RowLock) :
    (store.relock iban lock).lockOf other =
      if iban = other then lock else store.lockOf other := by
  rw [lockOf, Store.relock, Table.get?_put]
  split <;> rfl

theorem lockOf_hand
    (store : Store)
    (id : TransactionId)
    (iban other : String)
    (waiting : List TransactionId) :
    (store.hand id iban waiting).lockOf other =
      if iban = other then ⟨true, waiting⟩ else store.lockOf other :=
  lockOf_relock store iban other _

/-- A lock that is handed over comes on top of what was held. -/
theorem heldBy_hand
    (store : Store)
    (id other : TransactionId)
    (iban : String)
    (waiting : List TransactionId) :
    (store.hand id iban waiting).heldBy other = store.heldBy other ∨
      other = id ∧
        (store.hand id iban waiting).heldBy other = store.heldBy other ++ [iban] := by
  by_cases same : id = other
  · subst same
    cases found : store.transactions.get? id with
    | none =>
        left
        rw [heldBy_of_get?_eq_none found, heldBy_of_get?_eq_none]
        simp [get?_hand, found]
    | some transaction =>
        right
        refine ⟨rfl, ?_⟩
        have after : (store.hand id iban waiting).transactions.get? id =
            some (transaction.withLock iban) := by
          simp [get?_hand, found]
        rw [heldBy_of_get? found, heldBy_of_get? after, Transaction.held_withLock]
  · left
    simp [heldBy, Store.transaction, get?_hand, same]

theorem mem_heldBy_hand
    {store : Store}
    {id other : TransactionId}
    {iban row : String}
    {waiting : List TransactionId}
    (holds : row ∈ (store.hand id iban waiting).heldBy other) :
    row ∈ store.heldBy other ∨ other = id ∧ row = iban := by
  rcases heldBy_hand store id other iban waiting with same | ⟨own, more⟩
  · exact Or.inl (same ▸ holds)
  · rw [more, List.mem_append, List.mem_singleton] at holds
    exact holds.imp_right (fun equal => ⟨own, equal⟩)

/-- A lock that nobody holds may be handed to anyone. -/
theorem Orderly.hand
    {store : Store}
    (orderly : store.Orderly)
    {iban : String}
    (unheld : store.Unheld iban)
    (id : TransactionId)
    (waiting : List TransactionId) :
    (store.hand id iban waiting).Orderly where
  fresh := by
    intro other late
    rw [get?_hand, orderly.fresh other late]
    simp
  taken := by
    intro other row holds
    rw [lockOf_hand]
    split
    · rfl
    · rename_i different
      rcases mem_heldBy_hand holds with before | ⟨-, same⟩
      · exact orderly.taken other row before
      · exact absurd same.symm different
  single := by
    intro left right row leftHolds rightHolds
    rcases mem_heldBy_hand leftHolds with leftBefore | ⟨leftOwn, leftSame⟩
    · rcases mem_heldBy_hand rightHolds with rightBefore | ⟨-, same⟩
      · exact orderly.single left right row leftBefore rightBefore
      · exact absurd (same ▸ leftBefore) (unheld left)
    · rcases mem_heldBy_hand rightHolds with rightBefore | ⟨rightOwn, -⟩
      · exact absurd (leftSame ▸ rightBefore) (unheld right)
      · exact leftOwn.trans rightOwn.symm
  distinct := by
    intro other
    rcases heldBy_hand store id other iban waiting with same | ⟨-, more⟩
    · rw [same]
      exact orderly.distinct other
    · rw [more]
      exact (orderly.distinct other).append (List.nodup_singleton iban)
        (by simpa using unheld other)

/-- What a transaction holds does not depend on the locks' own entries. -/
theorem Orderly.relock
    {store : Store}
    (orderly : store.Orderly)
    {iban : String}
    {lock : RowLock}
    (kept : store.Unheld iban ∨ lock.taken = (store.lockOf iban).taken) :
    (store.relock iban lock).Orderly where
  fresh := orderly.fresh
  taken := by
    intro id row holds
    rw [lockOf_relock]
    split
    · rename_i same
      subst same
      rcases kept with unheld | taken
      · exact absurd holds (unheld id)
      · exact taken.trans (orderly.taken id iban holds)
    · exact orderly.taken id row holds
  single := orderly.single
  distinct := orderly.distinct

theorem passOn_eq (store : Store) (iban : String) :
    store.passOn iban =
      match (store.lockOf iban).waiting with
      | [] => store.relock iban .free
      | waiter :: rest => store.hand waiter iban rest :=
  rfl

theorem Orderly.passOn
    {store : Store}
    (orderly : store.Orderly)
    {iban : String}
    (unheld : store.Unheld iban) :
    (store.passOn iban).Orderly := by
  rw [passOn_eq]
  split
  · exact orderly.relock (Or.inl unheld)
  · exact orderly.hand unheld _ _

/-- Passing on the lock of a row does not make anyone hold another row. -/
theorem Unheld.passOn
    {store : Store}
    {iban row : String}
    (unheld : store.Unheld row)
    (different : row ≠ iban) :
    (store.passOn iban).Unheld row := by
  intro id holds
  rw [passOn_eq] at holds
  split at holds
  · exact unheld id holds
  · rcases mem_heldBy_hand holds with before | ⟨-, same⟩
    · exact unheld id before
    · exact different same

theorem Orderly.foldl_passOn
    {store : Store}
    (orderly : store.Orderly)
    {ibans : List String}
    (distinct : ibans.Nodup)
    (unheld : ∀ iban ∈ ibans, store.Unheld iban) :
    (ibans.foldl Store.passOn store).Orderly := by
  induction ibans generalizing store with
  | nil => exact orderly
  | cons iban rest ih =>
      rw [List.nodup_cons] at distinct
      apply ih (orderly.passOn (unheld iban (by simp))) distinct.2
      intro row member
      apply (unheld row (by simp [member])).passOn
      rintro rfl
      exact distinct.1 member

/-- The store without a transaction, whose locks are still marked as taken. -/
def without (store : Store) (id : TransactionId) : Store :=
  { store with transactions := store.transactions.erase id }

theorem heldBy_without (store : Store) (id other : TransactionId) :
    (store.without id).heldBy other = if id = other then [] else store.heldBy other := by
  by_cases same : id = other
  · rw [if_pos same]
    apply heldBy_of_get?_eq_none
    simp [without, Table.get?_erase, same]
  · simp [heldBy, Store.transaction, without, Table.get?_erase, same]

theorem mem_heldBy_without
    {store : Store}
    {id other : TransactionId}
    {row : String}
    (holds : row ∈ (store.without id).heldBy other) :
    id ≠ other ∧ row ∈ store.heldBy other := by
  rw [heldBy_without] at holds
  split at holds
  · cases holds
  · rename_i different
    exact ⟨different, holds⟩

theorem Orderly.without
    {store : Store}
    (orderly : store.Orderly)
    (id : TransactionId) :
    (store.without id).Orderly where
  fresh := by
    intro other late
    simp only [Store.without, Table.get?_erase]
    split
    · rfl
    · exact orderly.fresh other late
  taken := fun other row holds => orderly.taken other row (mem_heldBy_without holds).2
  single := fun left right row leftHolds rightHolds =>
    orderly.single left right row (mem_heldBy_without leftHolds).2
      (mem_heldBy_without rightHolds).2
  distinct := by
    intro other
    rw [heldBy_without]
    split
    · exact List.nodup_nil
    · exact orderly.distinct other

theorem close_eq (store : Store) (id : TransactionId) :
    store.close id = (store.heldBy id).foldl Store.passOn (store.without id) :=
  rfl

theorem Orderly.close
    {store : Store}
    (orderly : store.Orderly)
    (id : TransactionId) :
    (store.close id).Orderly := by
  rw [close_eq]
  apply (orderly.without id).foldl_passOn (orderly.distinct id)
  intro iban held other holds
  obtain ⟨different, before⟩ := mem_heldBy_without holds
  exact different (orderly.single id other iban held before)

theorem orderly_empty : empty.Orderly where
  fresh := fun _ _ => rfl
  taken := fun _ _ holds => absurd holds List.not_mem_nil
  single := fun _ _ _ holds => absurd holds List.not_mem_nil
  distinct := fun _ => List.nodup_nil

theorem Orderly.begin {store : Store} (orderly : store.Orderly) : store.begin.2.Orderly := by
  have held : ∀ id, store.begin.2.heldBy id = store.heldBy id := by
    intro id
    by_cases own : store.nextTransaction = id
    · have absent := orderly.fresh id (Nat.le_of_eq own)
      rw [heldBy_of_get?_eq_none absent]
      simp [heldBy, Store.transaction, Store.begin, Table.get?_put, own, Transaction.fresh]
    · simp [heldBy, Store.transaction, Store.begin, Table.get?_put, own]
  constructor
  · intro id late
    have later : store.nextTransaction < id := late
    simp only [Store.begin, Table.get?_put, if_neg (Nat.ne_of_lt later)]
    exact orderly.fresh id (Nat.le_of_lt later)
  · intro id iban holds
    exact orderly.taken id iban (held id ▸ holds)
  · intro left right iban leftHolds rightHolds
    exact orderly.single left right iban (held left ▸ leftHolds) (held right ▸ rightHolds)
  · intro id
    rw [held id]
    exact orderly.distinct id

/-- A change of a transaction that leaves its locks alone. -/
theorem heldBy_update
    (store : Store)
    (id other : TransactionId)
    {change : Transaction -> Transaction}
    (same : ∀ transaction, (change transaction).held = transaction.held) :
    (store.update id change).heldBy other = store.heldBy other := by
  rw [heldBy, Store.transaction, Store.update, Table.get?_modify, heldBy, Store.transaction]
  split
  · cases store.transactions.get? other with
    | none => rfl
    | some transaction => exact same transaction
  · rfl

theorem Orderly.update
    {store : Store}
    (orderly : store.Orderly)
    (id : TransactionId)
    {change : Transaction -> Transaction}
    (same : ∀ transaction, (change transaction).held = transaction.held) :
    (store.update id change).Orderly where
  fresh := by
    intro other late
    rw [Store.update, Table.get?_modify, orderly.fresh other late]
    simp
  taken := by
    intro other iban holds
    rw [heldBy_update store id other same] at holds
    exact orderly.taken other iban holds
  single := by
    intro left right iban leftHolds rightHolds
    rw [heldBy_update store id _ same] at leftHolds rightHolds
    exact orderly.single left right iban leftHolds rightHolds
  distinct := by
    intro other
    rw [heldBy_update store id other same]
    exact orderly.distinct other

/-- Locks and transactions depend neither on the committed rows nor on numbers. -/
theorem Orderly.retable
    {store : Store}
    (orderly : store.Orderly)
    (tables : Tables) :
    (store.retable tables).Orderly :=
  ⟨orderly.fresh, orderly.taken, orderly.single, orderly.distinct⟩

theorem Orderly.renumber
    {store : Store}
    (orderly : store.Orderly)
    (next : Int) :
    (store.renumber next).Orderly :=
  ⟨orderly.fresh, orderly.taken, orderly.single, orderly.distinct⟩

theorem Orderly.endWait
    {store : Store}
    (orderly : store.Orderly)
    (id : TransactionId)
    (iban : String) :
    (store.endWait id iban).2.Orderly := by
  unfold Store.endWait
  split
  · exact orderly
  · exact orderly.relock (Or.inr rfl)

theorem Orderly.unheld
    {store : Store}
    (orderly : store.Orderly)
    {iban : String}
    (free : (store.lockOf iban).taken = false) :
    store.Unheld iban := by
  intro id holds
  rw [orderly.taken id iban holds] at free
  cases free

theorem Orderly.effect
    {store after : Store}
    {id : TransactionId}
    {ask : LedgerAsk}
    {later : Option TransactionId}
    (orderly : store.Orderly)
    (effect : Effect store id ask after later) :
    after.Orderly := by
  cases effect with
  | begins => exact orderly.begin
  | queues iban waiting taken unheld => exact orderly.relock (Or.inr taken.symm)
  | grants iban free => exact orderly.hand (orderly.unheld free) id []
  | stages ask next change same => exact (orderly.renumber next).update id same
  | keeps ask next => exact orderly.renumber next
  | ends ask tables => exact (orderly.retable tables).close id

/-- Whatever is asked of the store, a row is locked by one transaction at most. -/
theorem Orderly.serve
    {store : Store}
    (orderly : store.Orderly)
    (current : Option TransactionId)
    (ask : LedgerAsk) :
    (store.serve current ask).store.Orderly := by
  cases current with
  | none =>
      rcases store.serve_none ask with ⟨-, begun, -⟩ | ⟨idle, -⟩
      · rw [begun]
        exact orderly.begin
      · rw [idle]
        exact orderly
  | some id => exact orderly.effect (effect_serve store id ask)

end Store
end Giro
