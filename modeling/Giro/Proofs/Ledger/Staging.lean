import Giro.Proofs.Ledger.Administration
import Giro.Proofs.Ledger.Dealings
import Giro.Proofs.Ledger.Queues

/-!
# Staged rows

A transaction stages accounts and limits only under locks that it holds, and
files each of them under its own number. A commit therefore finds no two rows
that compete for one place: it installs what was staged and leaves the rest.
-/

namespace Giro

namespace Table

variable {κ α : Type}

/-- No key has more than one row. -/
def Distinct (table : Table κ α) : Prop :=
  (table.rows.map Prod.fst).Nodup

theorem distinct_empty : (empty : Table κ α).Distinct :=
  List.nodup_nil

variable [DecidableEq κ]

theorem mem_putRow
    {rows : List (κ × α)}
    {key : κ}
    {value : α}
    {row : κ × α}
    (member : row ∈ putRow key value rows) :
    row = (key, value) ∨ row ∈ rows := by
  induction rows with
  | nil => exact Or.inl (List.mem_singleton.mp member)
  | cons first rest ih =>
      rw [putRow] at member
      split at member
      · exact (List.mem_cons.mp member).imp_right (List.mem_cons_of_mem first)
      · rcases List.mem_cons.mp member with rfl | later
        · exact Or.inr List.mem_cons_self
        · exact (ih later).imp_right (List.mem_cons_of_mem first)

/-- A row of a table after a write is the written one or was there before. -/
theorem mem_rows_put
    {table : Table κ α}
    {key : κ}
    {value : α}
    {row : κ × α}
    (member : row ∈ (table.put key value).rows) :
    row = (key, value) ∨ row ∈ table.rows :=
  mem_putRow member

theorem nodup_keys_putRow
    {rows : List (κ × α)}
    (distinct : (rows.map Prod.fst).Nodup)
    (key : κ)
    (value : α) :
    ((putRow key value rows).map Prod.fst).Nodup := by
  induction rows with
  | nil => simp [putRow]
  | cons first rest ih =>
      rw [List.map_cons, List.nodup_cons] at distinct
      rw [putRow]
      split
      · rename_i same
        rw [List.map_cons, List.nodup_cons]
        exact ⟨same ▸ distinct.1, distinct.2⟩
      · rename_i different
        rw [List.map_cons, List.nodup_cons]
        refine ⟨fun member => ?_, ih distinct.2⟩
        obtain ⟨row, later, named⟩ := List.mem_map.mp member
        rcases mem_putRow later with rfl | before
        · exact different named.symm
        · exact distinct.1 (named ▸ List.mem_map_of_mem before)

theorem Distinct.put
    {table : Table κ α}
    (distinct : table.Distinct)
    (key : κ)
    (value : α) :
    (table.put key value).Distinct :=
  nodup_keys_putRow distinct key value

/-- A row that is found is there under the key that was asked for. -/
theorem mem_of_get?
    {table : Table κ α}
    {key : κ}
    {value : α}
    (found : table.get? key = some value) :
    (key, value) ∈ table.rows := by
  obtain ⟨row, standing, rfl⟩ := Option.map_eq_some_iff.mp found
  have named : row.1 = key := by simpa using List.find?_some standing
  exact named ▸ List.mem_of_find?_eq_some standing

/-- Where no key repeats, every row is found under its key. -/
theorem Distinct.get?_of_mem
    {table : Table κ α}
    (distinct : table.Distinct)
    {row : κ × α}
    (member : row ∈ table.rows) :
    table.get? row.1 = some row.2 := by
  have some : (table.rows.find? (fun other => other.1 = row.1)).isSome :=
    List.find?_isSome.mpr ⟨row, member, decide_eq_true rfl⟩
  obtain ⟨other, found⟩ := Option.isSome_iff_exists.mp some
  have named : other.1 = row.1 := by simpa using List.find?_some found
  have same : other = row :=
    List.inj_on_of_nodup_map distinct (List.mem_of_find?_eq_some found) member named
  rw [get?, found, same, Option.map_some]

/-- Of two tables, one written over the other, the upper one is looked at first. -/
theorem get?_overwrite
    {updates : Table κ α}
    (distinct : updates.Distinct)
    (table : Table κ α)
    (key : κ) :
    (table.overwrite updates).get? key = (updates.get? key).or (table.get? key) := by
  obtain ⟨rows⟩ := updates
  unfold Distinct at distinct
  induction rows generalizing table with
  | nil => rfl
  | cons first rest ih =>
      rw [List.map_cons, List.nodup_cons] at distinct
      have later : (table.overwrite ⟨first :: rest⟩).get? key =
          ((⟨rest⟩ : Table κ α).get? key).or ((table.put first.1 first.2).get? key) :=
        ih (table.put first.1 first.2) distinct.2
      rw [later, get?_put]
      by_cases here : first.1 = key
      · have absent : (⟨rest⟩ : Table κ α).get? key = none := by
          cases found : (⟨rest⟩ : Table κ α).get? key with
          | none => rfl
          | some value =>
              exact absurd (List.mem_map_of_mem (mem_of_get? found)) (here ▸ distinct.1)
        rw [absent, if_pos here, Option.none_or]
        simp [here, get?]
      · simp [here, get?]

theorem contains_overwrite
    {updates : Table κ α}
    (distinct : updates.Distinct)
    {table : Table κ α}
    {key : κ}
    (present : table.contains key = true) :
    (table.overwrite updates).contains key = true := by
  rw [contains, get?_overwrite distinct]
  unfold contains at present
  cases updates.get? key with
  | none => simpa using present
  | some value => rfl

end Table

namespace Transaction

/-- Rows are staged under held locks, each once and under its own number. -/
structure Guarded (transaction : Transaction) : Prop where
  accounts : ∀ row ∈ transaction.accounts.rows,
    row.2.iban = row.1 ∧ row.1 ∈ transaction.held
  limits : ∀ row ∈ transaction.limits.rows,
    (row.2.iban, row.2.date) = row.1 ∧ row.1.1 ∈ transaction.held
  accountsOnce : transaction.accounts.Distinct
  limitsOnce : transaction.limits.Distinct

theorem guarded_fresh : Transaction.fresh.Guarded where
  accounts := fun _ member => absurd member List.not_mem_nil
  limits := fun _ member => absurd member List.not_mem_nil
  accountsOnce := Table.distinct_empty
  limitsOnce := Table.distinct_empty

theorem Guarded.grows
    {before after : Transaction}
    (guarded : before.Guarded)
    (grows : before.Grows after) :
    after.Guarded where
  accounts := by
    rw [grows.accounts]
    exact fun row member => (guarded.accounts row member).imp_right (grows.held row.1)
  limits := by
    rw [grows.limits]
    exact fun row member => (guarded.limits row member).imp_right (grows.held row.1.1)
  accountsOnce := grows.accounts ▸ guarded.accountsOnce
  limitsOnce := grows.limits ▸ guarded.limitsOnce

theorem Guarded.stageAccount
    {transaction : Transaction}
    (guarded : transaction.Guarded)
    {row : Account}
    (held : row.iban ∈ transaction.held) :
    (transaction.stageAccount row).Guarded where
  accounts := by
    intro entry member
    rcases Table.mem_rows_put member with rfl | before
    · exact ⟨rfl, held⟩
    · exact guarded.accounts entry before
  limits := guarded.limits
  accountsOnce := guarded.accountsOnce.put row.iban row
  limitsOnce := guarded.limitsOnce

theorem Guarded.stageLimit
    {transaction : Transaction}
    (guarded : transaction.Guarded)
    {row : DailyLimit}
    (held : row.iban ∈ transaction.held) :
    (transaction.stageLimit row).Guarded where
  accounts := guarded.accounts
  limits := by
    intro entry member
    rcases Table.mem_rows_put member with rfl | before
    · exact ⟨rfl, held⟩
    · exact guarded.limits entry before
  accountsOnce := guarded.accountsOnce
  limitsOnce := guarded.limitsOnce.put (row.iban, row.date) row

theorem Guarded.stageTransfer
    {transaction : Transaction}
    (guarded : transaction.Guarded)
    (transfer : Transfer) :
    (transaction.stageTransfer transfer).Guarded :=
  ⟨guarded.accounts, guarded.limits, guarded.accountsOnce, guarded.limitsOnce⟩

end Transaction

/-! ## What a commit installs -/

namespace Tables

/-- The rows are those that a transaction on some tables saw, and its log is longer by its own. -/
structure Installs (before : Tables) (transaction : Transaction) (after : Tables) : Prop where
  accounts : ∀ iban, after.findAccount iban = transaction.account? before iban
  limits : ∀ iban date, after.dailyLimit iban date = transaction.limit? before iban date
  transfers : after.transfers = before.transfers ++ transaction.transfers

theorem installs_installed
    (tables : Tables)
    {transaction : Transaction}
    (guarded : transaction.Guarded) :
    tables.Installs transaction (Store.installed tables transaction) where
  accounts := Table.get?_overwrite guarded.accountsOnce tables.accounts
  limits := fun iban date =>
    Table.get?_overwrite guarded.limitsOnce tables.limits (iban, date)
  transfers := rfl

/-- Staged rows are installed under their own numbers. -/
theorem Keyed.installed
    {tables : Tables}
    (keyed : tables.Keyed)
    {transaction : Transaction}
    (guarded : transaction.Guarded) :
    (Store.installed tables transaction).Keyed where
  accounts := by
    intro iban account found
    rw [(installs_installed tables guarded).accounts, Transaction.account?,
      Option.or_eq_some_iff] at found
    rcases found with staged | ⟨-, committed⟩
    · exact (guarded.accounts _ (Table.mem_of_get? staged)).1
    · exact keyed.accounts iban account committed
  limits := by
    intro iban date row found
    rw [(installs_installed tables guarded).limits, Transaction.limit?,
      Option.or_eq_some_iff] at found
    rcases found with staged | ⟨-, committed⟩
    · exact Prod.ext_iff.mp (guarded.limits _ (Table.mem_of_get? staged)).1
    · exact keyed.limits iban date row committed

/-- Every account of some tables is there in others as well. -/
def Spans (before after : Tables) : Prop :=
  ∀ iban, before.accounts.contains iban = true -> after.accounts.contains iban = true

theorem spans_installed
    (tables : Tables)
    {transaction : Transaction}
    (guarded : transaction.Guarded) :
    tables.Spans (Store.installed tables transaction) :=
  fun _ present => Table.contains_overwrite guarded.accountsOnce present

theorem spans_administer (tables : Tables) (write : AdminWrite) :
    tables.Spans (write.apply tables) := by
  intro iban present
  cases write with
  | insertAccount account =>
      simp only [AdminWrite.apply, insertAccount, Table.contains_put, present, Bool.or_true]
  | setUserActive userId isActive =>
      simpa only [AdminWrite.apply, setUserActive, Table.contains, Table.get?_mapValues,
        Option.isSome_map] using present

end Tables

/-! ## Transactions after a question -/

namespace Store

/-- A lock that is handed over changes nothing else about anyone's transaction. -/
theorem grows_hand
    (store : Store)
    (id other : TransactionId)
    (iban : String)
    (waiting : List TransactionId) :
    (store.transaction other).Grows ((store.hand id iban waiting).transaction other) := by
  rw [transaction, transaction, get?_hand]
  split
  · cases store.transactions.get? other with
    | none => exact .refl _
    | some transaction => exact Transaction.grows_withLock iban transaction
  · exact .refl _

theorem grows_passOn (store : Store) (iban : String) (other : TransactionId) :
    (store.transaction other).Grows ((store.passOn iban).transaction other) := by
  rw [passOn_eq]
  split
  · exact .refl _
  · exact grows_hand store _ other iban _

theorem grows_foldl_passOn (ibans : List String) (store : Store) (other : TransactionId) :
    (store.transaction other).Grows ((ibans.foldl passOn store).transaction other) := by
  induction ibans generalizing store with
  | nil => exact .refl _
  | cons iban rest ih => exact (grows_passOn store iban other).trans (ih _)

/-- The end of a transaction is nothing to the others but that they may be handed locks. -/
theorem grows_close
    (store : Store)
    {id other : TransactionId}
    (different : id ≠ other) :
    (store.transaction other).Grows ((store.close id).transaction other) := by
  have kept : (store.without id).transaction other = store.transaction other := by
    simp [transaction, without, Table.get?_erase, different]
  rw [close_eq, ← kept]
  exact grows_foldl_passOn _ _ other

theorem transaction_close_self (store : Store) (id : TransactionId) :
    (store.close id).transaction id = .fresh := by
  rw [transaction, get?_close]
  rfl

theorem transaction_begin (store : Store) (other : TransactionId) :
    store.begin.2.transaction other =
      if store.nextTransaction = other then .fresh else store.transaction other := by
  rw [transaction, Store.begin, Table.get?_put]
  split <;> rfl

/-- A change of a transaction is none of another one, and none at all if it is not open. -/
theorem transaction_update
    (store : Store)
    (id : TransactionId)
    (change : Transaction -> Transaction) :
    (∀ other, (store.update id change).transaction other = store.transaction other) ∨
      (store.update id change).transaction id = change (store.transaction id) ∧
        ∀ other, other ≠ id ->
          (store.update id change).transaction other = store.transaction other := by
  have elsewhere : ∀ other, other ≠ id ->
      (store.update id change).transaction other = store.transaction other := by
    intro other different
    simp [transaction, update, Table.get?_modify, different.symm]
  cases here : store.transactions.get? id with
  | none =>
      left
      intro other
      by_cases same : other = id
      · simp [transaction, update, Table.get?_modify, same, here]
      · exact elsewhere other same
  | some transaction =>
      right
      refine ⟨?_, elsewhere⟩
      simp [Store.transaction, update, Table.get?_modify, here]

/-! ## Rows staged under locks -/

/-- No transaction stages rows without their locks. -/
def Guarded (store : Store) : Prop :=
  ∀ id, (store.transaction id).Guarded

theorem guarded_empty : empty.Guarded :=
  fun _ => Transaction.guarded_fresh

namespace Guarded

variable {store : Store}

theorem close (guarded : store.Guarded) (id : TransactionId) : (store.close id).Guarded := by
  intro other
  by_cases same : id = other
  · subst same
    rw [transaction_close_self]
    exact Transaction.guarded_fresh
  · exact (guarded other).grows (grows_close store same)

theorem begin (guarded : store.Guarded) : store.begin.2.Guarded := by
  intro other
  rw [transaction_begin]
  split
  · exact Transaction.guarded_fresh
  · exact guarded other

theorem update
    (guarded : store.Guarded)
    (id : TransactionId)
    {change : Transaction -> Transaction}
    (kept : (change (store.transaction id)).Guarded) :
    (store.update id change).Guarded := by
  intro other
  rcases transaction_update store id change with same | ⟨changed, elsewhere⟩
  · exact same other ▸ guarded other
  · by_cases here : other = id
    · subst here
      exact changed ▸ kept
    · exact elsewhere other here ▸ guarded other

/-- Whatever is asked, rows are staged under locks. -/
theorem serve
    (guarded : store.Guarded)
    (current : Option TransactionId)
    (ask : LedgerAsk) :
    (store.serve current ask).store.Guarded := by
  have deals := deals_serve store current ask
  generalize store.serve current ask = served at deals
  cases deals with
  | begins => exact guarded.begin
  | idles => exact guarded
  | tells id iban => exact guarded
  | grants id iban present free =>
      exact fun other => (guarded other).grows (grows_hand store id other iban [])
  | queues id iban present unstaged => exact guarded
  | limits id iban date => exact guarded
  | stagesLimit id row held => exact guarded.update id ((guarded id).stageLimit held)
  | stagesAccount id row held => exact guarded.update id ((guarded id).stageAccount held)
  | records id draft unstaged =>
      have counted : store.useId.Guarded := guarded
      exact counted.update id ((guarded id).stageTransfer _)
  | refuses id ask refusal next later writes => exact guarded
  | commits id unused =>
      have installs : (store.retable (installed store.tables (store.transaction id))).Guarded :=
        guarded
      exact installs.close id
  | undoes id ask answer ends uncommitted => exact guarded.close id

theorem endWait (guarded : store.Guarded) (id : TransactionId) (iban : String) :
    (store.endWait id iban).2.Guarded := by
  intro other
  rw [transaction, transactions_endWait]
  exact guarded other

end Guarded

/-! ## The register of locks -/

/-- Locks are kept for existing accounts only. -/
def Registered (store : Store) : Prop :=
  ∀ iban, store.locks.contains iban = true -> store.tables.accounts.contains iban = true

theorem registered_empty : empty.Registered :=
  fun _ kept => Bool.noConfusion kept

/-- A lock that is marked as taken is kept. -/
theorem contains_of_taken
    {store : Store}
    {iban : String}
    (taken : (store.lockOf iban).taken = true) :
    store.locks.contains iban = true := by
  rw [Table.contains]
  unfold lockOf at taken
  cases kept : store.locks.get? iban with
  | none =>
      rw [kept] at taken
      cases taken
  | some lock => rfl

namespace Registered

variable {store : Store}

theorem relock
    (registered : store.Registered)
    {iban : String}
    (present : store.tables.accounts.contains iban = true)
    (lock : RowLock) :
    (store.relock iban lock).Registered := by
  intro row kept
  rw [Store.relock, Table.contains_put, Bool.or_eq_true, decide_eq_true_eq] at kept
  rcases kept with rfl | before
  · exact present
  · exact registered row before

theorem retable
    (registered : store.Registered)
    {tables : Tables}
    (spans : store.tables.Spans tables) :
    (store.retable tables).Registered :=
  fun iban kept => spans iban (registered iban kept)

theorem passOn
    (registered : store.Registered)
    {iban : String}
    (present : store.tables.accounts.contains iban = true) :
    (store.passOn iban).Registered := by
  rw [passOn_eq]
  split
  · exact registered.relock present .free
  · exact registered.relock present ⟨true, _⟩

theorem foldl_passOn
    (registered : store.Registered)
    {ibans : List String}
    (present : ∀ iban ∈ ibans, store.tables.accounts.contains iban = true) :
    (ibans.foldl Store.passOn store).Registered := by
  induction ibans generalizing store with
  | nil => exact registered
  | cons iban rest ih =>
      refine ih (registered.passOn (present iban List.mem_cons_self)) (fun row member => ?_)
      rw [passOn_tables]
      exact present row (List.mem_cons_of_mem iban member)

/-- Locks are passed on that were held, so they are kept already. -/
theorem close
    (registered : store.Registered)
    (orderly : store.Orderly)
    (id : TransactionId) :
    (store.close id).Registered := by
  rw [close_eq]
  have erased : (store.without id).Registered := registered
  exact erased.foldl_passOn (fun iban held =>
    registered iban (contains_of_taken (orderly.taken id iban held)))

/-- Whatever is asked, locks are kept for existing accounts only. -/
theorem serve
    (registered : store.Registered)
    (orderly : store.Orderly)
    (guarded : store.Guarded)
    (current : Option TransactionId)
    (ask : LedgerAsk) :
    (store.serve current ask).store.Registered := by
  have deals := deals_serve store current ask
  generalize store.serve current ask = served at deals
  cases deals with
  | grants id iban present free => exact registered.relock present ⟨true, []⟩
  | queues id iban present unstaged => exact registered.relock present _
  | commits id unused =>
      exact (registered.retable (Tables.spans_installed _ (guarded id))).close
        (orderly.retable _) id
  | undoes id ask answer ends uncommitted => exact registered.close orderly id
  | _ => exact registered

theorem endWait
    (registered : store.Registered)
    (id : TransactionId)
    {iban : String}
    (present : store.tables.accounts.contains iban = true) :
    (store.endWait id iban).2.Registered := by
  unfold Store.endWait
  split
  · exact registered
  · exact registered.relock present _

end Registered
end Store
end Giro
