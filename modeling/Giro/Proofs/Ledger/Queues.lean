import Giro.Proofs.Ledger.Transactions

/-!
# Queues for row locks

The queue of a lock is made up of those who wait for it, each of them once, and a
lock that is taken is held by somebody. So a lock never gets lost on its way from
one transaction to the next, and who waits for it waits for its holder.
-/

namespace Giro
namespace Store

/-! ## What a change does to the locks that are held -/

theorem heldBy_begin {store : Store} (orderly : store.Orderly) (id : TransactionId) :
    store.begin.2.heldBy id = store.heldBy id := by
  by_cases own : store.nextTransaction = id
  · have absent := orderly.fresh id (Nat.le_of_eq own)
    rw [heldBy_of_get?_eq_none absent]
    simp [heldBy, Store.transaction, Store.begin, Table.get?_put, own, Transaction.fresh]
  · simp [heldBy, Store.transaction, Store.begin, Table.get?_put, own]

/-- An open transaction holds the lock that is handed to it, and what it held before. -/
theorem mem_heldBy_hand_iff
    {store : Store}
    {id : TransactionId}
    (opened : (store.transactions.get? id).isSome)
    (other : TransactionId)
    (iban row : String)
    (waiting : List TransactionId) :
    row ∈ (store.hand id iban waiting).heldBy other ↔
      row ∈ store.heldBy other ∨ other = id ∧ row = iban := by
  refine ⟨mem_heldBy_hand, ?_⟩
  obtain ⟨transaction, here⟩ := Option.isSome_iff_exists.mp opened
  have after : (store.hand id iban waiting).transactions.get? id =
      some (transaction.withLock iban) := by
    simp [get?_hand, here]
  rintro (before | ⟨rfl, rfl⟩)
  · rcases heldBy_hand store id other iban waiting with same | ⟨-, more⟩
    · exact same ▸ before
    · rw [more]
      exact List.mem_append_left _ before
  · simp [heldBy_of_get? after]

theorem isSome_get?_hand
    (store : Store)
    (id other : TransactionId)
    (iban : String)
    (waiting : List TransactionId) :
    ((store.hand id iban waiting).transactions.get? other).isSome =
      (store.transactions.get? other).isSome := by
  rw [get?_hand]
  split <;> simp

/-- A transaction that has ended is gone. -/
theorem get?_close (store : Store) (id : TransactionId) :
    (store.close id).transactions.get? id = none := by
  have kept : ∀ (ibans : List String) (store : Store),
      store.transactions.get? id = none ->
        (ibans.foldl passOn store).transactions.get? id = none := by
    intro ibans
    induction ibans with
    | nil => exact fun _ gone => gone
    | cons iban rest ih =>
        intro store gone
        refine ih _ ?_
        rw [passOn_eq]
        split
        · exact gone
        · rw [get?_hand, gone]
          split <;> rfl
  rw [close_eq]
  refine kept _ _ ?_
  simp [without, Table.get?_erase]

/-! ## Queues -/

/--
The queues agree with what transactions ask and wait for. The holders of the pending
rows have ended, and their locks are still to be passed on.
-/
structure Attended
    (store : Store)
    (asks waits : TransactionId -> String -> Prop)
    (pending : List String) : Prop where
  queued : ∀ id iban,
    id ∈ (store.lockOf iban).waiting ↔ waits id iban ∧ iban ∉ store.heldBy id
  once : ∀ iban, (store.lockOf iban).waiting.Nodup
  idle : ∀ iban, (store.lockOf iban).taken = false -> (store.lockOf iban).waiting = []
  attended : ∀ iban, (store.lockOf iban).taken = true ->
    iban ∈ pending ∨ ∃ id, iban ∈ store.heldBy id
  asked : ∀ id iban, iban ∈ store.heldBy id -> asks id iban
  awaited : ∀ id iban, waits id iban ->
    asks id iban ∧ (store.transactions.get? id).isSome

namespace Attended

variable
  {store : Store}
  {asks waits : TransactionId -> String -> Prop}
  {pending : List String}

/-- A lock is handed to an open transaction that has asked for it; all others still wait. -/
theorem hand
    {rows : List String}
    (attended : store.Attended asks waits rows)
    {id : TransactionId}
    {iban : String}
    {waiting : List TransactionId}
    (opened : (store.transactions.get? id).isSome)
    (asked : asks id iban)
    (left : ∀ other, other ∈ waiting ↔ other ∈ (store.lockOf iban).waiting ∧ other ≠ id)
    (once : waiting.Nodup)
    (covers : ∀ row ∈ rows, row = iban ∨ row ∈ pending) :
    (store.hand id iban waiting).Attended asks waits pending where
  queued := by
    intro other row
    rw [lockOf_hand, mem_heldBy_hand_iff opened, not_or]
    split
    · rename_i same
      subst same
      rw [left, attended.queued]
      tauto
    · rename_i different
      rw [attended.queued]
      have apart : ¬ (other = id ∧ row = iban) := fun here => different here.2.symm
      tauto
  once := by
    intro row
    rw [lockOf_hand]
    split
    · exact once
    · exact attended.once row
  idle := by
    intro row free
    rw [lockOf_hand] at free ⊢
    split at free
    · cases free
    · rename_i different
      rw [if_neg different]
      exact attended.idle row free
  attended := by
    intro row taken
    simp only [mem_heldBy_hand_iff opened]
    rw [lockOf_hand] at taken
    split at taken
    · rename_i same
      exact Or.inr ⟨id, Or.inr ⟨rfl, same.symm⟩⟩
    · rename_i different
      rcases attended.attended row taken with due | ⟨holder, holds⟩
      · exact Or.inl ((covers row due).resolve_left (Ne.symm different))
      · exact Or.inr ⟨holder, Or.inl holds⟩
  asked := by
    intro other row holds
    rcases mem_heldBy_hand holds with before | ⟨rfl, rfl⟩
    · exact attended.asked other row before
    · exact asked
  awaited := by
    intro other row waiting
    rw [isSome_get?_hand]
    exact attended.awaited other row waiting

/-- The queue of a lock changes along with what is waited for. -/
theorem relock
    {rows : List String}
    (attended : store.Attended asks waits rows)
    {later : TransactionId -> String -> Prop}
    {iban : String}
    {lock : RowLock}
    (queued : ∀ id, id ∈ lock.waiting ↔ later id iban ∧ iban ∉ store.heldBy id)
    (elsewhere : ∀ id row, row ≠ iban -> (later id row ↔ waits id row))
    (once : lock.waiting.Nodup)
    (idle : lock.taken = false -> lock.waiting = [])
    (held : lock.taken = true -> iban ∈ pending ∨ ∃ id, iban ∈ store.heldBy id)
    (awaited : ∀ id, later id iban -> asks id iban ∧ (store.transactions.get? id).isSome)
    (covers : ∀ row ∈ rows, row = iban ∨ row ∈ pending) :
    (store.relock iban lock).Attended asks later pending where
  queued := by
    intro id row
    rw [lockOf_relock]
    split
    · rename_i same
      subst same
      exact queued id
    · rename_i different
      rw [elsewhere id row (Ne.symm different)]
      exact attended.queued id row
  once := by
    intro row
    rw [lockOf_relock]
    split
    · exact once
    · exact attended.once row
  idle := by
    intro row free
    rw [lockOf_relock] at free ⊢
    split at free
    · rename_i same
      rw [if_pos same]
      exact idle free
    · rename_i different
      rw [if_neg different]
      exact attended.idle row free
  attended := by
    intro row taken
    rw [lockOf_relock] at taken
    split at taken
    · rename_i same
      subst same
      exact held taken
    · rename_i different
      apply (attended.attended row taken).imp_left
      exact fun due => (covers row due).resolve_left (Ne.symm different)
  asked := attended.asked
  awaited := by
    intro id row waiting
    by_cases same : row = iban
    · subst same
      exact awaited id waiting
    · exact attended.awaited id row ((elsewhere id row same).mp waiting)

/-- A lock that is passed on goes to the first in its queue, who holds it from then on. -/
theorem passOn
    {iban : String}
    (attended : store.Attended asks waits (iban :: pending)) :
    (store.passOn iban).Attended asks waits pending := by
  have covers : ∀ row ∈ iban :: pending, row = iban ∨ row ∈ pending :=
    fun row member => List.mem_cons.mp member
  have queued := fun id => attended.queued id iban
  have once := attended.once iban
  rw [passOn_eq]
  split
  · rename_i nobody
    rw [nobody] at queued
    refine attended.relock queued (fun _ _ _ => Iff.rfl) List.nodup_nil (fun _ => rfl) ?_
      (fun id => attended.awaited id iban) covers
    intro taken
    cases taken
  · rename_i waiter rest queue
    rw [queue, List.nodup_cons] at once
    obtain ⟨waits, -⟩ := (queued waiter).mp (by simp [queue])
    obtain ⟨asked, opened⟩ := attended.awaited waiter iban waits
    refine attended.hand opened asked ?_ once.2 covers
    intro other
    rw [queue, List.mem_cons]
    constructor
    · intro member
      exact ⟨Or.inr member, fun same => once.1 (same ▸ member)⟩
    · rintro ⟨first | member, different⟩
      · exact absurd first different
      · exact member

theorem foldl_passOn
    {ibans : List String}
    (attended : store.Attended asks waits ibans) :
    (ibans.foldl Store.passOn store).Attended asks waits [] := by
  induction ibans generalizing store with
  | nil => exact attended
  | cons iban rest ih => exact ih attended.passOn

/-- When a transaction that waits for nothing ends, its locks go on to those who wait for them. -/
theorem close
    (attended : store.Attended asks waits [])
    {id : TransactionId}
    (calm : ∀ iban, ¬ waits id iban) :
    (store.close id).Attended asks waits [] := by
  rw [close_eq]
  refine foldl_passOn ⟨?_, attended.once, attended.idle, ?_, ?_, ?_⟩
  · intro other iban
    refine (attended.queued other iban).trans (and_congr_right ?_)
    intro waits
    rw [heldBy_without, if_neg]
    rintro rfl
    exact calm iban waits
  · intro iban taken
    rcases attended.attended iban taken with due | ⟨holder, holds⟩
    · cases due
    · by_cases own : id = holder
      · exact Or.inl (own ▸ holds)
      · refine Or.inr ⟨holder, ?_⟩
        rw [heldBy_without, if_neg own]
        exact holds
  · exact fun other iban holds => attended.asked other iban (mem_heldBy_without holds).2
  · intro other iban waits
    obtain ⟨asked, opened⟩ := attended.awaited other iban waits
    refine ⟨asked, ?_⟩
    rw [without, Table.get?_erase, if_neg]
    · exact opened
    · rintro rfl
      exact calm iban waits

/-- A change that leaves all locks with those who held them. -/
theorem of_same
    (attended : store.Attended asks waits pending)
    {after : Store}
    (locks : ∀ iban, after.lockOf iban = store.lockOf iban)
    (held : ∀ id, after.heldBy id = store.heldBy id)
    (opened : ∀ id, (store.transactions.get? id).isSome ->
      (after.transactions.get? id).isSome) :
    after.Attended asks waits pending where
  queued := by
    intro id iban
    rw [locks, held]
    exact attended.queued id iban
  once := by
    intro iban
    rw [locks]
    exact attended.once iban
  idle := by
    intro iban
    rw [locks]
    exact attended.idle iban
  attended := by
    intro iban
    rw [locks]
    simp only [held]
    exact attended.attended iban
  asked := by
    intro id iban
    rw [held]
    exact attended.asked id iban
  awaited := fun id iban waits => (attended.awaited id iban waits).imp_right (opened id)

/-- Other things may be asked for, and what is held need not be waited for any more. -/
theorem rephrase
    (attended : store.Attended asks waits pending)
    {asksLater waitsLater : TransactionId -> String -> Prop}
    (asked : ∀ id iban, iban ∈ store.heldBy id ∨ waitsLater id iban ->
      asks id iban -> asksLater id iban)
    (awaited : ∀ id iban, iban ∉ store.heldBy id -> (waitsLater id iban ↔ waits id iban))
    (fewer : ∀ id iban, waitsLater id iban -> waits id iban) :
    store.Attended asksLater waitsLater pending where
  queued := by
    intro id iban
    rw [attended.queued id iban]
    constructor
    · rintro ⟨waits, unheld⟩
      exact ⟨(awaited id iban unheld).mpr waits, unheld⟩
    · rintro ⟨waits, unheld⟩
      exact ⟨(awaited id iban unheld).mp waits, unheld⟩
  once := attended.once
  idle := attended.idle
  attended := attended.attended
  asked := fun id iban holds => asked id iban (Or.inl holds) (attended.asked id iban holds)
  awaited := by
    intro id iban waits
    obtain ⟨asks, opened⟩ := attended.awaited id iban (fewer id iban waits)
    exact ⟨asked id iban (Or.inr waits) asks, opened⟩

/-- The same things are asked and waited for. -/
theorem congr
    (attended : store.Attended asks waits pending)
    {asksLater waitsLater : TransactionId -> String -> Prop}
    (asked : ∀ id iban, asksLater id iban ↔ asks id iban)
    (awaited : ∀ id iban, waitsLater id iban ↔ waits id iban) :
    store.Attended asksLater waitsLater pending :=
  attended.rephrase (fun id iban _ => (asked id iban).mpr) (fun id iban _ => awaited id iban)
    (fun id iban => (awaited id iban).mp)

/-! ### The questions that concern locks -/

variable {id : TransactionId} {iban : String}

/-- A lock that is free has no queue, and is granted at once. -/
theorem grant
    (attended : store.Attended asks waits [])
    (opened : (store.transactions.get? id).isSome)
    (asked : asks id iban)
    (free : (store.lockOf iban).taken = false) :
    (store.hand id iban []).Attended asks waits [] := by
  refine attended.hand opened asked ?_ List.nodup_nil ?_
  · intro other
    simp [attended.idle iban free]
  · intro row due
    cases due

/-- Whoever has to wait for a lock is the last in its queue. -/
theorem queue
    (attended : store.Attended asks waits [])
    (opened : (store.transactions.get? id).isSome)
    (asked : asks id iban)
    (calm : ¬ waits id iban)
    (taken : (store.lockOf iban).taken = true)
    (unheld : iban ∉ store.heldBy id) :
    (store.relock iban ⟨true, (store.lockOf iban).waiting ++ [id]⟩).Attended asks
      (fun other row => waits other row ∨ other = id ∧ row = iban) [] := by
  refine attended.relock ?_ ?_ ?_ (fun wrong => by cases wrong) ?_ ?_ (fun row due => by cases due)
  · intro other
    rw [List.mem_append, List.mem_singleton, attended.queued]
    constructor
    · rintro (⟨waits, free⟩ | rfl)
      · exact ⟨Or.inl waits, free⟩
      · exact ⟨Or.inr ⟨rfl, rfl⟩, unheld⟩
    · rintro ⟨waits | ⟨same, -⟩, free⟩
      · exact Or.inl ⟨waits, free⟩
      · exact Or.inr same
  · intro other row different
    simp [different]
  · refine (attended.once iban).append (List.nodup_singleton id) ?_
    rw [List.disjoint_singleton]
    exact fun member => calm ((attended.queued id iban).mp member).1
  · exact fun _ => attended.attended iban taken
  · rintro other (waits | ⟨rfl, -⟩)
    · exact attended.awaited other iban waits
    · exact ⟨asked, opened⟩

/-- Whoever gives up waiting leaves the queue, and nobody else does. -/
theorem giveUp
    (attended : store.Attended asks waits [])
    (id : TransactionId)
    (iban : String) :
    (store.giveUp id iban).Attended asks
      (fun other row => waits other row ∧ ¬ (other = id ∧ row = iban)) [] := by
  refine attended.relock ?_ ?_ ((attended.once iban).filter _) ?_ ?_ ?_
    (fun row due => by cases due)
  · intro other
    rw [List.mem_filter, attended.queued]
    simp only [bne_iff_ne]
    tauto
  · intro other row different
    simp [different]
  · intro free
    rw [attended.idle iban free]
    rfl
  · exact attended.attended iban
  · exact fun other waits => attended.awaited other iban waits.1

end Attended

/-! ## Asking for a lock -/

/-- A lock is answered at once, or waited for in its queue, or granted because it is free. -/
theorem lock_cases (store : Store) (id : TransactionId) (iban : String) :
    (∃ account, store.lock id iban = (.answered account, store)) ∨
      (store.lockOf iban).taken = true ∧ iban ∉ store.heldBy id ∧
        store.lock id iban =
          (.queued, store.relock iban ⟨true, (store.lockOf iban).waiting ++ [id]⟩) ∨
      (store.lockOf iban).taken = false ∧
        ∃ account, store.lock id iban = (.answered account, store.hand id iban []) := by
  unfold lock
  split
  · exact Or.inl ⟨_, rfl⟩
  by_cases holds : store.holds id iban = true
  · rw [if_pos holds]
    exact Or.inl ⟨_, rfl⟩
  rw [if_neg holds]
  split
  · exact Or.inl ⟨_, rfl⟩
  by_cases taken : (store.lockOf iban).taken = true
  · rw [if_pos taken]
    rw [holds_iff] at holds
    exact Or.inr (Or.inl ⟨taken, holds, rfl⟩)
  · rw [if_neg taken]
    exact Or.inr (Or.inr ⟨by simpa using taken, _, rfl⟩)

/-- A lock that is free does not have to be waited for. -/
theorem lock_answers
    {store : Store}
    {id : TransactionId}
    {iban : String}
    (unstaged : (store.transaction id).accounts.get? iban = none)
    (free : store.lockOf iban = .free) :
    (store.lock id iban).1 = .answered (store.tables.findAccount iban) := by
  unfold lock
  rw [unstaged]
  by_cases holds : store.holds id iban = true
  · rw [if_pos holds]
  rw [if_neg holds]
  by_cases missing : (!store.tables.accounts.contains iban) = true
  · rw [if_pos missing]
    have absent : store.tables.findAccount iban = none := by
      simpa [Tables.findAccount, Table.contains] using missing
    rw [absent]
  · rw [if_neg missing, free]
    rfl

namespace Attended

variable
  {store : Store}
  {asks waits : TransactionId -> String -> Prop}
  {id : TransactionId}

/-- Whoever asks for a lock has it afterwards, or is in its queue, or is told without it. -/
theorem lock
    (attended : store.Attended asks waits [])
    {iban : String}
    (opened : (store.transactions.get? id).isSome)
    (asked : asks id iban)
    (calm : ∀ row, ¬ waits id row) :
    (store.lock id iban).2.Attended asks
      (fun other row =>
        waits other row ∨ (store.lock id iban).1 = .queued ∧ other = id ∧ row = iban) [] := by
  rcases store.lock_cases id iban with
    ⟨account, told⟩ | ⟨taken, unheld, queued⟩ | ⟨free, account, granted⟩
  · rw [told]
    exact attended.congr (fun _ _ => Iff.rfl) (fun _ _ => by simp)
  · rw [queued]
    exact (attended.queue opened asked (calm iban) taken unheld).congr (fun _ _ => Iff.rfl)
      (fun _ _ => by simp)
  · rw [granted]
    exact (attended.grant opened asked free).congr (fun _ _ => Iff.rfl) (fun _ _ => by simp)

/-- A question that is not about a lock moves none, or ends the transaction. -/
theorem effect
    (attended : store.Attended asks waits [])
    {ask : LedgerAsk}
    {after : Store}
    {later : Option TransactionId}
    (effect : Effect store id ask after later)
    (begun : ask ≠ .begin)
    (unrelated : ∀ iban, ask ≠ .lock iban)
    (calm : ∀ row, ¬ waits id row) :
    after.Attended (fun other iban => asks other iban ∧ (other = id -> later = some id))
      waits [] := by
  cases effect with
  | begins => exact absurd rfl begun
  | queues row waiting taken unheld => exact absurd rfl (unrelated row)
  | grants row free => exact absurd rfl (unrelated row)
  | stages _ next change same =>
      have staged : ((store.renumber next).update id change).Attended asks waits [] := by
        refine attended.of_same (fun _ => rfl)
          (fun other => heldBy_update (store.renumber next) id other same) ?_
        intro other opened
        rw [update, Table.get?_modify]
        split
        · rw [Option.isSome_map]
          exact opened
        · exact opened
      exact staged.congr (fun _ _ => by simp) (fun _ _ => Iff.rfl)
  | keeps _ next =>
      have kept : (store.renumber next).Attended asks waits [] :=
        attended.of_same (fun _ => rfl) (fun _ => rfl) (fun _ opened => opened)
      exact kept.congr (fun _ _ => by simp) (fun _ _ => Iff.rfl)
  | ends _ tables =>
      have still : (store.retable tables).Attended asks waits [] :=
        attended.of_same (fun _ => rfl) (fun _ => rfl) (fun _ opened => opened)
      refine (still.close calm).rephrase ?_ (fun _ _ _ => Iff.rfl) (fun _ _ waiting => waiting)
      rintro other row (holds | waiting) asked
      · refine ⟨asked, ?_⟩
        rintro rfl
        rw [heldBy_of_get?_eq_none (get?_close _ other)] at holds
        cases holds
      · refine ⟨asked, ?_⟩
        rintro rfl
        exact absurd waiting (calm row)

end Attended
end Store
end Giro
