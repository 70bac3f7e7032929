import Giro.Proofs.Traffic.Steps

/-!
# Waits of a call

A step of a call that asks for a lock may have to wait, and a step of a call that
waits may be to give up; neither of them changes the committed rows. With that
the steps of a call are complete.
-/

namespace Giro
namespace Progress

variable {errand : Errand} {store : Store} {call : TransferCall}

/-! ## Waiting for a lock -/

/-- A call has to wait for a lock that another transaction holds. -/
def Queues (progress : Progress errand) (store : Store) (call : TransferCall) : Prop :=
  (call.advance store).2.tables = store.tables ∧
    progress.Tracks (call.advance store).2 (call.advance store).1 ∧
      ∃ id iban, call.current = some id ∧ (store.lockOf iban).taken = true ∧
        iban ∉ store.heldBy id

/-- A call is told that the lock it waited for has not become free in time. -/
def GivesUp (errand : Errand) (store : Store) (call : TransferCall) : Prop :=
  (call.advance store).2.tables = store.tables ∧
    (failing (.refused .accountBusy) : Progress errand).Tracks
      (call.advance store).2 (call.advance store).1

section Locks

variable {current : Option TransactionId}

/-- A call that has to wait is as far as it was. -/
theorem Tracks.queues
    {progress : Progress errand}
    {id : TransactionId}
    {transaction : Transaction}
    {iban : String}
    {next : Except Refusal (Option Account) -> TransferScript (Except Failure Transfer)}
    {after : Store}
    (tracks : progress.Tracks store call)
    (own : call.current = some id)
    (here : store.transactions.get? id = some transaction)
    (stands : call.standing = .active (some id) (.ask (.ledger (.lock iban)) next))
    (served : store.serve (some id) (.lock iban) =
      .waiting id iban (fun result => result) after)
    (same : after.tables = store.tables)
    (transactions : after.transactions = store.transactions)
    (taken : (store.lockOf iban).taken = true)
    (unheld : iban ∉ transaction.held)
    (waits : progress.Stands
      (.waiting id iban (.lock iban) (fun result => result) next)) :
    progress.Queues store call := by
  have advance := TransferCall.advance_delayed stands served
  refine ⟨?_, ?_, id, iban, own, taken, ?_⟩
  · rw [advance]
    exact same
  · rw [advance]
    refine ⟨tracks.oracle, tracks.distinct, waits, ?_, tracks.heard⟩
    have seated := tracks.seated
    rw [own] at seated
    cases seated with
    | inside _ held inside there work =>
        exact .inside id held inside (transactions ▸ there) work
  · rwa [Store.heldBy_of_get? here]

theorem Tracks.first_active
    (keyed : store.tables.Keyed)
    (tracks : (lockingFirst : Progress errand).Tracks store call)
    (stands : call.standing = .active current (lockingFirst : Progress errand).script) :
    (lockingFirst : Progress errand).Proceeds store call ∨
      (lockingFirst : Progress errand).Queues store call := by
  obtain ⟨id, transaction, own, here, work⟩ := tracks.current_inside rfl
  have active := own
  rw [current_of_active stands] at active
  subst active
  have grows := work _ rfl
  have unstaged : transaction.accounts.get? errand.order.1 = none := by
    rw [grows.accounts]
    rfl
  rcases Store.serve_lock here unstaged with
    ⟨after, later, served, same, there, more, held⟩ |
    ⟨after, served, same, transactions, taken, unheld⟩
  · left
    exact tracks.hears_first keyed (TransferCall.advance_answered stands served) same there
      (grows.trans more) held
  · right
    exact tracks.queues own here stands served same transactions taken unheld (.first id)

theorem Tracks.second_active
    {first : Account}
    {firstNamed : first.iban = errand.order.1}
    (keyed : store.tables.Keyed)
    (tracks : (lockingSecond first firstNamed : Progress errand).Tracks store call)
    (stands :
      call.standing = .active current (lockingSecond first firstNamed).script) :
    (lockingSecond first firstNamed : Progress errand).Proceeds store call ∨
      (lockingSecond first firstNamed : Progress errand).Queues store call := by
  obtain ⟨id, transaction, own, here, work⟩ := tracks.current_inside rfl
  have active := own
  rw [current_of_active stands] at active
  subst active
  have grows := work _ rfl
  have unstaged : transaction.accounts.get? errand.order.2 = none := by
    rw [grows.accounts]
    rfl
  rcases Store.serve_lock here unstaged with
    ⟨after, later, served, same, there, more, held⟩ |
    ⟨after, served, same, transactions, taken, unheld⟩
  · left
    exact tracks.hears_second keyed (TransferCall.advance_answered stands served) same there
      (grows.trans more) held
  · right
    exact tracks.queues own here stands served same transactions taken unheld
      (.second first firstNamed id)

/-- A refused wait leaves the transaction to be undone. -/
theorem Tracks.givesUp
    {progress : Progress errand}
    {id : TransactionId}
    {iban : String}
    {next : Except Refusal (Option Account) -> TransferScript (Except Failure Transfer)}
    (tracks : progress.Tracks store call)
    (distinct : errand.sender ≠ errand.receiver)
    (own : call.current = some id)
    (stands : call.standing = .waiting id iban (.lock iban) (fun result => result) next)
    (unheld : store.holds id iban = false)
    (left : next (.error .accountBusy) =
      (failing (.refused .accountBusy) : Progress errand).script) :
    GivesUp errand store call := by
  have ended : store.endWait id iban = (.error .accountBusy, store.giveUp id iban) := by
    simp [Store.endWait, unheld]
  have advance := call.advance_waiting store stands
  rw [ended] at advance
  refine ⟨by rw [advance, Store.giveUp_tables], ?_⟩
  rw [advance]
  refine ⟨tracks.oracle, Or.inl distinct, ?_, ?_, fun _ asked => by cases asked⟩
  · change Stands _ (.active (some id) (next (.error .accountBusy)))
    rw [left]
    exact .active _ _
  · have seated := tracks.seated
    rw [own] at seated
    cases seated with
    | inside _ transaction _ here _ =>
        exact .inside id transaction rfl here (fun _ work => by cases work)

theorem Tracks.first_waiting
    {id : TransactionId}
    (keyed : store.tables.Keyed)
    (tracks : (lockingFirst : Progress errand).Tracks store call)
    (stands : call.standing =
      .waiting id errand.order.1 (.lock errand.order.1) (fun result => result)
        errand.onFirst) :
    (lockingFirst : Progress errand).Proceeds store call ∨ GivesUp errand store call := by
  obtain ⟨own, transaction, equal, here, work⟩ := tracks.current_inside rfl
  have same : id = own := by
    simpa [TransferCall.current, stands] using equal
  subst same
  cases holds : store.holds id errand.order.1 with
  | true =>
      left
      have ended : store.endWait id errand.order.1 =
          (.ok (store.tables.findAccount errand.order.1), store) := by
        simp [Store.endWait, holds, Store.rowAfterWait]
      have advance := call.advance_waiting store stands
      rw [ended] at advance
      refine tracks.hears_first keyed advance rfl here (work _ rfl) (fun _ => ?_)
      rwa [Store.holds_iff, Store.heldBy_of_get? here] at holds
  | false =>
      right
      refine tracks.givesUp (tracks.distinct.resolve_right ?_) equal stands holds rfl
      rintro ⟨outcome, wrong⟩
      cases wrong

theorem Tracks.second_waiting
    {first : Account}
    {firstNamed : first.iban = errand.order.1}
    {id : TransactionId}
    (keyed : store.tables.Keyed)
    (tracks : (lockingSecond first firstNamed : Progress errand).Tracks store call)
    (stands : call.standing =
      .waiting id errand.order.2 (.lock errand.order.2) (fun result => result)
        (errand.onSecond first)) :
    (lockingSecond first firstNamed : Progress errand).Proceeds store call ∨
      GivesUp errand store call := by
  obtain ⟨own, transaction, equal, here, work⟩ := tracks.current_inside rfl
  have same : id = own := by
    simpa [TransferCall.current, stands] using equal
  subst same
  cases holds : store.holds id errand.order.2 with
  | true =>
      left
      have ended : store.endWait id errand.order.2 =
          (.ok (store.tables.findAccount errand.order.2), store) := by
        simp [Store.endWait, holds, Store.rowAfterWait]
      have advance := call.advance_waiting store stands
      rw [ended] at advance
      refine tracks.hears_second keyed advance rfl here (work _ rfl) (fun _ => ?_)
      rwa [Store.holds_iff, Store.heldBy_of_get? here] at holds
  | false =>
      right
      refine tracks.givesUp (tracks.distinct.resolve_right ?_) equal stands holds rfl
      rintro ⟨outcome, wrong⟩
      cases wrong

end Locks

/-! ## Any step -/

/-- A call that does not wait goes on, or has to wait, or is over. -/
theorem Tracks.active
    {progress : Progress errand}
    {current : Option TransactionId}
    (keyed : store.tables.Keyed)
    (tracks : progress.Tracks store call)
    (stands : call.standing = .active current progress.script) :
    progress.Proceeds store call ∨ progress.Queues store call ∨
      (∃ outcome, progress = .ended outcome) ∧ call.advance store = (call, store) := by
  cases progress with
  | requested => exact Or.inl (tracks.proceeds_requested stands)
  | lockingFirst => exact (tracks.first_active keyed stands).imp_right Or.inl
  | lockingSecond first named => exact (tracks.second_active keyed stands).imp_right Or.inl
  | clocking pair => exact Or.inl (tracks.proceeds_clocking stands)
  | consulting pair => exact Or.inl (tracks.proceeds_consulting keyed stands)
  | savingLimit plan => exact Or.inl (tracks.proceeds_savingLimit stands)
  | savingSender plan => exact Or.inl (tracks.proceeds_savingSender stands)
  | savingReceiver plan => exact Or.inl (tracks.proceeds_savingReceiver stands)
  | identifying plan => exact Or.inl (tracks.proceeds_identifying stands)
  | referencing plan => exact Or.inl (tracks.proceeds_referencing stands)
  | recording plan => exact Or.inl (tracks.proceeds_recording stands)
  | committing plan transfer drafted => exact Or.inl (tracks.proceeds_committing stands)
  | failing failure => exact Or.inl (tracks.proceeds_failing stands)
  | noting plan transfer => exact Or.inl (tracks.proceeds_noting stands)
  | auditing plan transfer instant => exact Or.inl (tracks.proceeds_auditing stands)
  | dispatching plan transfer => exact Or.inl (tracks.proceeds_dispatching stands)
  | ended outcome =>
      exact Or.inr (Or.inr ⟨⟨outcome, rfl⟩, TransferCall.advance_done stands⟩)

/-- What a step does to its own call and to the committed rows. -/
inductive Moves (errand : Errand) (before : Tables) :
    Progress errand -> Progress errand -> Tables -> Prop
  | goes {progress later : Progress errand} {after : Tables}
      (next : Next errand before progress later after) :
      Moves errand before progress later after
  | tires (progress : Progress errand) (undecided : progress.verdict? = none) :
      Moves errand before progress (.failing (.refused .accountBusy)) before
  | stays (progress : Progress errand) : Moves errand before progress progress before

/-- Whatever the others do, a step of a call is one of those that its progress allows. -/
theorem Tracks.moves
    {progress : Progress errand}
    (keyed : store.tables.Keyed)
    (tracks : progress.Tracks store call) :
    ∃ later,
      Moves errand store.tables progress later (call.advance store).2.tables ∧
        later.Tracks (call.advance store).2 (call.advance store).1 := by
  have stands := tracks.stands
  generalize standing : call.standing = stood at stands
  cases stands with
  | active current =>
      rcases tracks.active keyed standing with
        ⟨later, next, tracked, -⟩ | ⟨same, tracked, -⟩ | ⟨-, idle⟩
      · exact ⟨later, .goes next, tracked⟩
      · exact ⟨progress, same ▸ .stays progress, tracked⟩
      · refine ⟨progress, ?_, ?_⟩
        · rw [idle]
          exact .stays progress
        · rw [idle]
          exact tracks
  | first id =>
      rcases tracks.first_waiting keyed standing with
        ⟨later, next, tracked, -⟩ | ⟨same, tracked⟩
      · exact ⟨later, .goes next, tracked⟩
      · exact ⟨_, same ▸ .tires _ rfl, tracked⟩
  | second first named id =>
      rcases tracks.second_waiting keyed standing with
        ⟨later, next, tracked, -⟩ | ⟨same, tracked⟩
      · exact ⟨later, .goes next, tracked⟩
      · exact ⟨_, same ▸ .tires _ rfl, tracked⟩

end Progress
end Giro
