import Giro.Proofs.Traffic.LostWrites
import Giro.Proofs.Traffic.Queues

/-!
# Failed calls

A call that fails leaves no trace: none of its steps has changed the committed rows,
nobody was told of it, and none of the transactions that it ever had open holds a lock.
When all calls are over, all locks are free, and any pair of them can be had at once.
-/

namespace Giro
namespace Store

/-! ## Names of transactions -/

theorem nextTransaction_close (store : Store) (id : TransactionId) :
    (store.close id).nextTransaction = store.nextTransaction := by
  have kept : ∀ (ibans : List String) (store : Store),
      (ibans.foldl passOn store).nextTransaction = store.nextTransaction := by
    intro ibans
    induction ibans with
    | nil => exact fun _ => rfl
    | cons iban rest ih =>
        intro store
        refine (ih _).trans ?_
        rw [passOn_eq]
        split <;> rfl
  exact kept _ _

/-- Names of transactions are used up one after another. -/
theorem nextTransaction_le_serve
    (store : Store)
    (current : Option TransactionId)
    (ask : LedgerAsk) :
    store.nextTransaction <= (store.serve current ask).store.nextTransaction := by
  cases current with
  | none =>
      rcases store.serve_none ask with ⟨-, begun, -⟩ | ⟨same, -⟩
      · rw [begun]
        exact Nat.le_succ _
      · rw [same]
  | some id =>
      have effect := effect_serve store id ask
      generalize (store.serve (some id) ask).store = after at effect
      generalize (store.serve (some id) ask).current = later at effect
      cases effect with
      | begins => exact Nat.le_succ _
      | ends _ tables => exact Nat.le_of_eq (nextTransaction_close (store.retable tables) id).symm
      | _ => exact Nat.le_refl _

/-! ## Locks that nobody holds -/

/-- Where all locks are free, a new transaction has any two rows at once. -/
theorem lock_both
    {store : Store}
    (free : ∀ iban, store.lockOf iban = .free)
    {first second : String}
    (distinct : first ≠ second) :
    let id := store.begin.1
    let one := store.begin.2.lock id first
    one.1 = .answered (store.tables.findAccount first) ∧
      (one.2.lock id second).1 = .answered (store.tables.findAccount second) := by
  intro id one
  have fresh : store.begin.2.transaction id = .fresh := transaction_of_get? (get?_begin store)
  refine ⟨lock_answers (by rw [fresh]; rfl) (free first), ?_⟩
  have tables : one.2.tables = store.tables := lock_tables _ _ _
  rw [← tables]
  have unlocked : store.begin.2.lockOf first = .free := free first
  rcases store.begin.2.lock_cases id first with
    ⟨account, told⟩ | ⟨taken, -⟩ | ⟨-, account, granted⟩
  · have same : one.2 = store.begin.2 := congrArg Prod.snd told
    rw [same]
    exact lock_answers (by rw [fresh]; rfl) (free second)
  · rw [unlocked] at taken
    cases taken
  · have handed : one.2 = store.begin.2.hand id first [] := congrArg Prod.snd granted
    rw [handed]
    refine lock_answers ?_ ?_
    · have here : (store.begin.2.hand id first []).transactions.get? id =
          some (Transaction.fresh.withLock first) := by
        rw [get?_hand, if_pos rfl]
        exact congrArg (Option.map _) (get?_begin store)
      rw [transaction_of_get? here]
      rfl
    · rw [lockOf_hand, if_neg distinct]
      exact free second

end Store

namespace Progress

variable {errand : Errand} {before after : Tables}

/-- A step of a call leaves the rows as they are, or the call succeeds with it. -/
theorem Moves.tables_or_succeeds
    {progress later : Progress errand}
    (moves : Moves errand before progress later after) :
    after = before ∨ ∃ transfer, later.verdict? = some (.ok transfer) := by
  cases moves with
  | goes next =>
      cases next with
      | commits plan transfer drafted unused => exact Or.inr ⟨transfer, rfl⟩
      | _ => exact Or.inl rfl
  | tires undecided => exact Or.inl rfl
  | stays => exact Or.inl rfl

end Progress

namespace Traffic

theorem run_eq_play (traffic : Traffic) (schedule : List Nat) :
    traffic.run schedule = traffic.play (schedule.map .step) := by
  induction schedule generalizing traffic with
  | nil => rfl
  | cons index rest ih => exact ih (traffic.advance index)

variable {traffic : Traffic} {journeys : List Journey}

/-- A step changes the committed rows only for a call that succeeds in the end. -/
theorem Follows.tables_of_fails
    (follows : traffic.Follows journeys)
    {index : Nat}
    {failure : Failure}
    (schedule : List Nat)
    (failed : (traffic.run (index :: schedule)).outcome? index = some (.error failure)) :
    (traffic.advance index).tables = traffic.tables := by
  cases here : journeys[index]? with
  | none => rw [follows.advance_of_none here]
  | some journey =>
      obtain ⟨later, moves, after⟩ := follows.advance here
      refine moves.tables_or_succeeds.resolve_right ?_
      rintro ⟨transfer, decided⟩
      have there := getElem?_set_here here ⟨journey.errand, later⟩
      rw [run_cons, run_eq_play] at failed
      cases after.outcome?_of_verdict there decided _ failed

/-- Nobody was told of a call that failed. -/
theorem unnoted_of_fails
    (store : Store)
    (errands : List Errand)
    (schedule : List Nat)
    {index : Nat}
    {call : TransferCall}
    {failure : Failure}
    (here : ((start store errands).run schedule).calls[index]? = some call)
    (failed : call.outcome? = some (.error failure)) :
    call.transcript.any Exchange.isNote = false := by
  obtain ⟨errand, -, recites⟩ := recites_run store errands schedule here
  rcases TransferCall.final_of_outcome? recites failed with ⟨-, silent, -⟩ | ⟨-, concluded⟩
  · rw [silent]
    rfl
  · refine concluded.unnoted ?_
    cases committed : call.transcript.any Exchange.commits with
    | false => rfl
    | true =>
        obtain ⟨before, transfer, sender, instant, entered, succeeded, -⟩ :=
          concluded.noted committed
        cases succeeded

/-- A step uses up names of transactions, and never gives one back. -/
theorem nextTransaction_le_advance (traffic : Traffic) (index : Nat) :
    traffic.store.nextTransaction <= (traffic.advance index).store.nextTransaction := by
  cases here : traffic.calls[index]? with
  | none => rw [advance_of_absent here]
  | some call =>
      rw [advance_of_call here]
      change _ <= (call.advance traffic.store).2.nextTransaction
      rcases call.advance_cases traffic.store with
        ⟨same, -⟩ | ⟨ask, served, -⟩ | ⟨id, iban, ended, -⟩
      · rw [same]
      · rw [served]
        exact Store.nextTransaction_le_serve _ _ _
      · rw [ended, Store.endWait]
        split <;> exact Nat.le_refl _

/-- A transaction that nobody else has open is never opened by anybody else. -/
theorem current_run
    {index : Nat}
    {id : TransactionId}
    (begun : id < traffic.store.nextTransaction)
    (own : ∀ (other : Nat) (call : TransferCall), traffic.calls[other]? = some call ->
      call.current = some id -> other = index)
    (schedule : List Nat) :
    ∀ (other : Nat) (call : TransferCall), (traffic.run schedule).calls[other]? = some call ->
      call.current = some id -> other = index := by
  induction schedule generalizing traffic with
  | nil => exact own
  | cons turn rest ih =>
      refine ih (Nat.lt_of_lt_of_le begun (traffic.nextTransaction_le_advance turn)) ?_
      intro other call there open_
      cases here : traffic.calls[turn]? with
      | none =>
          rw [advance_of_absent here] at there
          exact own other call there open_
      | some actor =>
          rw [advance_of_call here, List.getElem?_set] at there
          split at there
          · rename_i same
            subst same
            split at there <;> cases there
            rcases TransferCall.current_advance open_ with before | fresh
            · exact own turn actor here before
            · exact absurd fresh (Nat.ne_of_lt begun)
          · exact own other call there open_

/-- A transaction that a call has open was begun before the next one. -/
theorem Follows.current_lt_next
    (follows : traffic.Follows journeys)
    {index : Nat}
    {call : TransferCall}
    {id : TransactionId}
    (here : traffic.calls[index]? = some call)
    (own : call.current = some id) :
    id < traffic.store.nextTransaction := by
  obtain ⟨journey, -, tracks⟩ := follows.journey_of_call here
  have seated := tracks.seated
  rw [own] at seated
  cases seated with
  | inside _ transaction _ present _ =>
      by_contra late
      rw [follows.orderly.fresh id (Nat.le_of_not_lt late)] at present
      cases present

/-- Who holds a lock has a transaction open, and is not over. -/
theorem Regular.unfinished_of_held
    (regular : traffic.Regular journeys)
    {id : TransactionId}
    {iban : String}
    (holds : iban ∈ traffic.store.heldBy id) :
    ∃ (index : Nat) (call : TransferCall), traffic.calls[index]? = some call ∧
      call.current = some id ∧ traffic.outcome? index = none := by
  obtain ⟨index, call, here, own, -⟩ := regular.attended.asked id iban holds
  refine ⟨index, call, here, own, ?_⟩
  rw [outcome?, here]
  exact regular.outcome?_of_current here own

/-- A transaction that a call had open holds no lock once the call is over. -/
theorem Follows.heldBy_of_ended
    (follows : traffic.Follows journeys)
    {index : Nat}
    {call : TransferCall}
    {id : TransactionId}
    (here : traffic.calls[index]? = some call)
    (own : call.current = some id)
    (schedule : List Nat)
    {later : List Journey}
    (regular : (traffic.run schedule).Regular later)
    (ended : ((traffic.run schedule).outcome? index).isSome) :
    (traffic.run schedule).store.heldBy id = [] := by
  rw [List.eq_nil_iff_forall_not_mem]
  intro iban holds
  obtain ⟨other, holder, there, open_, undecided⟩ := regular.unfinished_of_held holds
  have only : ∀ (other : Nat) (second : TransferCall), traffic.calls[other]? = some second ->
      second.current = some id -> other = index :=
    fun other second found open_ =>
      follows.separate other index second call id found here open_ own
  have same := current_run (follows.current_lt_next here own) only schedule other holder there
    open_
  rw [same] at undecided
  rw [undecided] at ended
  cases ended

/-- When all calls are over, no lock is taken, and nobody waits. -/
theorem Regular.free_of_finished
    (regular : traffic.Regular journeys)
    (finished : traffic.Finished)
    (iban : String) :
    traffic.store.lockOf iban = .free := by
  have untaken : (traffic.store.lockOf iban).taken = false := by
    by_contra taken
    rcases regular.attended.attended iban (by simpa using taken) with due | ⟨id, holds⟩
    · cases due
    · obtain ⟨index, call, here, -, undecided⟩ := regular.unfinished_of_held holds
      have ended := finished index (List.getElem?_eq_some_iff.mp here).1
      rw [undecided] at ended
      cases ended
  have empty := regular.attended.idle iban untaken
  generalize traffic.store.lockOf iban = lock at untaken empty
  cases lock
  cases untaken
  cases empty
  rfl

/--
Whatever turns calls have taken on a store on which nobody was at work: a call that
has failed changed the committed rows in none of its steps, and nobody was told of it.
A call that is over holds no lock in any transaction that it ever had open. When all
calls are over, all locks are free, and any two rows can be locked at once.
-/
theorem failures_leave_no_trace
    {store : Store}
    (quiet : store.Quiet)
    (errands : List Errand)
    (schedule : List Nat) :
    let traffic := (start store errands).run schedule
    (∀ (index : Nat) (call : TransferCall) (failure : Failure),
      traffic.calls[index]? = some call -> call.outcome? = some (.error failure) ->
        (∀ before after, schedule = before ++ index :: after ->
          (((start store errands).run before).advance index).tables =
            ((start store errands).run before).tables) ∧
        call.transcript.any Exchange.isNote = false) ∧
      (∀ (index : Nat) (before after : List Nat) (earlier : TransferCall) (id : TransactionId),
        schedule = before ++ after -> (traffic.outcome? index).isSome ->
          ((start store errands).run before).calls[index]? = some earlier ->
            earlier.current = some id -> traffic.store.heldBy id = []) ∧
      (traffic.Finished ->
        (∀ iban, traffic.store.lockOf iban = .free) ∧
          ∀ first second, first ≠ second ->
            let id := traffic.store.begin.1
            let one := traffic.store.begin.2.lock id first
            one.1 = .answered (traffic.tables.findAccount first) ∧
              (one.2.lock id second).1 = .answered (traffic.tables.findAccount second)) := by
  intro traffic
  obtain ⟨journeys, regular⟩ := regular_run quiet errands schedule
  refine ⟨?_, ?_, ?_⟩
  · intro index call failure here failed
    refine ⟨?_, unnoted_of_fails store errands schedule here failed⟩
    rintro before after rfl
    obtain ⟨earlier, sound⟩ := (sound_start quiet errands).run before
    have failsLater : (((start store errands).run before).run (index :: after)).outcome? index =
        some (.error failure) := by
      rw [← run_append, outcome?, here]
      exact failed
    exact sound.tables_of_fails after failsLater
  · rintro index before after call id rfl ended here own
    obtain ⟨earlier, sound⟩ := (sound_start quiet errands).run before
    simp only [traffic, run_append] at ended regular ⊢
    exact sound.heldBy_of_ended here own after regular ended
  · intro finished
    have free := regular.free_of_finished finished
    exact ⟨free, fun first second distinct => Store.lock_both free distinct⟩

/-- The first call may not send, and the second one gets the locks that it waits for. -/
theorem failures_leave_no_trace_sample :
    let traffic := (start (.opened Sample.accounts)
      [Sample.errand "A" "B" 2 7 "R7", Sample.errand "B" "A" 2 8 "R8"]).run Sample.handover
    traffic.outcome? 0 = some (.error (.refused .notSender)) ∧
      (traffic.outcome? 1).isSome ∧ traffic.tables.transfers.length = 1 ∧
      (∀ call, traffic.calls[0]? = some call ->
        call.transcript.any Exchange.isNote = false) ∧
      ∀ iban, traffic.store.lockOf iban = .free := by
  intro traffic
  have failed : traffic.outcome? 0 = some (.error (.refused .notSender)) := by decide
  have finished : traffic.Finished := by decide
  obtain ⟨traceless, -, free⟩ := failures_leave_no_trace
    (Store.quiet_opened Sample.accounts)
    [Sample.errand "A" "B" 2 7 "R7", Sample.errand "B" "A" 2 8 "R8"] Sample.handover
  refine ⟨failed, finished 1 (by decide), by decide, ?_, (free finished).1⟩
  intro call here
  refine (traceless 0 call (.refused .notSender) here ?_).2
  rw [outcome?] at failed
  simpa [here] using failed

end Traffic
end Giro
