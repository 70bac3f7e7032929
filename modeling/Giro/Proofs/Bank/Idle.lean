import Giro.Bank.Operations
import Giro.Proofs.Traffic.Acceptance
import Giro.Proofs.Traffic.Tasks

/-!
# A bank where nobody is at work

Between two customers of a bank that has one at a time no lock is taken and nobody waits.
A transfer then never waits either: the bank carries it out to its end at once, and what
becomes of it is what is judged of the rows that it found. A receipt changes nothing in
the ledger. So after each of them the bank is as it was before, without anybody at work.
-/

namespace Giro

theorem Table.exists_absent {α : Type} (table : Table Nat α) : ∃ key, table.get? key = none := by
  obtain ⟨key, absent⟩ := Infinite.exists_notMem_finset (table.rows.map Prod.fst).toFinset
  rw [List.mem_toFinset] at absent
  refine ⟨key, ?_⟩
  rw [Table.get?, Option.map_eq_none_iff, List.find?_eq_none]
  intro row member same
  exact absent (List.mem_map.mpr ⟨row, member, by simpa using same⟩)

namespace Traffic

/-- Turns that change nothing may be left out. -/
theorem run_replicate_of_idle
    {traffic : Traffic}
    {index : Nat}
    (idle : traffic.advance index = traffic)
    (turns : Nat) :
    traffic.run (List.replicate turns index) = traffic := by
  induction turns with
  | zero => rfl
  | succ turns ih => rw [List.replicate_succ, run_cons, idle, ih]

section

variable {store : Store} {call : TransferCall}

/-- A call that is alone on a store does not wait, however many turns it has had. -/
theorem active_of_alone
    (quiet : store.Quiet)
    (errand : Errand)
    (turns : Nat)
    (known : ((start store [errand]).run (List.replicate turns 0)).calls[0]? = some call) :
    ∃ current script, call.standing = .active current script := by
  have here : ([errand].map Journey.outset)[0]? = some ⟨errand, errand.outset⟩ := rfl
  have there : (start store [errand]).calls[0]? = some errand.call := rfl
  have alone : errand.outset.Alone (start store [errand]).store errand.call :=
    errand.alone_outset quiet.unlocked
  obtain ⟨progress, same, found, still⟩ :=
    (sound_start quiet [errand]).alone_run turns here there alone
  obtain rfl := Option.some.inj (found.symm.trans known)
  obtain ⟨current, stands⟩ := still.active
  exact ⟨current, progress.script, stands⟩

/-- Once it is over, it has become what is judged of it, and the store is quiet again. -/
theorem settles_of_done
    (quiet : store.Quiet)
    (errand : Errand)
    (turns : Nat)
    {current : Option TransactionId}
    {outcome : Except Failure Transfer}
    (known : ((start store [errand]).run (List.replicate turns 0)).calls[0]? = some call)
    (stands : call.standing = .active current (.done outcome)) :
    store.tables.Settles errand outcome
        ((start store [errand]).run (List.replicate turns 0)).tables ∧
      ((start store [errand]).run (List.replicate turns 0)).store.Quiet := by
  have idle : ((start store [errand]).run (List.replicate turns 0)).advance 0 =
      (start store [errand]).run (List.replicate turns 0) := by
    rw [advance_of_call known, TransferCall.advance_done stands, set_of_getElem? known]
  have longer : (start store [errand]).run (List.replicate (turns + 15) 0) =
      (start store [errand]).run (List.replicate turns 0) := by
    rw [List.replicate_add, run_append, run_replicate_of_idle idle]
  have enough : 15 <= turns + 15 := Nat.le_add_left 15 turns
  have here : ([errand].map Journey.outset)[0]? = some ⟨errand, errand.outset⟩ := rfl
  have there : (start store [errand]).calls[0]? = some errand.call := rfl
  obtain ⟨verdict, decided, settles⟩ := settles_alone quiet errand enough
  obtain ⟨_, _, sound, free, -⟩ := (sound_start quiet [errand]).run_alone (turns + 15) here there
    (errand.alone_outset quiet.unlocked) (errand.remaining_outset.trans enough)
  rw [longer] at decided settles sound free
  have same : verdict = outcome := by
    rw [outcome?, known] at decided
    simpa [TransferCall.outcome?, stands, eq_comm] using decided
  exact ⟨same ▸ settles, sound.orderly, sound.keyed, free⟩

end

end Traffic

namespace Bank

/-- A bank whose ledger works, and on which nobody is at work. -/
structure Idle (bank : Bank) : Prop where
  working : bank.outage = .none
  quiet : bank.store.Quiet
  unattended : bank.schedule.waits = []

/-- Whatever else has changed, the ledger and those who wait for it are as they were. -/
structure SameLedger (before after : Bank) : Prop where
  store : after.store = before.store
  outage : after.outage = before.outage
  waits : after.schedule.waits = before.schedule.waits

namespace SameLedger

variable {before middle after : Bank}

theorem refl (bank : Bank) : SameLedger bank bank := ⟨rfl, rfl, rfl⟩

theorem trans (left : SameLedger before middle) (right : SameLedger middle after) :
    SameLedger before after where
  store := right.store.trans left.store
  outage := right.outage.trans left.outage
  waits := right.waits.trans left.waits

theorem idle (same : SameLedger before after) (idle : before.Idle) : after.Idle where
  working := same.outage.trans idle.working
  quiet := same.store ▸ idle.quiet
  unattended := same.waits.trans idle.unattended

end SameLedger

theorem idle_opened (clock : Instant) : (opened clock).Idle where
  working := rfl
  quiet := Store.quiet_empty
  unattended := rfl

/-- Nobody gets to work by administration. -/
theorem Idle.administer
    {bank : Bank}
    (idle : bank.Idle)
    {change : Tables -> Tables}
    (keyed : (change bank.store.tables).Keyed) :
    (bank.administer change).Idle where
  working := idle.working
  quiet := idle.quiet.administer keyed
  unattended := idle.unattended

/-! ## Transfers -/

/--
A script that comes to its end as a task without a wait is performed to the same end. That
it has come to its end shows in a result under a number that had none.
-/
theorem perform_of_runTask
    {id : Nat}
    (script : TransferScript (Except Failure Transfer))
    (bank : Bank)
    (current : Option TransactionId)
    {outcome : Except Failure Transfer}
    (absent : bank.schedule.results.get? id = none)
    (ended : (bank.runTask id script current).schedule.results.get? id = some outcome) :
    (bank.perform script current).1 = outcome ∧
      (bank.perform script current).2.2.store = (bank.runTask id script current).store ∧
      (bank.perform script current).2.2.outage = bank.outage ∧
      (bank.perform script current).2.2.schedule.waits = bank.schedule.waits := by
  induction script generalizing bank current with
  | done value =>
      have same : value = outcome := by simpa [runTask, Table.get?_put] using ended
      exact ⟨same, rfl, rfl, rfl⟩
  | ask question next ih =>
      cases question with
      | outside ask =>
          obtain ⟨-, outage, schedule⟩ := bank.answer_keeps ask
          have rest := ih (bank.answer ask).1 (bank.answer ask).2 current (schedule ▸ absent) ended
          rw [outage, schedule] at rest
          exact rest
      | ledger ask =>
          rw [runTask] at ended ⊢
          rw [perform]
          cases served : bank.outage.serve bank.store current ask with
          | answered answer later store =>
              rw [served] at ended
              exact ih answer { bank with store := store } later absent ended
          | waiting transaction iban reply store =>
              rw [served] at ended
              dsimp only at ended ⊢
              by_cases impatient : bank.lockTimeout = 0
              · have awaited : { bank with store := store }.awaitLock transaction iban =
                    { bank with store := store }.endWait transaction iban := if_pos impatient
                rw [if_pos impatient] at ended ⊢
                rw [awaited]
                exact ih _ { bank with store := (store.endWait transaction iban).2 }
                  (some transaction) absent ended
              · -- A task that waits has no result.
                rw [if_neg impatient] at ended
                exact absurd (absent.symm.trans ended) (by simp)

theorem transfer_eq (bank : Bank) (request : TransferRequest) (caller : Caller) :
    bank.transfer request caller =
      ((bank.perform (transferScript request caller) none).1,
        (bank.perform (transferScript request caller) none).2.2) := by
  rw [Bank.transfer]

/--
A transfer on a bank where nobody is at work becomes what is judged of it, whatever the
clock and the sources of codes say, and leaves the bank without anybody at work.
-/
theorem Idle.transfer
    {bank : Bank}
    (idle : bank.Idle)
    (request : TransferRequest)
    (caller : Caller) :
    ∃ oracle,
      bank.store.tables.Settles ⟨request, caller, oracle⟩ (bank.transfer request caller).1
          (bank.transfer request caller).2.store.tables ∧
        (bank.transfer request caller).2.Idle := by
  obtain ⟨id, absent⟩ := bank.schedule.results.exists_absent
  obtain ⟨oracle, call, -, reaches, leaves, -⟩ :=
    follows_runTask id (transferScript request caller) bank none []
      (fun _ ask => (bank.answer ask).1) idle.working
  refine ⟨oracle, ?_⟩
  generalize identity : (⟨request, caller, oracle⟩ : Errand) = errand
  have begins : (⟨oracle, [], .active none (transferScript request caller)⟩ : TransferCall) =
      errand.call := by
    rw [← identity]
    rfl
  rw [begins] at reaches
  have there : (Traffic.start bank.store [errand]).calls[0]? = some errand.call := rfl
  obtain ⟨turns, run⟩ := Traffic.run_of_reaches reaches _ there rfl
  have known : ((Traffic.start bank.store [errand]).run (List.replicate turns 0)).calls[0]? =
      some call := by
    rw [run]
    exact Traffic.getElem?_set_here there call
  -- The call has not come to wait, so it has come to its end.
  obtain ⟨current, script, stands⟩ := Traffic.active_of_alone idle.quiet errand turns known
  rw [stands] at leaves
  cases leaves with
  | ended _ outcome left =>
      have result :
          (bank.runTask id (transferScript request caller) none).schedule.results.get? id =
            some outcome := by
        rw [left, Schedule.settle, Table.get?_put, if_pos rfl]
      obtain ⟨settles, quiet⟩ := Traffic.settles_of_done idle.quiet errand turns known stands
      obtain ⟨performed, store, outage, waits⟩ :=
        perform_of_runTask (transferScript request caller) bank none absent result
      have same : (bank.runTask id (transferScript request caller) none).store =
          ((Traffic.start bank.store [errand]).run (List.replicate turns 0)).store := by
        rw [run]
      rw [transfer_eq]
      generalize bank.perform (transferScript request caller) none = performance
        at performed store outage waits ⊢
      rw [performed]
      refine ⟨?_, outage.trans idle.working, ?_, waits.trans idle.unattended⟩
      · rw [store, same]
        exact settles
      · rw [store, same]
        exact quiet

/-! ## Receipts -/

/-- Where nobody waits a turn is nobody's. -/
theorem takeTurn_of_unattended
    {bank : Bank}
    (unattended : bank.schedule.waits = [])
    (ticket : Nat) :
    bank.takeTurn ticket = bank := by
  have nobody : bank.schedule.wait? ticket = none := by
    rw [Schedule.wait?, unattended]
    rfl
  rw [takeTurn, nobody]

/-- Where nobody waits there are no turns to be given. -/
theorem sameLedger_giveTurns
    {bank : Bank}
    (unattended : bank.schedule.waits = [])
    (limit : Option Nat)
    (wanted : Bank -> Bool)
    (turns : Nat) :
    SameLedger bank (giveTurns limit wanted turns bank) := by
  induction turns generalizing bank with
  | zero => exact .refl bank
  | succ turns ih =>
      rw [giveTurns]
      split_ifs
      · exact .refl bank
      · cases next : bank.schedule.nextTurn? limit with
        | none => exact .refl bank
        | some turn =>
            obtain ⟨ticket, schedule⟩ := turn
            obtain ⟨time, ready, rfl⟩ := Schedule.exists_of_nextTurn? next
            have chosen : SameLedger bank
                { bank with schedule := { bank.schedule with time := time, ready := ready } } :=
              ⟨rfl, rfl, rfl⟩
            dsimp only
            rw [takeTurn_of_unattended (chosen.waits.trans unattended) ticket]
            exact chosen.trans (ih unattended)

theorem sameLedger_elapse
    {bank : Bank}
    (unattended : bank.schedule.waits = [])
    (millis : Nat) :
    SameLedger bank (bank.elapse millis) := by
  obtain ⟨store, outage, waits⟩ := sameLedger_giveTurns unattended
    (some (bank.schedule.time + millis)) (fun _ => false) bank.turnsLeft
  exact ⟨store, outage, waits⟩

/-- Whatever issuing a receipt asks for, the ledger has nothing to do with it. -/
theorem sameLedger_answerReceipt
    {bank : Bank}
    (unattended : bank.schedule.waits = [])
    (patience : Option Nat)
    (ask : ReceiptAsk) :
    SameLedger bank (bank.answerReceipt patience ask).2 := by
  cases ask with
  | allowed =>
      rw [answerReceipt]
      split <;> exact ⟨rfl, rfl, rfl⟩
  | render details =>
      rw [answerReceipt]
      generalize bank.printer.render details = printed
      obtain ⟨rendering | rendering, printer⟩ := printed
      · have printed : SameLedger bank { bank with printer := printer } := ⟨rfl, rfl, rfl⟩
        have printing : { bank with printer := printer }.schedule.waits = [] := unattended
        exact printed.trans (sameLedger_elapse printing _)
      · exact ⟨rfl, rfl, rfl⟩
  | succeeded => exact ⟨rfl, rfl, rfl⟩
  | failed => exact ⟨rfl, rfl, rfl⟩
  | pause delay attempt =>
      have pausing : { bank with pauses := bank.pauses ++ [(delay, attempt)] }.schedule.waits =
          [] := unattended
      have paused : SameLedger bank { bank with pauses := bank.pauses ++ [(delay, attempt)] } :=
        ⟨rfl, rfl, rfl⟩
      rw [answerReceipt]
      by_cases patient : patience.all (fun limit => bank.schedule.time + delay <= limit) = true
      · simp only [patient]
        exact paused.trans (sameLedger_elapse pausing _)
      · simp only [patient]
        exact paused.trans (sameLedger_elapse pausing _)

theorem sameLedger_performReceipt
    {α : Type}
    {bank : Bank}
    (unattended : bank.schedule.waits = [])
    (patience : Option Nat)
    (script : ReceiptScript α) :
    SameLedger bank (performReceipt patience script bank).2 := by
  induction script generalizing bank with
  | done value => exact .refl bank
  | ask ask next ih =>
      have here := sameLedger_answerReceipt unattended patience ask
      rw [performReceipt]
      generalize bank.answerReceipt patience ask = answered at here
      obtain ⟨answer | answer, later⟩ := answered
      · exact here
      · exact here.trans (ih answer (here.waits.trans unattended))

theorem sameLedger_receipt
    {bank : Bank}
    (unattended : bank.schedule.waits = [])
    (id : Int)
    (caller : Caller)
    (timeout : Option Nat) :
    SameLedger bank (bank.receipt id caller timeout).2 :=
  sameLedger_performReceipt unattended _ _

end Bank
end Giro
