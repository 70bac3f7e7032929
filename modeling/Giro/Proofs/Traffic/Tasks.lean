import Giro.Bank.Schedule
import Giro.Proofs.Traffic.Steps

/-!
# Tasks are calls

The schedule of the bank runs a task until it ends or has to wait. To the store
that is a number of steps of one call, whose oracle says what the bank answers.
A call may be given such an oracle late: what has been run so far does not
depend on answers that are still to come. What a task leaves on the schedule
when it stops is where its call stands.
-/

namespace Giro

/-- An oracle that gives a certain answer to the question at one position. -/
def Oracle.with
    (oracle : Oracle)
    (position : Nat)
    (ask : OutsideAsk)
    (answer : ask.Answer) : Oracle := fun index question =>
  if here : index = position ∧ ask = question then here.2 ▸ answer
  else oracle index question

theorem Oracle.with_here
    (oracle : Oracle)
    (position : Nat)
    (ask : OutsideAsk)
    (answer : ask.Answer) :
    oracle.with position ask answer position ask = answer := by
  simp [Oracle.with]

theorem Oracle.with_before
    (oracle : Oracle)
    {position index : Nat}
    (ask : OutsideAsk)
    (answer : ask.Answer)
    (before : index < position) :
    oracle.with position ask answer index = oracle index := by
  funext question
  rw [Oracle.with, dif_neg]
  rintro ⟨rfl, -⟩
  exact Nat.lt_irrefl index before

/-! ## Answers that are still to come -/

namespace TransferCall

/-- The call with another oracle for what it is going to ask. -/
def retold (call : TransferCall) (told : Oracle) : TransferCall :=
  { call with oracle := told }

/-- A step keeps the oracle and all that was heard. -/
theorem advance_keeps (call : TransferCall) (store : Store) :
    (call.advance store).1.oracle = call.oracle ∧
      call.transcript.length <= (call.advance store).1.transcript.length := by
  cases stands : call.standing with
  | waiting id iban ask reply next =>
      rw [call.advance_waiting store stands]
      exact ⟨rfl, by simp [hear]⟩
  | active current script =>
      cases script with
      | done outcome =>
          rw [advance_done stands]
          exact ⟨rfl, Nat.le_refl _⟩
      | ask ask next =>
          cases ask with
          | outside ask =>
              rw [call.advance_outside store stands]
              exact ⟨rfl, by simp [hear]⟩
          | ledger ask =>
              rw [advance_ledger stands]
              cases store.serve current ask with
              | answered answer later after => exact ⟨rfl, by simp [receive, hear]⟩
              | waiting id iban reply after => exact ⟨rfl, Nat.le_refl _⟩

/-- A step does not depend on answers that come after it. -/
theorem advance_retold
    {call : TransferCall}
    {store : Store}
    {told : Oracle}
    (agrees : ∀ position < (call.advance store).1.transcript.length,
      told position = call.oracle position) :
    (call.retold told).advance store =
      ((call.advance store).1.retold told, (call.advance store).2) := by
  cases stands : call.standing with
  | waiting id iban ask reply next =>
      rw [call.advance_waiting store stands, (call.retold told).advance_waiting store stands]
      rfl
  | active current script =>
      cases script with
      | done outcome =>
          have again : (call.retold told).standing = .active current (.done outcome) := stands
          rw [advance_done stands, advance_done again]
      | ask ask next =>
          cases ask with
          | outside ask =>
              rw [call.advance_outside store stands] at agrees
              have same : told call.transcript.length = call.oracle call.transcript.length :=
                agrees _ (by simp [hear])
              have again := (call.retold told).advance_outside store stands
              have answer : (call.retold told).oracle (call.retold told).transcript.length =
                  call.oracle call.transcript.length := same
              rw [answer] at again
              rw [again, call.advance_outside store stands]
              rfl
          | ledger ask =>
              have again : (call.retold told).standing =
                  .active current (.ask (.ledger ask) next) := stands
              rw [advance_ledger stands, advance_ledger again]
              cases store.serve current ask <;> rfl

end TransferCall

namespace Traffic

/-- The traffic with another oracle for one of the calls. -/
def retold (traffic : Traffic) (index : Nat) (told : Oracle) : Traffic :=
  ⟨traffic.store, traffic.calls.modify index (fun call => call.retold told)⟩

/-- An entry that is written may as well not have been changed before. -/
theorem set_modify {α : Type} (values : List α) (index : Nat) (change : α -> α) (value : α) :
    (values.modify index change).set index value = values.set index value := by
  apply List.ext_getElem?
  grind

/-- An entry that is changed after it was written may be written as it is changed. -/
theorem modify_set {α : Type} (values : List α) (index : Nat) (change : α -> α) (value : α) :
    (values.set index value).modify index change = values.set index (change value) := by
  apply List.ext_getElem?
  grind

/-- Changes of different entries do not meet. -/
theorem set_modify_of_ne
    {α : Type}
    (values : List α)
    {index other : Nat}
    (different : index ≠ other)
    (change : α -> α)
    (value : α) :
    (values.modify index change).set other value =
      (values.set other value).modify index change := by
  apply List.ext_getElem?
  grind

/-- A step of traffic does not depend on answers that come after it. -/
theorem advance_retold
    {traffic : Traffic}
    {index : Nat}
    {told : Oracle}
    (turn : Nat)
    (agrees : ∀ call, (traffic.advance turn).calls[index]? = some call ->
      ∀ position < call.transcript.length, told position = call.oracle position) :
    (traffic.retold index told).advance turn = (traffic.advance turn).retold index told := by
  cases there : traffic.calls[turn]? with
  | none =>
      have absent : (traffic.retold index told).calls[turn]? = none := by
        simp [retold, List.getElem?_modify, there]
      rw [advance_of_absent there, advance_of_absent absent]
  | some call =>
      rw [advance_of_call there] at agrees ⊢
      by_cases own : turn = index
      · subst own
        have here : (traffic.retold turn told).calls[turn]? = some (call.retold told) := by
          simp [retold, there]
        have step := TransferCall.advance_retold fun position before =>
          (agrees _ (getElem?_set_here there _) position before).trans
            (congrFun (call.advance_keeps traffic.store).1 position)
        have same : (traffic.retold turn told).store = traffic.store := rfl
        rw [advance_of_call here, same, step]
        let change (call : TransferCall) := call.retold told
        exact congrArg (Traffic.mk _)
          ((set_modify traffic.calls turn change _).trans
            (modify_set traffic.calls turn change _).symm)
      · have here : (traffic.retold index told).calls[turn]? = some call := by
          simp [retold, there, Ne.symm own]
        rw [advance_of_call here]
        exact congrArg (Traffic.mk _) (set_modify_of_ne traffic.calls (Ne.symm own) _ _)

/-- A step of traffic keeps the oracle of a call and all that it heard. -/
theorem exists_of_advance
    {traffic : Traffic}
    {index : Nat}
    {call : TransferCall}
    (here : traffic.calls[index]? = some call)
    (turn : Nat) :
    ∃ later, (traffic.advance turn).calls[index]? = some later ∧ later.oracle = call.oracle ∧
      call.transcript.length <= later.transcript.length := by
  by_cases own : turn = index
  · subst own
    rw [advance_of_call here]
    exact ⟨_, getElem?_set_here here _, call.advance_keeps traffic.store⟩
  · refine ⟨call, ?_, rfl, Nat.le_refl _⟩
    cases there : traffic.calls[turn]? with
    | none => rw [advance_of_absent there, here]
    | some other => rw [advance_of_call there, List.getElem?_set_ne own, here]

/-- What has been run does not depend on answers that are still to come. -/
theorem run_retold
    {traffic : Traffic}
    {index : Nat}
    {told : Oracle}
    (schedule : List Nat)
    (agrees : ∀ call, (traffic.run schedule).calls[index]? = some call ->
      ∀ position < call.transcript.length, told position = call.oracle position) :
    (traffic.retold index told).run schedule = (traffic.run schedule).retold index told := by
  induction schedule using List.reverseRecOn with
  | nil => rfl
  | append_singleton schedule turn ih =>
      rw [run_append] at agrees ⊢
      rw [run_append, ih]
      · exact advance_retold turn agrees
      · intro call here position before
        obtain ⟨later, there, oracle, longer⟩ := exists_of_advance here turn
        rw [agrees later there position (Nat.lt_of_lt_of_le before longer), oracle]

end Traffic

/-! ## Steps of one call -/

/-- A call gets from one point to another by steps of its own. -/
inductive TransferCall.Reaches : TransferCall -> Store -> TransferCall -> Store -> Prop
  | stays (call : TransferCall) (store : Store) : Reaches call store call store
  | goes
      {call later : TransferCall}
      {store after : Store}
      (rest : Reaches (call.advance store).1 (call.advance store).2 later after) :
      Reaches call store later after

namespace TransferCall

variable {call later : TransferCall} {store after : Store} {current : Option TransactionId}

theorem reaches_of_outside
    {ask : OutsideAsk}
    {next : ask.Answer -> TransferScript (Except Failure Transfer)}
    {answer : ask.Answer}
    (stands : call.standing = .active current (.ask (.outside ask) next))
    (answers : call.oracle call.transcript.length ask = answer)
    (rest : Reaches (call.hear (.outside ask) answer (.active current (next answer))) store
      later after) :
    Reaches call store later after := by
  subst answers
  apply Reaches.goes
  rw [call.advance_outside store stands]
  exact rest

theorem reaches_of_answered
    {ask : LedgerAsk}
    {next : ask.Answer -> TransferScript (Except Failure Transfer)}
    {answer : ask.Answer}
    {opened : Option TransactionId}
    {middle : Store}
    (stands : call.standing = .active current (.ask (.ledger ask) next))
    (served : store.serve current ask = .answered answer opened middle)
    (rest : Reaches (call.hear (.ledger ask) answer (.active opened (next answer))) middle
      later after) :
    Reaches call store later after := by
  apply Reaches.goes
  rw [advance_answered stands served]
  exact rest

theorem reaches_of_delayed
    {ask : LedgerAsk}
    {next : ask.Answer -> TransferScript (Except Failure Transfer)}
    {id : TransactionId}
    {iban : String}
    {reply : Except Refusal (Option Account) -> ask.Answer}
    {middle : Store}
    (stands : call.standing = .active current (.ask (.ledger ask) next))
    (served : store.serve current ask = .waiting id iban reply middle)
    (rest : Reaches { call with standing := .waiting id iban ask reply next } middle
      later after) :
    Reaches call store later after := by
  apply Reaches.goes
  rw [advance_delayed stands served]
  exact rest

theorem reaches_of_waiting
    {ask : LedgerAsk}
    {next : ask.Answer -> TransferScript (Except Failure Transfer)}
    {id : TransactionId}
    {iban : String}
    {reply : Except Refusal (Option Account) -> ask.Answer}
    (stands : call.standing = .waiting id iban ask reply next)
    (rest : Reaches
      (call.hear (.ledger ask) (reply (store.endWait id iban).1)
        (.active (some id) (next (reply (store.endWait id iban).1))))
      (store.endWait id iban).2 later after) :
    Reaches call store later after := by
  apply Reaches.goes
  rw [call.advance_waiting store stands]
  exact rest

end TransferCall

/-- Steps of a call are turns of that call in traffic. -/
theorem Traffic.run_of_reaches
    {index : Nat}
    {call later : TransferCall}
    {store after : Store}
    (reaches : call.Reaches store later after)
    (traffic : Traffic)
    (here : traffic.calls[index]? = some call)
    (same : traffic.store = store) :
    ∃ turns, traffic.run (List.replicate turns index) =
      ⟨after, traffic.calls.set index later⟩ := by
  induction reaches generalizing traffic with
  | stays call store =>
      refine ⟨0, ?_⟩
      rw [set_of_getElem? here, ← same]
      rfl
  | goes rest ih =>
      subst same
      obtain ⟨turns, run⟩ := ih (traffic.advance index)
        (by rw [advance_of_call here]; exact getElem?_set_here here _)
        (by rw [advance_of_call here])
      refine ⟨turns + 1, ?_⟩
      rw [List.replicate_succ, run_cons, run, advance_of_call here, List.set_set]

/-! ## Tasks on the schedule -/

namespace Schedule

/-- Who has the next turn is told by the time and by who was called; the rest stays. -/
theorem exists_of_nextTurn?
    {schedule later : Schedule}
    {limit : Option Nat}
    {ticket : Nat}
    (next : schedule.nextTurn? limit = some (ticket, later)) :
    ∃ time ready, later = { schedule with time := time, ready := ready } := by
  rw [nextTurn?] at next
  cases called : schedule.ready with
  | cons first rest =>
      rw [called] at next
      cases next
      exact ⟨schedule.time, rest, rfl⟩
  | nil =>
      rw [called] at next
      obtain ⟨deadline, -, due⟩ := Option.bind_eq_some_iff.mp next
      split_ifs at due
      cases late : schedule.due deadline with
      | nil =>
          rw [late] at due
          cases due
      | cons first rest =>
          rw [late] at due
          cases due
          exact ⟨max schedule.time deadline, rest, rfl⟩

/-- The schedule with the result of a task. -/
def settle (schedule : Schedule) (id : Nat) (outcome : Except Failure Transfer) : Schedule :=
  { schedule with results := schedule.results.put id outcome }

/-- The schedule with a task that waits with a new ticket. -/
def delay
    (schedule : Schedule)
    (id : Nat)
    (transaction : TransactionId)
    (iban : String)
    (deadline : Nat)
    (next : Except Refusal (Option Account) -> TransferScript (Except Failure Transfer)) :
    Schedule :=
  { schedule with
    waits := schedule.waits ++ [⟨schedule.nextTicket, transaction, iban, deadline⟩]
    nextTicket := schedule.nextTicket + 1
    tasks := schedule.tasks ++ [⟨id, schedule.nextTicket, next⟩] }

/-- A task leaves its result on the schedule, or its wait and itself, just as its call stands. -/
inductive Leaves (before after : Schedule) (id : Nat) : Standing -> Prop
  | ended
      (current : Option TransactionId)
      (outcome : Except Failure Transfer)
      (same : after = before.settle id outcome) :
      Leaves before after id (.active current (.done outcome))
  | waits
      (transaction : TransactionId)
      (iban : String)
      (deadline : Nat)
      (ask : LedgerAsk)
      (reply : Except Refusal (Option Account) -> ask.Answer)
      (next : ask.Answer -> TransferScript (Except Failure Transfer))
      (same : after =
        before.delay id transaction iban deadline (fun result => next (reply result))) :
      Leaves before after id (.waiting transaction iban ask reply next)

end Schedule

namespace Bank

theorem serve_none
    (store : Store)
    (current : Option TransactionId)
    (ask : LedgerAsk) :
    Outage.none.serve store current ask = store.serve current ask := by
  cases ask <;> rfl

theorem answer_keeps (bank : Bank) (ask : OutsideAsk) :
    (bank.answer ask).2.store = bank.store ∧ (bank.answer ask).2.outage = bank.outage ∧
      (bank.answer ask).2.schedule = bank.schedule := by
  cases ask with
  | reference now =>
      simp only [answer, drawReference]
      split <;> exact ⟨rfl, rfl, rfl⟩
  | audit entry =>
      simp only [answer, audit]
      split <;> exact ⟨rfl, rfl, rfl⟩
  | _ => exact ⟨rfl, rfl, rfl⟩

/--
A call gets to where a task stops, with an oracle that says what the bank answers and that
agrees with another one on all that was asked before.
-/
structure Follows
    (bank after : Bank)
    (id : Nat)
    (oracle : Oracle)
    (transcript : List Exchange)
    (standing : Standing)
    (told : Oracle)
    (later : TransferCall) : Prop where
  agrees : ∀ position < transcript.length, told position = oracle position
  reaches : TransferCall.Reaches ⟨told, transcript, standing⟩ bank.store later after.store
  leaves : bank.schedule.Leaves after.schedule id later.standing
  working : after.outage = .none

/-- Whatever a task is answered by the bank, its oracle can have said. -/
theorem follows_runTask
    (id : Nat)
    (script : TransferScript (Except Failure Transfer))
    (bank : Bank)
    (current : Option TransactionId)
    (transcript : List Exchange)
    (oracle : Oracle)
    (working : bank.outage = .none) :
    ∃ told later, bank.Follows (bank.runTask id script current) id oracle transcript
      (.active current script) told later := by
  induction script generalizing bank current transcript oracle with
  | done outcome =>
      exact ⟨oracle, _, fun _ _ => rfl, .stays _ _, .ended current outcome rfl, working⟩
  | ask question next ih =>
      cases question with
      | outside ask =>
          obtain ⟨sameStore, sameOutage, sameSchedule⟩ := bank.answer_keeps ask
          obtain ⟨told, later, agrees, reaches, leaves, still⟩ :=
            ih (bank.answer ask).1 (bank.answer ask).2 current
              (transcript ++ [⟨.outside ask, (bank.answer ask).1⟩])
              (oracle.with transcript.length ask (bank.answer ask).1)
              (sameOutage.trans working)
          have answers : told transcript.length ask = (bank.answer ask).1 := by
            rw [agrees transcript.length (by simp), oracle.with_here]
          rw [sameStore] at reaches
          rw [sameSchedule] at leaves
          refine ⟨told, later, ?_, TransferCall.reaches_of_outside rfl answers reaches, leaves,
            still⟩
          intro position before
          rw [agrees position (by simp; omega), oracle.with_before ask _ before]
      | ledger ask =>
          have unspoilt : bank.outage.serve bank.store current ask =
              bank.store.serve current ask := by
            rw [working, serve_none]
          cases served : bank.store.serve current ask with
          | answered answer opened store =>
              rw [runTask, unspoilt, served]
              obtain ⟨told, later, agrees, reaches, leaves, still⟩ :=
                ih answer { bank with store := store } opened
                  (transcript ++ [⟨.ledger ask, answer⟩]) oracle working
              exact ⟨told, later, fun position before => agrees position (by simp; omega),
                TransferCall.reaches_of_answered rfl served reaches, leaves, still⟩
          | waiting transaction iban reply store =>
              rw [runTask, unspoilt, served]
              dsimp only
              split
              · obtain ⟨told, later, agrees, reaches, leaves, still⟩ :=
                  ih (reply (store.endWait transaction iban).1)
                    { bank with store := (store.endWait transaction iban).2 }
                    (some transaction)
                    (transcript ++ [⟨.ledger ask, reply (store.endWait transaction iban).1⟩])
                    oracle working
                exact ⟨told, later, fun position before => agrees position (by simp; omega),
                  TransferCall.reaches_of_delayed rfl served
                    (TransferCall.reaches_of_waiting rfl reaches), leaves, still⟩
              · exact ⟨oracle, _, fun _ _ => rfl,
                  TransferCall.reaches_of_delayed rfl served (.stays _ _),
                  .waits transaction iban _ ask reply next rfl, working⟩

end Bank
end Giro
