import Giro.Bank.Operations
import Giro.Proofs.Ledger.Reconciliation
import Giro.Proofs.Traffic.Tasks

/-!
# Tasks on the side

Transfers that are started as tasks are worked through by the schedule of the bank: a task
runs until it has to wait, and goes on when its lock is handed over or its time is up. All
of this is traffic: there is an order of turns in which the calls of these transfers leave
the store as the tasks do, and come to the same ends. So whatever holds of all traffic holds
of the tasks of a bank.

The schedule is looked at through what it finds under tickets and numbers of tasks. Each
ticket belongs to one task and each task to one call, and a task waits exactly as its call
does or has the result that its call has come to. A turn puts one call to work, which then
has neither, until its task stops again.
-/

namespace Giro

/-! ## Tickets -/

section Entries

variable {α : Type} (items : List α) (key : α -> Nat)

/-- A new item is found under its key, every other item as before. -/
theorem find?_append_new
    (item : α)
    (absent : items.find? (fun entry => key entry = key item) = none)
    (wanted : Nat) :
    (items ++ [item]).find? (fun entry => key entry = wanted) =
      if wanted = key item then some item
      else items.find? (fun entry => key entry = wanted) := by
  rw [List.find?_append]
  by_cases here : wanted = key item
  · subst here
    simp [absent]
  · simp [here, Ne.symm here]

/-- Nothing is found under a key that was removed, every other item as before. -/
theorem find?_filter_key (removed wanted : Nat) :
    (items.filter (fun entry => key entry != removed)).find? (fun entry => key entry = wanted) =
      if wanted = removed then none else items.find? (fun entry => key entry = wanted) := by
  induction items with
  | nil => simp
  | cons item rest ih =>
      by_cases gone : key item = removed
      · rw [List.filter_cons_of_neg (by simp [gone]), ih, List.find?_cons]
        by_cases here : wanted = removed
        · simp [here]
        · simp [here, gone, Ne.symm here]
      · rw [List.filter_cons_of_pos (by simp [gone]), List.find?_cons, ih, List.find?_cons]
        by_cases here : key item = wanted
        · simp [here, here ▸ gone]
        · simp [here]

end Entries

namespace Schedule

variable {schedule after : Schedule} {ticket id : Nat} {standing : Standing}

theorem wait?_withdraw (schedule : Schedule) (ticket other : Nat) :
    (schedule.withdraw ticket).wait? other =
      if other = ticket then none else schedule.wait? other :=
  find?_filter_key schedule.waits Wait.ticket ticket other

theorem task?_withdraw (schedule : Schedule) (ticket other : Nat) :
    (schedule.withdraw ticket).task? other =
      if other = ticket then none else schedule.task? other :=
  find?_filter_key schedule.tasks Task.ticket ticket other

/-- The same is found under a ticket. -/
def SameAt (before after : Schedule) (ticket : Nat) : Prop :=
  after.wait? ticket = before.wait? ticket ∧ after.task? ticket = before.task? ticket

/-- Nothing is found under a ticket. -/
def Unused (schedule : Schedule) (ticket : Nat) : Prop :=
  schedule.wait? ticket = none ∧ schedule.task? ticket = none

theorem sameAt_withdraw (schedule : Schedule) {other : Nat} (different : other ≠ ticket) :
    schedule.SameAt (schedule.withdraw ticket) other := by
  rw [SameAt, wait?_withdraw, task?_withdraw, if_neg different, if_neg different]
  exact ⟨rfl, rfl⟩

theorem unused_withdraw (schedule : Schedule) (ticket : Nat) :
    (schedule.withdraw ticket).Unused ticket := by
  rw [Unused, wait?_withdraw, task?_withdraw, if_pos rfl, if_pos rfl]
  exact ⟨rfl, rfl⟩

theorem SameAt.unused (same : schedule.SameAt after ticket) (unused : schedule.Unused ticket) :
    after.Unused ticket :=
  ⟨same.1.trans unused.1, same.2.trans unused.2⟩

/-- A task waits with a ticket, just as its call does. -/
inductive Delays (schedule : Schedule) (ticket id : Nat) : Standing -> Prop
  | waits
      (wait : Wait)
      (ask : LedgerAsk)
      (reply : Except Refusal (Option Account) -> ask.Answer)
      (next : ask.Answer -> TransferScript (Except Failure Transfer))
      (entered : schedule.wait? ticket = some wait)
      (task : schedule.task? ticket = some ⟨id, ticket, fun result => next (reply result)⟩) :
      Delays schedule ticket id (.waiting wait.transaction wait.iban ask reply next)

/-- A task is over or waits, just as its call is over or waits. -/
inductive Keeps (schedule : Schedule) (id : Nat) : Standing -> Prop
  | ended
      (current : Option TransactionId)
      (outcome : Except Failure Transfer)
      (result : schedule.results.get? id = some outcome) :
      Keeps schedule id (.active current (.done outcome))
  | waits
      {standing : Standing}
      (ticket : Nat)
      (delays : schedule.Delays ticket id standing)
      (unended : schedule.results.get? id = none) :
      Keeps schedule id standing

theorem Delays.of_same
    (delays : schedule.Delays ticket id standing)
    (same : schedule.SameAt after ticket) :
    after.Delays ticket id standing := by
  cases delays with
  | waits wait ask reply next entered task =>
      exact .waits wait ask reply next (same.1.trans entered) (same.2.trans task)

theorem Keeps.of_same
    (keeps : schedule.Keeps id standing)
    (same : ∀ ticket, schedule.Delays ticket id standing -> schedule.SameAt after ticket)
    (results : after.results.get? id = schedule.results.get? id) :
    after.Keeps id standing := by
  cases keeps with
  | ended current outcome result => exact .ended current outcome (results.trans result)
  | waits ticket delays unended =>
      exact .waits ticket (delays.of_same (same ticket delays)) (results.trans unended)

theorem Delays.exists_task (delays : schedule.Delays ticket id standing) :
    ∃ task, schedule.task? ticket = some task ∧ task.id = id := by
  cases delays with
  | waits wait ask reply next entered task => exact ⟨_, task, rfl⟩

/-- Nobody waits with a ticket under which nothing is found. -/
theorem Delays.ne_of_unused
    {other : Nat}
    (delays : schedule.Delays other id standing)
    (unused : schedule.Unused ticket) :
    other ≠ ticket := by
  rintro rfl
  obtain ⟨task, found, -⟩ := delays.exists_task
  rw [unused.2] at found
  cases found

/-- No two calls wait with one ticket. -/
theorem Delays.id_eq
    {other : Nat}
    {elsewhere : Standing}
    (delays : schedule.Delays ticket id standing)
    (again : schedule.Delays ticket other elsewhere) :
    id = other := by
  obtain ⟨task, found, named⟩ := delays.exists_task
  obtain ⟨same, there, renamed⟩ := again.exists_task
  rw [found] at there
  cases there
  exact named.symm.trans renamed

/-- Who waits has no result. -/
theorem Keeps.unended
    {other : Nat}
    (keeps : schedule.Keeps id standing)
    (delays : schedule.Delays ticket other standing) :
    schedule.results.get? id = none := by
  cases keeps with
  | ended => cases delays
  | waits _ _ unended => exact unended

section Delay

variable (transaction : TransactionId) (iban : String) (deadline : Nat)
variable (resume : Except Refusal (Option Account) -> TransferScript (Except Failure Transfer))

/-- A task that waits from now on is the only one with a new ticket. -/
theorem find?_delay
    (unissued : schedule.Unused schedule.nextTicket)
    (id ticket : Nat) :
    (schedule.delay id transaction iban deadline resume).wait? ticket =
        (if ticket = schedule.nextTicket then
          some ⟨schedule.nextTicket, transaction, iban, deadline⟩
        else schedule.wait? ticket) ∧
      (schedule.delay id transaction iban deadline resume).task? ticket =
        if ticket = schedule.nextTicket then some ⟨id, schedule.nextTicket, resume⟩
        else schedule.task? ticket :=
  ⟨find?_append_new schedule.waits Wait.ticket ⟨schedule.nextTicket, transaction, iban, deadline⟩
      unissued.1 ticket,
    find?_append_new schedule.tasks Task.ticket ⟨id, schedule.nextTicket, resume⟩
      unissued.2 ticket⟩

theorem sameAt_delay
    (unissued : schedule.Unused schedule.nextTicket)
    (id : Nat)
    (old : ticket ≠ schedule.nextTicket) :
    schedule.SameAt (schedule.delay id transaction iban deadline resume) ticket := by
  obtain ⟨wait, task⟩ := find?_delay transaction iban deadline resume unissued id ticket
  exact ⟨wait.trans (if_neg old), task.trans (if_neg old)⟩

theorem delays_delay
    {ask : LedgerAsk}
    (reply : Except Refusal (Option Account) -> ask.Answer)
    (next : ask.Answer -> TransferScript (Except Failure Transfer))
    (unissued : schedule.Unused schedule.nextTicket)
    (id : Nat) :
    (schedule.delay id transaction iban deadline (fun result => next (reply result))).Delays
      schedule.nextTicket id (.waiting transaction iban ask reply next) := by
  obtain ⟨wait, task⟩ := find?_delay transaction iban deadline (fun result => next (reply result))
    unissued id schedule.nextTicket
  exact .waits ⟨schedule.nextTicket, transaction, iban, deadline⟩ ask reply next
    (wait.trans (if_pos rfl)) (task.trans (if_pos rfl))

end Delay

/--
A schedule attends to calls, the first of which has a given number as a task. One of them
may be at work: it has neither a ticket nor a result.
-/
structure Attends
    (schedule : Schedule)
    (first : Nat)
    (calls : List TransferCall)
    (busy : Option Nat) : Prop where
  numbered : schedule.nextTask = first + calls.length
  unissued : ∀ ticket, schedule.nextTicket <= ticket -> schedule.Unused ticket
  owned : ∀ ticket, schedule.Unused ticket ∨ ∃ index call,
    some index ≠ busy ∧ calls[index]? = some call ∧
      schedule.Delays ticket (first + index) call.standing
  single : ∀ ticket other task same,
    schedule.task? ticket = some task -> schedule.task? other = some same ->
      task.id = same.id -> ticket = other
  kept : ∀ index call, some index ≠ busy -> calls[index]? = some call ->
    schedule.Keeps (first + index) call.standing
  unended : ∀ id, first + calls.length <= id ∨ (∃ index, busy = some index ∧ id = first + index) ->
    schedule.results.get? id = none

variable {first index : Nat} {calls : List TransferCall} {busy : Option Nat}

/-- What is not looked at may change. -/
theorem Attends.of_same
    (attends : schedule.Attends first calls busy)
    (waits : after.waits = schedule.waits)
    (tasks : after.tasks = schedule.tasks)
    (results : after.results = schedule.results)
    (nextTicket : after.nextTicket = schedule.nextTicket)
    (nextTask : after.nextTask = schedule.nextTask) :
    after.Attends first calls busy := by
  have same (ticket : Nat) : schedule.SameAt after ticket := by
    rw [SameAt, wait?, wait?, task?, task?, waits, tasks]
    exact ⟨rfl, rfl⟩
  refine ⟨nextTask.trans attends.numbered, ?_, ?_, ?_, ?_, ?_⟩
  · exact fun ticket late => (same ticket).unused (attends.unissued ticket (nextTicket ▸ late))
  · intro ticket
    rcases attends.owned ticket with unused | ⟨index, call, apart, here, delays⟩
    · exact .inl ((same ticket).unused unused)
    · exact .inr ⟨index, call, apart, here, delays.of_same (same ticket)⟩
  · intro ticket other task again found there
    exact attends.single ticket other task again ((same ticket).2 ▸ found) ((same other).2 ▸ there)
  · intro index call apart here
    exact (attends.kept index call apart here).of_same (fun ticket _ => same ticket)
      (by rw [results])
  · intro id free
    rw [results]
    exact attends.unended id free

/-- A call whose task has its turn is at work. -/
theorem Attends.withdraw
    {call : TransferCall}
    (attends : schedule.Attends first calls none)
    (here : calls[index]? = some call)
    (delays : schedule.Delays ticket (first + index) call.standing) :
    (schedule.withdraw ticket).Attends first calls (some index) := by
  have others {other : Nat} {elsewhere : Nat} {standing : Standing}
      (apart : some elsewhere ≠ some index)
      (waits : schedule.Delays other (first + elsewhere) standing) :
      schedule.SameAt (schedule.withdraw ticket) other := by
    refine sameAt_withdraw schedule fun same => apart ?_
    subst same
    exact congrArg some (Nat.add_left_cancel (waits.id_eq delays))
  refine ⟨attends.numbered, ?_, ?_, ?_, ?_, ?_⟩
  · intro other late
    by_cases gone : other = ticket
    · exact gone ▸ schedule.unused_withdraw ticket
    · exact (sameAt_withdraw schedule gone).unused (attends.unissued other late)
  · intro other
    by_cases gone : other = ticket
    · exact .inl (gone ▸ schedule.unused_withdraw ticket)
    have same := sameAt_withdraw schedule gone
    rcases attends.owned other with unused | ⟨elsewhere, another, -, there, waits⟩
    · exact .inl (same.unused unused)
    refine .inr ⟨elsewhere, another, fun own => gone ?_, there, waits.of_same same⟩
    -- A task has no second ticket.
    obtain ⟨task, found, named⟩ := waits.exists_task
    obtain ⟨first, withdrawn, renamed⟩ := delays.exists_task
    rw [Option.some.inj own] at named
    exact attends.single other ticket task first found withdrawn (named.trans renamed.symm)
  · intro one other task same found there
    rw [task?_withdraw] at found there
    split_ifs at found there
    exact attends.single one other task same found there
  · intro elsewhere another apart there
    exact (attends.kept elsewhere another nofun there).of_same (fun _ => others apart) rfl
  · rintro id (new | ⟨_, ⟨⟩, rfl⟩)
    · exact attends.unended id (.inl new)
    · exact (attends.kept index call nofun here).unended delays

/-- A call that is started is at work. -/
theorem Attends.start
    (attends : schedule.Attends first calls none)
    (call : TransferCall)
    (names : Table String Nat) :
    { schedule with names := names, nextTask := schedule.nextTask + 1 }.Attends first
      (calls ++ [call]) (some calls.length) := by
  have length : (calls ++ [call]).length = calls.length + 1 := List.length_append
  refine ⟨?_, attends.unissued, ?_, attends.single, ?_, ?_⟩
  · rw [length, ← Nat.add_assoc, ← attends.numbered]
  · intro ticket
    rcases attends.owned ticket with unused | ⟨index, known, -, here, delays⟩
    · exact .inl unused
    have within := (List.getElem?_eq_some_iff.mp here).1
    refine .inr ⟨index, known, fun last => ?_, ?_, delays.of_same ⟨rfl, rfl⟩⟩
    · exact Nat.ne_of_lt within (Option.some.inj last)
    · rw [List.getElem?_append_left within, here]
  · intro index known apart here
    have within : index < calls.length := by
      have := (List.getElem?_eq_some_iff.mp here).1
      have : index ≠ calls.length := fun last => apart (congrArg some last)
      omega
    rw [List.getElem?_append_left within] at here
    exact (attends.kept index known nofun here).of_same (fun _ _ => ⟨rfl, rfl⟩) rfl
  · intro id free
    refine attends.unended id (.inl ?_)
    rcases free with new | ⟨index, last, rfl⟩
    · omega
    · rw [Option.some.inj last]

section AtWork

variable {later : TransferCall}

/-- The other calls stay where they are. -/
theorem getElem?_set_of_apart
    {other : Nat}
    (apart : some other ≠ some index) :
    (calls.set index later)[other]? = calls[other]? :=
  List.getElem?_set_ne fun same => apart (congrArg some same.symm)

/-- A call that was at work and has come to its end has a result. -/
theorem Attends.ends
    {current : Option TransactionId}
    {outcome : Except Failure Transfer}
    (attends : schedule.Attends first calls (some index))
    (within : index < calls.length)
    (stands : later.standing = .active current (.done outcome)) :
    (schedule.settle (first + index) outcome).Attends first (calls.set index later) none := by
  have length : (calls.set index later).length = calls.length := List.length_set
  refine ⟨?_, attends.unissued, ?_, attends.single, ?_, ?_⟩
  · rw [length]
    exact attends.numbered
  · intro ticket
    rcases attends.owned ticket with unused | ⟨other, call, apart, here, delays⟩
    · exact .inl unused
    · exact .inr ⟨other, call, nofun, (getElem?_set_of_apart apart).trans here,
        delays.of_same ⟨rfl, rfl⟩⟩
  · intro other call _ here
    by_cases apart : some other = some index
    · cases apart
      rw [List.getElem?_set_self within] at here
      cases here
      rw [stands]
      exact .ended current outcome (by simp [settle, Table.get?_put])
    · rw [getElem?_set_of_apart apart] at here
      refine (attends.kept other call apart here).of_same (fun _ _ => ⟨rfl, rfl⟩) ?_
      rw [settle, Table.get?_put,
        if_neg fun same => apart (congrArg some (Nat.add_left_cancel same).symm)]
  · rintro id (new | ⟨_, ⟨⟩, -⟩)
    rw [length] at new
    rw [settle, Table.get?_put, if_neg (by omega)]
    exact attends.unended id (.inl new)

/-- No task on the schedule is that of the call at work. -/
theorem Attends.id_ne
    {task : Task}
    (attends : schedule.Attends first calls (some index))
    (found : schedule.task? ticket = some task) :
    task.id ≠ first + index := by
  intro named
  rcases attends.owned ticket with unused | ⟨other, call, apart, -, delays⟩
  · rw [unused.2] at found
    cases found
  · obtain ⟨same, there, renamed⟩ := delays.exists_task
    rw [found] at there
    cases there
    exact apart (congrArg some (Nat.add_left_cancel (renamed.symm.trans named)))

/-- No two tasks have one number, nor does one that waits from now on. -/
theorem Attends.single_delay
    {transaction : TransactionId}
    {iban : String}
    {deadline one two : Nat}
    {resume : Except Refusal (Option Account) -> TransferScript (Except Failure Transfer)}
    {task again : Task}
    (attends : schedule.Attends first calls (some index))
    (found : (schedule.delay (first + index) transaction iban deadline resume).task? one =
      some task)
    (there : (schedule.delay (first + index) transaction iban deadline resume).task? two =
      some again)
    (named : task.id = again.id) :
    one = two := by
  have unissued := attends.unissued schedule.nextTicket (Nat.le_refl _)
  rw [(find?_delay _ _ _ _ unissued _ _).2] at found there
  by_cases oneNew : one = schedule.nextTicket
  · by_cases twoNew : two = schedule.nextTicket
    · rw [oneNew, twoNew]
    · rw [if_pos oneNew] at found
      rw [if_neg twoNew] at there
      cases found
      exact absurd named.symm (attends.id_ne there)
  · rw [if_neg oneNew] at found
    by_cases twoNew : two = schedule.nextTicket
    · rw [if_pos twoNew] at there
      cases there
      exact absurd named (attends.id_ne found)
    · rw [if_neg twoNew] at there
      exact attends.single one two task again found there named

/-- A call that was at work and has come to wait has a new ticket. -/
theorem Attends.waits
    {transaction : TransactionId}
    {iban : String}
    {ask : LedgerAsk}
    {reply : Except Refusal (Option Account) -> ask.Answer}
    {next : ask.Answer -> TransferScript (Except Failure Transfer)}
    (attends : schedule.Attends first calls (some index))
    (within : index < calls.length)
    (stands : later.standing = .waiting transaction iban ask reply next)
    (deadline : Nat) :
    (schedule.delay (first + index) transaction iban deadline
      (fun result => next (reply result))).Attends first (calls.set index later) none := by
  have length : (calls.set index later).length = calls.length := List.length_set
  have unissued := attends.unissued schedule.nextTicket (Nat.le_refl _)
  have same {ticket : Nat} (old : ticket ≠ schedule.nextTicket) :=
    sameAt_delay transaction iban deadline (fun result => next (reply result)) unissued
      (first + index) old
  have delays := delays_delay transaction iban deadline reply next unissued (first + index)
  rw [← stands] at delays
  refine ⟨?_, ?_, ?_, ?_, ?_, ?_⟩
  · rw [length]
    exact attends.numbered
  · intro ticket late
    exact (same (Nat.ne_of_gt late)).unused (attends.unissued ticket (Nat.le_of_succ_le late))
  · intro ticket
    by_cases new : ticket = schedule.nextTicket
    · exact .inr ⟨index, later, nofun, List.getElem?_set_self within, new ▸ delays⟩
    rcases attends.owned ticket with unused | ⟨other, call, apart, here, waiting⟩
    · exact .inl ((same new).unused unused)
    · exact .inr ⟨other, call, nofun, (getElem?_set_of_apart apart).trans here,
        waiting.of_same (same new)⟩
  · exact fun one two task again => attends.single_delay
  · intro other call _ here
    by_cases apart : some other = some index
    · cases apart
      rw [List.getElem?_set_self within] at here
      cases here
      exact .waits schedule.nextTicket delays (attends.unended _ (.inr ⟨index, rfl, rfl⟩))
    · rw [getElem?_set_of_apart apart] at here
      exact (attends.kept other call apart here).of_same
        (fun ticket waiting => same (waiting.ne_of_unused unissued)) rfl
  · rintro id (new | ⟨_, ⟨⟩, -⟩)
    rw [length] at new
    exact attends.unended id (.inl new)

/-- A call that was at work is attended to with what its task leaves. -/
theorem Attends.leaves
    (attends : schedule.Attends first calls (some index))
    (within : index < calls.length)
    (leaves : schedule.Leaves after (first + index) later.standing) :
    after.Attends first (calls.set index later) none := by
  generalize stands : later.standing = standing at leaves
  cases leaves with
  | ended current outcome same => exact same ▸ attends.ends within stands
  | waits transaction iban deadline ask reply next same =>
      exact same ▸ attends.waits within stands deadline

end AtWork

end Schedule

/-! ## Tasks and calls -/

namespace Errand

/-- The errand with another oracle for its call. -/
def retold (errand : Errand) (told : Oracle) : Errand :=
  { errand with oracle := told }

/-- Whatever oracles say, the same is asked for on behalf of the same callers. -/
theorem map_asked_retold (errands : List Errand) (index : Nat) (told : Oracle) :
    (errands.modify index (fun errand => errand.retold told)).map
        (fun errand => (errand.request, errand.caller)) =
      errands.map (fun errand => (errand.request, errand.caller)) := by
  refine List.ext_getElem? fun other => ?_
  simp only [List.getElem?_map, List.getElem?_modify]
  cases errands[other]? with
  | none => rfl
  | some errand =>
      simp only [Option.map_some]
      split <;> rfl

end Errand

namespace Traffic

/-- Calls that get no turn stay as they are, and the others do not notice them. -/
theorem run_append_calls
    (traffic : Traffic)
    (more : List TransferCall)
    {turns : List Nat}
    (within : ∀ turn ∈ turns, turn < traffic.calls.length) :
    (⟨traffic.store, traffic.calls ++ more⟩ : Traffic).run turns =
      ⟨(traffic.run turns).store, (traffic.run turns).calls ++ more⟩ := by
  induction turns generalizing traffic with
  | nil => rfl
  | cons turn rest ih =>
      rw [List.forall_mem_cons] at within
      obtain ⟨call, here⟩ : ∃ call, traffic.calls[turn]? = some call :=
        ⟨_, List.getElem?_eq_getElem within.1⟩
      have there : (⟨traffic.store, traffic.calls ++ more⟩ : Traffic).calls[turn]? = some call :=
        (List.getElem?_append_left within.1).trans here
      have step := ih (traffic.advance turn) (by simpa using within.2)
      rw [run_cons, run_cons, ← step, advance_of_call here, advance_of_call there,
        List.set_append_left _ _ within.1]

/-- An errand with another oracle has the call with that oracle. -/
theorem start_retold (store : Store) (errands : List Errand) (index : Nat) (told : Oracle) :
    start store (errands.modify index (fun errand => errand.retold told)) =
      (start store errands).retold index told := by
  refine congrArg (Traffic.mk store) (List.ext_getElem? fun other => ?_)
  simp only [start, List.getElem?_map, List.getElem?_modify]
  cases errands[other]? with
  | none => rfl
  | some errand =>
      simp only [Option.map_some]
      split <;> rfl

end Traffic

namespace Bank

/--
The calls of errands have come to where the tasks of a bank are that were started since a
first bank, with certain turns. One of them may be at work.
-/
structure Runs
    (first : Bank)
    (requests : List (TransferRequest × Caller))
    (bank : Bank)
    (busy : Option Nat)
    (errands : List Errand)
    (turns : List Nat) : Prop where
  asked : errands.map (fun errand => (errand.request, errand.caller)) = requests
  within : ∀ turn ∈ turns, turn < errands.length
  working : bank.outage = .none
  store : ((Traffic.start first.store errands).run turns).store = bank.store
  attends : bank.schedule.Attends first.schedule.nextTask
    ((Traffic.start first.store errands).run turns).calls busy

variable {first bank : Bank} {requests : List (TransferRequest × Caller)} {busy : Option Nat}
variable {errands : List Errand} {turns : List Nat}

theorem length_run_start (store : Store) (errands : List Errand) (turns : List Nat) :
    ((Traffic.start store errands).run turns).calls.length = errands.length := by
  rw [Traffic.length_run, Traffic.start, List.length_map]

/-- The call at work follows its task, once its oracle says what the bank answers. -/
theorem Runs.follows
    {after : Bank}
    {index : Nat}
    {call later : TransferCall}
    {told : Oracle}
    (runs : first.Runs requests bank (some index) errands turns)
    (here : ((Traffic.start first.store errands).run turns).calls[index]? = some call)
    (follows : bank.Follows after (first.schedule.nextTask + index) call.oracle call.transcript
      call.standing told later) :
    ∃ errands turns, first.Runs requests after none errands turns := by
  obtain ⟨agrees, reaches, leaves, working⟩ := follows
  let retold := errands.modify index (fun errand => errand.retold told)
  have within := (List.getElem?_eq_some_iff.mp here).1
  -- All that was run so far is the same under the new oracle.
  have again : (Traffic.start first.store retold).run turns =
      ((Traffic.start first.store errands).run turns).retold index told := by
    rw [Traffic.start_retold]
    refine Traffic.run_retold turns fun known there => ?_
    rw [here] at there
    cases there
    exact agrees
  have there : ((Traffic.start first.store retold).run turns).calls[index]? =
      some (call.retold told) := by
    rw [again, Traffic.retold, List.getElem?_modify, here]
    simp
  obtain ⟨more, run⟩ := Traffic.run_of_reaches reaches
    ((Traffic.start first.store retold).run turns) there (by rw [again]; exact runs.store)
  have calls : ((Traffic.start first.store retold).run turns).calls.set index later =
      ((Traffic.start first.store errands).run turns).calls.set index later := by
    rw [again]
    exact Traffic.set_modify ..
  have length : retold.length = errands.length := List.length_modify ..
  refine ⟨retold, turns ++ List.replicate more index, ?_, ?_, working, ?_, ?_⟩
  · exact (Errand.map_asked_retold errands index told).trans runs.asked
  · intro turn member
    rw [length]
    rcases List.mem_append.mp member with earlier | own
    · exact runs.within turn earlier
    · rw [List.eq_of_mem_replicate own, ← length_run_start first.store errands turns]
      exact within
  · rw [Traffic.run_append, run]
  · rw [Traffic.run_append, run, calls]
    exact runs.attends.leaves within leaves

/-- Nothing runs where the ledger and what is looked at of the schedule stay the same. -/
theorem Runs.of_same
    {after : Bank}
    {still : Option Nat}
    (runs : first.Runs requests bank busy errands turns)
    (store : after.store = bank.store)
    (outage : after.outage = bank.outage)
    (schedule : after.schedule.Attends first.schedule.nextTask
      ((Traffic.start first.store errands).run turns).calls still) :
    first.Runs requests after still errands turns where
  asked := runs.asked
  within := runs.within
  working := outage.trans runs.working
  store := runs.store.trans store.symm
  attends := schedule

/-- Nothing runs while those who were handed a lock are called. -/
theorem Runs.callGranted
    (runs : first.Runs requests bank busy errands turns) :
    first.Runs requests bank.callGranted busy errands turns :=
  runs.of_same rfl rfl (runs.attends.of_same rfl rfl rfl rfl rfl)

/-! ## Turns -/

/-- The turn of a task ends its wait, and it goes on until it is over or waits again. -/
theorem follows_takeTurn
    {ticket id : Nat}
    {wait : Wait}
    {ask : LedgerAsk}
    {reply : Except Refusal (Option Account) -> ask.Answer}
    {next : ask.Answer -> TransferScript (Except Failure Transfer)}
    (entered : bank.schedule.wait? ticket = some wait)
    (task : bank.schedule.task? ticket = some ⟨id, ticket, fun result => next (reply result)⟩)
    (working : bank.outage = .none)
    (oracle : Oracle)
    (transcript : List Exchange) :
    ∃ ran told later, bank.takeTurn ticket = ran.callGranted ∧
      { bank with schedule := bank.schedule.withdraw ticket }.Follows ran id oracle transcript
        (.waiting wait.transaction wait.iban ask reply next) told later := by
  generalize result : bank.store.endWait wait.transaction wait.iban = ended
  obtain ⟨told, later, agrees, reaches, leaves, still⟩ :=
    follows_runTask id (next (reply ended.1))
      { bank with store := ended.2, schedule := bank.schedule.withdraw ticket }
      (some wait.transaction) (transcript ++ [⟨.ledger ask, reply ended.1⟩]) oracle working
  refine ⟨_, told, later, ?_, fun position before => agrees position (by simp; omega),
    TransferCall.reaches_of_waiting rfl ?_, leaves, still⟩
  · simp only [takeTurn, entered, task, endWait, result]
  · rw [result]
    exact reaches

/-- Whoever has a ticket has a turn with it, and it is the turn of one call. -/
theorem Runs.takeTurn
    (runs : first.Runs requests bank none errands turns)
    (ticket : Nat) :
    ∃ errands turns, first.Runs requests (bank.takeTurn ticket) none errands turns := by
  rcases runs.attends.owned ticket with unused | ⟨index, call, -, here, delays⟩
  · have idle : bank.takeTurn ticket = bank := by rw [Bank.takeTurn, unused.1]
    exact ⟨errands, turns, idle.symm ▸ runs⟩
  · have left : first.Runs requests { bank with schedule := bank.schedule.withdraw ticket }
        (some index) errands turns :=
      runs.of_same rfl rfl (runs.attends.withdraw here delays)
    generalize stands : call.standing = standing at delays
    cases delays with
    | waits wait ask reply next entered task =>
        obtain ⟨ran, told, later, turn, follows⟩ :=
          follows_takeTurn entered task runs.working call.oracle call.transcript
        rw [← stands] at follows
        obtain ⟨errands, turns, after⟩ := left.follows here follows
        exact ⟨errands, turns, turn ▸ after.callGranted⟩

/-- However many turns are given, they are turns of calls. -/
theorem Runs.giveTurns
    (runs : first.Runs requests bank none errands turns)
    (limit : Option Nat)
    (wanted : Bank -> Bool)
    (count : Nat) :
    ∃ errands turns,
      first.Runs requests (giveTurns limit wanted count bank) none errands turns := by
  induction count generalizing bank errands turns with
  | zero => exact ⟨errands, turns, runs⟩
  | succ count ih =>
      rw [Bank.giveTurns]
      split_ifs
      · exact ⟨errands, turns, runs⟩
      · cases next : bank.schedule.nextTurn? limit with
        | none => exact ⟨errands, turns, runs⟩
        | some turn =>
            obtain ⟨ticket, schedule⟩ := turn
            obtain ⟨time, ready, rfl⟩ := Schedule.exists_of_nextTurn? next
            have chosen : first.Runs requests
                { bank with schedule := { bank.schedule with time := time, ready := ready } }
                none errands turns :=
              runs.of_same rfl rfl (runs.attends.of_same rfl rfl rfl rfl rfl)
            obtain ⟨errands, turns, after⟩ := chosen.takeTurn ticket
            exact ih after

/-- A transfer that is started as a task is one more call, which is the last one. -/
theorem Runs.spawn
    (runs : first.Runs requests bank none errands turns)
    (name : String)
    (request : TransferRequest)
    (caller : Caller) :
    ∃ errands turns, first.Runs (requests ++ [(request, caller)])
      (bank.spawn name request caller) none errands turns := by
  let errand : Errand := ⟨request, caller, fun _ ask => (bank.answer ask).1⟩
  let named : Bank :=
    { bank with
      schedule :=
        { bank.schedule with
          names := bank.schedule.names.put name bank.schedule.nextTask
          nextTask := bank.schedule.nextTask + 1 } }
  have length := length_run_start first.store errands turns
  have joined : (Traffic.start first.store (errands ++ [errand])).run turns =
      ⟨((Traffic.start first.store errands).run turns).store,
        ((Traffic.start first.store errands).run turns).calls ++ [errand.call]⟩ := by
    rw [← Traffic.run_append_calls, Traffic.start, Traffic.start, List.map_append]
    · rfl
    · intro turn member
      rw [Traffic.start, List.length_map]
      exact runs.within turn member
  have begun : first.Runs (requests ++ [(request, caller)]) named (some errands.length)
      (errands ++ [errand]) turns := by
    refine ⟨?_, ?_, runs.working, ?_, ?_⟩
    · rw [List.map_append, runs.asked]
      rfl
    · intro turn member
      rw [List.length_append]
      exact Nat.lt_succ_of_lt (runs.within turn member)
    · rw [joined]
      exact runs.store
    · rw [joined, ← length]
      exact runs.attends.start errand.call _
  have here : ((Traffic.start first.store (errands ++ [errand])).run turns).calls[errands.length]? =
      some errand.call := by
    rw [joined, ← length]
    exact List.getElem?_concat_length
  obtain ⟨told, later, follows⟩ := follows_runTask (first.schedule.nextTask + errands.length)
    (transferScript request caller) named none [] errand.oracle runs.working
  obtain ⟨errands, turns, after⟩ := begun.follows here follows
  refine ⟨errands, turns, ?_⟩
  rw [← length, ← runs.attends.numbered] at after
  exact after.callGranted

/-! ## Runs -/

/-- A bank whose ledger works, and whose schedule knows of no task and of no wait. -/
structure Fresh (bank : Bank) : Prop where
  working : bank.outage = .none
  unattended : bank.schedule.waits = []
  untasked : bank.schedule.tasks = []
  unsettled : ∀ id, bank.schedule.nextTask <= id -> bank.schedule.results.get? id = none

theorem fresh_opened (clock : Instant) (accounts : List Account) :
    { opened clock with store := .opened accounts }.Fresh where
  working := rfl
  unattended := rfl
  untasked := rfl
  unsettled _ _ := rfl

/--
What may happen to a bank while it has tasks, and the transfers that were started as tasks, in
order. Whatever does not touch the ledger or the schedule may change at any time.
-/
inductive Works (first : Bank) : List (TransferRequest × Caller) -> Bank -> Prop
  | begins : Works first [] first
  | spawns
      {requests : List (TransferRequest × Caller)}
      {bank : Bank}
      (works : Works first requests bank)
      (name : String)
      (request : TransferRequest)
      (caller : Caller) :
      Works first (requests ++ [(request, caller)]) (bank.spawn name request caller)
  | joins
      {requests : List (TransferRequest × Caller)}
      {bank : Bank}
      (works : Works first requests bank)
      (name : String) :
      Works first requests (bank.join name).2
  | elapses
      {requests : List (TransferRequest × Caller)}
      {bank : Bank}
      (works : Works first requests bank)
      (millis : Nat) :
      Works first requests (bank.elapse millis)
  | changes
      {requests : List (TransferRequest × Caller)}
      {bank after : Bank}
      (works : Works first requests bank)
      (store : after.store = bank.store)
      (outage : after.outage = bank.outage)
      (schedule : after.schedule = bank.schedule) :
      Works first requests after

theorem Fresh.runs (fresh : first.Fresh) : first.Runs [] first none [] [] := by
  have unused (ticket : Nat) : first.schedule.Unused ticket := by
    rw [Schedule.Unused, Schedule.wait?, Schedule.task?, fresh.unattended, fresh.untasked]
    exact ⟨rfl, rfl⟩
  refine ⟨rfl, nofun, fresh.working, rfl, rfl, fun ticket _ => unused ticket,
    fun ticket => .inl (unused ticket), ?_, ?_, ?_⟩
  · intro ticket other task same found there named
    rw [(unused ticket).2] at found
    cases found
  · intro index call _ here
    have none : ((Traffic.start first.store []).run []).calls = [] := rfl
    rw [none, List.getElem?_nil] at here
    cases here
  · rintro id (new | ⟨_, ⟨⟩, -⟩)
    exact fresh.unsettled id new

theorem Works.runs (works : first.Works requests bank) (fresh : first.Fresh) :
    ∃ errands turns, first.Runs requests bank none errands turns := by
  induction works with
  | begins => exact ⟨[], [], fresh.runs⟩
  | spawns _ name request caller ih =>
      obtain ⟨errands, turns, runs⟩ := ih
      exact runs.spawn name request caller
  | @joins requests bank _ name ih =>
      obtain ⟨errands, turns, runs⟩ := ih
      rw [join]
      cases bank.schedule.names.get? name with
      | none => exact ⟨errands, turns, runs⟩
      | some id =>
          obtain ⟨errands, turns, worked⟩ := runs.giveTurns none
            (fun bank => bank.schedule.results.contains id) bank.turnsLeft
          exact ⟨errands, turns,
            worked.of_same rfl rfl (worked.attends.of_same rfl rfl rfl rfl rfl)⟩
  | @elapses requests bank _ millis ih =>
      obtain ⟨errands, turns, runs⟩ := ih
      obtain ⟨errands, turns, worked⟩ := runs.giveTurns (some (bank.schedule.time + millis))
        (fun _ => false) bank.turnsLeft
      exact ⟨errands, turns,
        worked.of_same rfl rfl (worked.attends.of_same rfl rfl rfl rfl rfl)⟩
  | changes _ store outage schedule ih =>
      obtain ⟨errands, turns, runs⟩ := ih
      exact ⟨errands, turns, runs.of_same store outage (schedule ▸ runs.attends)⟩

/-- A task has a result exactly if its call has come to it. -/
theorem Runs.outcome_iff
    {index : Nat}
    (runs : first.Runs requests bank none errands turns)
    (within : index < requests.length)
    (outcome : Except Failure Transfer) :
    ((Traffic.start first.store errands).run turns).outcome? index = some outcome ↔
      bank.schedule.results.get? (first.schedule.nextTask + index) = some outcome := by
  rw [← runs.asked, List.length_map, ← length_run_start first.store errands turns] at within
  have here := List.getElem?_eq_getElem within
  generalize ((Traffic.start first.store errands).run turns).calls[index] = call at here
  have kept := runs.attends.kept index call nofun here
  rw [Traffic.outcome?, here, Option.bind_some]
  generalize stands : call.standing = standing at kept
  cases kept with
  | ended current known result =>
      rw [TransferCall.outcome?, stands, result]
  | waits ticket delays unended =>
      cases delays with
      | waits wait ask reply next entered task =>
          simp [TransferCall.outcome?, stands, unended]

/--
Whatever is done with a bank while it has tasks, its ledger is that of traffic: the calls of the
transfers that were started as tasks, in some order of their steps. A task has a result exactly
if its call has, and the same one.
-/
theorem tasks_are_calls
    (fresh : first.Fresh)
    (works : first.Works requests bank) :
    ∃ errands turns,
      errands.map (fun errand => (errand.request, errand.caller)) = requests ∧
        ((Traffic.start first.store errands).run turns).store = bank.store ∧
        ∀ index < requests.length, ∀ outcome,
          ((Traffic.start first.store errands).run turns).outcome? index = some outcome ↔
            bank.schedule.results.get? (first.schedule.nextTask + index) = some outcome := by
  obtain ⟨errands, turns, runs⟩ := works.runs fresh
  exact ⟨errands, turns, runs.asked, runs.store, fun index within => runs.outcome_iff within⟩

/--
So the tasks of a bank neither make nor lose money, and what they have done to the balances is
what the log says, at whatever point of their work.
-/
theorem Works.balanced
    {clock : Instant}
    {accounts : List Account}
    (works : { opened clock with store := .opened accounts }.Works requests bank)
    (funded : (Store.opened accounts).tables.Funded) :
    Traffic.Balanced (Store.opened accounts).tables bank.store.tables := by
  obtain ⟨errands, turns, -, store, -⟩ := tasks_are_calls (fresh_opened clock accounts) works
  rw [← store]
  exact Traffic.balanced_run errands turns funded

end Bank
end Giro
