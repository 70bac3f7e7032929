import Giro.Bank.Basic

/-!
# Working through the schedule

Transfers run side by side. One of them runs until it ends or has to wait for a
lock, then the next one has its turn. A wait ends when the lock is handed over
or when the time for it is up; locks that are handed over are taken up in the
order in which they were.
-/

namespace Giro
namespace Bank

/-- The bank with everyone called who has been handed a lock. -/
def callGranted (bank : Bank) : Bank :=
  let granted :=
    bank.schedule.waits.filter (fun wait =>
      bank.store.holds wait.transaction wait.iban &&
        !bank.schedule.ready.contains wait.ticket)
  { bank with
    schedule :=
      { bank.schedule with
        ready := bank.schedule.ready ++ granted.map Wait.ticket } }

/-- The bank with a wait entered, and its ticket. -/
def enter (bank : Bank) (transaction : TransactionId) (iban : String) : Nat × Bank :=
  let (ticket, schedule) := bank.schedule.enter transaction iban bank.lockTimeout
  (ticket, { bank with schedule := schedule })

/-- The result of a wait that is over, and the bank after it. -/
def endWait (bank : Bank) (transaction : TransactionId) (iban : String) :
    Except Refusal (Option Account) × Bank :=
  let (result, store) := bank.store.endWait transaction iban
  (result, { bank with store := store })

/-- Run a task until it ends or has to wait; there is no wait if no time is given for it. -/
def runTask (id : Nat) :
    TransferScript (Except Failure Transfer) -> Option TransactionId -> Bank -> Bank
  | .done outcome, _, bank =>
      { bank with
        schedule := { bank.schedule with results := bank.schedule.results.put id outcome } }
  | .ask (.ledger ask) next, current, bank =>
      match bank.outage.serve bank.store current ask with
      | .answered answer current store =>
          runTask id (next answer) current { bank with store := store }
      | .waiting transaction iban reply store =>
          let bank := { bank with store := store }
          if bank.lockTimeout = 0 then
            let (result, bank) := bank.endWait transaction iban
            runTask id (next (reply result)) (some transaction) bank
          else
            let (ticket, bank) := bank.enter transaction iban
            let task : Task := ⟨id, ticket, fun result => next (reply result)⟩
            { bank with
              schedule := { bank.schedule with tasks := bank.schedule.tasks ++ [task] } }
  | .ask (.outside ask) next, current, bank =>
      let (answer, bank) := bank.answer ask
      runTask id (next answer) current bank

/--
The bank after the turn of a ticket: its wait ends, and the task that waited goes
on. The result of a wait without a task is kept for whoever entered it.
-/
def takeTurn (bank : Bank) (ticket : Nat) : Bank :=
  match bank.schedule.wait? ticket with
  | none => bank
  | some wait =>
      let (result, after) := bank.endWait wait.transaction wait.iban
      let left := { after with schedule := after.schedule.withdraw ticket }
      match bank.schedule.task? ticket with
      | some task => (left.runTask task.id (task.next result) (some wait.transaction)).callGranted
      | none =>
          { left with
            schedule := { left.schedule with ended := left.schedule.ended.put ticket result } }

/--
Give turns, up to a number of them and a limit of time, until what is wanted has
come about or nobody is left whose turn it could be.
-/
def giveTurns (limit : Option Nat) (wanted : Bank -> Bool) : Nat -> Bank -> Bank
  | 0, bank => bank
  | turns + 1, bank =>
      if wanted bank then bank
      else
        match bank.schedule.nextTurn? limit with
        | none => bank
        | some (ticket, schedule) =>
            giveTurns limit wanted turns ({ bank with schedule := schedule }.takeTurn ticket)

/-- Turns that are enough: a transfer waits for two locks at most. -/
def turnsLeft (bank : Bank) : Nat :=
  2 * bank.schedule.waits.length + 1

/-- The bank after turns were given until what is wanted has come about. -/
def workUntil (wanted : Bank -> Bool) (bank : Bank) : Bank :=
  giveTurns none wanted bank.turnsLeft bank

/-- The bank after a number of milliseconds. -/
def elapse (bank : Bank) (millis : Nat) : Bank :=
  let limit := bank.schedule.time + millis
  let worked := giveTurns (some limit) (fun _ => false) bank.turnsLeft bank
  { worked with schedule := { worked.schedule with time := max worked.schedule.time limit } }

/-- Wait for a lock while others have their turns. -/
def awaitLock (bank : Bank) (transaction : TransactionId) (iban : String) :
    Except Refusal (Option Account) × Bank :=
  if bank.lockTimeout = 0 then bank.endWait transaction iban
  else
    let (ticket, bank) := bank.callGranted.enter transaction iban
    let bank := bank.workUntil (fun bank => bank.schedule.ended.contains ticket)
    ((bank.schedule.ended.get? ticket).getD (.error .accountBusy),
      { bank with
        schedule := { bank.schedule with ended := bank.schedule.ended.erase ticket } })

/-- Run a script to its end; others have their turns while it waits. -/
def perform {α : Type} :
    TransferScript α -> Option TransactionId -> Bank -> α × Option TransactionId × Bank
  | .done value, current, bank => (value, current, bank.callGranted)
  | .ask (.ledger ask) next, current, bank =>
      match bank.outage.serve bank.store current ask with
      | .answered answer current store =>
          perform (next answer) current { bank with store := store }
      | .waiting transaction iban reply store =>
          let (result, bank) := { bank with store := store }.awaitLock transaction iban
          perform (next (reply result)) (some transaction) bank
  | .ask (.outside ask) next, current, bank =>
      let (answer, bank) := bank.answer ask
      perform (next answer) current bank

end Bank
end Giro
