import Giro.Ledger.Outage
import Giro.Notification.Outlet
import Giro.Receipt.Printer
import Giro.Transfer.Coordination
import Giro.Transfer.Reference

/-!
# The bank

A ledger store together with everything that transfers and receipts need around
it: the clock, the sources of codes and identifiers, the audit trail, the
notifier, the printer behind its breaker, and the schedule of transfers that
wait for a lock. The schedule keeps a time of its own, in milliseconds, which
has nothing to do with the clock.
-/

namespace Giro

/-- The wait of a transaction for the lock of a row, and when it is given up. -/
structure Wait where
  ticket : Nat
  transaction : TransactionId
  iban : String
  deadline : Nat
deriving DecidableEq

/-- A transfer that goes on when the wait with its ticket is over. -/
structure Task where
  id : Nat
  ticket : Nat
  next : Except Refusal (Option Account) -> TransferScript (Except Failure Transfer)

/-- What is waiting, whose turn it is, and what has come of waits and tasks. -/
structure Schedule where
  time : Nat
  waits : List Wait
  ready : List Nat
  nextTicket : Nat
  ended : Table Nat (Except Refusal (Option Account))
  tasks : List Task
  results : Table Nat (Except Failure Transfer)
  names : Table String Nat
  nextTask : Nat

namespace Schedule

/-- The schedule on which nothing is waiting. -/
def empty : Schedule := ⟨0, [], [], 0, .empty, [], .empty, .empty, 0⟩

/-- The earliest time at which a wait is given up. -/
def nextDeadline? (schedule : Schedule) : Option Nat :=
  (schedule.waits.map Wait.deadline).min?

/-- The tickets of the waits that are given up by a time, in order of arrival. -/
def due (schedule : Schedule) (time : Nat) : List Nat :=
  (schedule.waits.filter (fun wait => wait.deadline <= time)).map Wait.ticket

/--
The next ticket whose turn it is, up to a limit of time if there is one: those
that have been called come first, and then those that are given up.
-/
def nextTurn? (schedule : Schedule) (limit : Option Nat) : Option (Nat × Schedule) :=
  match schedule.ready with
  | ticket :: rest => some (ticket, { schedule with ready := rest })
  | [] => do
      let deadline <- schedule.nextDeadline?
      if limit.all (fun limit => deadline <= limit) then
        match schedule.due deadline with
        | ticket :: rest =>
            some (ticket,
              { schedule with time := max schedule.time deadline, ready := rest })
        | [] => none
      else none

/-- The wait with a ticket. -/
def wait? (schedule : Schedule) (ticket : Nat) : Option Wait :=
  schedule.waits.find? (fun wait => wait.ticket = ticket)

/-- The task that goes on with a ticket. -/
def task? (schedule : Schedule) (ticket : Nat) : Option Task :=
  schedule.tasks.find? (fun task => task.ticket = ticket)

/-- The schedule without a ticket's wait and task. -/
def withdraw (schedule : Schedule) (ticket : Nat) : Schedule :=
  { schedule with
    waits := schedule.waits.filter (fun wait => wait.ticket != ticket)
    tasks := schedule.tasks.filter (fun task => task.ticket != ticket) }

/-- The schedule with one more wait, and the ticket of that wait. -/
def enter
    (schedule : Schedule)
    (transaction : TransactionId)
    (iban : String)
    (timeout : Nat) : Nat × Schedule :=
  (schedule.nextTicket,
    { schedule with
      waits :=
        schedule.waits ++
          [⟨schedule.nextTicket, transaction, iban, schedule.time + timeout⟩]
      nextTicket := schedule.nextTicket + 1 })

end Schedule

/-- A transaction that is driven by hand, and the rows it was last asked to lock. -/
structure Desk where
  transaction : TransactionId
  pair : Option LockedPair
deriving DecidableEq

/-- A ledger store and everything around it. -/
structure Bank where
  store : Store
  outage : Outage
  lockTimeout : Nat
  clock : Instant
  references : List String
  referencesDrawn : Nat
  identifiersDrawn : Nat
  keepsTrail : Bool
  trail : List AuditEntry
  notifier : Notifier
  printer : Printer
  breaker : Breaker
  retry : RetryPolicy
  pauses : List (Nat × Nat)
  schedule : Schedule
  desks : Table String Desk

namespace Bank

/-- The time for which a lock is waited for unless told otherwise, in milliseconds. -/
def standardLockTimeout : Nat := 5000

/-- The topic of transfer events unless told otherwise. -/
def standardTopic : String := "transfer-notifications"

/-- A bank without accounts in which everything works. -/
def opened (clock : Instant) : Bank where
  store := .empty
  outage := .none
  lockTimeout := standardLockTimeout
  clock := clock
  references := []
  referencesDrawn := 0
  identifiersDrawn := 0
  keepsTrail := true
  trail := []
  notifier := ⟨standardTopic, .records []⟩
  printer := ⟨[], 0⟩
  breaker := .make .standard
  retry := .standard
  pauses := []
  schedule := .empty
  desks := .empty

/-- The bank with its committed rows changed by administration. -/
def administer (bank : Bank) (change : Tables -> Tables) : Bank :=
  { bank with store := bank.store.administer change }

/-- What can be read of the bank's ledger. -/
def reader (bank : Bank) : Reader :=
  bank.outage.reader (.ofTables bank.store.tables)

/-- The number of the first identifier, with the marks of a random one. -/
def firstIdentifier : Nat := 0x9d3f51c2a7e64b088c5e000000000000

/-- A new identifier and the bank after it was taken. -/
def drawIdentifier (bank : Bank) : Uuid × Bank :=
  (⟨firstIdentifier + bank.identifiersDrawn⟩,
    { bank with identifiersDrawn := bank.identifiersDrawn + 1 })

/--
A reference code and the bank after it was taken: the next one of those laid out
in advance, or one made of the time and the count of codes taken.
-/
def drawReference (bank : Bank) (now : Instant) : String × Bank :=
  let drawn := bank.referencesDrawn + 1
  match bank.references with
  | code :: rest => (code, { bank with references := rest, referencesDrawn := drawn })
  | [] => (Reference.code now drawn, { bank with referencesDrawn := drawn })

/-- The bank after an entry was handed to the audit trail. -/
def audit (bank : Bank) (entry : AuditEntry) : Bank :=
  if bank.keepsTrail then { bank with trail := bank.trail ++ [entry] } else bank

/-- Answer what a transfer asks of everything but the ledger. -/
def answer (bank : Bank) : (ask : OutsideAsk) -> ask.Answer × Bank
  | .now => ((bank.clock, bank) : Instant × Bank)
  | .reference now => (bank.drawReference now : String × Bank)
  | .externalId => (bank.drawIdentifier : Uuid × Bank)
  | .audit entry => ((bank.keepsTrail, bank.audit entry) : Bool × Bank)
  | .dispatch event =>
      (((), { bank with notifier := bank.notifier.dispatch event }) : Unit × Bank)

end Bank
end Giro
