import Giro.Bank.Schedule
import Giro.Query.Basic

/-!
# Operating the bank

What can be asked of a bank from the outside: transfers carried out at once or
as tasks on the side, receipts, and transactions driven by hand under a name.
-/

namespace Giro
namespace Bank

/-- Move an amount on behalf of a caller and wait for the outcome. -/
def transfer (bank : Bank) (request : TransferRequest) (caller : Caller) :
    Except Failure Transfer × Bank :=
  let (outcome, _, bank) := bank.perform (transferScript request caller) none
  (outcome, bank)

/-- Start a transfer as a task under a name; an earlier task of that name goes on without it. -/
def spawn (bank : Bank) (name : String) (request : TransferRequest) (caller : Caller) :
    Bank :=
  let id := bank.schedule.nextTask
  let named :=
    { bank with
      schedule :=
        { bank.schedule with
          names := bank.schedule.names.put name id
          nextTask := id + 1 } }
  (named.runTask id (transferScript request caller) none).callGranted

/-- Wait for the outcome of the task with a name, if there is one. -/
def join (bank : Bank) (name : String) : Option (Except Failure Transfer) × Bank :=
  match bank.schedule.names.get? name with
  | none => (none, bank)
  | some id =>
      let bank := bank.workUntil (fun bank => bank.schedule.results.contains id)
      (bank.schedule.results.get? id,
        { bank with
          schedule := { bank.schedule with names := bank.schedule.names.erase name } })

/--
Answer what issuing a receipt asks for. There is no answer if the printer hangs
or a pause would go on past the time at which the caller loses patience.
-/
def answerReceipt (patience : Option Nat) (bank : Bank) :
    (ask : ReceiptAsk) -> Option ask.Answer × Bank
  | .allowed =>
      match bank.breaker.allow bank.clock with
      | .ok (allowed, breaker) =>
          ((some (.ok allowed), { bank with breaker := breaker }) :
            Option (Except Overflow Bool) × Bank)
      | .error overflow => ((some (.error overflow), bank) : Option (Except Overflow Bool) × Bank)
  | .render details =>
      let (rendering, printer) := bank.printer.render details
      let bank := { bank with printer := printer }
      match rendering with
      | some rendering => ((some rendering, bank) : Option Rendering × Bank)
      | none =>
          ((none, bank.elapse ((patience.getD bank.schedule.time) - bank.schedule.time)) :
            Option Rendering × Bank)
  | .succeeded =>
      ((some (), { bank with breaker := bank.breaker.succeed }) : Option Unit × Bank)
  | .failed =>
      ((some (), { bank with breaker := bank.breaker.fail bank.clock }) :
        Option Unit × Bank)
  | .pause delay attempt =>
      let bank := { bank with pauses := bank.pauses ++ [(delay, attempt)] }
      let finished := bank.schedule.time + delay
      if patience.all (fun limit => finished <= limit) then
        ((some (), bank.elapse delay) : Option Unit × Bank)
      else
        ((none, bank.elapse ((patience.getD finished) - bank.schedule.time)) :
          Option Unit × Bank)

/-- Run a script that issues a receipt; no value if it is abandoned. -/
def performReceipt {α : Type} (patience : Option Nat) :
    ReceiptScript α -> Bank -> Option α × Bank
  | .done value, bank => (some value, bank)
  | .ask ask next, bank =>
      match bank.answerReceipt patience ask with
      | (some answer, bank) => performReceipt patience (next answer) bank
      | (none, bank) => (none, bank)

/--
The receipt of the transfer with a number on behalf of a caller. There is none if
the caller waits no longer than a number of milliseconds and that is too short.
-/
def receipt (bank : Bank) (id : Int) (caller : Caller) (timeout : Option Nat) :
    Option (Except Failure Receipt) × Bank :=
  let patience := timeout.map (fun millis => bank.schedule.time + millis)
  bank.performReceipt patience (Receipt.issue bank.reader bank.retry id caller)

/-- The pauses made since they were last asked for, and the bank without them. -/
def takePauses (bank : Bank) : List (Nat × Nat) × Bank :=
  (bank.pauses, { bank with pauses := [] })

/-- Audit entries and events since they were last asked for, and the bank without them. -/
def takeEffects (bank : Bank) : List AuditEntry × List Delivery × Bank :=
  (bank.trail, bank.notifier.delivered,
    { bank with trail := [], notifier := bank.notifier.clear })

/-- Let a worker read up to a number of envelopes from the bank's channel. -/
def drain (bank : Bank) (worker : NotificationWorker) (most : Nat) : List Email × Bank :=
  match bank.notifier.outlet with
  | .queue channel =>
      let (emails, channel) := worker.drain most channel
      (emails, { bank with notifier := { bank.notifier with outlet := .queue channel } })
  | _ => ([], bank)

/-- Append a transfer to the log without a transaction. -/
def importTransfer (bank : Bank) (draft : TransferDraft) : Except Refusal Transfer × Bank :=
  let (result, store) := bank.store.importTransfer draft
  (result, { bank with store := store })

/-- Discard the transaction with a name, if there is one. -/
def dropDesk (bank : Bank) (name : String) : Bank :=
  match bank.desks.get? name with
  | none => bank
  | some desk =>
      { bank with
        store := bank.store.close desk.transaction
        desks := bank.desks.erase name }.callGranted

/-- Begin a transaction under a name; one that has the name already is discarded. -/
def openDesk (bank : Bank) (name : String) : Except Refusal Unit × Bank :=
  match bank.outage.serve bank.store none .begin with
  | .answered answer (some transaction) store =>
      let bank := { bank with store := store }.dropDesk name
      (answer, { bank with desks := bank.desks.put name ⟨transaction, none⟩ })
  | .answered answer none store => (answer, { bank with store := store })
  | .waiting _ _ _ store => (.error .accountBusy, { bank with store := store })

/-- Run a script within the transaction with a name, if there is one. -/
def atDesk {α : Type} (bank : Bank) (name : String) (script : TransferScript α) :
    Option α × Bank :=
  match bank.desks.get? name with
  | none => (none, bank)
  | some desk =>
      match bank.perform script (some desk.transaction) with
      | (value, some _, bank) => (some value, bank)
      | (value, none, bank) => (some value, { bank with desks := bank.desks.erase name })

/-- Lock both rows of a transfer at a desk, which remembers them. -/
def lockAtDesk (bank : Bank) (name sender receiver : String) :
    Option (Except Failure LockedPair) × Bank :=
  let script : TransferWork LockedPair :=
    TransferWork.lockPair sender receiver (fun pair => .done (.ok pair))
  match bank.atDesk name script with
  | (some (.ok pair), bank) =>
      (some (.ok pair),
        { bank with
          desks := bank.desks.modify name (fun desk => { desk with pair := some pair }) })
  | (outcome, bank) => (outcome, bank)

/-- Post an amount on a day for the rows that a desk remembers. -/
def postAtDesk (bank : Bank) (name : String) (amount : Decimal) (date : Date) :
    Option (Except Failure Posting) × Bank :=
  match (bank.desks.get? name).bind Desk.pair with
  | none => (none, bank)
  | some pair => bank.atDesk name (TransferWork.postPair pair amount date)

/-- The bank with its clock moved on by a number of milliseconds. -/
def advance (bank : Bank) (millis : Int) : Except Overflow (Instant × Bank) :=
  match bank.clock.addMillis millis with
  | .ok clock => .ok (clock, { bank with clock := clock })
  | .error overflow => .error overflow

end Bank
end Giro
