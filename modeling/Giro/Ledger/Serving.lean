import Giro.Ledger.Store

/-!
# Serving transactions

How the store answers the questions that are asked within a transaction. All of
them are answered at once, but for the lock of a row that another transaction
holds: that answer comes when the lock is handed over or the wait is given up.
-/

namespace Giro

/-- What comes of a question: its answer, or a wait for the lock of a row. -/
inductive Served (ask : LedgerAsk)
  | answered (answer : ask.Answer) (transaction : Option TransactionId) (store : Store)
  | waiting
      (transaction : TransactionId)
      (iban : String)
      (reply : Except Refusal (Option Account) -> ask.Answer)
      (store : Store)

namespace LedgerAsk

/-- The answer that refuses a question. -/
def refuse (refusal : Refusal) : (ask : LedgerAsk) -> ask.Answer
  | begin => (.error refusal : Except Refusal Unit)
  | lock _ => (.error refusal : Except Refusal (Option Account))
  | readLimit _ _ => (.error refusal : Except Refusal (Option DailyLimit))
  | writeLimit _ => (.error refusal : Except Refusal Unit)
  | writeAccount _ => (.error refusal : Except Refusal Unit)
  | record _ => (.error refusal : Except Refusal Transfer)
  | commit => (.error refusal : Except Refusal Unit)
  | rollback => (.error refusal : Except Refusal Unit)
  | discard => ()

/-- Whether a question ends the transaction in which it is asked. -/
def ends : LedgerAsk -> Bool
  | commit => true
  | rollback => true
  | discard => true
  | _ => false

end LedgerAsk

namespace Store

/-- The result of a write and the store after it. -/
def written (store : Store) (result : Except Refusal Store) :
    Except Refusal Unit × Store :=
  match result with
  | .ok changed => (.ok (), changed)
  | .error refusal => (.error refusal, store)

/-- Answer a question asked within an open transaction. -/
def serveOpen (store : Store) (id : TransactionId) : (ask : LedgerAsk) -> Served ask
  | .begin =>
      let (begun, store) := store.begin
      .answered (.ok () : Except Refusal Unit) (some begun) store
  | .lock iban =>
      match store.lock id iban with
      | (.answered account, store) =>
          .answered (.ok account : Except Refusal (Option Account)) (some id) store
      | (.queued, store) => .waiting id iban (fun result => result) store
  | .readLimit iban date =>
      .answered (.ok (store.readLimit id iban date) : Except Refusal (Option DailyLimit))
        (some id) store
  | .writeLimit row =>
      let (result, store) := store.written (store.writeLimit id row)
      .answered result (some id) store
  | .writeAccount row =>
      let (result, store) := store.written (store.writeAccount id row)
      .answered result (some id) store
  | .record draft =>
      let (result, store) := store.record id draft
      .answered result (some id) store
  | .commit =>
      let (result, store) := store.commit id
      .answered result none store
  | .rollback => .answered (.ok () : Except Refusal Unit) none (store.close id)
  | .discard => .answered () none (store.close id)

/-- Answer a question; without an open transaction one can only be begun. -/
def serve (store : Store) (current : Option TransactionId) (ask : LedgerAsk) :
    Served ask :=
  match current, ask with
  | some id, ask => store.serveOpen id ask
  | none, .begin =>
      let (begun, store) := store.begin
      .answered (.ok () : Except Refusal Unit) (some begun) store
  | none, ask => .answered (ask.refuse .noTransaction) none store

/--
The answer to a wait that is over, and the store after it: the row if the lock
has been handed over, a refusal if not.
-/
def endWait (store : Store) (id : TransactionId) (iban : String) :
    Except Refusal (Option Account) × Store :=
  if store.holds id iban then (.ok (store.rowAfterWait iban), store)
  else (.error .accountBusy, store.giveUp id iban)

end Store
end Giro
