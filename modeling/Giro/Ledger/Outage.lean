import Giro.Ledger.Serving
import Giro.Query.Reader

/-!
# Outages

A storage that cannot be relied upon: some of the calls made to it fail, every
time they are made. A commit or a rollback that fails ends its transaction all
the same, without anything installed.
-/

namespace Giro

/-- The calls that storage serves. -/
inductive StorageCall
  | begin
  | findAccount
  | findTransfer
  | listTransfers
  | summarize
  | outgoingTransfers
  | dailyOutgoingSince
  | findLimit
  | lockForUpdate
  | dailyLimit
  | saveDailyLimit
  | saveAccount
  | insertTransfer
  | commit
  | rollback
deriving DecidableEq

namespace StorageCall

/-- The calls and their names. -/
def named : List (String × StorageCall) :=
  [("begin", begin), ("find_account", findAccount), ("find_transfer", findTransfer),
    ("list_transfers", listTransfers), ("summarize", summarize),
    ("outgoing_transfers", outgoingTransfers),
    ("daily_outgoing_since", dailyOutgoingSince), ("find_limit", findLimit),
    ("lock_for_update", lockForUpdate), ("daily_limit", dailyLimit),
    ("save_daily_limit", saveDailyLimit), ("save_account", saveAccount),
    ("insert_transfer", insertTransfer), ("commit", commit), ("rollback", rollback)]

/-- The name of a call. -/
def name (call : StorageCall) : String :=
  ((named.find? (fun entry => entry.2 = call)).map Prod.fst).getD ""

end StorageCall

/-- The calls that fail, and how. -/
abbrev Outage := StorageCall -> Option Refusal

/-- The call that a question leads to; discarding a transaction needs none. -/
def LedgerAsk.call? : LedgerAsk -> Option StorageCall
  | begin => some .begin
  | lock _ => some .lockForUpdate
  | readLimit _ _ => some .dailyLimit
  | writeLimit _ => some .saveDailyLimit
  | writeAccount _ => some .saveAccount
  | record _ => some .insertTransfer
  | commit => some .commit
  | rollback => some .rollback
  | discard => none

namespace Outage

/-- No call fails. -/
def none : Outage := fun _ => Option.none

/-- Every call fails because no connection is to be had any more. -/
def closedPool : Outage := fun _ => some DatabaseFault.poolClosed.toRefusal

/-- The calls with names from a list fail, each reporting a database fault of its own. -/
def ofNames (names : List String) (reason : String -> String) : Outage :=
  fun call =>
    if names.contains call.name then some (.database (reason call.name)) else Option.none

/-- The result of a call, unless the call fails. -/
def guard {α : Type} (outage : Outage) (call : StorageCall) (result : Except Failure α) :
    Except Failure α :=
  match outage call with
  | some refusal => .error (.refused refusal)
  | Option.none => result

/-- A reader some of whose calls fail. -/
def reader (outage : Outage) (reader : Reader) : Reader where
  findAccount := fun iban => outage.guard .findAccount (reader.findAccount iban)
  findTransfer := fun id => outage.guard .findTransfer (reader.findTransfer id)
  listTransfers := fun iban filter request =>
    outage.guard .listTransfers (reader.listTransfers iban filter request)
  summarize := fun iban => outage.guard .summarize (reader.summarize iban)
  outgoing := fun iban => outage.guard .outgoingTransfers (reader.outgoing iban)
  dailyOutgoingSince := fun iban since =>
    outage.guard .dailyOutgoingSince (reader.dailyOutgoingSince iban since)
  dailyLimit := fun iban date => outage.guard .findLimit (reader.dailyLimit iban date)

/-- Answer a question within a transaction, unless the call fails. -/
def serve
    (outage : Outage)
    (store : Store)
    (current : Option TransactionId)
    (ask : LedgerAsk) : Served ask :=
  match ask.call?.bind outage, current with
  | Option.none, current => store.serve current ask
  | some refusal, Option.none => .answered (ask.refuse refusal) Option.none store
  | some refusal, some id =>
      if ask.ends then .answered (ask.refuse refusal) Option.none (store.close id)
      else .answered (ask.refuse refusal) (some id) store

end Outage
end Giro
