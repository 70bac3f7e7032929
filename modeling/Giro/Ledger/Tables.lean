import Giro.Decimal.Arithmetic
import Giro.Refusal
import Giro.Table
import Giro.Transfer.Page

/-!
# Ledger tables

The committed state of the ledger: accounts by number, daily limits by account
and day, and the log of transfers, oldest entry first. Reading never changes
anything; sums over the log fail when they leave the range of decimals.
-/

namespace Giro

/-- The committed rows of the ledger. -/
structure Tables where
  accounts : Table String Account
  limits : Table (String × Date) DailyLimit
  transfers : List Transfer

/-- What an account sent and received altogether. -/
structure TransferSummary where
  totalSent : Decimal
  totalReceived : Decimal
  count : Nat
deriving DecidableEq

/-- What an account sent on one day. -/
structure DailySpend where
  date : Date
  total : Decimal
deriving DecidableEq

/-- Both sides of a recorded transfer have to exist. -/
def Refusal.unknownAccount (id : Int) : Refusal :=
  .system ("Transfer " ++ Text.showInt id ++ " references unknown account")

namespace Tables

/-- Tables without rows. -/
def empty : Tables := ⟨.empty, .empty, []⟩

/-- Whether the log holds the reference or the external identifier of a transfer. -/
def referenceTaken (tables : Tables) (transfer : Transfer) : Bool :=
  tables.transfers.any (fun logged => logged.clashesWith transfer)

/-- The account with a number. -/
def findAccount (tables : Tables) (iban : String) : Option Account :=
  tables.accounts.get? iban

/-- The limit of an account on a day. -/
def dailyLimit (tables : Tables) (iban : String) (date : Date) : Option DailyLimit :=
  tables.limits.get? (iban, date)

/-- The owner of an account that a transfer refers to. -/
def ownerOf (tables : Tables) (id : Int) (iban : String) : Except Refusal Owner :=
  match tables.findAccount iban with
  | some account => .ok account.owner
  | none => .error (.unknownAccount id)

/-- The transfer with a number, along with the owners of both accounts. -/
def findTransfer (tables : Tables) (id : Int) : Except Refusal (Option TransferDetails) :=
  match tables.transfers.find? (fun transfer => transfer.id = id) with
  | none => .ok none
  | some transfer => do
      let sender <- tables.ownerOf id transfer.sender
      let receiver <- tables.ownerOf id transfer.receiver
      .ok (some ⟨transfer, sender, receiver⟩)

/-- Whether a transfer stands before another one in a list, newest first. -/
def newestFirst (left right : Transfer) : Bool :=
  decide (right.createdAt < left.createdAt) ||
    (!decide (left.createdAt < right.createdAt) && decide (right.id <= left.id))

/-- The transfers of an account that a filter accepts, newest first. -/
def matching (tables : Tables) (iban : String) (filter : TransferFilter) : List Transfer :=
  (tables.transfers.filter (fun transfer =>
    transfer.involves iban && filter.accepts transfer)).mergeSort newestFirst

/-- One page of the transfers of an account that a filter accepts. -/
def listTransfers
    (tables : Tables)
    (iban : String)
    (filter : TransferFilter)
    (request : PageRequest) : Except Overflow (Page Transfer) :=
  Page.ofList (tables.matching iban filter) request

/-- A summary with one more transfer counted. -/
def countTransfer (iban : String) (summary : TransferSummary) (transfer : Transfer) :
    Except Overflow TransferSummary := do
  let sent <-
    if transfer.sender == iban then summary.totalSent.add transfer.amount
    else .ok summary.totalSent
  let received <-
    if transfer.receiver == iban then summary.totalReceived.add transfer.amount
    else .ok summary.totalReceived
  .ok ⟨sent, received, summary.count + 1⟩

/-- What an account sent and received altogether. -/
def summarize (tables : Tables) (iban : String) : Except Overflow TransferSummary :=
  (tables.transfers.filter (fun transfer => transfer.involves iban)).foldlM
    (countTransfer iban) ⟨.zero, .zero, 0⟩

/-- The transfers that an account sent, oldest entry first. -/
def outgoing (tables : Tables) (iban : String) : List Transfer :=
  tables.transfers.filter (fun transfer => transfer.sender == iban)

/-- Totals by day, in ascending order, with one more amount added to its day. -/
def addToDay (date : Date) (amount : Decimal) :
    List DailySpend -> Except Overflow (List DailySpend)
  | [] => do .ok [⟨date, <- Decimal.zero.add amount⟩]
  | spend :: rest =>
      if date = spend.date then do
        .ok (⟨date, <- spend.total.add amount⟩ :: rest)
      else if date < spend.date then do
        .ok (⟨date, <- Decimal.zero.add amount⟩ :: spend :: rest)
      else do
        .ok (spend :: (<- addToDay date amount rest))

/-- What an account sent on each day since an instant, by ascending day. -/
def dailyOutgoingSince (tables : Tables) (iban : String) (since : Instant) :
    Except Overflow (List DailySpend) :=
  ((tables.outgoing iban).filter (fun transfer => decide (since <= transfer.createdAt))).foldlM
    (fun days transfer => addToDay transfer.createdAt.date transfer.amount days) []

/-- The sum of all balances. -/
def totalBalance (tables : Tables) : Except Overflow Decimal :=
  Decimal.sum (tables.accounts.values.map Account.balance)

/-- The tables with an account opened or replaced. -/
def insertAccount (account : Account) (tables : Tables) : Tables :=
  { tables with accounts := tables.accounts.put account.iban account }

/-- The tables with the active flag of a user set on all accounts of that user. -/
def setUserActive (userId : Int) (isActive : Bool) (tables : Tables) : Tables :=
  { tables with
    accounts :=
      tables.accounts.mapValues (fun account =>
        if account.owner.userId = userId then
          { account with owner := { account.owner with isActive := isActive } }
        else account) }

end Tables
end Giro
