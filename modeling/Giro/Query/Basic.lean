import Giro.Account.Caller
import Giro.Query.Category
import Giro.Query.Reader

/-!
# Queries

What callers may learn about an account: the transfers in and out of it, their
totals, and what was spent on what and when. Administrators see every account,
others their own. For anyone else an account that does not exist looks like one
that belongs to somebody else.
-/

namespace Giro

/-- The caller has no access to the account. -/
def Refusal.notViewer : Refusal :=
  .forbidden "You are not authorized to view this account"

/-- An administrator asks for an account that does not exist. -/
def Refusal.noSuchAccount (iban : String) : Refusal :=
  .notFound ("Account not found: " ++ iban)

/-- The bounds on amounts leave nothing between them. -/
def Refusal.amountBounds : Refusal :=
  .invalidArgument "min_amount must not exceed max_amount"

/-- The bounds on time leave nothing between them. -/
def Refusal.timeBounds : Refusal :=
  .invalidArgument "start must not be after end"

namespace Query

/-- Days that the trend covers, today included. -/
def trendDays : Nat := 7

/-- The account with a number in any spelling, if the caller may see it. -/
def authorize (reader : Reader) (spelling : String) (caller : Caller) :
    Except Failure Account := do
  let iban := Iban.normalize spelling
  match <- reader.findAccount iban with
  | some account =>
      if caller.mayUse account then .ok account else .error (.refused .notViewer)
  | none =>
      if caller.isAdmin then .error (.refused (.noSuchAccount iban))
      else .error (.refused .notViewer)

/-- Whether two bounds, if both are given, leave nothing between them. -/
def crossed {α : Type} [LT α] [DecidableLT α] (least most : Option α) : Bool :=
  match least, most with
  | some least, some most => decide (most < least)
  | _, _ => false

/-- One page of the transfers of an account within bounds, newest first. -/
def filterHistory
    (reader : Reader)
    (spelling : String)
    (filter : TransferFilter)
    (request : PageRequest)
    (caller : Caller) : Except Failure (Page Transfer) :=
  if crossed filter.minAmount filter.maxAmount then .error (.refused .amountBounds)
  else if crossed filter.start filter.stop then .error (.refused .timeBounds)
  else do
    let account <- authorize reader spelling caller
    reader.listTransfers account.iban filter request

/-- One page of the transfers of an account, newest first. -/
def history
    (reader : Reader)
    (spelling : String)
    (request : PageRequest)
    (caller : Caller) : Except Failure (Page Transfer) :=
  filterHistory reader spelling .unbounded request caller

/-- What an account sent and received altogether. -/
def summary (reader : Reader) (spelling : String) (caller : Caller) :
    Except Failure TransferSummary := do
  let account <- authorize reader spelling caller
  reader.summarize account.iban

/-- What an account spent, by category. -/
def categories (reader : Reader) (spelling : String) (caller : Caller) :
    Except Failure (List CategoryShare) := do
  let account <- authorize reader spelling caller
  let outgoing <- reader.outgoing account.iban
  Failure.ofOverflow (CategoryShare.breakdown outgoing)

/-- The first instant that the trend of a day covers. -/
def trendStart (now : Instant) : Instant :=
  .midnight ((now.date.minusDays? (trendDays - 1)).getD now.date)

/-- What an account sent on each of the last days. -/
def weeklyTrend (reader : Reader) (now : Instant) (spelling : String) (caller : Caller) :
    Except Failure (List DailySpend) := do
  let account <- authorize reader spelling caller
  reader.dailyOutgoingSince account.iban (trendStart now)

end Query
end Giro
