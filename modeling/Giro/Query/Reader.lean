import Giro.Ledger.Tables

/-!
# Readers

What can be asked of a ledger without a transaction. The reader of tables
answers from the committed rows; other readers fail where theirs do not.
-/

namespace Giro

/-- The reading side of a ledger. -/
structure Reader where
  findAccount : String -> Except Failure (Option Account)
  findTransfer : Int -> Except Failure (Option TransferDetails)
  listTransfers : String -> TransferFilter -> PageRequest -> Except Failure (Page Transfer)
  summarize : String -> Except Failure TransferSummary
  outgoing : String -> Except Failure (List Transfer)
  dailyOutgoingSince : String -> Instant -> Except Failure (List DailySpend)
  dailyLimit : String -> Date -> Except Failure (Option DailyLimit)

namespace Reader

/-- The reader that answers from committed rows. -/
def ofTables (tables : Tables) : Reader where
  findAccount := fun iban => .ok (tables.findAccount iban)
  findTransfer := fun id => Failure.ofRefusal (tables.findTransfer id)
  listTransfers := fun iban filter request =>
    Failure.ofOverflow (tables.listTransfers iban filter request)
  summarize := fun iban => Failure.ofOverflow (tables.summarize iban)
  outgoing := fun iban => .ok (tables.outgoing iban)
  dailyOutgoingSince := fun iban since =>
    Failure.ofOverflow (tables.dailyOutgoingSince iban since)
  dailyLimit := fun iban date => .ok (tables.dailyLimit iban date)

end Reader
end Giro
