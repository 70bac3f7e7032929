import Giro.Money
import Giro.Transfer.Record

/-!
# Receipts

The document that confirms a transfer: a title, and between two rules one row
for each fact, its label filled up to a fixed width.
-/

namespace Giro
namespace Receipt

/-- The first line. -/
def title : String := "BANK TRANSACTION RECEIPT"

/-- The line above and below the rows. -/
def rule : String := String.ofList (List.replicate 50 '=')

/-- The last line. -/
def footer : String :=
  "This receipt is computer-generated and does not require a signature."

/-- The width of labels. -/
def labelWidth : Nat := 22

/-- What stands for a description that says nothing. -/
def noDescription : String := "-"

/-- Day, month and year, and the minute of the day. -/
def minuteText (instant : Instant) : String :=
  let civil := instant.date.toCivil
  Text.showPadded 2 civil.day ++ "." ++ Text.showPadded 2 civil.month ++ "." ++
    Date.showYear civil.year ++ " " ++ Text.showPadded 2 (instant.secondOfDay / 3600) ++
    ":" ++ Text.showPadded 2 (instant.secondOfDay / 60 % 60)

/-- The description as it is shown; a blank one says nothing. -/
def descriptionText : Option String -> String
  | none => noDescription
  | some description =>
      if Text.allBlank description then noDescription else description

/-- Labels and values of all rows. -/
def rows (details : TransferDetails) : List (String × String) :=
  let transfer := details.transfer
  [("Transaction Reference", transfer.reference),
    ("Date", minuteText transfer.createdAt),
    ("Sender Name", details.sender.displayName),
    ("Sender IBAN", transfer.sender),
    ("Receiver Name", details.receiver.displayName),
    ("Receiver IBAN", transfer.receiver),
    ("Amount", Money.format transfer.amount ++ " " ++ transfer.currency.code),
    ("Description", descriptionText transfer.description),
    ("Status", transfer.status.word)]

/-- A label filled up with blanks to the width of labels. -/
def padLabel (label : String) : String :=
  String.ofList (label.toList.rightpad labelWidth ' ')

/-- One row. -/
def rowText (row : String × String) : String :=
  padLabel row.1 ++ ": " ++ row.2

/-- The lines of a receipt. -/
def lines (details : TransferDetails) : List String :=
  [title, rule] ++ (rows details).map rowText ++ [rule, footer]

/-- The receipt for a transfer, every line of it ended by a line feed. -/
def document (details : TransferDetails) : String :=
  String.join ((lines details).map (fun line => line ++ "\n"))

end Receipt
end Giro
