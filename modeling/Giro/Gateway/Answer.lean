import Giro.Gateway.Http
import Giro.Money
import Giro.Query.Category
import Giro.Receipt.Service
import Giro.Report

/-!
# Answers to requests

What succeeded is answered in an envelope with code zero; amounts in it are
written the way they are shown. A receipt is answered as a document to be saved
under a name made of its reference, which has to be fit for a header.
-/

namespace Giro
namespace Answer

/-- A success with its data. -/
def success (data : Json) : HttpResponse :=
  .ofJson 200 (.object [("code", .number 0), ("msg", .text "ok"), ("data", data)])

/-- An amount as it is shown. -/
def amount (value : Decimal) : Json :=
  .text (Money.format value)

/-- A transfer. -/
def transfer (transfer : Transfer) : Json :=
  transfer.toJsonWith Money.format

/-- A page of transfers. -/
def page (page : Page Transfer) : Json :=
  page.toJson transfer

/-- What an account sent and received. -/
def summary (summary : TransferSummary) : Json :=
  summary.toJson amount

/-- The share of a category. -/
def share (share : CategoryShare) : Json :=
  .object
    [("category", .text share.category.label),
      ("amount", amount share.amount),
      ("percentage", amount share.percentage)]

/-- What was sent on a day. -/
def spend (spend : DailySpend) : Json :=
  spend.toJson amount

/-- Whether a character may stand in a header. -/
def fitsHeader (character : Char) : Bool :=
  character = '\t' || (0x20 <= character.toNat && character.toNat != 0x7F)

/-- The header that tells under which name a receipt is to be saved. -/
def disposition (reference : String) : String :=
  "attachment; filename=\"receipt-" ++ reference ++ ".txt\""

/-- A receipt; there is no answer to be had for a reference that fits no header. -/
def receipt (receipt : Receipt) : HttpResponse :=
  if receipt.reference.toList.all fitsHeader then
    ⟨200, .document (disposition receipt.reference) receipt.text⟩
  else .bare 500

/-- That the service is there, and when it said so. -/
def health (now : Instant) : Json :=
  .object [("timestamp_ms", .number now.millis), ("store", .text "memory")]

end Answer
end Giro
