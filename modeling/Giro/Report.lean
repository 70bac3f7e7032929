import Giro.Account.Caller
import Giro.Audit
import Giro.Json.Value
import Giro.Notification.Outlet
import Giro.Query.Category
import Giro.Receipt.Breaker
import Giro.Transfer.Posting
import Giro.Transfer.View

/-!
# Reports

What a bank knows as JSON, for whoever operates it. Amounts keep the digits with
which they are stored.
-/

namespace Giro

/-- A natural number. -/
def Json.natural (number : Nat) : Json := .number number

/-- An amount with the digits it has. -/
def Json.decimal (number : Decimal) : Json := .text number.toText

/-- A value that may be missing. -/
def Json.nullable {α : Type} (encode : α -> Json) : Option α -> Json
  | some value => encode value
  | none => .null

/-- The owner of an account. -/
def Owner.toJson (owner : Owner) : Json :=
  .object
    [("user_id", .number owner.userId), ("name", .text owner.displayName),
      ("email", .text owner.email), ("is_active", .bool owner.isActive)]

/-- An account with its owner. -/
def Account.toJson (account : Account) : Json :=
  .object
    [("account_id", .number account.accountId), ("iban", .text account.iban),
      ("balance", .decimal account.balance), ("currency", .text account.currency.code),
      ("status", .text account.status.word), ("daily_limit", .decimal account.dailyLimit),
      ("is_active", .bool account.isActive), ("operational", .bool account.isOperational),
      ("owner", account.owner.toJson)]

/-- A caller, field by field. -/
def Caller.members (caller : Caller) : List (String × Json) :=
  [("user_id", .number caller.userId), ("role", .text caller.role.name),
    ("principal", .text caller.principal), ("origin", .optionalText caller.origin),
    ("is_admin", .bool caller.isAdmin), ("display", .text caller.display)]

/-- The use of a limit on a day. -/
def DailyLimit.toJson (row : DailyLimit) : Json :=
  .object
    [("iban", .text row.iban), ("date", .text row.date.toText), ("used", .decimal row.used),
      ("daily_limit", .decimal row.limit)]

/-- Both balances after a posting, and the use of the limit. -/
def Posting.toJson (posting : Posting) : Json :=
  .object
    [("sender", .decimal posting.sender.balance),
      ("receiver", .decimal posting.receiver.balance), ("daily", posting.daily.toJson)]

/-- Both rows of a transfer. -/
def LockedPair.toJson (pair : LockedPair) : Json :=
  .object [("sender", pair.sender.toJson), ("receiver", pair.receiver.toJson)]

/-- A transfer with both owners. -/
def TransferDetails.toJson (details : TransferDetails) : Json :=
  .object
    [("record", details.transfer.toJson), ("sender", details.sender.toJson),
      ("receiver", details.receiver.toJson)]

/-- A page whose items are written in a given form. -/
def Page.toJson {α : Type} (encode : α -> Json) (page : Page α) : Json :=
  .object
    [("items", .list (page.items.map encode)), ("page", .natural page.page),
      ("size", .natural page.size), ("total_items", .natural page.totalItems),
      ("total_pages", .natural page.totalPages)]

/-- What an account sent and received, the amounts in a given form. -/
def TransferSummary.toJson (amount : Decimal -> Json) (summary : TransferSummary) : Json :=
  .object
    [("total_sent", amount summary.totalSent), ("total_received", amount summary.totalReceived),
      ("count", .natural summary.count)]

/-- What was sent on a day, the amount in a given form. -/
def DailySpend.toJson (amount : Decimal -> Json) (spend : DailySpend) : Json :=
  .object [("date", .text spend.date.toText), ("total_amount", amount spend.total)]

/-- Label, amount and percentage of a category. -/
def CategoryShare.toJson (share : CategoryShare) : Json :=
  .list
    [.text share.category.label, .decimal share.amount, .decimal share.percentage.normalize]

/-- An entry of the audit trail. -/
def AuditEntry.toJson (entry : AuditEntry) : Json :=
  .object
    [("action", .text entry.action), ("actor", .text entry.actor),
      ("detail", .text entry.detail), ("origin", .text entry.origin),
      ("created_at", .text entry.createdAt.toText)]

/-- An event with its topic. -/
def Delivery.toJson (delivery : Delivery) : Json :=
  .object [("topic", .text delivery.topic), ("event", delivery.event.toJson)]

/-- An envelope. -/
def Envelope.toJson (envelope : Envelope) : Json :=
  .object [("topic", .text envelope.topic), ("payload", .text envelope.payload)]

/-- An email. -/
def Email.toJson (email : Email) : Json :=
  .object
    [("to", .text email.recipient), ("subject", .text email.subject),
      ("body", .text email.body)]

/-- A stage, whether it is kept, the stage after it, and whether it follows the locking. -/
def Stage.toJson (stage : Stage) : Json :=
  .object
    [("stage", .text stage.name), ("durable", .bool stage.isDurable),
      ("next", .nullable (fun next => .text next.name) stage.next?),
      ("after_locked", .bool (decide (locked.position < stage.position)))]

end Giro
