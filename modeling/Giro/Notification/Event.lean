import Giro.Json.Record
import Giro.Json.Value
import Giro.Money

/-!
# Transfer events and emails

After a transfer an event is addressed to the sender's owner. Events travel as
JSON objects and end as emails.
-/

namespace Giro

/-- The news of a transfer, addressed to the owner of the sending account. -/
structure TransferEvent where
  recipientAddress : String
  recipientName : String
  amount : Decimal
  receiver : String
  reference : String
deriving DecidableEq

namespace TransferEvent

/-- The fields of an event in JSON. -/
def layout : Json.Layout :=
  [("recipient_address", .text), ("recipient_name", .text), ("amount", .decimal),
    ("receiver_iban", .text), ("reference_code", .text)]

/-- The event as JSON. -/
def toJson (event : TransferEvent) : Json :=
  .object
    [("recipient_address", .text event.recipientAddress),
      ("recipient_name", .text event.recipientName),
      ("amount", .text event.amount.toText),
      ("receiver_iban", .text event.receiver),
      ("reference_code", .text event.reference)]

/-- The event as a JSON text. -/
def encode (event : TransferEvent) : String :=
  event.toJson.render

/-- The event that a JSON text describes. -/
def decode (source : String) : Except Json.Fault TransferEvent :=
  match Json.readRecord layout (Json.Token.ofText source) with
  | .ok [.text address, .text name, .decimal amount, .text receiver, .text reference] =>
      .ok ⟨address, name, amount, receiver, reference⟩
  | .ok _ => .error .mismatched
  | .error fault => .error fault

end TransferEvent

/-- An email to be sent. -/
structure Email where
  recipient : String
  subject : String
  body : String
deriving DecidableEq

namespace Email

/-- The email that tells of a transfer. -/
def ofTransfer (event : TransferEvent) : Email where
  recipient := event.recipientAddress
  subject := "Transfer Notification - Ref: " ++ event.reference
  body :=
    "Hello " ++ event.recipientName ++ ",\n\nYour transfer of " ++
      Money.format event.amount ++ " to " ++ event.receiver ++
      " has been completed successfully.\nReference: " ++ event.reference ++
      "\n\nThank you for banking with us."

end Email
end Giro
