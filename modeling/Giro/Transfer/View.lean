import Giro.Json.Record
import Giro.Json.Value
import Giro.Transfer.Record

/-!
# Transfers as JSON

A recorded transfer as one JSON object, and the transfer that such an object
describes.
-/

namespace Giro
namespace Transfer

/-- The fields of a transfer in JSON. -/
def layout : Json.Layout :=
  [("id", .integer), ("external_id", .uuid), ("reference_code", .text),
    ("sender_iban", .text), ("receiver_iban", .text), ("amount", .decimal),
    ("currency", .word (Currency.all.map Currency.code)),
    ("transfer_type", .word (TransferType.all.map TransferType.word)),
    ("status", .word (TransferStatus.all.map TransferStatus.word)),
    ("description", .optionalText), ("created_at", .instant)]

/-- The transfer as JSON with its amount in a given form. -/
def toJsonWith (amountText : Decimal -> String) (transfer : Transfer) : Json :=
  .object
    [("id", .number transfer.id),
      ("external_id", .text transfer.externalId.toText),
      ("reference_code", .text transfer.reference),
      ("sender_iban", .text transfer.sender),
      ("receiver_iban", .text transfer.receiver),
      ("amount", .text (amountText transfer.amount)),
      ("currency", .text transfer.currency.code),
      ("transfer_type", .text transfer.type.word),
      ("status", .text transfer.status.word),
      ("description", Json.optionalText transfer.description),
      ("created_at", .text transfer.createdAt.toText)]

/-- The transfer as JSON, its amount as it is stored. -/
def toJson (transfer : Transfer) : Json :=
  transfer.toJsonWith Decimal.toText

/-- The transfer made of the values of all fields. -/
def ofData? : List Json.Datum -> Option Transfer
  | [.integer id, .uuid externalId, .text reference, .text sender, .text receiver,
      .decimal amount, .text currency, .text type, .text status,
      .optionalText description, .instant createdAt] => do
      let currency <- Currency.ofCode? currency
      let type <- TransferType.ofWord? type
      let status <- TransferStatus.ofWord? status
      some
        { id := id
          externalId := externalId
          reference := reference
          sender := sender
          receiver := receiver
          amount := amount
          currency := currency
          type := type
          status := status
          description := description
          createdAt := createdAt }
  | _ => none

/-- The transfer that a JSON text describes. -/
def decode (source : String) : Except Json.Fault Transfer :=
  match Json.readRecord layout (Json.Token.ofText source) with
  | .error fault => .error fault
  | .ok data =>
      match ofData? data with
      | some transfer => .ok transfer
      | none => .error .mismatched

end Transfer
end Giro
