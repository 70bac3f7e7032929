import Giro.Gateway.Fault
import Giro.Json.Record
import Giro.Transfer.Record

/-!
# Transfers asked for by JSON

The body of a request for a transfer: two account numbers, an amount as a string
or as a number, and perhaps a currency and a description. The lengths are
checked first, all at once, then the amount, then the numbers and the currency.
-/

namespace Giro

/-- An amount as it was written. -/
inductive AmountInput
  | text (value : String)
  | number (value : Json.Number)
deriving DecidableEq

namespace AmountInput

/-- The text of an amount; a number is written the way JSON writes it. -/
def toText : AmountInput -> String
  | text value => value
  | number value => value.toText

/-- The amount. -/
def amount (input : AmountInput) : Except ApiFault Decimal :=
  match Money.parse input.toText with
  | .ok amount => .ok amount
  | .error fault => .error (.ofAmount fault)

/-- The amount as it was written, of a JSON datum. -/
def ofDatum? : Json.Datum -> Option AmountInput
  | .text value => some (text value)
  | .number value => some (number value)
  | _ => none

/-- The amount as it was written in a JSON text that is nothing else. -/
def read (source : String) : Except Json.Fault AmountInput :=
  match Json.readSingle .textOrNumber (Json.Token.ofText source) with
  | .error fault => .error fault
  | .ok datum =>
      match ofDatum? datum with
      | some input => .ok input
      | none => .error .mismatched

end AmountInput

/-- A request for a transfer as it was written. -/
structure TransferForm where
  sender : String
  receiver : String
  amount : AmountInput
  currency : Option String
  description : Option String
deriving DecidableEq

namespace TransferForm

/-- The fields of the body. -/
def layout : Json.Layout :=
  [("sender_iban", .text), ("receiver_iban", .text), ("amount", .textOrNumber),
    ("currency", .optionalText), ("description", .optionalText)]

/-- The form in the bytes of a body. -/
def read (body : List UInt8) : Except Json.Fault TransferForm :=
  match Json.readRecord layout (Json.Token.ofBytes body) with
  | .error fault => .error fault
  | .ok [.text sender, .text receiver, amount, .optionalText currency,
      .optionalText description] =>
      match AmountInput.ofDatum? amount with
      | some amount => .ok ⟨sender, receiver, amount, currency, description⟩
      | none => .error .mismatched
  | .ok _ => .error .mismatched

/-- The most characters of an account number as it is written, blanks included. -/
def maxIbanLength : Nat := 42

/-- The most characters of a description. -/
def maxDescriptionLength : Nat := 255

/-- Whether an account number as it is written has an acceptable length. -/
def ibanFits (spelling : String) : Bool :=
  1 <= spelling.length && spelling.length <= maxIbanLength

/-- What is wrong with the lengths of the fields, by name of the field. -/
def lengthFaults (form : TransferForm) : List String :=
  let description :=
    if form.description.all (fun text => text.length <= maxDescriptionLength) then []
    else ["description: description must be at most 255 characters"]
  let receiver :=
    if ibanFits form.receiver then [] else ["receiver_iban: receiver_iban is required"]
  let sender :=
    if ibanFits form.sender then [] else ["sender_iban: sender_iban is required"]
  description ++ receiver ++ sender

/-- Refuse a form with fields of the wrong length. -/
def checkLengths (form : TransferForm) : Except ApiFault Unit :=
  if form.lengthFaults.isEmpty then .ok ()
  else .error (.badRequest ("\n".intercalate form.lengthFaults))

/-- The account number that a field names. -/
def account (spelling : String) : Except ApiFault String :=
  match Iban.parse spelling with
  | .ok iban => .ok iban.text
  | .error fault => .error (.badRequest fault.message)

/-- The currency asked for; a blank one is none. -/
def currency? (form : TransferForm) : Except ApiFault (Option Currency) :=
  match form.currency with
  | none => .ok none
  | some code =>
      if Text.allBlank code then .ok none
      else
        match Currency.parse code with
        | .ok currency => .ok (some currency)
        | .error reason => .error (.ofRefusal (.unsupported reason))

/-- The transfer that a form asks for. -/
def request (form : TransferForm) : Except ApiFault TransferRequest := do
  form.checkLengths
  let amount <- form.amount.amount
  let sender <- account form.sender
  let receiver <- account form.receiver
  let currency <- form.currency?
  .ok ⟨sender, receiver, amount, currency, form.description⟩

end TransferForm
end Giro
