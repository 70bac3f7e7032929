import Giro.Gateway.Fault
import Giro.Time.Rfc3339
import Giro.Transfer.Page

/-!
# Histories asked for by query

The query of a request for a history: which page, of which size, and bounds on
amount and time. A name that occurs twice, a page that is no number of 32 bits
and a time that is none make the query unreadable; other names are passed over.
-/

namespace Giro

/-- A request for a history as it was written. -/
structure HistoryForm where
  page : Option Nat
  size : Option Nat
  minAmount : Option String
  maxAmount : Option String
  start : Option Instant
  stop : Option Instant
deriving DecidableEq

namespace HistoryForm

/-- The names that a query may give. -/
def names : List String := ["page", "size", "min_amount", "max_amount", "start", "end"]

/-- A natural number of 32 bits. -/
def readNat32? (text : String) : Option Nat :=
  match text.toList with
  | '-' :: _ => none
  | characters => (Text.readInt? 0 0xFFFFFFFF characters).map Int.toNat

/-- The value of a field that may be missing, if it can be read. -/
def field? {α : Type}
    (pairs : List (String × String))
    (name : String)
    (read : String -> Option α) : Option (Option α) :=
  match pairs.lookup name with
  | none => some none
  | some text => (read text).map some

/-- Whether no name that matters occurs twice. -/
def namesDiffer (pairs : List (String × String)) : Bool :=
  names.all (fun name => (pairs.filter (fun pair => pair.1 == name)).length <= 1)

/-- The form in a query, if it can be read. -/
def read? (pairs : List (String × String)) : Option HistoryForm :=
  if !namesDiffer pairs then none
  else do
    let page <- field? pairs "page" readNat32?
    let size <- field? pairs "size" readNat32?
    let start <- field? pairs "start" Instant.ofText?
    let stop <- field? pairs "end" Instant.ofText?
    some ⟨page, size, pairs.lookup "min_amount", pairs.lookup "max_amount", start, stop⟩

/-- A bound on amounts. -/
def bound : Option String -> Except ApiFault (Option Decimal)
  | none => .ok none
  | some text =>
      match Money.parse text with
      | .ok amount => .ok (some amount)
      | .error fault => .error (.badRequest ("Invalid amount bound: " ++ fault.message))

/-- The filter that a form asks for. -/
def filter (form : HistoryForm) : Except ApiFault TransferFilter := do
  let minAmount <- bound form.minAmount
  let maxAmount <- bound form.maxAmount
  .ok ⟨minAmount, maxAmount, form.start, form.stop⟩

/-- The page that a form asks for. -/
def pageRequest (form : HistoryForm) : PageRequest :=
  .make (form.page.getD 0) (form.size.getD PageRequest.defaultSize)

end HistoryForm
end Giro
