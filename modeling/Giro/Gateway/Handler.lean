import Giro.Bank.Operations
import Giro.Gateway.Answer
import Giro.Gateway.Call
import Giro.Gateway.Description

/-!
# Handling requests

A request that is understood is carried out by the bank, and its outcome is put
into a response.
-/

namespace Giro

/-- How the handling of a request ends: a receipt that is never rendered leaves it open. -/
inductive Handling
  | responded (response : HttpResponse)
  | overflowed (overflow : Overflow)
  | unanswered

namespace Handling

/-- Respond with a result in a given form, or with the fault that its refusal makes. -/
def ofOutcome {α : Type} (answer : α -> HttpResponse) : Except Failure α -> Handling
  | .ok value => responded (answer value)
  | .error (.refused refusal) => responded (ApiFault.ofRefusal refusal).respond
  | .error (.overflowed overflow) => overflowed overflow

/-- The handling of a request with some method. -/
def forMethod (handling : Handling) (method : String) : Handling :=
  match handling with
  | responded response => responded (response.forMethod method)
  | handling => handling

end Handling

namespace Bank

/-- Carry out what a request calls for. -/
def carryOut (bank : Bank) : Call -> Handling × Bank
  | .health => (.responded (Answer.success (Answer.health bank.clock)), bank)
  | .description => (.responded (.ofJson 200 Description.document), bank)
  | .transfer request caller =>
      let (outcome, bank) := bank.transfer request caller
      (.ofOutcome (fun transfer => Answer.success (Answer.transfer transfer)) outcome, bank)
  | .receipt id caller =>
      match bank.receipt id caller none with
      | (some outcome, bank) => (.ofOutcome Answer.receipt outcome, bank)
      | (none, bank) => (.unanswered, bank)
  | .history iban filter page caller =>
      (.ofOutcome (fun page => Answer.success (Answer.page page))
        (Query.filterHistory bank.reader iban filter page caller), bank)
  | .summary iban caller =>
      (.ofOutcome (fun summary => Answer.success (Answer.summary summary))
        (Query.summary bank.reader iban caller), bank)
  | .categories iban caller =>
      (.ofOutcome (fun shares => Answer.success (.list (shares.map Answer.share)))
        (Query.categories bank.reader iban caller), bank)
  | .weeklyTrend iban caller =>
      (.ofOutcome (fun spends => Answer.success (.list (spends.map Answer.spend)))
        (Query.weeklyTrend bank.reader bank.clock iban caller), bank)

/-- Handle a request. -/
def handle (bank : Bank) (request : HttpRequest) : Handling × Bank :=
  match Call.ofRequest request with
  | .error response => (.responded (response.forMethod request.method), bank)
  | .ok call =>
      let (handling, bank) := bank.carryOut call
      (handling.forMethod request.method, bank)

end Bank
end Giro
