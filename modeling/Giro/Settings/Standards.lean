import Giro.Query.Basic
import Giro.Report
import Giro.Settings.Basic

/-!
# Standards

What holds unless an operator or a request says otherwise, gathered in one place.
-/

namespace Giro
namespace Settings

/-- A list of natural numbers. -/
def naturals (numbers : List Nat) : Json :=
  .list (numbers.map Json.natural)

/-- What holds unless something else is said. -/
def standards : Json :=
  let gateway := GatewaySettings.standard
  let breaker := BreakerSettings.standard
  let retry := RetryPolicy.standard
  .object
    [("page", naturals [PageRequest.firstPage, PageRequest.defaultSize, PageRequest.maxSize]),
      ("breaker", naturals [breaker.threshold, breaker.cooldown]),
      ("retry", naturals [retry.maxAttempts, retry.initialBackoff, retry.maxBackoff]),
      ("gateway", .list [.text gateway.host, .text (Text.showNat gateway.port)]),
      ("scales", naturals [Money.storedDigits, Money.shownDigits]),
      ("trend_days", .natural Query.trendDays),
      ("topic", .text Bank.standardTopic)]

end Settings
end Giro
