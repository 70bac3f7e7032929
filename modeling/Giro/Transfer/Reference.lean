import Giro.Power
import Giro.Time.Instant
import Giro.Uuid

/-!
# Reference codes

The code under which a transfer is known to the outside: the time in
milliseconds and a suffix of at least five hexadecimal digits that tells apart
the transfers of one millisecond.
-/

namespace Giro
namespace Reference

/-- Digits of a suffix, more only where its number does not fit them. -/
def suffixDigits : Nat := 5

/-- The code for an instant and the number that makes up its suffix. -/
def code (now : Instant) (number : Nat) : String :=
  "TX-" ++ Text.showInt now.millis ++ "-" ++ Text.showHexUpper suffixDigits number

/-- The code for an instant whose suffix is made of the first digits of an identifier. -/
def ofUuid (now : Instant) (identifier : Uuid) : String :=
  code now (identifier.number / twoTo (4 * (32 - suffixDigits)) % twoTo (4 * suffixDigits))

end Reference
end Giro
