import Giro.Account.Caller
import Giro.Time.Instant

/-!
# Audit trail

One entry is written for each committed transfer: who caused it, from where, and
under which reference it can be found.
-/

namespace Giro

/-- An entry of the audit trail. -/
structure AuditEntry where
  action : String
  actor : String
  detail : String
  origin : String
  createdAt : Instant
deriving DecidableEq

namespace AuditEntry

/-- The action recorded for a transfer. -/
def transferAction : String := "MONEY_TRANSFER"

/-- The origin recorded when the caller's address is not known. -/
def unknownOrigin : String := "unknown"

/-- The entry for a transfer that was committed. -/
def ofTransfer (caller : Caller) (reference : String) (now : Instant) : AuditEntry :=
  ⟨transferAction, caller.principal, "Reference: " ++ reference,
    caller.origin.getD unknownOrigin, now⟩

end AuditEntry
end Giro
