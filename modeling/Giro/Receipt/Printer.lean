import Giro.Receipt.Service
import Giro.Receipt.Text

/-!
# Receipt printers

A printer turns the details of a transfer into a document. It may be scheduled
to misbehave: its next calls then end otherwise, or never.
-/

namespace Giro

/-- What a printer does when it is called. -/
inductive PrinterAct
  | prints
  | answers (rendering : Rendering)
  | hangs
deriving DecidableEq

/-- A printer, what it does on its next calls, and how often it was called. -/
structure Printer where
  schedule : List PrinterAct
  calls : Nat
deriving DecidableEq

namespace Printer

/-- Call the printer: its answer, unless it hangs, and the printer after the call. -/
def render (printer : Printer) (details : TransferDetails) :
    Option Rendering × Printer :=
  let after : Printer := ⟨printer.schedule.tail, printer.calls + 1⟩
  match printer.schedule.headD .prints with
  | .prints => (some (.rendered (Receipt.document details)), after)
  | .answers rendering => (some rendering, after)
  | .hangs => (none, after)

end Printer
end Giro
