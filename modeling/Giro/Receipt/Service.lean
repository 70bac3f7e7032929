import Giro.Account.Caller
import Giro.Query.Reader
import Giro.Receipt.Backoff
import Giro.Receipt.Breaker
import Giro.Script

/-!
# Issuing receipts

A receipt is rendered for the two parties of a transfer and for administrators.
Rendering may fail: some failures are worth another attempt after a pause, up to
a number of attempts. Every attempt has to be allowed by a breaker, to which its
outcome is reported.
-/

namespace Giro

/-- What comes of rendering a receipt. -/
inductive Rendering
  | rendered (text : String)
  | transient (reason : String)
  | fatal (reason : String)
deriving DecidableEq

/-- What issuing a receipt asks for. -/
inductive ReceiptAsk
  | allowed
  | render (details : TransferDetails)
  | succeeded
  | failed
  | pause (delay attempt : Nat)
deriving DecidableEq

/-- What issuing a receipt is answered. -/
def ReceiptAsk.Answer : ReceiptAsk -> Type
  | allowed => Except Overflow Bool
  | render _ => Rendering
  | succeeded => Unit
  | failed => Unit
  | pause _ _ => Unit

/-- The surroundings in which receipts are issued. -/
def receiptSurroundings : Interface where
  Ask := ReceiptAsk
  Answer := ReceiptAsk.Answer

/-- A computation in the surroundings in which receipts are issued. -/
abbrev ReceiptScript := Script receiptSurroundings

/-- A receipt that was issued. -/
structure Receipt where
  reference : String
  text : String
deriving DecidableEq

/-- No transfer has the number asked for. -/
def Refusal.noSuchTransfer (id : Int) : Refusal :=
  .notFound ("Transfer not found: " ++ Text.showInt id)

/-- The caller is no party of the transfer. -/
def Refusal.notParty : Refusal :=
  .forbidden "You are not authorized to view this receipt"

/-- Receipts cannot be rendered for the time being. -/
def Refusal.receiptUnavailable : Refusal :=
  .serviceUnavailable "Receipt generation temporarily unavailable"

/-- A receipt cannot be rendered at all. -/
def Refusal.renderingFailed (reason : String) : Refusal :=
  .system ("Receipt rendering failed: " ++ reason)

namespace Receipt

/-- The type of the document. -/
def contentType : String := "text/plain; charset=utf-8"

/-- Whether a caller may see the receipt of a transfer. -/
def mayView (caller : Caller) (details : TransferDetails) : Bool :=
  caller.isAdmin || details.sender.userId = caller.userId ||
    details.receiver.userId = caller.userId

/-- The transfer with a number, if the caller may see its receipt. -/
def lookUp (reader : Reader) (id : Int) (caller : Caller) :
    Except Failure TransferDetails := do
  match <- reader.findTransfer id with
  | none => .error (.refused (.noSuchTransfer id))
  | some details =>
      if mayView caller details then .ok details else .error (.refused .notParty)

/-- The attempt with a number to render a receipt, and the attempts left after it. -/
def attempt (policy : RetryPolicy) (details : TransferDetails) :
    (left number : Nat) -> ReceiptScript (Except Failure String)
  | left, number =>
      .ask .allowed (fun (allowed : Except Overflow Bool) =>
        match allowed with
        | .error overflow => .done (.error (.overflowed overflow))
        | .ok false => .done (.error (.refused .receiptUnavailable))
        | .ok true =>
            .ask (.render details) (fun (rendering : Rendering) =>
              match rendering with
              | .rendered text => .ask .succeeded (fun _ => .done (.ok text))
              | .fatal reason =>
                  .ask .failed (fun _ =>
                    .done (.error (.refused (.renderingFailed reason))))
              | .transient _ =>
                  .ask .failed (fun _ =>
                    match left with
                    | 0 => .done (.error (.refused .receiptUnavailable))
                    | left + 1 =>
                        .ask (.pause (policy.baseDelay number) number) (fun _ =>
                          attempt policy details left (number + 1)))))

/-- Render the receipt of a transfer. -/
def render (policy : RetryPolicy) (details : TransferDetails) :
    ReceiptScript (Except Failure String) :=
  attempt policy details (policy.maxAttempts - 1) 1

/-- The receipt of the transfer with a number, on behalf of a caller. -/
def issue (reader : Reader) (policy : RetryPolicy) (id : Int) (caller : Caller) :
    ReceiptScript (Except Failure Receipt) :=
  match lookUp reader id caller with
  | .error failure => .done (.error failure)
  | .ok details =>
      (render policy details).bind (fun rendered =>
        .done (rendered.map (fun text => ⟨details.transfer.reference, text⟩)))

end Receipt
end Giro
