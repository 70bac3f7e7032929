import Giro.Proofs.Bank.Idle
import Giro.Proofs.Decimal.Shown
import Giro.Proofs.Gateway.Calls

/-!
# What requests do to the ledger

A request changes the ledger only as a transfer that is answered with success. What is turned
down has not asked the bank for anything, and what is not a transfer reads the ledger at most.
Whatever is said in an envelope has code zero exactly if the status tells of success.
-/

namespace Giro

/-! ## What becomes of a request -/

namespace Handling

/-- The status with which a request is answered, if it is. -/
def status? : Handling -> Option Nat
  | responded response => some response.status
  | _ => none

/-- What is responded is consistent, if anything is. -/
def Consistent (handling : Handling) : Prop :=
  ∀ response, handling = .responded response -> response.Consistent

/-- Only a request for the head is answered with less than what there is to say. -/
theorem forMethod_post (handling : Handling) : handling.forMethod "POST" = handling := by
  cases handling <;> rfl

theorem Consistent.forMethod
    {handling : Handling}
    (consistent : handling.Consistent)
    (method : String) :
    (handling.forMethod method).Consistent := by
  cases handling with
  | responded response =>
      rintro _ ⟨⟩
      exact (consistent response rfl).forMethod method
  | _ => exact fun _ same => (by cases same)

/-- An outcome is told of consistently if its success is. -/
theorem consistent_ofOutcome
    {α : Type}
    {answer : α -> HttpResponse}
    (success : ∀ value, (answer value).Consistent)
    (outcome : Except Failure α) :
    (ofOutcome answer outcome).Consistent := by
  rcases outcome with (refusal | overflow) | value
  · rintro _ ⟨⟩
    exact (HttpResponse.turnsDown_respond (ApiFault.proper_ofRefusal refusal)).2
  · exact fun _ same => (by cases same)
  · rintro _ ⟨⟩
    exact success value

/-- What is put into an envelope is told of consistently. -/
theorem consistent_ofSuccess
    {α : Type}
    (data : α -> Json)
    (outcome : Except Failure α) :
    (ofOutcome (fun value => Answer.success (data value)) outcome).Consistent :=
  consistent_ofOutcome (fun value => HttpResponse.consistent_success (data value)) outcome

/-- A failure is not answered with success. -/
theorem status?_of_failure
    {α : Type}
    (answer : α -> HttpResponse)
    (failure : Failure) :
    (ofOutcome answer (.error failure)).status? ≠ some 200 := by
  cases failure with
  | refused refusal =>
      intro status
      exact (ApiFault.proper_ofRefusal refusal).1 (Option.some.inj status)
  | overflowed overflow => exact fun status => (by cases status)

end Handling

/-- The data of a response tell of a transfer; their amount is read as the same number. -/
structure Json.TellsOf (data : Json) (record : Transfer) : Prop where
  id : data.field? "id" = some (.number record.id)
  reference : data.field? "reference_code" = some (.text record.reference)
  sender : data.field? "sender_iban" = some (.text record.sender)
  receiver : data.field? "receiver_iban" = some (.text record.receiver)
  amount : ∃ text shown,
    data.field? "amount" = some (.text text) ∧
      Money.parse text = .ok shown ∧ shown.units = record.amount.units

/-- What is answered of a transfer of an amount that can be stored tells of it. -/
theorem Answer.tellsOf_transfer
    {record : Transfer}
    (nonneg : Decimal.zero <= record.amount)
    (storable : record.amount.Storable) :
    (Answer.transfer record).TellsOf record := by
  obtain ⟨shown, read, same⟩ := Money.parse_format nonneg storable
  exact
    { id := rfl
      reference := rfl
      sender := rfl
      receiver := rfl
      amount := ⟨Money.format record.amount, shown, rfl, read, same⟩ }

namespace Bank

/-- What may come of a request to a bank where nobody is at work, and the bank after it. -/
inductive Handles (bank : Bank) (request : HttpRequest) : Handling -> Bank -> Prop
  | turnsDown
      (response : HttpResponse)
      (down : response.TurnsDown) :
      Handles bank request (.responded response) bank
  | looks
      (handling : Handling)
      (after : Bank)
      (elsewhere : ¬ request.AsksTransfer)
      (same : SameLedger bank after)
      (consistent : handling.Consistent) :
      Handles bank request handling after
  | fails
      (handling : Handling)
      (after : Bank)
      (unsuccessful : handling.status? ≠ some 200)
      (same : after.store.tables = bank.store.tables)
      (idle : after.Idle)
      (consistent : handling.Consistent) :
      Handles bank request handling after
  | transfers
      (wanted : TransferRequest)
      (caller : Caller)
      (transfer : Transfer)
      (oracle : Oracle)
      (posting : Posting)
      (after : Bank)
      (orders : request.Orders wanted caller)
      (carried : bank.transfer wanted caller = (.ok transfer, after))
      (judged : bank.store.tables.judge ⟨wanted, caller, oracle⟩ =
        .ok (transfer.toTransferDraft, posting))
      (booked : after.store.tables = bank.store.tables.book posting transfer)
      (idle : after.Idle) :
      Handles bank request (.responded (Answer.success (Answer.transfer transfer))) after

theorem handle_of_ok
    {request : HttpRequest}
    {call : Call}
    (bank : Bank)
    (called : Call.ofRequest request = .ok call) :
    bank.handle request =
      ((bank.carryOut call).1.forMethod request.method, (bank.carryOut call).2) := by
  rw [handle, called]

/-- Who orders a transfer is told what comes of just that transfer. -/
theorem handle_of_orders
    {request : HttpRequest}
    {wanted : TransferRequest}
    {caller : Caller}
    (bank : Bank)
    (orders : request.Orders wanted caller) :
    bank.handle request =
      (.ofOutcome (fun transfer => Answer.success (Answer.transfer transfer))
          (bank.transfer wanted caller).1,
        (bank.transfer wanted caller).2) := by
  rw [bank.handle_of_ok (Call.ofRequest_eq_transfer_iff.mpr orders), orders.asks.1,
    Handling.forMethod_post, carryOut]

/-- What calls for no transfer leaves the ledger alone. -/
theorem Idle.looks
    {bank : Bank}
    (idle : bank.Idle)
    {call : Call}
    (elsewhere : ∀ wanted caller, call ≠ .transfer wanted caller) :
    SameLedger bank (bank.carryOut call).2 ∧ (bank.carryOut call).1.Consistent := by
  cases call with
  | health =>
      refine ⟨.refl bank, ?_⟩
      rintro _ ⟨⟩
      exact HttpResponse.consistent_success _
  | description =>
      refine ⟨.refl bank, ?_⟩
      rintro _ ⟨⟩
      exact HttpResponse.consistent_description
  | transfer wanted caller => exact absurd rfl (elsewhere wanted caller)
  | receipt id caller =>
      have same := sameLedger_receipt idle.unattended id caller none
      rw [carryOut]
      generalize bank.receipt id caller none = issued at same
      obtain ⟨nothing | outcome, after⟩ := issued
      · exact ⟨same, fun _ responded => (by cases responded)⟩
      · exact ⟨same, Handling.consistent_ofOutcome HttpResponse.consistent_receipt outcome⟩
  | history iban filter page caller =>
      exact ⟨.refl bank, Handling.consistent_ofSuccess _ _⟩
  | summary iban caller =>
      exact ⟨.refl bank, Handling.consistent_ofSuccess _ _⟩
  | categories iban caller =>
      exact ⟨.refl bank, Handling.consistent_ofSuccess _ _⟩
  | weeklyTrend iban caller =>
      exact ⟨.refl bank, Handling.consistent_ofSuccess _ _⟩

/-- What becomes of a request that orders a transfer is what becomes of the transfer. -/
theorem Idle.handles_transfer
    {bank : Bank}
    (idle : bank.Idle)
    {request : HttpRequest}
    {wanted : TransferRequest}
    {caller : Caller}
    (orders : request.Orders wanted caller) :
    bank.Handles request (bank.handle request).1 (bank.handle request).2 := by
  obtain ⟨oracle, settles, still⟩ := idle.transfer wanted caller
  rw [bank.handle_of_orders orders]
  generalize carried : bank.transfer wanted caller = result at settles still ⊢
  obtain ⟨outcome, after⟩ := result
  dsimp only at settles still ⊢
  generalize final : after.store.tables = tables at settles
  cases settles with
  | fails failure judged =>
      exact .fails _ after (Handling.status?_of_failure _ failure) final still
        (Handling.consistent_ofSuccess _ _)
  | succeeds transfer posting judged =>
      exact .transfers wanted caller transfer oracle posting after orders carried judged final still

/-- Whatever a request is, one of four things comes of it. -/
theorem Idle.handles {bank : Bank} (idle : bank.Idle) (request : HttpRequest) :
    bank.Handles request (bank.handle request).1 (bank.handle request).2 := by
  cases called : Call.ofRequest request with
  | error response =>
      obtain ⟨status, consistent⟩ := Call.faults_ofRequest request response called
      rw [handle, called]
      exact .turnsDown _ ⟨by rwa [HttpResponse.status_forMethod], consistent.forMethod _⟩
  | ok call =>
      by_cases moves : ∃ wanted caller, call = .transfer wanted caller
      · obtain ⟨wanted, caller, rfl⟩ := moves
        exact idle.handles_transfer (Call.ofRequest_eq_transfer_iff.mp called)
      · have elsewhere : ¬ request.AsksTransfer :=
          fun asks => moves (Call.transfer_of_asks asks called)
        obtain ⟨same, consistent⟩ := idle.looks (fun wanted caller transfer =>
          moves ⟨wanted, caller, transfer⟩)
        rw [bank.handle_of_ok called]
        exact .looks _ _ elsewhere same (consistent.forMethod _)

/-! ## One request after another -/

theorem Handles.idle
    {bank after : Bank}
    {request : HttpRequest}
    {handling : Handling}
    (handles : bank.Handles request handling after)
    (idle : bank.Idle) :
    after.Idle := by
  cases handles with
  | turnsDown => exact idle
  | looks _ _ _ same => exact same.idle idle
  | fails _ _ _ _ still => exact still
  | transfers _ _ _ _ _ _ _ _ _ _ still => exact still

/--
A bank to which requests have come one after the other, each when the one before it had been
handled. Between them anything but the ledger may have changed.
-/
inductive Serves (first : Bank) : List HttpRequest -> Bank -> Prop
  | opens
      {bank : Bank}
      (same : SameLedger first bank) :
      Serves first [] bank
  | handles
      {requests : List HttpRequest}
      {before after : Bank}
      (served : Serves first requests before)
      (request : HttpRequest)
      (same : SameLedger (before.handle request).2 after) :
      Serves first (requests ++ [request]) after

/-- Between two requests nobody is at work. -/
theorem Serves.idle
    {first bank : Bank}
    {requests : List HttpRequest}
    (served : first.Serves requests bank)
    (idle : first.Idle) :
    bank.Idle := by
  induction served with
  | opens same => exact same.idle idle
  | handles _ request same still => exact same.idle ((still.handles request).idle still)

/-- What is known of a request that has moved money. -/
structure Moves
    (before : Bank)
    (request : HttpRequest)
    (handling : Handling)
    (after : Bank)
    (wanted : TransferRequest)
    (caller : Caller)
    (record : Transfer) : Prop where
  orders : request.Orders wanted caller
  carried : before.transfer wanted caller = (.ok record, after)
  sender : record.sender = wanted.sender
  receiver : record.receiver = wanted.receiver
  amount : record.amount = wanted.amount
  description : record.description = wanted.description
  booked : ∃ posting pair,
    before.store.tables.Approves record posting pair ∧
      after.store.tables = before.store.tables.book posting record
  told : ∃ reply data,
    handling = .responded ⟨200, .json (some reply)⟩ ∧
      reply.field? "data" = some data ∧ data.TellsOf record

/-- A transfer that is let pass is recorded as it was ordered, and told of as it is recorded. -/
theorem Idle.moves
    {before after : Bank}
    {request : HttpRequest}
    {wanted : TransferRequest}
    {caller : Caller}
    {record : Transfer}
    {oracle : Oracle}
    {posting : Posting}
    (idle : before.Idle)
    (orders : request.Orders wanted caller)
    (carried : before.transfer wanted caller = (.ok record, after))
    (judged : before.store.tables.judge ⟨wanted, caller, oracle⟩ =
      .ok (record.toTransferDraft, posting))
    (booked : after.store.tables = before.store.tables.book posting record) :
    before.Moves request (.responded (Answer.success (Answer.transfer record))) after
      wanted caller record := by
  obtain ⟨sender, receiver, amount, description⟩ :=
    Tables.recorded_of_judge idle.quiet.keyed judged
  obtain ⟨pair, approves⟩ := Tables.approves_of_judge idle.quiet.keyed judged
  obtain ⟨senderNormal, receiverNormal⟩ := orders.normal
  have nonneg : Decimal.zero <= record.amount := (Decimal.lt_def.mp approves.positive).le
  rw [Errand.sender] at sender
  rw [Errand.receiver] at receiver
  exact
    { orders := orders
      carried := carried
      sender := sender.trans senderNormal
      receiver := receiver.trans receiverNormal
      amount := amount
      description := description
      booked := ⟨posting, pair, approves, booked⟩
      told := ⟨_, _, rfl, rfl, Answer.tellsOf_transfer nonneg approves.storable⟩ }

end Bank

namespace Sample

/-- A bank with two accounts under valid numbers. -/
def branch : Bank :=
  (Bank.opened ⟨0, 0⟩).administer fun tables =>
    (tables.insertAccount (account "DE89370400440532013000" 1)).insertAccount
      (account "GB82WEST12345698765432" 2)

/--
The owner of one account, whose number is spelled with blanks, sends 1.50 to the other. The
body is no text: what stands under a name that means nothing is a byte that begins no character.
-/
def order : HttpRequest where
  method := "POST"
  target := "/api/v1/transfers"
  headers := [("Content-Type", "application/json"), ("X-User-Id", "1")]
  body :=
    Text.bytesOf "\x7b\"memo\": \"".toList ++ 0xFF ::
      Text.bytesOf
        ("\", \"sender_iban\": \"de89 3704 0044 0532 0130 00\", " ++
          "\"receiver_iban\": \"GB82WEST12345698765432\", \"amount\": \"1.50\"\x7d").toList

theorem idle_branch : branch.Idle :=
  (Bank.idle_opened ⟨0, 0⟩).administer
    ((Store.quiet_empty.keyed.insertAccount _).insertAccount _)

end Sample

namespace Bank

end Bank
end Giro
