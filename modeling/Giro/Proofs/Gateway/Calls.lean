import Giro.Gateway.Handler
import Giro.Proofs.Account.NormalForm
import Giro.Proofs.Text.Pieces

/-!
# What requests call for

Whatever stands in front of the bank answers with a status and a code of which neither is one
of success. A request calls for a transfer only if it is sent to where transfers are asked
for, names its caller, and carries a form whose every part is accepted; the transfer that it
orders is the one that the form states, between normal forms of account numbers.
-/

namespace Giro

/-- Whatever fault a result has, it has a property. -/
def FaultsAs {ε α : Type} (holds : ε -> Prop) (result : Except ε α) : Prop :=
  ∀ fault, result = .error fault -> holds fault

namespace FaultsAs

variable {ε α β : Type} {holds : ε -> Prop}

theorem ok (value : α) : FaultsAs holds (.ok value) :=
  fun _ faulty => (by cases faulty)

theorem error {fault : ε} (here : holds fault) :
    FaultsAs holds (.error fault : Except ε α) := by
  rintro _ ⟨⟩
  exact here

/-- A result that goes on with another one has the fault of one of the two. -/
theorem bind
    {result : Except ε α}
    {next : α -> Except ε β}
    (first : FaultsAs holds result)
    (rest : ∀ value, FaultsAs holds (next value)) :
    FaultsAs holds (result >>= next) := by
  cases result with
  | ok value => exact rest value
  | error fault => exact error (first fault rfl)

end FaultsAs

/-- A result that goes on with another one has the value of that one. -/
theorem bind_eq_ok_iff
    {ε α β : Type}
    {result : Except ε α}
    {next : α -> Except ε β}
    {last : β} :
    result >>= next = .ok last ↔ ∃ value, result = .ok value ∧ next value = .ok last := by
  cases result with
  | ok value =>
      constructor
      · exact fun read => ⟨value, rfl, read⟩
      · rintro ⟨_, ⟨⟩, read⟩
        exact read
  | error fault =>
      constructor
      · exact fun read => (by cases read)
      · rintro ⟨_, ⟨⟩, -⟩

/-! ## Faults -/

namespace ApiFault

/-- Neither the status nor the code of a fault is one of success. -/
def Proper (fault : ApiFault) : Prop :=
  fault.status ≠ 200 ∧ fault.code ≠ 0

theorem proper_badRequest (message : String) : (badRequest message).Proper :=
  ⟨(by decide : 400 ≠ 200), (by decide : 1001 ≠ 0)⟩

theorem proper_unauthorized (message : String) : (unauthorized message).Proper :=
  ⟨(by decide : 401 ≠ 200), (by decide : 2001 ≠ 0)⟩

theorem proper_ofRefusal (refusal : Refusal) : (ofRefusal refusal).Proper := by
  have kinds : ∀ kind : RefusalKind, kind.httpStatus ≠ 200 ∧ kind.apiCode ≠ 0 := by
    intro kind
    cases kind <;> decide
  exact kinds refusal.kind

end ApiFault

/-- All that can be wrong with the caller of a request is that it is not known. -/
theorem Identity.faults_caller_of
    {holds : ApiFault -> Prop}
    (unknown : ∀ message, holds (.unauthorized message))
    (request : HttpRequest) :
    FaultsAs holds (Identity.caller request) := by
  have userId : FaultsAs holds (Identity.userId request) := by
    rw [Identity.userId]
    split
    · exact .error (unknown _)
    · split
      · exact .ok _
      · exact .error (unknown _)
  have role : FaultsAs holds (Identity.role request) := by
    rw [Identity.role]
    split
    · exact .ok _
    · split
      · exact .ok _
      · exact .error (unknown _)
  exact userId.bind fun _ => role.bind fun _ => .ok _

theorem Identity.faults_caller (request : HttpRequest) :
    FaultsAs ApiFault.Proper (Identity.caller request) :=
  faults_caller_of ApiFault.proper_unauthorized request

open ApiFault in
theorem HistoryForm.faults_filter (form : HistoryForm) : FaultsAs Proper form.filter := by
  have bound (text : Option String) : FaultsAs Proper (HistoryForm.bound text) := by
    rw [HistoryForm.bound.eq_def]
    split
    · exact .ok _
    · split
      · exact .ok _
      · exact .error (proper_badRequest _)
  exact (bound _).bind fun _ => (bound _).bind fun _ => .ok _

namespace TransferForm

open ApiFault

theorem faults_request (form : TransferForm) : FaultsAs Proper form.request := by
  have lengths : FaultsAs Proper form.checkLengths := by
    rw [checkLengths]
    split
    · exact .ok _
    · exact .error (proper_badRequest _)
  have amount : FaultsAs Proper form.amount.amount := by
    rw [AmountInput.amount]
    split
    · exact .ok _
    · exact .error (proper_badRequest _)
  have account (spelling : String) : FaultsAs Proper (account spelling) := by
    rw [TransferForm.account]
    split
    · exact .ok _
    · exact .error (proper_badRequest _)
  have currency : FaultsAs Proper form.currency? := by
    rw [currency?]
    split
    · exact .ok _
    · split
      · exact .ok _
      · split
        · exact .ok _
        · exact .error (proper_ofRefusal _)
  exact lengths.bind fun _ => amount.bind fun _ => (account _).bind fun _ =>
    (account _).bind fun _ => currency.bind fun _ => .ok _

/-- The transfer that a form states. -/
structure States (form : TransferForm) (wanted : TransferRequest) : Prop where
  spelled : ibanFits form.sender = true ∧ ibanFits form.receiver = true
  sender : ∃ iban, Iban.parse form.sender = .ok iban ∧ wanted.sender = iban.text
  receiver : ∃ iban, Iban.parse form.receiver = .ok iban ∧ wanted.receiver = iban.text
  amount : form.amount.amount = .ok wanted.amount
  short : ∀ text ∈ form.description, text.length <= 255
  description : wanted.description = form.description
  currency :
    (∀ code ∈ form.currency, Text.allBlank code = true) ∧ wanted.currency = none ∨
      ∃ code currency,
        form.currency = some code ∧ Text.allBlank code = false ∧
          Currency.parse code = .ok currency ∧ wanted.currency = some currency

theorem account_eq_ok_iff {spelling account : String} :
    TransferForm.account spelling = .ok account ↔
      ∃ iban, Iban.parse spelling = .ok iban ∧ account = iban.text := by
  rw [TransferForm.account]
  cases Iban.parse spelling with
  | error fault => simp
  | ok iban => simp [eq_comm]

theorem currency?_eq_ok_iff {form : TransferForm} {currency : Option Currency} :
    form.currency? = .ok currency ↔
      (∀ code ∈ form.currency, Text.allBlank code = true) ∧ currency = none ∨
        ∃ code known,
          form.currency = some code ∧ Text.allBlank code = false ∧
            Currency.parse code = .ok known ∧ currency = some known := by
  rw [currency?]
  cases form.currency with
  | none =>
      constructor
      · rintro ⟨⟩
        exact .inl ⟨fun _ same => (by cases same), rfl⟩
      · rintro (⟨-, rfl⟩ | ⟨_, _, same, -⟩)
        · rfl
        · cases same
  | some code =>
      dsimp only
      cases blank : Text.allBlank code with
      | true =>
          rw [if_pos rfl]
          constructor
          · rintro ⟨⟩
            exact .inl ⟨fun _ same => (by cases same; exact blank), rfl⟩
          · rintro (⟨-, rfl⟩ | ⟨_, _, ⟨⟩, visible, -⟩)
            · rfl
            · rw [blank] at visible
              cases visible
      | false =>
          rw [if_neg Bool.false_ne_true]
          constructor
          · intro read
            cases parsed : Currency.parse code with
            | error reason =>
                rw [parsed] at read
                cases read
            | ok known =>
                rw [parsed] at read
                cases read
                exact .inr ⟨code, known, rfl, blank, parsed, rfl⟩
          · rintro (⟨allBlank, -⟩ | ⟨_, _, ⟨⟩, -, parsed, rfl⟩)
            · rw [allBlank code rfl] at blank
              cases blank
            · rw [parsed]

theorem checkLengths_eq_ok_iff {form : TransferForm} :
    form.checkLengths = .ok () ↔
      (ibanFits form.sender = true ∧ ibanFits form.receiver = true) ∧
        ∀ text ∈ form.description, text.length <= 255 := by
  have fine : form.lengthFaults = [] ↔
      (ibanFits form.sender = true ∧ ibanFits form.receiver = true) ∧
        ∀ text ∈ form.description, text.length <= 255 := by
    rw [lengthFaults, List.append_eq_nil_iff, List.append_eq_nil_iff]
    simp only [Option.all_eq_true, ite_eq_left_iff, List.cons_ne_nil, imp_false, not_not,
      decide_eq_true_iff]
    exact ⟨fun ⟨⟨short, receiver⟩, sender⟩ => ⟨⟨sender, receiver⟩, short⟩,
      fun ⟨⟨sender, receiver⟩, short⟩ => ⟨⟨short, receiver⟩, sender⟩⟩
  rw [checkLengths]
  split_ifs with faultless
  · exact iff_of_true rfl (fine.mp (List.isEmpty_iff.mp faultless))
  · exact iff_of_false (fun checked => (by cases checked))
      (fun fits => faultless (List.isEmpty_iff.mpr (fine.mpr fits)))

/-- The request of a form is accepted exactly if the form states it. -/
theorem request_eq_ok_iff {form : TransferForm} {wanted : TransferRequest} :
    form.request = .ok wanted ↔ form.States wanted := by
  constructor
  · intro read
    obtain ⟨_, lengths, read⟩ := bind_eq_ok_iff.mp read
    obtain ⟨amount, amountRead, read⟩ := bind_eq_ok_iff.mp read
    obtain ⟨sender, senderRead, read⟩ := bind_eq_ok_iff.mp read
    obtain ⟨receiver, receiverRead, read⟩ := bind_eq_ok_iff.mp read
    obtain ⟨currency, currencyRead, read⟩ := bind_eq_ok_iff.mp read
    cases read
    obtain ⟨spelled, short⟩ := checkLengths_eq_ok_iff.mp lengths
    exact
      { spelled := spelled
        sender := account_eq_ok_iff.mp senderRead
        receiver := account_eq_ok_iff.mp receiverRead
        amount := amountRead
        short := short
        description := rfl
        currency := currency?_eq_ok_iff.mp currencyRead }
  · intro states
    obtain ⟨sender, receiver, amount, currency, description⟩ := wanted
    obtain rfl : description = form.description := states.description
    have lengths := checkLengths_eq_ok_iff.mpr ⟨states.spelled, states.short⟩
    have senderRead := account_eq_ok_iff.mpr states.sender
    have receiverRead := account_eq_ok_iff.mpr states.receiver
    have currencyRead := currency?_eq_ok_iff.mpr states.currency
    exact bind_eq_ok_iff.mpr ⟨_, lengths, bind_eq_ok_iff.mpr ⟨_, states.amount,
      bind_eq_ok_iff.mpr ⟨_, senderRead, bind_eq_ok_iff.mpr ⟨_, receiverRead,
        bind_eq_ok_iff.mpr ⟨_, currencyRead, rfl⟩⟩⟩⟩⟩

end TransferForm

/-! ## Responses -/

/-- The value of a member of an object. -/
def Json.field? (name : String) : Json -> Option Json
  | .object members => members.lookup name
  | _ => none

namespace HttpResponse

/-- If there is a code in the response, it is zero exactly if the status is 200. -/
def Consistent (response : HttpResponse) : Prop :=
  ∀ value code, response.content = .json (some value) -> value.field? "code" = some code ->
    (code = .number 0 ↔ response.status = 200)

/-- A response that tells of no success. -/
def TurnsDown (response : HttpResponse) : Prop :=
  response.status ≠ 200 ∧ response.Consistent

theorem turnsDown_bare {status : Nat} (unsuccessful : status ≠ 200) :
    (bare status).TurnsDown :=
  ⟨unsuccessful, fun _ _ content => (by cases content)⟩

theorem turnsDown_respond {fault : ApiFault} (proper : fault.Proper) : fault.respond.TurnsDown := by
  refine ⟨proper.1, fun value code content field => ?_⟩
  cases content
  have code : code = .number fault.code := (Option.some.inj field).symm
  rw [code, Json.number.injEq, Int.natCast_eq_zero]
  exact iff_of_false proper.2 proper.1

theorem consistent_success (data : Json) : (Answer.success data).Consistent := by
  rintro value code ⟨⟩ field
  have code : code = .number 0 := (Option.some.inj field).symm
  exact iff_of_true code rfl

theorem consistent_description : (ofJson 200 Description.document).Consistent := by
  rintro value code ⟨⟩ field
  have absent : Description.document.field? "code" = none := rfl
  rw [absent] at field
  cases field

theorem consistent_receipt (receipt : Receipt) : (Answer.receipt receipt).Consistent := by
  rw [Answer.receipt]
  split
  · exact fun _ _ content => (by cases content)
  · exact (turnsDown_bare (by decide)).2

@[simp] theorem status_forMethod (response : HttpResponse) (method : String) :
    (response.forMethod method).status = response.status := by
  rw [forMethod]
  split <;> rfl

/-- A response without its content says no more than it did. -/
theorem Consistent.forMethod
    {response : HttpResponse}
    (consistent : response.Consistent)
    (method : String) :
    (response.forMethod method).Consistent := by
  rw [HttpResponse.forMethod]
  split_ifs
  · intro value code content
    obtain ⟨status, nothing | value | document⟩ := response <;> cases content
  · exact consistent

end HttpResponse

/-! ## What a request calls for -/

namespace HttpRequest

/-- Whether a request is sent to where transfers are asked for, by the method for it. -/
def AsksTransfer (request : HttpRequest) : Prop :=
  request.method = "POST" ∧ request.path = "/api/v1/transfers".toList

/-- The transfer that a request orders, on behalf of the caller that it names. -/
structure Orders (request : HttpRequest) (wanted : TransferRequest) (caller : Caller) : Prop where
  asks : request.AsksTransfer
  caller : Identity.caller request = .ok caller
  declared : ∃ header,
    request.header? "content-type" = some header ∧
      Identity.isVisible header = true ∧ MediaType.isJson header = true
  readable : request.body.length <= Call.maxBodyBytes
  form : ∃ form, TransferForm.read request.body = .ok form ∧ form.States wanted

/-- Whoever orders a transfer names accounts by their numbers. -/
theorem Orders.normal
    {request : HttpRequest}
    {wanted : TransferRequest}
    {caller : Caller}
    (orders : request.Orders wanted caller) :
    Iban.normalize wanted.sender = wanted.sender ∧
      Iban.normalize wanted.receiver = wanted.receiver := by
  obtain ⟨form, -, states⟩ := orders.form
  obtain ⟨sender, senderRead, senderSame⟩ := states.sender
  obtain ⟨receiver, receiverRead, receiverSame⟩ := states.receiver
  rw [senderSame, receiverSame]
  exact ⟨Iban.normalize_of_parse senderRead, Iban.normalize_of_parse receiverRead⟩

end HttpRequest

namespace Call

open HttpResponse

theorem faults_orFault
    {α : Type}
    {result : Except ApiFault α}
    (proper : FaultsAs ApiFault.Proper result) :
    FaultsAs TurnsDown (orFault result) := by
  cases result with
  | ok value => exact .ok value
  | error fault => exact .error (turnsDown_respond (proper fault rfl))

theorem faults_orBare
    {α : Type}
    {status : Nat}
    (unsuccessful : status ≠ 200)
    (value : Option α) :
    FaultsAs TurnsDown (orBare status value) := by
  cases value with
  | some value => exact .ok value
  | none => exact .error (turnsDown_bare unsuccessful)

theorem faults_transferForm (request : HttpRequest) :
    FaultsAs TurnsDown (transferForm request) := by
  rw [transferForm]
  split
  · exact .error (turnsDown_bare (by decide))
  · split
    · exact .error (turnsDown_bare (by decide))
    · split
      · exact .error (turnsDown_bare (by decide))
      · split
        · exact .ok _
        · exact .error (turnsDown_bare (by decide))
        · exact .error (turnsDown_bare (by decide))

/-- Whatever is in front of the bank answers with no success. -/
theorem faults_ofRequest (request : HttpRequest) : FaultsAs TurnsDown (ofRequest request) := by
  have caller := faults_orFault (Identity.faults_caller request)
  rw [ofRequest]
  split
  · exact .error (turnsDown_bare (by decide))
  · split
    · rw [atEndpoint.eq_def]
      split
      · exact .ok _
      · exact .ok _
      · exact caller.bind fun _ => (faults_transferForm request).bind fun form =>
          (faults_orFault form.faults_request).bind fun _ => .ok _
      · refine caller.bind fun _ => (faults_orBare (by decide) _).bind fun _ => ?_
        split
        · exact (faults_orBare (by decide) _).bind fun _ => .ok _
        · exact (faults_orBare (by decide) _).bind fun form =>
            (faults_orFault form.faults_filter).bind fun _ => .ok _
        · exact .ok _
        · exact .ok _
        · exact .ok _
    · exact .error (turnsDown_bare (by decide))

theorem ofPath?_transfers :
    Endpoint.ofPath? "/api/v1/transfers".toList = some (.createTransfer, []) := by
  decide

/-- There is one path to each endpoint that leaves nothing to be filled in. -/
theorem eq_of_fill_fixed
    {texts : List String}
    {pieces filled : List (List Char)}
    (fits : Endpoint.fill (texts.map Segment.fixed) pieces = some filled) :
    pieces = texts.map String.toList := by
  induction texts generalizing pieces filled with
  | nil =>
      cases pieces with
      | nil => rfl
      | cons piece rest => cases fits
  | cons text others ih =>
      cases pieces with
      | nil => cases fits
      | cons piece rest =>
          rw [List.map_cons, Endpoint.fill] at fits
          split_ifs at fits with same
          rw [same, ih fits, List.map_cons]

theorem path_of_createTransfer
    {path : List Char}
    {pieces : List (List Char)}
    (leads : Endpoint.ofPath? path = some (.createTransfer, pieces)) :
    path = "/api/v1/transfers".toList := by
  rw [Endpoint.ofPath?.eq_def] at leads
  split at leads
  · rename_i rest
    obtain ⟨endpoint, -, found⟩ := List.exists_of_findSome?_eq_some leads
    obtain ⟨filled, fits, same⟩ := Option.map_eq_some_iff.mp found
    cases same
    have fixed : Endpoint.createTransfer.segments =
        ["api", "v1", "transfers"].map Segment.fixed := rfl
    rw [fixed] at fits
    have joined : ['/'].intercalate (Text.splitAt '/' rest) = rest := by
      rw [Text.splitAt_eq_splitOn, List.intercalate_splitOn]
    rw [← joined, eq_of_fill_fixed fits]
    decide
  · cases leads

theorem orFault_eq_ok_iff {α : Type} {result : Except ApiFault α} {value : α} :
    orFault result = .ok value ↔ result = .ok value := by
  cases result with
  | ok known => simp [orFault]
  | error fault => simp [orFault]

/-- A form is taken from a body that is declared to hold one, is short enough, and does. -/
theorem transferForm_eq_ok_iff {request : HttpRequest} {form : TransferForm} :
    transferForm request = .ok form ↔
      (∃ header,
          request.header? "content-type" = some header ∧
            Identity.isVisible header = true ∧ MediaType.isJson header = true) ∧
        request.body.length <= maxBodyBytes ∧
        TransferForm.read request.body = .ok form := by
  rw [transferForm]
  cases request.header? "content-type" with
  | none => simp
  | some header =>
      dsimp only
      cases fits : Identity.isVisible header && MediaType.isJson header with
      | true =>
          have declared := Bool.and_eq_true_iff.mp fits
          rw [Bool.not_true, if_neg Bool.false_ne_true]
          by_cases readable : request.body.length <= maxBodyBytes
          · rw [if_neg (not_lt.mpr readable)]
            cases TransferForm.read request.body with
            | ok known => simp [declared, readable]
            | error fault => cases fault <;> simp
          · rw [if_pos (not_le.mp readable)]
            simp [readable]
      | false =>
          rw [Bool.not_false, if_pos rfl]
          refine iff_of_false (fun taken => (by cases taken)) ?_
          rintro ⟨⟨_, ⟨⟩, visible, json⟩, -⟩
          rw [visible, json] at fits
          cases fits

/-- There is only one endpoint at which a transfer is called for. -/
theorem endpoint_of_transfer
    {request : HttpRequest}
    {endpoint : Endpoint}
    {pieces : List (List Char)}
    {wanted : TransferRequest}
    {caller : Caller}
    (called : atEndpoint request endpoint pieces = .ok (.transfer wanted caller)) :
    endpoint = .createTransfer := by
  rw [atEndpoint.eq_def] at called
  split at called
  · cases called
  · cases called
  · rfl
  · obtain ⟨_, -, called⟩ := bind_eq_ok_iff.mp called
    obtain ⟨_, -, called⟩ := bind_eq_ok_iff.mp called
    split at called
    · obtain ⟨_, -, called⟩ := bind_eq_ok_iff.mp called
      cases called
    · obtain ⟨_, -, called⟩ := bind_eq_ok_iff.mp called
      obtain ⟨_, -, called⟩ := bind_eq_ok_iff.mp called
      cases called
    · cases called
    · cases called
    · cases called

/-- A request calls for a transfer exactly if it orders one. -/
theorem ofRequest_eq_transfer_iff
    {request : HttpRequest}
    {wanted : TransferRequest}
    {caller : Caller} :
    ofRequest request = .ok (.transfer wanted caller) ↔ request.Orders wanted caller := by
  constructor
  · intro called
    rw [ofRequest] at called
    cases leads : Endpoint.ofPath? request.path with
    | none =>
        rw [leads] at called
        cases called
    | some target =>
        obtain ⟨endpoint, pieces⟩ := target
        rw [leads] at called
        dsimp only at called
        split_ifs at called with allowed
        obtain rfl := endpoint_of_transfer called
        obtain ⟨known, identified, called⟩ := bind_eq_ok_iff.mp called
        obtain ⟨form, taken, called⟩ := bind_eq_ok_iff.mp called
        obtain ⟨stated, read, called⟩ := bind_eq_ok_iff.mp called
        cases called
        obtain ⟨declared, readable, held⟩ := transferForm_eq_ok_iff.mp taken
        exact
          { asks := ⟨by simpa [Endpoint.allows, Endpoint.method] using allowed,
              path_of_createTransfer leads⟩
            caller := orFault_eq_ok_iff.mp identified
            declared := declared
            readable := readable
            form := ⟨form, held, TransferForm.request_eq_ok_iff.mp (orFault_eq_ok_iff.mp read)⟩ }
  · intro orders
    obtain ⟨form, held, states⟩ := orders.form
    have allowed : Endpoint.createTransfer.allows request.method = true := by
      rw [orders.asks.1]
      rfl
    have identified := orFault_eq_ok_iff.mpr orders.caller
    have taken := transferForm_eq_ok_iff.mpr ⟨orders.declared, orders.readable, held⟩
    have read := orFault_eq_ok_iff.mpr (TransferForm.request_eq_ok_iff.mpr states)
    rw [ofRequest, orders.asks.2, ofPath?_transfers]
    dsimp only
    rw [if_pos allowed]
    exact bind_eq_ok_iff.mpr ⟨_, identified, bind_eq_ok_iff.mpr ⟨_, taken,
      bind_eq_ok_iff.mpr ⟨_, read, rfl⟩⟩⟩

/-- What is sent to where transfers are asked for calls for nothing else. -/
theorem transfer_of_asks
    {request : HttpRequest}
    {call : Call}
    (asks : request.AsksTransfer)
    (called : ofRequest request = .ok call) :
    ∃ wanted caller, call = .transfer wanted caller := by
  rw [ofRequest, asks.2, ofPath?_transfers] at called
  dsimp only at called
  split_ifs at called
  obtain ⟨caller, -, called⟩ := bind_eq_ok_iff.mp called
  obtain ⟨form, -, called⟩ := bind_eq_ok_iff.mp called
  obtain ⟨wanted, -, called⟩ := bind_eq_ok_iff.mp called
  cases called
  exact ⟨wanted, caller, rfl⟩

end Call
end Giro
