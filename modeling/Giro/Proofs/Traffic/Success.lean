import Giro.Proofs.Account.NormalForm
import Giro.Proofs.Bank.Idle
import Giro.Proofs.Ledger.Allowance
import Giro.Proofs.Query.Paging
import Giro.Proofs.Traffic.Clients
import Giro.Query.Basic

/-!
# What a transfer does that succeeds

A transfer that succeeds on moderate rows takes its amount from one balance and adds it to
another one, counts it in the sender's row for the day of the record, and appends that record
to the log, under a number of its own. It is found under its number from then on, and listed
in the history of both accounts. Nothing else in the tables changes.
-/

namespace Giro

theorem Errand.normalize_sender (errand : Errand) :
    Iban.normalize errand.sender = errand.sender := by
  rw [sender, Iban.normalize_normalize]

theorem Errand.normalize_receiver (errand : Errand) :
    Iban.normalize errand.receiver = errand.receiver := by
  rw [receiver, Iban.normalize_normalize]

namespace Tables

/-- Everybody who may see an account finds a transfer on one page of its history. -/
def Lists (tables : Tables) (account : Account) (transfer : Transfer) : Prop :=
  ∀ caller : Caller, caller.mayUse account = true -> ∀ size, ∃ index page,
    Query.history (.ofTables tables) account.iban (.make index size) caller = .ok page ∧
      transfer ∈ page.items

/--
What a transfer that succeeds does to the rows, the rows of both accounts being given as they
were before.
-/
structure Performs
    (before after : Tables)
    (errand : Errand)
    (transfer : Transfer)
    (sender receiver : Account) : Prop where
  senderFound : before.findAccount errand.sender = some sender
  receiverFound : before.findAccount errand.receiver = some receiver
  distinct : sender.iban ≠ receiver.iban
  currency : sender.currency = receiver.currency
  /-- The record says what was asked for, and when it was carried out. -/
  recorded : transfer.toTransferDraft =
    { externalId := errand.identifier
      reference := errand.reference
      sender := sender.iban
      receiver := receiver.iban
      amount := errand.request.amount
      currency := sender.currency
      type := .transfer
      status := .completed
      description := errand.request.description
      createdAt := errand.instant }
  logged : after.transfers = before.transfers ++ [transfer]
  fresh : ∀ earlier ∈ before.transfers, earlier.Apart transfer
  debited : ∃ balance,
    after.findAccount sender.iban = some { sender with balance := balance } ∧
      balance.units = sender.balance.units - errand.request.amount.units
  credited : ∃ balance,
    after.findAccount receiver.iban = some { receiver with balance := balance } ∧
      balance.units = receiver.balance.units + errand.request.amount.units
  otherAccounts : ∀ iban, iban ≠ sender.iban -> iban ≠ receiver.iban ->
    after.findAccount iban = before.findAccount iban
  /-- The row is new, or the one of the day with the amount added to what was used. -/
  charged : ∃ used,
    after.dailyLimit sender.iban errand.instant.date =
        some ⟨sender.iban, errand.instant.date, used, sender.dailyLimit⟩ ∧
      used.units = before.spent sender.iban errand.instant.date + errand.request.amount.units
  otherLimits : ∀ iban date, (iban, date) ≠ (sender.iban, errand.instant.date) ->
    after.dailyLimit iban date = before.dailyLimit iban date
  found : after.findTransfer transfer.id =
    .ok (some ⟨transfer, sender.owner, receiver.owner⟩)
  senderLists : after.Lists sender transfer
  receiverLists : after.Lists receiver transfer

/-- Every transfer in a history is on one of its pages. -/
theorem exists_page
    {tables : Tables}
    {iban : String}
    {filter : TransferFilter}
    {transfer : Transfer}
    (member : transfer ∈ tables.matching iban filter)
    (size : Nat) :
    ∃ index page, tables.listTransfers iban filter (.make index size) = .ok page ∧
      transfer ∈ page.items := by
  rw [← flatMap_items_matching size, List.mem_flatMap] at member
  obtain ⟨index, -, here⟩ := member
  exact ⟨index, _, listTransfers_make index size, here⟩

/-- A transfer in the log is listed for the accounts on both of its sides. -/
theorem lists_of_logged
    {tables : Tables}
    {account row : Account}
    {transfer : Transfer}
    (logged : transfer ∈ tables.transfers)
    (involved : transfer.sender = account.iban ∨ transfer.receiver = account.iban)
    (normal : Iban.normalize account.iban = account.iban)
    (found : tables.findAccount account.iban = some row)
    (named : row.iban = account.iban)
    (owned : row.owner = account.owner) :
    tables.Lists account transfer := by
  intro caller allowed size
  have unbounded : TransferFilter.unbounded.Holds transfer := by constructor <;> nofun
  obtain ⟨index, page, handed, here⟩ :=
    exists_page ((mem_matching_iff transfer).mpr ⟨logged, involved, unbounded⟩) size
  refine ⟨index, page, ?_, here⟩
  have entitled : caller.mayUse row = true := by
    rw [Caller.mayUse, owned]
    exact allowed
  have authorized : Query.authorize (.ofTables tables) account.iban caller = .ok row := by
    simp [Query.authorize, normal, Reader.ofTables, found, entitled, bind, Except.bind]
  rw [Query.history, Query.filterHistory, authorized]
  simp only [Query.crossed, bind, Except.bind, named, Reader.ofTables, handed]
  rfl

theorem findTransfer_of_found
    {tables : Tables}
    {transfer : Transfer}
    {sender receiver : Account}
    (ids : (tables.transfers.map Transfer.id).Nodup)
    (logged : transfer ∈ tables.transfers)
    (senderFound : tables.findAccount transfer.sender = some sender)
    (receiverFound : tables.findAccount transfer.receiver = some receiver) :
    tables.findTransfer transfer.id = .ok (some ⟨transfer, sender.owner, receiver.owner⟩) := by
  rw [findTransfer_of_mem ids logged, ownerOf, senderFound, ownerOf, receiverFound]
  rfl

section

variable {tables : Tables} {errand : Errand} {transfer : Transfer} {posting : Posting}
  {pair : LockedPair}

/-- The amount is added exactly to what was used of the sender's limit on the day. -/
theorem Approves.charge_exact
    (approves : tables.Approves transfer posting pair)
    (keyed : tables.Keyed)
    (moderate : tables.Moderate errand.instant.date)
    (sent : transfer.sender = errand.sender)
    (made : transfer.createdAt = errand.instant) :
    posting.daily.used.units =
      tables.spent errand.sender errand.instant.date + transfer.amount.units := by
  obtain ⟨spent, usedNonnegative, usedBounded, usedStorable⟩ :=
    moderate.usedToday_fits keyed pair
  obtain ⟨-, balanceBounded, -⟩ := moderate.funded.fits approves.senderFound
  have positive : 0 < transfer.amount.units := approves.positive
  have covered : transfer.amount.units <= pair.sender.balance.units := approves.covered
  have cap := wealthCap_lt_exactUnits
  have use : (tables.candidateFor errand pair).usedToday.add? transfer.amount =
      some posting.daily.used := by
    have use := approves.use
    rw [sent, made, ← used_usage] at use
    exact use
  obtain ⟨sum, added, units⟩ := Decimal.add?_exact usedStorable approves.storable (by omega)
  rw [use] at added
  cases added
  rw [units, spent]

/-- The sender's row after the posting, whether or not there was one before. -/
theorem Approves.daily_eq
    (approves : tables.Approves transfer posting pair)
    (keyed : tables.Keyed) :
    posting.daily =
      ⟨transfer.sender, transfer.createdAt.date, posting.daily.used, pair.sender.dailyLimit⟩ := by
  obtain ⟨iban, date⟩ := approves.dailyNamed keyed
  have limit : posting.daily.limit = pair.sender.dailyLimit := by rw [approves.dailyRow]
  rw [← iban, ← date, ← limit]

theorem Approves.pair_unique
    (approves : tables.Approves transfer posting pair)
    {rows : LockedPair}
    (senderFound : tables.findAccount transfer.sender = some rows.sender)
    (receiverFound : tables.findAccount transfer.receiver = some rows.receiver) :
    pair = rows := by
  have sender := approves.senderFound.symm.trans senderFound
  have receiver := approves.receiverFound.symm.trans receiverFound
  cases pair
  cases rows
  simp only [Option.some.injEq] at sender receiver
  rw [sender, receiver]

/-- What is judged acceptable and booked does just what is expected of it. -/
theorem performs_book
    (keyed : tables.Keyed)
    (moderate : tables.Moderate errand.instant.date)
    (judged : tables.judge errand = .ok (transfer.toTransferDraft, posting))
    (apart : (tables.transfers ++ [transfer]).Pairwise Transfer.Apart) :
    ∃ sender receiver,
      tables.Performs (tables.book posting transfer) errand transfer sender receiver := by
  obtain ⟨pair, approves⟩ := approves_of_judge keyed judged
  obtain ⟨sent, received, amount, -⟩ := recorded_of_judge keyed judged
  obtain ⟨rows, different, paired, proposed, -, -, drafted⟩ :=
    (judge_eq_ok_iff _ _ _ _).mp judged
  obtain ⟨senderFound, receiverFound⟩ := (pairFor_eq_ok_iff different rows).mp paired
  obtain rfl : pair = rows := approves.pair_unique (sent ▸ senderFound) (received ▸ receiverFound)
  have senderNamed : pair.sender.iban = errand.sender := keyed.accounts _ _ senderFound
  have receiverNamed : pair.receiver.iban = errand.receiver := keyed.accounts _ _ receiverFound
  have made : transfer.createdAt = errand.instant := congrArg TransferDraft.createdAt drafted
  have carries := approves.carries keyed moderate.funded
  obtain ⟨account, debited, found, debit, debitUnits⟩ := carries.debited
  obtain rfl : account = pair.sender := Option.some.inj (found.symm.trans approves.senderFound)
  obtain ⟨account, credited, found, credit, creditUnits⟩ := carries.credited
  obtain rfl : account = pair.receiver := Option.some.inj (found.symm.trans approves.receiverFound)
  rw [sent, ← senderNamed] at debit
  rw [received, ← receiverNamed] at credit
  rw [amount] at debitUnits creditUnits
  have logged : transfer ∈ (tables.book posting transfer).transfers :=
    List.mem_append_right _ (List.mem_singleton_self transfer)
  have ids : ((tables.book posting transfer).transfers.map Transfer.id).Nodup :=
    List.pairwise_map.mpr (apart.imp And.left)
  rw [Errand.propose_eq_ok_iff, TransferCandidate.validate_eq_ok_iff,
    TransferCandidate.checkRules_eq_ok_iff] at proposed
  refine ⟨pair.sender, pair.receiver, ?_⟩
  constructor
  case senderFound => exact senderFound
  case receiverFound => exact receiverFound
  case distinct =>
    rw [senderNamed, receiverNamed]
    exact different
  case currency => exact proposed.1.1.sameCurrency
  case recorded => exact drafted
  case logged => rfl
  case fresh =>
    intro earlier member
    exact (List.pairwise_append.mp apart).2.2 earlier member transfer (List.mem_singleton_self _)
  case debited => exact ⟨debited, debit, debitUnits⟩
  case credited => exact ⟨credited, credit, creditUnits⟩
  case otherAccounts =>
    intro iban notSender notReceiver
    rw [senderNamed, ← sent] at notSender
    rw [receiverNamed, ← received] at notReceiver
    exact carries.others iban notSender notReceiver
  case charged =>
    refine ⟨posting.daily.used, ?_, ?_⟩
    · rw [approves.dailyLimit_book keyed, sent, made, senderNamed, if_pos rfl,
        approves.daily_eq keyed, sent, made]
    · rw [senderNamed, ← amount]
      exact approves.charge_exact keyed moderate sent made
  case otherLimits =>
    intro iban date other
    rw [approves.dailyLimit_book keyed, sent, made, ← senderNamed, if_neg other.symm]
  case found =>
    rw [senderNamed, ← sent] at debit
    rw [receiverNamed, ← received] at credit
    have answered := findTransfer_of_found ids logged debit credit
    exact answered
  case senderLists =>
    refine lists_of_logged logged (.inl (sent.trans senderNamed.symm)) ?_ debit rfl rfl
    rw [senderNamed, errand.normalize_sender]
  case receiverLists =>
    refine lists_of_logged logged (.inr (received.trans receiverNamed.symm)) ?_ credit rfl rfl
    rw [receiverNamed, errand.normalize_receiver]

end

end Tables

namespace Traffic

theorem conforms_start
    {store : Store}
    (lawful : store.Lawful)
    (errands : List Errand) :
    (start store errands).Conforms := by
  have clients : errands.map Errand.call = (errands.map Client.transfers).map Client.call := by
    rw [List.map_map]
    rfl
  rw [start, clients]
  exact conforms_of_lawful lawful _

theorem Conforms.run
    {traffic : Traffic}
    (conforms : traffic.Conforms)
    (schedule : List Nat) :
    (traffic.run schedule).Conforms := by
  induction schedule generalizing traffic with
  | nil => exact conforms
  | cons index rest ih => exact ih (conforms.advance index)

theorem exists_call_of_outcome?
    {traffic : Traffic}
    {index : Nat}
    {outcome : Except Failure Transfer}
    (decided : traffic.outcome? index = some outcome) :
    ∃ current call, traffic.calls[index]? = some call ∧
      call.standing = .active current (.done outcome) := by
  obtain ⟨call, here, known⟩ := Option.bind_eq_some_iff.mp decided
  obtain ⟨current, stands⟩ := TransferCall.outcome?_eq_some_iff.mp known
  exact ⟨current, call, here, stands⟩

/--
If a transfer that is left alone on moderate rows succeeds, it takes its amount from one
account and adds it to the other one, exactly, counts it in the sender's row for the day of the
record, with the limit that the account has then, and appends the record that it returns to the
log, which says what was asked for and when. The record is apart from all that were there, it
is found under its number along with the owners of both accounts, and it is listed for both of
them. All other accounts and limits stay as they are, and all of both accounts but the balance.
The store is one that clients and imports may have led to.
-/
theorem success_effect
    {store : Store}
    (lawful : store.Lawful)
    (unlocked : ∀ iban, store.lockOf iban = .free)
    (errand : Errand)
    (moderate : store.tables.Moderate errand.instant.date)
    {turns : Nat}
    {transfer : Transfer}
    (succeeds : ((start store [errand]).run (List.replicate turns 0)).outcome? 0 =
      some (.ok transfer)) :
    ∃ sender receiver,
      store.tables.Performs ((start store [errand]).run (List.replicate turns 0)).tables errand
        transfer sender receiver := by
  have quiet : store.Quiet := ⟨lawful.orderly, lawful.keyed, unlocked⟩
  have conforms := (conforms_start lawful [errand]).run (List.replicate turns 0)
  have apart : ((start store [errand]).run (List.replicate turns 0)).tables.transfers.Pairwise
      Transfer.Apart := conforms.lawful.files.distinct none
  obtain ⟨current, call, known, stands⟩ := exists_call_of_outcome? succeeds
  obtain ⟨settles, -⟩ := settles_of_done quiet errand turns known stands
  generalize ((start store [errand]).run (List.replicate turns 0)).tables = after at settles apart ⊢
  cases settles with
  | succeeds _ posting judged =>
      exact Tables.performs_book quiet.keyed moderate judged apart

/-- A transfer whose receiver is locked before its sender. -/
theorem success_effect_sample :
    let store := Store.opened Sample.accounts
    let errand := Sample.errand "B" "A" 2 8 "R8"
    let after := (start store [errand]).run (List.replicate 15 0)
    store.Lawful ∧ (∀ iban, store.lockOf iban = .free) ∧
      store.tables.Moderate errand.instant.date ∧
      ∃ transfer, after.outcome? 0 = some (.ok transfer) ∧
        ∃ sender receiver, store.tables.Performs after.tables errand transfer sender receiver := by
  intro store errand after
  have lawful : store.Lawful := Store.lawful_opened Sample.accounts
  have unlocked : ∀ iban, store.lockOf iban = .free :=
    (Store.quiet_opened Sample.accounts).unlocked
  have succeeds : after.outcome? 0 = some (.ok
      ⟨⟨⟨8⟩, "R8", "B", "A", .whole 40 (by decide), .tryLira, .transfer, .completed, none, ⟨0, 0⟩⟩,
        1⟩) := by
    decide +kernel
  exact ⟨lawful, unlocked, Sample.moderate_opened, _, succeeds,
    success_effect lawful unlocked errand Sample.moderate_opened succeeds⟩

end Traffic
end Giro
