import Giro.Proofs.Ledger.Totals
import Giro.Proofs.Traffic.Atomicity

/-!
# Reconciliation

Balances agree with the log: every account holds what it was opened with, what it
has received since and less what it has sent since, exactly, however many digits
the amounts were written with. This is so at every moment, because the rows only
ever change by whole transfers.
-/

namespace Giro
namespace Tables

/-- The exact sum of what an account has received, in units. -/
def received (tables : Tables) (iban : String) : Int :=
  Decimal.exactSum
    ((tables.transfers.filter (fun transfer => transfer.receiver == iban)).map
      (fun transfer => transfer.amount))

/-- The exact sum of what an account has sent, in units. -/
def sent (tables : Tables) (iban : String) : Int :=
  Decimal.exactSum
    ((tables.transfers.filter (fun transfer => transfer.sender == iban)).map
      (fun transfer => transfer.amount))

/-- The exact sum of all balances, in units. -/
def wealth (tables : Tables) : Int :=
  tables.accounts.sumOf (fun account => account.balance.units)

/-- The most that all balances together may come to, in units. -/
def wealthCap : Int := tenTo 24 * Decimal.unitsOfOne

theorem wealthCap_lt_exactUnits : 2 * wealthCap < Decimal.exactUnits := by decide

/--
No balance is negative or has more digits after the point than can be stored, and
all of them together are within bounds.
-/
structure Funded (tables : Tables) : Prop where
  nonnegative : ∀ account ∈ tables.accounts.values, Decimal.zero <= account.balance
  storable : ∀ account ∈ tables.accounts.values, account.balance.Storable
  bounded : tables.wealth <= wealthCap

/--
The rows change by one whole transfer: what it takes from one account it adds to
another one, and it is the last entry of the log.
-/
structure Carries (before after : Tables) (transfer : Transfer) : Prop where
  positive : Decimal.zero < transfer.amount
  distinct : transfer.sender ≠ transfer.receiver
  logged : after.transfers = before.transfers ++ [transfer]
  debited : ∃ account debited,
    before.findAccount transfer.sender = some account ∧
      after.findAccount transfer.sender = some { account with balance := debited } ∧
      debited.units = account.balance.units - transfer.amount.units
  credited : ∃ account credited,
    before.findAccount transfer.receiver = some account ∧
      after.findAccount transfer.receiver = some { account with balance := credited } ∧
      credited.units = account.balance.units + transfer.amount.units
  others : ∀ iban, iban ≠ transfer.sender -> iban ≠ transfer.receiver ->
    after.findAccount iban = before.findAccount iban

theorem Funded.fits
    {tables : Tables}
    (funded : tables.Funded)
    {iban : String}
    {account : Account}
    (found : tables.findAccount iban = some account) :
    0 <= account.balance.units ∧ account.balance.units <= wealthCap ∧
      account.balance.Storable := by
  have member := Table.mem_values_of_get? found
  refine ⟨funded.nonnegative account member, ?_, funded.storable account member⟩
  exact (Table.le_sumOf funded.nonnegative member).trans funded.bounded

section Book

variable {tables : Tables} {transfer : Transfer} {posting : Posting} {pair : LockedPair}

theorem Approves.senderNamed
    (approves : tables.Approves transfer posting pair)
    (keyed : tables.Keyed) :
    posting.sender.iban = transfer.sender := by
  rw [approves.senderRow]
  exact keyed.accounts transfer.sender pair.sender approves.senderFound

theorem Approves.receiverNamed
    (approves : tables.Approves transfer posting pair)
    (keyed : tables.Keyed) :
    posting.receiver.iban = transfer.receiver := by
  rw [approves.receiverRow]
  exact keyed.accounts transfer.receiver pair.receiver approves.receiverFound

/-- Nothing is rounded when a sender pays no more than it has. -/
theorem Approves.debit_exact
    (approves : tables.Approves transfer posting pair)
    (funded : tables.Funded) :
    posting.sender.balance.units = pair.sender.balance.units - transfer.amount.units := by
  obtain ⟨nonnegative, bounded, storable⟩ := funded.fits approves.senderFound
  have positive : 0 < transfer.amount.units := approves.positive
  have covered : transfer.amount.units <= pair.sender.balance.units := approves.covered
  have cap := wealthCap_lt_exactUnits
  obtain ⟨debited, made, units⟩ :=
    Decimal.sub?_exact storable approves.storable (by omega)
  rw [approves.debit] at made
  cases made
  exact units

/-- What the receiver has and is paid is within the total of all balances. -/
theorem Approves.credit_exact
    (approves : tables.Approves transfer posting pair)
    (funded : tables.Funded) :
    posting.receiver.balance.units =
      pair.receiver.balance.units + transfer.amount.units := by
  obtain ⟨nonnegative, -, storable⟩ := funded.fits approves.receiverFound
  have positive : 0 < transfer.amount.units := approves.positive
  have covered : transfer.amount.units <= pair.sender.balance.units := approves.covered
  have cap := wealthCap_lt_exactUnits
  have together : pair.sender.balance.units + pair.receiver.balance.units <= tables.wealth :=
    Table.add_le_sumOf funded.nonnegative approves.senderFound approves.receiverFound
      approves.distinct
  have bounded := funded.bounded
  obtain ⟨credited, made, units⟩ :=
    Decimal.add?_exact storable approves.storable (by omega)
  rw [approves.credit] at made
  cases made
  exact units

/-- A transfer that is let pass is carried out as a whole. -/
theorem Approves.carries
    (approves : tables.Approves transfer posting pair)
    (keyed : tables.Keyed)
    (funded : tables.Funded) :
    tables.Carries (tables.book posting transfer) transfer := by
  have senderNamed := approves.senderNamed keyed
  have receiverNamed := approves.receiverNamed keyed
  refine ⟨approves.positive, approves.distinct, rfl, ?_, ?_, ?_⟩
  · refine ⟨pair.sender, posting.sender.balance, approves.senderFound, ?_,
      approves.debit_exact funded⟩
    rw [findAccount_book, if_neg (receiverNamed.trans_ne approves.distinct.symm),
      if_pos senderNamed, ← approves.senderRow]
  · refine ⟨pair.receiver, posting.receiver.balance, approves.receiverFound, ?_,
      approves.credit_exact funded⟩
    rw [findAccount_book, if_pos receiverNamed, ← approves.receiverRow]
  · intro iban notSender notReceiver
    rw [findAccount_book, if_neg, if_neg]
    · rw [senderNamed]
      exact notSender.symm
    · rw [receiverNamed]
      exact notReceiver.symm

/-- What one account loses the other one gains. -/
theorem Approves.wealth_book
    (approves : tables.Approves transfer posting pair)
    (keyed : tables.Keyed)
    (funded : tables.Funded) :
    (tables.book posting transfer).wealth = tables.wealth := by
  have senderNamed := approves.senderNamed keyed
  have receiverNamed := approves.receiverNamed keyed
  have debited := Table.sumOf_put (fun account => account.balance.units) posting.sender
    approves.senderFound
  have receiverFound :
      (tables.accounts.put transfer.sender posting.sender).get? transfer.receiver =
        some pair.receiver := by
    rw [Table.get?_put, if_neg approves.distinct]
    exact approves.receiverFound
  have credited := Table.sumOf_put (fun account => account.balance.units) posting.receiver
    receiverFound
  have debit := approves.debit_exact funded
  have credit := approves.credit_exact funded
  rw [wealth, wealth, book, senderNamed, receiverNamed, credited, debited, debit, credit]
  omega

theorem Approves.funded_book
    (approves : tables.Approves transfer posting pair)
    (keyed : tables.Keyed)
    (funded : tables.Funded) :
    (tables.book posting transfer).Funded := by
  obtain ⟨-, -, senderStorable⟩ := funded.fits approves.senderFound
  obtain ⟨receiverNonnegative, -, receiverStorable⟩ := funded.fits approves.receiverFound
  have positive : 0 < transfer.amount.units := approves.positive
  have covered : transfer.amount.units <= pair.sender.balance.units := approves.covered
  have debit := approves.debit_exact funded
  have credit := approves.credit_exact funded
  have rows : ∀ account ∈ (tables.book posting transfer).accounts.values,
      account = posting.receiver ∨ account = posting.sender ∨
        account ∈ tables.accounts.values :=
    fun account member => (Table.mem_values_put member).imp_right Table.mem_values_put
  refine ⟨?_, ?_, ?_⟩
  · intro account member
    rcases rows account member with rfl | rfl | before
    · change 0 <= posting.receiver.balance.units
      omega
    · change 0 <= posting.sender.balance.units
      omega
    · exact funded.nonnegative account before
  · intro account member
    rcases rows account member with rfl | rfl | before
    · exact Decimal.storable_of_units_add receiverStorable approves.storable credit
    · exact Decimal.storable_of_units_sub senderStorable approves.storable debit
    · exact funded.storable account before
  · rw [approves.wealth_book keyed funded]
    exact funded.bounded

end Book

/-- The balances agree with the log since the accounts were opened. -/
structure Reconciled (opening tables : Tables) : Prop where
  sameAccounts : ∀ iban,
    (tables.findAccount iban).isSome = (opening.findAccount iban).isSome
  balances : ∀ iban first account,
    opening.findAccount iban = some first -> tables.findAccount iban = some account ->
      account.balance.units =
          first.balance.units + tables.received iban - tables.sent iban ∧
        0 <= account.balance.units

theorem received_append
    {before after : Tables}
    {transfer : Transfer}
    (logged : after.transfers = before.transfers ++ [transfer])
    (iban : String) :
    after.received iban =
      before.received iban + if transfer.receiver = iban then transfer.amount.units else 0 := by
  rw [received, received, logged, List.filter_append, List.map_append,
    Decimal.exactSum_append]
  by_cases here : transfer.receiver = iban <;> simp [here, Decimal.exactSum]

theorem sent_append
    {before after : Tables}
    {transfer : Transfer}
    (logged : after.transfers = before.transfers ++ [transfer])
    (iban : String) :
    after.sent iban =
      before.sent iban + if transfer.sender = iban then transfer.amount.units else 0 := by
  rw [sent, sent, logged, List.filter_append, List.map_append, Decimal.exactSum_append]
  by_cases here : transfer.sender = iban <;> simp [here, Decimal.exactSum]

/-- A whole transfer keeps the balances in agreement with the log. -/
theorem Reconciled.carries
    {opening before after : Tables}
    {transfer : Transfer}
    (reconciled : opening.Reconciled before)
    (carries : before.Carries after transfer)
    (funded : after.Funded) :
    opening.Reconciled after := by
  obtain ⟨sender, debited, senderBefore, senderAfter, debit⟩ := carries.debited
  obtain ⟨receiver, credited, receiverBefore, receiverAfter, credit⟩ := carries.credited
  have rows : ∀ iban account, after.findAccount iban = some account ->
      ∃ old, before.findAccount iban = some old ∧
        account.balance.units = old.balance.units +
          (if transfer.receiver = iban then transfer.amount.units else 0) -
          (if transfer.sender = iban then transfer.amount.units else 0) := by
    intro iban account found
    by_cases isSender : transfer.sender = iban
    · subst isSender
      rw [senderAfter] at found
      cases found
      refine ⟨sender, senderBefore, ?_⟩
      rw [if_neg carries.distinct.symm, if_pos rfl, debit]
      omega
    · by_cases isReceiver : transfer.receiver = iban
      · subst isReceiver
        rw [receiverAfter] at found
        cases found
        refine ⟨receiver, receiverBefore, ?_⟩
        rw [if_pos rfl, if_neg isSender, credit]
        omega
      · rw [carries.others iban (Ne.symm isSender) (Ne.symm isReceiver)] at found
        refine ⟨account, found, ?_⟩
        rw [if_neg isSender, if_neg isReceiver]
        omega
  constructor
  · intro iban
    rw [← reconciled.sameAccounts iban]
    by_cases isSender : transfer.sender = iban
    · subst isSender
      rw [senderAfter, senderBefore]
      rfl
    · by_cases isReceiver : transfer.receiver = iban
      · subst isReceiver
        rw [receiverAfter, receiverBefore]
        rfl
      · rw [carries.others iban (Ne.symm isSender) (Ne.symm isReceiver)]
  · intro iban first account opened found
    obtain ⟨old, foundBefore, change⟩ := rows iban account found
    obtain ⟨balance, -⟩ := reconciled.balances iban first old opened foundBefore
    refine ⟨?_, (funded.fits found).1⟩
    rw [change, balance, received_append carries.logged, sent_append carries.logged]
    omega

/-- The store adds up its balances exactly. -/
theorem Funded.totalBalance
    {tables : Tables}
    (funded : tables.Funded) :
    ∃ total, tables.totalBalance = .ok total ∧ total.units = tables.wealth := by
  have whole : Decimal.exactSum (tables.accounts.values.map Account.balance) =
      tables.wealth := by
    rw [Decimal.exactSum_eq_sum, List.map_map]
    rfl
  have cap := wealthCap_lt_exactUnits
  have bounded := funded.bounded
  have nonnegative : 0 <= tables.wealth := by
    apply List.sum_nonneg
    intro weight weighed
    obtain ⟨account, member, rfl⟩ := List.mem_map.mp weighed
    exact funded.nonnegative account member
  obtain ⟨total, summed, units⟩ := Decimal.foldlM_add_exact
    (tables.accounts.values.map Account.balance) (by decide : Decimal.zero.Storable)
    (by decide)
    (by
      intro balance member
      obtain ⟨account, there, rfl⟩ := List.mem_map.mp member
      exact funded.storable account there)
    (by
      intro balance member
      obtain ⟨account, there, rfl⟩ := List.mem_map.mp member
      exact funded.nonnegative account there)
    (by
      rw [whole, Decimal.units_zero]
      omega)
  refine ⟨total, summed, ?_⟩
  rw [units, whole, Decimal.units_zero, Int.zero_add]

end Tables

theorem Store.transfers_opened (accounts : List Account) :
    (Store.opened accounts).tables.transfers = [] :=
  opened_induction accounts (fun store => store.tables.transfers = []) rfl
    (fun _ _ none => none)

namespace Traffic

/-- What keeps the balances in agreement with the log, whatever the order of steps. -/
structure Balanced (opening tables : Tables) : Prop where
  funded : tables.Funded
  reconciled : opening.Reconciled tables
  wealth : tables.wealth = opening.wealth

theorem balanced_run
    {accounts : List Account}
    (errands : List Errand)
    (schedule : List Nat)
    (funded : (Store.opened accounts).tables.Funded) :
    Balanced (Store.opened accounts).tables
      ((start (Store.opened accounts) errands).run schedule).tables := by
  refine tables_run_of_book (Store.quiet_opened accounts) errands schedule
    (Balanced (Store.opened accounts).tables) ?_ ?_
  · refine ⟨funded, ⟨fun _ => rfl, ?_⟩, rfl⟩
    intro iban first account opened found
    rw [opened] at found
    cases found
    have none := Store.transfers_opened accounts
    refine ⟨?_, (funded.fits opened).1⟩
    simp [Tables.received, Tables.sent, none, Decimal.exactSum]
  · intro tables errand transfer posting keyed balanced judged
    obtain ⟨pair, approves⟩ := Tables.approves_of_judge keyed judged
    have fundedAfter := approves.funded_book keyed balanced.funded
    have carries := approves.carries keyed balanced.funded
    refine ⟨fundedAfter, balanced.reconciled.carries carries fundedAfter, ?_⟩
    rw [approves.wealth_book keyed balanced.funded, balanced.wealth]

/--
Whatever the order in which calls take their steps, at every moment each balance
is what the account was opened with, together with what the log says it received
and less what the log says it sent; the total of all balances stays what it was,
and the next step carries out one whole transfer or changes no row.
-/
theorem balances_reconcile
    (accounts : List Account)
    (errands : List Errand)
    (schedule : List Nat)
    (funded : (Store.opened accounts).tables.Funded) :
    let opening := (Store.opened accounts).tables
    let traffic := (start (Store.opened accounts) errands).run schedule
    opening.Reconciled traffic.tables ∧
      (∃ total, traffic.tables.totalBalance = .ok total ∧ total.units = opening.wealth) ∧
      ∀ index,
        (traffic.advance index).tables = traffic.tables ∨
          ∃ transfer, traffic.tables.Carries (traffic.advance index).tables transfer := by
  intro opening traffic
  have balanced := balanced_run errands schedule funded
  obtain ⟨journeys, sound⟩ :=
    (sound_start (Store.quiet_opened accounts) errands).run schedule
  refine ⟨balanced.reconciled, ?_, ?_⟩
  · obtain ⟨total, summed, units⟩ := balanced.funded.totalBalance
    exact ⟨total, summed, units.trans balanced.wealth⟩
  · intro index
    apply (sound.tables_advance index).imp_right
    rintro ⟨errand, transfer, posting, judged, after⟩
    obtain ⟨pair, approves⟩ := Tables.approves_of_judge sound.keyed judged
    refine ⟨transfer, ?_⟩
    rw [after]
    exact approves.carries sound.keyed balanced.funded

theorem funded_sample : (Store.opened Sample.accounts).tables.Funded where
  nonnegative := by decide
  storable := by decide
  bounded := by decide

theorem balances_reconcile_sample :
    let opening := (Store.opened Sample.accounts).tables
    let traffic := (start (Store.opened Sample.accounts) Sample.errands).run
      Sample.handover
    opening.Funded ∧ traffic.tables.transfers.length = 2 ∧
      opening.Reconciled traffic.tables ∧
      (∃ total, traffic.tables.totalBalance = .ok total ∧ total.units = opening.wealth) ∧
      ∀ index,
        (traffic.advance index).tables = traffic.tables ∨
          ∃ transfer, traffic.tables.Carries (traffic.advance index).tables transfer :=
  ⟨funded_sample, by decide, balances_reconcile Sample.accounts Sample.errands _ funded_sample⟩

end Traffic
end Giro
