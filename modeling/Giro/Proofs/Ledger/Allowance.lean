import Giro.Proofs.Ledger.Reconciliation

/-!
# Daily limits

The rows that say how much an account has sent on a day agree with the log. They
are read and written under the sender's lock, keyed by the day of the clock
reading that the record carries, and what the rules have added up is what is
posted; so no use of a limit is lost and no limit is exceeded.
-/

namespace Giro
namespace Tables

/-- Whether a transfer was sent by an account on a day. -/
def sentOn (iban : String) (date : Date) (transfer : Transfer) : Bool :=
  transfer.sender == iban && decide (transfer.createdAt.date = date)

/-- The exact sum of what an account has sent on a day, in units. -/
def usedOn (tables : Tables) (iban : String) (date : Date) : Int :=
  Decimal.exactSum
    ((tables.transfers.filter (sentOn iban date)).map (fun transfer => transfer.amount))

/-- The rows of the daily limits agree with the log, and no limit is exceeded. -/
structure Metered (tables : Tables) : Prop where
  recorded : ∀ iban date,
    (tables.dailyLimit iban date).isSome ↔
      ∃ transfer ∈ tables.transfers,
        transfer.sender = iban ∧ transfer.createdAt.date = date
  used : ∀ iban date row,
    tables.dailyLimit iban date = some row ->
      row.used.units = tables.usedOn iban date ∧ row.used <= row.limit

/-- No limit is above the most that all balances may come to. -/
structure Limited (tables : Tables) : Prop where
  accounts : ∀ account ∈ tables.accounts.values, account.dailyLimit.units <= wealthCap
  rows : ∀ iban date row,
    tables.dailyLimit iban date = some row -> row.limit.units <= wealthCap
  storable : ∀ iban date row,
    tables.dailyLimit iban date = some row -> row.used.Storable ∧ 0 <= row.used.units

/--
Only the sender's row on the day of the record changes, and what was used on that
day grows by the amount.
-/
structure Meters (before after : Tables) (transfer : Transfer) : Prop where
  logged : after.transfers = before.transfers ++ [transfer]
  counted : ∃ row,
    after.dailyLimit transfer.sender transfer.createdAt.date = some row ∧
      row.used.units =
        before.usedOn transfer.sender transfer.createdAt.date + transfer.amount.units
  others : ∀ iban date,
    (iban, date) ≠ (transfer.sender, transfer.createdAt.date) ->
      after.dailyLimit iban date = before.dailyLimit iban date

section Book

variable {tables : Tables} {transfer : Transfer} {posting : Posting} {pair : LockedPair}

/-- The row of a posting is the sender's on the day of the record. -/
theorem Approves.dailyNamed
    (approves : tables.Approves transfer posting pair)
    (keyed : tables.Keyed) :
    posting.daily.iban = transfer.sender ∧
      posting.daily.date = transfer.createdAt.date := by
  rw [approves.dailyRow, usage]
  cases found : tables.dailyLimit transfer.sender transfer.createdAt.date with
  | none => exact ⟨rfl, rfl⟩
  | some row => exact keyed.limits _ _ row found

theorem Approves.dailyLimit_book
    (approves : tables.Approves transfer posting pair)
    (keyed : tables.Keyed)
    (iban : String)
    (date : Date) :
    (tables.book posting transfer).dailyLimit iban date =
      if (transfer.sender, transfer.createdAt.date) = (iban, date) then some posting.daily
      else tables.dailyLimit iban date := by
  rw [Tables.dailyLimit_book, (approves.dailyNamed keyed).1, (approves.dailyNamed keyed).2]

/-- What was used before is storable and no more than the limit was then. -/
theorem usage_fits
    (limited : tables.Limited)
    (metered : tables.Metered)
    (iban : String)
    (date : Date)
    (limit : Decimal) :
    (tables.usage iban date limit).used.Storable ∧
      0 <= (tables.usage iban date limit).used.units ∧
      (tables.usage iban date limit).used.units <= wealthCap ∧
      (tables.usage iban date limit).used.units = tables.usedOn iban date := by
  rw [usage]
  cases found : tables.dailyLimit iban date with
  | some row =>
      obtain ⟨storable, nonnegative⟩ := limited.storable iban date row found
      obtain ⟨used, within⟩ := metered.used iban date row found
      exact ⟨storable, nonnegative, Int.le_trans within (limited.rows iban date row found),
        used⟩
  | none =>
      -- Nobody has sent anything on a day without a row.
      have nothing : tables.transfers.filter (sentOn iban date) = [] := by
        rw [List.filter_eq_nil_iff]
        intro transfer member sent
        have some : (tables.dailyLimit iban date).isSome :=
          (metered.recorded iban date).mpr
            ⟨transfer, member, by simpa [sentOn] using sent⟩
        rw [found] at some
        cases some
      have zero : ((none : Option DailyLimit).getD (.opened iban date limit)).used =
          Decimal.zero := rfl
      have cap : 0 <= wealthCap := by decide
      rw [zero, usedOn, nothing, Decimal.units_zero]
      exact ⟨by decide, Int.le_refl 0, cap, rfl⟩

/-- What the rules have added up is what is posted, and nothing is rounded. -/
theorem Approves.use_exact
    (approves : tables.Approves transfer posting pair)
    (funded : tables.Funded)
    (limited : tables.Limited)
    (metered : tables.Metered) :
    posting.daily.used.Storable ∧
      posting.daily.used.units =
        tables.usedOn transfer.sender transfer.createdAt.date + transfer.amount.units := by
  obtain ⟨storable, nonnegative, bounded, used⟩ := usage_fits limited metered transfer.sender
    transfer.createdAt.date pair.sender.dailyLimit
  obtain ⟨-, balanceBounded, -⟩ := funded.fits approves.senderFound
  have positive : 0 < transfer.amount.units := approves.positive
  have covered : transfer.amount.units <= pair.sender.balance.units := approves.covered
  have cap := wealthCap_lt_exactUnits
  obtain ⟨sum, made, units⟩ := Decimal.add?_exact storable approves.storable (by omega)
  rw [approves.use] at made
  cases made
  exact ⟨Decimal.storable_of_units_add storable approves.storable units, by rw [units, used]⟩

theorem usedOn_append
    {before after : Tables}
    (logged : after.transfers = before.transfers ++ [transfer])
    (iban : String)
    (date : Date) :
    after.usedOn iban date =
      before.usedOn iban date +
        if (transfer.sender, transfer.createdAt.date) = (iban, date) then
          transfer.amount.units
        else 0 := by
  rw [usedOn, usedOn, logged, List.filter_append, List.map_append, Decimal.exactSum_append]
  by_cases here : (transfer.sender, transfer.createdAt.date) = (iban, date)
  · obtain ⟨rfl, rfl⟩ := Prod.mk.inj here
    simp [sentOn, Decimal.exactSum]
  · have other : sentOn iban date transfer = false := by
      simpa [sentOn] using here
    simp [other, here, Decimal.exactSum]

theorem Approves.metered_book
    (approves : tables.Approves transfer posting pair)
    (keyed : tables.Keyed)
    (funded : tables.Funded)
    (limited : tables.Limited)
    (metered : tables.Metered) :
    (tables.book posting transfer).Metered := by
  have logged : (tables.book posting transfer).transfers = tables.transfers ++ [transfer] := rfl
  obtain ⟨-, used⟩ := approves.use_exact funded limited metered
  constructor
  · intro iban date
    rw [approves.dailyLimit_book keyed]
    by_cases here : (transfer.sender, transfer.createdAt.date) = (iban, date)
    · rw [if_pos here]
      refine ⟨fun _ => ⟨transfer, by simp [logged], Prod.mk.inj here⟩, fun _ => rfl⟩
    · rw [if_neg here, metered.recorded]
      constructor
      · rintro ⟨other, member, sent⟩
        exact ⟨other, by simp [logged, member], sent⟩
      · rintro ⟨other, member, sent⟩
        rw [logged, List.mem_append, List.mem_singleton] at member
        rcases member with before | rfl
        · exact ⟨other, before, sent⟩
        · exact absurd (Prod.ext sent.1 sent.2) here
  · intro iban date row found
    rw [approves.dailyLimit_book keyed] at found
    rw [usedOn_append logged]
    by_cases here : (transfer.sender, transfer.createdAt.date) = (iban, date)
    · rw [if_pos here] at found ⊢
      cases found
      obtain ⟨rfl, rfl⟩ := Prod.mk.inj here
      refine ⟨used, ?_⟩
      rw [approves.dailyRow]
      exact approves.within
    · rw [if_neg here] at found ⊢
      rw [Int.add_zero]
      exact metered.used iban date row found

theorem Approves.limited_book
    (approves : tables.Approves transfer posting pair)
    (keyed : tables.Keyed)
    (funded : tables.Funded)
    (limited : tables.Limited)
    (metered : tables.Metered) :
    (tables.book posting transfer).Limited := by
  obtain ⟨storable, used⟩ := approves.use_exact funded limited metered
  obtain ⟨-, nonnegative, -, before⟩ := usage_fits limited metered transfer.sender
    transfer.createdAt.date pair.sender.dailyLimit
  have positive : 0 < transfer.amount.units := approves.positive
  have senderLimit := limited.accounts _ (Table.mem_values_of_get? approves.senderFound)
  have receiverLimit := limited.accounts _ (Table.mem_values_of_get? approves.receiverFound)
  refine ⟨?_, ?_, ?_⟩
  · intro account member
    rcases (Table.mem_values_put member).imp_right Table.mem_values_put with rfl | rfl | old
    · rw [approves.receiverRow]
      exact receiverLimit
    · rw [approves.senderRow]
      exact senderLimit
    · exact limited.accounts account old
  · intro iban date row found
    rw [approves.dailyLimit_book keyed] at found
    split at found
    · cases found
      rw [approves.dailyRow]
      exact senderLimit
    · exact limited.rows iban date row found
  · intro iban date row found
    rw [approves.dailyLimit_book keyed] at found
    split at found
    · cases found
      exact ⟨storable, by omega⟩
    · exact limited.storable iban date row found

theorem Approves.meters
    (approves : tables.Approves transfer posting pair)
    (keyed : tables.Keyed)
    (funded : tables.Funded)
    (limited : tables.Limited)
    (metered : tables.Metered) :
    tables.Meters (tables.book posting transfer) transfer := by
  obtain ⟨-, used⟩ := approves.use_exact funded limited metered
  refine ⟨rfl, ⟨posting.daily, ?_, used⟩, ?_⟩
  · rw [approves.dailyLimit_book keyed, if_pos rfl]
  · intro iban date other
    rw [approves.dailyLimit_book keyed, if_neg other.symm]

end Book

/-- What was used on a day never grows less. -/
theorem Meters.used_le
    {before after : Tables}
    {transfer : Transfer}
    (meters : before.Meters after transfer)
    (metered : before.Metered)
    (positive : Decimal.zero < transfer.amount)
    {iban : String}
    {date : Date}
    {old : DailyLimit}
    (found : before.dailyLimit iban date = some old) :
    ∃ row, after.dailyLimit iban date = some row ∧ old.used <= row.used := by
  by_cases here : (iban, date) = (transfer.sender, transfer.createdAt.date)
  · obtain ⟨rfl, rfl⟩ := Prod.mk.inj here
    obtain ⟨row, there, used⟩ := meters.counted
    refine ⟨row, there, ?_⟩
    have before := (metered.used _ _ old found).1
    have amount : 0 < transfer.amount.units := positive
    change old.used.units <= row.used.units
    omega
  · exact ⟨old, (meters.others iban date here).trans found, Int.le_refl _⟩

end Tables

theorem Store.limits_opened (accounts : List Account) :
    (Store.opened accounts).tables.limits = .empty :=
  opened_induction accounts (fun store => store.tables.limits = .empty) rfl
    (fun _ _ none => none)

namespace Traffic

theorem metered_run
    {accounts : List Account}
    (errands : List Errand)
    (schedule : List Nat)
    (funded : (Store.opened accounts).tables.Funded)
    (limited : ∀ account ∈ (Store.opened accounts).tables.accounts.values,
      account.dailyLimit.units <= Tables.wealthCap) :
    let tables := ((start (Store.opened accounts) errands).run schedule).tables
    tables.Funded ∧ tables.Limited ∧ tables.Metered := by
  refine tables_run_of_book (Store.quiet_opened accounts) errands schedule
    (fun tables => tables.Funded ∧ tables.Limited ∧ tables.Metered) ?_ ?_
  · have noRow : ∀ iban date,
        (Store.opened accounts).tables.dailyLimit iban date = none := by
      intro iban date
      rw [Tables.dailyLimit, Store.limits_opened]
      rfl
    refine ⟨funded, ⟨limited, ?_, ?_⟩, ⟨?_, ?_⟩⟩
    · intro iban date row found
      rw [noRow] at found
      cases found
    · intro iban date row found
      rw [noRow] at found
      cases found
    · intro iban date
      rw [noRow, Store.transfers_opened]
      simp
    · intro iban date row found
      rw [noRow] at found
      cases found
  · rintro tables errand transfer posting keyed ⟨funded, limited, metered⟩ judged
    obtain ⟨pair, approves⟩ := Tables.approves_of_judge keyed judged
    exact ⟨approves.funded_book keyed funded,
      approves.limited_book keyed funded limited metered,
      approves.metered_book keyed funded limited metered⟩

/--
Whatever the order in which calls take their steps and whatever their clocks say,
at every moment there is a row for an account and a day exactly if the log has a
transfer sent by that account on that day; the row holds the exact sum of these
transfers, and no more than its limit. The next step lowers no such sum, and
changes at most one row: the one of its own record's sender and day.
-/
theorem daily_limits_agree
    (accounts : List Account)
    (errands : List Errand)
    (schedule : List Nat)
    (funded : (Store.opened accounts).tables.Funded)
    (limited : ∀ account ∈ (Store.opened accounts).tables.accounts.values,
      account.dailyLimit.units <= Tables.wealthCap) :
    let traffic := (start (Store.opened accounts) errands).run schedule
    traffic.tables.Metered ∧
      ∀ index,
        (∀ iban date old, traffic.tables.dailyLimit iban date = some old ->
          ∃ row, (traffic.advance index).tables.dailyLimit iban date = some row ∧
            old.used <= row.used) ∧
        ((traffic.advance index).tables = traffic.tables ∨
          ∃ transfer, traffic.tables.Meters (traffic.advance index).tables transfer) := by
  intro traffic
  obtain ⟨fundedNow, limitedNow, metered⟩ := metered_run errands schedule funded limited
  obtain ⟨journeys, sound⟩ :=
    (sound_start (Store.quiet_opened accounts) errands).run schedule
  refine ⟨metered, ?_⟩
  intro index
  rcases sound.tables_advance index with same | ⟨errand, transfer, posting, judged, after⟩
  · refine ⟨?_, Or.inl same⟩
    intro iban date old found
    rw [same]
    exact ⟨old, found, Int.le_refl _⟩
  · obtain ⟨pair, approves⟩ := Tables.approves_of_judge sound.keyed judged
    have meters := approves.meters sound.keyed fundedNow limitedNow metered
    rw [after]
    refine ⟨?_, Or.inr ⟨transfer, meters⟩⟩
    intro iban date old found
    exact meters.used_le metered approves.positive found

theorem daily_limits_agree_sample :
    let opening := (Store.opened Sample.accounts).tables
    let traffic := (start (Store.opened Sample.accounts) Sample.errands).run Sample.handover
    opening.Funded ∧
      (∀ account ∈ opening.accounts.values, account.dailyLimit.units <= Tables.wealthCap) ∧
      (traffic.tables.dailyLimit "A" ⟨0⟩).isSome ∧
      traffic.tables.Metered ∧
      ∀ index,
        (∀ iban date old, traffic.tables.dailyLimit iban date = some old ->
          ∃ row, (traffic.advance index).tables.dailyLimit iban date = some row ∧
            old.used <= row.used) ∧
        ((traffic.advance index).tables = traffic.tables ∨
          ∃ transfer, traffic.tables.Meters (traffic.advance index).tables transfer) :=
  ⟨funded_sample, by decide, by decide,
    daily_limits_agree Sample.accounts Sample.errands _ funded_sample (by decide)⟩

end Traffic
end Giro
