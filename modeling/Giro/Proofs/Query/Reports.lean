import Giro.Proofs.Decimal.Quotients
import Giro.Proofs.Ledger.Reconciliation
import Giro.Proofs.Query.Paging
import Giro.Query.Category

/-!
# Reports that agree

The summary of an account, its history, the breakdown by category and the totals by
day are made by traversals of their own, and account for the same transfers: as long
as all amounts together stay within bounds, nothing is rounded on the way, and none
of the counts, dates and sums depends on the order of the log.
-/

namespace Giro

/-- A fold that can fail does not, if each of its steps keeps what holds of the items before. -/
theorem foldlM_eq_ok_of_steps
    {ε α β : Type}
    {step : β -> α -> Except ε β}
    {start : β}
    (holds : List α -> β -> Prop)
    (first : holds [] start)
    (items : List α)
    (next : ∀ before item, before ++ [item] <+: items -> ∀ value, holds before value ->
      ∃ after, step value item = .ok after ∧ holds (before ++ [item]) after) :
    ∃ value, items.foldlM step start = .ok value ∧ holds items value := by
  induction items using List.reverseRecOn with
  | nil => exact ⟨start, rfl, first⟩
  | append_singleton items item ih =>
      obtain ⟨value, folded, kept⟩ := ih fun before item within =>
        next before item (within.trans (List.prefix_append _ _))
      obtain ⟨after, stepped, holds⟩ := next items item (List.prefix_refl _) value kept
      refine ⟨after, ?_, holds⟩
      rw [List.foldlM_append, folded]
      change List.foldlM step value [item] = .ok after
      rw [List.foldlM_cons, stepped]
      rfl

namespace Decimal

/-- What is added up exactly: it can be stored, and is not negative. -/
structure Addend (number : Decimal) : Prop where
  storable : number.Storable
  nonnegative : 0 <= number.units

theorem addend_zero : zero.Addend := ⟨by decide, by decide⟩

/-- The sum of two addends is exact, and an addend again, within bounds. -/
theorem Addend.add
    {left right : Decimal}
    (leftAddend : left.Addend)
    (rightAddend : right.Addend)
    (fits : left.units + right.units < exactUnits) :
    ∃ sum, left.add right = .ok sum ∧ sum.Addend ∧ sum.units = left.units + right.units := by
  have leftNonnegative := leftAddend.nonnegative
  have rightNonnegative := rightAddend.nonnegative
  obtain ⟨sum, added, units⟩ :=
    add?_exact leftAddend.storable rightAddend.storable (by omega)
  refine ⟨sum, by rw [Decimal.add, added], ⟨?_, by omega⟩, units⟩
  exact storable_of_units_add leftAddend.storable rightAddend.storable units

theorem exactSum_map_nonneg
    {α : Type}
    {items : List α}
    {amount : α -> Decimal}
    (addends : ∀ item ∈ items, (amount item).Addend) :
    0 <= exactSum (items.map amount) := by
  rw [exactSum_eq_sum, List.map_map]
  refine List.sum_nonneg fun units member => ?_
  obtain ⟨item, here, rfl⟩ := List.mem_map.mp member
  exact (addends item here).nonnegative

theorem zero_add_eq (number : Decimal) : zero.add number = .ok number := rfl

@[simp] theorem exactSum_nil : exactSum [] = 0 := rfl

theorem exactSum_cons (number : Decimal) (rest : List Decimal) :
    exactSum (number :: rest) = number.units + exactSum rest := rfl

/-- No part of an exact sum is larger than the sum. -/
theorem units_le_exactSum_map
    {α : Type}
    {items : List α}
    {amount : α -> Decimal}
    (addends : ∀ item ∈ items, (amount item).Addend)
    {item : α}
    (member : item ∈ items) :
    (amount item).units <= exactSum (items.map amount) := by
  rw [exactSum_eq_sum, List.map_map]
  refine List.single_le_sum (fun units member => ?_) _ (List.mem_map_of_mem member)
  obtain ⟨other, there, rfl⟩ := List.mem_map.mp member
  exact (addends other there).nonnegative

/-- A sum of storable numbers has no more digits that count than they have. -/
theorem storedUnits_dvd_exactSum_map
    {α : Type}
    {items : List α}
    {amount : α -> Decimal}
    (addends : ∀ item ∈ items, (amount item).Addend) :
    (storedUnits : Int) ∣ exactSum (items.map amount) := by
  rw [exactSum_eq_sum, List.map_map]
  refine List.dvd_sum fun units member => ?_
  obtain ⟨item, here, rfl⟩ := List.mem_map.mp member
  exact (addends item here).storable

theorem exactSum_perm {left right : List Decimal} (shuffled : left.Perm right) :
    exactSum left = exactSum right := by
  rw [exactSum_eq_sum, exactSum_eq_sum]
  exact (shuffled.map units).sum_eq

end Decimal

open Decimal (exactSum exactUnits Addend)

/-- The amounts of transfers. -/
def Transfer.amounts (transfers : List Transfer) : List Decimal :=
  transfers.map (fun transfer => transfer.amount)

open Transfer (amounts)

/-- Transfers whose amounts are positive and storable, and within bounds altogether. -/
structure Transfer.Addable (transfers : List Transfer) : Prop where
  positive : ∀ transfer ∈ transfers, Decimal.zero < transfer.amount
  storable : ∀ transfer ∈ transfers, transfer.amount.Storable
  bounded : exactSum (amounts transfers) <= Tables.wealthCap

namespace Transfer

theorem Addable.addend
    {transfers : List Transfer}
    (addable : Addable transfers)
    {transfer : Transfer}
    (member : transfer ∈ transfers) :
    transfer.amount.Addend :=
  ⟨addable.storable transfer member, Int.le_of_lt (addable.positive transfer member)⟩

/-- Some of the transfers come to no more than all of them. -/
theorem Addable.sublist
    {some all : List Transfer}
    (addable : Addable all)
    (within : some.Sublist all) :
    Addable some where
  positive := fun transfer member => addable.positive transfer (within.subset member)
  storable := fun transfer member => addable.storable transfer (within.subset member)
  bounded := by
    refine le_trans ?_ addable.bounded
    rw [Decimal.exactSum_eq_sum, Decimal.exactSum_eq_sum]
    refine List.Sublist.sum_le_sum ((within.map _).map _) fun units member => ?_
    obtain ⟨amount, here, rfl⟩ := List.mem_map.mp member
    obtain ⟨transfer, there, rfl⟩ := List.mem_map.mp here
    exact (addable.addend there).nonnegative

/-- Transfers that can be added up come to exactly their sum. -/
theorem Addable.sum_exact
    {transfers : List Transfer}
    (addable : Addable transfers) :
    ∃ total, Decimal.sum (amounts transfers) = .ok total ∧
      total.units = exactSum (amounts transfers) := by
  have cap := Tables.wealthCap_lt_exactUnits
  have bounded := addable.bounded
  have addend : ∀ amount ∈ amounts transfers, amount.Addend := by
    intro amount member
    obtain ⟨transfer, here, rfl⟩ := List.mem_map.mp member
    exact addable.addend here
  obtain ⟨total, summed, units⟩ :=
    Decimal.foldlM_add_exact (amounts transfers) Decimal.addend_zero.storable (by decide)
      (fun amount member => (addend amount member).storable)
      (fun amount member => (addend amount member).nonnegative)
      (by rw [Decimal.units_zero]; omega)
  rw [Decimal.units_zero, zero_add] at units
  exact ⟨total, summed, units⟩

theorem exactSum_amounts_perm {left right : List Transfer} (shuffled : left.Perm right) :
    exactSum (amounts left) = exactSum (amounts right) :=
  Decimal.exactSum_perm (shuffled.map _)

theorem exactSum_amounts_concat (transfers : List Transfer) (transfer : Transfer) :
    exactSum (amounts (transfers ++ [transfer])) =
      exactSum (amounts transfers) + transfer.amount.units := by
  rw [amounts, List.map_append, Decimal.exactSum_append]
  simp [amounts, exactSum]

/-- One more transfer adds its amount to the sum of those chosen, if it is chosen. -/
theorem exactSum_amounts_filter_concat
    (chosen : Transfer -> Bool)
    (transfers : List Transfer)
    (transfer : Transfer) :
    exactSum (amounts ((transfers ++ [transfer]).filter chosen)) =
      exactSum (amounts (transfers.filter chosen)) +
        if chosen transfer then transfer.amount.units else 0 := by
  rw [List.filter_append]
  cases picked : chosen transfer with
  | true => simp [picked, exactSum_amounts_concat]
  | false => simp [picked]

end Transfer

namespace Tables

open Transfer (Addable)

/-- What a summary of some transfers says, exactly. -/
structure Summed (iban : String) (transfers : List Transfer) (summary : TransferSummary) :
    Prop where
  sent : summary.totalSent.Addend
  sentUnits : summary.totalSent.units =
    exactSum (amounts (transfers.filter (fun transfer => transfer.sender == iban)))
  received : summary.totalReceived.Addend
  receivedUnits : summary.totalReceived.units =
    exactSum (amounts (transfers.filter (fun transfer => transfer.receiver == iban)))
  count : summary.count = transfers.length

/-- A sum of some amounts, and one more amount added to it if it is chosen. -/
theorem add_chosen
    {transfers : List Transfer}
    {transfer : Transfer}
    (addable : Addable (transfers ++ [transfer]))
    (chosen : Transfer -> Bool)
    {total : Decimal}
    (addend : total.Addend)
    (units : total.units = exactSum (amounts (transfers.filter chosen))) :
    ∃ sum,
      (if chosen transfer then total.add transfer.amount else .ok total) = .ok sum ∧
        sum.Addend ∧
        sum.units = exactSum (amounts ((transfers ++ [transfer]).filter chosen)) := by
  rw [Transfer.exactSum_amounts_filter_concat]
  cases picked : chosen transfer with
  | false => exact ⟨total, rfl, addend, by simp [units]⟩
  | true =>
      have within := (addable.sublist (List.filter_sublist (p := chosen))).bounded
      rw [Transfer.exactSum_amounts_filter_concat, picked, if_pos rfl, ← units] at within
      have cap := wealthCap_lt_exactUnits
      obtain ⟨sum, added, sumAddend, sumUnits⟩ :=
        addend.add (addable.addend (List.mem_append_right _ (List.mem_singleton_self _)))
          (by omega)
      exact ⟨sum, added, sumAddend, by rw [sumUnits, units, if_pos rfl]⟩

/-- Counting transfers never fails, and both totals are exact. -/
theorem summarize_exact
    {tables : Tables}
    (addable : Addable tables.transfers)
    (iban : String) :
    ∃ summary, tables.summarize iban = .ok summary ∧
      Summed iban (tables.transfers.filter (fun transfer => transfer.involves iban)) summary := by
  refine foldlM_eq_ok_of_steps (Summed iban)
    ⟨Decimal.addend_zero, rfl, Decimal.addend_zero, rfl, rfl⟩ _ ?_
  intro before transfer within summary summed
  have addableHere := addable.sublist (within.sublist.trans List.filter_sublist)
  obtain ⟨sent, sentAdded, sentAddend, sentUnits⟩ :=
    add_chosen addableHere (fun transfer => transfer.sender == iban) summed.sent summed.sentUnits
  obtain ⟨received, receivedAdded, receivedAddend, receivedUnits⟩ :=
    add_chosen addableHere (fun transfer => transfer.receiver == iban) summed.received
      summed.receivedUnits
  refine ⟨⟨sent, received, summary.count + 1⟩, ?_, sentAddend, sentUnits, receivedAddend,
    receivedUnits, by simp [summed.count]⟩
  -- The two sides of the transfer are looked at one after the other.
  cases outgoing : transfer.sender == iban <;> cases incoming : transfer.receiver == iban <;>
    simp_all [countTransfer, bind, Except.bind]

/-- What rows by day come to on one day. -/
def totalOn (days : List DailySpend) (date : Date) : Int :=
  exactSum ((days.filter (fun spend => spend.date = date)).map DailySpend.total)

@[simp] theorem totalOn_nil (date : Date) : totalOn [] date = 0 := rfl

theorem totalOn_cons (spend : DailySpend) (rest : List DailySpend) (date : Date) :
    totalOn (spend :: rest) date =
      (if spend.date = date then spend.total.units else 0) + totalOn rest date := by
  by_cases same : spend.date = date
  · simp [totalOn, same, exactSum]
  · simp [totalOn, same]

/-- Rows by ascending day whose totals can be added up exactly. -/
structure Ledgered (days : List DailySpend) : Prop where
  ascending : days.Pairwise (fun earlier later => earlier.date < later.date)
  addends : ∀ spend ∈ days, spend.total.Addend

theorem ledgered_cons_iff {spend : DailySpend} {rest : List DailySpend} :
    Ledgered (spend :: rest) ↔
      (∀ other ∈ rest, spend.date < other.date) ∧ spend.total.Addend ∧ Ledgered rest := by
  constructor
  · intro ledgered
    obtain ⟨later, ascending⟩ := List.pairwise_cons.mp ledgered.ascending
    obtain ⟨addend, addends⟩ := List.forall_mem_cons.mp ledgered.addends
    exact ⟨later, addend, ascending, addends⟩
  · rintro ⟨later, addend, ledgered⟩
    exact ⟨List.pairwise_cons.mpr ⟨later, ledgered.ascending⟩,
      List.forall_mem_cons.mpr ⟨addend, ledgered.addends⟩⟩

/-- An amount is added to the row of its day, which is there then. -/
structure AddsToDay (date : Date) (amount : Decimal) (days after : List DailySpend) : Prop where
  ledgered : Ledgered after
  dates : ∀ other,
    other ∈ after.map DailySpend.date ↔ other = date ∨ other ∈ days.map DailySpend.date
  onDay : ∀ other,
    totalOn after other = totalOn days other + if date = other then amount.units else 0
  altogether : exactSum (after.map DailySpend.total) =
    exactSum (days.map DailySpend.total) + amount.units

/-- A day before all others gets a row of its own, in front of them. -/
theorem addsToDay_front
    {date : Date}
    {amount : Decimal}
    (addend : amount.Addend)
    {days : List DailySpend}
    (ledgered : Ledgered days)
    (earlier : ∀ spend ∈ days, date < spend.date) :
    AddsToDay date amount days (⟨date, amount⟩ :: days) where
  ledgered := ledgered_cons_iff.mpr ⟨earlier, addend, ledgered⟩
  dates := by simp
  onDay := by
    intro other
    rw [totalOn_cons]
    dsimp only
    omega
  altogether := by
    rw [List.map_cons, Decimal.exactSum_cons]
    exact Int.add_comm _ _

/-- A day that has a row gets the sum. -/
theorem addsToDay_here
    {amount sum : Decimal}
    {spend : DailySpend}
    {rest : List DailySpend}
    (ledgered : Ledgered (spend :: rest))
    (addend : sum.Addend)
    (units : sum.units = spend.total.units + amount.units) :
    AddsToDay spend.date amount (spend :: rest) (⟨spend.date, sum⟩ :: rest) where
  ledgered :=
    have ⟨later, _, restLedgered⟩ := ledgered_cons_iff.mp ledgered
    ledgered_cons_iff.mpr ⟨later, addend, restLedgered⟩
  dates := by simp
  onDay := by
    intro other
    rw [totalOn_cons, totalOn_cons]
    dsimp only
    split <;> omega
  altogether := by
    simp only [List.map_cons, Decimal.exactSum_cons, units]
    omega

/-- A row of an earlier day stays in front. -/
theorem AddsToDay.behind
    {date : Date}
    {amount : Decimal}
    {spend : DailySpend}
    {rest after : List DailySpend}
    (adds : AddsToDay date amount rest after)
    (ledgered : Ledgered (spend :: rest))
    (earlier : spend.date < date) :
    AddsToDay date amount (spend :: rest) (spend :: after) where
  ledgered := by
    obtain ⟨later, addend, -⟩ := ledgered_cons_iff.mp ledgered
    refine ledgered_cons_iff.mpr ⟨fun other member => ?_, addend, adds.ledgered⟩
    rcases (adds.dates other.date).mp (List.mem_map_of_mem member) with isDate | listed
    · exact isDate ▸ earlier
    · obtain ⟨row, there, equal⟩ := List.mem_map.mp listed
      exact equal ▸ later row there
  dates := by
    intro other
    rw [List.map_cons, List.mem_cons, adds.dates, List.map_cons, List.mem_cons]
    tauto
  onDay := by
    intro other
    rw [totalOn_cons, totalOn_cons, adds.onDay]
    omega
  altogether := by
    simp only [List.map_cons, Decimal.exactSum_cons, adds.altogether]
    omega

theorem addToDay_exact
    (date : Date)
    {amount : Decimal}
    (addend : amount.Addend)
    {days : List DailySpend}
    (ledgered : Ledgered days)
    (fits : exactSum (days.map DailySpend.total) + amount.units < exactUnits) :
    ∃ after, addToDay date amount days = .ok after ∧ AddsToDay date amount days after := by
  induction days with
  | nil =>
      exact ⟨[⟨date, amount⟩], by rw [addToDay, Decimal.zero_add_eq]; rfl,
        addsToDay_front addend ledgered nofun⟩
  | cons spend rest ih =>
      obtain ⟨later, spendAddend, restLedgered⟩ := ledgered_cons_iff.mp ledgered
      have spendNonnegative := spendAddend.nonnegative
      have restNonnegative : 0 <= exactSum (rest.map DailySpend.total) :=
        Decimal.exactSum_map_nonneg restLedgered.addends
      rw [List.map_cons, Decimal.exactSum_cons] at fits
      rw [addToDay]
      by_cases same : date = spend.date
      · obtain ⟨sum, added, sumAddend, units⟩ := spendAddend.add addend (by omega)
        subst same
        exact ⟨⟨spend.date, sum⟩ :: rest, by rw [if_pos rfl, added]; rfl,
          addsToDay_here ledgered sumAddend units⟩
      by_cases before : date < spend.date
      · have earlier : ∀ other ∈ spend :: rest, date < other.date :=
          List.forall_mem_cons.mpr
            ⟨before, fun other member => Date.lt_trans before (later other member)⟩
        exact ⟨⟨date, amount⟩ :: spend :: rest,
          by rw [if_neg same, if_pos before, Decimal.zero_add_eq]; rfl,
          addsToDay_front addend ledgered earlier⟩
      · obtain ⟨after, added, adds⟩ := ih restLedgered (by omega)
        exact ⟨spend :: after, by rw [if_neg same, if_neg before, added]; rfl,
          adds.behind ledgered (Date.lt_of_not_lt before same)⟩

/-- The transfers that were made on a day. -/
def madeOn (date : Date) (transfer : Transfer) : Bool :=
  transfer.createdAt.date = date

/-- Rows by day account for some transfers: each on its day, and all of them together. -/
structure AddedUp (transfers : List Transfer) (days : List DailySpend) : Prop where
  ledgered : Ledgered days
  dates : ∀ date,
    date ∈ days.map DailySpend.date ↔ ∃ transfer ∈ transfers, transfer.createdAt.date = date
  onDay : ∀ date, totalOn days date = exactSum (amounts (transfers.filter (madeOn date)))
  altogether : exactSum (days.map DailySpend.total) = exactSum (amounts transfers)

/-- Adding up by day never fails, and accounts for every transfer exactly. -/
theorem foldlM_addToDay_exact {transfers : List Transfer} (addable : Addable transfers) :
    ∃ days,
      transfers.foldlM
          (fun days transfer => addToDay transfer.createdAt.date transfer.amount days) [] =
        .ok days ∧
      AddedUp transfers days := by
  refine foldlM_eq_ok_of_steps AddedUp ⟨⟨.nil, by simp⟩, by simp, fun _ => rfl, rfl⟩ _ ?_
  intro before transfer within days addedUp
  have addableHere := addable.sublist within.sublist
  have cap := wealthCap_lt_exactUnits
  have bounded := addableHere.bounded
  rw [Transfer.exactSum_amounts_concat] at bounded
  obtain ⟨after, added, adds⟩ :=
    addToDay_exact transfer.createdAt.date
      (addableHere.addend (List.mem_append_right _ (List.mem_singleton_self _)))
      addedUp.ledgered (by rw [addedUp.altogether]; omega)
  refine ⟨after, added, adds.ledgered, ?_, ?_, ?_⟩
  · intro date
    rw [adds.dates, addedUp.dates]
    simp only [List.mem_append, List.mem_singleton, or_and_right, exists_or, exists_eq_left]
    rw [or_comm, eq_comm]
  · intro date
    rw [adds.onDay, addedUp.onDay, Transfer.exactSum_amounts_filter_concat]
    simp [madeOn]
  · rw [adds.altogether, addedUp.altogether, Transfer.exactSum_amounts_concat]

/-- In rows by ascending day, what is there for a day is in one row. -/
theorem Ledgered.totalOn_eq
    {days : List DailySpend}
    (ledgered : Ledgered days)
    {spend : DailySpend}
    (member : spend ∈ days) :
    totalOn days spend.date = spend.total.units := by
  induction days with
  | nil => cases member
  | cons first rest ih =>
      obtain ⟨later, -, restLedgered⟩ := ledgered_cons_iff.mp ledgered
      rw [totalOn_cons]
      rcases List.mem_cons.mp member with rfl | there
      · -- No other row is for the day of the first one.
        have absent : rest.filter (fun other => other.date = spend.date) = [] := by
          refine List.filter_eq_nil_iff.mpr fun other there => ?_
          simpa using (Date.ne_of_lt (later other there)).symm
        simp [totalOn, absent]
      · rw [if_neg (Date.ne_of_lt (later spend there)), ih restLedgered there, zero_add]

/-- Rows by ascending day are determined by which days there are and by what is there for them. -/
theorem Ledgered.eq_of_same
    {left right : List DailySpend}
    (leftLedgered : Ledgered left)
    (rightLedgered : Ledgered right)
    (dates : ∀ date, date ∈ left.map DailySpend.date ↔ date ∈ right.map DailySpend.date)
    (onDay : ∀ date, totalOn left date = totalOn right date) :
    left.map (fun spend => (spend.date, spend.total.units)) =
      right.map (fun spend => (spend.date, spend.total.units)) := by
  have figures {days : List DailySpend} (ledgered : Ledgered days) :
      days.map (fun spend => (spend.date, spend.total.units)) =
        (days.map DailySpend.date).map (fun date => (date, totalOn days date)) := by
    rw [List.map_map]
    exact List.map_congr_left fun spend member => by simp [ledgered.totalOn_eq member]
  have sameDates : left.map DailySpend.date = right.map DailySpend.date := by
    have ascendingDates {days : List DailySpend} (ledgered : Ledgered days) :
        (days.map DailySpend.date).Pairwise (fun earlier later => earlier < later) :=
      List.pairwise_map.mpr ledgered.ascending
    have distinct {days : List DailySpend} (ledgered : Ledgered days) :
        (days.map DailySpend.date).Nodup :=
      (ascendingDates ledgered).imp Date.ne_of_lt
    refine List.Perm.eq_of_pairwise (fun first second _ _ before after => ?_)
      (ascendingDates leftLedgered) (ascendingDates rightLedgered)
      ((List.perm_ext_iff_of_nodup (distinct leftLedgered) (distinct rightLedgered)).mpr dates)
    exact absurd (Date.lt_trans before after) (Date.lt_irrefl _)
  rw [figures leftLedgered, figures rightLedgered, sameDates]
  exact List.map_congr_left fun date _ => by rw [onDay]

end Tables

namespace CategoryShare

open Tables (wealthCap wealthCap_lt_exactUnits)
open Transfer (Addable)

/-- A hundred times an amount is told give or take one. -/
theorem units_mul_hundred_le
    {amount product : Decimal}
    (multiplied : amount.mul? hundred = some product) :
    product.units.natAbs <= 100 * amount.units.natAbs + tenTo 28 := by
  by_cases nothing : amount.coefficient = 0
  · rw [Decimal.mul?, nothing] at multiplied
    cases multiplied
    exact Nat.zero_le _
  have scaled := Decimal.natAbs_units_mul amount
  have hundredth : hundred.coefficient = 100 ∧ hundred.scale = 0 := ⟨rfl, rfl⟩
  have made : Decimal.ofRatio? (amount.coefficient * 100) (tenTo amount.scale) amount.scale =
      some product := by
    simpa [Decimal.mul?, nothing, hundredth] using multiplied
  have bound := Decimal.natAbs_units_ofRatio?_le amount.scaleFits made
  have size : (amount.coefficient * 100).natAbs = amount.coefficient.natAbs * 100 :=
    Int.natAbs_mul _ _
  refine Nat.le_of_mul_le_mul_right ?_ (tenTo_pos amount.scale)
  calc
    product.units.natAbs * tenTo amount.scale
        <= ((amount.coefficient * 100).natAbs + tenTo amount.scale) * tenTo 28 := bound
    _ = (100 * amount.units.natAbs + tenTo 28) * tenTo amount.scale := by
      rw [size, add_mul, add_mul, mul_assoc 100, scaled]
      ring

/-- A hundred times an amount within bounds can be told. -/
theorem mul_hundred
    {amount : Decimal}
    (bounded : amount.units.natAbs <= wealthCap.toNat) :
    ∃ product, amount.mul? hundred = some product := by
  by_cases nothing : amount.coefficient = 0
  · exact ⟨.zero, by simp [Decimal.mul?, nothing]⟩
  have scaled := Decimal.natAbs_units_mul amount
  have rounded := Decimal.roundRatio_natAbs_le .toEven (amount.coefficient * 100)
    (tenTo amount.scale)
  have few : amount.coefficient.natAbs * 100 / tenTo amount.scale <= tenTo 26 := by
    refine Nat.div_le_of_le_mul (Nat.le_of_mul_le_mul_right ?_ (tenTo_pos 28))
    have cap : 100 * wealthCap.toNat = tenTo 26 * tenTo 28 := by decide
    calc
      amount.coefficient.natAbs * 100 * tenTo 28
          = 100 * (amount.units.natAbs * tenTo amount.scale) := by rw [scaled]; ring
      _ <= 100 * (wealthCap.toNat * tenTo amount.scale) := by gcongr
      _ = tenTo amount.scale * tenTo 26 * tenTo 28 := by
        rw [← mul_assoc, cap]
        ring
  have enough : tenTo 26 + 1 < Decimal.capacity := by decide
  have size : (amount.coefficient * 100).natAbs = amount.coefficient.natAbs * 100 :=
    Int.natAbs_mul _ _
  rw [size] at rounded
  obtain ⟨product, made⟩ := Option.isSome_iff_exists.mp
    (Decimal.ofRatio?_isSome (lt_of_le_of_lt rounded (by omega)) amount.scale)
  have hundredth : hundred.coefficient = 100 ∧ hundred.scale = 0 := ⟨rfl, rfl⟩
  exact ⟨product, by simp [Decimal.mul?, nothing, hundredth, made]⟩

/--
The percentage of an amount in a total of at least that amount, and of at least one
ten-thousandth, can be told as soon as a hundred times the amount can be.
-/
theorem percentageOf_isOk
    {amount product total : Decimal}
    (multiplied : amount.mul? hundred = some product)
    (nonnegative : 0 <= amount.units)
    (within : amount.units <= total.units)
    (least : (tenTo 24 : Nat) <= total.units) :
    ∃ percentage, percentageOf amount total = .ok percentage := by
  have small := units_mul_hundred_le multiplied
  have weight : tenTo 28 = 10000 * tenTo 24 := by decide
  have tenThousandth := tenTo_pos 24
  have most : product.units.natAbs <= 10100 * total.units.natAbs := by omega
  obtain ⟨quotient, divided⟩ := Decimal.div_isOk (by omega) most (by decide)
  exact ⟨_, by
    rw [percentageOf, Decimal.mul, multiplied]; dsimp [bind, Except.bind]; rw [divided]⟩

/-- Sums by category that account for some transfers: all of them together. -/
structure AddedUp (transfers : List Transfer) (entries : List (Category × Decimal)) : Prop where
  addends : ∀ entry ∈ entries, entry.2.Addend
  altogether : exactSum (entries.map Prod.snd) = exactSum (amounts transfers)

/-- An amount is added to the sums by category, whatever its category. -/
theorem addToCategory_exact
    (category : Category)
    {amount : Decimal}
    (addend : amount.Addend)
    {entries : List (Category × Decimal)}
    (addends : ∀ entry ∈ entries, entry.2.Addend)
    (fits : exactSum (entries.map Prod.snd) + amount.units < exactUnits) :
    ∃ after, addToCategory category amount entries = .ok after ∧
      (∀ entry ∈ after, entry.2.Addend) ∧
      exactSum (after.map Prod.snd) = exactSum (entries.map Prod.snd) + amount.units := by
  induction entries with
  | nil =>
      refine ⟨[(category, amount)], by rw [addToCategory, Decimal.zero_add_eq]; rfl, ?_, ?_⟩
      · simpa using addend
      · simp [Decimal.exactSum_cons]
  | cons entry rest ih =>
      have entryAddend := addends entry (List.mem_cons_self ..)
      have restAddends : ∀ other ∈ rest, other.2.Addend :=
        fun other member => addends other (List.mem_cons_of_mem _ member)
      have entryNonnegative := entryAddend.nonnegative
      have restNonnegative : 0 <= exactSum (rest.map Prod.snd) :=
        Decimal.exactSum_map_nonneg restAddends
      rw [List.map_cons, Decimal.exactSum_cons] at fits
      rw [addToCategory]
      by_cases same : entry.1 = category
      · obtain ⟨sum, added, sumAddend, units⟩ := entryAddend.add addend (by omega)
        refine ⟨(category, sum) :: rest, by rw [if_pos same, added]; rfl, ?_, ?_⟩
        · exact List.forall_mem_cons.mpr ⟨sumAddend, restAddends⟩
        · simp only [List.map_cons, Decimal.exactSum_cons, units]
          omega
      · obtain ⟨after, added, afterAddends, units⟩ := ih restAddends (by omega)
        refine ⟨entry :: after, by rw [if_neg same, added]; rfl, ?_, ?_⟩
        · exact List.forall_mem_cons.mpr ⟨entryAddend, afterAddends⟩
        · simp only [List.map_cons, Decimal.exactSum_cons, units]
          omega

theorem sums_exact {transfers : List Transfer} (addable : Addable transfers) :
    ∃ entries, sums transfers = .ok entries ∧ AddedUp transfers entries := by
  refine foldlM_eq_ok_of_steps AddedUp ⟨by simp, rfl⟩ _ ?_
  intro before transfer within entries addedUp
  have addableHere := addable.sublist within.sublist
  have cap := wealthCap_lt_exactUnits
  have bounded := addableHere.bounded
  rw [Transfer.exactSum_amounts_concat] at bounded
  obtain ⟨after, added, addends, units⟩ :=
    addToCategory_exact (.classify transfer.description)
      (addableHere.addend (List.mem_append_right _ (List.mem_singleton_self _)))
      addedUp.addends (by rw [addedUp.altogether]; omega)
  refine ⟨after, added, addends, ?_⟩
  rw [units, addedUp.altogether, Transfer.exactSum_amounts_concat]

/-- Every sum by category becomes a share of the same amount. -/
theorem mapM_percentageOf_exact
    {total : Decimal}
    {entries : List (Category × Decimal)}
    (told : ∀ entry ∈ entries, ∃ percentage, percentageOf entry.2 total = .ok percentage) :
    ∃ shares,
      entries.mapM (fun entry => do
          .ok (⟨entry.1, entry.2, <- percentageOf entry.2 total⟩ : CategoryShare)) =
        (.ok shares : Except Overflow (List CategoryShare)) ∧
      shares.map CategoryShare.amount = entries.map Prod.snd := by
  induction entries with
  | nil => exact ⟨[], rfl, rfl⟩
  | cons entry rest ih =>
      obtain ⟨percentage, percent⟩ := told entry (List.mem_cons_self ..)
      obtain ⟨shares, made, same⟩ :=
        ih fun other member => told other (List.mem_cons_of_mem _ member)
      refine ⟨⟨entry.1, entry.2, percentage⟩ :: shares, ?_, by simp [same]⟩
      rw [List.mapM_cons, percent, made]
      rfl

/-- A breakdown never fails, and its amounts come to exactly what was spent. -/
theorem breakdown_exact {transfers : List Transfer} (addable : Addable transfers) :
    ∃ shares, breakdown transfers = .ok shares ∧
      exactSum (shares.map CategoryShare.amount) = exactSum (amounts transfers) := by
  have cap := wealthCap_lt_exactUnits
  have bounded := addable.bounded
  obtain ⟨total, summed, units⟩ := addable.sum_exact
  have summed : Decimal.sum (transfers.map (fun transfer => transfer.amount)) = .ok total := summed
  rw [breakdown, summed]
  dsimp only [bind, Except.bind]
  by_cases nothing : total.coefficient = 0
  · rw [if_pos nothing]
    refine ⟨[], rfl, ?_⟩
    rw [← units, Decimal.units_eq_zero nothing]
    rfl
  obtain ⟨entries, grouped, addedUp⟩ := sums_exact addable
  have told : ∀ entry ∈ entries, ∃ percentage, percentageOf entry.2 total = .ok percentage := by
    intro entry member
    have nonnegative := (addedUp.addends entry member).nonnegative
    have within := Decimal.units_le_exactSum_map addedUp.addends member
    rw [addedUp.altogether, ← units] at within
    have different : total.units ≠ 0 := by
      rw [Decimal.units]
      exact mul_ne_zero nothing (Int.ne_of_gt (tenTo_cast_pos _))
    have small : entry.2.units.natAbs <= wealthCap.toNat := by omega
    obtain ⟨product, multiplied⟩ := mul_hundred small
    -- A total that is not zero is at least one ten-thousandth.
    have storable : (tenTo 24 : Int) ∣ total.units := by
      rw [units]
      exact Decimal.storedUnits_dvd_exactSum_map fun transfer here => addable.addend here
    exact percentageOf_isOk multiplied nonnegative within
      (Int.le_of_dvd (by omega) storable)
  obtain ⟨shares, made, same⟩ := mapM_percentageOf_exact told
  refine ⟨shares.mergeSort largestFirst, ?_, ?_⟩
  · rw [if_neg nothing, grouped]
    dsimp only
    exact congrArg (fun made => made.bind fun shares => .ok (shares.mergeSort largestFirst)) made
  · rw [Decimal.exactSum_perm ((List.mergeSort_perm _ _).map _), same, addedUp.altogether]

end CategoryShare

/-- The counts, dates and sums in the reports on an account, the sums in units. -/
structure ReportFigures where
  listed : Nat
  counted : Nat
  sent : Int
  received : Int
  spent : Int
  days : List (Date × Int)
deriving DecidableEq

namespace Tables

open Transfer (Addable)

/-- The figures of the reports on an account, those by day since an instant. -/
def figures (tables : Tables) (iban : String) (since : Instant) :
    Except Overflow ReportFigures := do
  let summary <- tables.summarize iban
  let shares <- CategoryShare.breakdown (tables.outgoing iban)
  let days <- tables.dailyOutgoingSince iban since
  let page <- tables.listTransfers iban .unbounded (.make 0 1)
  .ok
    { listed := page.totalItems
      counted := summary.count
      sent := summary.totalSent.units
      received := summary.totalReceived.units
      spent := exactSum (shares.map CategoryShare.amount)
      days := days.map (fun spend => (spend.date, spend.total.units)) }

/-- The transfers that an account sent at or after an instant. -/
def sentSince (tables : Tables) (iban : String) (since : Instant) : List Transfer :=
  (tables.outgoing iban).filter (fun transfer => decide (since <= transfer.createdAt))

theorem mem_sentSince_iff
    (tables : Tables)
    (iban : String)
    (since : Instant)
    (transfer : Transfer) :
    transfer ∈ tables.sentSince iban since ↔
      transfer ∈ tables.transfers ∧ transfer.sender = iban ∧ since <= transfer.createdAt := by
  simp only [sentSince, outgoing, List.mem_filter, beq_iff_eq, decide_eq_true_eq, and_assoc]

theorem filter_involves_unbounded (tables : Tables) (iban : String) :
    tables.transfers.filter (fun transfer =>
        transfer.involves iban && TransferFilter.unbounded.accepts transfer) =
      tables.transfers.filter (fun transfer => transfer.involves iban) :=
  List.filter_congr fun _ _ => Bool.and_true _

theorem filter_sender_involves (tables : Tables) (iban : String) :
    (tables.transfers.filter (fun transfer => transfer.involves iban)).filter
        (fun transfer => transfer.sender == iban) =
      tables.outgoing iban := by
  rw [List.filter_filter, outgoing]
  refine List.filter_congr fun transfer _ => ?_
  cases sent : transfer.sender == iban <;> simp [Transfer.involves, sent]

theorem filter_receiver_involves (tables : Tables) (iban : String) :
    (tables.transfers.filter (fun transfer => transfer.involves iban)).filter
        (fun transfer => transfer.receiver == iban) =
      tables.transfers.filter (fun transfer => transfer.receiver == iban) := by
  rw [List.filter_filter]
  refine List.filter_congr fun transfer _ => ?_
  cases received : transfer.receiver == iban <;> simp [Transfer.involves, received]

/-- What the reports on an account account for. -/
structure Reported
    (tables : Tables)
    (iban : String)
    (since : Instant)
    (summary : TransferSummary)
    (shares : List CategoryShare)
    (days : List DailySpend) : Prop where
  summarized : tables.summarize iban = .ok summary
  brokenDown : CategoryShare.breakdown (tables.outgoing iban) = .ok shares
  byDay : tables.dailyOutgoingSince iban since = .ok days
  listed : ∀ request : PageRequest, 0 < request.size ->
    ∃ page, tables.listTransfers iban .unbounded request = .ok page ∧
      page.totalItems =
        (tables.transfers.filter (fun transfer => transfer.involves iban)).length
  counted : summary.count =
    (tables.transfers.filter (fun transfer => transfer.involves iban)).length
  sent : summary.totalSent.units = tables.sent iban
  received : summary.totalReceived.units = tables.received iban
  spent : exactSum (shares.map CategoryShare.amount) = tables.sent iban
  addedUp : AddedUp (tables.sentSince iban since) days

theorem exists_reported
    {tables : Tables}
    (addable : Addable tables.transfers)
    (iban : String)
    (since : Instant) :
    ∃ summary shares days, Reported tables iban since summary shares days := by
  have outgoingAddable : Addable (tables.outgoing iban) := addable.sublist List.filter_sublist
  obtain ⟨summary, summarized, summed⟩ := summarize_exact addable iban
  obtain ⟨shares, brokenDown, spent⟩ := CategoryShare.breakdown_exact outgoingAddable
  have sentAddable : Addable (tables.sentSince iban since) :=
    outgoingAddable.sublist List.filter_sublist
  obtain ⟨days, byDay, addedUp⟩ := foldlM_addToDay_exact sentAddable
  refine ⟨summary, shares, days, summarized, brokenDown, byDay, ?_, summed.count, ?_, ?_,
    spent, addedUp⟩
  · intro request positive
    refine ⟨_, Page.ofList_of_pos _ positive, ?_⟩
    simp only [Page.slice, matching, List.length_mergeSort, filter_involves_unbounded]
  · rw [summed.sentUnits, filter_sender_involves]
    rfl
  · rw [summed.receivedUnits, filter_receiver_involves]
    rfl

theorem Reported.figures_eq
    {tables : Tables}
    {iban : String}
    {since : Instant}
    {summary : TransferSummary}
    {shares : List CategoryShare}
    {days : List DailySpend}
    (reported : Reported tables iban since summary shares days) :
    tables.figures iban since =
      .ok
        { listed := (tables.transfers.filter (fun transfer => transfer.involves iban)).length
          counted := (tables.transfers.filter (fun transfer => transfer.involves iban)).length
          sent := tables.sent iban
          received := tables.received iban
          spent := tables.sent iban
          days := days.map (fun spend => (spend.date, spend.total.units)) } := by
  obtain ⟨page, handed, listed⟩ := reported.listed (.make 0 1) (PageRequest.size_make_pos 0 1)
  rw [figures, reported.summarized, reported.brokenDown, reported.byDay, handed]
  simp only [bind, Except.bind, listed, reported.counted, reported.sent, reported.received,
    reported.spent]

/-- No figure depends on the order of the log. -/
theorem figures_of_perm
    {tables other : Tables}
    (addable : Addable tables.transfers)
    (shuffled : other.transfers.Perm tables.transfers)
    (iban : String)
    (since : Instant) :
    other.figures iban since = tables.figures iban since := by
  have otherAddable : Addable other.transfers :=
    { positive := fun transfer member => addable.positive transfer (shuffled.mem_iff.mp member)
      storable := fun transfer member => addable.storable transfer (shuffled.mem_iff.mp member)
      bounded := (Transfer.exactSum_amounts_perm shuffled).trans_le addable.bounded }
  obtain ⟨_, _, otherDays, otherReported⟩ := exists_reported otherAddable iban since
  obtain ⟨_, _, days, reported⟩ := exists_reported addable iban since
  have sumOf (chosen : Transfer -> Bool) :
      exactSum (amounts (other.transfers.filter chosen)) =
        exactSum (amounts (tables.transfers.filter chosen)) :=
    Transfer.exactSum_amounts_perm (shuffled.filter _)
  have sent : other.sent iban = tables.sent iban := sumOf _
  have received : other.received iban = tables.received iban := sumOf _
  have sameDays : otherDays.map (fun spend => (spend.date, spend.total.units)) =
      days.map (fun spend => (spend.date, spend.total.units)) := by
    refine otherReported.addedUp.ledgered.eq_of_same reported.addedUp.ledgered ?_ ?_
    · intro date
      rw [otherReported.addedUp.dates, reported.addedUp.dates]
      simp only [mem_sentSince_iff, shuffled.mem_iff]
    · intro date
      rw [otherReported.addedUp.onDay, reported.addedUp.onDay]
      exact Transfer.exactSum_amounts_perm (((shuffled.filter _).filter _).filter _)
  rw [otherReported.figures_eq, reported.figures_eq, (shuffled.filter _).length_eq, sent, received,
    sameDays]

/--
The reports on an account agree, whatever was logged, as long as the amounts are
positive, can be stored and are within bounds altogether. None of them fails, and no
page of the history that has a size does. The summary counts the transfers that the
history has; what it says was sent is what all transfers of the account come to, what
the breakdown adds up to, and what all days add up to if they begin early enough; and
what it says was received is what the pages of the history add up to. The rows by day
are in strictly ascending order, one for each day on which something was sent, and each
of them is exact. No figure depends on the order of the log.
-/
theorem reports_agree
    (tables : Tables)
    (positive : ∀ transfer ∈ tables.transfers, Decimal.zero < transfer.amount)
    (storable : ∀ transfer ∈ tables.transfers, transfer.amount.Storable)
    (bounded : exactSum (amounts tables.transfers) <= wealthCap)
    (iban : String)
    (since : Instant) :
    ∃ summary shares days,
      tables.summarize iban = .ok summary ∧
      CategoryShare.breakdown (tables.outgoing iban) = .ok shares ∧
      tables.dailyOutgoingSince iban since = .ok days ∧
      (∀ request : PageRequest, 0 < request.size ->
        ∃ page, tables.listTransfers iban .unbounded request = .ok page ∧
          page.totalItems = summary.count) ∧
      summary.totalSent.units = exactSum (amounts (tables.outgoing iban)) ∧
      summary.totalSent.units = exactSum (shares.map CategoryShare.amount) ∧
      ((∀ transfer ∈ tables.outgoing iban, since <= transfer.createdAt) ->
        summary.totalSent.units = exactSum (days.map DailySpend.total)) ∧
      (∀ size, ∃ listed, tables.allPages iban .unbounded size = .ok listed ∧
        summary.totalReceived.units =
          exactSum (amounts (listed.filter (fun transfer => transfer.receiver == iban)))) ∧
      days.Pairwise (fun earlier later => earlier.date < later.date) ∧
      (∀ date, (∃ spend ∈ days, spend.date = date) ↔
        ∃ transfer ∈ tables.transfers,
          transfer.sender = iban ∧ since <= transfer.createdAt ∧
            transfer.createdAt.date = date) ∧
      (∀ spend ∈ days, spend.total.units =
        exactSum (amounts (tables.transfers.filter (fun transfer =>
          transfer.sender = iban ∧ since <= transfer.createdAt ∧
            transfer.createdAt.date = spend.date)))) ∧
      ∀ other : Tables, other.transfers.Perm tables.transfers ->
        other.figures iban since = tables.figures iban since := by
  have addable : Addable tables.transfers := ⟨positive, storable, bounded⟩
  obtain ⟨summary, shares, days, reported⟩ := exists_reported addable iban since
  refine ⟨summary, shares, days, reported.summarized, reported.brokenDown, reported.byDay,
    ?listed, reported.sent, reported.sent.trans reported.spent.symm, ?early, ?received,
    reported.addedUp.ledgered.ascending, ?dates, ?onDay,
    fun other shuffled => figures_of_perm addable shuffled iban since⟩
  case listed =>
    intro request positive
    rw [reported.counted]
    exact reported.listed request positive
  case early =>
    intro early
    have all : tables.sentSince iban since = tables.outgoing iban :=
      List.filter_eq_self.mpr fun transfer member => decide_eq_true (early transfer member)
    rw [reported.addedUp.altogether, all]
    exact reported.sent
  case received =>
    intro size
    refine ⟨_, allPages_eq size, ?_⟩
    rw [matching, filter_involves_unbounded,
      Transfer.exactSum_amounts_perm ((List.mergeSort_perm _ _).filter _),
      filter_receiver_involves]
    exact reported.received
  case dates =>
    intro date
    have iff := reported.addedUp.dates date
    simp only [List.mem_map, mem_sentSince_iff] at iff
    simpa only [and_assoc] using iff
  case onDay =>
    intro spend member
    rw [← reported.addedUp.ledgered.totalOn_eq member, reported.addedUp.onDay, sentSince, outgoing,
      List.filter_filter, List.filter_filter]
    congr 2
    refine List.filter_congr fun transfer _ => ?_
    rw [Bool.eq_iff_iff]
    simp only [madeOn, Bool.and_eq_true, beq_iff_eq, decide_eq_true_eq]
    tauto

theorem reports_agree_sample :
    let shuffled : Tables := { Sample.journal with transfers := Sample.journal.transfers.reverse }
    (∀ transfer ∈ Sample.journal.transfers, Decimal.zero < transfer.amount) ∧
      (∀ transfer ∈ Sample.journal.transfers, transfer.amount.Storable) ∧
      exactSum (amounts Sample.journal.transfers) <= wealthCap ∧
      (∀ transfer ∈ Sample.journal.outgoing "A", (⟨86400, 0⟩ : Instant) <= transfer.createdAt) ∧
      (∃ summary shares days,
        Sample.journal.summarize "A" = .ok summary ∧
          CategoryShare.breakdown (Sample.journal.outgoing "A") = .ok shares ∧
          Sample.journal.dailyOutgoingSince "A" ⟨86400, 0⟩ = .ok days ∧
          summary.totalSent.units = 67 * tenTo 28 ∧
          exactSum (shares.map CategoryShare.amount) = 67 * tenTo 28 ∧
          exactSum (days.map DailySpend.total) = 67 * tenTo 28) ∧
      shuffled.figures "A" ⟨86400, 0⟩ = Sample.journal.figures "A" ⟨86400, 0⟩ := by
  intro shuffled
  have positive : ∀ transfer ∈ Sample.journal.transfers, Decimal.zero < transfer.amount := by
    decide
  have storable : ∀ transfer ∈ Sample.journal.transfers, transfer.amount.Storable := by decide
  have bounded : exactSum (amounts Sample.journal.transfers) <= wealthCap := by decide
  have early :
      ∀ transfer ∈ Sample.journal.outgoing "A", (⟨86400, 0⟩ : Instant) <= transfer.createdAt := by
    decide
  obtain ⟨summary, shares, days, summarized, brokenDown, byDay, -, sent, spent, altogether, -, -, -,
    -, same⟩ := reports_agree Sample.journal positive storable bounded "A" ⟨86400, 0⟩
  have outgoing : exactSum (amounts (Sample.journal.outgoing "A")) = 67 * tenTo 28 := by decide
  have total := sent.trans outgoing
  exact ⟨positive, storable, bounded, early,
    ⟨summary, shares, days, summarized, brokenDown, byDay, total, spent ▸ total,
      altogether early ▸ total⟩,
    same shuffled (List.reverse_perm _)⟩

end Tables
end Giro
