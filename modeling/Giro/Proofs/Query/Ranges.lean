import Giro.Proofs.Decimal.Ordering
import Giro.Proofs.Ledger.Allowance
import Giro.Proofs.Ledger.Staging
import Giro.Proofs.Query.Reports
import Giro.Query.Basic

/-!
# Queries that leave the range

Balances and daily limits keep every single transfer within the range of decimals, and
what an account sends on a day. What it sends and receives altogether they do not: the
same money can go to and fro as often as one likes. So the trend by day is always told,
while a summary and a breakdown by category end without an answer once a total leaves
the range, the breakdown also once a hundred times the sum of a category does. A history
has nothing to add up; it ends without an answer for pages of size 0, and for no others.
-/

namespace Giro

/-- A computation ends in a fault. -/
def Fails {ε α : Type} (result : Except ε α) : Prop :=
  ∃ fault, result = .error fault

section Fails

variable {ε α β : Type}

@[simp] theorem fails_error (fault : ε) : Fails (.error fault : Except ε α) :=
  ⟨fault, rfl⟩

@[simp] theorem not_fails_ok (value : α) : ¬ Fails (.ok value : Except ε α) :=
  nofun

theorem not_fails_iff {result : Except ε α} :
    ¬ Fails result ↔ ∃ value, result = .ok value := by
  cases result <;> simp

@[simp] theorem fails_error_bind (fault : ε) (next : α -> Except ε β) :
    Fails ((.error fault : Except ε α) >>= next) :=
  ⟨fault, rfl⟩

@[simp] theorem fails_bind_ok_iff {result : Except ε α} {function : α -> β} :
    Fails (result >>= fun value => .ok (function value)) ↔ Fails result := by
  cases result with
  | error fault => simp
  | ok value => exact ⟨nofun, nofun⟩

theorem fails_mapM_iff {function : α -> Except ε β} {items : List α} :
    Fails (items.mapM function) ↔ ∃ item ∈ items, Fails (function item) := by
  induction items with
  | nil => simp [pure, Except.pure]
  | cons item rest ih =>
      rw [List.mapM_cons, List.exists_mem_cons_iff, ← ih]
      cases function item with
      | error fault => simp
      | ok value =>
          cases rest.mapM function with
          | error fault => exact ⟨fun _ => Or.inr (fails_error fault), fun _ => ⟨fault, rfl⟩⟩
          | ok values => exact ⟨nofun, by simp⟩

end Fails

namespace Query

/-- A query ends without an answer, in a computation that has no result. -/
def Overflows {α : Type} (result : Except Failure α) : Prop :=
  ∃ overflow, result = .error (.overflowed overflow)

theorem overflows_ofOverflow_iff {α : Type} {result : Except Overflow α} :
    Overflows (Failure.ofOverflow result) ↔ Fails result := by
  cases result <;> simp [Overflows, Fails, Failure.ofOverflow]

variable {tables : Tables} {spelling : String} {caller : Caller}

/-- A query overflows as what is asked of the account does, if the caller may see it. -/
theorem overflows_authorize_bind_iff
    {α : Type}
    {next : Account -> Except Failure α} :
    Overflows (authorize (.ofTables tables) spelling caller >>= next) ↔
      ∃ account, authorize (.ofTables tables) spelling caller = .ok account ∧
        Overflows (next account) := by
  have refused : ∀ overflow,
      authorize (.ofTables tables) spelling caller ≠ .error (.overflowed overflow) := by
    intro overflow
    cases found : tables.findAccount (Iban.normalize spelling) with
    | none =>
        simp only [authorize, Reader.ofTables, found, bind, Except.bind]
        split <;> simp
    | some account =>
        simp only [authorize, Reader.ofTables, found, bind, Except.bind]
        split <;> simp
  cases allowed : authorize (.ofTables tables) spelling caller with
  | ok account => simp [bind, Except.bind]
  | error failure =>
      refine ⟨?_, by simp⟩
      rintro ⟨overflow, same⟩
      cases same
      exact absurd allowed (refused overflow)

end Query

open Decimal (sum add)
open Transfer (amounts)

namespace Decimal

/-- A storable amount that is positive is at least one ten-thousandth. -/
theorem Storable.least
    {number : Decimal}
    (storable : number.Storable)
    (positive : zero < number) :
    (tenTo 24 : Nat) <= number.units :=
  Int.le_of_dvd positive storable

end Decimal

namespace Transfer

theorem sum_amounts_concat (transfers : List Transfer) (transfer : Transfer) :
    sum (amounts (transfers ++ [transfer])) =
      sum (amounts transfers) >>= fun total => total.add transfer.amount := by
  rw [amounts, List.map_append, List.map_singleton, Decimal.sum_concat]
  rfl

/-- Transfers with positive amounts that can be stored. -/
structure Plain (transfers : List Transfer) : Prop where
  positive : ∀ transfer ∈ transfers, Decimal.zero < transfer.amount
  storable : ∀ transfer ∈ transfers, transfer.amount.Storable

theorem Plain.sublist
    {some all : List Transfer}
    (plain : Plain all)
    (within : some.Sublist all) :
    Plain some where
  positive := fun transfer member => plain.positive transfer (within.subset member)
  storable := fun transfer member => plain.storable transfer (within.subset member)

theorem Plain.nonnegative
    {transfers : List Transfer}
    (plain : Plain transfers) :
    ∀ amount ∈ amounts transfers, 0 <= amount.units := by
  intro amount member
  obtain ⟨transfer, here, rfl⟩ := List.mem_map.mp member
  exact Int.le_of_lt (plain.positive transfer here)

/-- Some of the transfers can be added up if all of them can, and come to no more. -/
theorem Plain.sum_sublist
    {some all : List Transfer}
    {total : Decimal}
    (plain : Plain all)
    (within : some.Sublist all)
    (added : sum (amounts all) = .ok total) :
    ∃ part, sum (amounts some) = .ok part ∧ part <= total :=
  Decimal.sum_mono (within.map _) plain.nonnegative added

theorem Plain.sum_nonnegative
    {transfers : List Transfer}
    {total : Decimal}
    (plain : Plain transfers)
    (added : sum (amounts transfers) = .ok total) :
    0 <= total.units := by
  obtain ⟨none, nothing, within⟩ := plain.sum_sublist (List.nil_sublist _) added
  cases nothing
  exact within

/-- A sum of amounts that come to no more than the cap can be told. -/
theorem Plain.sum_isOk
    {transfers : List Transfer}
    (plain : Plain transfers)
    (bounded : Decimal.exactSum (amounts transfers) <= Tables.wealthCap) :
    ∃ total, sum (amounts transfers) = .ok total ∧ total.units <= Tables.wealthCap := by
  have addable : Addable transfers := ⟨plain.positive, plain.storable, bounded⟩
  obtain ⟨total, summed, units⟩ := addable.sum_exact
  exact ⟨total, summed, units.trans_le bounded⟩

end Transfer

open Transfer (Plain sum_amounts_concat)

namespace Tables

/-- The transfers that an account received, oldest entry first. -/
def incoming (tables : Tables) (iban : String) : List Transfer :=
  tables.transfers.filter (fun transfer => transfer.receiver == iban)

theorem foldlM_add_filter_cons
    (chosen : Transfer -> Bool)
    (start : Decimal)
    (transfer : Transfer)
    (rest : List Transfer) :
    (amounts ((transfer :: rest).filter chosen)).foldlM add start =
      (if chosen transfer then start.add transfer.amount else .ok start) >>= fun total =>
        (amounts (rest.filter chosen)).foldlM add total := by
  cases picked : chosen transfer with
  | true => simp [picked, amounts]
  | false => simp [picked, bind, Except.bind]

theorem countTransfer_eq (iban : String) (summary : TransferSummary) (transfer : Transfer) :
    countTransfer iban summary transfer =
      (if transfer.sender == iban then summary.totalSent.add transfer.amount
        else .ok summary.totalSent) >>= fun sent =>
      (if transfer.receiver == iban then summary.totalReceived.add transfer.amount
        else .ok summary.totalReceived) >>= fun received =>
      .ok ⟨sent, received, summary.count + 1⟩ := by
  unfold countTransfer
  cases transfer.sender == iban <;> cases transfer.receiver == iban <;> rfl

/-- A summary fails exactly if one of its two totals does. -/
theorem fails_foldlM_countTransfer_iff
    (iban : String)
    (transfers : List Transfer)
    (summary : TransferSummary) :
    Fails (transfers.foldlM (countTransfer iban) summary) ↔
      Fails ((amounts (transfers.filter (fun transfer => transfer.sender == iban))).foldlM
          add summary.totalSent) ∨
        Fails ((amounts (transfers.filter (fun transfer => transfer.receiver == iban))).foldlM
          add summary.totalReceived) := by
  induction transfers generalizing summary with
  | nil => simp [amounts, pure, Except.pure]
  | cons transfer rest ih =>
      rw [List.foldlM_cons, foldlM_add_filter_cons, foldlM_add_filter_cons, countTransfer_eq]
      cases (if transfer.sender == iban then summary.totalSent.add transfer.amount
          else .ok summary.totalSent) with
      | error fault => simp
      | ok sent =>
          cases (if transfer.receiver == iban then summary.totalReceived.add transfer.amount
              else .ok summary.totalReceived) with
          | error fault =>
              exact ⟨fun _ => Or.inr (fails_error_bind _ _), fun _ => ⟨fault, rfl⟩⟩
          | ok received => exact ih ⟨sent, received, summary.count + 1⟩

theorem fails_summarize_iff (tables : Tables) (iban : String) :
    Fails (tables.summarize iban) ↔
      Fails (sum (amounts (tables.outgoing iban))) ∨
        Fails (sum (amounts (tables.incoming iban))) := by
  rw [summarize, fails_foldlM_countTransfer_iff, filter_sender_involves,
    filter_receiver_involves]
  rfl

/-- What rows by ascending day hold for a day. -/
def totalFor (date : Date) : List DailySpend -> Decimal
  | [] => .zero
  | spend :: rest =>
      if date = spend.date then spend.total
      else if date < spend.date then .zero
      else totalFor date rest

/-- Rows by ascending day, with a total put in for a day. -/
def putDay (date : Date) (total : Decimal) : List DailySpend -> List DailySpend
  | [] => [⟨date, total⟩]
  | spend :: rest =>
      if date = spend.date then ⟨date, total⟩ :: rest
      else if date < spend.date then ⟨date, total⟩ :: spend :: rest
      else spend :: putDay date total rest

/-- Adding to a day is adding to what there is for it. -/
theorem addToDay_eq (date : Date) (amount : Decimal) (days : List DailySpend) :
    addToDay date amount days =
      (totalFor date days).add amount >>= fun total => .ok (putDay date total days) := by
  induction days with
  | nil => rfl
  | cons spend rest ih =>
      simp only [addToDay, totalFor, putDay]
      split_ifs with same before
      · rfl
      · rfl
      · rw [ih]
        cases (totalFor date rest).add amount <;> rfl

theorem totalFor_putDay_self (date : Date) (total : Decimal) (days : List DailySpend) :
    totalFor date (putDay date total days) = total := by
  induction days with
  | nil => rw [putDay, totalFor, if_pos rfl]
  | cons spend rest ih =>
      rw [putDay]
      split_ifs with same before
      · rw [totalFor, if_pos rfl]
      · rw [totalFor, if_pos rfl]
      · rw [totalFor, if_neg same, if_neg before, ih]

theorem totalFor_putDay_of_ne
    {date other : Date}
    (different : other ≠ date)
    (total : Decimal)
    (days : List DailySpend) :
    totalFor other (putDay date total days) = totalFor other days := by
  induction days with
  | nil => simp [putDay, totalFor, different]
  | cons spend rest ih =>
      rw [putDay]
      split_ifs with same before
      · subst same
        rw [totalFor, totalFor, if_neg different, if_neg different]
      · rw [totalFor, if_neg different]
        split_ifs with early
        · -- A day before the new row is before all others too.
          have sooner := Date.lt_trans early before
          rw [totalFor, if_neg (Date.ne_of_lt sooner), if_pos sooner]
        · rfl
      · rw [totalFor, ih, totalFor]

theorem dates_putDay (date other : Date) (total : Decimal) (days : List DailySpend) :
    other ∈ (putDay date total days).map DailySpend.date ↔
      other = date ∨ other ∈ days.map DailySpend.date := by
  induction days with
  | nil => simp [putDay]
  | cons spend rest ih =>
      rw [putDay]
      split_ifs with same before
      · simp [same]
      · simp
      · rw [List.map_cons, List.mem_cons, ih, List.map_cons, List.mem_cons, or_left_comm]

/-- Rows that are in order stay in order. -/
theorem ascending_putDay
    {days : List DailySpend}
    (ascending : days.Pairwise (fun earlier later => earlier.date < later.date))
    (date : Date)
    (total : Decimal) :
    (putDay date total days).Pairwise (fun earlier later => earlier.date < later.date) := by
  induction days with
  | nil => exact List.pairwise_singleton _ _
  | cons spend rest ih =>
      obtain ⟨first, ascendingRest⟩ := List.pairwise_cons.mp ascending
      rw [putDay]
      split_ifs with same before
      · exact List.pairwise_cons.mpr ⟨same ▸ first, ascendingRest⟩
      · refine List.pairwise_cons.mpr ⟨List.forall_mem_cons.mpr ⟨before, ?_⟩, ascending⟩
        exact fun later member => Date.lt_trans before (first later member)
      · refine List.pairwise_cons.mpr ⟨fun later member => ?_, ih ascendingRest⟩
        have dated : later.date ∈ (putDay date total rest).map DailySpend.date :=
          List.mem_map_of_mem member
        rcases (dates_putDay ..).mp dated with here | there
        · exact here ▸ Date.lt_of_not_lt before same
        · obtain ⟨old, oldThere, sameDay⟩ := List.mem_map.mp there
          exact sameDay ▸ first old oldThere

theorem totalFor_of_mem
    {days : List DailySpend}
    (ascending : days.Pairwise (fun earlier later => earlier.date < later.date))
    {spend : DailySpend}
    (member : spend ∈ days) :
    totalFor spend.date days = spend.total := by
  induction days with
  | nil => cases member
  | cons first rest ih =>
      obtain ⟨later, ascendingRest⟩ := List.pairwise_cons.mp ascending
      rcases List.mem_cons.mp member with rfl | there
      · rw [totalFor, if_pos rfl]
      · have after := later spend there
        have notBefore : ¬ spend.date < first.date := fun before =>
          Date.lt_irrefl _ (Date.lt_trans after before)
        rw [totalFor, if_neg (Date.ne_of_lt after).symm, if_neg notBefore, ih ascendingRest there]

/-- What transfers come to by day, in the order in which they are counted. -/
def spentByDay (transfers : List Transfer) : Except Overflow (List DailySpend) :=
  transfers.foldlM
    (fun days transfer => addToDay transfer.createdAt.date transfer.amount days) []

/-- Rows by ascending day tell which days there are transfers on, and what they come to. -/
structure Tallies (transfers : List Transfer) (days : List DailySpend) : Prop where
  ascending : days.Pairwise (fun earlier later => earlier.date < later.date)
  dates : ∀ date,
    date ∈ days.map DailySpend.date ↔ ∃ transfer ∈ transfers, transfer.createdAt.date = date
  sums : ∀ date, sum (amounts (transfers.filter (madeOn date))) = .ok (totalFor date days)

theorem Tallies.total
    {transfers : List Transfer}
    {days : List DailySpend}
    (tallies : Tallies transfers days)
    {spend : DailySpend}
    (member : spend ∈ days) :
    sum (amounts (transfers.filter (madeOn spend.date))) = .ok spend.total := by
  rw [tallies.sums, totalFor_of_mem tallies.ascending member]

theorem filter_madeOn_concat (transfers : List Transfer) (transfer : Transfer) (date : Date) :
    (transfers ++ [transfer]).filter (madeOn date) =
      if transfer.createdAt.date = date then transfers.filter (madeOn date) ++ [transfer]
      else transfers.filter (madeOn date) := by
  by_cases same : transfer.createdAt.date = date <;> simp [madeOn, same]

/-- One more transfer makes one more tally, if the sum of its day can be told. -/
theorem Tallies.concat
    {transfers : List Transfer}
    {days : List DailySpend}
    (tallies : Tallies transfers days)
    {transfer : Transfer}
    {total : Decimal}
    (added : (totalFor transfer.createdAt.date days).add transfer.amount = .ok total) :
    Tallies (transfers ++ [transfer]) (putDay transfer.createdAt.date total days) where
  ascending := ascending_putDay tallies.ascending _ _
  dates := by
    intro date
    rw [dates_putDay, tallies.dates]
    simp only [List.mem_append, List.mem_singleton, or_and_right, exists_or, exists_eq_left]
    rw [or_comm, eq_comm]
  sums := by
    intro date
    rw [filter_madeOn_concat]
    split_ifs with same
    · subst same
      rw [sum_amounts_concat, tallies.sums, totalFor_putDay_self]
      exact added
    · rw [tallies.sums, totalFor_putDay_of_ne (Ne.symm same)]

theorem spentByDay_concat (transfers : List Transfer) (transfer : Transfer) :
    spentByDay (transfers ++ [transfer]) =
      spentByDay transfers >>= addToDay transfer.createdAt.date transfer.amount := by
  rw [spentByDay, List.foldlM_append, spentByDay]
  simp

/-- A sum that cannot be told cannot be told with one more transfer either. -/
theorem fails_sum_madeOn_concat
    {transfers : List Transfer}
    {date : Date}
    (fails : Fails (sum (amounts (transfers.filter (madeOn date)))))
    (transfer : Transfer) :
    Fails (sum (amounts ((transfers ++ [transfer]).filter (madeOn date)))) := by
  rw [filter_madeOn_concat]
  split_ifs
  · obtain ⟨fault, summed⟩ := fails
    rw [sum_amounts_concat, summed]
    exact fails_error_bind fault _
  · exact fails

/-- Transfers are counted by day, unless the sum of a day cannot be told. -/
theorem spentByDay_spec (transfers : List Transfer) :
    (∃ days, spentByDay transfers = .ok days ∧ Tallies transfers days) ∨
      Fails (spentByDay transfers) ∧
        ∃ date, Fails (sum (amounts (transfers.filter (madeOn date)))) := by
  induction transfers using List.reverseRecOn with
  | nil => exact .inl ⟨[], rfl, .nil, by simp, fun _ => rfl⟩
  | append_singleton before transfer ih =>
      rw [spentByDay_concat]
      rcases ih with ⟨days, counted, tallies⟩ | ⟨⟨fault, counted⟩, date, fails⟩
      · rw [counted]
        change (∃ after, addToDay transfer.createdAt.date transfer.amount days = .ok after ∧ _) ∨
          Fails (addToDay transfer.createdAt.date transfer.amount days) ∧ _
        rw [addToDay_eq]
        cases added : (totalFor transfer.createdAt.date days).add transfer.amount with
        | ok total => exact .inl ⟨_, rfl, tallies.concat added⟩
        | error fault =>
            refine .inr ⟨fails_error_bind fault _, transfer.createdAt.date, ?_⟩
            rw [filter_madeOn_concat, if_pos rfl, sum_amounts_concat, tallies.sums]
            exact ⟨fault, added⟩
      · rw [counted]
        exact .inr ⟨fails_error_bind fault _, date, fails_sum_madeOn_concat fails transfer⟩

theorem tallies_of_spentByDay
    {transfers : List Transfer}
    {days : List DailySpend}
    (counted : spentByDay transfers = .ok days) :
    Tallies transfers days := by
  rcases spentByDay_spec transfers with ⟨same, again, tallies⟩ | ⟨⟨fault, failed⟩, -⟩
  · rw [counted] at again
    exact Except.ok.inj again ▸ tallies
  · rw [counted] at failed
    cases failed

/-- The count fails exactly if the sum of some day does. -/
theorem fails_spentByDay_iff (transfers : List Transfer) :
    Fails (spentByDay transfers) ↔
      ∃ date, Fails (sum (amounts (transfers.filter (madeOn date)))) := by
  rcases spentByDay_spec transfers with ⟨days, counted, tallies⟩ | both
  · rw [counted]
    refine iff_of_false (not_fails_ok days) ?_
    rintro ⟨date, fault, failed⟩
    rw [tallies.sums] at failed
    cases failed
  · exact iff_of_true both.1 both.2

/--
The log holds positive amounts that can be stored, and what an account has sent on a day
comes to what is used of its limit on that day.
-/
structure Daily (tables : Tables) : Prop where
  plain : Plain tables.transfers
  used : ∀ iban date limit,
    sum (amounts (tables.transfers.filter (sentOn iban date))) =
      .ok (tables.usage iban date limit).used

/-- What is posted to the limit is what the transfers of the day come to. -/
theorem Approves.daily_book
    {tables : Tables}
    {transfer : Transfer}
    {posting : Posting}
    {pair : LockedPair}
    (approves : tables.Approves transfer posting pair)
    (keyed : tables.Keyed)
    (daily : tables.Daily) :
    (tables.book posting transfer).Daily where
  plain := by
    refine ⟨fun other member => ?_, fun other member => ?_⟩
    all_goals rcases List.mem_append.mp member with before | last
    · exact daily.plain.positive other before
    · rw [List.mem_singleton.mp last]
      exact approves.positive
    · exact daily.plain.storable other before
    · rw [List.mem_singleton.mp last]
      exact approves.storable
  used := by
    intro iban date limit
    have logged : (tables.book posting transfer).transfers = tables.transfers ++ [transfer] := rfl
    rw [logged, List.filter_append, usage, approves.dailyLimit_book keyed]
    by_cases here : (transfer.sender, transfer.createdAt.date) = (iban, date)
    · obtain ⟨rfl, rfl⟩ := Prod.mk.inj here
      have chosen : [transfer].filter (sentOn transfer.sender transfer.createdAt.date) =
          [transfer] := by simp [sentOn]
      rw [if_pos rfl, chosen, sum_amounts_concat, daily.used _ _ pair.sender.dailyLimit]
      exact Decimal.add_eq_ok_iff.mpr approves.use
    · have other : [transfer].filter (sentOn iban date) = [] := by
        simpa [sentOn] using here
      rw [if_neg here, other, List.append_nil]
      exact daily.used iban date limit

/-- What an account sent on each day since an instant can always be told. -/
theorem Daily.dailyOutgoingSince_isOk
    {tables : Tables}
    (daily : tables.Daily)
    (iban : String)
    (since : Instant) :
    ∃ days, tables.dailyOutgoingSince iban since = .ok days := by
  rw [← not_fails_iff]
  intro fails
  obtain ⟨date, failed⟩ := (fails_spentByDay_iff (tables.sentSince iban since)).mp fails
  have within : ((tables.sentSince iban since).filter (madeOn date)).Sublist
      (tables.transfers.filter (sentOn iban date)) := by
    have chosen : tables.transfers.filter (sentOn iban date) =
        (tables.outgoing iban).filter (madeOn date) := by
      rw [outgoing, List.filter_filter]
      exact List.filter_congr fun transfer _ => Bool.and_comm _ _
    rw [chosen]
    exact List.filter_sublist.filter _
  obtain ⟨total, summed, -⟩ := (daily.plain.sublist List.filter_sublist).sum_sublist within
    (daily.used iban date .zero)
  exact not_fails_iff.mpr ⟨total, summed⟩ failed

end Tables

namespace CategoryShare

/-- The transfers of a category. -/
def spentOn (category : Category) (transfers : List Transfer) : List Transfer :=
  transfers.filter (fun transfer => Category.classify transfer.description = category)

theorem spentOn_sublist (category : Category) (transfers : List Transfer) :
    (spentOn category transfers).Sublist transfers :=
  List.filter_sublist

/-- The sum of a category, zero if there is none. -/
def sumFor (entries : List (Category × Decimal)) (category : Category) : Decimal :=
  ((Table.mk entries).get? category).getD .zero

/-- An amount is added to the sum of its category, and the sum put in its place. -/
theorem addToCategory_eq
    (category : Category)
    (amount : Decimal)
    (entries : List (Category × Decimal)) :
    addToCategory category amount entries =
      (sumFor entries category).add amount >>= fun total =>
        .ok (Table.putRow category total entries) := by
  induction entries with
  | nil => rfl
  | cons entry rest ih =>
      rw [addToCategory]
      by_cases same : entry.1 = category
      · have here : sumFor (entry :: rest) category = entry.2 := by
          simp [sumFor, Table.get?, same]
        simp only [if_pos same, here, Table.putRow]
      · have there : sumFor (entry :: rest) category = sumFor rest category := by
          simp [sumFor, Table.get?, same]
        rw [if_neg same, ih, there]
        cases (sumFor rest category).add amount with
        | error fault => rfl
        | ok total => simp [Table.putRow, same, bind, Except.bind]

/-- One entry for each category, the sum of its transfers. -/
structure Grouped (transfers : List Transfer) (entries : List (Category × Decimal)) : Prop where
  distinct : (entries.map Prod.fst).Nodup
  summed : ∀ category,
    sum (amounts (spentOn category transfers)) = .ok (sumFor entries category)

/-- Transfers that can be added up can be added up by category. -/
theorem sums_isOk
    {transfers : List Transfer}
    {total : Decimal}
    (plain : Plain transfers)
    (added : sum (amounts transfers) = .ok total) :
    ∃ entries, sums transfers = .ok entries ∧ Grouped transfers entries := by
  refine foldlM_eq_ok_of_steps Grouped ⟨by simp, fun _ => rfl⟩ transfers ?_
  intro before transfer within entries grouped
  have split : ∀ category,
      spentOn category (before ++ [transfer]) =
        spentOn category before ++
          if Category.classify transfer.description = category then [transfer] else [] := by
    intro category
    by_cases same : Category.classify transfer.description = category <;>
      simp [spentOn, List.filter_append, same]
  obtain ⟨part, partSummed, -⟩ :=
    plain.sum_sublist ((spentOn_sublist _ _).trans within.sublist) added
  have summedHere := grouped.summed (.classify transfer.description)
  rw [split, if_pos rfl, sum_amounts_concat, summedHere] at partSummed
  have grown : (sumFor entries (.classify transfer.description)).add transfer.amount = .ok part :=
    partSummed
  refine ⟨Table.putRow (.classify transfer.description) part entries,
    by rw [addToCategory_eq, grown]; rfl, ⟨Table.nodup_keys_putRow grouped.distinct _ _, ?_⟩⟩
  intro category
  have found : sumFor (Table.putRow (.classify transfer.description) part entries) category =
      if Category.classify transfer.description = category then part
      else sumFor entries category := by
    change ((Table.put ⟨entries⟩ (Category.classify transfer.description) part).get?
      category).getD .zero = _
    rw [Table.get?_put]
    split <;> rfl
  rw [split, found]
  by_cases same : Category.classify transfer.description = category
  · subst same
    rw [if_pos rfl, if_pos rfl, sum_amounts_concat, summedHere]
    exact partSummed
  · rw [if_neg same, if_neg same, List.append_nil]
    exact grouped.summed category

/-- An entry is what its category comes to. -/
theorem Grouped.sumFor_eq
    {transfers : List Transfer}
    {entries : List (Category × Decimal)}
    (grouped : Grouped transfers entries)
    {entry : Category × Decimal}
    (member : entry ∈ entries) :
    sumFor entries entry.1 = entry.2 := by
  have distinct : (Table.mk entries).Distinct := grouped.distinct
  rw [sumFor, distinct.get?_of_mem member, Option.getD_some]

/-- A share can be told exactly if a hundred times its amount can be. -/
theorem fails_percentageOf_iff
    {amount total : Decimal}
    (nonnegative : 0 <= amount.units)
    (within : amount.units <= total.units)
    (least : (tenTo 24 : Nat) <= total.units) :
    Fails (percentageOf amount total) ↔ amount.mul? hundred = none := by
  cases multiplied : amount.mul? hundred with
  | none =>
      refine ⟨fun _ => rfl, fun _ => ⟨.multiplication, ?_⟩⟩
      rw [percentageOf, Decimal.mul, multiplied]
      rfl
  | some product =>
      obtain ⟨percentage, told⟩ := percentageOf_isOk multiplied nonnegative within least
      simp [told]

/-- Where the total is zero there is nothing to be added up. -/
theorem eq_nil_of_total
    {transfers : List Transfer}
    {total : Decimal}
    (plain : Plain transfers)
    (added : sum (amounts transfers) = .ok total) :
    transfers = [] ∨ (tenTo 24 : Nat) <= total.units := by
  cases transfers with
  | nil => exact Or.inl rfl
  | cons first rest =>
      obtain ⟨part, single, within⟩ := plain.sum_sublist
        (List.singleton_sublist.mpr (List.mem_cons_self ..) : [first].Sublist (first :: rest)) added
      have same : part = first.amount := by
        have alone : sum (amounts [first]) = .ok first.amount := Decimal.zero_add_eq _
        rw [single] at alone
        exact Except.ok.inj alone
      have least := (plain.storable first (List.mem_cons_self ..)).least
        (plain.positive first (List.mem_cons_self ..))
      rw [same] at within
      exact Or.inr (Int.le_trans least within)

/-- The share of a category in a total. -/
def share (total : Decimal) (entry : Category × Decimal) : Except Overflow CategoryShare :=
  percentageOf entry.2 total >>= fun percentage => .ok ⟨entry.1, entry.2, percentage⟩

theorem breakdown_of_sum
    {transfers : List Transfer}
    {total : Decimal}
    {entries : List (Category × Decimal)}
    (added : sum (amounts transfers) = .ok total)
    (something : total.coefficient ≠ 0)
    (grouped : sums transfers = .ok entries) :
    breakdown transfers =
      entries.mapM (share total) >>= fun shares => .ok (shares.mergeSort largestFirst) := by
  have added : sum (transfers.map fun transfer => transfer.amount) = .ok total := added
  rw [breakdown, added]
  dsimp only [bind, Except.bind]
  rw [if_neg something, grouped]
  rfl

/--
A breakdown fails exactly if the total leaves the range, or a hundred times the sum of a
category does.
-/
theorem fails_breakdown_iff {transfers : List Transfer} (plain : Plain transfers) :
    Fails (breakdown transfers) ↔
      Fails (sum (amounts transfers)) ∨
        ∃ category total,
          sum (amounts (spentOn category transfers)) = .ok total ∧
            total.mul? hundred = none := by
  cases added : sum (amounts transfers) with
  | error fault =>
      have added : sum (transfers.map fun transfer => transfer.amount) = .error fault := added
      rw [breakdown, added]
      simp
  | ok total =>
      rw [or_iff_right (not_fails_ok total)]
      rcases eq_nil_of_total plain added with rfl | least
      · refine ⟨fun fails => absurd fails (not_fails_ok _), ?_⟩
        rintro ⟨category, total, ⟨⟩, unfit⟩
        cases unfit
      have something : total.coefficient ≠ 0 := by
        intro nothing
        have tenThousandth := tenTo_pos 24
        rw [Decimal.units_eq_zero nothing] at least
        omega
      obtain ⟨entries, sorted, grouped⟩ := sums_isOk plain added
      rw [breakdown_of_sum added something sorted, fails_bind_ok_iff, fails_mapM_iff]
      have fails_share_iff {entry : Category × Decimal} (member : entry ∈ entries) :
          Fails (share total entry) ↔ entry.2.mul? hundred = none := by
        obtain ⟨part, summed, within⟩ :=
          plain.sum_sublist (spentOn_sublist entry.1 transfers) added
        have nonnegative := (plain.sublist (spentOn_sublist _ _)).sum_nonnegative summed
        rw [grouped.summed, grouped.sumFor_eq member] at summed
        cases summed
        rw [share, fails_bind_ok_iff, fails_percentageOf_iff nonnegative within least]
      constructor
      · rintro ⟨entry, member, fails⟩
        exact ⟨entry.1, entry.2, by rw [grouped.summed, grouped.sumFor_eq member],
          (fails_share_iff member).mp fails⟩
      · rintro ⟨category, part, summed, unfit⟩
        rw [grouped.summed] at summed
        cases summed
        rw [sumFor] at unfit
        cases found : (Table.mk entries).get? category with
        | none =>
            rw [found] at unfit
            cases unfit
        | some part =>
            rw [found] at unfit
            have member := Table.mem_of_get? found
            exact ⟨(category, part), member, (fails_share_iff member).mpr unfit⟩

end CategoryShare

namespace Query

open Traffic (start)
open CategoryShare (hundred spentOn)

/-- In every traffic, the limits say what the accounts have sent on each day. -/
theorem daily_run (accounts : List Account) (errands : List Errand) (schedule : List Nat) :
    ((start (Store.opened accounts) errands).run schedule).tables.Daily := by
  refine Traffic.tables_run_of_book (Store.quiet_opened accounts) errands schedule
    Tables.Daily ⟨⟨?_, ?_⟩, ?_⟩ ?_
  · simp [Store.transfers_opened]
  · simp [Store.transfers_opened]
  · intro iban date limit
    simp only [Store.transfers_opened, Tables.usage, Tables.dailyLimit, Store.limits_opened]
    rfl
  · intro tables errand transfer posting keyed daily judged
    obtain ⟨pair, approves⟩ := Tables.approves_of_judge keyed judged
    exact approves.daily_book keyed daily

/-- A history ends without an answer if nothing refuses it and its pages are of size 0. -/
theorem overflows_filterHistory_iff (filter : TransferFilter) (request : PageRequest) :
    Overflows (filterHistory (.ofTables tables) spelling filter request caller) ↔
      request.size = 0 ∧ crossed filter.minAmount filter.maxAmount = false ∧
        crossed filter.start filter.stop = false ∧
        ∃ account, authorize (.ofTables tables) spelling caller = .ok account := by
  unfold filterHistory
  by_cases amountBounds : crossed filter.minAmount filter.maxAmount
  · simp [Overflows, amountBounds]
  by_cases timeBounds : crossed filter.start filter.stop
  · simp [Overflows, amountBounds, timeBounds]
  rw [if_neg amountBounds, if_neg timeBounds, overflows_authorize_bind_iff]
  have handed (account : Account) :
      Overflows ((Reader.ofTables tables).listTransfers account.iban filter request) ↔
        request.size = 0 := by
    refine overflows_ofOverflow_iff.trans ?_
    simp only [Fails, Tables.listTransfers, Page.ofList_eq_error_iff, exists_and_left, exists_eq,
      and_true]
  simp only [handed, amountBounds, timeBounds, true_and, exists_and_right]
  exact and_comm

/--
Whatever calls were made on accounts with any balances and limits, in any order of their
steps, and whoever asks and whatever the clock says: a history, with or without bounds,
ends without an answer exactly if the bounds do not cross, the caller may see the account
and the pages that are asked for are of size 0. So none does that is asked for in the
usual way, whatever its size. The trend by day never does. A summary does exactly if the
caller may see the account and the sum of what it sent, or the sum of what it received,
leaves the range. A breakdown does exactly if the caller may see the account and the sum
of what it sent leaves the range, or a hundred times the sum of one of its categories
does. Neither does as long as the account has sent and received no more than the cap.
-/
theorem overflows_iff
    (accounts : List Account)
    (errands : List Errand)
    (schedule : List Nat)
    (spelling : String)
    (caller : Caller) :
    let tables := ((start (Store.opened accounts) errands).run schedule).tables
    let reader := Reader.ofTables tables
    (∀ request, Overflows (history reader spelling request caller) ↔
      request.size = 0 ∧ ∃ account, authorize reader spelling caller = .ok account) ∧
    (∀ filter request, Overflows (filterHistory reader spelling filter request caller) ↔
      request.size = 0 ∧ crossed filter.minAmount filter.maxAmount = false ∧
        crossed filter.start filter.stop = false ∧
        ∃ account, authorize reader spelling caller = .ok account) ∧
    (∀ index size,
      ¬ Overflows (history reader spelling (.make index size) caller) ∧
        ∀ filter, ¬ Overflows (filterHistory reader spelling filter (.make index size) caller)) ∧
    (∀ now, ¬ Overflows (weeklyTrend reader now spelling caller)) ∧
    (Overflows (summary reader spelling caller) ↔
      ∃ account, authorize reader spelling caller = .ok account ∧
        (Fails (sum (amounts (tables.outgoing account.iban))) ∨
          Fails (sum (amounts (tables.incoming account.iban))))) ∧
    (Overflows (categories reader spelling caller) ↔
      ∃ account, authorize reader spelling caller = .ok account ∧
        (Fails (sum (amounts (tables.outgoing account.iban))) ∨
          ∃ category total,
            sum (amounts (spentOn category (tables.outgoing account.iban))) = .ok total ∧
              total.mul? hundred = none)) ∧
    ((∀ account, authorize reader spelling caller = .ok account ->
        Decimal.exactSum (amounts (tables.outgoing account.iban)) <= Tables.wealthCap ∧
        Decimal.exactSum (amounts (tables.incoming account.iban)) <= Tables.wealthCap) ->
      ¬ Overflows (summary reader spelling caller) ∧
        ¬ Overflows (categories reader spelling caller)) := by
  intro tables reader
  have daily : tables.Daily := daily_run accounts errands schedule
  have sentPlain (iban : String) : Plain (tables.outgoing iban) :=
    daily.plain.sublist List.filter_sublist
  have receivedPlain (iban : String) : Plain (tables.incoming iban) :=
    daily.plain.sublist List.filter_sublist
  have unbounded (request : PageRequest) : Overflows (history reader spelling request caller) ↔
      request.size = 0 ∧ ∃ account, authorize reader spelling caller = .ok account := by
    refine (overflows_filterHistory_iff .unbounded request).trans ?_
    simp [TransferFilter.unbounded, crossed, reader]
  have sized (index size : Nat) : (PageRequest.make index size).size ≠ 0 :=
    Nat.ne_of_gt (PageRequest.size_make_pos index size)
  have summarized : Overflows (summary reader spelling caller) ↔
      ∃ account, authorize reader spelling caller = .ok account ∧
        (Fails (sum (amounts (tables.outgoing account.iban))) ∨
          Fails (sum (amounts (tables.incoming account.iban)))) := by
    rw [summary, overflows_authorize_bind_iff]
    refine exists_congr fun account => and_congr_right fun _ => ?_
    exact overflows_ofOverflow_iff.trans (tables.fails_summarize_iff account.iban)
  have brokenDown : Overflows (categories reader spelling caller) ↔
      ∃ account, authorize reader spelling caller = .ok account ∧
        (Fails (sum (amounts (tables.outgoing account.iban))) ∨
          ∃ category total,
            sum (amounts (spentOn category (tables.outgoing account.iban))) = .ok total ∧
              total.mul? hundred = none) := by
    rw [categories, overflows_authorize_bind_iff]
    refine exists_congr fun account => and_congr_right fun _ => ?_
    exact overflows_ofOverflow_iff.trans
      (CategoryShare.fails_breakdown_iff (sentPlain account.iban))
  refine ⟨unbounded, overflows_filterHistory_iff, ?_, ?_, summarized, brokenDown, ?_⟩
  · intro index size
    exact ⟨fun fails => sized index size ((unbounded _).mp fails).1,
      fun filter fails => sized index size ((overflows_filterHistory_iff filter _).mp fails).1⟩
  · intro now
    rw [weeklyTrend, overflows_authorize_bind_iff]
    rintro ⟨account, -, fails⟩
    obtain ⟨days, told⟩ := daily.dailyOutgoingSince_isOk account.iban (trendStart now)
    exact not_fails_iff.mpr ⟨days, told⟩ (overflows_ofOverflow_iff.mp fails)
  · intro bounded
    constructor
    · rw [summarized]
      rintro ⟨account, allowed, sent | received⟩
      · obtain ⟨total, told, -⟩ := (sentPlain account.iban).sum_isOk (bounded account allowed).1
        exact not_fails_iff.mpr ⟨total, told⟩ sent
      · obtain ⟨total, told, -⟩ :=
          (receivedPlain account.iban).sum_isOk (bounded account allowed).2
        exact not_fails_iff.mpr ⟨total, told⟩ received
    · rw [brokenDown]
      rintro ⟨account, allowed, fails⟩
      obtain ⟨total, told, small⟩ :=
        (sentPlain account.iban).sum_isOk (bounded account allowed).1
      rcases fails with sent | ⟨category, part, summed, unfit⟩
      · exact not_fails_iff.mpr ⟨total, told⟩ sent
      · have partPlain := (sentPlain account.iban).sublist
          (CategoryShare.spentOn_sublist category _)
        have nonnegative := partPlain.sum_nonnegative summed
        obtain ⟨same, again, within⟩ := (sentPlain account.iban).sum_sublist
          (CategoryShare.spentOn_sublist category _) told
        rw [summed] at again
        cases again
        have below : part.units <= total.units := within
        have small : part.units.natAbs <= Tables.wealthCap.toNat := by omega
        obtain ⟨product, multiplied⟩ := CategoryShare.mul_hundred small
        rw [unfit] at multiplied
        cases multiplied

end Query

namespace Sample

/-- As much as an account can hold. -/
def fortune : Decimal := .whole 0xFFFFFFFFFFFFFFFFFFFFFFFF (by decide)

/-- An account with a balance, and with the highest limit there is. -/
def unlimited (iban : String) (userId : Int) (balance : Decimal) : Account :=
  { account iban userId with balance := balance, dailyLimit := fortune }

/-- A transfer of all that an account can hold. -/
def windfall (sender receiver : String) (userId : Int) (code : Nat) (reference : String) :
    Errand :=
  { errand sender receiver userId code reference with
    request := ⟨sender, receiver, fortune, none, none⟩ }

end Sample

/--
An account that has sent all it can hold has no breakdown by category any more: a hundred
times the amount cannot be told. And no history of it has pages of size 0.
-/
theorem Query.queries_overflow :
    let tables := ((Traffic.start
      (.opened [Sample.unlimited "A" 1 Sample.fortune, Sample.unlimited "B" 2 .zero])
      [Sample.windfall "A" "B" 1 7 "R7"]).run (List.replicate 14 0)).tables
    let caller : Caller := ⟨1, .user, "A", none⟩
    Query.categories (.ofTables tables) "A" caller = .error (.overflowed .multiplication) ∧
      Query.filterHistory (.ofTables tables) "A" .unbounded ⟨0, 0⟩ caller =
        .error (.overflowed .zeroDivisor) := by
  decide

end Giro
