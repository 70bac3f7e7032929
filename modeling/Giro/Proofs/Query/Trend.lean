import Giro.Proofs.Query.Ranges
import Mathlib.Order.Interval.Finset.Basic
import Mathlib.Data.Int.Interval

/-!
# The trend of a week

The trend adds up what an account has sent by day, from midnight of the sixth day before today
on. Each day with a transfer gets one row, in ascending order, and the count ends without an
answer only if the sum of one of the days leaves the range of decimals. The days have a first
one but no last: a transfer that was recorded elsewhere and is dated after today is in the
trend as well. So the rows are those of one week exactly if there is no such transfer.
-/

namespace Giro

open Decimal (sum)
open Transfer (amounts)

/-- Midnight comes before all of its day, and after all of the days before. -/
theorem Instant.midnight_le_iff (date : Date) (instant : Instant) :
    midnight date <= instant ↔ date <= instant.date := by
  rw [le_iff_not_lt, lt_iff, midnight]
  change ¬ (instant.seconds < date.day * 86400 ∨
    instant.seconds = date.day * 86400 ∧ instant.nanos < 0) ↔
      date.day <= instant.seconds / 86400
  omega

namespace Tables

/-- Of the days from some day on, the transfers since its midnight are all those sent. -/
theorem filter_madeOn_sentSince
    (tables : Tables)
    (iban : String)
    {first date : Date}
    (later : first <= date) :
    (tables.sentSince iban (.midnight first)).filter (madeOn date) =
      tables.transfers.filter (sentOn iban date) := by
  rw [sentSince, outgoing, List.filter_filter, List.filter_filter]
  refine List.filter_congr fun transfer _ => ?_
  rw [Bool.eq_iff_iff]
  simp only [madeOn, sentOn, Bool.and_eq_true, beq_iff_eq, decide_eq_true_eq,
    Instant.midnight_le_iff]
  constructor
  · rintro ⟨⟨same, -⟩, sent⟩
    exact ⟨sent, same⟩
  · rintro ⟨sent, rfl⟩
    exact ⟨⟨rfl, later⟩, sent⟩

/-- Before that day there are none of them. -/
theorem filter_madeOn_sentSince_of_lt
    (tables : Tables)
    (iban : String)
    {first date : Date}
    (earlier : ¬ first <= date) :
    (tables.sentSince iban (.midnight first)).filter (madeOn date) = [] := by
  refine List.filter_eq_nil_iff.mpr fun transfer member => ?_
  rw [mem_sentSince_iff, Instant.midnight_le_iff] at member
  rw [madeOn, decide_eq_true_eq]
  rintro rfl
  exact earlier member.2.2

theorem fails_dailyOutgoingSince_iff (tables : Tables) (iban : String) (first : Date) :
    Fails (tables.dailyOutgoingSince iban (.midnight first)) ↔
      ∃ date, first <= date ∧
        Fails (sum (amounts (tables.transfers.filter (sentOn iban date)))) := by
  refine (fails_spentByDay_iff _).trans (exists_congr fun date => ?_)
  by_cases later : first <= date
  · rw [← sentSince, filter_madeOn_sentSince tables iban later]
    exact (and_iff_right later).symm
  · rw [← sentSince, filter_madeOn_sentSince_of_lt tables iban later]
    exact iff_of_false (not_fails_ok Decimal.zero) fun both => later both.1

end Tables

namespace Query

/-- The rows for the week up to a day: one for each of its days with a transfer sent on it. -/
structure Weekly (tables : Tables) (iban : String) (today : Date) (rows : List DailySpend) :
    Prop where
  few : rows.length <= trendDays
  ascending : rows.Pairwise (fun earlier later => earlier.date < later.date)
  recent : ∀ row ∈ rows, today.day - 6 <= row.date.day ∧ row.date <= today
  complete : ∀ date, today.day - 6 <= date.day -> date <= today ->
    (date ∈ rows.map DailySpend.date ↔
      ∃ transfer ∈ tables.outgoing iban, transfer.createdAt.date = date)

/-- The rows for all days from some day on: one for each of them with a transfer sent on it. -/
structure Daywise (tables : Tables) (iban : String) (first : Date) (rows : List DailySpend) :
    Prop where
  ascending : rows.Pairwise (fun earlier later => earlier.date < later.date)
  dates : ∀ date, date ∈ rows.map DailySpend.date ↔
    first <= date ∧ ∃ transfer ∈ tables.outgoing iban, transfer.createdAt.date = date
  totals : ∀ row ∈ rows,
    sum (amounts (tables.transfers.filter (Tables.sentOn iban row.date))) = .ok row.total

theorem trendStart_of_reached
    {now : Instant}
    (reached : Date.first.day + 6 <= now.date.day) :
    trendStart now = .midnight ⟨now.date.day - 6⟩ := by
  have early : ¬ now.date.day - ((trendDays - 1 : Nat) : Int) < Date.first.day := by
    simp only [trendDays]
    omega
  rw [trendStart, Date.minusDays?, if_neg early]
  rfl

/-- Rows in order that are for days of one week are seven at most. -/
theorem length_le_trendDays
    {rows : List DailySpend}
    {today : Date}
    (ascending : rows.Pairwise (fun earlier later => earlier.date < later.date))
    (recent : ∀ row ∈ rows, today.day - 6 <= row.date.day ∧ row.date <= today) :
    rows.length <= trendDays := by
  have distinct : (rows.map fun row => row.date.day).Nodup :=
    List.pairwise_map.mpr (ascending.imp Int.ne_of_lt)
  have within : (rows.map fun row => row.date.day).toFinset ⊆
      Finset.Icc (today.day - 6) today.day := by
    intro day member
    obtain ⟨row, here, rfl⟩ := List.mem_map.mp (List.mem_toFinset.mp member)
    exact Finset.mem_Icc.mpr (recent row here)
  have counted := Finset.card_le_card within
  rw [List.toFinset_card_of_nodup distinct, List.length_map, Int.card_Icc] at counted
  have week : (today.day + 1 - (today.day - 6)).toNat = trendDays := by
    rw [trendDays]
    omega
  exact week ▸ counted

section

variable {tables : Tables} {iban : String} {today first : Date} {rows : List DailySpend}

theorem daywise_of_told
    (told : tables.dailyOutgoingSince iban (.midnight first) = .ok rows) :
    Daywise tables iban first rows := by
  have tallies : Tables.Tallies (tables.sentSince iban (.midnight first)) rows :=
    Tables.tallies_of_spentByDay told
  have dates : ∀ date, date ∈ rows.map DailySpend.date ↔
      first <= date ∧ ∃ transfer ∈ tables.outgoing iban, transfer.createdAt.date = date := by
    intro date
    rw [tallies.dates]
    simp only [Tables.sentSince, List.mem_filter, decide_eq_true_eq, Instant.midnight_le_iff]
    constructor
    · rintro ⟨transfer, ⟨sent, later⟩, rfl⟩
      exact ⟨later, transfer, sent, rfl⟩
    · rintro ⟨later, transfer, sent, rfl⟩
      exact ⟨transfer, ⟨sent, later⟩, rfl⟩
  refine ⟨tallies.ascending, dates, fun row member => ?_⟩
  have later := ((dates row.date).mp (List.mem_map_of_mem member)).1
  rw [← Tables.filter_madeOn_sentSince tables iban later]
  exact tallies.total member

/-- If nothing was sent after today, all rows are for days of the week up to today. -/
theorem Daywise.weekly
    (daywise : Daywise tables iban ⟨today.day - 6⟩ rows)
    (past : ∀ transfer ∈ tables.outgoing iban, transfer.createdAt.date <= today) :
    Weekly tables iban today rows := by
  have recent : ∀ row ∈ rows, today.day - 6 <= row.date.day ∧ row.date <= today := by
    intro row member
    obtain ⟨later, transfer, sent, same⟩ :=
      (daywise.dates row.date).mp (List.mem_map_of_mem member)
    exact ⟨later, same ▸ past transfer sent⟩
  exact ⟨length_le_trendDays daywise.ascending recent, daywise.ascending, recent,
    fun date later _ => (daywise.dates date).trans (and_iff_right later)⟩

/-- What was sent after today has a row too, which is not for a day of the week. -/
theorem Daywise.sent_le_of_weekly
    (daywise : Daywise tables iban ⟨today.day - 6⟩ rows)
    (weekly : Weekly tables iban today rows) :
    ∀ transfer ∈ tables.outgoing iban, transfer.createdAt.date <= today := by
  intro transfer sent
  by_contra after
  have after : today.day < transfer.createdAt.date.day := Int.not_le.mp after
  have later : (⟨today.day - 6⟩ : Date) <= transfer.createdAt.date := by
    change today.day - 6 <= transfer.createdAt.date.day
    omega
  obtain ⟨row, member, same⟩ :=
    List.mem_map.mp ((daywise.dates _).mpr ⟨later, transfer, sent, rfl⟩)
  have recent : row.date.day <= today.day := (weekly.recent row member).2
  rw [same] at recent
  omega

end

section

variable {tables : Tables} {now : Instant} {spelling : String} {caller : Caller}
  {account : Account}

theorem weeklyTrend_of_allowed
    (reached : Date.first.day + 6 <= now.date.day)
    (allowed : authorize (.ofTables tables) spelling caller = .ok account) :
    weeklyTrend (.ofTables tables) now spelling caller =
      Failure.ofOverflow
        (tables.dailyOutgoingSince account.iban (.midnight ⟨now.date.day - 6⟩)) := by
  rw [weeklyTrend, allowed, trendStart_of_reached reached]
  rfl

/--
The trend is one of the week up to today exactly if the account has sent nothing on a later day
and what it has sent can be added up, on each day from the first of the week on. A sum that
leaves the range is the only way to end without an answer. Otherwise the rows are those of all
days from the first of the week on, in order, the days after today included.
-/
theorem weeklyTrend_covers_week_iff
    (reached : Date.first.day + 6 <= now.date.day)
    (allowed : authorize (.ofTables tables) spelling caller = .ok account) :
    let trend := weeklyTrend (.ofTables tables) now spelling caller
    let first : Date := ⟨now.date.day - 6⟩
    let spent := fun date =>
      sum (amounts (tables.transfers.filter (Tables.sentOn account.iban date)))
    ((∃ rows, trend = .ok rows ∧ Weekly tables account.iban now.date rows) ↔
      (∀ transfer ∈ tables.outgoing account.iban, transfer.createdAt.date <= now.date) ∧
        ∀ date, first <= date -> ¬ Fails (spent date)) ∧
    (Overflows trend ↔ ∃ date, first <= date ∧ Fails (spent date)) ∧
    (¬ Overflows trend ->
      ∃ rows, trend = .ok rows ∧ Daywise tables account.iban first rows) := by
  intro trend first spent
  have counted : trend = Failure.ofOverflow
      (tables.dailyOutgoingSince account.iban (.midnight first)) :=
    weeklyTrend_of_allowed reached allowed
  have overflows : Overflows trend ↔ ∃ date, first <= date ∧ Fails (spent date) := by
    rw [counted, overflows_ofOverflow_iff]
    exact tables.fails_dailyOutgoingSince_iff account.iban first
  have told : ¬ Overflows trend ->
      ∃ rows, trend = .ok rows ∧ Daywise tables account.iban first rows := by
    rw [counted, overflows_ofOverflow_iff, not_fails_iff]
    rintro ⟨rows, told⟩
    exact ⟨rows, by rw [told]; rfl, daywise_of_told told⟩
  refine ⟨⟨?_, ?_⟩, overflows, told⟩
  · rintro ⟨rows, answered, weekly⟩
    have fine : ¬ Overflows trend := by
      rw [answered]
      rintro ⟨overflow, ⟨⟩⟩
    obtain ⟨same, again, daywise⟩ := told fine
    rw [answered] at again
    cases again
    refine ⟨daywise.sent_le_of_weekly weekly, fun date later fails => ?_⟩
    exact fine (overflows.mpr ⟨date, later, fails⟩)
  · rintro ⟨past, fine⟩
    obtain ⟨rows, answered, daywise⟩ := told fun fails =>
      let ⟨date, later, failed⟩ := overflows.mp fails
      fine date later failed
    exact ⟨rows, answered, daywise.weekly past⟩

end

end Query

namespace Sample

/-- A transfer of 25 that was recorded elsewhere. -/
def imported (createdAt : Instant) : TransferDraft :=
  ⟨⟨7⟩, "R7", "A", "B", .whole 25 (by decide), .tryLira, .transfer, .completed, none, createdAt⟩

/-- The tables of a bank whose only transfer was imported. -/
def withImport (createdAt : Instant) : Tables :=
  ((Store.opened accounts).importTransfer (imported createdAt)).2.tables

end Sample

open Sample (withImport)

theorem Query.weeklyTrend_covers_week_iff_sample :
    let reader := Reader.ofTables (withImport ⟨86400, 0⟩)
    let caller : Caller := ⟨1, .user, "A", none⟩
    Date.first.day + 6 <= (Instant.date ⟨259200, 0⟩).day ∧
      authorize reader "A" caller = .ok (Sample.account "A" 1) ∧
      ∃ rows, weeklyTrend reader ⟨259200, 0⟩ "A" caller = .ok rows ∧
        Weekly (withImport ⟨86400, 0⟩) "A" ⟨3⟩ rows := by
  intro reader caller
  have reached : Date.first.day + 6 <= (Instant.date ⟨259200, 0⟩).day := by decide
  have allowed : authorize reader "A" caller = .ok (Sample.account "A" 1) := by decide
  have answered : weeklyTrend reader ⟨259200, 0⟩ "A" caller =
      .ok [⟨⟨1⟩, .whole 25 (by decide)⟩] := by decide
  obtain ⟨covers, overflows, -⟩ := weeklyTrend_covers_week_iff reached allowed
  refine ⟨reached, allowed, covers.mpr ⟨by decide, fun date later fails => ?_⟩⟩
  obtain ⟨overflow, failed⟩ := overflows.mpr ⟨date, later, fails⟩
  rw [answered] at failed
  cases failed

/-- A transfer that is dated tomorrow has a row today. -/
theorem Query.tomorrow_has_row :
    let reader := Reader.ofTables (withImport ⟨86400, 0⟩)
    let trend := weeklyTrend reader ⟨0, 0⟩ "A" ⟨1, .user, "A", none⟩
    trend = .ok [⟨⟨1⟩, .whole 25 (by decide)⟩] ∧
      ¬ ∃ rows, trend = .ok rows ∧ Weekly (withImport ⟨86400, 0⟩) "A" ⟨0⟩ rows := by
  intro reader trend
  have answered : trend = .ok [⟨⟨1⟩, .whole 25 (by decide)⟩] := by decide
  refine ⟨answered, ?_⟩
  rintro ⟨rows, again, weekly⟩
  rw [answered] at again
  cases again
  exact absurd (weekly.recent _ (List.mem_singleton_self _)).2 (by decide)

end Giro
