import Giro.Proofs.Decimal.Range
import Giro.Proofs.Traffic.Judgement

/-!
# Postings are exact or refused, or rounded

A posting debits the sender, credits the receiver and adds to what is used of the limit.
Each of the three figures is exact if a decimal can hold it, and the posting is refused if
one of them is too large. A figure that is neither is rounded, and the posting stands: then
the debit is not the credit. Amounts that can be stored never come to that.
-/

namespace Giro

open Decimal (Holds TooLarge)

namespace Posting

/-- What was used of a limit before a posting, in units; nothing if the day has no row. -/
def usedBefore (today : Option DailyLimit) : Int :=
  (today.map (fun row => row.used.units)).getD 0

/-- What the sender is left with, in units. -/
def debit (pair : LockedPair) (amount : Decimal) : Int :=
  pair.sender.balance.units - amount.units

/-- What the receiver comes to have, in units. -/
def credit (pair : LockedPair) (amount : Decimal) : Int :=
  pair.receiver.balance.units + amount.units

/-- What comes to be used of the limit, in units. -/
def usage (today : Option DailyLimit) (amount : Decimal) : Int :=
  usedBefore today + amount.units

/-- The figures of a posting are exact. -/
structure Exact
    (pair : LockedPair)
    (amount : Decimal)
    (today : Option DailyLimit)
    (posting : Posting) : Prop where
  debited : posting.sender.balance.units = debit pair amount
  credited : posting.receiver.balance.units = credit pair amount
  used : posting.daily.used.units = usage today amount

/-- The figures of a posting are off by no more than half a step of their last digits. -/
structure Near
    (pair : LockedPair)
    (amount : Decimal)
    (today : Option DailyLimit)
    (posting : Posting) : Prop where
  debited : 2 * (posting.sender.balance.units - debit pair amount).natAbs <=
    tenTo (28 - posting.sender.balance.scale)
  credited : 2 * (posting.receiver.balance.units - credit pair amount).natAbs <=
    tenTo (28 - posting.receiver.balance.scale)
  used : 2 * (posting.daily.used.units - usage today amount).natAbs <=
    tenTo (28 - posting.daily.used.scale)

variable {pair : LockedPair} {amount : Decimal} {date : Date} {today : Option DailyLimit}

/-- What was used before is what the row of the day says. -/
theorem units_used_getD (opened : DailyLimit) (unused : opened.used = .zero) :
    (today.getD opened).used.units = usedBefore today := by
  cases today with
  | none => rw [Option.getD_none, unused]; rfl
  | some row => rfl

/-- A posting is refused for one reason only: one of its figures is too large. -/
theorem post_eq_error_iff {refusal : Refusal} :
    post pair amount date today = .error refusal ↔
      refusal = .balanceOverflow ∧
        (TooLarge (debit pair amount) ∨ TooLarge (credit pair amount) ∨
          TooLarge (usage today amount)) := by
  have debited := Decimal.add?_eq_none_iff pair.sender.balance amount.negate
  have credited := Decimal.add?_eq_none_iff pair.receiver.balance amount
  have used := Decimal.add?_eq_none_iff
    (today.getD (.opened pair.sender.iban date pair.sender.dailyLimit)).used amount
  rw [Decimal.units_negate, ← sub_eq_add_neg] at debited
  rw [units_used_getD _ rfl] at used
  rw [debit, credit, usage, ← debited, ← credited, ← used, post, Decimal.sub?]
  dsimp only
  cases pair.sender.balance.add? amount.negate with
  | none => simp [eq_comm]
  | some debited =>
      cases pair.receiver.balance.add? amount with
      | none => simp [eq_comm]
      | some credited =>
          cases (today.getD
              (.opened pair.sender.iban date pair.sender.dailyLimit)).used.add? amount with
          | none => simp [eq_comm]
          | some used => simp

/-- A posting that stands is exact exactly if its figures can be held, and near anyway. -/
theorem exact_iff_of_post {posting : Posting} (posted : post pair amount date today = .ok posting) :
    (posting.Exact pair amount today ↔
        Holds (debit pair amount) ∧ Holds (credit pair amount) ∧ Holds (usage today amount)) ∧
      posting.Near pair amount today := by
  obtain ⟨debited, credited, used, debit, credit, use, rfl⟩ :=
    (post_eq_ok_iff pair amount date today posting).mp posted
  have debitIff := Decimal.add?_exact_iff debit
  have debitNear := Decimal.add?_near debit
  have useIff := Decimal.add?_exact_iff use
  have useNear := Decimal.add?_near use
  rw [Decimal.units_negate, ← sub_eq_add_neg] at debitIff debitNear
  rw [units_used_getD _ rfl] at useIff useNear
  constructor
  · rw [← show _ ↔ Holds (Posting.debit pair amount) from debitIff,
      ← show _ ↔ Holds (Posting.credit pair amount) from Decimal.add?_exact_iff credit,
      ← show _ ↔ Holds (Posting.usage today amount) from useIff]
    exact ⟨fun exact => ⟨exact.debited, exact.credited, exact.used⟩,
      fun ⟨debited, credited, used⟩ => ⟨debited, credited, used⟩⟩
  · exact ⟨debitNear, Decimal.add?_near credit, useNear⟩

/--
A posting is refused, always for the same reason, exactly if one of its three figures is
too large. It is exact or refused exactly if one of them is too large or a decimal can hold
each of them. Otherwise it stands with figures that are rounded, each of them off by no
more than half a step of its last digit. If all that is added up can be stored, and none of
the figures is too long to be written with four digits after the point, it is exact.
-/
theorem exact_or_refused_iff
    (pair : LockedPair)
    (amount : Decimal)
    (date : Date)
    (today : Option DailyLimit) :
    let posted := post pair amount date today
    let tooLarge :=
      TooLarge (debit pair amount) ∨ TooLarge (credit pair amount) ∨
        TooLarge (usage today amount)
    let held :=
      Holds (debit pair amount) ∧ Holds (credit pair amount) ∧ Holds (usage today amount)
    (∀ refusal, posted = .error refusal ↔ refusal = .balanceOverflow ∧ tooLarge) ∧
    ((posted = .error .balanceOverflow ∨
        ∃ posting, posted = .ok posting ∧ posting.Exact pair amount today) ↔
      tooLarge ∨ held) ∧
    (∀ posting, posted = .ok posting -> posting.Near pair amount today) ∧
    (pair.sender.balance.Storable -> pair.receiver.balance.Storable -> amount.Storable ->
      (∀ row ∈ today, row.used.Storable) ->
      (debit pair amount).natAbs < Decimal.exactUnits ->
      (credit pair amount).natAbs < Decimal.exactUnits ->
      (usage today amount).natAbs < Decimal.exactUnits ->
      ∃ posting, posted = .ok posting ∧ posting.Exact pair amount today) := by
  intro posted tooLarge held
  have stands (small : ¬ tooLarge) : ∃ posting, posted = .ok posting := by
    cases result : posted with
    | ok posting => exact ⟨posting, rfl⟩
    | error refusal => exact absurd (post_eq_error_iff.mp result).2 small
  have exact_of_held (all : held) :
      ∃ posting, posted = .ok posting ∧ posting.Exact pair amount today := by
    obtain ⟨debited, credited, used⟩ := all
    obtain ⟨posting, result⟩ := stands
      (not_or.mpr ⟨debited.not_tooLarge, not_or.mpr ⟨credited.not_tooLarge, used.not_tooLarge⟩⟩)
    exact ⟨posting, result, (exact_iff_of_post result).1.mpr ⟨debited, credited, used⟩⟩
  refine ⟨fun refusal => post_eq_error_iff, ⟨?_, ?_⟩, fun posting result =>
    (exact_iff_of_post result).2, ?_⟩
  · rintro (refused | ⟨posting, result, exact⟩)
    · exact Or.inl (post_eq_error_iff.mp refused).2
    · exact Or.inr ((exact_iff_of_post result).1.mp exact)
  · rintro (large | all)
    · exact Or.inl (post_eq_error_iff.mpr ⟨rfl, large⟩)
    · exact Or.inr (exact_of_held all)
  · intro sender receiver storable row debitFits creditFits useFits
    have used : (Decimal.storedUnits : Int) ∣ usedBefore today := by
      cases today with
      | none => exact dvd_zero _
      | some known => exact row known rfl
    exact exact_of_held
      ⟨Decimal.holds_of_stored (dvd_sub sender storable) debitFits,
        Decimal.holds_of_stored (dvd_add receiver storable) creditFits,
        Decimal.holds_of_stored (dvd_add used storable) useFits⟩

end Posting

/--
An account that holds as much as there is sends a tenth. What it is left with is rounded up
to what it had, and the receiver has a tenth that nobody has lost.
-/
theorem Posting.debit_vanishes :
    let tenth : Decimal := ⟨1, 1, by decide, by decide⟩
    let fortune : Decimal := .whole 0xFFFFFFFFFFFFFFFFFFFFFFFF (by decide)
    let pair : LockedPair :=
      ⟨{ Sample.account "A" 1 with balance := fortune },
        { Sample.account "B" 2 with balance := .zero }⟩
    Decimal.zero < tenth ∧ tenth <= pair.sender.balance ∧
      ∃ posting,
        Posting.post pair tenth ⟨0⟩ none = .ok posting ∧
          posting.sender.balance = fortune ∧ posting.receiver.balance = tenth ∧
          ¬ posting.Exact pair tenth none := by
  intro tenth fortune pair
  have posted := (post_eq_ok_iff pair tenth ⟨0⟩ none _).mpr
    ⟨fortune, tenth, tenth, by decide, by decide, by decide, rfl⟩
  refine ⟨by decide, by decide, _, posted, rfl, rfl, fun exact => ?_⟩
  exact absurd exact.debited (by decide)

end Giro
