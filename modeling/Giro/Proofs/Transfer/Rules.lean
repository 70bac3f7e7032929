import Giro.Proofs.Decimal.Exactness
import Giro.Transfer.Validation

/-!
# What the rules let pass

A transfer that the rules let pass satisfies all of them, and one that satisfies
all of them is let pass.
-/

namespace Giro
namespace TransferCandidate

/-- Everything that the rules before the limit rule demand. -/
structure Acceptable (candidate : TransferCandidate) : Prop where
  entitled : candidate.caller.mayUse candidate.sender = true
  positive : Decimal.zero < candidate.amount
  storable : candidate.amount.Storable
  distinct : candidate.sender.iban ≠ candidate.receiver.iban
  senderOperational : candidate.sender.isOperational = true
  receiverOperational : candidate.receiver.isOperational = true
  receiverActive : candidate.receiver.owner.isActive = true
  sameCurrency : candidate.sender.currency = candidate.receiver.currency
  requestedCurrency : ∀ requested ∈ candidate.currency,
    requested = candidate.sender.currency
  covered : candidate.amount <= candidate.sender.balance

theorem acceptable_of_checkRules
    {candidate : TransferCandidate}
    (passed : candidate.checkRules = .ok ()) :
    candidate.Acceptable := by
  unfold checkRules at passed
  dsimp only at passed
  split at passed
  · cases passed
  rename_i entitled
  split at passed
  · cases passed
  rename_i positive
  split at passed
  · cases passed
  rename_i checked inRange
  split at passed
  · cases passed
  rename_i distinct
  split at passed
  · cases passed
  rename_i senderOperational
  split at passed
  · cases passed
  rename_i receiverOperational
  split at passed
  · cases passed
  rename_i receiverActive
  split at passed
  · cases passed
  rename_i sameCurrency
  split at passed
  · cases passed
  rename_i requestedCurrency
  split at passed
  · cases passed
  rename_i covered
  constructor
  · simpa using entitled
  · exact Int.not_le.mp positive
  · exact ((Money.checkScale_eq_ok_iff _ _).mp inRange).1
  · exact distinct
  · simpa using senderOperational
  · simpa using receiverOperational
  · simpa using receiverActive
  · simpa using sameCurrency
  · intro requested asked
    rw [Option.mem_def] at asked
    simpa [asked, Option.filter] using requestedCurrency
  · exact Int.not_lt.mp covered

theorem checkRules_of_acceptable
    {candidate : TransferCandidate}
    (acceptable : candidate.Acceptable) :
    candidate.checkRules = .ok () := by
  have inRange : Money.checkScale candidate.amount = .ok candidate.amount :=
    (Money.checkScale_eq_ok_iff _ _).mpr ⟨acceptable.storable, rfl⟩
  have positive : ¬ candidate.amount <= Decimal.zero := Int.not_le.mpr acceptable.positive
  have covered : ¬ candidate.sender.balance < candidate.amount :=
    Int.not_lt.mpr acceptable.covered
  have noOther :
      candidate.currency.filter (fun requested => requested ≠ candidate.sender.currency) =
        none := by
    rw [Option.filter_eq_none_iff]
    intro requested asked
    simpa using acceptable.requestedCurrency requested asked
  unfold checkRules
  simp only [acceptable.entitled, positive, inRange, acceptable.distinct,
    acceptable.senderOperational, acceptable.receiverOperational,
    acceptable.receiverActive, acceptable.sameCurrency, Bool.not_true, Bool.false_eq_true,
    if_false, ne_eq, not_true_eq_false]
  rw [← acceptable.sameCurrency]
  simp only [noOther, covered, if_false]

theorem checkRules_eq_ok_iff (candidate : TransferCandidate) :
    candidate.checkRules = .ok () ↔ candidate.Acceptable :=
  ⟨acceptable_of_checkRules, checkRules_of_acceptable⟩

/-- The limit rule lets pass what is within the limit together with what was used. -/
theorem checkLimit_eq_ok_iff (candidate : TransferCandidate) :
    candidate.checkLimit = .ok () ↔
      ∃ total, candidate.usedToday.add? candidate.amount = some total ∧
        total <= candidate.sender.dailyLimit := by
  unfold checkLimit Decimal.add
  cases candidate.usedToday.add? candidate.amount with
  | none => simp
  | some total =>
      by_cases beyond : candidate.sender.dailyLimit < total
      · have notWithin : ¬ total <= candidate.sender.dailyLimit := Int.not_le.mpr beyond
        simp only [if_pos beyond, Option.some.injEq, exists_eq_left', notWithin, iff_false]
        cases candidate.sender.dailyLimit.sub candidate.usedToday <;> simp
      · have within : total <= candidate.sender.dailyLimit := Int.not_lt.mp beyond
        simp [beyond, within]

/-- Where nothing is rounded, the limit rule compares exact sums and tells what is left. -/
theorem checkLimit_of_exact
    (candidate : TransferCandidate)
    (usedStorable : candidate.usedToday.Storable)
    (amountStorable : candidate.amount.Storable)
    (limitStorable : candidate.sender.dailyLimit.Storable)
    (totalFits : (candidate.usedToday.units + candidate.amount.units).natAbs <
      Decimal.exactUnits)
    (leftFits : (candidate.sender.dailyLimit.units - candidate.usedToday.units).natAbs <
      Decimal.exactUnits) :
    ∃ remaining,
      remaining.units =
        max 0 (candidate.sender.dailyLimit.units - candidate.usedToday.units) ∧
      candidate.checkLimit =
        if candidate.sender.dailyLimit.units <
            candidate.usedToday.units + candidate.amount.units then
          .error (.refused (.limitExceeded remaining))
        else .ok () := by
  obtain ⟨total, added, totalUnits⟩ := Decimal.add?_exact usedStorable amountStorable totalFits
  obtain ⟨left, taken, leftUnits⟩ := Decimal.sub?_exact limitStorable usedStorable leftFits
  refine ⟨left.larger .zero, ?_, ?_⟩
  · rw [← leftUnits, Decimal.larger]
    split
    · rename_i positive
      exact (max_eq_right (Int.le_of_lt positive)).symm
    · rename_i exhausted
      exact (max_eq_left (Int.not_lt.mp exhausted)).symm
  · simp only [checkLimit, Decimal.add, added, Decimal.sub, taken, Decimal.lt_def, totalUnits]

theorem validate_eq_ok_iff (candidate : TransferCandidate) :
    candidate.validate = .ok () ↔
      candidate.checkRules = .ok () ∧ candidate.checkLimit = .ok () := by
  unfold validate
  cases candidate.checkRules <;> simp

end TransferCandidate
end Giro
