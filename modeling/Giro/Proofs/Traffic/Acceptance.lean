import Giro.Proofs.Traffic.Objections
import Giro.Proofs.Traffic.Serial

/-!
# The rule of acceptance

What becomes of a transfer that is left alone, as long as the amounts in the rows
are moderate: it is refused for the first objection that there is, and changes
nothing; or there is none, and it is carried out. Sums are exact then, so neither
an overflow nor the check of the new balances ever decides.
-/

namespace Giro

/--
The amounts in the rows of a table are not negative, have no more digits after the
point than can be stored, and all of them together are within bounds.
-/
structure Table.Modest {κ α : Type} (table : Table κ α) (amount : α -> Decimal) : Prop where
  nonnegative : ∀ row ∈ table.values, Decimal.zero <= amount row
  storable : ∀ row ∈ table.values, (amount row).Storable
  bounded : table.sumOf (fun row => (amount row).units) <= Tables.wealthCap

theorem Table.Modest.fits
    {κ α : Type}
    {table : Table κ α}
    {amount : α -> Decimal}
    (modest : table.Modest amount)
    {row : α}
    (member : row ∈ table.values) :
    0 <= (amount row).units ∧ (amount row).units <= Tables.wealthCap ∧
      (amount row).Storable :=
  ⟨modest.nonnegative row member, (Table.le_sumOf modest.nonnegative member).trans modest.bounded,
    modest.storable row member⟩

namespace Tables

/-- All balances, all daily limits, and what was used of them on a day are modest. -/
structure Moderate (tables : Tables) (today : Date) : Prop where
  balances : tables.accounts.Modest Account.balance
  limits : tables.accounts.Modest Account.dailyLimit
  used : tables.limits.Modest (fun row => if row.date = today then row.used else .zero)

/-- What the rules look at, on the committed rows. -/
def candidateFor (tables : Tables) (errand : Errand) (pair : LockedPair) : TransferCandidate :=
  errand.candidate pair (tables.dailyLimit errand.sender errand.instant.date)

variable {tables : Tables} {errand : Errand} {pair : LockedPair}

theorem Moderate.funded
    {today : Date}
    (moderate : tables.Moderate today) :
    tables.Funded :=
  ⟨moderate.balances.nonnegative, moderate.balances.storable, moderate.balances.bounded⟩

/-- What the limit rule adds to the amount is what was used, and it is moderate. -/
theorem Moderate.usedToday_fits
    (moderate : tables.Moderate errand.instant.date)
    (keyed : tables.Keyed)
    (pair : LockedPair) :
    let used := (tables.candidateFor errand pair).usedToday
    used.units = tables.spent errand.sender errand.instant.date ∧
      0 <= used.units ∧ used.units <= wealthCap ∧ used.Storable := by
  have zeroFits : 0 <= Decimal.zero.units ∧ Decimal.zero.units <= wealthCap ∧
      Decimal.zero.Storable := by decide
  unfold candidateFor spent
  cases found : tables.dailyLimit errand.sender errand.instant.date with
  | none => exact ⟨Decimal.units_zero, zeroFits⟩
  | some row =>
      have fits := moderate.used.fits (Table.mem_values_of_get? found)
      simp only [(keyed.limits _ _ row found).2, if_true] at fits
      exact ⟨rfl, fits⟩

/-- What a sender is let spend is within everything that there is. -/
theorem Moderate.amount_fits
    {today : Date}
    (moderate : tables.Moderate today)
    (senderFound : tables.findAccount errand.sender = some pair.sender)
    (acceptable : (tables.candidateFor errand pair).Acceptable) :
    0 < errand.request.amount.units ∧
      errand.request.amount.units <= pair.sender.balance.units ∧
      pair.sender.balance.units <= wealthCap := by
  have fits := moderate.balances.fits (Table.mem_values_of_get? senderFound)
  exact ⟨acceptable.positive, acceptable.covered, fits.2.1⟩

/-- The limit rule answers the objection that the amount is beyond the limit. -/
theorem heeds_checkLimit
    (keyed : tables.Keyed)
    (moderate : tables.Moderate errand.instant.date)
    (senderFound : tables.findAccount errand.sender = some pair.sender)
    (acceptable : (tables.candidateFor errand pair).Acceptable) :
    tables.Heeds errand [.beyondLimit] (tables.candidateFor errand pair).checkLimit := by
  obtain ⟨spent, usedNonnegative, usedBounded, usedStorable⟩ :=
    moderate.usedToday_fits keyed pair
  obtain ⟨limitNonnegative, limitBounded, limitStorable⟩ :=
    moderate.limits.fits (Table.mem_values_of_get? senderFound)
  obtain ⟨positive, covered, bounded⟩ := moderate.amount_fits senderFound acceptable
  have cap := wealthCap_lt_exactUnits
  obtain ⟨remaining, left, checked⟩ :=
    (tables.candidateFor errand pair).checkLimit_of_exact usedStorable acceptable.storable
      limitStorable
      (by change (_ + errand.request.amount.units).natAbs < _; omega)
      (by change (pair.sender.dailyLimit.units - _).natAbs < _; omega)
  rw [checked]
  refine heeds_rule ?_ (.beyondLimit senderFound ?_) (fun within => heeds_nil ())
  · rw [spent]
    simp [raises, senderFound, candidateFor, Errand.candidate]
  · rw [left, spent]
    rfl

/-- Nothing is out of range when a transfer is posted that satisfies the rules. -/
theorem exists_posting
    (keyed : tables.Keyed)
    (moderate : tables.Moderate errand.instant.date)
    (senderFound : tables.findAccount errand.sender = some pair.sender)
    (receiverFound : tables.findAccount errand.receiver = some pair.receiver)
    (acceptable : (tables.candidateFor errand pair).Acceptable) :
    ∃ posting,
      Posting.post pair errand.request.amount errand.instant.date
          (tables.dailyLimit errand.sender errand.instant.date) = .ok posting ∧
        posting.checkBalances = .ok () := by
  obtain ⟨spent, usedNonnegative, usedBounded, usedStorable⟩ :=
    moderate.usedToday_fits keyed pair
  obtain ⟨-, -, senderStorable⟩ :=
    moderate.balances.fits (Table.mem_values_of_get? senderFound)
  obtain ⟨receiverNonnegative, receiverBounded, receiverStorable⟩ :=
    moderate.balances.fits (Table.mem_values_of_get? receiverFound)
  obtain ⟨positive, covered, bounded⟩ := moderate.amount_fits senderFound acceptable
  have amountStorable : errand.request.amount.Storable := acceptable.storable
  have cap := wealthCap_lt_exactUnits
  obtain ⟨debited, debit, debitedUnits⟩ :=
    Decimal.sub?_exact senderStorable amountStorable (by omega)
  obtain ⟨credited, credit, creditedUnits⟩ :=
    Decimal.add?_exact receiverStorable amountStorable (by omega)
  obtain ⟨used, use, -⟩ := Decimal.add?_exact usedStorable amountStorable (by omega)
  have sameUse :
      ((tables.dailyLimit errand.sender errand.instant.date).getD
        (.opened pair.sender.iban errand.instant.date pair.sender.dailyLimit)).used =
        (tables.candidateFor errand pair).usedToday := by
    unfold candidateFor
    cases tables.dailyLimit errand.sender errand.instant.date <;> rfl
  refine ⟨_, (Posting.post_eq_ok_iff _ _ _ _ _).mpr
    ⟨debited, credited, used, debit, credit, sameUse ▸ use, rfl⟩, ?_⟩
  have senderLeft : ¬ debited < Decimal.zero := by
    rw [Decimal.lt_def, debitedUnits, Decimal.units_zero]
    omega
  have receiverLeft : ¬ credited < Decimal.zero := by
    rw [Decimal.lt_def, creditedUnits, Decimal.units_zero]
    omega
  rw [Posting.checkBalances, if_neg senderLeft, if_neg receiverLeft]

/-- All rules answer the objections to the accounts and to the amount. -/
theorem heeds_validate
    (keyed : tables.Keyed)
    (moderate : tables.Moderate errand.instant.date)
    (senderFound : tables.findAccount errand.sender = some pair.sender)
    (receiverFound : tables.findAccount errand.receiver = some pair.receiver)
    (distinct : errand.sender ≠ errand.receiver) :
    tables.Heeds errand (Objection.toAccounts ++ [.beyondLimit])
      (tables.candidateFor errand pair).validate := by
  have numbers : pair.sender.iban ≠ pair.receiver.iban := by
    rw [keyed.accounts _ _ senderFound, keyed.accounts _ _ receiverFound]
    exact distinct
  apply heeds_append (heeds_checkRules senderFound receiverFound numbers _)
  · intro failure rejected
    obtain ⟨refusal, rfl, refused⟩ := (Failure.ofRefusal_eq_error_iff _ _).mp rejected
    unfold TransferCandidate.validate candidateFor
    rw [refused]
  · intro _ passed
    rw [Failure.ofRefusal_eq_ok_iff] at passed
    have limited : (tables.candidateFor errand pair).validate =
        (tables.candidateFor errand pair).checkLimit := by
      unfold TransferCandidate.validate candidateFor
      rw [passed]
    rw [limited]
    exact heeds_checkLimit keyed moderate senderFound
      (TransferCandidate.acceptable_of_checkRules passed)

/-- What is judged of a transfer answers the first objection to it. -/
theorem heeds_judge
    (keyed : tables.Keyed)
    (moderate : tables.Moderate errand.instant.date) :
    tables.Heeds errand Objection.all (tables.judge errand) := by
  apply heeds_cons
  · intro same
    exact ⟨_, if_pos (by simpa [raises] using same), .sameAccount⟩
  intro unraised
  have distinct : errand.sender ≠ errand.receiver := by simpa [raises] using unraised
  apply heeds_append (tables.heeds_pairFor errand)
  · intro failure missing
    obtain ⟨refusal, rfl, refused⟩ := (Failure.ofRefusal_eq_error_iff _ _).mp missing
    rw [judge, if_neg distinct, refused]
  intro pair found
  rw [Failure.ofRefusal_eq_ok_iff] at found
  obtain ⟨senderFound, receiverFound⟩ := (pairFor_eq_ok_iff distinct pair).mp found
  rw [Progress.judge_of_pair distinct found]
  apply heeds_append (heeds_validate keyed moderate senderFound receiverFound distinct)
  · intro failure rejected
    have proposed : errand.propose pair
        (tables.dailyLimit errand.sender errand.instant.date) = .error failure := by
      unfold candidateFor at rejected
      rw [Errand.propose, rejected]
    rw [proposed]
  intro _ passed
  have acceptable : (tables.candidateFor errand pair).Acceptable := by
    rw [TransferCandidate.validate_eq_ok_iff, TransferCandidate.checkRules_eq_ok_iff] at passed
    exact passed.1
  obtain ⟨posting, posted, checked⟩ :=
    exists_posting keyed moderate senderFound receiverFound acceptable
  rw [(errand.propose_eq_ok_iff _ _ posting).mpr ⟨passed, posted⟩]
  simp only [checked]
  exact heeds_rule Iff.rfl .referenceUsed (fun unused => heeds_nil _)

end Tables

namespace Traffic

/-- A call that is left alone comes to its end, and becomes of it what is judged of the rows. -/
theorem settles_alone
    {store : Store}
    (quiet : store.Quiet)
    (errand : Errand)
    {turns : Nat}
    (enough : 15 <= turns) :
    let traffic := (start store [errand]).run (List.replicate turns 0)
    ∃ outcome, traffic.outcome? 0 = some outcome ∧
      store.tables.Settles errand outcome traffic.tables := by
  intro traffic
  have here : ([errand].map Journey.outset)[0]? = some ⟨errand, errand.outset⟩ := rfl
  have there : (start store [errand]).calls[0]? = some errand.call := rfl
  have alone : errand.outset.Alone (start store [errand]).store errand.call :=
    errand.alone_outset quiet.unlocked
  obtain ⟨outcome, ruling, sound, -⟩ := (sound_start quiet [errand]).run_alone turns here there
    alone (errand.remaining_outset.trans enough)
  refine ⟨outcome, sound.outcome?_of_ended rfl, ?_⟩
  change Ruling errand store.tables _ _ traffic.tables at ruling
  generalize traffic.tables = after at ruling
  by_cases same : errand.sender = errand.receiver
  · -- A call that names a single account is over before its first step.
    rw [Errand.outset, if_pos same] at ruling
    have judged : store.tables.judge errand = .error (.refused .sameAccount) := if_pos same
    cases ruling with
    | pending => exact .fails _ judged
  · rw [Errand.outset, if_neg same] at ruling
    cases ruling with
    | settled settles => exact settles

/--
A transfer that is left alone on moderate rows is refused for the first objection
that there is, with the refusal that answers it, and changes no row. If there is no
objection it succeeds: it is recorded as requested, and carried out.
-/
theorem acceptance_rule
    {store : Store}
    (quiet : store.Quiet)
    (errand : Errand)
    (moderate : store.tables.Moderate errand.instant.date)
    {turns : Nat}
    (enough : 15 <= turns) :
    let traffic := (start store [errand]).run (List.replicate turns 0)
    match store.tables.firstObjection errand with
    | some objection =>
        ∃ refusal,
          traffic.outcome? 0 = some (.error (.refused refusal)) ∧
            store.tables.Answers errand objection refusal ∧
            refusal.kind = objection.kind ∧ traffic.tables = store.tables
    | none =>
        ∃ transfer pair,
          traffic.outcome? 0 = some (.ok transfer) ∧
            store.tables.findAccount errand.sender = some pair.sender ∧
            store.tables.findAccount errand.receiver = some pair.receiver ∧
            transfer.toTransferDraft = errand.draft pair ∧
            store.tables.Carries traffic.tables transfer := by
  intro traffic
  obtain ⟨outcome, ended, settles⟩ := settles_alone quiet errand enough
  change store.tables.Settles errand outcome traffic.tables at settles
  generalize traffic.tables = after at settles
  have heeds := Tables.heeds_judge quiet.keyed moderate
  unfold Tables.Heeds at heeds
  unfold Tables.firstObjection
  cases first : Objection.all.find? (store.tables.raises errand) with
  | some objection =>
      rw [first] at heeds
      obtain ⟨refusal, refused, answers⟩ := heeds
      cases settles with
      | fails failure judged =>
          rw [refused] at judged
          cases judged
          exact ⟨refusal, ended, answers, answers.kind, rfl⟩
      | succeeds transfer posting judged =>
          rw [refused] at judged
          cases judged
  | none =>
      rw [first] at heeds
      obtain ⟨accepted, passed⟩ := heeds
      cases settles with
      | fails failure judged =>
          rw [passed] at judged
          cases judged
      | succeeds transfer posting judged =>
          obtain ⟨rows, approves⟩ := Tables.approves_of_judge quiet.keyed judged
          obtain ⟨pair, distinct, found, -, -, -, drafted⟩ :=
            (Tables.judge_eq_ok_iff _ _ _ _).mp judged
          obtain ⟨senderFound, receiverFound⟩ :=
            (Tables.pairFor_eq_ok_iff distinct pair).mp found
          exact ⟨transfer, pair, ended, senderFound, receiverFound, drafted,
            approves.carries quiet.keyed moderate.funded⟩

end Traffic

namespace Sample

/-- A transfer of 2000, which is more than there is, by somebody else than the owner. -/
def overreach : Errand :=
  { errand "A" "B" 2 7 "R7" with
    request := ⟨"A", "B", .whole 2000 (by decide), none, none⟩ }

theorem moderate_opened :
    (Store.opened accounts).tables.Moderate (⟨0, 0⟩ : Instant).date where
  balances := ⟨by decide, by decide, by decide⟩
  limits := ⟨by decide, by decide, by decide⟩
  used := ⟨by decide, by decide, by decide⟩

end Sample

namespace Traffic

/-- Of three objections to a transfer the first one decides, and to another one there is none. -/
theorem acceptance_rule_sample :
    let store := Store.opened Sample.accounts
    let refused := (start store [Sample.overreach]).run (List.replicate 15 0)
    let accepted := (start store [Sample.errand "A" "B" 1 7 "R7"]).run (List.replicate 15 0)
    Objection.all.filter (store.tables.raises Sample.overreach) =
        [.notEntitled, .uncovered, .beyondLimit] ∧
      refused.outcome? 0 = some (.error (.refused .notSender)) ∧
      refused.tables = store.tables ∧
      ∃ transfer, accepted.outcome? 0 = some (.ok transfer) ∧
        store.tables.Carries accepted.tables transfer := by
  intro store refused accepted
  have decided : store.tables.firstObjection Sample.overreach = some .notEntitled := by
    decide +kernel
  have clear : store.tables.firstObjection (Sample.errand "A" "B" 1 7 "R7") = none := by
    decide +kernel
  have refuses := acceptance_rule (Store.quiet_opened Sample.accounts) Sample.overreach
    Sample.moderate_opened (Nat.le_refl 15)
  have accepts := acceptance_rule (Store.quiet_opened Sample.accounts)
    (Sample.errand "A" "B" 1 7 "R7") Sample.moderate_opened (Nat.le_refl 15)
  simp only [store] at decided clear
  rw [decided] at refuses
  rw [clear] at accepts
  obtain ⟨refusal, ended, answers, -, unchanged⟩ := refuses
  obtain ⟨transfer, -, succeeded, -, -, -, carried⟩ := accepts
  cases answers
  exact ⟨by decide +kernel, ended, unchanged, transfer, succeeded, carried⟩

end Traffic
end Giro
