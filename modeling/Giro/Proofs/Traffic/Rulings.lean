import Giro.Proofs.Traffic.Waits

/-!
# Rulings

The step at which it is decided what becomes of a call. What a call has read is
still what is committed, as long as nobody else touches the rows that it has
locked; so what it does in the end is what a verdict on the committed rows would
have been at that very moment, without any of the steps before it.
-/

namespace Giro

theorem Tables.pairFor_congr
    {errand : Errand}
    {before after : Tables}
    (first : after.findAccount errand.order.1 = before.findAccount errand.order.1)
    (second : after.findAccount errand.order.2 = before.findAccount errand.order.2) :
    after.pairFor errand = before.pairFor errand := by
  rw [pairFor, pairFor, first, second]

/-- What becomes of a transfer and of the committed rows is what is judged of them. -/
inductive Tables.Settles (before : Tables) (errand : Errand) :
    Except Failure Transfer -> Tables -> Prop
  | fails
      (failure : Failure)
      (judged : before.judge errand = .error failure) :
      Settles before errand (.error failure) before
  | succeeds
      (transfer : Transfer)
      (posting : Posting)
      (judged : before.judge errand = .ok (transfer.toTransferDraft, posting)) :
      Settles before errand (.ok transfer) (before.book posting transfer)

/-- What was decided about a call before a step and after it. -/
inductive Ruling (errand : Errand) (before : Tables) :
    Option (Except Failure Transfer) -> Option (Except Failure Transfer) -> Tables -> Prop
  | pending (verdict : Option (Except Failure Transfer)) :
      Ruling errand before verdict verdict before
  | settled
      {outcome : Except Failure Transfer}
      {after : Tables}
      (settles : before.Settles errand outcome after) :
      Ruling errand before none (some outcome) after

/-- What is decided stays decided. -/
theorem Ruling.trans
    {errand : Errand}
    {before middle after : Tables}
    {first second third : Option (Except Failure Transfer)}
    (left : Ruling errand before first second middle)
    (right : Ruling errand middle second third after) :
    Ruling errand before first third after := by
  cases left with
  | pending verdict => exact right
  | settled settles =>
      cases right with
      | pending verdict => exact .settled settles

/-- The rows change by one whole transfer, or they do not change. -/
theorem Ruling.tables
    {errand : Errand}
    {before after : Tables}
    {earlier later : Option (Except Failure Transfer)}
    (ruling : Ruling errand before earlier later after) :
    after = before ∨
      ∃ transfer posting,
        before.judge errand = .ok (transfer.toTransferDraft, posting) ∧
          after = before.book posting transfer := by
  cases ruling with
  | pending verdict => exact Or.inl rfl
  | settled settles =>
      cases settles with
      | fails failure judged => exact Or.inl rfl
      | succeeds transfer posting judged => exact Or.inr ⟨transfer, posting, judged, rfl⟩

namespace Errand.Plan

/-- The rows that a plan was made from are the committed ones. -/
structure Fits {errand : Errand} (plan : errand.Plan) (tables : Tables) : Prop where
  pair : tables.pairFor errand = .ok plan.pair.toLockedPair
  today : tables.dailyLimit errand.sender errand.instant.date = plan.today

end Errand.Plan

namespace Progress

variable {errand : Errand} {before after : Tables}

/-- What a call has read and locked is what is committed. -/
def Current (tables : Tables) : Progress errand -> Prop
  | lockingSecond first _ => tables.findAccount errand.order.1 = some first
  | clocking pair | consulting pair => tables.pairFor errand = .ok pair.toLockedPair
  | savingLimit plan | savingSender plan => plan.Fits tables
  | savingReceiver plan =>
      plan.Fits tables ∧ ¬ plan.posting.sender.balance < Decimal.zero
  | identifying plan | referencing plan | recording plan | committing plan _ _ =>
      plan.Fits tables ∧ plan.posting.checkBalances = .ok ()
  | _ => True

theorem current_outset (tables : Tables) (errand : Errand) :
    errand.outset.Current tables := by
  by_cases same : errand.sender = errand.receiver
  · rw [Errand.outset, if_pos same]
    exact True.intro
  · rw [Errand.outset, if_neg same]
    exact True.intro

theorem keeps_both
    (keeps : Tables.Keeps [errand.order.1, errand.order.2] before after) :
    after.pairFor errand = before.pairFor errand ∧
      after.dailyLimit errand.sender errand.instant.date =
        before.dailyLimit errand.sender errand.instant.date := by
  refine ⟨Tables.pairFor_congr (keeps _ (by simp)).1 (keeps _ (by simp)).1, ?_⟩
  exact (keeps errand.sender ((errand.mem_order _).mpr (Or.inl rfl))).2 _

/-- What others commit does not make stale what a call has read and locked. -/
theorem Current.kept
    {progress : Progress errand}
    (current : progress.Current before)
    (keeps : Tables.Keeps progress.held before after) :
    progress.Current after := by
  have fits : ∀ plan : errand.Plan,
      Tables.Keeps [errand.order.1, errand.order.2] before after ->
      plan.Fits before -> plan.Fits after := fun plan both fits =>
    ⟨(keeps_both both).1.trans fits.pair, (keeps_both both).2.trans fits.today⟩
  cases progress with
  | lockingSecond first named => exact (keeps _ (List.mem_singleton_self _)).1.trans current
  | clocking pair => exact (keeps_both keeps).1.trans current
  | consulting pair => exact (keeps_both keeps).1.trans current
  | savingLimit plan => exact fits plan keeps current
  | savingSender plan => exact fits plan keeps current
  | savingReceiver plan => exact ⟨fits plan keeps current.1, current.2⟩
  | identifying plan => exact ⟨fits plan keeps current.1, current.2⟩
  | referencing plan => exact ⟨fits plan keeps current.1, current.2⟩
  | recording plan => exact ⟨fits plan keeps current.1, current.2⟩
  | committing plan transfer drafted => exact ⟨fits plan keeps current.1, current.2⟩
  | _ => trivial

/-- What a call reads with a step is committed at that moment. -/
theorem Current.next
    {progress later : Progress errand}
    (current : progress.Current before)
    (next : Next errand before progress later after) :
    later.Current after := by
  cases next with
  | locksFirst first named found => exact found
  | locksSecond first second firstNamed secondNamed found =>
      change before.pairFor errand = _
      rw [Errand.Pair.toLockedPair_ofRows]
      exact Tables.pairFor_eq_ok current found
  | reads pair => exact current
  | proposes plan found => exact ⟨current, found⟩
  | stagesLimit plan => exact current
  | stagesSender plan covered => exact ⟨current, covered⟩
  | stagesReceiver plan covered =>
      refine ⟨current.1, ?_⟩
      rw [Posting.checkBalances, if_neg current.2, if_neg covered]
  | identifies plan => exact current
  | references plan => exact current
  | records plan transfer drafted => exact current
  | _ => trivial

/-- A judgement gets as far as the proposal if both accounts are as they were read. -/
theorem judge_of_pair
    {pair : LockedPair}
    (distinct : errand.sender ≠ errand.receiver)
    (found : before.pairFor errand = .ok pair) :
    before.judge errand =
      match errand.propose pair
          (before.dailyLimit errand.sender errand.instant.date) with
      | .error failure => .error failure
      | .ok posting =>
          match posting.checkBalances with
          | .error refusal => .error (.refused refusal)
          | .ok _ =>
              if before.referenceTaken ⟨errand.draft pair, 0⟩ then
                .error (.refused .duplicateReference)
              else .ok (errand.draft pair, posting) := by
  apply (if_neg distinct).trans
  generalize before.pairFor errand = answer at found
  subst found
  rfl

theorem judge_of_fits
    {plan : errand.Plan}
    (fits : plan.Fits before) :
    before.judge errand =
      match plan.posting.checkBalances with
      | .error refusal => .error (.refused refusal)
      | .ok _ =>
          if before.referenceTaken ⟨errand.draft plan.pair.toLockedPair, 0⟩ then
            .error (.refused .duplicateReference)
          else .ok (errand.draft plan.pair.toLockedPair, plan.posting) := by
  rw [judge_of_pair plan.distinct fits.pair, fits.today, plan.proposed]

/--
A step either leaves open what it found open, or decides about its call; and what
it decides is what is judged of the rows that are committed at that moment.
-/
theorem ruling_of_next
    {progress later : Progress errand}
    (distinct : errand.sender ≠ errand.receiver)
    (current : progress.Current before)
    (next : Next errand before progress later after) :
    Ruling errand before progress.verdict? later.verdict? after := by
  cases next with
  | lacksFirst missing =>
      refine .settled (.fails _ ?_)
      rw [Tables.judge, if_neg distinct, Tables.pairFor, missing]
  | lacksSecond first named missing =>
      have found : before.findAccount errand.order.1 = some first := current
      refine .settled (.fails _ ?_)
      rw [Tables.judge, if_neg distinct, Tables.pairFor, found, missing]
  | rejects pair failure rejected =>
      refine .settled (.fails _ ?_)
      rw [judge_of_pair distinct current, rejected]
  | overdrawsSender plan negative =>
      refine .settled (.fails _ ?_)
      rw [judge_of_fits current, Posting.checkBalances, if_pos negative]
  | overdrawsReceiver plan negative =>
      refine .settled (.fails _ ?_)
      rw [judge_of_fits current.1, Posting.checkBalances, if_neg current.2, if_pos negative]
  | clashes plan used =>
      refine .settled (.fails _ ?_)
      rw [judge_of_fits current.1, current.2, used]
      rfl
  | commits plan transfer drafted unused =>
      have unusedDraft :
          before.referenceTaken ⟨errand.draft plan.pair.toLockedPair, 0⟩ = false :=
        (before.referenceTaken_of_draft drafted.symm).trans unused
      refine .settled (.succeeds transfer plan.posting ?_)
      rw [judge_of_fits current.1, current.2, unusedDraft, drafted]
      rfl
  | collides plan transfer drafted used =>
      have usedDraft :
          before.referenceTaken ⟨errand.draft plan.pair.toLockedPair, 0⟩ = true :=
        (before.referenceTaken_of_draft drafted.symm).trans used
      refine .settled (.fails _ ?_)
      rw [judge_of_fits current.1, current.2, usedDraft]
      rfl
  | _ => exact .pending _

theorem Current.moves
    {progress later : Progress errand}
    (current : progress.Current before)
    (moves : Moves errand before progress later after) :
    later.Current after := by
  cases moves with
  | goes next => exact current.next next
  | tires undecided => trivial
  | stays => exact current

/-- A call that gives up waiting is decided about without any judgement. -/
theorem ruling_of_moves
    {progress later : Progress errand}
    (distinct : errand.sender ≠ errand.receiver ∨ ∃ outcome, progress = .ended outcome)
    (current : progress.Current before)
    (moves : Moves errand before progress later after) :
    Ruling errand before progress.verdict? later.verdict? after ∨
      progress.verdict? = none ∧
        later.verdict? = some (.error (.refused .accountBusy)) ∧ after = before := by
  cases moves with
  | goes next =>
      exact Or.inl (ruling_of_next (distinct_of_next distinct next) current next)
  | tires undecided => exact Or.inr ⟨undecided, rfl, rfl⟩
  | stays => exact Or.inl (.pending _)

/-- Rows change only by the posting of a call that has locked them. -/
theorem Moves.tables
    {progress later : Progress errand}
    (moves : Moves errand before progress later after) :
    after = before ∨
      ∃ plan transfer drafted,
        progress = .committing plan transfer drafted ∧
          after = before.book plan.posting transfer := by
  cases moves with
  | goes next =>
      cases next with
      | commits plan transfer drafted unused => exact Or.inr ⟨plan, transfer, drafted, rfl, rfl⟩
      | _ => exact Or.inl rfl
  | tires undecided => exact Or.inl rfl
  | stays => exact Or.inl rfl

theorem Moves.keyed
    {progress later : Progress errand}
    (moves : Moves errand before progress later after)
    (keyed : before.Keyed) :
    after.Keyed := by
  rcases moves.tables with rfl | ⟨plan, transfer, drafted, -, rfl⟩
  · exact keyed
  · exact keyed.book plan.posting transfer

/-- A step leaves the rows alone that its call has not locked. -/
theorem Moves.keeps
    {progress later : Progress errand}
    {ibans : List String}
    (moves : Moves errand before progress later after)
    (apart : ∀ iban ∈ ibans, iban ∉ progress.held) :
    Tables.Keeps ibans before after := by
  rcases moves.tables with rfl | ⟨plan, transfer, drafted, rfl, rfl⟩
  · exact Tables.keeps_refl ibans after
  · refine before.keeps_book transfer ?_ ?_ (plan.dailyNamed.1.trans plan.senderNamed.symm)
    · intro member
      exact apart _ member ((errand.mem_order _).mpr (Or.inl plan.senderNamed))
    · intro member
      exact apart _ member ((errand.mem_order _).mpr (Or.inr plan.receiverNamed))

/-- What is decided about a call stays decided. -/
theorem Moves.verdict
    {progress later : Progress errand}
    {outcome : Except Failure Transfer}
    (moves : Moves errand before progress later after)
    (decided : progress.verdict? = some outcome) :
    later.verdict? = some outcome := by
  cases moves with
  | goes next => cases next <;> first | exact decided | cases decided
  | tires undecided =>
      rw [undecided] at decided
      cases decided
  | stays => exact decided

/-! ## Calls that are over -/

variable {store : Store} {call : TransferCall}

theorem eq_ended_of_script
    {progress : Progress errand}
    {outcome : Except Failure Transfer}
    (distinct : errand.sender ≠ errand.receiver ∨ ∃ outcome, progress = .ended outcome)
    (done : progress.script = .done outcome) :
    progress = .ended outcome := by
  cases progress with
  | ended other => exact congrArg Progress.ended (Script.done.inj done)
  | requested =>
      have proper : errand.sender ≠ errand.receiver := by
        apply distinct.resolve_right
        rintro ⟨other, equal⟩
        cases equal
      rw [script_requested proper] at done
      cases done
  | failing failure => cases failure <;> cases done
  | _ => cases done

theorem Tracks.ended_of_outcome?
    {progress : Progress errand}
    {outcome : Except Failure Transfer}
    (tracks : progress.Tracks store call)
    (known : call.outcome? = some outcome) :
    progress = .ended outcome := by
  obtain ⟨current, stands⟩ := TransferCall.outcome?_eq_some_iff.mp known
  exact eq_ended_of_script tracks.distinct (stands ▸ tracks.stands).script_of_active.symm

theorem Tracks.outcome?_of_ended
    {outcome : Except Failure Transfer}
    (tracks : (ended outcome : Progress errand).Tracks store call) :
    call.outcome? = some outcome := by
  have stands := tracks.stands
  generalize standing : call.standing = standing at stands
  cases stands with
  | active => exact TransferCall.outcome?_eq_some_iff.mpr ⟨_, standing⟩

end Progress
end Giro
