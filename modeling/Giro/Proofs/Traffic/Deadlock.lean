import Giro.Proofs.Traffic.Queues
import Mathlib.Data.Fintype.Card
import Mathlib.Logic.Relation

/-!
# Freedom from deadlock

A call that waits for a lock holds no lock but lesser ones, because all calls ask for
locks in ascending order. So there is no cycle of calls that wait for one another,
and as long as not all are over one of them waits for nobody. Nor do calls go on for
ever, and hence all of them can be brought to an end without anyone giving up.
-/

namespace Giro
namespace TransferCall

/-- The lock for lack of which a call cannot take its next step. -/
def blockedOn? (call : TransferCall) (store : Store) : Option String :=
  match call.standing with
  | .active _ _ => none
  | .waiting id iban _ _ _ => if store.holds id iban then none else some iban

/-- The rows whose locks a call holds. -/
def held (call : TransferCall) (store : Store) : List String :=
  match call.current with
  | none => []
  | some id => store.heldBy id

variable {call : TransferCall} {store : Store}

theorem blockedOn?_eq_some_iff (iban : String) :
    call.blockedOn? store = some iban ↔
      ∃ id, call.Waits id iban ∧ iban ∉ store.heldBy id := by
  unfold blockedOn? Waits current awaited?
  cases call.standing with
  | active current script => simp
  | waiting id row ask reply next =>
      by_cases holds : store.holds id row = true
      · simp only [holds, if_true, reduceCtorEq, Option.some.injEq, false_iff]
        rintro ⟨other, ⟨rfl, rfl⟩, unheld⟩
        exact unheld ((store.holds_iff _ _).mp holds)
      · simp only [holds]
        rw [store.holds_iff] at holds
        constructor
        · intro same
          cases same
          exact ⟨id, ⟨rfl, rfl⟩, holds⟩
        · rintro ⟨other, ⟨-, same⟩, -⟩
          exact same

theorem mem_held_iff (iban : String) :
    iban ∈ call.held store ↔ ∃ id, call.current = some id ∧ iban ∈ store.heldBy id := by
  unfold held
  cases call.current with
  | none => simp
  | some id => simp

end TransferCall

/-- Of two locks in ascending order, the first is the only one asked for before another. -/
theorem lt_of_inTurn
    {asked : List String}
    {first second row iban : String}
    (ascends : first < second)
    (inTurn : asked ++ [iban] <+: [first, second])
    (member : row ∈ asked) :
    row < iban := by
  obtain ⟨rest, equal⟩ := inTurn
  rcases asked with _ | ⟨only, _ | ⟨another, more⟩⟩
  · cases member
  · obtain ⟨rfl, rfl, -⟩ : only = first ∧ iban = second ∧ rest = [] := by simpa using equal
    rw [List.mem_singleton.mp member]
    exact ascends
  · simp at equal

namespace Traffic

/-- A call waits for a lock that another one holds. -/
def WaitsFor (traffic : Traffic) (left right : Nat) : Prop :=
  ∃ (first second : TransferCall) (iban : String),
    traffic.calls[left]? = some first ∧ traffic.calls[right]? = some second ∧
      first.blockedOn? traffic.store = some iban ∧ iban ∈ second.held traffic.store

/-- A call is not over, and its next step does not have to wait for a lock. -/
def Able (traffic : Traffic) (index : Nat) : Prop :=
  ∃ call, traffic.calls[index]? = some call ∧ call.outcome? = none ∧
    call.blockedOn? traffic.store = none

/-- No call is given a turn while it waits for a lock, so that nobody gives up waiting. -/
def Patient : Traffic -> List Nat -> Prop
  | _, [] => True
  | traffic, index :: rest =>
      (∀ call, traffic.calls[index]? = some call -> call.blockedOn? traffic.store = none) ∧
        (traffic.advance index).Patient rest

namespace Regular

variable {traffic : Traffic} {journeys : List Journey}

/-- A call that waits for a lock holds no lock but lesser ones. -/
theorem held_lt
    (regular : traffic.Regular journeys)
    {index : Nat}
    {call : TransferCall}
    {iban : String}
    (here : traffic.calls[index]? = some call)
    (blocked : call.blockedOn? traffic.store = some iban) :
    ∀ row ∈ call.held traffic.store, row < iban := by
  intro row holds
  obtain ⟨id, ⟨own, awaits⟩, unheld⟩ := (TransferCall.blockedOn?_eq_some_iff iban).mp blocked
  obtain ⟨other, same, locked⟩ := (TransferCall.mem_held_iff row).mp holds
  rw [own] at same
  cases same
  obtain ⟨place, asker, there, askerOwn, asked⟩ := regular.attended.asked id row locked
  obtain rfl := regular.separate place index asker call id there here askerOwn own
  rw [here] at there
  cases there
  -- The row was asked for before the awaited one, for that one is not held.
  have before : row ∈ Mandate.locksAsked call.transcript := by
    rw [TransferCall.locks, awaits, List.mem_append] at asked
    refine asked.resolve_right ?_
    intro same
    rw [Option.toList_some, List.mem_singleton] at same
    exact unheld (same ▸ locked)
  obtain ⟨errand, recites⟩ := regular.recites place call here
  obtain ⟨ascends, inTurn⟩ := TransferCall.inTurn_of_awaited? recites awaits
  exact lt_of_inTurn ascends inTurn before

/-- Along a chain of calls that wait for one another, the locks that are held get greater. -/
theorem chain_ascends
    (regular : traffic.Regular journeys)
    {left right : Nat}
    (chain : Relation.TransGen traffic.WaitsFor left right) :
    ∃ (first last : TransferCall) (iban row : String),
      traffic.calls[left]? = some first ∧ traffic.calls[right]? = some last ∧
        first.blockedOn? traffic.store = some iban ∧ row ∈ last.held traffic.store ∧
          iban <= row := by
  induction chain with
  | single waits =>
      obtain ⟨first, second, iban, here, there, blocked, holds⟩ := waits
      exact ⟨first, second, iban, iban, here, there, blocked, holds, le_refl iban⟩
  | tail chain waits ih =>
      obtain ⟨first, middle, iban, row, here, there, blocked, holds, below⟩ := ih
      obtain ⟨waiter, last, awaited, found, next, waiting, locked⟩ := waits
      rw [there] at found
      cases found
      refine ⟨first, last, iban, awaited, here, next, blocked, locked, ?_⟩
      exact le_trans below (le_of_lt (regular.held_lt there waiting row holds))

/-- No call waits for itself, be it through others. -/
theorem acyclic (regular : traffic.Regular journeys) (index : Nat) :
    ¬ Relation.TransGen traffic.WaitsFor index index := by
  intro cycle
  obtain ⟨first, last, iban, row, here, there, blocked, holds, below⟩ :=
    regular.chain_ascends cycle
  rw [here] at there
  cases there
  exact absurd (regular.held_lt here blocked row holds) (not_lt_of_ge below)

/-- Whoever waits for a lock waits for a call that is not over. -/
theorem waitsFor_of_blocked
    (regular : traffic.Regular journeys)
    {index : Nat}
    {call : TransferCall}
    {iban : String}
    (here : traffic.calls[index]? = some call)
    (blocked : call.blockedOn? traffic.store = some iban) :
    ∃ (other : Nat) (holder : TransferCall),
      traffic.calls[other]? = some holder ∧ holder.outcome? = none ∧
        iban ∈ holder.held traffic.store := by
  obtain ⟨id, waits, unheld⟩ := (TransferCall.blockedOn?_eq_some_iff iban).mp blocked
  have queued := (regular.attended.queued id iban).mpr ⟨⟨index, call, here, waits⟩, unheld⟩
  have taken : (traffic.store.lockOf iban).taken = true := by
    by_contra free
    rw [regular.attended.idle iban (by simpa using free)] at queued
    cases queued
  rcases regular.attended.attended iban taken with due | ⟨owner, holds⟩
  · cases due
  · obtain ⟨other, holder, there, own, -⟩ := regular.attended.asked owner iban holds
    exact ⟨other, holder, there, regular.outcome?_of_current there own,
      (TransferCall.mem_held_iff iban).mpr ⟨owner, own, holds⟩⟩

/-- As long as not all calls are over, one of them can take its next step. -/
theorem exists_able
    (regular : traffic.Regular journeys)
    (unfinished : ¬ traffic.Finished) :
    ∃ index, traffic.Able index := by
  obtain ⟨index, within, undecided⟩ : ∃ index, index < traffic.calls.length ∧
      traffic.outcome? index = none := by
    simpa [Finished] using unfinished
  -- Chains of waiting calls do not come back, so there is a call at the end of one.
  have ends : WellFounded (fun right left : Fin traffic.calls.length =>
      Relation.TransGen traffic.WaitsFor left right) := by
    have transitive : IsTrans (Fin traffic.calls.length) (fun right left =>
        Relation.TransGen traffic.WaitsFor left right) :=
      ⟨fun _ _ _ first second => second.trans first⟩
    have irreflexive : Std.Irrefl (fun right left : Fin traffic.calls.length =>
        Relation.TransGen traffic.WaitsFor left right) :=
      ⟨fun index => regular.acyclic index⟩
    exact Finite.wellFounded_of_trans_of_irrefl _
  obtain ⟨last, pending, nobody⟩ :=
    ends.has_min { index | traffic.outcome? index = none } ⟨⟨index, within⟩, undecided⟩
  have here := List.getElem?_eq_getElem last.isLt
  change traffic.outcome? last = none at pending
  rw [outcome?, here] at pending
  cases waits : traffic.calls[last].blockedOn? traffic.store with
  | none => exact ⟨last, _, here, pending, waits⟩
  | some iban =>
      obtain ⟨other, holder, there, unfinishedToo, holds⟩ := regular.waitsFor_of_blocked here waits
      have next : traffic.WaitsFor last other := ⟨_, holder, iban, here, there, waits, holds⟩
      have stillPending : traffic.outcome? other = none := by
        rw [outcome?, there]
        exact unfinishedToo
      exact absurd (Relation.TransGen.single next)
        (nobody ⟨other, (List.getElem?_eq_some_iff.mp there).1⟩ stillPending)

end Regular
end Traffic

/-! ## Calls come to their end -/

/-- No script goes on with itself. -/
theorem Script.next_ne_ask
    {interface : Interface}
    {α : Type}
    (script : Script interface α) :
    ∀ (question : interface.Ask) (next : interface.Answer question -> Script interface α) answer,
      script = ask question next -> next answer ≠ script := by
  induction script with
  | done value =>
      intro question next answer same
      cases same
  | ask other rest ih =>
      intro question next answer same again
      cases same
      exact ih answer other rest answer again rfl

namespace Progress

variable {errand : Errand} {store : Store} {call : TransferCall}

/-- No more turns than these are left for a call, those on which it starts to wait included. -/
def stamina (progress : Progress errand) (call : TransferCall) : Nat :=
  2 * progress.remaining + if call.awaited? = none then 1 else 0

theorem Stands.script_of_waiting
    {progress : Progress errand}
    {id : TransactionId}
    {iban : String}
    {ask : LedgerAsk}
    {reply : Except Refusal (Option Account) -> ask.Answer}
    {next : ask.Answer -> TransferScript (Except Failure Transfer)}
    (stands : progress.Stands (.waiting id iban ask reply next)) :
    progress.script = .ask (.ledger ask) next := by
  generalize same : Standing.waiting id iban ask reply next = standing at stands
  cases stands with
  | active progress current => cases same
  | first id =>
      cases same
      rfl
  | second first named id =>
      cases same
      rfl

/-- A call that has been answered is not where it was. -/
theorem Stands.moved
    {progress : Progress errand}
    {current : Option TransactionId}
    {question : TransferAsk}
    {next : question.Answer -> TransferScript (Except Failure Transfer)}
    {answer : question.Answer}
    (script : progress.script = .ask question next) :
    ¬ progress.Stands (.active current (next answer)) :=
  fun stands =>
    Script.next_ne_ask progress.script question next answer script stands.script_of_active

/-- A call that is not over and does not get on has to wait from now on. -/
theorem Tracks.waits_of_stays
    {progress : Progress errand}
    (tracks : progress.Tracks store call)
    (undecided : call.outcome? = none)
    (still : progress.Tracks (call.advance store).2 (call.advance store).1) :
    call.awaited? = none ∧ (call.advance store).1.awaited? ≠ none := by
  have before := tracks.stands
  have after := still.stands
  obtain ⟨oracle, transcript, standing⟩ := call
  cases standing with
  | waiting id iban ask reply next =>
      exact absurd after (Stands.moved before.script_of_waiting)
  | active current script =>
      cases script with
      | done outcome => cases undecided
      | ask question next =>
          refine ⟨rfl, ?_⟩
          have script := before.script_of_active.symm
          cases question with
          | outside ask => exact absurd after (Stands.moved script)
          | ledger ask =>
              intro idle
              change progress.Stands
                ((⟨oracle, transcript, .active current (.ask (.ledger ask) next)⟩ :
                  TransferCall).receive ask next (store.serve current ask)).1.standing at after
              change ((⟨oracle, transcript, .active current (.ask (.ledger ask) next)⟩ :
                  TransferCall).receive ask next (store.serve current ask)).1.awaited? =
                none at idle
              cases served : store.serve current ask with
              | answered answer later changed =>
                  rw [served] at after
                  exact Stands.moved script after
              | waiting id iban reply changed =>
                  rw [served] at idle
                  cases idle

theorem Moves.stamina_lt
    {progress later : Progress errand}
    {after : Tables}
    (moves : Moves errand store.tables progress later after)
    (tracks : progress.Tracks store call)
    (undecided : call.outcome? = none)
    (tracked : later.Tracks (call.advance store).2 (call.advance store).1) :
    later.stamina (call.advance store).1 < progress.stamina call := by
  unfold stamina
  cases moves with
  | goes next =>
      have fewer := remaining_next next
      split <;> split <;> omega
  | tires pending =>
      have fewer : (failing (.refused .accountBusy) : Progress errand).remaining <
          progress.remaining := by
        cases progress <;> simp [remaining, verdict?] at pending ⊢
      split <;> split <;> omega
  | stays =>
      obtain ⟨active, waiting⟩ := tracks.waits_of_stays undecided tracked
      rw [if_pos active, if_neg waiting]
      omega

end Progress

namespace Traffic

/-- No more turns than these are left for the call with an index. -/
def stamina (traffic : Traffic) (journeys : List Journey) (index : Nat) : Nat :=
  match journeys[index]?, traffic.calls[index]? with
  | some journey, some call => journey.progress.stamina call
  | _, _ => 0

/-- A turn of a call that is not over leaves fewer turns to it, and as many to all others. -/
theorem Follows.stamina_lt
    {traffic : Traffic}
    {journeys : List Journey}
    (follows : traffic.Follows journeys)
    {index : Nat}
    {call : TransferCall}
    (here : traffic.calls[index]? = some call)
    (undecided : call.outcome? = none) :
    ∃ later, (traffic.advance index).Follows later ∧
      (traffic.advance index).stamina later index < traffic.stamina journeys index ∧
      ∀ other, (traffic.advance index).stamina later other <= traffic.stamina journeys other := by
  obtain ⟨journey, there, tracks⟩ := follows.journey_of_call here
  obtain ⟨later, moves, tracked⟩ := tracks.moves follows.keyed
  have follows' := follows.takeOn here moves tracked
  have stepped := calls_advance_self here
  have placed := getElem?_set_here there ⟨journey.errand, later⟩
  have less : (traffic.advance index).stamina (journeys.set index ⟨journey.errand, later⟩) index <
      traffic.stamina journeys index := by
    simp only [stamina, placed, stepped, there, here]
    exact moves.stamina_lt tracks undecided tracked
  refine ⟨_, follows', less, ?_⟩
  intro other
  by_cases same : index = other
  · exact le_of_lt (same ▸ less)
  · simp only [stamina, calls_advance_of_ne same, List.getElem?_set_ne same]
    exact le_refl _

/-- At any time, all calls can be brought to their end without anyone giving up waiting. -/
theorem exists_patient_end
    {store : Store}
    (quiet : store.Quiet)
    (errands : List Errand)
    (schedule : List Nat) :
    ∃ more, ((start store errands).run schedule).Patient more ∧
      (((start store errands).run schedule).run more).Finished := by
  obtain ⟨journeys, sound⟩ := (sound_start quiet errands).run schedule
  have follows := sound.toFollows
  clear sound
  -- The turns that are left to all calls together get fewer with each of them.
  generalize enough : (Finset.range ((start store errands).run schedule).calls.length).sum
    (((start store errands).run schedule).stamina journeys) = budget
  induction budget using Nat.strong_induction_on generalizing schedule journeys with
  | _ budget ih =>
      by_cases finished : ((start store errands).run schedule).Finished
      · exact ⟨[], True.intro, finished⟩
      obtain ⟨others, regular⟩ := regular_run quiet errands schedule
      obtain ⟨index, call, here, undecided, free⟩ := regular.exists_able finished
      obtain ⟨later, follows', less, atMost⟩ := follows.stamina_lt here undecided
      have step : (start store errands).run (schedule ++ [index]) =
          ((start store errands).run schedule).advance index := run_append _ schedule [index]
      have within : index ∈ Finset.range ((start store errands).run schedule).calls.length := by
        rw [Finset.mem_range]
        exact (List.getElem?_eq_some_iff.mp here).1
      have fewer := Finset.sum_lt_sum (fun other _ => atMost other) ⟨index, within, less⟩
      rw [enough, ← length_advance _ index, ← step] at fewer
      obtain ⟨more, patient, ends⟩ := ih _ fewer (schedule ++ [index]) later
        (step ▸ follows') (by rw [step])
      refine ⟨index :: more, ⟨?_, step ▸ patient⟩, ?_⟩
      · intro other found
        rw [here] at found
        cases found
        exact free
      · rw [run_cons, ← step]
        exact ends

/--
Whatever turns calls have taken on a store on which nobody was at work: a call that
waits for a lock holds no lock but lesser ones. Nobody waits for itself, be it through
others. Unless all calls are over, one of them can take its next step; and so all of
them can be brought to their end without anyone giving up waiting.
-/
theorem deadlock_free
    {store : Store}
    (quiet : store.Quiet)
    (errands : List Errand)
    (schedule : List Nat) :
    let traffic := (start store errands).run schedule
    (∀ (index : Nat) (call : TransferCall) (iban : String),
      traffic.calls[index]? = some call -> call.blockedOn? traffic.store = some iban ->
        ∀ row ∈ call.held traffic.store, row < iban) ∧
      (∀ index, ¬ Relation.TransGen traffic.WaitsFor index index) ∧
      (¬ traffic.Finished -> ∃ index, traffic.Able index) ∧
      ∃ more, traffic.Patient more ∧ (traffic.run more).Finished := by
  intro traffic
  obtain ⟨journeys, regular⟩ := regular_run quiet errands schedule
  exact ⟨fun index call iban here blocked => regular.held_lt here blocked, regular.acyclic,
    regular.exists_able, exists_patient_end quiet errands schedule⟩

/-- The second call holds the first of its locks and waits for the second one. -/
theorem deadlock_free_sample :
    let traffic := (start (.opened Sample.accounts)
      [Sample.errand "B" "C" 2 7 "R7", Sample.errand "A" "B" 1 8 "R8"]).run [0, 0, 1, 1, 1]
    (traffic.calls[1]?.bind (fun call => call.blockedOn? traffic.store)) = some "B" ∧
      (traffic.calls[1]?.map (fun call => call.held traffic.store)) = some ["A"] ∧
      ¬ traffic.Finished ∧ (∃ index, traffic.Able index) ∧
      ∃ more, traffic.Patient more ∧ (traffic.run more).Finished := by
  intro traffic
  have unfinished : ¬ traffic.Finished := by decide
  obtain ⟨-, -, able, ends⟩ := deadlock_free (Store.quiet_opened Sample.accounts)
    [Sample.errand "B" "C" 2 7 "R7", Sample.errand "A" "B" 1 8 "R8"] [0, 0, 1, 1, 1]
  exact ⟨by decide, by decide, unfinished, able unfinished, ends⟩

end Traffic
end Giro
