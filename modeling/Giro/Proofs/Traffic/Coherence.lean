import Giro.Proofs.Traffic.Rulings

/-!
# Calls side by side

How far each of the calls has come, all at once. A step of one call leaves the
others where they are, and the rows that two calls have locked are never the
same; so what a call has read stays committed while others take their steps.
-/

namespace Giro

/-- An errand and how far its call has come. -/
structure Journey where
  errand : Errand
  progress : Progress errand

namespace Journey

/-- The journey of a call that has not done anything yet. -/
def outset (errand : Errand) : Journey := ⟨errand, errand.outset⟩

/-- What is decided about the call of a journey. -/
def verdict? (journey : Journey) : Option (Except Failure Transfer) :=
  journey.progress.verdict?

end Journey

namespace TransferCall

theorem receive_served
    (call : TransferCall)
    (ask : LedgerAsk)
    (next : ask.Answer -> TransferScript (Except Failure Transfer))
    (served : Served ask) :
    (call.receive ask next served).2 = served.store ∧
      (call.receive ask next served).1.current = served.current := by
  cases served with
  | answered answer later store => exact ⟨rfl, rfl⟩
  | waiting id iban reply store => exact ⟨rfl, rfl⟩

/-- A step is nothing to the store, or a question to it, or the end of a wait. -/
theorem advance_cases (call : TransferCall) (store : Store) :
    ((call.advance store).2 = store ∧ (call.advance store).1.current = call.current) ∨
      (∃ ask,
        (call.advance store).2 = (store.serve call.current ask).store ∧
          (call.advance store).1.current = (store.serve call.current ask).current) ∨
      ∃ id iban,
        (call.advance store).2 = (store.endWait id iban).2 ∧
          (call.advance store).1.current = call.current := by
  obtain ⟨oracle, transcript, standing⟩ := call
  cases standing with
  | active current script =>
      cases script with
      | done outcome => exact Or.inl ⟨rfl, rfl⟩
      | ask ask next =>
          cases ask with
          | outside ask => exact Or.inl ⟨rfl, rfl⟩
          | ledger ask => exact Or.inr (Or.inl ⟨ask, receive_served _ ask next _⟩)
  | waiting id iban ask reply next => exact Or.inr (Or.inr ⟨id, iban, rfl, rfl⟩)

variable {store : Store} {call : TransferCall}

/-- A step keeps the store orderly. -/
theorem orderly_advance (call : TransferCall) (orderly : store.Orderly) :
    (call.advance store).2.Orderly := by
  rcases call.advance_cases store with ⟨same, -⟩ | ⟨ask, served, -⟩ | ⟨id, iban, ended, -⟩
  · rw [same]
    exact orderly
  · rw [served]
    exact orderly.serve call.current ask
  · rw [ended]
    exact orderly.endWait id iban

/-- A step touches no transaction but the one that its call has open. -/
theorem spares_advance (call : TransferCall) (orderly : store.Orderly) :
    Store.Spares call.current store (call.advance store).2 := by
  rcases call.advance_cases store with ⟨same, -⟩ | ⟨ask, served, -⟩ | ⟨id, iban, ended, -⟩
  · rw [same]
    exact .of_transactions rfl
  · rw [served]
    exact orderly.spares_serve call.current ask
  · rw [ended]
    exact .of_transactions (Store.transactions_endWait store id iban)

/-- A call goes on in the transaction that it has open, or in a new one. -/
theorem current_advance
    {id : TransactionId}
    (after : (call.advance store).1.current = some id) :
    call.current = some id ∨ id = store.nextTransaction := by
  rcases call.advance_cases store with ⟨-, same⟩ | ⟨ask, -, served⟩ | ⟨-, -, -, same⟩
  · exact Or.inl (same.symm.trans after)
  · exact Store.current_serve (served.symm.trans after)
  · exact Or.inl (same.symm.trans after)

end TransferCall

/-- A call is as far as it was after a step that spares its transaction. -/
theorem Progress.Tracks.spared
    {errand : Errand}
    {progress : Progress errand}
    {store after : Store}
    {call : TransferCall}
    {current : Option TransactionId}
    (tracks : progress.Tracks store call)
    (spares : Store.Spares current store after)
    (apart : ∀ id, call.current = some id -> current ≠ some id) :
    progress.Tracks after call := by
  refine ⟨tracks.oracle, tracks.distinct, tracks.stands, ?_, tracks.heard⟩
  have seated := tracks.seated
  generalize call.current = own at seated apart
  cases seated with
  | outside outside => exact .outside outside
  | inside id transaction inside here work =>
      obtain ⟨later, there, grows⟩ := spares id transaction (apart id rfl) here
      exact .inside id later inside there
        (fun expected equal => (work expected equal).trans grows)

namespace Traffic

/-- Every call has come as far as its journey says, each in a transaction of its own. -/
structure Follows (traffic : Traffic) (journeys : List Journey) : Prop where
  orderly : traffic.store.Orderly
  keyed : traffic.tables.Keyed
  count : journeys.length = traffic.calls.length
  tracks : ∀ (index : Nat) (journey : Journey) (call : TransferCall),
    journeys[index]? = some journey -> traffic.calls[index]? = some call ->
      journey.progress.Tracks traffic.store call
  separate : ∀ (left right : Nat) (first second : TransferCall) (id : TransactionId),
    traffic.calls[left]? = some first -> traffic.calls[right]? = some second ->
      first.current = some id -> second.current = some id -> left = right

/-- Calls that have not done anything yet are at their outset. -/
theorem follows_start
    {store : Store}
    (orderly : store.Orderly)
    (keyed : store.tables.Keyed)
    (errands : List Errand) :
    (start store errands).Follows (errands.map Journey.outset) where
  orderly := orderly
  keyed := keyed
  count := by simp [start]
  tracks := by
    intro index journey call here there
    simp only [start, List.getElem?_map, Option.map_eq_some_iff] at here there
    obtain ⟨errand, found, rfl⟩ := here
    obtain ⟨other, same, rfl⟩ := there
    rw [found] at same
    cases same
    exact errand.tracks_outset store
  separate := by
    intro left right first second id here there own
    simp only [start, List.getElem?_map, Option.map_eq_some_iff] at here
    obtain ⟨errand, found, rfl⟩ := here
    cases own

namespace Follows

variable {traffic : Traffic} {journeys : List Journey}

/-- Every call is on a journey. -/
theorem journey_of_call
    (follows : traffic.Follows journeys)
    {index : Nat}
    {call : TransferCall}
    (here : traffic.calls[index]? = some call) :
    ∃ journey, journeys[index]? = some journey ∧
      journey.progress.Tracks traffic.store call := by
  obtain ⟨within, -⟩ := List.getElem?_eq_some_iff.mp here
  rw [← follows.count] at within
  exact ⟨journeys[index], List.getElem?_eq_getElem within,
    follows.tracks index _ call (List.getElem?_eq_getElem within) here⟩

/-- Every journey is that of a call. -/
theorem call_of_journey
    (follows : traffic.Follows journeys)
    {index : Nat}
    {journey : Journey}
    (here : journeys[index]? = some journey) :
    ∃ call, traffic.calls[index]? = some call ∧
      journey.progress.Tracks traffic.store call := by
  obtain ⟨within, -⟩ := List.getElem?_eq_some_iff.mp here
  rw [follows.count] at within
  exact ⟨traffic.calls[index], List.getElem?_eq_getElem within,
    follows.tracks index journey _ here (List.getElem?_eq_getElem within)⟩

/-- The rows that a journey holds are locked by its call's transaction. -/
theorem held
    (follows : traffic.Follows journeys)
    {index : Nat}
    {journey : Journey}
    {iban : String}
    (here : journeys[index]? = some journey)
    (holds : iban ∈ journey.progress.held) :
    ∃ call id, traffic.calls[index]? = some call ∧ call.current = some id ∧
      iban ∈ traffic.store.heldBy id := by
  obtain ⟨call, there, tracks⟩ := follows.call_of_journey here
  have seated := tracks.seated
  generalize own : call.current = current at seated
  unfold Progress.held at holds
  cases seated with
  | outside outside =>
      generalize journey.progress = progress at holds outside
      cases progress <;> simp_all [Progress.inside, Progress.work?]
  | inside id transaction inside present work =>
      refine ⟨call, id, there, own, ?_⟩
      rw [Store.heldBy_of_get? present]
      cases staged : journey.progress.work? with
      | none => simp [staged] at holds
      | some expected =>
          apply (work expected staged).held iban
          simpa [staged] using holds

/-- No row is held on two journeys. -/
theorem disjoint
    (follows : traffic.Follows journeys)
    {left right : Nat}
    {first second : Journey}
    {iban : String}
    (here : journeys[left]? = some first)
    (there : journeys[right]? = some second)
    (different : left ≠ right)
    (holds : iban ∈ first.progress.held) :
    iban ∉ second.progress.held := by
  intro alsoHolds
  obtain ⟨call, id, found, own, locked⟩ := follows.held here holds
  obtain ⟨other, otherId, otherFound, otherOwn, alsoLocked⟩ := follows.held there alsoHolds
  have same := follows.orderly.single id otherId iban locked alsoLocked
  subst same
  exact different (follows.separate left right call other id found otherFound own otherOwn)

/-- A transaction that a call has open is older than the next one. -/
theorem current_ne_next
    (follows : traffic.Follows journeys)
    {index : Nat}
    {call : TransferCall}
    {id : TransactionId}
    (there : traffic.calls[index]? = some call)
    (own : call.current = some id) :
    id ≠ traffic.store.nextTransaction := by
  intro fresh
  obtain ⟨journey, -, tracks⟩ := follows.journey_of_call there
  have seated := tracks.seated
  rw [own] at seated
  cases seated with
  | inside _ transaction _ present _ =>
      rw [follows.orderly.fresh id (Nat.le_of_eq fresh.symm)] at present
      cases present

/-- After a step, the call that took it still shares its transaction with nobody. -/
theorem separate_advance
    (follows : traffic.Follows journeys)
    {index other : Nat}
    {call second : TransferCall}
    {id : TransactionId}
    (there : traffic.calls[index]? = some call)
    (otherThere : traffic.calls[other]? = some second)
    (different : index ≠ other)
    (own : (call.advance traffic.store).1.current = some id) :
    second.current ≠ some id := by
  intro otherOwn
  rcases TransferCall.current_advance own with before | fresh
  · exact different (follows.separate index other call second id there otherThere before otherOwn)
  · exact follows.current_ne_next otherThere otherOwn fresh

/-- A step takes one journey on and leaves all others where they are. -/
theorem takeOn
    (follows : traffic.Follows journeys)
    {index : Nat}
    {journey : Journey}
    {call : TransferCall}
    {later : Progress journey.errand}
    (there : traffic.calls[index]? = some call)
    (moves : Progress.Moves journey.errand traffic.tables journey.progress later
      (call.advance traffic.store).2.tables)
    (tracked : later.Tracks (call.advance traffic.store).2 (call.advance traffic.store).1) :
    (traffic.advance index).Follows (journeys.set index ⟨journey.errand, later⟩) := by
  rw [advance_of_call there]
  refine ⟨call.orderly_advance follows.orderly, moves.keyed follows.keyed, ?_, ?_, ?_⟩
  · simp [follows.count]
  · intro other journey' call' here' there'
    rw [List.getElem?_set] at here' there'
    by_cases same : index = other
    · subst same
      rw [if_pos rfl] at here' there'
      split at here' <;> cases here'
      split at there' <;> cases there'
      exact tracked
    · rw [if_neg same] at here' there'
      refine (follows.tracks other journey' call' here' there').spared
        (call.spares_advance follows.orderly) ?_
      intro id own clash
      exact same (follows.separate index other call call' id there there' clash own)
  · intro left right first second id found otherFound own otherOwn
    rw [List.getElem?_set] at found otherFound
    by_cases isLeft : index = left
    · by_cases isRight : index = right
      · exact isLeft.symm.trans isRight
      · rw [if_neg isRight] at otherFound
        rw [if_pos isLeft] at found
        split at found <;> cases found
        exact absurd otherOwn (follows.separate_advance there otherFound isRight own)
    · rw [if_neg isLeft] at found
      by_cases isRight : index = right
      · rw [if_pos isRight] at otherFound
        split at otherFound <;> cases otherFound
        exact absurd own (follows.separate_advance there found isLeft otherOwn)
      · rw [if_neg isRight] at otherFound
        exact follows.separate left right first second id found otherFound own otherOwn

/-- Where there is no journey there is no call either. -/
theorem advance_of_none
    (follows : traffic.Follows journeys)
    {index : Nat}
    (absent : journeys[index]? = none) :
    traffic.advance index = traffic := by
  rw [advance_of_absent]
  rw [List.getElem?_eq_none_iff] at absent ⊢
  rwa [← follows.count]

/-- A step takes one journey on as far as its progress allows. -/
theorem advance
    (follows : traffic.Follows journeys)
    {index : Nat}
    {journey : Journey}
    (here : journeys[index]? = some journey) :
    ∃ later,
      Progress.Moves journey.errand traffic.tables journey.progress later
          (traffic.advance index).tables ∧
        (traffic.advance index).Follows (journeys.set index ⟨journey.errand, later⟩) := by
  obtain ⟨call, there, tracks⟩ := follows.call_of_journey here
  obtain ⟨later, moves, tracked⟩ := tracks.moves follows.keyed
  refine ⟨later, ?_, follows.takeOn there moves tracked⟩
  rw [advance_of_call there]
  exact moves

/-- The journey of a call that is over has ended with what has become of the call. -/
theorem ended_of_outcome?
    (follows : traffic.Follows journeys)
    {index : Nat}
    {outcome : Except Failure Transfer}
    (known : traffic.outcome? index = some outcome) :
    ∃ errand, journeys[index]? = some ⟨errand, .ended outcome⟩ := by
  rw [outcome?, Option.bind_eq_some_iff] at known
  obtain ⟨call, there, known⟩ := known
  obtain ⟨⟨errand, progress⟩, here, tracks⟩ := follows.journey_of_call there
  have ended : progress = .ended outcome := tracks.ended_of_outcome? known
  exact ⟨errand, ended ▸ here⟩

end Follows
end Traffic
end Giro
