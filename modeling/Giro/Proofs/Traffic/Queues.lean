import Giro.Proofs.Ledger.Queues
import Giro.Proofs.Traffic.Transcripts
import Giro.Proofs.Traffic.Solo

/-!
# Calls in queues

The locks and their queues, as they are once some calls have taken any number of
steps: who holds a lock has asked for it, and who waits is in the queue. So no lock
is taken when all calls are over.
-/

namespace Giro
namespace TransferCall

/-- The rows whose locks a call has asked for, answered or not. -/
def locks (call : TransferCall) : List String :=
  Mandate.locksAsked call.transcript ++ call.awaited?.toList

/-- A call asks for the lock of a row within a transaction, or has done so. -/
def Asks (call : TransferCall) (id : TransactionId) (iban : String) : Prop :=
  call.current = some id ∧ iban ∈ call.locks

/-- A call waits for the lock of a row within a transaction. -/
def Waits (call : TransferCall) (id : TransactionId) (iban : String) : Prop :=
  call.current = some id ∧ call.awaited? = some iban

/-- The queues agree with what a call asks and waits for, and with what others do beside it. -/
def AttendedBeside
    (call : TransferCall)
    (store : Store)
    (asks waits : TransactionId -> String -> Prop) : Prop :=
  store.Attended (fun other row => asks other row ∨ call.Asks other row)
    (fun other row => waits other row ∨ call.Waits other row) []

section Active

variable
  {store : Store}
  {call : TransferCall}
  {current : Option TransactionId}
  {ask : LedgerAsk}
  {next : ask.Answer -> TransferScript (Except Failure Transfer)}

theorem locks_of_active
    {script : TransferScript (Except Failure Transfer)}
    (stands : call.standing = .active current script) :
    call.locks = Mandate.locksAsked call.transcript := by
  simp [locks, awaited?, stands]

/-- What a question to the ledger does to the locks that its call has asked for. -/
theorem locks_advance
    (stands : call.standing = .active current (.ask (.ledger ask) next)) :
    (call.advance store).1.locks = call.locks ++ ask.lock?.toList := by
  rw [locks_of_active stands]
  rw [advance_ledger stands]
  cases served : store.serve current ask with
  | answered answer later after =>
      change Mandate.locksAsked (call.transcript ++ [⟨.ledger ask, answer⟩]) ++ [] = _
      rw [List.append_nil, Mandate.locksAsked_concat]
      rfl
  | waiting id iban reply after =>
      have same := lock_of_waiting served
      subst same
      rfl

/-- A question that is not about a lock does not have to wait. -/
theorem awaited?_advance
    (stands : call.standing = .active current (.ask (.ledger ask) next))
    (other : ask.lock? = none) :
    (call.advance store).1.awaited? = none := by
  rw [advance_ledger stands]
  cases served : store.serve current ask with
  | answered answer later after => rfl
  | waiting id iban reply after =>
      have same := lock_of_waiting served
      subst same
      cases other

variable {asks waits : TransactionId -> String -> Prop} {id : TransactionId}

/-- A question that is not about a lock leaves it open what its call is told. -/
theorem attended_other
    (attended : store.Attended (fun other row => asks other row ∨ call.Asks other row) waits [])
    (stands : call.standing = .active (some id) (.ask (.ledger ask) next))
    (calm : ∀ iban, ¬ waits id iban)
    (begun : ask ≠ .begin)
    (unrelated : ask.lock? = none) :
    (call.advance store).1.AttendedBeside (call.advance store).2 asks waits := by
  have locks : (call.advance store).1.locks = call.locks ++ ask.lock?.toList :=
    locks_advance stands
  have settled : (call.advance store).1.awaited? = none := awaited?_advance stands unrelated
  have own : call.current = some id := by simp [TransferCall.current, stands]
  obtain ⟨after, later⟩ := call.receive_served ask next (store.serve (some id) ask)
  rw [← advance_ledger stands] at after later
  have effect := Store.effect_serve store id ask
  rw [← after, ← later] at effect
  refine (attended.effect effect begun ?_ calm).rephrase ?_ ?_ ?_
  · rintro iban rfl
    cases unrelated
  · rintro other row - ⟨before | ⟨same, member⟩, still⟩
    · exact Or.inl before
    · rw [own] at same
      cases same
      refine Or.inr ⟨still rfl, ?_⟩
      rw [locks]
      exact List.mem_append_left _ member
  · simp [Waits, settled]
  · simp [Waits, settled]

/-- A question about a lock leaves its call with the lock or in the queue, or it is told why not. -/
theorem attended_lock
    {iban : String}
    {next : Except Refusal (Option Account) -> TransferScript (Except Failure Transfer)}
    (attended : store.Attended (fun other row => asks other row ∨ call.Asks other row) waits [])
    (stands : call.standing = .active (some id) (.ask (.ledger (.lock iban)) next))
    (calm : ∀ iban, ¬ waits id iban)
    (opened : (store.transactions.get? id).isSome) :
    (call.advance store).1.AttendedBeside (call.advance store).2 asks waits := by
  have locks : (call.advance store).1.locks = call.locks ++ [iban] := locks_advance stands
  have own : call.current = some id := by simp [TransferCall.current, stands]
  -- What is asked for is on record before it is known what comes of it.
  have recorded : store.Attended
      (fun other row => asks other row ∨ other = id ∧ row ∈ call.locks ++ [iban]) waits [] := by
    refine attended.rephrase ?_ (fun _ _ _ => Iff.rfl) (fun _ _ waiting => waiting)
    rintro other row - (before | ⟨same, member⟩)
    · exact Or.inl before
    · rw [own] at same
      cases same
      exact Or.inr ⟨rfl, List.mem_append_left _ member⟩
  have requested : asks id iban ∨ id = id ∧ iban ∈ call.locks ++ [iban] :=
    Or.inr ⟨rfl, List.mem_append_right _ (List.mem_singleton_self iban)⟩
  have locked := recorded.lock opened requested calm
  obtain ⟨after, later, awaited⟩ : (call.advance store).2 = (store.lock id iban).2 ∧
      (call.advance store).1.current = some id ∧
      (call.advance store).1.awaited? =
        if (store.lock id iban).1 = .queued then some iban else none := by
    rw [advance_ledger stands]
    simp only [Store.serve, Store.serveOpen]
    rcases store.lock id iban with ⟨_ | _, after⟩
    · exact ⟨rfl, rfl, rfl⟩
    · exact ⟨rfl, rfl, rfl⟩
  rw [after]
  refine locked.congr ?_ ?_
  · intro other row
    rw [Asks, later, locks, Option.some.injEq, eq_comm (a := id)]
  · intro other row
    rw [Waits, later, awaited, Option.some.injEq, eq_comm (a := id)]
    split
    · rename_i queued
      simp [queued, eq_comm]
    · rename_i told
      simp [told]

/-- Without a transaction, a call can do nothing about locks. -/
theorem attended_outside
    (attended : store.Attended (fun other row => asks other row ∨ call.Asks other row) waits [])
    (stands : call.standing = .active none (.ask (.ledger ask) next))
    (orderly : store.Orderly) :
    (call.advance store).1.AttendedBeside (call.advance store).2 asks waits := by
  have settled : (call.advance store).1.awaited? = none := by
    rw [advance_ledger stands]
    cases ask <;> rfl
  have idle : ∀ other row, ¬ call.Asks other row := by
    rintro other row ⟨own, -⟩
    simp [TransferCall.current, stands] at own
  have after := (call.receive_served ask next (store.serve none ask)).1
  rw [← advance_ledger stands] at after
  have kept : (call.advance store).2.Attended
      (fun other row => asks other row ∨ call.Asks other row) waits [] := by
    rw [after]
    rcases store.serve_none ask with ⟨-, begun, -⟩ | ⟨same, -⟩
    · rw [begun]
      refine attended.of_same (fun _ => rfl) (Store.heldBy_begin orderly) ?_
      intro other opened
      obtain ⟨transaction, here⟩ := Option.isSome_iff_exists.mp opened
      obtain ⟨later, there, -⟩ :=
        orderly.spares_begin none other transaction (by simp) here
      rw [there]
      rfl
    · rw [same]
      exact attended
  refine kept.rephrase ?_ ?_ ?_
  · exact fun other row _ asks => Or.inl (asks.resolve_right (idle other row))
  · simp [Waits, settled]
  · simp [Waits, settled]

end Active

variable
  {store : Store}
  {call : TransferCall}
  {asks waits : TransactionId -> String -> Prop}

/-- The end of a wait takes its call out of the queue, or finds it out of the queue already. -/
theorem attended_endWait
    {id : TransactionId}
    {iban : String}
    {ask : LedgerAsk}
    {reply : Except Refusal (Option Account) -> ask.Answer}
    {next : ask.Answer -> TransferScript (Except Failure Transfer)}
    (attended : call.AttendedBeside store asks waits)
    (stands : call.standing = .waiting id iban ask reply next)
    (about : ask = .lock iban)
    (apart : ∀ row, ¬ waits id row) :
    (call.advance store).1.AttendedBeside (call.advance store).2 asks waits := by
  have advance := call.advance_waiting store stands
  have own : ∀ other row, call.Waits other row ↔ other = id ∧ row = iban := by
    intro other row
    simp only [Waits, current, awaited?, stands, Option.some.injEq]
    exact and_congr eq_comm eq_comm
  have asked : ∀ other row, (call.advance store).1.Asks other row ↔ call.Asks other row := by
    intro other row
    rw [advance]
    subst about
    simp only [Asks, locks, current, awaited?, stands, hear, Mandate.locksAsked_concat,
      Option.toList_none, List.append_nil]
    rfl
  have settled : ∀ other row, ¬ (call.advance store).1.Waits other row := by
    rw [advance]
    rintro other row ⟨-, waiting⟩
    cases waiting
  have after : (call.advance store).2 = (store.endWait id iban).2 := by rw [advance]
  rw [after, Store.endWait]
  by_cases holds : store.holds id iban = true
  · rw [if_pos holds]
    rw [Store.holds_iff] at holds
    refine attended.rephrase ?_ ?_ ?_
    · exact fun other row _ asks => asks.imp_right (asked other row).mpr
    · intro other row unheld
      rw [own, or_iff_left (settled other row), or_iff_left]
      rintro ⟨rfl, rfl⟩
      exact unheld holds
    · exact fun other row waiting => Or.inl (waiting.resolve_right (settled other row))
  · rw [if_neg holds]
    refine (attended.giveUp id iban).congr ?_ ?_
    · exact fun other row => or_congr_right (asked other row)
    · intro other row
      rw [own, or_iff_left (settled other row)]
      constructor
      · intro waiting
        refine ⟨Or.inl waiting, ?_⟩
        rintro ⟨rfl, -⟩
        exact apart row waiting
      · exact fun waiting => waiting.1.resolve_right waiting.2

/-- Whatever a call does, the queues agree with what all calls ask and wait for. -/
theorem attended_advance
    {script : TransferScript (Except Failure Transfer)}
    (attended : call.AttendedBeside store asks waits)
    (recites : call.Recites script)
    (orderly : store.Orderly)
    (apart : ∀ id iban, call.current = some id -> ¬ waits id iban)
    (opened : ∀ id, call.current = some id -> (store.transactions.get? id).isSome)
    (once : ∀ current next,
      call.standing = .active current (.ask (.ledger .begin) next) -> current = none) :
    (call.advance store).1.AttendedBeside (call.advance store).2 asks waits := by
  cases stands : call.standing with
  | waiting id iban ask reply next =>
      have about : ask = .lock iban := by
        rw [Recites, stands] at recites
        exact recites.1
      exact attended_endWait attended stands about
        (fun row => apart id row (by simp [current, stands]))
  | active current script =>
      have active : ∀ other row, ¬ call.Waits other row := by
        rintro other row ⟨-, waiting⟩
        simp [awaited?, stands] at waiting
      replace attended : store.Attended (fun other row => asks other row ∨ call.Asks other row)
          waits [] :=
        attended.congr (fun _ _ => Iff.rfl) (fun other row => by simp [active other row])
      have own : call.current = current := by simp [TransferCall.current, stands]
      cases script with
      | done outcome =>
          rw [advance_done stands]
          exact attended.congr (fun _ _ => Iff.rfl) (fun other row => by simp [active other row])
      | ask question next =>
          cases question with
          | outside ask =>
              rw [call.advance_outside store stands]
              refine attended.congr ?_ ?_
              · intro other row
                simp only [Asks, locks, TransferCall.current, awaited?, stands, hear,
                  Mandate.locksAsked_concat]
                simp [Exchange.lock?]
              · intro other row
                simp [Waits, awaited?, hear]
          | ledger ask =>
              cases current with
              | none => exact attended_outside attended stands orderly
              | some id =>
                  have calm : ∀ row, ¬ waits id row := fun row => apart id row own
                  cases lock : ask.lock? with
                  | none =>
                      refine attended_other attended stands calm ?_ lock
                      rintro rfl
                      cases once _ next stands
                  | some iban =>
                      have about : ask = .lock iban := by
                        cases ask <;> cases lock
                        rfl
                      subst about
                      exact attended_lock attended stands calm (opened id own)

end TransferCall

/-- What holds of a member after one has been replaced holds beside it, or of the new one. -/
theorem exists_getElem?_set_iff
    {α : Type}
    {values : List α}
    {index : Nat}
    {value : α}
    (here : values[index]? = some value)
    (other : α)
    (holds : α -> Prop) :
    (∃ (place : Nat) (member : α),
        (values.set index other)[place]? = some member ∧ holds member) ↔
      (∃ (place : Nat) (member : α),
        place ≠ index ∧ values[place]? = some member ∧ holds member) ∨
        holds other := by
  constructor
  · rintro ⟨place, member, found, held⟩
    by_cases same : index = place
    · subst same
      rw [Traffic.getElem?_set_here here] at found
      cases found
      exact Or.inr held
    · rw [List.getElem?_set_ne same] at found
      exact Or.inl ⟨place, member, Ne.symm same, found, held⟩
  · rintro (⟨place, member, different, found, held⟩ | held)
    · refine ⟨place, member, ?_, held⟩
      rw [List.getElem?_set_ne (Ne.symm different)]
      exact found
    · exact ⟨index, other, Traffic.getElem?_set_here here other, held⟩

namespace Traffic

/-- Some call asks for the lock of a row within a transaction, or has done so. -/
def Asks (traffic : Traffic) (id : TransactionId) (iban : String) : Prop :=
  ∃ (index : Nat) (call : TransferCall),
    traffic.calls[index]? = some call ∧ call.Asks id iban

/-- Some call waits for the lock of a row within a transaction. -/
def Waits (traffic : Traffic) (id : TransactionId) (iban : String) : Prop :=
  ∃ (index : Nat) (call : TransferCall),
    traffic.calls[index]? = some call ∧ call.Waits id iban

/-- The queues for the locks are made up of the calls that wait for them. -/
def Attended (traffic : Traffic) : Prop :=
  traffic.store.Attended traffic.Asks traffic.Waits []

theorem attended_start
    {store : Store}
    (quiet : store.Quiet)
    (errands : List Errand) :
    (start store errands).Attended := by
  have unheld : ∀ id iban, iban ∉ store.heldBy id := by
    intro id iban holds
    have taken := quiet.orderly.taken id iban holds
    rw [quiet.unlocked] at taken
    cases taken
  have idle : ∀ id iban, ¬ (start store errands).Waits id iban := by
    rintro id iban ⟨index, call, here, own, -⟩
    change (errands.map Errand.call)[index]? = some call at here
    rw [List.getElem?_map, Option.map_eq_some_iff] at here
    obtain ⟨errand, -, rfl⟩ := here
    cases own
  change store.Attended _ _ _
  constructor
  · intro id iban
    rw [quiet.unlocked]
    simp [RowLock.free, idle]
  · intro iban
    rw [quiet.unlocked]
    exact List.nodup_nil
  · intro iban _
    rw [quiet.unlocked]
    rfl
  · intro iban taken
    rw [quiet.unlocked] at taken
    cases taken
  · exact fun id iban holds => absurd holds (unheld id iban)
  · exact fun id iban waiting => absurd waiting (idle id iban)

/-- A step of one call keeps the queues in agreement with all calls. -/
theorem Follows.attended_advance
    {traffic : Traffic}
    {journeys : List Journey}
    (follows : traffic.Follows journeys)
    (recites : ∀ (index : Nat) (call : TransferCall), traffic.calls[index]? = some call ->
      ∃ script, call.Recites script)
    (attended : traffic.Attended)
    (index : Nat) :
    (traffic.advance index).Attended := by
  cases here : traffic.calls[index]? with
  | none =>
      rw [advance_of_absent here]
      exact attended
  | some call =>
      obtain ⟨script, recited⟩ := recites index call here
      obtain ⟨journey, -, tracks⟩ := follows.journey_of_call here
      have whole := fun holds => exists_getElem?_set_iff here call holds
      rw [set_of_getElem? here] at whole
      have apart : ∀ id iban, call.current = some id ->
          ¬ ∃ (place : Nat) (other : TransferCall),
            place ≠ index ∧ traffic.calls[place]? = some other ∧ other.Waits id iban := by
        rintro id iban own ⟨place, other, different, there, waiting, -⟩
        exact different (follows.separate place index other call id there here waiting own)
      have opened : ∀ id, call.current = some id ->
          (traffic.store.transactions.get? id).isSome := by
        intro id own
        have seated := tracks.seated
        rw [own] at seated
        cases seated with
        | inside _ transaction _ present _ => exact Option.isSome_of_eq_some present
      have once : ∀ current next,
          call.standing = .active current (.ask (.ledger .begin) next) -> current = none := by
        intro current next stands
        have standing := tracks.stands
        rw [stands] at standing
        have own : call.current = current := by simp [TransferCall.current, stands]
        rw [← own]
        exact tracks.current_outside
          (Progress.outside_of_script_begin standing.script_of_active.symm)
      have stepped := TransferCall.attended_advance
        (attended.congr (fun id iban => (whole (fun other => other.Asks id iban)).symm)
          (fun id iban => (whole (fun other => other.Waits id iban)).symm))
        recited follows.orderly apart opened once
      rw [advance_of_call here]
      exact stepped.congr
        (fun id iban => exists_getElem?_set_iff here _ (fun other => other.Asks id iban))
        (fun id iban => exists_getElem?_set_iff here _ (fun other => other.Waits id iban))

/-- In traffic, the queues agree with all calls, in whatever order they take their steps. -/
theorem attended_run
    {store : Store}
    (quiet : store.Quiet)
    (errands : List Errand)
    (schedule : List Nat) :
    ((start store errands).run schedule).Attended := by
  induction schedule using List.reverseRecOn with
  | nil => exact attended_start quiet errands
  | append_singleton before index ih =>
      obtain ⟨journeys, sound⟩ := (sound_start quiet errands).run before
      rw [run_append]
      refine sound.toFollows.attended_advance ?_ ih index
      intro other call here
      obtain ⟨errand, -, recites⟩ := recites_run store errands before here
      exact ⟨_, recites⟩

/-- What is known of traffic at any time: how far all calls have come, and who waits for what. -/
structure Regular (traffic : Traffic) (journeys : List Journey) : Prop
    extends traffic.Follows journeys where
  attended : traffic.Attended
  recites : ∀ (index : Nat) (call : TransferCall), traffic.calls[index]? = some call ->
    ∃ errand : Errand, call.Recites (transferScript errand.request errand.caller)

theorem regular_run
    {store : Store}
    (quiet : store.Quiet)
    (errands : List Errand)
    (schedule : List Nat) :
    ∃ journeys, ((start store errands).run schedule).Regular journeys := by
  obtain ⟨journeys, sound⟩ := (sound_start quiet errands).run schedule
  refine ⟨journeys, sound.toFollows, attended_run quiet errands schedule, ?_⟩
  intro index call here
  obtain ⟨errand, -, recites⟩ := recites_run store errands schedule here
  exact ⟨errand, recites⟩

namespace Regular

variable {traffic : Traffic} {journeys : List Journey}

/-- Who has a transaction open is not over yet. -/
theorem outcome?_of_current
    (regular : traffic.Regular journeys)
    {index : Nat}
    {call : TransferCall}
    {id : TransactionId}
    (here : traffic.calls[index]? = some call)
    (own : call.current = some id) :
    call.outcome? = none := by
  cases known : call.outcome? with
  | none => rfl
  | some outcome =>
      obtain ⟨journey, -, tracks⟩ := regular.journey_of_call here
      have ended : journey.progress = .ended outcome := tracks.ended_of_outcome? known
      have outside := tracks.current_outside (by rw [ended]; rfl)
      rw [own] at outside
      cases outside

end Regular

end Traffic
end Giro
