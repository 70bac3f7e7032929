import Giro.Proofs.Traffic.Atomicity

/-!
# One call at a time

A call that finds all locks free and is left alone never waits. It comes to its
end within a fixed number of steps, leaves all locks free, and becomes of it what
is judged of the rows that it found.
-/

namespace Giro
namespace Store

/-- No lock is taken but by one transaction, and nobody waits. -/
def Reserved (store : Store) (current : Option TransactionId) : Prop :=
  ∀ iban, store.lockOf iban = .free ∨
    store.lockOf iban = ⟨true, []⟩ ∧
      ∃ id, current = some id ∧ iban ∈ store.heldBy id

theorem Reserved.of_same
    {before after : Store}
    {current : Option TransactionId}
    (reserved : before.Reserved current)
    (locks : ∀ iban, after.lockOf iban = before.lockOf iban)
    (held : ∀ id, after.heldBy id = before.heldBy id) :
    after.Reserved current := by
  intro iban
  rw [locks]
  apply (reserved iban).imp_right
  rintro ⟨taken, id, own, holds⟩
  exact ⟨taken, id, own, (held id).symm ▸ holds⟩

theorem reserved_none_iff (store : Store) :
    store.Reserved none ↔ ∀ iban, store.lockOf iban = .free := by
  constructor
  · intro reserved iban
    apply (reserved iban).resolve_right
    rintro ⟨-, id, own, -⟩
    cases own
  · exact fun free iban => Or.inl (free iban)

/-- Passing on locks that nobody waits for frees them. -/
theorem lockOf_foldl_passOn
    {ibans : List String}
    {store : Store}
    (calm : ∀ iban, store.lockOf iban = .free ∨
      store.lockOf iban = ⟨true, []⟩ ∧ iban ∈ ibans) :
    ∀ iban, (ibans.foldl passOn store).lockOf iban = .free := by
  induction ibans generalizing store with
  | nil =>
      intro iban
      exact (calm iban).resolve_right (fun taken => List.not_mem_nil taken.2)
  | cons first rest ih =>
      apply ih
      intro iban
      have nobody : (store.lockOf first).waiting = [] := by
        rcases calm first with free | ⟨taken, -⟩
        · rw [free]
          rfl
        · rw [taken]
      have freed : store.passOn first =
          store.relock first .free := by
        simp [passOn_eq, nobody]
      rw [freed, lockOf_relock]
      by_cases same : first = iban
      · rw [if_pos same]
        exact Or.inl rfl
      · rw [if_neg same]
        apply (calm iban).imp_right
        rintro ⟨taken, member⟩
        exact ⟨taken, (List.mem_cons.mp member).resolve_left (Ne.symm same)⟩

theorem Reserved.close
    {store : Store}
    {id : TransactionId}
    (reserved : store.Reserved (some id)) :
    (store.close id).Reserved none := by
  rw [reserved_none_iff, close_eq]
  apply lockOf_foldl_passOn
  intro iban
  apply (reserved iban).imp_right
  rintro ⟨taken, own, equal, holds⟩
  cases equal
  exact ⟨taken, holds⟩

/-- A question within a transaction that has the locks to itself. -/
theorem Reserved.effect
    {store after : Store}
    {id : TransactionId}
    {transaction : Transaction}
    {ask : LedgerAsk}
    {later : Option TransactionId}
    (reserved : store.Reserved (some id))
    (here : store.transactions.get? id = some transaction)
    (begun : ask ≠ .begin)
    (effect : Effect store id ask after later) :
    after.Reserved later := by
  cases effect with
  | begins => exact absurd rfl begun
  | queues iban waiting taken unheld =>
      rcases reserved iban with free | ⟨-, own, equal, holds⟩
      · rw [free] at taken
        cases taken
      · cases equal
        rw [← holds_iff, unheld] at holds
        cases holds
  | grants iban free =>
      have own : iban ∈ (store.hand id iban []).heldBy id := by
        have after : (store.hand id iban []).transactions.get? id =
            some (transaction.withLock iban) := by
          simp [get?_hand, here]
        simp [heldBy_of_get? after]
      intro row
      rw [lockOf_hand]
      by_cases same : iban = row
      · rw [if_pos same]
        exact Or.inr ⟨rfl, id, rfl, same ▸ own⟩
      · rw [if_neg same]
        apply (reserved row).imp_right
        rintro ⟨taken, other, equal, held⟩
        refine ⟨taken, other, equal, ?_⟩
        rcases heldBy_hand store id other iban [] with unchanged | ⟨-, more⟩
        · rw [unchanged]
          exact held
        · rw [more]
          exact List.mem_append_left _ held
  | stages ask next change same =>
      exact reserved.of_same (fun _ => rfl)
        (fun other => heldBy_update (store.renumber next) id other same)
  | keeps ask next => exact reserved
  | ends ask tables =>
      have still : (store.retable tables).Reserved (some id) := reserved
      exact still.close

/-- Whoever has the locks to itself keeps them to itself. -/
theorem Reserved.serve
    {store : Store}
    {current : Option TransactionId}
    {ask : LedgerAsk}
    (reserved : store.Reserved current)
    (opened : ∀ id, current = some id ->
      ∃ transaction, store.transactions.get? id = some transaction)
    (once : ask = .begin -> current = none) :
    (store.serve current ask).store.Reserved (store.serve current ask).current := by
  cases current with
  | none =>
      rcases store.serve_none ask with ⟨-, begun, current⟩ | ⟨idle, current⟩
      · rw [begun, current]
        exact fun iban => Or.inl ((store.reserved_none_iff.mp reserved) iban)
      · rw [idle, current]
        exact reserved
  | some id =>
      obtain ⟨transaction, here⟩ := opened id rfl
      refine reserved.effect here ?_ (effect_serve store id ask)
      intro begun
      cases once begun

end Store

namespace Progress

variable {errand : Errand}

/-- A transaction is begun only where none is open. -/
theorem outside_of_script_begin
    {progress : Progress errand}
    {next : LedgerAsk.begin.Answer -> TransferScript (Except Failure Transfer)}
    (begins : progress.script = .ask (.ledger .begin) next) :
    progress.inside = false := by
  cases progress with
  | failing failure => cases failure <;> cases begins
  | requested => rfl
  | ended outcome => rfl
  | _ => cases begins

/-- No more steps than these are left for a call that never waits. -/
def remaining : Progress errand -> Nat
  | requested => 15
  | lockingFirst => 14
  | lockingSecond _ _ => 13
  | clocking _ => 12
  | consulting _ => 11
  | savingLimit _ => 10
  | savingSender _ => 9
  | savingReceiver _ => 8
  | identifying _ => 7
  | referencing _ => 6
  | recording _ => 5
  | committing _ _ _ => 4
  | noting _ _ => 3
  | auditing _ _ _ => 2
  | dispatching _ _ => 1
  | failing _ => 1
  | ended _ => 0

theorem remaining_next
    {before after : Tables}
    {progress later : Progress errand}
    (next : Next errand before progress later after) :
    later.remaining < progress.remaining := by
  cases next <;> simp [remaining]

end Progress

theorem TransferCall.reserved_advance
    {store : Store}
    {call : TransferCall}
    {current : Option TransactionId}
    {script : TransferScript (Except Failure Transfer)}
    (stands : call.standing = .active current script)
    (reserved : store.Reserved current)
    (opened : ∀ id, current = some id ->
      ∃ transaction, store.transactions.get? id = some transaction)
    (once : ∀ next, script = .ask (.ledger .begin) next -> current = none) :
    (call.advance store).2.Reserved (call.advance store).1.current := by
  have own : call.current = current := by simp [TransferCall.current, stands]
  cases script with
  | done outcome =>
      rw [advance_done stands, own]
      exact reserved
  | ask ask next =>
      cases ask with
      | outside ask =>
          rw [call.advance_outside store stands]
          exact reserved
      | ledger ask =>
          have served := Store.Reserved.serve reserved opened
            (fun begun : ask = .begin => by subst begun; exact once next rfl)
          obtain ⟨after, later⟩ := call.receive_served ask next (store.serve current ask)
          rw [advance_ledger stands, after, later]
          exact served

namespace Progress

variable {errand : Errand} {store : Store} {call : TransferCall}

/-- A call that has the locks to itself does not wait. -/
structure Alone (progress : Progress errand) (store : Store) (call : TransferCall) : Prop
    extends progress.Tracks store call where
  active : ∃ current, call.standing = .active current progress.script
  reserved : store.Reserved call.current

/-- Left alone, a call goes on until it is over. -/
theorem Alone.advance
    {progress : Progress errand}
    (keyed : store.tables.Keyed)
    (alone : progress.Alone store call) :
    (∃ outcome, progress = .ended outcome) ∧ call.advance store = (call, store) ∨
      ∃ later, Next errand store.tables progress later (call.advance store).2.tables ∧
        later.Alone (call.advance store).2 (call.advance store).1 := by
  obtain ⟨current, stands⟩ := alone.active
  have own : call.current = current := by simp [TransferCall.current, stands]
  have reserved := alone.reserved
  have seated := alone.seated
  rw [own] at reserved seated
  rcases alone.toTracks.active keyed stands with
    ⟨later, next, tracked, active⟩ | ⟨-, -, id, iban, waits, taken, unheld⟩ | idle
  · refine Or.inr ⟨later, next, tracked, active, ?_⟩
    refine TransferCall.reserved_advance stands reserved ?_ ?_
    · intro id equal
      subst equal
      cases seated with
      | inside _ transaction _ here _ => exact ⟨transaction, here⟩
    · intro next begins
      rw [← own]
      exact alone.toTracks.current_outside (outside_of_script_begin begins)
  · rcases reserved iban with free | ⟨-, other, equal, holds⟩
    · rw [free] at taken
      cases taken
    · rw [own, equal] at waits
      cases waits
      exact absurd holds unheld
  · exact Or.inl idle

end Progress

/-- On a store without locks, a call that has not done anything yet has them to itself. -/
theorem Errand.alone_outset
    (errand : Errand)
    {store : Store}
    (free : ∀ iban, store.lockOf iban = .free) :
    errand.outset.Alone store errand.call where
  toTracks := errand.tracks_outset store
  active := by
    have script := (errand.tracks_outset store).stands.script_of_active
    exact ⟨none, congrArg (Standing.active none) script⟩
  reserved := store.reserved_none_iff.mpr free

/-- A call that has not done anything yet takes at most all of the steps. -/
theorem Errand.remaining_outset (errand : Errand) : errand.outset.remaining <= 15 := by
  unfold outset
  split
  · exact Nat.zero_le 15
  · exact Nat.le_refl 15

namespace Traffic

theorem calls_advance_of_ne
    {traffic : Traffic}
    {index other : Nat}
    (different : index ≠ other) :
    (traffic.advance index).calls[other]? = traffic.calls[other]? := by
  unfold advance
  split
  · rfl
  · exact List.getElem?_set_ne different

theorem calls_advance_self
    {traffic : Traffic}
    {index : Nat}
    {call : TransferCall}
    (here : traffic.calls[index]? = some call) :
    (traffic.advance index).calls[index]? = some (call.advance traffic.store).1 := by
  rw [advance_of_call here]
  exact getElem?_set_here here _

/-- A call that is over stays as it is, whoever takes a step. -/
theorem calls_run_of_done
    {traffic : Traffic}
    {index : Nat}
    {call : TransferCall}
    {current : Option TransactionId}
    {outcome : Except Failure Transfer}
    (here : traffic.calls[index]? = some call)
    (stands : call.standing = .active current (.done outcome))
    (schedule : List Nat) :
    (traffic.run schedule).calls[index]? = some call := by
  induction schedule generalizing traffic with
  | nil => exact here
  | cons turn rest ih =>
      refine ih ?_
      by_cases own : turn = index
      · subst own
        rw [calls_advance_self here, TransferCall.advance_done stands]
      · rw [calls_advance_of_ne own, here]

/-- A turn of a call that is left alone takes it on, unless it is over. -/
theorem Sound.advance_alone
    {traffic : Traffic}
    {journeys : List Journey}
    {index : Nat}
    {errand : Errand}
    {progress : Progress errand}
    {call : TransferCall}
    (sound : traffic.Sound journeys)
    (here : journeys[index]? = some ⟨errand, progress⟩)
    (there : traffic.calls[index]? = some call)
    (alone : progress.Alone traffic.store call) :
    (∃ outcome, progress = .ended outcome) ∧ traffic.advance index = traffic ∨
      ∃ later call,
        Next errand traffic.tables progress later (traffic.advance index).tables ∧
          (traffic.advance index).Sound (journeys.set index ⟨errand, later⟩) ∧
          (traffic.advance index).calls[index]? = some call ∧
          later.Alone (traffic.advance index).store call := by
  rcases alone.advance sound.keyed with ⟨ended, idle⟩ | ⟨later, next, still⟩
  · refine .inl ⟨ended, ?_⟩
    rw [advance_of_call there, idle, set_of_getElem? there]
  · have moves : Progress.Moves errand traffic.tables progress later
        (traffic.advance index).tables := by
      rw [advance_of_call there]
      exact .goes next
    refine .inr ⟨later, (call.advance traffic.store).1, ?_, ?_, calls_advance_self there, ?_⟩
    · rw [advance_of_call there]
      exact next
    · exact sound.takeOn here moves
        (sound.toFollows.takeOn there (.goes next) still.toTracks)
    · rw [advance_of_call there]
      exact still

/--
Given as many turns as it may need, a call that is left alone comes to its end;
the locks are free again, and no other call has moved.
-/
theorem Sound.run_alone
    {traffic : Traffic}
    {journeys : List Journey}
    {index : Nat}
    {errand : Errand}
    {progress : Progress errand}
    {call : TransferCall}
    (turns : Nat)
    (sound : traffic.Sound journeys)
    (here : journeys[index]? = some ⟨errand, progress⟩)
    (there : traffic.calls[index]? = some call)
    (alone : progress.Alone traffic.store call)
    (enough : progress.remaining <= turns) :
    ∃ outcome,
      Ruling errand traffic.tables progress.verdict? (some outcome)
          (traffic.run (List.replicate turns index)).tables ∧
        (traffic.run (List.replicate turns index)).Sound
          (journeys.set index ⟨errand, .ended outcome⟩) ∧
        (∀ iban, (traffic.run (List.replicate turns index)).store.lockOf iban = .free) ∧
        ∀ other, index ≠ other ->
          (traffic.run (List.replicate turns index)).calls[other]? = traffic.calls[other]? := by
  induction turns generalizing traffic journeys progress call with
  | zero =>
      cases progress with
      | ended outcome =>
          refine ⟨outcome, .pending _, ?_, ?_, fun _ _ => rfl⟩
          · rw [set_of_getElem? here]
            exact sound
          · have outside := alone.toTracks.current_outside rfl
            have reserved := alone.reserved
            rw [outside] at reserved
            exact (Store.reserved_none_iff _).mp reserved
      | _ => cases enough
  | succ turns ih =>
      rw [List.replicate_succ, run_cons]
      rcases sound.advance_alone here there alone with
        ⟨⟨outcome, ended⟩, same⟩ | ⟨later, call, next, moved, found, still⟩
      · -- A call that is over stays as it is.
        subst ended
        rw [same]
        exact ih sound here there alone (Nat.zero_le turns)
      · have fewer := Progress.remaining_next next
        have distinct := Progress.distinct_of_next alone.distinct next
        have ruling := Progress.ruling_of_next distinct (sound.current index _ here) next
        have hereLater := getElem?_set_here here ⟨errand, later⟩
        obtain ⟨outcome, rules, after, free, others⟩ :=
          ih moved hereLater found still (by omega)
        refine ⟨outcome, ruling.trans rules, ?_, free, ?_⟩
        · rw [List.set_set] at after
          exact after
        · intro other different
          rw [others other different, calls_advance_of_ne different]

/-- However many turns a call is given that is left alone, it never waits. -/
theorem Sound.alone_run
    {traffic : Traffic}
    {journeys : List Journey}
    {index : Nat}
    {errand : Errand}
    {progress : Progress errand}
    {call : TransferCall}
    (turns : Nat)
    (sound : traffic.Sound journeys)
    (here : journeys[index]? = some ⟨errand, progress⟩)
    (there : traffic.calls[index]? = some call)
    (alone : progress.Alone traffic.store call) :
    ∃ (later : Progress errand) (call : TransferCall),
      (traffic.run (List.replicate turns index)).calls[index]? = some call ∧
        later.Alone (traffic.run (List.replicate turns index)).store call := by
  induction turns generalizing traffic journeys progress call with
  | zero => exact ⟨progress, call, there, alone⟩
  | succ turns ih =>
      rw [List.replicate_succ, run_cons]
      rcases sound.advance_alone here there alone with
        ⟨-, same⟩ | ⟨later, call, -, moved, there, still⟩
      · rw [same]
        exact ih sound here there alone
      · exact ih moved (getElem?_set_here here ⟨errand, later⟩) there still

end Traffic
end Giro
