import Giro.Proofs.Traffic.Copies

/-!
# Lost writes

Accounts are administered while calls are on their way. A call that succeeds
writes back both of its accounts as it read them, but for the balances; so what
is written to an account between that reading and the commit is lost, and
nothing else is.
-/

namespace Giro

/-- What may happen next: a step of a call, or a write to accounts. -/
inductive Turn
  | step (index : Nat)
  | administer (write : AdminWrite)

/-- The write of a turn. -/
def Turn.write? : Turn -> Option AdminWrite
  | step _ => none
  | administer write => some write

/-- Whether a call has read an account in the transaction that it has open. -/
def TransferCall.copies (call : TransferCall) (iban : String) : Bool :=
  call.current.isSome && call.rows.any (fun row => row.iban == iban)

namespace Traffic

/-- The traffic after a write to accounts. -/
def administer (traffic : Traffic) (write : AdminWrite) : Traffic :=
  { traffic with store := traffic.store.administer write.apply }

/-- The traffic after a turn. -/
def take (traffic : Traffic) : Turn -> Traffic
  | .step index => traffic.advance index
  | .administer write => traffic.administer write

/-- The traffic after some turns. -/
def play (traffic : Traffic) (turns : List Turn) : Traffic :=
  turns.foldl take traffic

/-- Whether a call has succeeded. -/
def succeeds (traffic : Traffic) (index : Nat) : Bool :=
  (traffic.outcome? index).any Except.isOk

/-- Whether some call has a copy of an account, and is going to write it back. -/
def copied (traffic final : Traffic) (iban : String) : Bool :=
  (List.range traffic.calls.length).any (fun index =>
    (traffic.calls[index]?).any (fun call => call.copies iban) && final.succeeds index)

/-- The writes of some turns that no call writes an old copy of an account over. -/
def survivors (final : Traffic) (iban : String) : Traffic -> List Turn -> List AdminWrite
  | _, [] => []
  | traffic, .step index :: rest => survivors final iban (traffic.advance index) rest
  | traffic, .administer write :: rest =>
      if traffic.copied final iban then survivors final iban (traffic.administer write) rest
      else write :: survivors final iban (traffic.administer write) rest

@[simp] theorem play_cons (traffic : Traffic) (turn : Turn) (turns : List Turn) :
    traffic.play (turn :: turns) = (traffic.take turn).play turns := rfl

/-! ## Runs -/

variable {traffic : Traffic} {journeys : List Journey}

/-- A write to accounts leaves all calls where they are. -/
theorem Follows.administer
    (follows : traffic.Follows journeys)
    (write : AdminWrite) :
    (traffic.administer write).Follows journeys where
  orderly := follows.orderly.retable _
  keyed := follows.keyed.administer write
  count := follows.count
  tracks := by
    intro index journey call here there
    have spares : Store.Spares none traffic.store (traffic.administer write).store :=
      .of_transactions rfl
    exact (follows.tracks index journey call here there).spared spares
      (fun _ _ impossible => by cases impossible)
  separate := follows.separate

/-- A turn takes calls on, and what was decided about them stays decided. -/
theorem Follows.take
    (follows : traffic.Follows journeys)
    (turn : Turn) :
    ∃ later, (traffic.take turn).Follows later ∧
      ∀ (index : Nat) (journey : Journey) (outcome : Except Failure Transfer),
        journeys[index]? = some journey -> journey.verdict? = some outcome ->
          ∃ next, later[index]? = some next ∧ next.verdict? = some outcome := by
  cases turn with
  | administer write =>
      exact ⟨journeys, follows.administer write,
        fun index journey outcome here decided => ⟨journey, here, decided⟩⟩
  | step turn =>
      cases here : journeys[turn]? with
      | none =>
          refine ⟨journeys, ?_, fun index journey outcome there decided =>
            ⟨journey, there, decided⟩⟩
          rwa [Traffic.take, follows.advance_of_none here]
      | some journey =>
          obtain ⟨progress, moves, after⟩ := follows.advance here
          refine ⟨_, after, ?_⟩
          intro index journey' outcome there decided
          rw [List.getElem?_set]
          by_cases same : turn = index
          · subst same
            obtain ⟨within, -⟩ := List.getElem?_eq_some_iff.mp here
            rw [here] at there
            cases there
            rw [if_pos rfl, if_pos within]
            exact ⟨_, rfl, moves.verdict decided⟩
          · rw [if_neg same]
            exact ⟨journey', there, decided⟩

/-- What becomes of a call is what was decided about it on its way. -/
theorem Follows.outcome?_of_verdict
    {index : Nat}
    {journey : Journey}
    {outcome final : Except Failure Transfer}
    (follows : traffic.Follows journeys)
    (here : journeys[index]? = some journey)
    (decided : journey.verdict? = some outcome)
    (turns : List Turn)
    (known : (traffic.play turns).outcome? index = some final) :
    final = outcome := by
  induction turns generalizing traffic journeys journey with
  | nil =>
      obtain ⟨errand, ended⟩ := follows.ended_of_outcome? known
      rw [here] at ended
      cases ended
      exact Option.some.inj decided
  | cons turn rest ih =>
      obtain ⟨later, after, lasts⟩ := follows.take turn
      obtain ⟨next, there, still⟩ := lasts index journey outcome here decided
      exact ih after there still known

theorem length_take (traffic : Traffic) (turn : Turn) :
    (traffic.take turn).calls.length = traffic.calls.length := by
  cases turn with
  | administer write => rfl
  | step index => exact traffic.length_advance index

theorem length_play (traffic : Traffic) (turns : List Turn) :
    (traffic.play turns).calls.length = traffic.calls.length := by
  induction turns generalizing traffic with
  | nil => rfl
  | cons turn rest ih => rw [play_cons, ih, length_take]

/-- A call succeeds in the end if that is decided about it. -/
theorem Follows.succeeds_of_verdict
    {index : Nat}
    {journey : Journey}
    {outcome : Except Failure Transfer}
    (follows : traffic.Follows journeys)
    (here : journeys[index]? = some journey)
    (decided : journey.verdict? = some outcome)
    (turns : List Turn)
    (finished : (traffic.play turns).Finished) :
    (traffic.play turns).succeeds index = outcome.isOk := by
  have within : index < (traffic.play turns).calls.length := by
    obtain ⟨within, -⟩ := List.getElem?_eq_some_iff.mp here
    rwa [length_play, ← follows.count]
  obtain ⟨final, known⟩ := Option.isSome_iff_exists.mp (finished index within)
  rw [succeeds, known, follows.outcome?_of_verdict here decided turns known]
  rfl

/-- A call has copies of those rows that it may still write, unless it is failing. -/
theorem copies_iff
    {errand : Errand}
    {progress : Progress errand}
    {call : TransferCall}
    (tracks : progress.Tracks traffic.store call)
    (unfailed : ∀ failure, progress.verdict? ≠ some (.error failure))
    (iban : String) :
    call.copies iban = true ↔ ∃ row ∈ progress.rows, row.iban = iban := by
  have proceeding : ∀ failure, progress ≠ .failing failure := by
    rintro failure rfl
    exact unfailed failure rfl
  rw [TransferCall.copies, Bool.and_eq_true, List.any_eq_true]
  constructor
  · rintro ⟨running, row, member, named⟩
    have inside : progress.inside = true := by
      by_contra outside
      rw [tracks.current_outside (Bool.eq_false_iff.mpr outside)] at running
      cases running
    rw [tracks.rows inside proceeding] at member
    exact ⟨row, member, beq_iff_eq.mp named⟩
  · rintro ⟨row, member, named⟩
    have inside := Progress.inside_of_mem_rows member
    obtain ⟨id, transaction, own, -⟩ := tracks.current_inside inside
    refine ⟨by rw [own]; rfl, row, ?_, beq_iff_eq.mpr named⟩
    rw [tracks.rows inside proceeding]
    exact member

/-- Whether there is a copy that is going to be written back can be told from the calls. -/
theorem Follows.copied_iff
    (follows : traffic.Follows journeys)
    (final : Traffic)
    (iban : String)
    (decided : ∀ (index : Nat) (journey : Journey) (outcome : Except Failure Transfer),
      journeys[index]? = some journey -> journey.verdict? = some outcome ->
        final.succeeds index = outcome.isOk) :
    traffic.copied final iban = true ↔ ∃ row, Copy journeys final.succeeds iban row := by
  have unfailed : ∀ (index : Nat) (journey : Journey), journeys[index]? = some journey ->
      final.succeeds index = true ->
      ∀ failure, journey.progress.verdict? ≠ some (.error failure) := by
    intro index journey here succeeded failure verdict
    rw [decided index journey _ here verdict] at succeeded
    cases succeeded
  simp only [copied, List.any_eq_true, List.mem_range, Bool.and_eq_true, Option.any_eq_true]
  constructor
  · rintro ⟨index, -, ⟨call, there, copies⟩, succeeded⟩
    obtain ⟨journey, here, tracks⟩ := follows.journey_of_call there
    obtain ⟨row, member, named⟩ :=
      (copies_iff tracks (unfailed index journey here succeeded) iban).mp copies
    exact ⟨row, index, journey, here, succeeded, member, named⟩
  · rintro ⟨row, index, journey, here, succeeded, member, named⟩
    obtain ⟨call, there, tracks⟩ := follows.call_of_journey here
    obtain ⟨within, -⟩ := List.getElem?_eq_some_iff.mp there
    have copies := (copies_iff tracks (unfailed index journey here succeeded) iban).mpr
      ⟨row, member, named⟩
    exact ⟨index, within, ⟨call, there, copies⟩, succeeded⟩

/-- Once all calls are over there is nothing left to be written back. -/
theorem Follows.not_copy_of_finished
    (follows : traffic.Follows journeys)
    (finished : traffic.Finished)
    (succeeds : Nat -> Bool)
    (iban : String)
    (row : Account) :
    ¬ Copy journeys succeeds iban row := by
  rintro ⟨index, journey, here, -, member, -⟩
  obtain ⟨within, -⟩ := List.getElem?_eq_some_iff.mp here
  rw [follows.count] at within
  obtain ⟨outcome, known⟩ := Option.isSome_iff_exists.mp (finished index within)
  obtain ⟨errand, ended⟩ := follows.ended_of_outcome? known
  rw [here] at ended
  cases ended
  cases member

/-- A step of a call leaves what is foretold as it is. -/
theorem Follows.foretells_advance
    {shadow : Tables}
    {iban : String}
    (follows : traffic.Follows journeys)
    (index : Nat)
    (turns : List Turn)
    (finished : ((traffic.advance index).play turns).Finished)
    (foretells : Foretells shadow traffic.tables journeys
      ((traffic.advance index).play turns).succeeds iban) :
    ∃ later, (traffic.advance index).Follows later ∧
      Foretells shadow (traffic.advance index).tables later
        ((traffic.advance index).play turns).succeeds iban := by
  cases here : journeys[index]? with
  | none =>
      rw [follows.advance_of_none here] at foretells ⊢
      exact ⟨journeys, follows, foretells⟩
  | some journey =>
      obtain ⟨progress, moves, after⟩ := follows.advance here
      obtain ⟨call, -, tracks⟩ := follows.call_of_journey here
      have hereAfter := getElem?_set_here here ⟨journey.errand, progress⟩
      have handling := moves.handling tracks.distinct
      refine ⟨_, after, foretells.advance follows here handling after ?_⟩
      exact fun outcome verdict =>
        after.succeeds_of_verdict hereAfter verdict turns finished

/-- What is foretold of an account comes true, but for the writes that are yet to come. -/
theorem Follows.profileOf_play
    {shadow : Tables}
    {iban : String}
    (turns : List Turn)
    (follows : traffic.Follows journeys)
    (finished : (traffic.play turns).Finished)
    (foretells : Foretells shadow traffic.tables journeys
      (traffic.play turns).succeeds iban) :
    (traffic.play turns).tables.profileOf iban =
      (AdminWrite.applyAll (survivors (traffic.play turns) iban traffic turns)
        shadow).profileOf iban := by
  induction turns generalizing traffic journeys shadow with
  | nil =>
      exact (foretells.settled
        (follows.not_copy_of_finished finished _ iban)).symm
  | cons turn rest ih =>
      cases turn with
      | step index =>
          obtain ⟨later, after, still⟩ := follows.foretells_advance index rest finished foretells
          exact ih after finished still
      | administer write =>
          have decided : ∀ (index : Nat) (journey : Journey)
              (outcome : Except Failure Transfer), journeys[index]? = some journey ->
              journey.verdict? = some outcome ->
              (traffic.play (.administer write :: rest)).succeeds index = outcome.isOk :=
            fun index journey outcome here verdict =>
              follows.succeeds_of_verdict here verdict _ finished
          have copied := follows.copied_iff _ iban decided
          have after := follows.administer write
          obtain ⟨lost, kept⟩ := foretells.administer write
          rw [survivors]
          split
          · rename_i copy
            exact ih after finished (lost (copied.mp copy))
          · rename_i uncopied
            exact ih after finished (kept (fun copy => uncopied (copied.mpr copy)))

/-- Before anything has happened, what is foretold is what is committed. -/
theorem foretells_start
    (store : Store)
    (errands : List Errand)
    (succeeds : Nat -> Bool)
    (iban : String) :
    Foretells store.tables store.tables (errands.map Journey.outset) succeeds iban where
  copied := by
    rintro row ⟨index, journey, here, -, member, -⟩
    simp only [List.getElem?_map, Option.map_eq_some_iff] at here
    obtain ⟨errand, -, rfl⟩ := here
    simp only [Journey.outset, Errand.outset] at member
    split at member <;> cases member
  settled := fun _ => rfl

/--
Once all calls are over, the profiles are those that the surviving writes make
of the opening ones; so every account is as it was last administered just when
it makes no difference which writes survive.
-/
theorem profiles_survive_iff
    (store : Store)
    (errands : List Errand)
    (turns : List Turn)
    (quiet : store.Quiet)
    (finished : ((start store errands).play turns).Finished) :
    let final := (start store errands).play turns
    let surviving := fun iban =>
      AdminWrite.applyAll (survivors final iban (start store errands) turns) store.tables
    let intended := AdminWrite.applyAll (turns.filterMap Turn.write?) store.tables
    (∀ iban, final.tables.profileOf iban = (surviving iban).profileOf iban) ∧
      ((∀ iban, final.tables.profileOf iban = intended.profileOf iban) ↔
        ∀ iban, (surviving iban).profileOf iban = intended.profileOf iban) := by
  intro final surviving intended
  have survive : ∀ iban, final.tables.profileOf iban = (surviving iban).profileOf iban := by
    intro iban
    exact (follows_start quiet.orderly quiet.keyed errands).profileOf_play turns finished
      (foretells_start store errands _ iban)
  refine ⟨survive, forall_congr' fun iban => ?_⟩
  rw [survive iban]

/-- No write is lost that is never made while there is a copy to be written back. -/
theorem survivors_of_uncopied
    (final traffic : Traffic)
    (iban : String)
    (turns : List Turn)
    (uncopied : ∀ earlier write later, turns = earlier ++ .administer write :: later ->
      (traffic.play earlier).copied final iban = false) :
    survivors final iban traffic turns = turns.filterMap Turn.write? := by
  induction turns generalizing traffic with
  | nil => rfl
  | cons turn rest ih =>
      have still : survivors final iban (traffic.take turn) rest =
          rest.filterMap Turn.write? := by
        apply ih _
        rintro earlier write later rfl
        exact uncopied (turn :: earlier) write later rfl
      cases turn with
      | step index => exact still
      | administer write =>
          have first := uncopied [] write rest rfl
          rw [play, List.foldl_nil] at first
          simpa [survivors, first, Turn.write?, take] using still

/-- An account is as it was last administered if that never was while it was being copied. -/
theorem profileOf_play_of_uncopied
    (store : Store)
    (errands : List Errand)
    (turns : List Turn)
    (iban : String)
    (quiet : store.Quiet)
    (finished : ((start store errands).play turns).Finished)
    (uncopied : ∀ earlier write later, turns = earlier ++ .administer write :: later ->
      ((start store errands).play earlier).copied ((start store errands).play turns) iban =
        false) :
    ((start store errands).play turns).tables.profileOf iban =
      (AdminWrite.applyAll (turns.filterMap Turn.write?) store.tables).profileOf iban := by
  rw [← survivors_of_uncopied _ _ iban turns uncopied]
  exact (follows_start quiet.orderly quiet.keyed errands).profileOf_play turns finished
    (foretells_start store errands _ iban)

end Traffic

namespace Sample

/-- A user is locked out while a transfer from that user's account has read the account. -/
def lockout : List Turn :=
  [.step 0, .step 0, .administer (.setUserActive 1 false)] ++ List.replicate 13 (.step 0)

end Sample

namespace Traffic

theorem profiles_survive_iff_sample :
    let initial := start (.opened Sample.accounts) [Sample.errand "A" "B" 1 7 "R7"]
    let final := initial.play Sample.lockout
    let surviving := fun iban =>
      AdminWrite.applyAll (survivors final iban initial Sample.lockout) initial.tables
    let intended :=
      AdminWrite.applyAll (Sample.lockout.filterMap Turn.write?) initial.tables
    (∀ iban, final.tables.profileOf iban = (surviving iban).profileOf iban) ∧
      ((∀ iban, final.tables.profileOf iban = intended.profileOf iban) ↔
        ∀ iban, (surviving iban).profileOf iban = intended.profileOf iban) :=
  profiles_survive_iff (.opened Sample.accounts) [Sample.errand "A" "B" 1 7 "R7"]
    Sample.lockout (Store.quiet_opened Sample.accounts) (by decide)

/-- The user is active again with the commit, although nobody has written that. -/
theorem lockout_is_lost :
    let initial := start (.opened Sample.accounts) [Sample.errand "A" "B" 1 7 "R7"]
    let final := initial.play Sample.lockout
    let intended :=
      AdminWrite.applyAll (Sample.lockout.filterMap Turn.write?) initial.tables
    final.Finished ∧ final.succeeds 0 = true ∧
      final.tables.profileOf "A" ≠ intended.profileOf "A" ∧
      (final.tables.findAccount "A").map (fun row => row.owner.isActive) = some true ∧
      (intended.findAccount "A").map (fun row => row.owner.isActive) = some false := by
  decide

end Traffic
end Giro
