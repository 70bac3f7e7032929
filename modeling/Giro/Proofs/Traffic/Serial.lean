import Giro.Proofs.Traffic.Solo

/-!
# Serializability

Calls that run side by side do what the same calls do one after the other. The
order is that of the steps at which it is decided what becomes of them, so that
transfers are in the order of their commits. A call that gave up waiting for a
lock has no place in it: it changed nothing, but left alone it might have gone on.
-/

namespace Giro

/-- An outcome without the number of the transfer. -/
def recorded (outcome : Except Failure Transfer) : Except Failure TransferDraft :=
  outcome.map Transfer.toTransferDraft

/-- A call gave up waiting for a lock. -/
def busy : Except Failure Transfer := .error (.refused .accountBusy)

namespace Tables

/-- The same rows, but for the numbers of transfers. -/
structure Alike (left right : Tables) : Prop where
  accounts : left.accounts = right.accounts
  limits : left.limits = right.limits
  transfers : left.transfers.map Transfer.toTransferDraft =
    right.transfers.map Transfer.toTransferDraft

theorem alike_refl (tables : Tables) : tables.Alike tables := ⟨rfl, rfl, rfl⟩

theorem referenceTaken_eq (tables : Tables) (transfer : Transfer) :
    tables.referenceTaken transfer =
      (tables.transfers.map Transfer.toTransferDraft).any
        (fun draft => draft.reference == transfer.reference ||
          draft.externalId = transfer.externalId) := by
  rw [referenceTaken, List.any_map]
  rfl

/-- A judgement does not depend on the numbers of transfers. -/
theorem Alike.judge
    {left right : Tables}
    (alike : left.Alike right)
    (errand : Errand) :
    left.judge errand = right.judge errand := by
  have references : ∀ transfer, left.referenceTaken transfer = right.referenceTaken transfer := by
    intro transfer
    rw [referenceTaken_eq, referenceTaken_eq, alike.transfers]
  simp only [Tables.judge, pairFor, findAccount, dailyLimit, alike.accounts, alike.limits,
    references]

theorem Alike.book
    {left right : Tables}
    (alike : left.Alike right)
    (posting : Posting)
    {first second : Transfer}
    (same : first.toTransferDraft = second.toTransferDraft) :
    (left.book posting first).Alike (right.book posting second) where
  accounts := by rw [Tables.book, Tables.book, alike.accounts]
  limits := by rw [Tables.book, Tables.book, alike.limits]
  transfers := by simp [Tables.book, alike.transfers, same]

/-- What becomes of a transfer is the same on rows that are alike. -/
theorem Alike.settles
    {left right leftAfter rightAfter : Tables}
    {errand : Errand}
    {first second : Except Failure Transfer}
    (alike : left.Alike right)
    (leftSettles : left.Settles errand first leftAfter)
    (rightSettles : right.Settles errand second rightAfter) :
    recorded second = recorded first ∧ leftAfter.Alike rightAfter := by
  have same := alike.judge errand
  cases leftSettles with
  | fails failure judged =>
      cases rightSettles with
      | fails other judgedToo =>
          rw [judged, judgedToo] at same
          cases same
          exact ⟨rfl, alike⟩
      | succeeds transfer posting judgedToo =>
          rw [judged, judgedToo] at same
          cases same
  | succeeds transfer posting judged =>
      cases rightSettles with
      | fails other judgedToo =>
          rw [judged, judgedToo] at same
          cases same
      | succeeds other otherPosting judgedToo =>
          rw [judged, judgedToo] at same
          obtain ⟨drafts, postings⟩ := Prod.mk.inj (Except.ok.inj same)
          subst postings
          exact ⟨congrArg Except.ok drafts.symm, alike.book posting drafts⟩

end Tables

/-! ## No judgement is that an account is busy -/

theorem TransferCandidate.checkRules_ne_busy (candidate : TransferCandidate) :
    candidate.checkRules ≠ .error .accountBusy := by
  unfold checkRules
  dsimp only
  repeat' split
  all_goals
    intro equal
    cases equal

theorem TransferCandidate.validate_ne_busy (candidate : TransferCandidate) :
    candidate.validate ≠ .error (.refused .accountBusy) := by
  have rules := candidate.checkRules_ne_busy
  unfold validate checkLimit
  split
  · rename_i refusal refused
    intro equal
    cases equal
    exact rules refused
  · repeat' split
    all_goals
      intro equal
      cases equal

theorem Errand.propose_ne_busy
    (errand : Errand)
    (pair : LockedPair)
    (today : Option DailyLimit) :
    errand.propose pair today ≠ .error (.refused .accountBusy) := by
  have rules := (errand.candidate pair today).validate_ne_busy
  unfold propose Posting.post
  split
  · rename_i failure rejected
    intro equal
    cases equal
    exact rules rejected
  · dsimp only
    split
    all_goals
      intro equal
      cases equal

theorem Tables.judge_ne_busy (tables : Tables) (errand : Errand) :
    tables.judge errand ≠ .error (.refused .accountBusy) := by
  unfold judge pairFor Posting.checkBalances
  split
  · exact fun equal => by cases equal
  split
  · rename_i refusal missing
    intro equal
    cases equal
    repeat' split at missing
    all_goals cases missing
  split
  · rename_i failure rejected
    intro equal
    cases equal
    exact errand.propose_ne_busy _ _ rejected
  split
  · rename_i refusal negative
    intro equal
    cases equal
    repeat' split at negative
    all_goals cases negative
  · split
    all_goals
      intro equal
      cases equal

theorem Tables.Settles.ne_busy
    {before after : Tables}
    {errand : Errand}
    {outcome : Except Failure Transfer}
    (settles : before.Settles errand outcome after) :
    outcome ≠ busy := by
  rintro rfl
  cases settles with
  | fails failure judged => exact before.judge_ne_busy errand judged

namespace Traffic

/-! ## Calls one after the other -/

/-- Calls one after the other, with as many turns each as a call takes at most. -/
def turnsOf (order : List Nat) : List Nat :=
  order.flatMap (List.replicate 15)

theorem turnsOf_concat (order : List Nat) (index : Nat) :
    turnsOf (order ++ [index]) = turnsOf order ++ List.replicate 15 index := by
  simp [turnsOf]

/-- What is decided about the call with an index. -/
def ruled (journeys : List Journey) (index : Nat) : Option (Except Failure Transfer) :=
  journeys[index]?.bind Journey.verdict?

theorem ruled_of_getElem?
    {journeys : List Journey}
    {index : Nat}
    {journey : Journey}
    (here : journeys[index]? = some journey) :
    ruled journeys index = journey.verdict? := by
  simp [ruled, here]

theorem ruled_set
    {journeys : List Journey}
    {index : Nat}
    {journey later : Journey}
    (here : journeys[index]? = some journey)
    (other : Nat) :
    ruled (journeys.set index later) other =
      if index = other then later.verdict? else ruled journeys other := by
  obtain ⟨within, -⟩ := List.getElem?_eq_some_iff.mp here
  rw [ruled, List.getElem?_set, if_pos within]
  split <;> rfl

/-- The transfers of the calls in a list that succeeded. -/
def successes (journeys : List Journey) (order : List Nat) : List Transfer :=
  order.filterMap (fun index => (ruled journeys index).bind Except.toOption)

/--
A run side by side and a run one after the other have come equally far: the calls
that were decided about are over in the one as in the other, and the others have
not begun in the serial run. Calls that gave up waiting count as not begun.
-/
structure Replays
    (initial : Tables)
    (traffic : Traffic)
    (journeys : List Journey)
    (serial : Traffic)
    (replayed : List Journey)
    (order : List Nat) : Prop where
  sound : traffic.Sound journeys
  serialSound : serial.Sound replayed
  free : ∀ iban, serial.store.lockOf iban = .free
  alike : traffic.tables.Alike serial.tables
  distinct : order.Nodup
  log : traffic.tables.transfers = initial.transfers ++ successes journeys order
  settled : ∀ index ∈ order, ∃ outcome errand replay,
    ruled journeys index = some outcome ∧ outcome ≠ busy ∧
      replayed[index]? = some ⟨errand, .ended replay⟩ ∧ recorded replay = recorded outcome
  unsettled : ∀ (index : Nat) (journey : Journey),
    journeys[index]? = some journey -> index ∉ order ->
      (journey.verdict? = none ∨ journey.verdict? = some busy) ∧
        replayed[index]? = some (Journey.outset journey.errand) ∧
        serial.calls[index]? = some journey.errand.call

theorem successes_congr
    {before after : List Journey}
    {order : List Nat}
    (same : ∀ index ∈ order, ruled after index = ruled before index) :
    successes after order = successes before order := by
  unfold successes
  apply List.filterMap_congr
  intro index member
  rw [same index member]

namespace Replays

variable {initial : Tables} {traffic serial : Traffic} {journeys replayed : List Journey}
variable {order : List Nat}

/-- A step that decides about nothing, or lets a call give up, needs no replay. -/
theorem keep
    (replays : Replays initial traffic journeys serial replayed order)
    {index : Nat}
    {journey : Journey}
    {later : Progress journey.errand}
    (here : journeys[index]? = some journey)
    (sound : (traffic.advance index).Sound (journeys.set index ⟨journey.errand, later⟩))
    (same : (traffic.advance index).tables = traffic.tables)
    (verdict : later.verdict? = journey.verdict? ∨
      journey.verdict? = none ∧ later.verdict? = some busy) :
    Replays initial (traffic.advance index) (journeys.set index ⟨journey.errand, later⟩)
      serial replayed order := by
  have kept : ∀ other ∈ order,
      ruled (journeys.set index ⟨journey.errand, later⟩) other = ruled journeys other := by
    intro other member
    rw [ruled_set here]
    split
    · rename_i own
      subst own
      rw [ruled_of_getElem? here]
      apply verdict.resolve_right
      rintro ⟨undecided, -⟩
      obtain ⟨outcome, -, -, decided, -⟩ := replays.settled index member
      rw [ruled_of_getElem? here, undecided] at decided
      cases decided
    · rfl
  refine ⟨sound, replays.serialSound, replays.free, ?_, replays.distinct, ?_, ?_, ?_⟩
  · rw [same]
    exact replays.alike
  · rw [same, replays.log, successes_congr kept]
  · intro other member
    rw [kept other member]
    exact replays.settled other member
  · intro other journey' here' absent
    rw [List.getElem?_set] at here'
    by_cases own : index = other
    · rw [if_pos own] at here'
      split at here' <;> cases here'
      subst own
      obtain ⟨undecided, outset, call⟩ := replays.unsettled index journey here absent
      refine ⟨?_, outset, call⟩
      change later.verdict? = none ∨ later.verdict? = some busy
      rcases verdict with equal | ⟨-, gaveUp⟩
      · rw [equal]
        exact undecided
      · exact Or.inr gaveUp
    · rw [if_neg own] at here'
      exact replays.unsettled other journey' here' absent

theorem not_mem_of_undecided
    (replays : Replays initial traffic journeys serial replayed order)
    {index : Nat}
    {journey : Journey}
    (here : journeys[index]? = some journey)
    (undecided : journey.verdict? = none) :
    index ∉ order := by
  intro member
  obtain ⟨before, -, -, known, -⟩ := replays.settled index member
  rw [ruled_of_getElem? here, undecided] at known
  cases known

/-- A call about which nothing is decided yet can be run to its end in the serial run. -/
theorem run_undecided
    (replays : Replays initial traffic journeys serial replayed order)
    {index : Nat}
    {journey : Journey}
    (here : journeys[index]? = some journey)
    (undecided : journey.verdict? = none) :
    ∃ replay,
      serial.tables.Settles journey.errand replay
          (serial.run (List.replicate 15 index)).tables ∧
        (serial.run (List.replicate 15 index)).Sound
          (replayed.set index ⟨journey.errand, .ended replay⟩) ∧
        (∀ iban, (serial.run (List.replicate 15 index)).store.lockOf iban = .free) ∧
        ∀ other, index ≠ other ->
          (serial.run (List.replicate 15 index)).calls[other]? = serial.calls[other]? := by
  obtain ⟨-, outset, call⟩ :=
    replays.unsettled index journey here (replays.not_mem_of_undecided here undecided)
  have distinct : journey.errand.sender ≠ journey.errand.receiver := by
    obtain ⟨known, -, tracks⟩ := replays.sound.call_of_journey here
    apply tracks.distinct.resolve_right
    rintro ⟨already, ended⟩
    rw [Journey.verdict?, ended] at undecided
    cases undecided
  have requested : journey.errand.outset = .requested := if_neg distinct
  obtain ⟨replay, ruling, rest⟩ :=
    replays.serialSound.run_alone 15 outset call (journey.errand.alone_outset replays.free)
      journey.errand.remaining_outset
  refine ⟨replay, ?_, rest⟩
  rw [requested] at ruling
  cases ruling with
  | settled settles => exact settles

/-- A call about which something is decided is run in the serial run, right then. -/
theorem settle
    (replays : Replays initial traffic journeys serial replayed order)
    {index : Nat}
    {journey : Journey}
    {later : Progress journey.errand}
    {outcome : Except Failure Transfer}
    (here : journeys[index]? = some journey)
    (sound : (traffic.advance index).Sound (journeys.set index ⟨journey.errand, later⟩))
    (undecided : journey.verdict? = none)
    (decided : later.verdict? = some outcome)
    (settles : traffic.tables.Settles journey.errand outcome (traffic.advance index).tables) :
    ∃ replay,
      Replays initial (traffic.advance index) (journeys.set index ⟨journey.errand, later⟩)
        (serial.run (List.replicate 15 index))
        (replayed.set index ⟨journey.errand, .ended replay⟩) (order ++ [index]) := by
  have absent := replays.not_mem_of_undecided here undecided
  obtain ⟨-, outset, -⟩ := replays.unsettled index journey here absent
  obtain ⟨replay, replaySettles, after, free, others⟩ := replays.run_undecided here undecided
  obtain ⟨same, alike⟩ := replays.alike.settles settles replaySettles
  have own : ruled (journeys.set index ⟨journey.errand, later⟩) index = some outcome := by
    rw [ruled_set here, if_pos rfl]
    exact decided
  have before : ∀ other ∈ order,
      ruled (journeys.set index ⟨journey.errand, later⟩) other = ruled journeys other := by
    intro other member
    rw [ruled_set here, if_neg]
    rintro rfl
    exact absent member
  obtain ⟨within, -⟩ := List.getElem?_eq_some_iff.mp outset
  refine ⟨replay, sound, after, free, alike, ?_, ?_, ?_, ?_⟩
  · exact replays.distinct.append (List.nodup_singleton index) (by simpa using absent)
  · have earlier := successes_congr before
    rw [successes, List.filterMap_append, ← successes, earlier, ← List.append_assoc,
      ← replays.log]
    generalize (traffic.advance index).tables = tables at settles
    cases settles with
    | fails failure judged => simp [own, Except.toOption]
    | succeeds transfer posting judged => simp [own, Except.toOption, Tables.book]
  · intro other member
    rw [List.mem_append, List.mem_singleton] at member
    rcases member with old | rfl
    · rw [before other old]
      obtain ⟨earlier, errand, replayOf, ruledSo, notBusy, ended, alikeSo⟩ :=
        replays.settled other old
      refine ⟨earlier, errand, replayOf, ruledSo, notBusy, ?_, alikeSo⟩
      rw [List.getElem?_set_ne]
      · exact ended
      · rintro rfl
        exact absent old
    · exact ⟨outcome, journey.errand, replay, own, settles.ne_busy, by simp [within], same⟩
  · intro other journey' here' missing
    rw [List.mem_append, List.mem_singleton, not_or] at missing
    rw [List.getElem?_set_ne (Ne.symm missing.2)] at here'
    obtain ⟨undecided, outset', call'⟩ := replays.unsettled other journey' here' missing.1
    refine ⟨undecided, ?_, ?_⟩
    · rw [List.getElem?_set_ne (Ne.symm missing.2)]
      exact outset'
    · rw [others other (Ne.symm missing.2)]
      exact call'

/-- Every step is followed by the serial run. -/
theorem advance
    (replays : Replays initial traffic journeys serial replayed order)
    (index : Nat) :
    ∃ journeys' replayed' more,
      Replays initial (traffic.advance index) journeys' (serial.run (turnsOf more)) replayed'
        (order ++ more) := by
  have idle : ∀ journeys',
      Replays initial (traffic.advance index) journeys' serial replayed order ->
      ∃ journeys' replayed' more,
        Replays initial (traffic.advance index) journeys' (serial.run (turnsOf more)) replayed'
          (order ++ more) := by
    intro journeys' replays'
    refine ⟨journeys', replayed, [], ?_⟩
    rw [List.append_nil]
    exact replays'
  cases here : journeys[index]? with
  | none =>
      apply idle journeys
      rwa [replays.sound.advance_of_none here]
  | some journey =>
      obtain ⟨later, ruling | ⟨undecided, gaveUp, same⟩, sound⟩ := replays.sound.advance here
      · generalize first : journey.progress.verdict? = earlier at ruling
        generalize second : later.verdict? = latest at ruling
        generalize third : (traffic.advance index).tables = after at ruling
        cases ruling with
        | pending verdict =>
            exact idle _ (replays.keep here sound third (Or.inl (second.trans first.symm)))
        | settled settles =>
            obtain ⟨replay, replays'⟩ :=
              replays.settle here sound first second (third.symm ▸ settles)
            refine ⟨journeys.set index ⟨journey.errand, later⟩,
              replayed.set index ⟨journey.errand, .ended replay⟩, [index], ?_⟩
            have turns : turnsOf [index] = List.replicate 15 index := turnsOf_concat [] index
            rw [turns]
            exact replays'
      · exact idle _ (replays.keep here sound same (Or.inr ⟨undecided, gaveUp⟩))

theorem run
    (replays : Replays initial traffic journeys serial replayed order)
    (schedule : List Nat) :
    ∃ journeys' replayed' more,
      Replays initial (traffic.run schedule) journeys' (serial.run (turnsOf more)) replayed'
        (order ++ more) := by
  induction schedule generalizing traffic journeys serial replayed order with
  | nil =>
      refine ⟨journeys, replayed, [], ?_⟩
      rw [List.append_nil]
      exact replays
  | cons index rest ih =>
      obtain ⟨journeys', replayed', first, replays'⟩ := replays.advance index
      obtain ⟨journeys'', replayed'', second, replays''⟩ := ih replays'
      refine ⟨journeys'', replayed'', first ++ second, ?_⟩
      have turns : turnsOf (first ++ second) = turnsOf first ++ turnsOf second :=
        List.flatMap_append
      rw [turns, run_append, ← List.append_assoc]
      exact replays''

end Replays

/-! ## The order of decisions -/

/-- The calls that name a single account, and are over before they begin. -/
def selfTransfers (errands : List Errand) : List Nat :=
  (List.range errands.length).filter (fun index =>
    (errands[index]?).any (fun errand => errand.sender == errand.receiver))

theorem mem_selfTransfers
    {errands : List Errand}
    {index : Nat}
    {errand : Errand}
    (here : errands[index]? = some errand) :
    index ∈ selfTransfers errands ↔ errand.sender = errand.receiver := by
  obtain ⟨within, rfl⟩ := List.getElem?_eq_some_iff.mp here
  simp [selfTransfers, within]

theorem errand_of_mem_selfTransfers
    {errands : List Errand}
    {index : Nat}
    (member : index ∈ selfTransfers errands) :
    ∃ errand, errands[index]? = some errand ∧ errand.sender = errand.receiver := by
  rw [selfTransfers, List.mem_filter, List.mem_range] at member
  have here : errands[index]? = some errands[index] := List.getElem?_eq_getElem member.1
  refine ⟨errands[index], here, ?_⟩
  simpa [here] using member.2

/-- A call that names a single account does nothing. -/
theorem run_selfTransfers (store : Store) (errands : List Errand) :
    (start store errands).run (turnsOf (selfTransfers errands)) = start store errands := by
  have idle : ∀ index ∈ turnsOf (selfTransfers errands),
      (start store errands).advance index = start store errands := by
    intro index member
    rw [turnsOf, List.mem_flatMap] at member
    obtain ⟨turn, self, replicated⟩ := member
    obtain ⟨-, rfl⟩ := List.mem_replicate.mp replicated
    obtain ⟨errand, here, same⟩ := errand_of_mem_selfTransfers self
    have call : (start store errands).calls[index]? = some errand.call := by
      simp [start, here]
    have script : transferScript errand.request errand.caller =
        .done (.error (.refused .sameAccount)) := by
      unfold Errand.sender Errand.receiver at same
      simp [transferScript, same]
    have stands : errand.call.standing =
        .active none (.done (.error (.refused .sameAccount))) := by
      rw [Errand.call, script]
    rw [advance_of_call call, TransferCall.advance_done stands, set_of_getElem? call]
  generalize turnsOf (selfTransfers errands) = schedule at idle
  induction schedule with
  | nil => rfl
  | cons index rest ih =>
      rw [run_cons, idle index (by simp)]
      exact ih (fun other member => idle other (List.mem_cons_of_mem _ member))

theorem replays_start
    {store : Store}
    (quiet : store.Quiet)
    (errands : List Errand) :
    Replays store.tables (start store errands) (errands.map Journey.outset)
      (start store errands) (errands.map Journey.outset) (selfTransfers errands) := by
  have decided : ∀ index ∈ selfTransfers errands, ∃ errand,
      (errands.map Journey.outset)[index]? =
        some ⟨errand, .ended (.error (.refused .sameAccount))⟩ := by
    intro index member
    obtain ⟨errand, here, same⟩ := errand_of_mem_selfTransfers member
    refine ⟨errand, ?_⟩
    rw [List.getElem?_map, here]
    simp [Journey.outset, Errand.outset, same]
  have sound := sound_start quiet errands
  refine ⟨sound, sound, quiet.unlocked, Tables.alike_refl _, ?_, ?_, ?_, ?_⟩
  · exact List.nodup_range.filter _
  · have none : successes (errands.map Journey.outset) (selfTransfers errands) = [] := by
      rw [successes, List.filterMap_eq_nil_iff]
      intro index member
      obtain ⟨errand, here⟩ := decided index member
      rw [ruled_of_getElem? here]
      rfl
    rw [none, List.append_nil]
    rfl
  · intro index member
    obtain ⟨errand, here⟩ := decided index member
    refine ⟨_, errand, _, ruled_of_getElem? here, ?_, here, rfl⟩
    intro equal
    cases equal
  · intro index journey here absent
    rw [List.getElem?_map, Option.map_eq_some_iff] at here
    obtain ⟨errand, found, rfl⟩ := here
    have distinct : errand.sender ≠ errand.receiver :=
      fun same => absent ((mem_selfTransfers found).mpr same)
    refine ⟨Or.inl ?_, ?_, ?_⟩
    · have requested : errand.outset = .requested := if_neg distinct
      rw [Journey.verdict?, Journey.outset, requested]
      rfl
    · simp [found, Journey.outset]
    · simp [start, found, Journey.outset]

/-! ## Side by side and one after the other -/

/-- Once all calls are over, what has become of each of them is what was decided about it. -/
theorem Sound.outcome?_eq_ruled
    {traffic : Traffic}
    {journeys : List Journey}
    (sound : traffic.Sound journeys)
    (finished : traffic.Finished)
    (index : Nat) :
    traffic.outcome? index = ruled journeys index := by
  by_cases within : index < traffic.calls.length
  · obtain ⟨outcome, known⟩ := Option.isSome_iff_exists.mp (finished index within)
    obtain ⟨errand, here⟩ := sound.ended_of_outcome? known
    rw [known, ruled_of_getElem? here]
    rfl
  · have beyond := Nat.le_of_not_lt within
    rw [outcome?, ruled, List.getElem?_eq_none beyond,
      List.getElem?_eq_none (sound.count.trans_le beyond)]
    rfl

/-- A call whose journey has ended is over. -/
theorem Sound.outcome?_of_ended
    {traffic : Traffic}
    {journeys : List Journey}
    {index : Nat}
    {errand : Errand}
    {outcome : Except Failure Transfer}
    (sound : traffic.Sound journeys)
    (here : journeys[index]? = some ⟨errand, .ended outcome⟩) :
    traffic.outcome? index = some outcome := by
  obtain ⟨call, there, tracks⟩ := sound.call_of_journey here
  rw [outcome?, there]
  exact tracks.outcome?_of_ended

namespace Replays

variable {initial : Tables} {traffic serial : Traffic} {journeys replayed : List Journey}
variable {order : List Nat}

/-- Once all calls are over, those that did not give up waiting are in the serial run. -/
theorem mem_order_iff
    (replays : Replays initial traffic journeys serial replayed order)
    (finished : traffic.Finished)
    (index : Nat) :
    index ∈ order ↔ index < traffic.calls.length ∧ traffic.outcome? index ≠ some busy := by
  have same := replays.sound.outcome?_eq_ruled finished index
  constructor
  · intro member
    obtain ⟨outcome, errand, replay, decided, notBusy, -⟩ := replays.settled index member
    obtain ⟨journey, here, -⟩ := Option.bind_eq_some_iff.mp decided
    obtain ⟨within, -⟩ := List.getElem?_eq_some_iff.mp here
    refine ⟨replays.sound.count ▸ within, ?_⟩
    rw [same, decided]
    exact fun equal => notBusy (Option.some.inj equal)
  · rintro ⟨within, notBusy⟩
    obtain ⟨outcome, known⟩ := Option.isSome_iff_exists.mp (finished index within)
    rw [same] at known notBusy
    by_contra absent
    obtain ⟨journey, here, verdict⟩ := Option.bind_eq_some_iff.mp known
    rw [ruled_of_getElem? here] at notBusy
    obtain ⟨undecided | gaveUp, -⟩ := replays.unsettled index journey here absent
    · rw [undecided] at verdict
      cases verdict
    · exact notBusy gaveUp

/-- Both runs make the same of a call that is in the serial run. -/
theorem same_outcome
    (replays : Replays initial traffic journeys serial replayed order)
    (finished : traffic.Finished)
    {index : Nat}
    (member : index ∈ order) :
    ∃ outcome replay,
      traffic.outcome? index = some outcome ∧ serial.outcome? index = some replay ∧
        recorded replay = recorded outcome := by
  obtain ⟨outcome, errand, replay, decided, -, ended, same⟩ := replays.settled index member
  rw [replays.sound.outcome?_eq_ruled finished index]
  exact ⟨outcome, replay, decided, replays.serialSound.outcome?_of_ended ended, same⟩

end Replays

/--
Calls that all came to an end side by side, on a store on which nobody else was
at work, did what those that did not give up waiting do one after the other, in
an order in which transfers are in the order of their commits: the same rows but
for the numbers of transfers, and the same outcome of every call.
-/
theorem serializable
    (store : Store)
    (errands : List Errand)
    (schedule : List Nat)
    (quiet : store.Quiet)
    (finished : ((start store errands).run schedule).Finished) :
    let traffic := (start store errands).run schedule
    ∃ order : List Nat,
      order.Nodup ∧
      (∀ index, index ∈ order ↔
        index < errands.length ∧ traffic.outcome? index ≠ some busy) ∧
      traffic.tables.transfers =
        store.tables.transfers ++
          order.filterMap (fun index => (traffic.outcome? index).bind Except.toOption) ∧
      let serial := (start store errands).run (turnsOf order)
      traffic.tables.Alike serial.tables ∧
        ∀ index ∈ order, ∃ outcome replay,
          traffic.outcome? index = some outcome ∧ serial.outcome? index = some replay ∧
            recorded replay = recorded outcome := by
  intro traffic
  obtain ⟨journeys, replayed, more, replays⟩ := (replays_start quiet errands).run schedule
  have serial : (start store errands).run (turnsOf (selfTransfers errands ++ more)) =
      (start store errands).run (turnsOf more) := by
    have turns : turnsOf (selfTransfers errands ++ more) =
        turnsOf (selfTransfers errands) ++ turnsOf more := List.flatMap_append
    rw [turns, run_append, run_selfTransfers]
  refine ⟨selfTransfers errands ++ more, replays.distinct, ?_, ?_, ?_⟩
  · intro index
    have length : traffic.calls.length = errands.length :=
      (length_run _ schedule).trans (List.length_map _)
    rw [← length]
    exact replays.mem_order_iff finished index
  · rw [replays.log, successes]
    simp only [replays.sound.outcome?_eq_ruled finished, traffic]
  · rw [serial]
    exact ⟨replays.alike, fun index member => replays.same_outcome finished member⟩

/-- Two transfers in opposite directions, one of which waits for the other. -/
theorem serializable_sample :
    let traffic := (start (.opened Sample.accounts) Sample.errands).run Sample.handover
    ∃ order : List Nat,
      order.Nodup ∧
      (∀ index, index ∈ order ↔ index < 2 ∧ traffic.outcome? index ≠ some busy) ∧
      traffic.tables.transfers =
        (Store.opened Sample.accounts).tables.transfers ++
          order.filterMap (fun index => (traffic.outcome? index).bind Except.toOption) ∧
      let serial := (start (.opened Sample.accounts) Sample.errands).run (turnsOf order)
      traffic.tables.Alike serial.tables ∧
        ∀ index ∈ order, ∃ outcome replay,
          traffic.outcome? index = some outcome ∧ serial.outcome? index = some replay ∧
            recorded replay = recorded outcome :=
  serializable (.opened Sample.accounts) Sample.errands Sample.handover
    (Store.quiet_opened Sample.accounts) (by decide)

end Traffic

namespace Sample

/-- Two transfers between the same accounts, in the same direction. -/
def rivals : List Errand := [errand "A" "B" 1 7 "R7", errand "A" "B" 1 8 "R8"]

/-- The second of two calls gives up waiting for the first one. -/
def impatience : List Nat := [0, 0, 1, 1, 1, 1] ++ List.replicate 13 0

end Sample

namespace Traffic

/--
With a place for every call there is no such order: a call that gave up waiting
changed nothing, and spends its 40 when it does not have to wait.
-/
theorem impatient_call_has_no_place :
    ((start (.opened Sample.accounts) Sample.rivals).run Sample.impatience).Finished ∧
      ∀ order : List Nat, order.Perm [0, 1] ->
        ((start (.opened Sample.accounts) Sample.rivals).run
          (turnsOf order)).tables.accounts.values ≠
        ((start (.opened Sample.accounts) Sample.rivals).run
          Sample.impatience).tables.accounts.values := by
  constructor
  · decide
  · intro order permuted
    have listed : order ∈ [[0, 1], [1, 0]] := by
      simpa [List.permutations'] using List.mem_permutations'.mpr permuted
    rcases List.mem_pair.mp listed with rfl | rfl
    · decide
    · decide

end Traffic
end Giro
