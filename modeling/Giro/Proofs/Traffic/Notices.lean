import Giro.Proofs.Traffic.Transcripts
import Giro.Proofs.Traffic.Atomicity

/-!
# Notices

Who is told of a transfer. The audit trail gets one entry and the notifier one event for
each transfer that is recorded, whatever the order in which calls take their steps, and
nothing for any other call. Both come after the commit, and nothing depends on how they
are received: calls that differ in nothing else end alike, on the same store.
-/

namespace Giro

namespace Exchange

/-- The entry that was handed to the audit trail. -/
def entry? : Exchange -> Option AuditEntry
  | ⟨.outside (.audit entry), _⟩ => some entry
  | _ => none

/-- The event that was handed to the notifier. -/
def event? : Exchange -> Option TransferEvent
  | ⟨.outside (.dispatch event), _⟩ => some event
  | _ => none

theorem untold_of_not_isNote {exchange : Exchange} (silent : exchange.isNote = false) :
    exchange.entry? = none ∧ exchange.event? = none := by
  obtain ⟨ask, answer⟩ := exchange
  cases ask with
  | ledger ask => exact ⟨rfl, rfl⟩
  | outside ask =>
      cases ask with
      | audit entry => cases silent
      | dispatch event => cases silent
      | _ => exact ⟨rfl, rfl⟩

end Exchange

/-- What was handed to the audit trail and to the notifier, each in order. -/
structure Notices where
  entries : List AuditEntry
  events : List TransferEvent
deriving DecidableEq

namespace TransferCall

/-- What a call has handed to the audit trail and to the notifier. -/
def notices (call : TransferCall) : Notices :=
  ⟨call.transcript.filterMap Exchange.entry?, call.transcript.filterMap Exchange.event?⟩

theorem notices_hear
    (call : TransferCall)
    (ask : TransferAsk)
    (answer : ask.Answer)
    (standing : Standing) :
    (call.hear ask answer standing).notices =
      ⟨call.notices.entries ++ (Exchange.entry? ⟨ask, answer⟩).toList,
        call.notices.events ++ (Exchange.event? ⟨ask, answer⟩).toList⟩ := by
  simp only [notices, hear, List.filterMap_append]
  cases entered : Exchange.entry? ⟨ask, answer⟩ <;>
    cases sent : Exchange.event? ⟨ask, answer⟩ <;> simp [entered, sent]

/-- Nobody is told of anything with an answer to another question. -/
theorem notices_hear_silent
    (call : TransferCall)
    {ask : TransferAsk}
    (silent : ask.isNote = false)
    (answer : ask.Answer)
    (standing : Standing) :
    (call.hear ask answer standing).notices = call.notices := by
  obtain ⟨noEntry, noEvent⟩ :=
    (Exchange.untold_of_not_isNote silent : Exchange.entry? ⟨ask, answer⟩ = none ∧ _)
  rw [notices_hear, noEntry, noEvent, Option.toList_none, Option.toList_none, List.append_nil,
    List.append_nil]

/-- A call is not about to tell anybody of anything. -/
def Silent (call : TransferCall) : Prop :=
  ∀ current ask next, call.standing = .active current (.ask ask next) -> ask.isNote = false

/-- A step tells nobody of anything if the call is not about to. -/
theorem Silent.notices_advance {call : TransferCall} (silent : call.Silent) (store : Store) :
    (call.advance store).1.notices = call.notices := by
  cases stands : call.standing with
  | waiting id iban ask reply next =>
      rw [call.advance_waiting store stands]
      exact notices_hear_silent call rfl _ _
  | active current script =>
      cases script with
      | done outcome => rw [advance_done stands]
      | ask ask next =>
          cases ask with
          | outside ask =>
              rw [call.advance_outside store stands]
              exact notices_hear_silent call (silent current _ next stands) _ _
          | ledger ask =>
              rw [advance_ledger stands]
              cases store.serve current ask with
              | answered answer later after => exact notices_hear_silent call rfl _ _
              | waiting id iban reply after => rfl

end TransferCall

/-- The event that tells an owner of a transfer. -/
def Owner.letter (owner : Owner) (transfer : Transfer) : TransferEvent where
  recipientAddress := owner.email
  recipientName := owner.firstName
  amount := transfer.amount
  receiver := transfer.receiver
  reference := transfer.reference

/-- The event that tells the owner of the sending account of a transfer. -/
def Tables.letter? (tables : Tables) (transfer : Transfer) : Option TransferEvent :=
  (tables.findAccount transfer.sender).map (fun account => account.owner.letter transfer)

/-- The audit entry for a transfer that was recorded: twelve questions come before it. -/
def Errand.entry (errand : Errand) (transfer : Transfer) : AuditEntry where
  action := "MONEY_TRANSFER"
  actor := errand.caller.principal
  detail := "Reference: " ++ transfer.reference
  origin := errand.caller.origin.getD "unknown"
  createdAt := errand.oracle 12 .now

/-- An owner stays who it is as balances change. -/
theorem Tables.letter?_of_profiles
    {before after : Tables}
    (same : ∀ iban, after.profileOf iban = before.profileOf iban)
    (transfer : Transfer) :
    after.letter? transfer = before.letter? transfer := by
  have owners : ∀ tables : Tables, tables.letter? transfer =
      (tables.profileOf transfer.sender).map (fun profile => profile.owner.letter transfer) := by
    intro tables
    rw [letter?, profileOf, Option.map_map]
    rfl
  rw [owners, owners, same]

namespace Progress

variable {errand : Errand} {opening : Tables} {store : Store} {call : TransferCall}

/-- Whether a notice is next. -/
def telling : Progress errand -> Bool
  | auditing _ _ _ | dispatching _ _ => true
  | _ => false

/-- Whether a row is locked next. -/
def locking : Progress errand -> Bool
  | lockingFirst | lockingSecond _ _ => true
  | _ => false

theorem telling_of_script
    {progress : Progress errand}
    (distinct : errand.sender ≠ errand.receiver ∨ ∃ outcome, progress = .ended outcome)
    {ask : TransferAsk}
    {next : ask.Answer -> TransferScript (Except Failure Transfer)}
    (left : progress.script = .ask ask next)
    (note : ask.isNote = true) :
    progress.telling = true := by
  cases progress with
  | auditing plan transfer instant => rfl
  | dispatching plan transfer => rfl
  | requested =>
      have proper : errand.sender ≠ errand.receiver := by
        apply distinct.resolve_right
        rintro ⟨outcome, equal⟩
        cases equal
      rw [script_requested proper] at left
      cases left
      cases note
  | failing failure => cases failure <;> cases left <;> cases note
  | _ => cases left <;> cases note

/-- What a call has told, as far as it has come. -/
def notices (opening : Tables) : Progress errand -> Notices
  | dispatching _ transfer => ⟨[errand.entry transfer], []⟩
  | ended (.ok transfer) => ⟨[errand.entry transfer], (opening.letter? transfer).toList⟩
  | _ => ⟨[], []⟩

/-- What a call is going to tell, once its transfer is committed. -/
def Due (opening : Tables) (call : TransferCall) : Progress errand -> Prop
  | noting plan transfer =>
      call.transcript.length = 12 ∧
        opening.letter? transfer = some (plan.posting.event transfer)
  | auditing plan transfer instant =>
      AuditEntry.ofTransfer errand.caller transfer.reference instant = errand.entry transfer ∧
        opening.letter? transfer = some (plan.posting.event transfer)
  | dispatching plan transfer =>
      opening.letter? transfer = some (plan.posting.event transfer)
  | ended (.ok transfer) => (opening.letter? transfer).isSome
  | _ => True

/-- A call has told what it should have, and is going to tell what it should. -/
structure Noted (opening : Tables) (progress : Progress errand) (call : TransferCall) : Prop where
  told : call.notices = progress.notices opening
  due : progress.Due opening call

theorem noted_outset (opening : Tables) (errand : Errand) :
    errand.outset.Noted opening errand.call := by
  by_cases same : errand.sender = errand.receiver
  · rw [Errand.outset, if_pos same]
    exact ⟨rfl, trivial⟩
  · rw [Errand.outset, if_neg same]
    exact ⟨rfl, trivial⟩

/-- A call is about to tell something only at the two points before a notice. -/
theorem Tracks.silent
    {progress : Progress errand}
    (tracks : progress.Tracks store call)
    (quiet : progress.telling = false) :
    call.Silent := by
  intro current ask next stands
  by_contra note
  have left := (stands ▸ tracks.stands).script_of_active
  rw [telling_of_script tracks.distinct left.symm (by simpa using note)] at quiet
  cases quiet

/-- A call waits only where it locks a row. -/
theorem Tracks.exists_active
    {progress : Progress errand}
    (tracks : progress.Tracks store call)
    (unlocking : progress.locking = false) :
    ∃ current, call.standing = .active current progress.script := by
  have stands := tracks.stands
  generalize call.standing = standing at stands
  cases stands with
  | active _ current => exact ⟨current, rfl⟩
  | first id => cases unlocking
  | second account named id => cases unlocking

/-- A posting is addressed to the owner whom the committed rows name. -/
theorem letter?_of_fits
    {tables : Tables}
    {plan : errand.Plan}
    {transfer : Transfer}
    (fits : plan.Fits tables)
    (drafted : transfer.toTransferDraft = errand.draft plan.pair.toLockedPair) :
    tables.letter? transfer = some (plan.posting.event transfer) := by
  obtain ⟨senderFound, -⟩ := (Tables.pairFor_eq_ok_iff plan.distinct _).mp fits.pair
  obtain ⟨debited, credited, debit, -⟩ := Errand.accounts_of_propose plan.proposed
  have sender : transfer.sender = errand.sender := by
    rw [drafted]
    exact plan.pair.senderNamed
  rw [Tables.letter?, sender, senderFound, Option.map_some, Posting.event, debit]
  rfl

/-- The answer to a commit is one more exchange. -/
theorem Tracks.length_committing
    {plan : errand.Plan}
    {transfer : Transfer}
    {drafted : transfer.toTransferDraft = errand.draft plan.pair.toLockedPair}
    (tracks : (committing plan transfer drafted).Tracks store call) :
    (call.advance store).1.transcript.length = 12 := by
  obtain ⟨current, stands⟩ := tracks.exists_active rfl
  have asked := (tracks.heard 11 rfl).1
  have ledger : ∃ next, call.standing = .active current (.ask (.ledger .commit) next) :=
    ⟨_, stands⟩
  obtain ⟨next, stands⟩ := ledger
  rw [TransferCall.advance_ledger stands]
  cases served : store.serve current .commit with
  | answered answer later after => simp [TransferCall.receive, TransferCall.hear, asked]
  | waiting id iban reply after => cases TransferCall.lock_of_waiting served

theorem quiet_of_undecided
    {progress : Progress errand}
    (undecided : progress.verdict? = none) :
    progress.telling = false ∧ progress.notices opening = ⟨[], []⟩ := by
  cases progress <;> first | exact ⟨rfl, rfl⟩ | cases undecided

section Points

variable {plan : errand.Plan} {transfer : Transfer}

/-- After the commit the clock is read. -/
theorem Noted.advance_noting
    (noted : (noting plan transfer).Noted opening call)
    (tracks : (noting plan transfer).Tracks store call) :
    ∃ seat, (call.advance store).1.standing =
      .active seat (auditing plan transfer (errand.oracle 12 .now)).script := by
  obtain ⟨seat, stands⟩ := tracks.exists_active rfl
  have advance := call.advance_outside store stands
  rw [tracks.oracle, noted.due.1] at advance
  exact ⟨seat, by rw [advance]; rfl⟩

/-- Then the entry is written. -/
theorem Noted.advance_auditing
    {instant : Instant}
    (noted : (auditing plan transfer instant).Noted opening call)
    (tracks : (auditing plan transfer instant).Tracks store call) :
    (call.advance store).1.notices = ⟨[errand.entry transfer], []⟩ ∧
      ∃ seat, (call.advance store).1.standing =
        .active seat (dispatching plan transfer).script := by
  obtain ⟨seat, stands⟩ := tracks.exists_active rfl
  rw [call.advance_outside store stands]
  refine ⟨(call.notices_hear _ _ _).trans ?_, seat, rfl⟩
  rw [noted.told, ← noted.due.1]
  rfl

/-- The event is last. -/
theorem Noted.advance_dispatching
    (noted : (dispatching plan transfer).Noted opening call)
    (tracks : (dispatching plan transfer).Tracks store call) :
    (call.advance store).1.notices =
        ⟨[errand.entry transfer], (opening.letter? transfer).toList⟩ ∧
      ∃ seat, (call.advance store).1.standing = .active seat (.done (.ok transfer)) := by
  obtain ⟨seat, stands⟩ := tracks.exists_active rfl
  have letter : opening.letter? transfer = some (plan.posting.event transfer) := noted.due
  rw [call.advance_outside store stands]
  refine ⟨(call.notices_hear _ _ _).trans ?_, seat, rfl⟩
  rw [noted.told, letter]
  rfl

end Points

/-- A step of a call tells what is due, and no more. -/
theorem Noted.moves
    {progress later : Progress errand}
    {after : Tables}
    (noted : progress.Noted opening call)
    (tracks : progress.Tracks store call)
    (current : progress.Current store.tables)
    (profiles : ∀ iban, store.tables.profileOf iban = opening.profileOf iban)
    (moves : Moves errand store.tables progress later after)
    (tracked : later.Tracks (call.advance store).2 (call.advance store).1) :
    later.Noted opening (call.advance store).1 := by
  have silently (quiet : progress.telling = false) :
      (call.advance store).1.notices = progress.notices opening :=
    ((tracks.silent quiet).notices_advance store).trans noted.told
  cases moves with
  | goes next =>
      cases next with
      | commits plan transfer drafted unused =>
          refine ⟨silently rfl, tracks.length_committing, ?_⟩
          rw [← Tables.letter?_of_profiles profiles]
          exact letter?_of_fits current.1 drafted
      | notes plan transfer instant =>
          refine ⟨silently rfl, ?_, noted.due.2⟩
          obtain ⟨seat, stands⟩ := noted.advance_noting tracks
          have left := (stands ▸ tracked.stands).script_of_active
          injection left with asked
          injection asked with asked
          injection asked with same
          exact same.symm
      | audits plan transfer instant =>
          exact ⟨(noted.advance_auditing tracks).1, noted.due.2⟩
      | dispatches plan transfer =>
          have letter : opening.letter? transfer = some (plan.posting.event transfer) := noted.due
          refine ⟨(noted.advance_dispatching tracks).1, ?_⟩
          change (opening.letter? transfer).isSome
          rw [letter]
          rfl
      | _ => exact ⟨silently rfl, trivial⟩
  | tires undecided =>
      obtain ⟨quiet, untold⟩ := quiet_of_undecided undecided
      exact ⟨(silently quiet).trans untold, trivial⟩
  | stays =>
      -- A call does not stay where it has only to go on.
      cases progress with
      | noting plan transfer =>
          obtain ⟨seat, stands⟩ := noted.advance_noting tracks
          cases (stands ▸ tracked.stands).script_of_active
      | auditing plan transfer instant =>
          obtain ⟨-, seat, stands⟩ := noted.advance_auditing tracks
          cases (stands ▸ tracked.stands).script_of_active
      | dispatching plan transfer =>
          obtain ⟨-, seat, stands⟩ := noted.advance_dispatching tracks
          cases (stands ▸ tracked.stands).script_of_active
      | ended outcome => exact ⟨silently rfl, by cases outcome <;> exact noted.due⟩
      | _ => exact ⟨silently rfl, trivial⟩

/-- Of a transfer that is recorded, what was told is part of what is due, and all of it in the end. -/
theorem Noted.of_recorded
    {progress : Progress errand}
    {transfer : Transfer}
    (noted : progress.Noted opening call)
    (decided : progress.verdict? = some (.ok transfer)) :
    ∃ sender, opening.findAccount transfer.sender = some sender ∧
      call.notices.entries <+: [errand.entry transfer] ∧
      call.notices.events <+: [sender.owner.letter transfer] ∧
      ∀ outcome, progress = .ended outcome ->
        outcome = .ok transfer ∧
          call.notices = ⟨[errand.entry transfer], [sender.owner.letter transfer]⟩ := by
  have owned : ∀ {event}, opening.letter? transfer = some event ->
      ∃ sender, opening.findAccount transfer.sender = some sender ∧
        event = sender.owner.letter transfer := by
    intro event letter
    obtain ⟨sender, found, same⟩ := Option.map_eq_some_iff.mp letter
    exact ⟨sender, found, same.symm⟩
  have told := noted.told
  have due := noted.due
  cases progress with
  | noting plan other =>
      cases decided
      obtain ⟨sender, found, -⟩ := owned due.2
      refine ⟨sender, found, ?_, ?_, fun outcome ended => by cases ended⟩ <;> rw [told] <;>
        exact List.nil_prefix
  | auditing plan other instant =>
      cases decided
      obtain ⟨sender, found, -⟩ := owned due.2
      refine ⟨sender, found, ?_, ?_, fun outcome ended => by cases ended⟩ <;> rw [told] <;>
        exact List.nil_prefix
  | dispatching plan other =>
      cases decided
      obtain ⟨sender, found, -⟩ := owned due
      refine ⟨sender, found, ?_, ?_, fun outcome ended => by cases ended⟩ <;> rw [told]
      · exact List.prefix_refl _
      · exact List.nil_prefix
  | ended outcome =>
      cases decided
      obtain ⟨event, letter⟩ := Option.isSome_iff_exists.mp due
      obtain ⟨sender, found, same⟩ := owned letter
      have all : call.notices = ⟨[errand.entry transfer], [sender.owner.letter transfer]⟩ := by
        rw [told, notices, letter, same, Option.toList_some]
      refine ⟨sender, found, by rw [all], by rw [all], ?_⟩
      intro outcome ended
      cases ended
      exact ⟨rfl, all⟩
  | _ => cases decided

/-- Nobody is told of anything else. -/
theorem Noted.of_unrecorded
    {progress : Progress errand}
    (noted : progress.Noted opening call)
    (unrecorded : ∀ transfer, progress.verdict? ≠ some (.ok transfer)) :
    call.notices = ⟨[], []⟩ := by
  rw [noted.told]
  cases progress with
  | dispatching plan transfer => exact absurd rfl (unrecorded transfer)
  | ended outcome =>
      cases outcome with
      | ok transfer => exact absurd rfl (unrecorded transfer)
      | error failure => rfl
  | _ => rfl

end Progress

/-- A ruling commits a transfer, or nothing is decided in favour of one. -/
theorem Ruling.commits_or
    {errand : Errand}
    {before after : Tables}
    {earlier later : Option (Except Failure Transfer)}
    (ruling : Ruling errand before earlier later after) :
    (after = before ∧
        ∀ transfer, later = some (.ok transfer) ↔ earlier = some (.ok transfer)) ∨
      ∃ transfer posting,
        earlier = none ∧ later = some (.ok transfer) ∧ after = before.book posting transfer := by
  cases ruling with
  | pending verdict => exact Or.inl ⟨rfl, fun _ => Iff.rfl⟩
  | settled settles =>
      cases settles with
      | fails failure judged => exact Or.inl ⟨rfl, by simp⟩
      | succeeds transfer posting judged => exact Or.inr ⟨transfer, posting, rfl, rfl, rfl⟩

namespace Traffic

/-- Transfers leave everything about accounts alone but their balances. -/
theorem profileOf_run
    {store : Store}
    (quiet : store.Quiet)
    (errands : List Errand)
    (schedule : List Nat)
    (iban : String) :
    ((start store errands).run schedule).tables.profileOf iban = store.tables.profileOf iban := by
  refine tables_run_of_book quiet errands schedule
    (fun tables => tables.profileOf iban = store.tables.profileOf iban) rfl ?_
  intro tables errand transfer posting keyed same judged
  obtain ⟨pair, distinct, found, proposed, -⟩ := (tables.judge_eq_ok_iff ..).mp judged
  obtain ⟨senderFound, receiverFound⟩ := (Tables.pairFor_eq_ok_iff distinct pair).mp found
  rw [← same, Tables.profileOf_book proposed, keyed.accounts _ _ senderFound,
    keyed.accounts _ _ receiverFound]
  split
  · rename_i here
    rw [← here, Tables.profileOf, receiverFound, Option.map_some]
  · split
    · rename_i here
      rw [← here, Tables.profileOf, senderFound, Option.map_some]
    · rfl

/-- Every call has told what it should have told by now. -/
structure Noted (opening : Tables) (traffic : Traffic) (journeys : List Journey) : Prop
    extends traffic.Sound journeys where
  noted : ∀ (index : Nat) (journey : Journey) (call : TransferCall),
    journeys[index]? = some journey -> traffic.calls[index]? = some call ->
      journey.progress.Noted opening call

/-- What was added to the log, each transfer with the index of the call that made it. -/
structure Recorded
    (opening : Tables)
    (traffic : Traffic)
    (journeys : List Journey)
    (recorded : List (Nat × Transfer)) : Prop where
  logged : traffic.tables.transfers = opening.transfers ++ recorded.map Prod.snd
  once : (recorded.map Prod.fst).Nodup
  ruled : ∀ index transfer, (index, transfer) ∈ recorded ↔
    journeys[index]?.bind Journey.verdict? = some (.ok transfer)

/-- A step that decides nothing new about any transfer records nothing. -/
theorem Recorded.keeps
    {opening : Tables}
    {traffic after : Traffic}
    {journeys : List Journey}
    {recorded : List (Nat × Transfer)}
    (kept : Recorded opening traffic journeys recorded)
    {index : Nat}
    {journey later : Journey}
    (here : journeys[index]? = some journey)
    (tables : after.tables = traffic.tables)
    (verdict : ∀ transfer,
      later.verdict? = some (.ok transfer) ↔ journey.verdict? = some (.ok transfer)) :
    Recorded opening after (journeys.set index later) recorded where
  logged := by rw [tables, kept.logged]
  once := kept.once
  ruled := by
    intro other transfer
    rw [kept.ruled, List.getElem?_set]
    by_cases same : index = other
    · subst same
      have within := (List.getElem?_eq_some_iff.mp here).1
      rw [if_pos rfl, if_pos within, here]
      exact (verdict transfer).symm
    · rw [if_neg same]

/-- A commit records one transfer more, made by a call that had made none. -/
theorem Recorded.grows
    {opening : Tables}
    {traffic after : Traffic}
    {journeys : List Journey}
    {recorded : List (Nat × Transfer)}
    (kept : Recorded opening traffic journeys recorded)
    {index : Nat}
    {journey later : Journey}
    {transfer : Transfer}
    (here : journeys[index]? = some journey)
    (undecided : journey.verdict? = none)
    (decided : later.verdict? = some (.ok transfer))
    (tables : after.tables.transfers = traffic.tables.transfers ++ [transfer]) :
    Recorded opening after (journeys.set index later) (recorded ++ [(index, transfer)]) := by
  have within := (List.getElem?_eq_some_iff.mp here).1
  have unrecorded : ∀ transfer, (index, transfer) ∉ recorded := by
    intro transfer member
    have verdict := (kept.ruled index transfer).mp member
    rw [here, Option.bind_some, undecided] at verdict
    cases verdict
  refine ⟨?_, ?_, ?_⟩
  · rw [tables, kept.logged]
    simp
  · rw [List.map_append, List.nodup_append]
    refine ⟨kept.once, by simp, ?_⟩
    rintro other member _ (single | ⟨_, ⟨⟩⟩) rfl
    obtain ⟨⟨_, transfer⟩, there, rfl⟩ := List.mem_map.mp member
    exact unrecorded transfer there
  · intro other made
    rw [List.mem_append, List.mem_singleton, kept.ruled, List.getElem?_set]
    by_cases same : index = other
    · subst same
      rw [if_pos rfl, if_pos within, here, Option.bind_some, Option.bind_some, undecided, decided]
      simp [eq_comm]
    · rw [if_neg same]
      simp [Ne.symm same]

/-- A step takes one journey on; what is told and what is recorded stay in step. -/
theorem Noted.advance
    {opening : Tables}
    {traffic : Traffic}
    {journeys : List Journey}
    {recorded : List (Nat × Transfer)}
    (noted : traffic.Noted opening journeys)
    (profiles : ∀ iban, traffic.tables.profileOf iban = opening.profileOf iban)
    (kept : Recorded opening traffic journeys recorded)
    (index : Nat) :
    ∃ later grown,
      (traffic.advance index).Noted opening later ∧
        later.map Journey.errand = journeys.map Journey.errand ∧
        Recorded opening (traffic.advance index) later grown := by
  cases here : journeys[index]? with
  | none =>
      rw [noted.advance_of_none here]
      exact ⟨journeys, recorded, noted, rfl, kept⟩
  | some journey =>
      obtain ⟨call, there, tracks⟩ := noted.call_of_journey here
      obtain ⟨later, moves, tracked⟩ := tracks.moves noted.keyed
      have follows := noted.toFollows.takeOn there moves tracked
      have current := noted.current index journey here
      have told := (noted.noted index journey call here there).moves tracks current profiles moves
        tracked
      have after : (traffic.advance index).tables = (call.advance traffic.store).2.tables := by
        rw [advance_of_call there]
        rfl
      rw [← after] at moves
      have same : (journeys.set index ⟨journey.errand, later⟩).map Journey.errand =
          journeys.map Journey.errand := by
        rw [List.map_set]
        exact set_of_getElem? (by rw [List.getElem?_map, here, Option.map_some])
      have next : (traffic.advance index).Noted opening
          (journeys.set index ⟨journey.errand, later⟩) := by
        refine ⟨noted.toSound.takeOn here moves follows, ?_⟩
        intro other journey' call' here' there'
        rw [advance_of_call there, List.getElem?_set] at there'
        rw [List.getElem?_set] at here'
        by_cases acting : index = other
        · subst acting
          rw [if_pos rfl] at here' there'
          split at here' <;> cases here'
          split at there' <;> cases there'
          exact told
        · rw [if_neg acting] at here' there'
          exact noted.noted other journey' call' here' there'
      rcases Progress.ruling_of_moves tracks.distinct current moves with
        ruling | ⟨undecided, busy, unchanged⟩
      · rcases ruling.commits_or with
          ⟨unchanged, verdict⟩ | ⟨transfer, posting, undecided, decided, booked⟩
        · exact ⟨_, recorded, next, same, kept.keeps here unchanged verdict⟩
        · exact ⟨_, recorded ++ [(index, transfer)], next, same,
            kept.grows here undecided decided (by rw [booked]; rfl)⟩
      · refine ⟨_, recorded, next, same, kept.keeps here unchanged fun transfer => ?_⟩
        change later.verdict? = _ ↔ journey.progress.verdict? = _
        rw [busy, undecided]
        simp

theorem noted_run
    {store : Store}
    (quiet : store.Quiet)
    (errands : List Errand)
    (schedule : List Nat) :
    ∃ journeys recorded,
      ((start store errands).run schedule).Noted store.tables journeys ∧
        journeys.map Journey.errand = errands ∧
        Recorded store.tables ((start store errands).run schedule) journeys recorded := by
  induction schedule using List.reverseRecOn with
  | nil =>
      refine ⟨errands.map Journey.outset, [], ⟨sound_start quiet errands, ?_⟩, ?_, ?_⟩
      · intro index journey call here there
        change (errands.map Errand.call)[index]? = some call at there
        rw [List.getElem?_map, Option.map_eq_some_iff] at here there
        obtain ⟨errand, found, rfl⟩ := here
        obtain ⟨other, same, rfl⟩ := there
        rw [found] at same
        cases same
        exact Progress.noted_outset store.tables errand
      · rw [List.map_map]
        exact List.map_id errands
      · refine ⟨by simp [run, start, tables], List.nodup_nil, fun index transfer => ?_⟩
        rw [List.getElem?_map]
        cases found : errands[index]? with
        | none => simp
        | some errand =>
            by_cases same : errand.sender = errand.receiver <;>
              simp [Journey.verdict?, Journey.outset, Errand.outset, same, Progress.verdict?]
  | append_singleton before index ih =>
      obtain ⟨journeys, recorded, noted, same, kept⟩ := ih
      obtain ⟨later, grown, notedNow, sameNow, keptNow⟩ :=
        noted.advance (profileOf_run quiet errands before) kept index
      rw [run_append]
      exact ⟨later, grown, notedNow, sameNow.trans same, keptNow⟩

end Traffic

/-! ## How notices are received -/

/-- Two errands that differ at most in how notices of them are received. -/
structure Errand.SameButEcho (left right : Errand) : Prop where
  request : right.request = left.request
  caller : right.caller = left.caller
  oracle : ∀ asked ask, (TransferAsk.outside ask).isNote = false ->
    right.oracle asked ask = left.oracle asked ask

namespace TransferCall

/-- Two calls that stand at the same point, whatever was answered to notices. -/
structure Mirrors (left right : TransferCall) : Prop where
  standing : right.standing = left.standing
  length : right.transcript.length = left.transcript.length
  oracle : ∀ asked ask, (TransferAsk.outside ask).isNote = false ->
    right.oracle asked ask = left.oracle asked ask

/-- The call goes on in one way, however a notice is received. -/
def Deaf (call : TransferCall) : Prop :=
  ∀ current ask next, call.standing = .active current (.ask ask next) -> ask.isNote = true ->
    ∀ first second, next first = next second

/-- Of two calls at the same point, each does what the other one does. -/
theorem Mirrors.advance
    {left right : TransferCall}
    (mirrors : left.Mirrors right)
    (deaf : left.Deaf)
    (store : Store) :
    (right.advance store).2 = (left.advance store).2 ∧
      (left.advance store).1.Mirrors (right.advance store).1 := by
  have heard (ask : TransferAsk) (first second : ask.Answer) (standing : Standing) :
      (left.hear ask first standing).Mirrors (right.hear ask second standing) :=
    ⟨rfl, by simp [hear, mirrors.length], mirrors.oracle⟩
  cases stands : left.standing with
  | waiting id iban ask reply next =>
      rw [left.advance_waiting store stands,
        right.advance_waiting store (mirrors.standing.trans stands)]
      exact ⟨rfl, heard _ _ _ _⟩
  | active current script =>
      have alsoStands := mirrors.standing.trans stands
      cases script with
      | done outcome =>
          rw [advance_done stands, advance_done alsoStands]
          exact ⟨rfl, mirrors⟩
      | ask ask next =>
          cases ask with
          | ledger ask =>
              rw [advance_ledger stands, advance_ledger alsoStands]
              cases store.serve current ask with
              | answered answer later after => exact ⟨rfl, heard _ _ _ _⟩
              | waiting id iban reply after =>
                  exact ⟨rfl, rfl, mirrors.length, mirrors.oracle⟩
          | outside ask =>
              rw [left.advance_outside store stands, right.advance_outside store alsoStands,
                mirrors.length]
              refine ⟨rfl, ?_⟩
              cases note : (TransferAsk.outside ask).isNote with
              | false =>
                  rw [mirrors.oracle _ ask note]
                  exact heard _ _ _ _
              | true =>
                  rw [deaf current _ next stands note (right.oracle left.transcript.length ask)
                    (left.oracle left.transcript.length ask)]
                  exact heard _ _ _ _

end TransferCall

/-- No call heeds how a notice of it is received. -/
theorem Progress.Tracks.deaf
    {errand : Errand}
    {progress : Progress errand}
    {store : Store}
    {call : TransferCall}
    (tracks : progress.Tracks store call) :
    call.Deaf := by
  intro current ask next stands note
  have left := (stands ▸ tracks.stands).script_of_active
  have telling := telling_of_script tracks.distinct left.symm note
  cases progress with
  | auditing plan transfer instant =>
      cases left
      exact fun _ _ => rfl
  | dispatching plan transfer =>
      cases left
      exact fun _ _ => rfl
  | _ => cases telling

namespace Traffic

/-- What stands at one place of two lists that agree, place by place. -/
theorem exists_getElem?_of_forall₂
    {α β : Type}
    {agrees : α -> β -> Prop}
    {left : List α}
    {right : List β}
    (same : List.Forall₂ agrees left right)
    (index : Nat) :
    (left[index]? = none ∧ right[index]? = none) ∨
      ∃ first second, left[index]? = some first ∧ right[index]? = some second ∧
        agrees first second := by
  induction same generalizing index with
  | nil => exact Or.inl ⟨rfl, rfl⟩
  | @cons first second _ _ here _ ih =>
      cases index with
      | zero => exact Or.inr ⟨first, second, rfl, rfl, here⟩
      | succ index => exact ih index

theorem forall₂_set
    {α β : Type}
    {agrees : α -> β -> Prop}
    {left : List α}
    {right : List β}
    (same : List.Forall₂ agrees left right)
    {first : α}
    {second : β}
    (here : agrees first second)
    (index : Nat) :
    List.Forall₂ agrees (left.set index first) (right.set index second) := by
  induction same generalizing index with
  | nil => exact .nil
  | cons head rest ih =>
      cases index with
      | zero => exact .cons here rest
      | succ index => exact .cons head (ih index)

/-- Traffic on the same store, with calls at the same points. -/
structure Mirrors (left right : Traffic) : Prop where
  store : right.store = left.store
  calls : List.Forall₂ TransferCall.Mirrors left.calls right.calls

theorem Mirrors.outcome?
    {left right : Traffic}
    (mirrors : left.Mirrors right)
    (index : Nat) :
    right.outcome? index = left.outcome? index := by
  rw [Traffic.outcome?, Traffic.outcome?]
  rcases exists_getElem?_of_forall₂ mirrors.calls index with
    ⟨absent, alsoAbsent⟩ | ⟨first, second, here, there, same⟩
  · rw [absent, alsoAbsent]
  · rw [here, there, Option.bind_some, Option.bind_some, TransferCall.outcome?, same.standing]
    rfl

theorem mirrors_start
    (store : Store)
    {errands others : List Errand}
    (same : List.Forall₂ Errand.SameButEcho errands others) :
    (start store errands).Mirrors (start store others) where
  store := rfl
  calls := by
    refine List.forall₂_map_left_iff.mpr (List.forall₂_map_right_iff.mpr ?_)
    refine same.imp fun left right echo => ⟨?_, rfl, echo.oracle⟩
    rw [Errand.call, Errand.call, echo.request, echo.caller]

/-- Calls that mirror each other do so after each step. -/
theorem Mirrors.advance
    {left right : Traffic}
    {journeys : List Journey}
    (mirrors : left.Mirrors right)
    (follows : left.Follows journeys)
    (index : Nat) :
    (left.advance index).Mirrors (right.advance index) := by
  rcases exists_getElem?_of_forall₂ mirrors.calls index with
    ⟨absent, alsoAbsent⟩ | ⟨first, second, here, there, same⟩
  · rw [advance_of_absent absent, advance_of_absent alsoAbsent]
    exact mirrors
  · obtain ⟨journey, -, tracks⟩ := follows.journey_of_call here
    obtain ⟨store, stepped⟩ := same.advance tracks.deaf left.store
    rw [advance_of_call here, advance_of_call there, mirrors.store]
    exact ⟨store, forall₂_set mirrors.calls stepped index⟩

theorem mirrors_run
    {store : Store}
    (quiet : store.Quiet)
    {errands others : List Errand}
    (same : List.Forall₂ Errand.SameButEcho errands others)
    (schedule : List Nat) :
    ((start store errands).run schedule).Mirrors ((start store others).run schedule) := by
  induction schedule using List.reverseRecOn with
  | nil => exact mirrors_start store same
  | append_singleton before index ih =>
      obtain ⟨journeys, sound⟩ := (sound_start quiet errands).run before
      rw [run_append, run_append]
      exact ih.advance sound.toFollows index

/--
Whatever the order of the steps and however notices are received, each transfer that is
recorded was recorded by a call of its own. That call hands one entry to the audit trail,
which names the caller, the caller's origin and the reference, and one event to the
notifier, addressed to the owner of the sending account; it has handed over no more at
any moment, and all of it once it is over, which it is with that transfer only. No other
call hands over anything, and none of them ends with a transfer. Were notices received
in any other way, the store and all outcomes would be the same.
-/
theorem told_once
    {store : Store}
    (quiet : store.Quiet)
    (errands : List Errand)
    (schedule : List Nat) :
    let traffic := (start store errands).run schedule
    (∃ recorded : List (Nat × Transfer),
      traffic.tables.transfers = store.tables.transfers ++ recorded.map Prod.snd ∧
      (recorded.map Prod.fst).Nodup ∧
      (∀ index transfer, (index, transfer) ∈ recorded ->
        ∃ errand call sender,
          errands[index]? = some errand ∧
          traffic.calls[index]? = some call ∧
          store.tables.findAccount transfer.sender = some sender ∧
          call.notices.entries <+: [errand.entry transfer] ∧
          call.notices.events <+: [sender.owner.letter transfer] ∧
          ∀ outcome, traffic.outcome? index = some outcome ->
            outcome = .ok transfer ∧
              call.notices = ⟨[errand.entry transfer], [sender.owner.letter transfer]⟩) ∧
      ∀ index call, traffic.calls[index]? = some call -> index ∉ recorded.map Prod.fst ->
        call.notices = ⟨[], []⟩ ∧ ∀ transfer, traffic.outcome? index ≠ some (.ok transfer)) ∧
    ∀ others, List.Forall₂ Errand.SameButEcho errands others ->
      ((start store others).run schedule).store = traffic.store ∧
        ∀ index, ((start store others).run schedule).outcome? index = traffic.outcome? index := by
  intro traffic
  refine ⟨?_, fun others same => ?_⟩
  · obtain ⟨journeys, recorded, noted, same, kept⟩ := noted_run quiet errands schedule
    refine ⟨recorded, kept.logged, kept.once, ?_, ?_⟩
    · intro index transfer member
      obtain ⟨journey, here, decided⟩ :=
        Option.bind_eq_some_iff.mp ((kept.ruled index transfer).mp member)
      obtain ⟨call, there, -⟩ := noted.call_of_journey here
      obtain ⟨sender, found, entries, events, whole⟩ :=
        (noted.noted index journey call here there).of_recorded decided
      refine ⟨journey.errand, call, sender, ?_, there, found, entries, events, ?_⟩
      · rw [← same, List.getElem?_map, here, Option.map_some]
      · intro outcome known
        obtain ⟨errand, ended⟩ := noted.ended_of_outcome? known
        rw [here] at ended
        cases ended
        exact whole outcome rfl
    · intro index call there unlisted
      obtain ⟨journey, here, -⟩ := noted.journey_of_call there
      have unrecorded : ∀ transfer, journey.verdict? ≠ some (.ok transfer) := by
        intro transfer decided
        have member := (kept.ruled index transfer).mpr (by rw [here, Option.bind_some, decided])
        exact unlisted (List.mem_map_of_mem member)
      refine ⟨(noted.noted index journey call here there).of_unrecorded unrecorded, ?_⟩
      intro transfer known
      obtain ⟨errand, ended⟩ := noted.ended_of_outcome? known
      rw [here] at ended
      cases ended
      exact unrecorded transfer rfl
  · have mirrors := mirrors_run quiet same schedule
    exact ⟨mirrors.store, mirrors.outcome?⟩

end Traffic

namespace Sample

/-- The errand, with an audit trail that takes no entry. -/
def unheard (errand : Errand) : Errand :=
  { errand with
    oracle := fun asked ask =>
      match ask with
      | .audit _ => false
      | ask => errand.oracle asked ask }

theorem sameButEcho_unheard (errand : Errand) : errand.SameButEcho (unheard errand) where
  request := rfl
  caller := rfl
  oracle := by
    intro asked ask silent
    cases ask with
    | audit entry => cases silent
    | _ => rfl

end Sample

theorem Traffic.told_once_sample :
    let traffic := (start (.opened Sample.accounts) Sample.errands).run Sample.handover
    let unheard := Sample.errands.map Sample.unheard
    (Store.opened Sample.accounts).Quiet ∧
      (∃ recorded : List (Nat × Transfer),
        recorded.length = 2 ∧
          ∀ index transfer, (index, transfer) ∈ recorded ->
            ∃ errand call, Sample.errands[index]? = some errand ∧
              traffic.calls[index]? = some call ∧
              call.notices.entries <+: [errand.entry transfer]) ∧
      ((start (.opened Sample.accounts) unheard).run Sample.handover).store = traffic.store := by
  intro traffic unheard
  have quiet := Store.quiet_opened Sample.accounts
  obtain ⟨⟨recorded, logged, -, told, -⟩, same⟩ := told_once quiet Sample.errands Sample.handover
  refine ⟨quiet, ⟨recorded, ?_, fun index transfer member => ?_⟩, (same unheard ?_).1⟩
  · have two : traffic.tables.transfers.length = 2 := by decide
    have before : (Store.opened Sample.accounts).tables.transfers = [] := rfl
    rw [logged, before] at two
    simpa using two
  · obtain ⟨errand, call, sender, here, there, -, entries, -⟩ := told index transfer member
    exact ⟨errand, call, here, there, entries⟩
  · exact List.forall₂_map_right_iff.mpr
      (List.forall₂_same.mpr fun errand _ => Sample.sameButEcho_unheard errand)

end Giro
