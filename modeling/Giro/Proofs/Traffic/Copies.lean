import Giro.Proofs.Traffic.Atomicity

/-!
# Copies of accounts

A call that has read an account under its lock goes about with a copy of the row,
and writes it back, but for the balance, when it succeeds. What the profile of an
account is going to be once all its copies are written back is not changed by any
step of a call.
-/

namespace Giro
namespace Progress

variable {errand : Errand} {before after : Tables}

/-- A call has locked the rows that it has read and may still write. -/
theorem mem_held_of_mem_rows
    {progress : Progress errand}
    {row : Account}
    (member : row ∈ progress.rows) :
    row.iban ∈ progress.held := by
  have both : ∀ pair : errand.Pair, row ∈ pair.rows ->
      row.iban ∈ [errand.order.1, errand.order.2] := by
    intro pair member
    rw [errand.mem_order]
    rcases (pair.mem_rows row).mp member with rfl | rfl
    · exact Or.inl pair.senderNamed
    · exact Or.inr pair.receiverNamed
  cases progress with
  | lockingSecond first named =>
      rw [List.mem_singleton.mp member, named]
      exact List.mem_singleton_self _
  | clocking pair => exact both pair member
  | consulting pair => exact both pair member
  | savingLimit plan => exact both plan.pair member
  | savingSender plan => exact both plan.pair member
  | savingReceiver plan => exact both plan.pair member
  | identifying plan => exact both plan.pair member
  | referencing plan => exact both plan.pair member
  | recording plan => exact both plan.pair member
  | committing plan transfer drafted => exact both plan.pair member
  | _ => cases member

/-- A call with rows that it may still write has a transaction open, and nothing went wrong. -/
theorem inside_of_mem_rows
    {progress : Progress errand}
    {row : Account}
    (member : row ∈ progress.rows) :
    progress.inside = true := by
  cases progress <;> first | rfl | cases member

/-- Unless something went wrong, all rows that were read within a transaction may be written. -/
theorem Tracks.rows
    {progress : Progress errand}
    {store : Store}
    {call : TransferCall}
    (tracks : progress.Tracks store call)
    (inside : progress.inside = true)
    (unfailed : ∀ failure, progress ≠ .failing failure) :
    call.rows = progress.rows := by
  have asked : ∃ asked, progress.asked? = some asked := by
    cases progress with
    | failing failure => exact absurd rfl (unfailed failure)
    | _ => first | exact ⟨_, rfl⟩ | cases inside
  obtain ⟨asked, equal⟩ := asked
  exact (tracks.heard asked equal).2

/-- What a step does to the rows that its call has read, and to the committed ones. -/
inductive Handling (before : Tables) (progress later : Progress errand) : Tables -> Prop
  | keeps (same : later.rows = progress.rows) : Handling before progress later before
  | reads
      (row : Account)
      (found : before.findAccount row.iban = some row)
      (fresh : ∀ known ∈ progress.rows, known.iban ≠ row.iban)
      (rows : later.rows = progress.rows ++ [row])
      (held : row.iban ∈ later.held) :
      Handling before progress later before
  | fails (failure : Failure) (verdict : later.verdict? = some (.error failure)) :
      Handling before progress later before
  | writes
      (plan : errand.Plan)
      (transfer : Transfer)
      (rows : progress.rows = plan.pair.rows)
      (done : later.rows = [])
      (verdict : later.verdict? = some (.ok transfer)) :
      Handling before progress later (before.book plan.posting transfer)

theorem handling_of_next
    {progress later : Progress errand}
    (distinct : errand.sender ≠ errand.receiver)
    (next : Next errand before progress later after) :
    Handling before progress later after := by
  cases next with
  | locksFirst first named found =>
      apply Handling.reads first (named ▸ found) (fun _ member => by cases member) rfl
      rw [named]
      exact List.mem_singleton_self _
  | locksSecond first second firstNamed secondNamed found =>
      refine .reads second (secondNamed ▸ found) ?_ ?_ ?_
      · intro known member
        rw [List.mem_singleton.mp member, firstNamed, secondNamed]
        exact errand.order_distinct distinct
      · exact Errand.Pair.rows_ofRows firstNamed secondNamed
      · rw [secondNamed]
        exact List.mem_pair.mpr (Or.inr rfl)
  | lacksFirst missing => exact .fails _ rfl
  | lacksSecond first named missing => exact .fails _ rfl
  | rejects pair failure rejected => exact .fails _ rfl
  | overdrawsSender plan negative => exact .fails _ rfl
  | overdrawsReceiver plan negative => exact .fails _ rfl
  | clashes plan used => exact .fails _ rfl
  | collides plan transfer drafted used => exact .fails _ rfl
  | commits plan transfer drafted unused => exact .writes plan transfer rfl rfl rfl
  | _ => exact .keeps rfl

theorem Moves.handling
    {progress later : Progress errand}
    (distinct : errand.sender ≠ errand.receiver ∨ ∃ outcome, progress = .ended outcome)
    (moves : Moves errand before progress later after) :
    Handling before progress later after := by
  cases moves with
  | goes next =>
      exact handling_of_next (distinct_of_next distinct next) next
  | tires undecided => exact .fails _ rfl
  | stays => exact .keeps rfl

end Progress

namespace Errand.Plan

variable {errand : Errand}

/-- Both accounts of a plan get back the profiles that they had when they were read. -/
theorem profileOf_book
    (plan : errand.Plan)
    {row : Account}
    (member : row ∈ plan.pair.rows)
    (tables : Tables)
    (transfer : Transfer) :
    (tables.book plan.posting transfer).profileOf row.iban = some row.profile := by
  rw [Tables.profileOf_book plan.proposed]
  rcases (plan.pair.mem_rows row).mp member with rfl | rfl
  · rw [if_neg, if_pos rfl]
    rw [plan.pair.receiverNamed, plan.pair.senderNamed]
    exact plan.distinct.symm
  · rw [if_pos rfl]

/-- All other accounts keep their profiles. -/
theorem profileOf_book_of_ne
    (plan : errand.Plan)
    {iban : String}
    (others : ∀ row ∈ plan.pair.rows, row.iban ≠ iban)
    (tables : Tables)
    (transfer : Transfer) :
    (tables.book plan.posting transfer).profileOf iban = tables.profileOf iban := by
  rw [Tables.profileOf_book plan.proposed, if_neg, if_neg]
  · exact others _ ((plan.pair.mem_rows _).mpr (Or.inl rfl))
  · exact others _ ((plan.pair.mem_rows _).mpr (Or.inr rfl))

end Errand.Plan

/-! ## Copies that are going to be written back -/

/-- A call that is going to succeed has read a row of an account, and not yet written it. -/
def Copy (journeys : List Journey) (succeeds : Nat -> Bool) (iban : String) (row : Account) :
    Prop :=
  ∃ index journey,
    journeys[index]? = some journey ∧ succeeds index = true ∧
      row ∈ journey.progress.rows ∧ row.iban = iban

/-- A call other than the one with an index has such a copy. -/
def CopyBeside
    (journeys : List Journey)
    (index : Nat)
    (succeeds : Nat -> Bool)
    (iban : String)
    (row : Account) : Prop :=
  ∃ other journey,
    index ≠ other ∧ journeys[other]? = some journey ∧ succeeds other = true ∧
      row ∈ journey.progress.rows ∧ row.iban = iban

/--
The profile of an account as it will be once all copies of it are written back,
on some other rows.
-/
structure Foretells
    (shadow : Tables)
    (tables : Tables)
    (journeys : List Journey)
    (succeeds : Nat -> Bool)
    (iban : String) : Prop where
  copied : ∀ row, Copy journeys succeeds iban row -> shadow.profileOf iban = some row.profile
  settled : (∀ row, ¬ Copy journeys succeeds iban row) ->
    shadow.profileOf iban = tables.profileOf iban

/-- A copy is that of one of the calls, or one of the others has it. -/
theorem copy_set_iff
    {journeys : List Journey}
    {index : Nat}
    {journey later : Journey}
    {succeeds : Nat -> Bool}
    {iban : String}
    {row : Account}
    (here : journeys[index]? = some journey) :
    Copy (journeys.set index later) succeeds iban row ↔
      (succeeds index = true ∧ row ∈ later.progress.rows ∧ row.iban = iban) ∨
        CopyBeside journeys index succeeds iban row := by
  obtain ⟨within, -⟩ := List.getElem?_eq_some_iff.mp here
  constructor
  · rintro ⟨other, journey', there, succeeded, member, named⟩
    rw [List.getElem?_set] at there
    by_cases same : index = other
    · subst same
      rw [if_pos rfl, if_pos within] at there
      cases there
      exact Or.inl ⟨succeeded, member, named⟩
    · rw [if_neg same] at there
      exact Or.inr ⟨other, journey', same, there, succeeded, member, named⟩
  · rintro (⟨succeeded, member, named⟩ | ⟨other, journey', different, there, copy⟩)
    · exact ⟨index, later, by simp [within], succeeded, member, named⟩
    · exact ⟨other, journey', by rwa [List.getElem?_set_ne different], copy⟩

theorem copy_iff
    {journeys : List Journey}
    {index : Nat}
    {journey : Journey}
    {succeeds : Nat -> Bool}
    {iban : String}
    {row : Account}
    (here : journeys[index]? = some journey) :
    Copy journeys succeeds iban row ↔
      (succeeds index = true ∧ row ∈ journey.progress.rows ∧ row.iban = iban) ∨
        CopyBeside journeys index succeeds iban row := by
  rw [← copy_set_iff here, Traffic.set_of_getElem? here]

/-- An account that one call has locked has been read by no other one. -/
theorem not_copyBeside
    {traffic : Traffic}
    {journeys : List Journey}
    {index : Nat}
    {journey : Journey}
    {succeeds : Nat -> Bool}
    {iban : String}
    (follows : traffic.Follows journeys)
    (here : journeys[index]? = some journey)
    (held : iban ∈ journey.progress.held) :
    ∀ row, ¬ CopyBeside journeys index succeeds iban row := by
  rintro row ⟨other, journey', different, there, -, member, rfl⟩
  exact follows.disjoint here there different held (Progress.mem_held_of_mem_rows member)

namespace Foretells

variable {shadow before after : Tables} {journeys later : List Journey}
variable {succeeds : Nat -> Bool} {iban : String}

theorem congr
    (foretells : Foretells shadow before journeys succeeds iban)
    (copies : ∀ row, Copy later succeeds iban row ↔ Copy journeys succeeds iban row)
    (same : after.profileOf iban = before.profileOf iban) :
    Foretells shadow after later succeeds iban where
  copied := fun row copy => foretells.copied row ((copies row).mp copy)
  settled := by
    intro none
    rw [same]
    exact foretells.settled (fun row copy => none row ((copies row).mpr copy))

variable {index : Nat} {journey next : Journey}

/-- A call that is going to fail may do with its copies what it likes. -/
theorem fails
    (foretells : Foretells shadow before journeys succeeds iban)
    (here : journeys[index]? = some journey)
    (loses : succeeds index = false) :
    Foretells shadow before (journeys.set index next) succeeds iban := by
  refine foretells.congr ?_ rfl
  intro row
  rw [copy_set_iff here, copy_iff here, loses]
  simp

/-- A row is read as it is committed, by a call that nobody else can have forestalled. -/
theorem reads
    {row : Account}
    (foretells : Foretells shadow before journeys succeeds iban)
    (here : journeys[index]? = some journey)
    (found : before.findAccount row.iban = some row)
    (fresh : ∀ known ∈ journey.progress.rows, known.iban ≠ row.iban)
    (rows : next.progress.rows = journey.progress.rows ++ [row])
    (alone : row.iban = iban -> ∀ other, ¬ CopyBeside journeys index succeeds iban other) :
    Foretells shadow before (journeys.set index next) succeeds iban := by
  by_cases copies : succeeds index = true ∧ row.iban = iban
  · obtain ⟨succeeded, rfl⟩ := copies
    have foretold : shadow.profileOf row.iban = some row.profile := by
      rw [foretells.settled, Tables.profileOf, found]
      · rfl
      · intro other copy
        rcases (copy_iff here).mp copy with ⟨-, member, named⟩ | beside
        · exact fresh other member named
        · exact alone rfl other beside
    constructor
    · intro other copy
      rcases (copy_set_iff here).mp copy with ⟨-, member, named⟩ | beside
      · rw [rows, List.mem_append, List.mem_singleton] at member
        rcases member with known | rfl
        · exact absurd named (fresh other known)
        · exact foretold
      · exact absurd beside (alone rfl other)
    · intro none
      refine absurd ((copy_set_iff here).mpr (Or.inl ⟨succeeded, ?_, rfl⟩)) (none row)
      simp [rows]
  · refine foretells.congr ?_ rfl
    intro other
    rw [copy_set_iff here, copy_iff here, rows]
    refine or_congr_left ⟨?_, ?_⟩
    · rintro ⟨succeeded, member, named⟩
      rcases List.mem_append.mp member with known | added
      · exact ⟨succeeded, known, named⟩
      · rw [List.mem_singleton.mp added] at named
        exact absurd ⟨succeeded, named⟩ copies
    · rintro ⟨succeeded, member, named⟩
      exact ⟨succeeded, List.mem_append_left _ member, named⟩

/-- With a commit comes true what was foretold of both of its accounts. -/
theorem writes
    {errand : Errand}
    (foretells : Foretells shadow before journeys succeeds iban)
    (here : journeys[index]? = some journey)
    (succeeded : succeeds index = true)
    (plan : errand.Plan)
    (transfer : Transfer)
    (rows : journey.progress.rows = plan.pair.rows)
    (done : next.progress.rows = [])
    (alone : iban ∈ journey.progress.held ->
      ∀ other, ¬ CopyBeside journeys index succeeds iban other) :
    Foretells shadow (before.book plan.posting transfer) (journeys.set index next)
      succeeds iban := by
  by_cases copies : ∃ row ∈ journey.progress.rows, row.iban = iban
  · obtain ⟨row, member, rfl⟩ := copies
    have foretold := foretells.copied row
      ((copy_iff here).mpr (Or.inl ⟨succeeded, member, rfl⟩))
    constructor
    · intro other copy
      rcases (copy_set_iff here).mp copy with ⟨-, impossible, -⟩ | beside
      · rw [done] at impossible
        cases impossible
      · exact absurd beside (alone (Progress.mem_held_of_mem_rows member) other)
    · intro none
      rw [rows] at member
      rw [foretold, plan.profileOf_book member]
  · refine foretells.congr ?_ ?_
    · intro row
      rw [copy_set_iff here, copy_iff here, done]
      refine or_congr_left ⟨?_, ?_⟩
      · rintro ⟨-, member, -⟩
        cases member
      · rintro ⟨-, member, named⟩
        exact absurd ⟨row, member, named⟩ copies
    · refine plan.profileOf_book_of_ne ?_ before transfer
      intro row member named
      exact copies ⟨row, rows ▸ member, named⟩

/-- A step of a call leaves what is foretold as it is. -/
theorem advance
    {traffic : Traffic}
    {progress : Progress journey.errand}
    (foretells : Foretells shadow traffic.tables journeys succeeds iban)
    (follows : traffic.Follows journeys)
    (here : journeys[index]? = some journey)
    (handling : Progress.Handling traffic.tables journey.progress progress
      (traffic.advance index).tables)
    (followsOn : (traffic.advance index).Follows
      (journeys.set index ⟨journey.errand, progress⟩))
    (decided : ∀ outcome, progress.verdict? = some outcome ->
      succeeds index = outcome.isOk) :
    Foretells shadow (traffic.advance index).tables
      (journeys.set index ⟨journey.errand, progress⟩) succeeds iban := by
  have hereOn := Traffic.getElem?_set_here here ⟨journey.errand, progress⟩
  generalize (traffic.advance index).tables = tables at handling
  cases handling with
  | keeps same =>
      refine foretells.congr ?_ rfl
      intro row
      rw [copy_set_iff here, copy_iff here, same]
  | fails failure verdict => exact foretells.fails here (decided _ verdict)
  | reads row found fresh rows held =>
      apply foretells.reads here found fresh rows
      rintro rfl other ⟨others, journey', different, there, copy⟩
      refine not_copyBeside followsOn hereOn held other ⟨others, journey', different, ?_, copy⟩
      rwa [List.getElem?_set_ne different]
  | writes plan transfer rows done verdict =>
      exact foretells.writes here (decided _ verdict) plan transfer rows done
        (not_copyBeside follows here)

/-- A write to accounts counts unless an old copy is written over it. -/
theorem administer
    (foretells : Foretells shadow before journeys succeeds iban)
    (write : AdminWrite) :
    ((∃ row, Copy journeys succeeds iban row) ->
        Foretells shadow (write.apply before) journeys succeeds iban) ∧
      ((¬ ∃ row, Copy journeys succeeds iban row) ->
        Foretells (write.apply shadow) (write.apply before) journeys succeeds iban) := by
  constructor
  · rintro ⟨row, copy⟩
    exact ⟨foretells.copied, fun none => absurd copy (none row)⟩
  · intro none
    refine ⟨fun row copy => absurd ⟨row, copy⟩ none, fun uncopied => ?_⟩
    exact Tables.profileOf_apply_congr write (foretells.settled uncopied)

end Foretells

end Giro
