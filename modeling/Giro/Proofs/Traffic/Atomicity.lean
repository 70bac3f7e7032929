import Giro.Proofs.Ledger.Administration
import Giro.Proofs.Traffic.Coherence

/-!
# Transfers are atomic

Whatever the order of the steps, the committed rows change only when a transfer
is committed, by all of that transfer at once, and only as is judged of the rows
that are committed at that moment.
-/

namespace Giro

namespace Store

/-- A store on which nobody is at work. -/
structure Quiet (store : Store) : Prop where
  orderly : store.Orderly
  keyed : store.tables.Keyed
  unlocked : ∀ iban, store.lockOf iban = .free

theorem Quiet.administer
    {store : Store}
    (quiet : store.Quiet)
    {change : Tables -> Tables}
    (keyed : (change store.tables).Keyed) :
    (store.administer change).Quiet where
  orderly := quiet.orderly.retable _
  keyed := keyed
  unlocked := quiet.unlocked

theorem quiet_empty : empty.Quiet where
  orderly := orderly_empty
  keyed := ⟨fun _ _ found => (by cases found), fun _ _ _ found => (by cases found)⟩
  unlocked := fun _ => rfl

theorem quiet_opened (accounts : List Account) : (opened accounts).Quiet :=
  opened_induction accounts Quiet quiet_empty
    (fun _ account quiet => quiet.administer (quiet.keyed.insertAccount account))

end Store

namespace Traffic

/-- Every call has come as far as its journey says, and nothing it has read is stale. -/
structure Sound (traffic : Traffic) (journeys : List Journey) : Prop
    extends traffic.Follows journeys where
  current : ∀ (index : Nat) (journey : Journey),
    journeys[index]? = some journey -> journey.progress.Current traffic.tables

theorem sound_start
    {store : Store}
    (quiet : store.Quiet)
    (errands : List Errand) :
    (start store errands).Sound (errands.map Journey.outset) where
  toFollows := follows_start quiet.orderly quiet.keyed errands
  current := by
    intro index journey here
    simp only [List.getElem?_map, Option.map_eq_some_iff] at here
    obtain ⟨errand, -, rfl⟩ := here
    exact Progress.current_outset store.tables errand

namespace Sound

variable {traffic : Traffic} {journeys : List Journey}

/-- A step takes one journey on, and what has been read on none of them gets stale. -/
theorem takeOn
    (sound : traffic.Sound journeys)
    {index : Nat}
    {journey : Journey}
    {later : Progress journey.errand}
    (here : journeys[index]? = some journey)
    (moves : Progress.Moves journey.errand traffic.tables journey.progress later
      (traffic.advance index).tables)
    (follows : (traffic.advance index).Follows (journeys.set index ⟨journey.errand, later⟩)) :
    (traffic.advance index).Sound (journeys.set index ⟨journey.errand, later⟩) := by
  refine ⟨follows, ?_⟩
  intro other journey' here'
  rw [List.getElem?_set] at here'
  by_cases same : index = other
  · rw [if_pos same] at here'
    split at here' <;> cases here'
    exact (sound.current index journey here).moves moves
  · rw [if_neg same] at here'
    refine (sound.current other journey' here').kept (moves.keeps ?_)
    exact fun iban holds => sound.disjoint here' here (Ne.symm same) holds

/-- A step takes one journey on, and decides about it or does not, as is judged. -/
theorem advance
    (sound : traffic.Sound journeys)
    {index : Nat}
    {journey : Journey}
    (here : journeys[index]? = some journey) :
    ∃ later,
      (Ruling journey.errand traffic.tables journey.progress.verdict? later.verdict?
          (traffic.advance index).tables ∨
        journey.progress.verdict? = none ∧
          later.verdict? = some (.error (.refused .accountBusy)) ∧
          (traffic.advance index).tables = traffic.tables) ∧
        (traffic.advance index).Sound (journeys.set index ⟨journey.errand, later⟩) := by
  obtain ⟨later, moves, follows⟩ := sound.toFollows.advance here
  obtain ⟨call, -, tracks⟩ := sound.call_of_journey here
  refine ⟨later, ?_, sound.takeOn here moves follows⟩
  exact Progress.ruling_of_moves tracks.distinct (sound.current index journey here) moves

/-- The rows after a step are those before it, or those after one whole transfer. -/
theorem tables_advance (sound : traffic.Sound journeys) (index : Nat) :
    (traffic.advance index).tables = traffic.tables ∨
      ∃ errand transfer posting,
        traffic.tables.judge errand = .ok (transfer.toTransferDraft, posting) ∧
          (traffic.advance index).tables = traffic.tables.book posting transfer := by
  cases here : journeys[index]? with
  | none =>
      left
      rw [sound.advance_of_none here]
  | some journey =>
      obtain ⟨later, ruling | ⟨-, -, same⟩, -⟩ := sound.advance here
      · exact ruling.tables.imp_right (fun booked => ⟨journey.errand, booked⟩)
      · exact Or.inl same

theorem advance_any (sound : traffic.Sound journeys) (index : Nat) :
    ∃ later, (traffic.advance index).Sound later := by
  cases here : journeys[index]? with
  | none =>
      refine ⟨journeys, ?_⟩
      rwa [sound.advance_of_none here]
  | some journey =>
      obtain ⟨later, -, after⟩ := sound.advance here
      exact ⟨_, after⟩

theorem run (sound : traffic.Sound journeys) (schedule : List Nat) :
    ∃ later, (traffic.run schedule).Sound later := by
  induction schedule generalizing traffic journeys with
  | nil => exact ⟨journeys, sound⟩
  | cons index rest ih =>
      obtain ⟨later, after⟩ := sound.advance_any index
      exact ih after

end Sound

/-- What holds of the opening rows and is kept by every transfer that is let pass. -/
theorem tables_run_of_book
    {store : Store}
    (quiet : store.Quiet)
    (errands : List Errand)
    (schedule : List Nat)
    (holds : Tables -> Prop)
    (outset : holds store.tables)
    (book : ∀ tables errand transfer posting,
      tables.Keyed -> holds tables ->
      tables.judge errand = .ok (transfer.toTransferDraft, posting) ->
      holds (tables.book posting transfer)) :
    holds ((start store errands).run schedule).tables := by
  induction schedule using List.reverseRecOn with
  | nil => exact outset
  | append_singleton before index ih =>
      obtain ⟨journeys, sound⟩ := (sound_start quiet errands).run before
      rw [run_append]
      change holds (((start store errands).run before).advance index).tables
      rcases sound.tables_advance index with same | ⟨errand, transfer, posting, judged, after⟩
      · rw [same]
        exact ih
      · rw [after]
        exact book _ errand transfer posting sound.keyed ih judged

end Traffic
end Giro
