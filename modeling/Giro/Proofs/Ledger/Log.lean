import Giro.Proofs.Ledger.Staging

/-!
# The log of transfers

Numbers are taken from one counter, by staged transfers that may never be
committed as well as by those that go straight to the log, so the log is not in
the order of its numbers. No number is given out twice all the same, and nothing
gets into the log that has the reference or the external identifier of what is
there. The log is never changed but at its end.
-/

namespace Giro

/-- Two transfers share neither their number nor a reference nor an external identifier. -/
def Transfer.Apart (left right : Transfer) : Prop :=
  left.id ≠ right.id ∧ left.clashesWith right = false

/--
Transfers in several places, with the number for the next one: what is in one place
is apart from each other, and a number is in one place only.
-/
structure Filed (shelf : Option TransactionId -> List Transfer) (next : Int) : Prop where
  positive : 0 < next
  numbered : ∀ place, ∀ transfer ∈ shelf place, 0 < transfer.id ∧ transfer.id < next
  distinct : ∀ place, (shelf place).Pairwise Transfer.Apart
  separate : ∀ left right, left ≠ right ->
    ∀ first ∈ shelf left, ∀ second ∈ shelf right, first.id ≠ second.id

namespace Filed

variable {shelf later : Option TransactionId -> List Transfer} {next : Int}

/-- Transfers may be dropped, and numbers skipped. -/
theorem drops
    (filed : Filed shelf next)
    {skipped : Int}
    (ahead : next <= skipped)
    (parts : ∀ place, (later place).Sublist (shelf place)) :
    Filed later skipped where
  positive := Int.lt_of_lt_of_le filed.positive ahead
  numbered := by
    intro place transfer member
    obtain ⟨positive, below⟩ := filed.numbered place transfer ((parts place).subset member)
    exact ⟨positive, Int.lt_of_lt_of_le below ahead⟩
  distinct := fun place => (filed.distinct place).sublist (parts place)
  separate := fun left right different first here second there =>
    filed.separate left right different first ((parts left).subset here) second
      ((parts right).subset there)

/-- A transfer may be added under the next number, wherever it does not clash. -/
theorem adds
    (filed : Filed shelf next)
    (place : Option TransactionId)
    {transfer : Transfer}
    (named : transfer.id = next)
    (unused : ∀ other ∈ shelf place, other.clashesWith transfer = false)
    (here : later place = shelf place ++ [transfer])
    (elsewhere : ∀ other, other ≠ place -> later other = shelf other) :
    Filed later (next + 1) := by
  have standing : ∀ spot, ∀ other ∈ later spot,
      other ∈ shelf spot ∨ spot = place ∧ other = transfer := by
    intro spot other member
    by_cases same : spot = place
    · rw [same, here, List.mem_append, List.mem_singleton] at member
      exact member.imp (fun before => same ▸ before) (fun added => ⟨same, added⟩)
    · exact Or.inl (elsewhere spot same ▸ member)
  have older : ∀ spot, ∀ other ∈ shelf spot, other.id ≠ transfer.id := by
    intro spot other member
    exact named ▸ Int.ne_of_lt (filed.numbered spot other member).2
  constructor
  case positive => exact Int.lt_trans filed.positive (Int.lt_succ next)
  case numbered =>
    intro spot other member
    rcases standing spot other member with before | ⟨-, rfl⟩
    · obtain ⟨positive, below⟩ := filed.numbered spot other before
      exact ⟨positive, Int.lt_trans below (Int.lt_succ next)⟩
    · exact ⟨named ▸ filed.positive, named ▸ Int.lt_succ next⟩
  case distinct =>
    intro spot
    by_cases same : spot = place
    · rw [same, here, List.pairwise_append]
      refine ⟨filed.distinct place, List.pairwise_singleton _ transfer, ?_⟩
      intro other member added equal
      rw [List.mem_singleton.mp equal]
      exact ⟨older place other member, unused other member⟩
    · rw [elsewhere spot same]
      exact filed.distinct spot
  case separate =>
    intro left right different first inLeft second inRight
    rcases standing left first inLeft with leftBefore | ⟨leftHere, rfl⟩
    · rcases standing right second inRight with rightBefore | ⟨-, rfl⟩
      · exact filed.separate left right different first leftBefore second rightBefore
      · exact older left first leftBefore
    · rcases standing right second inRight with rightBefore | ⟨rightHere, -⟩
      · exact (older right second rightBefore).symm
      · exact absurd (leftHere.trans rightHere.symm) different

/-- What a transaction has staged may be moved to the log, if none of it clashes there. -/
theorem moves
    (filed : Filed shelf next)
    {id : TransactionId}
    (unused : ∀ staged ∈ shelf (some id), ∀ logged ∈ shelf none,
      logged.clashesWith staged = false)
    (log : later none = shelf none ++ shelf (some id))
    (emptied : later (some id) = [])
    (elsewhere : ∀ other, other ≠ id -> later (some other) = shelf (some other)) :
    Filed later next := by
  have standing : ∀ spot, ∀ other ∈ later spot,
      spot ≠ some id ∧ (other ∈ shelf spot ∨ spot = none ∧ other ∈ shelf (some id)) := by
    intro spot other member
    cases spot with
    | none =>
        rw [log, List.mem_append] at member
        exact ⟨by simp, member.imp_right (fun staged => ⟨rfl, staged⟩)⟩
    | some own =>
        by_cases same : own = id
        · rw [same, emptied] at member
          cases member
        · rw [elsewhere own same] at member
          exact ⟨fun equal => same (Option.some.inj equal), Or.inl member⟩
  constructor
  case positive => exact filed.positive
  case numbered =>
    intro spot other member
    rcases (standing spot other member).2 with before | ⟨-, staged⟩
    · exact filed.numbered spot other before
    · exact filed.numbered (some id) other staged
  case distinct =>
    intro spot
    cases spot with
    | none =>
        rw [log, List.pairwise_append]
        refine ⟨filed.distinct none, filed.distinct (some id), ?_⟩
        intro logged inLog staged inStaged
        exact ⟨filed.separate none (some id) (by simp) logged inLog staged inStaged,
          unused staged inStaged logged inLog⟩
    | some own =>
        by_cases same : own = id
        · rw [same, emptied]
          exact List.Pairwise.nil
        · rw [elsewhere own same]
          exact filed.distinct (some own)
  case separate =>
    intro left right different first inLeft second inRight
    obtain ⟨leftOpen, leftStands⟩ := standing left first inLeft
    obtain ⟨rightOpen, rightStands⟩ := standing right second inRight
    rcases leftStands with leftBefore | ⟨leftLog, leftStaged⟩
    · rcases rightStands with rightBefore | ⟨-, rightStaged⟩
      · exact filed.separate left right different first leftBefore second rightBefore
      · exact filed.separate left (some id) leftOpen first leftBefore second rightStaged
    · rcases rightStands with rightBefore | ⟨rightLog, -⟩
      · exact filed.separate (some id) right rightOpen.symm first leftStaged second rightBefore
      · exact absurd (leftLog.trans rightLog.symm) different

/-- What is in one place differs in whatever tells transfers apart. -/
theorem nodup_map
    {α : Type}
    (filed : Filed shelf next)
    (place : Option TransactionId)
    {mark : Transfer -> α}
    (marks : ∀ left right, Transfer.Apart left right -> mark left ≠ mark right) :
    ((shelf place).map mark).Nodup :=
  List.pairwise_map.mpr ((filed.distinct place).imp (marks _ _))

theorem nodup_id (filed : Filed shelf next) (place : Option TransactionId) :
    ((shelf place).map Transfer.id).Nodup :=
  filed.nodup_map place (fun _ _ apart => apart.1)

theorem nodup_reference (filed : Filed shelf next) (place : Option TransactionId) :
    ((shelf place).map (fun transfer => transfer.reference)).Nodup :=
  filed.nodup_map place (fun _ _ apart same => by
    simpa [Transfer.clashesWith, same] using apart.2)

theorem nodup_externalId (filed : Filed shelf next) (place : Option TransactionId) :
    ((shelf place).map (fun transfer => transfer.externalId)).Nodup :=
  filed.nodup_map place (fun _ _ apart same => by
    simpa [Transfer.clashesWith, same] using apart.2)

end Filed

namespace Tables

/-- Accounts stay and the log grows at its end. -/
structure Rises (before after : Tables) : Prop where
  accounts : before.Spans after
  log : before.transfers <+: after.transfers

theorem Rises.refl (tables : Tables) : tables.Rises tables :=
  ⟨fun _ present => present, List.prefix_rfl⟩

theorem Rises.trans
    {first second third : Tables}
    (left : first.Rises second)
    (right : second.Rises third) :
    first.Rises third where
  accounts := fun iban present => right.accounts iban (left.accounts iban present)
  log := left.log.trans right.log

theorem rises_administer (tables : Tables) (write : AdminWrite) :
    tables.Rises (write.apply tables) where
  accounts := spans_administer tables write
  log := by
    cases write with
    | insertAccount account => exact List.prefix_rfl
    | setUserActive userId isActive => exact List.prefix_rfl

end Tables

namespace Store

/-- The log, or the transfers that a transaction has staged. -/
def shelf (store : Store) : Option TransactionId -> List Transfer
  | none => store.tables.transfers
  | some id => (store.transaction id).transfers

/-- The transfers of a store are apart, wherever they are. -/
def Files (store : Store) : Prop :=
  Filed store.shelf store.nextId

theorem files_empty : empty.Files where
  positive := Int.one_pos
  numbered := by
    intro place transfer member
    cases place <;> cases member
  distinct := by
    intro place
    cases place <;> exact List.Pairwise.nil
  separate := by
    intro left right _ first inLeft
    cases left <;> cases inLeft

/-- The end of a transaction empties its place, and no other. -/
theorem shelf_close (store : Store) (id : TransactionId) :
    (store.close id).shelf none = store.shelf none ∧
      (store.close id).shelf (some id) = [] ∧
        ∀ other, other ≠ id ->
          (store.close id).shelf (some other) = store.shelf (some other) := by
  refine ⟨?_, ?_, ?_⟩
  · simp [shelf]
  · simp [shelf, transaction_close_self, Transaction.fresh]
  · exact fun other different => (grows_close store (Ne.symm different)).transfers

theorem nextId_foldl_passOn (ibans : List String) (store : Store) :
    (ibans.foldl passOn store).nextId = store.nextId := by
  induction ibans generalizing store with
  | nil => rfl
  | cons iban rest ih =>
      rw [List.foldl_cons, ih, passOn_eq]
      split <;> rfl

theorem nextId_close (store : Store) (id : TransactionId) :
    (store.close id).nextId = store.nextId := by
  rw [close_eq, nextId_foldl_passOn]
  rfl

namespace Files

variable {store : Store}

/-- The log stays as it is, and nothing is staged in addition. -/
theorem lapses
    (files : store.Files)
    {after : Store}
    (ahead : store.nextId <= after.nextId)
    (log : after.tables.transfers = store.tables.transfers)
    (staged : ∀ id,
      (after.transaction id).transfers.Sublist (store.transaction id).transfers) :
    after.Files := by
  refine Filed.drops files ahead (fun place => ?_)
  cases place with
  | none =>
      change after.tables.transfers.Sublist store.tables.transfers
      rw [log]
  | some id => exact staged id

theorem begin (files : store.Files) : store.begin.2.Files := by
  refine files.lapses (Int.le_refl _) rfl (fun id => ?_)
  rw [transaction_begin]
  split
  · exact List.nil_sublist _
  · exact List.Sublist.refl _

/-- A change of a transaction that stages no transfer. -/
theorem update
    (files : store.Files)
    (id : TransactionId)
    {change : Transaction -> Transaction}
    (same : ∀ transaction, (change transaction).transfers = transaction.transfers) :
    (store.update id change).Files := by
  refine files.lapses (Int.le_refl _) rfl (fun other => ?_)
  rcases transaction_update store id change with kept | ⟨changed, elsewhere⟩
  · rw [kept other]
  · by_cases here : other = id
    · rw [here, changed, same]
    · rw [elsewhere other here]

theorem records
    (files : store.Files)
    (id : TransactionId)
    {transfer : Transfer}
    (named : transfer.id = store.nextId)
    (unstaged : ∀ staged ∈ (store.transaction id).transfers,
      staged.clashesWith transfer = false) :
    (store.useId.update id (Transaction.stageTransfer transfer)).Files := by
  rcases transaction_update store.useId id (.stageTransfer transfer) with
    kept | ⟨changed, elsewhere⟩
  · refine files.lapses (Int.le_of_lt (Int.lt_succ _)) rfl (fun other => ?_)
    rw [kept other]
    exact List.Sublist.refl _
  · refine Filed.adds files (some id) named unstaged ?_ ?_
    · exact congrArg Transaction.transfers changed
    · intro place different
      cases place with
      | none => rfl
      | some other =>
          exact congrArg Transaction.transfers
            (elsewhere other (fun same => different (congrArg some same)))

theorem close (files : store.Files) (id : TransactionId) : (store.close id).Files := by
  obtain ⟨log, emptied, elsewhere⟩ := shelf_close store id
  refine Filed.drops files (Int.le_of_eq (nextId_close store id).symm) (fun place => ?_)
  cases place with
  | none => exact log ▸ List.Sublist.refl _
  | some other =>
      by_cases here : other = id
      · rw [here, emptied]
        exact List.nil_sublist _
      · exact elsewhere other here ▸ List.Sublist.refl _

theorem commits
    (files : store.Files)
    {id : TransactionId}
    (unused : ∀ staged ∈ (store.transaction id).transfers, ∀ logged ∈ store.tables.transfers,
      logged.clashesWith staged = false) :
    ((store.retable (installed store.tables (store.transaction id))).close id).Files := by
  obtain ⟨log, emptied, elsewhere⟩ :=
    shelf_close (store.retable (installed store.tables (store.transaction id))) id
  have moved := Filed.moves files unused log emptied elsewhere
  rwa [Files, nextId_close]

/-- Whatever is asked, transfers are apart from each other. -/
theorem serve
    (files : store.Files)
    (current : Option TransactionId)
    (ask : LedgerAsk) :
    (store.serve current ask).store.Files := by
  have deals := deals_serve store current ask
  generalize store.serve current ask = served at deals
  cases deals with
  | begins => exact files.begin
  | idles => exact files
  | tells id iban => exact files
  | grants id iban present free => exact files.update id (fun _ => rfl)
  | queues id iban present unstaged => exact files
  | limits id iban date => exact files
  | stagesLimit id row held => exact files.update id (fun _ => rfl)
  | stagesAccount id row held => exact files.update id (fun _ => rfl)
  | records id draft unstaged => exact files.records id rfl unstaged
  | refuses id ask refusal next later writes =>
      exact files.lapses later rfl (fun _ => List.Sublist.refl _)
  | commits id unused => exact files.commits unused
  | undoes id ask answer ends uncommitted => exact files.close id

theorem endWait (files : store.Files) (id : TransactionId) (iban : String) :
    (store.endWait id iban).2.Files := by
  unfold Store.endWait
  split
  · exact files
  · exact files

theorem administer (files : store.Files) (write : AdminWrite) :
    (store.administer write.apply).Files := by
  refine files.lapses (Int.le_refl _) ?_ (fun _ => List.Sublist.refl _)
  cases write with
  | insertAccount account => rfl
  | setUserActive userId isActive => rfl

/-- A transfer that goes straight to the log clashes with nothing there. -/
theorem importTransfer (files : store.Files) (draft : TransferDraft) :
    (store.importTransfer draft).2.Files := by
  unfold Store.importTransfer
  dsimp only
  split
  · exact files.lapses (Int.le_of_lt (Int.lt_succ _)) rfl (fun _ => List.Sublist.refl _)
  · rename_i unused
    simp only [Tables.referenceTaken, List.any_eq_true, not_exists, not_and,
      Bool.not_eq_true] at unused
    refine Filed.adds files none rfl unused rfl (fun place different => ?_)
    cases place with
    | none => exact absurd rfl different
    | some id => rfl

end Files

/-! ## The log grows at its end -/

/-- Whatever is asked, accounts stay and the log grows at its end. -/
theorem rises_serve
    {store : Store}
    (guarded : store.Guarded)
    (current : Option TransactionId)
    (ask : LedgerAsk) :
    store.tables.Rises (store.serve current ask).store.tables := by
  have deals := deals_serve store current ask
  generalize store.serve current ask = served at deals
  cases deals with
  | commits id unused =>
      simp only [Served.store, close_tables]
      exact ⟨Tables.spans_installed _ (guarded id), List.prefix_append _ _⟩
  | undoes id answer ends uncommitted =>
      simp only [Served.store, close_tables]
      exact .refl store.tables
  | _ => exact .refl store.tables

theorem rises_endWait (store : Store) (id : TransactionId) (iban : String) :
    store.tables.Rises (store.endWait id iban).2.tables := by
  unfold endWait
  split
  · exact .refl store.tables
  · exact .refl store.tables

theorem rises_importTransfer (store : Store) (draft : TransferDraft) :
    store.tables.Rises (store.importTransfer draft).2.tables := by
  unfold importTransfer
  dsimp only
  split
  · exact .refl store.tables
  · exact ⟨fun _ present => present, List.prefix_append _ _⟩

theorem transactions_importTransfer (store : Store) (draft : TransferDraft) :
    (store.importTransfer draft).2.transactions = store.transactions := by
  unfold importTransfer
  dsimp only
  split <;> rfl

/-- What an import returns is in the log. -/
theorem mem_log_importTransfer
    {store : Store}
    {draft : TransferDraft}
    {transfer : Transfer}
    (imported : (store.importTransfer draft).1 = .ok transfer) :
    transfer ∈ (store.importTransfer draft).2.tables.transfers := by
  unfold importTransfer at imported ⊢
  dsimp only at imported ⊢
  split at imported
  · cases imported
  · rename_i unused
    rw [if_neg unused]
    cases imported
    simp

end Store

namespace Tables

/-- A transfer in the log is what its number is looked up as. -/
theorem find?_of_mem
    {tables : Tables}
    (ids : (tables.transfers.map Transfer.id).Nodup)
    {transfer : Transfer}
    (logged : transfer ∈ tables.transfers) :
    tables.transfers.find? (fun other => other.id = transfer.id) = some transfer := by
  cases found : tables.transfers.find? (fun other => decide (other.id = transfer.id)) with
  | none => simpa using List.find?_eq_none.mp found transfer logged
  | some other =>
      have named : other.id = transfer.id := by simpa using List.find?_some found
      rw [List.inj_on_of_nodup_map ids (List.mem_of_find?_eq_some found) logged named]

/-- Looking up a transfer in the log only takes the owners of both of its accounts. -/
theorem findTransfer_of_mem
    {tables : Tables}
    (ids : (tables.transfers.map Transfer.id).Nodup)
    {transfer : Transfer}
    (logged : transfer ∈ tables.transfers) :
    tables.findTransfer transfer.id = (do
      let sender <- tables.ownerOf transfer.id transfer.sender
      let receiver <- tables.ownerOf transfer.id transfer.receiver
      .ok (some ⟨transfer, sender, receiver⟩)) := by
  rw [findTransfer, find?_of_mem ids logged]

end Tables
end Giro
