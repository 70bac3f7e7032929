import Giro.Proofs.Traffic.Isolation

/-!
# The archive of transfers

No two transfers in the log share their number, their reference or their external
identifier, and what is in the log stays there unchanged, whatever clients do. So
whoever was told that a transfer is done, or that it was imported, finds it under
its number from then on; and of several transactions that use one reference at
the same time at most one is committed.
-/

namespace Giro

namespace Tables

/-- Looking up the number of a transfer in the log takes no more than the owners of its accounts. -/
structure Finds (tables : Tables) (transfer : Transfer) : Prop where
  logged : transfer ∈ tables.transfers
  found : tables.findTransfer transfer.id = (do
    let sender <- tables.ownerOf transfer.id transfer.sender
    let receiver <- tables.ownerOf transfer.id transfer.receiver
    .ok (some ⟨transfer, sender, receiver⟩))

/-- A transfer in the log, both accounts of which are there. -/
structure Archives (tables : Tables) (transfer : Transfer) : Prop where
  logged : transfer ∈ tables.transfers
  sender : tables.accounts.contains transfer.sender = true
  receiver : tables.accounts.contains transfer.receiver = true

theorem Archives.rises
    {before after : Tables}
    {transfer : Transfer}
    (archives : before.Archives transfer)
    (rises : before.Rises after) :
    after.Archives transfer where
  logged := rises.log.subset archives.logged
  sender := rises.accounts _ archives.sender
  receiver := rises.accounts _ archives.receiver

theorem ownerOf_of_contains
    {tables : Tables}
    {iban : String}
    (present : tables.accounts.contains iban = true)
    (id : Int) :
    ∃ owner, tables.ownerOf id iban = .ok owner := by
  obtain ⟨account, found⟩ := Option.isSome_iff_exists.mp present
  exact ⟨account.owner, by rw [ownerOf, findAccount, found]⟩

/-- A transfer is found along with the owners of its accounts, if these are there. -/
theorem Archives.findTransfer
    {tables : Tables}
    {transfer : Transfer}
    (archives : tables.Archives transfer)
    (ids : (tables.transfers.map Transfer.id).Nodup) :
    ∃ sender receiver,
      tables.findTransfer transfer.id = .ok (some ⟨transfer, sender, receiver⟩) := by
  obtain ⟨sender, senderOwns⟩ := ownerOf_of_contains archives.sender transfer.id
  obtain ⟨receiver, receiverOwns⟩ := ownerOf_of_contains archives.receiver transfer.id
  refine ⟨sender, receiver, ?_⟩
  rw [findTransfer_of_mem ids archives.logged, senderOwns, receiverOwns]
  rfl

/-- A transfer that is booked is in the log, and its accounts are there. -/
theorem archives_book
    (tables : Tables)
    {errand : Errand}
    (plan : errand.Plan)
    {transfer : Transfer}
    (drafted : transfer.toTransferDraft = errand.draft plan.pair.toLockedPair) :
    (tables.book plan.posting transfer).Archives transfer := by
  have sender : transfer.sender = plan.posting.sender.iban := by
    rw [plan.senderNamed, ← plan.pair.senderNamed]
    exact congrArg TransferDraft.sender drafted
  have receiver : transfer.receiver = plan.posting.receiver.iban := by
    rw [plan.receiverNamed, ← plan.pair.receiverNamed]
    exact congrArg TransferDraft.receiver drafted
  refine ⟨List.mem_append_right _ (List.mem_singleton_self transfer), ?_, ?_⟩
  · rw [sender, book, Table.contains_put, Table.contains_put]
    simp
  · rw [receiver, book, Table.contains_put]
    simp

end Tables

/-- A call that has succeeded after a step has its transfer in the log by then. -/
theorem Progress.Moves.archives
    {errand : Errand}
    {before after : Tables}
    {progress later : Progress errand}
    (moves : Progress.Moves errand before progress later after)
    (rises : before.Rises after)
    (earlier : ∀ transfer,
      progress.verdict? = some (.ok transfer) -> before.Archives transfer)
    {transfer : Transfer}
    (succeeds : later.verdict? = some (.ok transfer)) :
    after.Archives transfer := by
  cases moves with
  | goes next =>
      cases next with
      | commits plan recorded drafted unused =>
          cases succeeds
          exact before.archives_book plan drafted
      | notes plan recorded instant => exact (earlier transfer succeeds).rises rises
      | audits plan recorded instant => exact (earlier transfer succeeds).rises rises
      | dispatches plan recorded => exact (earlier transfer succeeds).rises rises
      | _ => cases succeeds
  | tires undecided => cases succeeds
  | stays => exact earlier transfer succeeds

namespace Traffic

/-- The transfers that clients were told are done are in the log. -/
structure Reports (clients : List Client) (traffic : Traffic) : Prop where
  conforms : traffic.Conforms
  reports : ∀ (index : Nat) (errand : Errand) (call : TransferCall),
    clients[index]? = some (.transfers errand) -> traffic.calls[index]? = some call ->
      ∃ progress : Progress errand, progress.Tracks traffic.store call ∧
        ∀ transfer, progress.verdict? = some (.ok transfer) -> traffic.tables.Archives transfer

theorem reports_serving (accounts : List Account) (clients : List Client) :
    (serving accounts clients).Reports clients where
  conforms := conforms_serving accounts clients
  reports := by
    intro index errand call here there
    simp only [serving, List.getElem?_map, here, Option.map_some, Option.some.injEq] at there
    subst there
    refine ⟨errand.outset, errand.tracks_outset _, fun transfer succeeds => ?_⟩
    unfold Errand.outset at succeeds
    split at succeeds <;> cases succeeds

namespace Reports

variable {clients : List Client} {traffic : Traffic}

theorem advance (reports : traffic.Reports clients) (index : Nat) :
    (traffic.advance index).Reports clients := by
  refine ⟨reports.conforms.advance index, ?_⟩
  cases there : traffic.calls[index]? with
  | none =>
      rw [advance_of_absent there]
      exact reports.reports
  | some call =>
      have rises := reports.conforms.rises_make (.turn (.step index))
      rw [make, take, advance_of_call there] at rises
      rw [advance_of_call there]
      intro other errand second here found
      rw [List.getElem?_set] at found
      by_cases same : index = other
      · subst same
        rw [if_pos rfl] at found
        split at found <;> cases found
        obtain ⟨progress, tracks, archived⟩ := reports.reports index errand call here there
        obtain ⟨later, moves, tracked⟩ := tracks.moves reports.conforms.lawful.keyed
        exact ⟨later, tracked, fun transfer => moves.archives rises archived⟩
      · rw [if_neg same] at found
        obtain ⟨progress, tracks, archived⟩ := reports.reports other errand second here found
        refine ⟨progress, ?_, fun transfer succeeds => (archived transfer succeeds).rises rises⟩
        exact tracks.spared (call.spares_advance reports.conforms.lawful.orderly)
          (reports.conforms.others_advance there found same)

theorem make (reports : traffic.Reports clients) (move : Move) :
    (traffic.make move).Reports clients := by
  have outside : ∀ {after : Store}, (⟨after, traffic.calls⟩ : Traffic).Conforms ->
      after.transactions = traffic.store.transactions -> traffic.tables.Rises after.tables ->
        (⟨after, traffic.calls⟩ : Traffic).Reports clients := by
    intro after conforms same rises
    refine ⟨conforms, fun index errand call here there => ?_⟩
    obtain ⟨progress, tracks, archived⟩ := reports.reports index errand call here there
    have spares : Store.Spares none traffic.store after := .of_transactions same
    exact ⟨progress, tracks.spared spares (fun _ _ impossible => by cases impossible),
      fun transfer succeeds => (archived transfer succeeds).rises rises⟩
  have conforms := reports.conforms.make move
  have rises := reports.conforms.rises_make move
  cases move with
  | turn turn =>
      cases turn with
      | step index => exact reports.advance index
      | administer write => exact outside conforms rfl rises
  | imports draft => exact outside conforms (traffic.store.transactions_importTransfer draft) rises

theorem makeAll (reports : traffic.Reports clients) (moves : List Move) :
    (traffic.makeAll moves).Reports clients := by
  induction moves generalizing traffic with
  | nil => exact reports
  | cons move rest ih => exact ih (reports.make move)

/-- A transfer that a client was told is done is in the log. -/
theorem archives_of_outcome
    (reports : traffic.Reports clients)
    {index : Nat}
    {errand : Errand}
    {transfer : Transfer}
    (here : clients[index]? = some (.transfers errand))
    (known : traffic.outcome? index = some (.ok transfer)) :
    traffic.tables.Archives transfer := by
  rw [outcome?, Option.bind_eq_some_iff] at known
  obtain ⟨call, there, known⟩ := known
  obtain ⟨progress, tracks, archived⟩ := reports.reports index errand call here there
  have ended : progress = .ended (.ok transfer) := tracks.ended_of_outcome? known
  exact archived transfer (ended ▸ rfl)

end Reports

/-! ## Nothing recorded is lost -/

/-- The transfers that the next step of a call commits. -/
def committed (traffic : Traffic) (index : Nat) : List Transfer :=
  match traffic.current? index, traffic.heard? index with
  | some id, some exchange =>
      if exchange.commits then (traffic.store.transaction id).transfers else []
  | _, _ => []

/-- A step adds to the log what it commits, and nothing else. -/
theorem Isolated.log_advance
    {traffic : Traffic}
    (isolated : traffic.Isolated)
    (index : Nat) :
    (traffic.advance index).tables.transfers =
      traffic.tables.transfers ++ traffic.committed index := by
  cases heard : traffic.heard? index with
  | none =>
      rw [isolated.keeps index (fun exchange found => by cases heard.symm.trans found)]
      cases current : traffic.current? index <;> simp [committed, heard, current]
  | some exchange =>
      cases commits : exchange.commits with
      | true =>
          obtain ⟨id, own, installs⟩ := isolated.installs index exchange heard commits
          rw [installs.transfers]
          simp [committed, heard, own, commits]
      | false =>
          have kept := isolated.keeps index (fun other found => by
            cases heard.symm.trans found
            exact commits)
          rw [kept]
          cases current : traffic.current? index <;> simp [committed, heard, current, commits]

/-- The log as clients may rely on it: without repetition, and for good. -/
structure Archived (clients : List Client) (traffic : Traffic) : Prop where
  ids : (traffic.tables.transfers.map Transfer.id).Nodup
  references : (traffic.tables.transfers.map (fun transfer => transfer.reference)).Nodup
  externalIds : (traffic.tables.transfers.map (fun transfer => transfer.externalId)).Nodup
  /-- A move leaves the log as it is, but for what it adds at the end. -/
  grows : ∀ move, traffic.tables.transfers <+: (traffic.make move).tables.transfers
  /-- A transfer that a call has returned is found for ever, with the owners of its accounts. -/
  returned : ∀ index errand transfer moves,
    clients[index]? = some (.transfers errand) ->
      traffic.outcome? index = some (.ok transfer) ->
        ∃ sender receiver,
          (traffic.makeAll moves).tables.findTransfer transfer.id =
            .ok (some ⟨transfer, sender, receiver⟩)
  /-- A transfer that an import has returned is found for ever, as far as it has owners. -/
  imported : ∀ draft transfer moves,
    (traffic.store.importTransfer draft).1 = .ok transfer ->
      ((traffic.make (.imports draft)).makeAll moves).tables.Finds transfer
  /-- What is committed now has no reference and no identifier of what is committed later. -/
  once : ∀ first second moves, ∀ earlier ∈ traffic.committed first,
    ∀ later ∈ ((traffic.make (.turn (.step first))).makeAll moves).committed second,
      earlier.reference ≠ later.reference ∧ earlier.externalId ≠ later.externalId

theorem Conforms.nodup_id {traffic : Traffic} (conforms : traffic.Conforms) :
    (traffic.tables.transfers.map Transfer.id).Nodup :=
  conforms.lawful.files.nodup_id none

/-- What is in the log is apart from whatever a step adds to it. -/
theorem Conforms.apart_committed
    {traffic : Traffic}
    (conforms : traffic.Conforms)
    {index : Nat}
    {logged added : Transfer}
    (before : logged ∈ traffic.tables.transfers)
    (adds : added ∈ traffic.committed index) :
    logged.Apart added := by
  have distinct : (traffic.advance index).tables.transfers.Pairwise Transfer.Apart :=
    (conforms.advance index).lawful.files.distinct none
  rw [conforms.isolated.log_advance, List.pairwise_append] at distinct
  exact distinct.2.2 logged before added adds

theorem Reports.archived
    {clients : List Client}
    {traffic : Traffic}
    (reports : traffic.Reports clients) :
    traffic.Archived clients := by
  have conforms := reports.conforms
  have files := conforms.lawful.files
  constructor
  case ids => exact files.nodup_id none
  case references => exact files.nodup_reference none
  case externalIds => exact files.nodup_externalId none
  case grows => exact fun move => (conforms.rises_make move).log
  case returned =>
    intro index errand transfer moves here known
    have archives := (reports.archives_of_outcome here known).rises
      (conforms.rises_makeAll moves)
    exact archives.findTransfer (conforms.makeAll moves).nodup_id
  case imported =>
    intro draft transfer moves imported
    have after := conforms.make (.imports draft)
    have logged := (after.rises_makeAll moves).log.subset
      (Store.mem_log_importTransfer imported)
    exact ⟨logged, Tables.findTransfer_of_mem (after.makeAll moves).nodup_id logged⟩
  case once =>
    intro first second moves earlier committed later commits
    have after := conforms.make (.turn (.step first))
    have logged : earlier ∈ (traffic.make (.turn (.step first))).tables.transfers := by
      change earlier ∈ (traffic.advance first).tables.transfers
      rw [conforms.isolated.log_advance]
      exact List.mem_append_right _ committed
    have apart := (after.makeAll moves).apart_committed
      ((after.rises_makeAll moves).log.subset logged) commits
    simpa [Transfer.clashesWith] using apart.2

/--
Whatever clients do, and whatever is administered or imported meanwhile, no two
transfers in the log can be confused with each other, and none of them is ever lost.
-/
theorem log_archived
    (accounts : List Account)
    (clients : List Client)
    (moves : List Move) :
    ((serving accounts clients).makeAll moves).Archived clients :=
  ((reports_serving accounts clients).makeAll moves).archived

end Traffic

namespace Sample

/-- A client that records a transfer of its own, under a reference that others use too. -/
def recorder (code : Nat) : Client :=
  .transacts
    (.ask (.ledger .begin) (fun _ =>
      .ask (.ledger (.record
        ((errand "A" "B" 1 code "R").request.draft ⟨account "A" 1, account "B" 2⟩ ⟨code⟩ "R"
          ⟨0, 0⟩))) (fun (recorded : Except Refusal Transfer) =>
        .ask (.ledger .commit) (fun _ => .done (Failure.ofRefusal recorded)))))
    (oracle code "R")

end Sample

/-- Both transfers are staged before either is committed, and only one gets into the log. -/
example :
    let turns := [0, 1, 0, 1, 0, 1].map (fun index => Move.turn (.step index))
    let traffic := (Traffic.serving Sample.accounts [Sample.recorder 7, Sample.recorder 8]).makeAll
      turns
    traffic.tables.transfers.length = 1 ∧ traffic.store.nextId = 3 := by
  decide

end Giro
