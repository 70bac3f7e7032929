import Giro.Proofs.Traffic.Progress

/-!
# Steps of a call

All that a step of a call can be that does not have to wait. Whoever else is on
the store, the call goes on from one point of its way to the next, and reads the
committed rows at that moment. Only one of these steps changes them.
-/

namespace Giro

/-- One call goes on, with the committed rows as they are before and after. -/
inductive Next (errand : Errand) (tables : Tables) :
    Progress errand -> Progress errand -> Tables -> Prop
  | begins : Next errand tables .requested .lockingFirst tables
  | locksFirst
      (first : Account)
      (named : first.iban = errand.order.1)
      (found : tables.findAccount errand.order.1 = some first) :
      Next errand tables .lockingFirst (.lockingSecond first named) tables
  | lacksFirst (missing : tables.findAccount errand.order.1 = none) :
      Next errand tables .lockingFirst
        (.failing (.refused
          (.accountMissing (errand.side errand.order.1) errand.order.1))) tables
  | locksSecond
      (first second : Account)
      (firstNamed : first.iban = errand.order.1)
      (secondNamed : second.iban = errand.order.2)
      (found : tables.findAccount errand.order.2 = some second) :
      Next errand tables (.lockingSecond first firstNamed)
        (.clocking (.ofRows first second firstNamed secondNamed)) tables
  | lacksSecond
      (first : Account)
      (named : first.iban = errand.order.1)
      (missing : tables.findAccount errand.order.2 = none) :
      Next errand tables (.lockingSecond first named)
        (.failing (.refused
          (.accountMissing (errand.side errand.order.2) errand.order.2))) tables
  | reads (pair : errand.Pair) :
      Next errand tables (.clocking pair) (.consulting pair) tables
  | proposes
      (plan : errand.Plan)
      (found : tables.dailyLimit errand.sender errand.instant.date = plan.today) :
      Next errand tables (.consulting plan.pair) (.savingLimit plan) tables
  | rejects
      (pair : errand.Pair)
      (failure : Failure)
      (rejected : errand.propose pair.toLockedPair
        (tables.dailyLimit errand.sender errand.instant.date) = .error failure) :
      Next errand tables (.consulting pair) (.failing failure) tables
  | stagesLimit (plan : errand.Plan) :
      Next errand tables (.savingLimit plan) (.savingSender plan) tables
  | stagesSender
      (plan : errand.Plan)
      (covered : ¬ plan.posting.sender.balance < Decimal.zero) :
      Next errand tables (.savingSender plan) (.savingReceiver plan) tables
  | overdrawsSender
      (plan : errand.Plan)
      (negative : plan.posting.sender.balance < Decimal.zero) :
      Next errand tables (.savingSender plan)
        (.failing (.refused (.negativeBalance plan.posting.sender.iban))) tables
  | stagesReceiver
      (plan : errand.Plan)
      (covered : ¬ plan.posting.receiver.balance < Decimal.zero) :
      Next errand tables (.savingReceiver plan) (.identifying plan) tables
  | overdrawsReceiver
      (plan : errand.Plan)
      (negative : plan.posting.receiver.balance < Decimal.zero) :
      Next errand tables (.savingReceiver plan)
        (.failing (.refused (.negativeBalance plan.posting.receiver.iban))) tables
  | identifies (plan : errand.Plan) :
      Next errand tables (.identifying plan) (.referencing plan) tables
  | references (plan : errand.Plan) :
      Next errand tables (.referencing plan) (.recording plan) tables
  | records
      (plan : errand.Plan)
      (transfer : Transfer)
      (drafted : transfer.toTransferDraft = errand.draft plan.pair.toLockedPair) :
      Next errand tables (.recording plan) (.committing plan transfer drafted) tables
  | clashes
      (plan : errand.Plan)
      (used : tables.referenceTaken ⟨errand.draft plan.pair.toLockedPair, 0⟩ = true) :
      Next errand tables (.recording plan)
        (.failing (.refused .duplicateReference)) tables
  | commits
      (plan : errand.Plan)
      (transfer : Transfer)
      (drafted : transfer.toTransferDraft = errand.draft plan.pair.toLockedPair)
      (unused : tables.referenceTaken transfer = false) :
      Next errand tables (.committing plan transfer drafted) (.noting plan transfer)
        (tables.book plan.posting transfer)
  | collides
      (plan : errand.Plan)
      (transfer : Transfer)
      (drafted : transfer.toTransferDraft = errand.draft plan.pair.toLockedPair)
      (used : tables.referenceTaken transfer = true) :
      Next errand tables (.committing plan transfer drafted)
        (.ended (.error (.refused .duplicateReference))) tables
  | undoes (failure : Failure) :
      Next errand tables (.failing failure) (.ended (.error failure)) tables
  | notes (plan : errand.Plan) (transfer : Transfer) (instant : Instant) :
      Next errand tables (.noting plan transfer) (.auditing plan transfer instant) tables
  | audits (plan : errand.Plan) (transfer : Transfer) (instant : Instant) :
      Next errand tables (.auditing plan transfer instant) (.dispatching plan transfer) tables
  | dispatches (plan : errand.Plan) (transfer : Transfer) :
      Next errand tables (.dispatching plan transfer) (.ended (.ok transfer)) tables

namespace TransferCall

variable {call : TransferCall} {store after : Store} {current later : Option TransactionId}

theorem advance_ledger
    {ask : LedgerAsk}
    {next : ask.Answer -> TransferScript (Except Failure Transfer)}
    (stands : call.standing = .active current (.ask (.ledger ask) next)) :
    call.advance store = call.receive ask next (store.serve current ask) := by
  simp [advance, stands]

theorem advance_answered
    {ask : LedgerAsk}
    {next : ask.Answer -> TransferScript (Except Failure Transfer)}
    {answer : ask.Answer}
    (stands : call.standing = .active current (.ask (.ledger ask) next))
    (served : store.serve current ask = .answered answer later after) :
    call.advance store =
      (call.hear (.ledger ask) answer (.active later (next answer)), after) := by
  rw [advance_ledger stands, served, receive]

theorem advance_delayed
    {ask : LedgerAsk}
    {next : ask.Answer -> TransferScript (Except Failure Transfer)}
    {id : TransactionId}
    {iban : String}
    {reply : Except Refusal (Option Account) -> ask.Answer}
    (stands : call.standing = .active current (.ask (.ledger ask) next))
    (served : store.serve current ask = .waiting id iban reply after) :
    call.advance store =
      ({ call with standing := .waiting id iban ask reply next }, after) := by
  rw [advance_ledger stands, served, receive]

theorem advance_outside
    (call : TransferCall)
    (store : Store)
    {ask : OutsideAsk}
    {next : ask.Answer -> TransferScript (Except Failure Transfer)}
    (stands : call.standing = .active current (.ask (.outside ask) next)) :
    call.advance store =
      (call.hear (.outside ask) (call.oracle call.transcript.length ask)
        (.active current (next (call.oracle call.transcript.length ask))), store) := by
  simp [advance, stands]

theorem advance_done
    {outcome : Except Failure Transfer}
    (stands : call.standing = .active current (.done outcome)) :
    call.advance store = (call, store) := by
  simp [advance, stands]

theorem advance_waiting
    (call : TransferCall)
    (store : Store)
    {id : TransactionId}
    {iban : String}
    {ask : LedgerAsk}
    {reply : Except Refusal (Option Account) -> ask.Answer}
    {next : ask.Answer -> TransferScript (Except Failure Transfer)}
    (stands : call.standing = .waiting id iban ask reply next) :
    call.advance store =
      (call.hear (.ledger ask) (reply (store.endWait id iban).1)
        (.active (some id) (next (reply (store.endWait id iban).1))),
        (store.endWait id iban).2) := by
  simp [advance, stands]

theorem rows_hear
    (call : TransferCall)
    (ask : TransferAsk)
    (answer : ask.Answer)
    (standing : Standing) :
    (call.hear ask answer standing).rows =
      call.rows ++ (Exchange.row? ⟨ask, answer⟩).toList := by
  simp only [rows, hear, List.filterMap_append]
  cases answered : Exchange.row? ⟨ask, answer⟩ <;> simp [answered]

end TransferCall

namespace Progress

variable {errand : Errand} {store : Store} {call : TransferCall}

/-- A call that goes on names two accounts. -/
theorem distinct_of_next
    {before after : Tables}
    {progress later : Progress errand}
    (distinct : errand.sender ≠ errand.receiver ∨ ∃ outcome, progress = .ended outcome)
    (next : Next errand before progress later after) :
    errand.sender ≠ errand.receiver := by
  apply distinct.resolve_right
  rintro ⟨outcome, rfl⟩
  cases next

/-- The next step of a call takes it from one point of its way to another one. -/
def Proceeds (progress : Progress errand) (store : Store) (call : TransferCall) : Prop :=
  ∃ later,
    Next errand store.tables progress later (call.advance store).2.tables ∧
      later.Tracks (call.advance store).2 (call.advance store).1 ∧
        ∃ current, (call.advance store).1.standing = .active current later.script

theorem Tracks.current_inside
    {progress : Progress errand}
    (tracks : progress.Tracks store call)
    (inside : progress.inside = true) :
    ∃ id transaction,
      call.current = some id ∧
        store.transactions.get? id = some transaction ∧
        ∀ work, progress.work? = some work -> work.Grows transaction := by
  obtain ⟨-, -, -, seated, -⟩ := tracks
  generalize call.current = current at seated
  cases seated with
  | outside outside =>
      rw [inside] at outside
      cases outside
  | inside id transaction _ here work => exact ⟨id, transaction, rfl, here, work⟩

theorem Tracks.current_outside
    {progress : Progress errand}
    (tracks : progress.Tracks store call)
    (outside : progress.inside = false) :
    call.current = none := by
  obtain ⟨-, -, -, seated, -⟩ := tracks
  generalize call.current = current at seated
  cases seated with
  | outside _ => rfl
  | inside id transaction inside _ _ =>
      rw [outside] at inside
      cases inside

/-- A call that is answered has taken the step that the answer allows. -/
theorem Tracks.proceeds
    {progress : Progress errand}
    (later : Progress errand)
    {current : Option TransactionId}
    {ask : TransferAsk}
    {answer : ask.Answer}
    {script : TransferScript (Except Failure Transfer)}
    {after : Store}
    (tracks : progress.Tracks store call)
    (advance :
      call.advance store = (call.hear ask answer (.active current script), after))
    (next : Next errand store.tables progress later after.tables)
    (left : script = later.script)
    (seated : later.Seated after current)
    (heard : ∀ asked, later.asked? = some asked ->
      ∃ before, progress.asked? = some before ∧ asked = before + 1 ∧
        later.rows = progress.rows ++ (Exchange.row? ⟨ask, answer⟩).toList) :
    progress.Proceeds store call := by
  refine ⟨later, ?_, ?_, current, ?_⟩
  · rw [advance]
    exact next
  · rw [advance]
    constructor
    · exact tracks.oracle
    · left
      exact distinct_of_next tracks.distinct next
    · rw [left]
      exact .active later current
    · exact seated
    · intro asked equal
      obtain ⟨before, counted, rfl, rows⟩ := heard asked equal
      obtain ⟨length, handed⟩ := tracks.heard before counted
      refine ⟨?_, ?_⟩
      · simp [TransferCall.hear, length]
      · rw [TransferCall.rows_hear, handed, rows]
  · rw [advance, ← left]
    rfl

/-! ## Both locks -/

/-- The first lock is granted along with the row, if there is one. -/
theorem Tracks.hears_first
    {id : TransactionId}
    {after : Store}
    {transaction : Transaction}
    (keyed : store.tables.Keyed)
    (tracks : (lockingFirst : Progress errand).Tracks store call)
    (advance :
      call.advance store =
        (call.hear (.ledger (.lock errand.order.1))
          (.ok (store.tables.findAccount errand.order.1) : Except Refusal (Option Account))
          (.active (some id)
            (errand.onFirst (.ok (store.tables.findAccount errand.order.1)))), after))
    (same : after.tables = store.tables)
    (here : after.transactions.get? id = some transaction)
    (grows : Transaction.fresh.Grows transaction)
    (held : (store.tables.findAccount errand.order.1).isSome ->
      errand.order.1 ∈ transaction.held) :
    (lockingFirst : Progress errand).Proceeds store call := by
  cases found : store.tables.findAccount errand.order.1 with
  | none =>
      rw [found] at advance
      refine tracks.proceeds (.failing (.refused _)) advance ?_ rfl ?_
        (fun _ asked => by cases asked)
      · rw [same]
        exact .lacksFirst found
      · exact .inside id transaction rfl here (fun _ work => by cases work)
  | some first =>
      have named := keyed.accounts _ _ found
      rw [found] at advance held
      refine tracks.proceeds (.lockingSecond first named) advance ?_ rfl ?_ ?_
      · rw [same]
        exact .locksFirst first named found
      · apply Seated.inside id transaction rfl here
        intro work equal
        cases equal
        refine ⟨?_, grows.accounts, grows.limits, grows.transfers⟩
        intro iban member
        rw [List.mem_singleton] at member
        exact member ▸ held rfl
      · intro asked equal
        cases equal
        exact ⟨1, rfl, rfl, rfl⟩

/-- The second lock is granted along with the row, if there is one. -/
theorem Tracks.hears_second
    {first : Account}
    {firstNamed : first.iban = errand.order.1}
    {id : TransactionId}
    {after : Store}
    {transaction : Transaction}
    (keyed : store.tables.Keyed)
    (tracks : (lockingSecond first firstNamed : Progress errand).Tracks store call)
    (advance :
      call.advance store =
        (call.hear (.ledger (.lock errand.order.2))
          (.ok (store.tables.findAccount errand.order.2) : Except Refusal (Option Account))
          (.active (some id)
            (errand.onSecond first (.ok (store.tables.findAccount errand.order.2)))), after))
    (same : after.tables = store.tables)
    (here : after.transactions.get? id = some transaction)
    (grows : Transaction.Grows ⟨[errand.order.1], .empty, .empty, []⟩ transaction)
    (held : (store.tables.findAccount errand.order.2).isSome ->
      errand.order.2 ∈ transaction.held) :
    (lockingSecond first firstNamed : Progress errand).Proceeds store call := by
  cases found : store.tables.findAccount errand.order.2 with
  | none =>
      rw [found] at advance
      refine tracks.proceeds (.failing (.refused _)) advance ?_ rfl ?_
        (fun _ asked => by cases asked)
      · rw [same]
        exact .lacksSecond first firstNamed found
      · exact .inside id transaction rfl here (fun _ work => by cases work)
  | some second =>
      have secondNamed := keyed.accounts _ _ found
      rw [found] at advance held
      have left : errand.onSecond first (.ok (some second)) =
          (clocking (.ofRows first second firstNamed secondNamed)).script := by
        rw [script, Errand.Pair.toLockedPair_ofRows]
        rfl
      refine tracks.proceeds (.clocking (.ofRows first second firstNamed secondNamed))
        advance ?_ left ?_ ?_
      · rw [same]
        exact .locksSecond first second firstNamed secondNamed found
      · apply Seated.inside id transaction rfl here
        intro work equal
        cases equal
        refine ⟨?_, grows.accounts, grows.limits, grows.transfers⟩
        intro iban member
        rcases List.mem_cons.mp member with rfl | last
        · exact grows.held _ (List.mem_singleton_self _)
        · rw [List.mem_singleton] at last
          exact last ▸ held rfl
      · intro asked equal
        cases equal
        exact ⟨2, rfl, rfl, Errand.Pair.rows_ofRows firstNamed secondNamed⟩

/-! ## One lemma for each point of the way -/

section Points

variable {current : Option TransactionId}

theorem current_of_active
    {progress : Progress errand}
    (stands : call.standing = .active current progress.script) :
    call.current = current := by
  simp [TransferCall.current, stands]

/-- A row of the transfer is among the rows that are locked. -/
theorem held_of_both
    {transaction : Transaction}
    {iban : String}
    {accounts : Table String Account}
    {limits : Table (String × Date) DailyLimit}
    {transfers : List Transfer}
    (grows : Transaction.Grows
      ⟨[errand.order.1, errand.order.2], accounts, limits, transfers⟩ transaction)
    (member : iban = errand.sender ∨ iban = errand.receiver) :
    iban ∈ transaction.held :=
  grows.held iban ((errand.mem_order iban).mpr member)

theorem lockPair_eq
    {β : Type}
    (distinct : errand.sender ≠ errand.receiver)
    (next : LockedPair -> TransferWork β) :
    TransferWork.lockPair errand.sender errand.receiver next =
      .lockExisting (errand.side errand.order.1) errand.order.1 (fun first =>
        .lockExisting (errand.side errand.order.2) errand.order.2 (fun second =>
          next (errand.arrange first second))) := by
  have order : lockOrder errand.sender errand.receiver = errand.order := by
    rw [Errand.order]
  rw [TransferWork.lockPair, if_neg distinct]
  simp only [order, Errand.side, Errand.arrange, apply_ite next]

theorem script_requested (distinct : errand.sender ≠ errand.receiver) :
    (requested : Progress errand).script =
      .ask (.ledger .begin) (fun (answer : Except Refusal Unit) =>
        match answer with
        | .error refusal => .done (.error (.refused refusal))
        | .ok _ => (lockingFirst : Progress errand).script) := by
  have execution :
      TransferWork.execute errand.request errand.sender errand.receiver errand.caller =
        .lockExisting (errand.side errand.order.1) errand.order.1 (fun first =>
          .lockExisting (errand.side errand.order.2) errand.order.2 (fun second =>
            errand.afterLocks (errand.arrange first second))) :=
    lockPair_eq distinct errand.afterLocks
  have opened :
      (requested : Progress errand).script =
        .ask (.ledger .begin) (fun (answer : Except Refusal Unit) =>
          match answer with
          | .error refusal => .done (.error (.refused refusal))
          | .ok _ =>
              errand.finish
                (.execute errand.request errand.sender errand.receiver errand.caller)) := by
    unfold Errand.sender Errand.receiver at distinct ⊢
    simp only [script, transferScript, if_neg distinct]
    rfl
  rw [opened, execution]
  rfl

theorem Tracks.proceeds_requested
    (tracks : (requested : Progress errand).Tracks store call)
    (stands : call.standing = .active current (requested : Progress errand).script) :
    (requested : Progress errand).Proceeds store call := by
  have distinct : errand.sender ≠ errand.receiver := by
    apply tracks.distinct.resolve_right
    rintro ⟨outcome, equal⟩
    cases equal
  have outside : current = none :=
    (current_of_active stands).symm.trans (tracks.current_outside rfl)
  subst outside
  rw [script_requested distinct] at stands
  have served : store.serve none .begin =
      .answered (.ok () : Except Refusal Unit) (some store.nextTransaction)
        store.begin.2 := rfl
  refine tracks.proceeds .lockingFirst (TransferCall.advance_answered stands served)
    .begins rfl ?_ ?_
  · refine .inside _ .fresh rfl (Store.get?_begin store) ?_
    intro work equal
    cases equal
    exact .refl .fresh
  · intro asked equal
    cases equal
    exact ⟨0, rfl, rfl, rfl⟩

theorem Tracks.proceeds_clocking
    {pair : errand.Pair}
    (tracks : (clocking pair).Tracks store call)
    (stands : call.standing = .active current (clocking pair).script) :
    (clocking pair).Proceeds store call := by
  obtain ⟨id, transaction, own, here, work⟩ := tracks.current_inside rfl
  rw [current_of_active stands] at own
  subst own
  have instant : call.oracle call.transcript.length .now = errand.instant := by
    rw [tracks.oracle, (tracks.heard 3 rfl).1, Errand.instant]
  have advance := call.advance_outside store stands
  rw [instant] at advance
  refine tracks.proceeds (.consulting pair) advance (.reads pair) rfl ?_ ?_
  · exact .inside id transaction rfl here work
  · intro asked equal
    cases equal
    exact ⟨3, rfl, rfl, (List.append_nil _).symm⟩

theorem settle_eq (pair : LockedPair) (today : Option DailyLimit) :
    TransferWork.settle errand.request errand.caller pair errand.instant today =
      .orElse (errand.propose pair today) (fun posting =>
        .apply posting (errand.afterStaging pair posting)) := by
  rw [TransferWork.settle, Errand.propose]
  change TransferWork.orElse (errand.candidate pair today).validate _ = _
  cases (errand.candidate pair today).validate with
  | error failure => rfl
  | ok _ =>
      cases Posting.post pair errand.request.amount errand.instant.date today <;> rfl

theorem Tracks.proceeds_consulting
    {pair : errand.Pair}
    (keyed : store.tables.Keyed)
    (tracks : (consulting pair).Tracks store call)
    (stands : call.standing = .active current (consulting pair).script) :
    (consulting pair).Proceeds store call := by
  obtain ⟨id, transaction, own, here, work⟩ := tracks.current_inside rfl
  rw [current_of_active stands] at own
  subst own
  have unstaged : transaction.limits.get? (errand.sender, errand.instant.date) = none := by
    rw [(work _ rfl).limits]
    rfl
  have advance := TransferCall.advance_answered stands (Store.serve_readLimit here unstaged)
  -- The script tries the rules first and then the posting, as a proposal does.
  cases proposed : errand.propose pair.toLockedPair
      (store.tables.dailyLimit errand.sender errand.instant.date) with
  | error failure =>
      refine tracks.proceeds (.failing failure) advance (.rejects pair failure proposed)
        ?_ ?_ (fun _ asked => by cases asked)
      · change errand.finish (.settle _ _ _ _ _) = _
        rw [settle_eq, proposed]
        rfl
      · exact .inside id transaction rfl here (fun _ work => by cases work)
  | ok posting =>
      let plan : errand.Plan := ⟨pair, _, posting, keyed.limits _ _, proposed⟩
      refine tracks.proceeds (.savingLimit plan) advance (.proposes plan rfl) ?_ ?_ ?_
      · change errand.finish (.settle _ _ _ _ _) = _
        rw [settle_eq, proposed]
        rfl
      · exact .inside id transaction rfl here work
      · intro asked equal
        cases equal
        exact ⟨4, rfl, rfl, (List.append_nil _).symm⟩

theorem Tracks.proceeds_savingLimit
    {plan : errand.Plan}
    (tracks : (savingLimit plan).Tracks store call)
    (stands : call.standing = .active current (savingLimit plan).script) :
    (savingLimit plan).Proceeds store call := by
  obtain ⟨id, transaction, own, here, work⟩ := tracks.current_inside rfl
  rw [current_of_active stands] at own
  subst own
  have grows := work _ rfl
  have held := held_of_both grows (Or.inl plan.dailyNamed.1)
  refine tracks.proceeds (.savingSender plan)
    (TransferCall.advance_answered stands (Store.serve_writeLimit here held))
    (.stagesLimit plan) rfl ?_ ?_
  · refine .inside id _ rfl (store.get?_update here _) ?_
    intro staged equal
    cases equal
    refine ⟨grows.held, grows.accounts, ?_, grows.transfers⟩
    rw [grows.limits]
    rfl
  · intro asked equal
    cases equal
    exact ⟨5, rfl, rfl, (List.append_nil _).symm⟩

theorem Tracks.proceeds_savingSender
    {plan : errand.Plan}
    (tracks : (savingSender plan).Tracks store call)
    (stands : call.standing = .active current (savingSender plan).script) :
    (savingSender plan).Proceeds store call := by
  obtain ⟨id, transaction, own, here, work⟩ := tracks.current_inside rfl
  rw [current_of_active stands] at own
  subst own
  have grows := work _ rfl
  have held := held_of_both grows (Or.inl plan.senderNamed)
  by_cases negative : plan.posting.sender.balance < Decimal.zero
  · refine tracks.proceeds (.failing (.refused _))
      (TransferCall.advance_answered stands (Store.serve_writeAccount_negative here held negative))
      (.overdrawsSender plan negative) rfl ?_ (fun _ asked => by cases asked)
    exact .inside id transaction rfl here (fun _ work => by cases work)
  · refine tracks.proceeds (.savingReceiver plan)
      (TransferCall.advance_answered stands (Store.serve_writeAccount here held negative))
      (.stagesSender plan negative) rfl ?_ ?_
    · refine .inside id _ rfl (store.get?_update here _) ?_
      intro staged equal
      cases equal
      refine ⟨grows.held, ?_, grows.limits, grows.transfers⟩
      rw [grows.accounts]
      rfl
    · intro asked equal
      cases equal
      exact ⟨6, rfl, rfl, (List.append_nil _).symm⟩

theorem Tracks.proceeds_savingReceiver
    {plan : errand.Plan}
    (tracks : (savingReceiver plan).Tracks store call)
    (stands : call.standing = .active current (savingReceiver plan).script) :
    (savingReceiver plan).Proceeds store call := by
  obtain ⟨id, transaction, own, here, work⟩ := tracks.current_inside rfl
  rw [current_of_active stands] at own
  subst own
  have grows := work _ rfl
  have held := held_of_both grows (Or.inr plan.receiverNamed)
  by_cases negative : plan.posting.receiver.balance < Decimal.zero
  · refine tracks.proceeds (.failing (.refused _))
      (TransferCall.advance_answered stands (Store.serve_writeAccount_negative here held negative))
      (.overdrawsReceiver plan negative) rfl ?_ (fun _ asked => by cases asked)
    exact .inside id transaction rfl here (fun _ work => by cases work)
  · refine tracks.proceeds (.identifying plan)
      (TransferCall.advance_answered stands (Store.serve_writeAccount here held negative))
      (.stagesReceiver plan negative) rfl ?_ ?_
    · refine .inside id _ rfl (store.get?_update here _) ?_
      intro staged equal
      cases equal
      refine ⟨grows.held, ?_, grows.limits, grows.transfers⟩
      rw [grows.accounts]
      rfl
    · intro asked equal
      cases equal
      exact ⟨7, rfl, rfl, (List.append_nil _).symm⟩

theorem Tracks.proceeds_identifying
    {plan : errand.Plan}
    (tracks : (identifying plan).Tracks store call)
    (stands : call.standing = .active current (identifying plan).script) :
    (identifying plan).Proceeds store call := by
  obtain ⟨id, transaction, own, here, work⟩ := tracks.current_inside rfl
  rw [current_of_active stands] at own
  subst own
  have identifier : call.oracle call.transcript.length .externalId = errand.identifier := by
    rw [tracks.oracle, (tracks.heard 8 rfl).1, Errand.identifier]
  have advance := call.advance_outside store stands
  rw [identifier] at advance
  refine tracks.proceeds (.referencing plan) advance (.identifies plan) rfl ?_ ?_
  · exact .inside id transaction rfl here work
  · intro asked equal
    cases equal
    exact ⟨8, rfl, rfl, (List.append_nil _).symm⟩

theorem Tracks.proceeds_referencing
    {plan : errand.Plan}
    (tracks : (referencing plan).Tracks store call)
    (stands : call.standing = .active current (referencing plan).script) :
    (referencing plan).Proceeds store call := by
  obtain ⟨id, transaction, own, here, work⟩ := tracks.current_inside rfl
  rw [current_of_active stands] at own
  subst own
  have reference :
      call.oracle call.transcript.length (.reference errand.instant) = errand.reference := by
    rw [tracks.oracle, (tracks.heard 9 rfl).1, Errand.reference]
  have advance := call.advance_outside store stands
  rw [reference] at advance
  refine tracks.proceeds (.recording plan) advance (.references plan) rfl ?_ ?_
  · exact .inside id transaction rfl here work
  · intro asked equal
    cases equal
    exact ⟨9, rfl, rfl, (List.append_nil _).symm⟩

theorem Tracks.proceeds_recording
    {plan : errand.Plan}
    (tracks : (recording plan).Tracks store call)
    (stands : call.standing = .active current (recording plan).script) :
    (recording plan).Proceeds store call := by
  obtain ⟨id, transaction, own, here, work⟩ := tracks.current_inside rfl
  rw [current_of_active stands] at own
  subst own
  have grows := work _ rfl
  let transfer : Transfer := { errand.draft plan.pair.toLockedPair with id := store.nextId }
  cases used : store.tables.referenceTaken transfer with
  | true =>
      have clash : store.tables.referenceTaken ⟨errand.draft plan.pair.toLockedPair, 0⟩ =
          true :=
        (store.tables.referenceTaken_of_draft rfl).trans used
      refine tracks.proceeds (.failing (.refused .duplicateReference))
        (TransferCall.advance_answered stands (Store.serve_record_clash plan.positive used))
        (.clashes plan clash) rfl ?_ (fun _ asked => by cases asked)
      exact .inside id transaction rfl here (fun _ work => by cases work)
  | false =>
      refine tracks.proceeds (.committing plan transfer rfl)
        (TransferCall.advance_answered stands
          (Store.serve_record here grows.transfers plan.positive used))
        (.records plan transfer rfl) rfl ?_ ?_
      · refine .inside id _ rfl (store.useId.get?_update here _) ?_
        intro staged equal
        cases equal
        refine ⟨grows.held, grows.accounts, grows.limits, ?_⟩
        rw [grows.transfers]
        rfl
      · intro asked equal
        cases equal
        exact ⟨10, rfl, rfl, (List.append_nil _).symm⟩

/-- What is installed for a plan is its posting and its record. -/
theorem installed_eq_book
    {plan : errand.Plan}
    {transfer : Transfer}
    {transaction : Transaction}
    (tables : Tables)
    (grows : Transaction.Grows
      ⟨[errand.order.1, errand.order.2], plan.stagedPair, plan.stagedLimits, [transfer]⟩
      transaction) :
    Store.installed tables transaction = tables.book plan.posting transfer := by
  have different : plan.posting.sender.iban ≠ plan.posting.receiver.iban := by
    rw [plan.senderNamed, plan.receiverNamed]
    exact plan.distinct
  rw [Store.installed, grows.accounts, grows.limits, grows.transfers]
  simp [Tables.book, Errand.Plan.stagedPair, Errand.Plan.stagedSender,
    Errand.Plan.stagedLimits, Table.overwrite, Table.put, Table.putRow, Table.empty, different]

theorem Tracks.proceeds_committing
    {plan : errand.Plan}
    {transfer : Transfer}
    {drafted : transfer.toTransferDraft = errand.draft plan.pair.toLockedPair}
    (tracks : (committing plan transfer drafted).Tracks store call)
    (stands : call.standing = .active current (committing plan transfer drafted).script) :
    (committing plan transfer drafted).Proceeds store call := by
  obtain ⟨id, transaction, own, here, work⟩ := tracks.current_inside rfl
  rw [current_of_active stands] at own
  subst own
  have grows := work _ rfl
  have clash : transaction.transfers.any store.tables.referenceTaken =
      store.tables.referenceTaken transfer := by
    rw [grows.transfers]
    simp
  cases used : store.tables.referenceTaken transfer with
  | true =>
      refine tracks.proceeds (.ended (.error (.refused .duplicateReference)))
        (TransferCall.advance_answered stands (Store.serve_commit_refused here (clash.trans used)))
        ?_ rfl (.outside rfl) (fun _ asked => by cases asked)
      rw [Store.close_tables]
      exact .collides plan transfer drafted used
  | false =>
      refine tracks.proceeds (.noting plan transfer)
        (TransferCall.advance_answered stands (Store.serve_commit here (clash.trans used)))
        ?_ rfl (.outside rfl) (fun _ asked => by cases asked)
      rw [Store.close_tables, installed_eq_book store.tables grows]
      exact .commits plan transfer drafted used

theorem Tracks.proceeds_failing
    {failure : Failure}
    (tracks : (failing failure : Progress errand).Tracks store call)
    (stands : call.standing = .active current (failing failure : Progress errand).script) :
    (failing failure : Progress errand).Proceeds store call := by
  obtain ⟨id, transaction, own, here, work⟩ := tracks.current_inside rfl
  rw [current_of_active stands] at own
  subst own
  cases failure with
  | refused refusal =>
      refine tracks.proceeds (.ended (.error (.refused refusal)))
        (TransferCall.advance_answered stands rfl) ?_ rfl (.outside rfl)
        (fun _ asked => by cases asked)
      rw [Store.close_tables]
      exact .undoes _
  | overflowed overflow =>
      refine tracks.proceeds (.ended (.error (.overflowed overflow)))
        (TransferCall.advance_answered stands rfl) ?_ rfl (.outside rfl)
        (fun _ asked => by cases asked)
      rw [Store.close_tables]
      exact .undoes _

theorem Tracks.proceeds_noting
    {plan : errand.Plan}
    {transfer : Transfer}
    (tracks : (noting plan transfer).Tracks store call)
    (stands : call.standing = .active current (noting plan transfer).script) :
    (noting plan transfer).Proceeds store call := by
  have outside : current = none :=
    (current_of_active stands).symm.trans (tracks.current_outside rfl)
  subst outside
  exact tracks.proceeds (.auditing plan transfer _) (call.advance_outside store stands)
    (.notes plan transfer _) rfl (.outside rfl) (fun _ asked => by cases asked)

theorem Tracks.proceeds_auditing
    {plan : errand.Plan}
    {transfer : Transfer}
    {instant : Instant}
    (tracks : (auditing plan transfer instant).Tracks store call)
    (stands : call.standing = .active current (auditing plan transfer instant).script) :
    (auditing plan transfer instant).Proceeds store call := by
  have outside : current = none :=
    (current_of_active stands).symm.trans (tracks.current_outside rfl)
  subst outside
  exact tracks.proceeds (.dispatching plan transfer) (call.advance_outside store stands)
    (.audits plan transfer instant) rfl (.outside rfl) (fun _ asked => by cases asked)

theorem Tracks.proceeds_dispatching
    {plan : errand.Plan}
    {transfer : Transfer}
    (tracks : (dispatching plan transfer).Tracks store call)
    (stands : call.standing = .active current (dispatching plan transfer).script) :
    (dispatching plan transfer).Proceeds store call := by
  have outside : current = none :=
    (current_of_active stands).symm.trans (tracks.current_outside rfl)
  subst outside
  exact tracks.proceeds (.ended (.ok transfer)) (call.advance_outside store stands)
    (.dispatches plan transfer) rfl (.outside rfl) (fun _ asked => by cases asked)

end Points

end Progress
end Giro
