import Giro.Proofs.Traffic.Judgement
import Giro.Proofs.Ledger.Transactions

/-!
# How far a call has come

A call is at one of a handful of points, each of which fixes what is left of its
script, what its transaction holds and has staged, and what the call has been
told. What a call carries from one point to the next is part of the point: the
rows that it read, and the posting that it made of them.
-/

namespace Giro
namespace Errand

/-- Both accounts of a transfer as they were read. -/
structure Pair (errand : Errand) extends LockedPair where
  senderNamed : sender.iban = errand.sender
  receiverNamed : receiver.iban = errand.receiver

/-- The rows that a transfer read, and the posting that the rules let pass. -/
structure Plan (errand : Errand) where
  pair : errand.Pair
  today : Option DailyLimit
  posting : Posting
  todayNamed : ∀ row ∈ today, row.iban = errand.sender ∧ row.date = errand.instant.date
  proposed : errand.propose pair.toLockedPair today = .ok posting

namespace Pair

variable {errand : Errand}

/-- The rows of a pair in the order in which they were locked. -/
def rows (pair : errand.Pair) : List Account :=
  if errand.order.1 = errand.sender then [pair.sender, pair.receiver]
  else [pair.receiver, pair.sender]

/-- The pair of two accounts that were read in the order of their locks. -/
def ofRows
    (first second : Account)
    (firstNamed : first.iban = errand.order.1)
    (secondNamed : second.iban = errand.order.2) : errand.Pair :=
  ⟨errand.arrange first second,
    (errand.arrange_named firstNamed secondNamed).1,
    (errand.arrange_named firstNamed secondNamed).2⟩

theorem toLockedPair_ofRows
    {first second : Account}
    (firstNamed : first.iban = errand.order.1)
    (secondNamed : second.iban = errand.order.2) :
    (ofRows first second firstNamed secondNamed).toLockedPair =
      errand.arrange first second := by
  rw [ofRows]

theorem rows_ofRows
    {first second : Account}
    (firstNamed : first.iban = errand.order.1)
    (secondNamed : second.iban = errand.order.2) :
    (ofRows first second firstNamed secondNamed).rows = [first, second] := by
  by_cases straight : errand.order.1 = errand.sender
  · simp [rows, ofRows, arrange, straight]
  · simp [rows, ofRows, arrange, straight]

theorem mem_rows (pair : errand.Pair) (row : Account) :
    row ∈ pair.rows ↔ row = pair.sender ∨ row = pair.receiver := by
  unfold rows
  split
  · simp
  · simp [or_comm]

end Pair

namespace Plan

variable {errand : Errand}

theorem senderNamed (plan : errand.Plan) : plan.posting.sender.iban = errand.sender :=
  (sender_of_propose plan.proposed).trans plan.pair.senderNamed

theorem receiverNamed (plan : errand.Plan) :
    plan.posting.receiver.iban = errand.receiver :=
  (receiver_of_propose plan.proposed).trans plan.pair.receiverNamed

theorem dailyNamed (plan : errand.Plan) :
    plan.posting.daily.iban = errand.sender ∧
      plan.posting.daily.date = errand.instant.date := by
  have named := plan.todayNamed
  rw [← plan.pair.senderNamed] at named ⊢
  exact daily_of_propose plan.proposed named

theorem distinct (plan : errand.Plan) : errand.sender ≠ errand.receiver := by
  rw [← plan.pair.senderNamed, ← plan.pair.receiverNamed]
  exact (acceptable_of_propose plan.proposed).distinct

theorem positive (plan : errand.Plan) : ¬ errand.request.amount <= Decimal.zero :=
  Int.not_le.mpr (acceptable_of_propose plan.proposed).positive

/-- The limits staged for a plan. -/
def stagedLimits (plan : errand.Plan) : Table (String × Date) DailyLimit :=
  Table.empty.put (plan.posting.daily.iban, plan.posting.daily.date) plan.posting.daily

/-- The sender's row as it is staged for a plan. -/
def stagedSender (plan : errand.Plan) : Table String Account :=
  Table.empty.put plan.posting.sender.iban plan.posting.sender

/-- Both rows as they are staged for a plan. -/
def stagedPair (plan : errand.Plan) : Table String Account :=
  plan.stagedSender.put plan.posting.receiver.iban plan.posting.receiver

end Plan
end Errand

/-- How far a call has come. -/
inductive Progress (errand : Errand)
  | requested
  | lockingFirst
  | lockingSecond (first : Account) (named : first.iban = errand.order.1)
  | clocking (pair : errand.Pair)
  | consulting (pair : errand.Pair)
  | savingLimit (plan : errand.Plan)
  | savingSender (plan : errand.Plan)
  | savingReceiver (plan : errand.Plan)
  | identifying (plan : errand.Plan)
  | referencing (plan : errand.Plan)
  | recording (plan : errand.Plan)
  | committing
      (plan : errand.Plan)
      (transfer : Transfer)
      (drafted : transfer.toTransferDraft = errand.draft plan.pair.toLockedPair)
  | failing (failure : Failure)
  | noting (plan : errand.Plan) (transfer : Transfer)
  | auditing (plan : errand.Plan) (transfer : Transfer) (now : Instant)
  | dispatching (plan : errand.Plan) (transfer : Transfer)
  | ended (outcome : Except Failure Transfer)

namespace Errand

variable (errand : Errand)

/-- What remains to be done with a result within the transaction. -/
def finish (work : TransferWork (Transfer × Posting)) :
    TransferScript (Except Failure Transfer) :=
  work.bind (conclude errand.caller)

/-- What is done once both rows are locked. -/
def afterLocks (pair : LockedPair) : TransferWork (Transfer × Posting) :=
  .now (fun instant =>
    .readLimit errand.sender instant.date (fun today =>
      .settle errand.request errand.caller pair instant today))

/-- What is done with the answer about the second lock. -/
def onSecond (first : Account) (answer : Except Refusal (Option Account)) :
    TransferScript (Except Failure Transfer) :=
  errand.finish
    (.granted answer (fun account =>
      match account with
      | some second => errand.afterLocks (errand.arrange first second)
      | none =>
          .refuse (.accountMissing (errand.side errand.order.2) errand.order.2)))

/-- What is done with the answer about the first lock. -/
def onFirst (answer : Except Refusal (Option Account)) :
    TransferScript (Except Failure Transfer) :=
  errand.finish
    (.granted answer (fun account =>
      match account with
      | some first =>
          .lockExisting (errand.side errand.order.2) errand.order.2
            (fun second => errand.afterLocks (errand.arrange first second))
      | none =>
          .refuse (.accountMissing (errand.side errand.order.1) errand.order.1)))

/-- What is done once the three rows are staged. -/
def afterStaging (pair : LockedPair) (posting : Posting) :
    TransferWork (Transfer × Posting) :=
  .recordPosting errand.request pair posting errand.instant

end Errand

namespace Progress

variable {errand : Errand}

/-- What is left of the script of a call. -/
def script : Progress errand -> TransferScript (Except Failure Transfer)
  | requested => transferScript errand.request errand.caller
  | lockingFirst => .ask (.ledger (.lock errand.order.1)) errand.onFirst
  | lockingSecond first _ => .ask (.ledger (.lock errand.order.2)) (errand.onSecond first)
  | clocking pair => errand.finish (errand.afterLocks pair.toLockedPair)
  | consulting pair =>
      errand.finish
        (.readLimit errand.sender errand.instant.date
          (.settle errand.request errand.caller pair.toLockedPair errand.instant))
  | savingLimit plan =>
      errand.finish
        (.apply plan.posting (errand.afterStaging plan.pair.toLockedPair plan.posting))
  | savingSender plan =>
      errand.finish
        (.writeAccount plan.posting.sender
          (.writeAccount plan.posting.receiver
            (errand.afterStaging plan.pair.toLockedPair plan.posting)))
  | savingReceiver plan =>
      errand.finish
        (.writeAccount plan.posting.receiver
          (errand.afterStaging plan.pair.toLockedPair plan.posting))
  | identifying plan =>
      errand.finish (errand.afterStaging plan.pair.toLockedPair plan.posting)
  | referencing plan =>
      .ask (.outside (.reference errand.instant)) (fun (reference : String) =>
        errand.finish
          (.record
            (errand.request.draft plan.pair.toLockedPair errand.identifier reference
              errand.instant)
            (fun transfer => .done (.ok (transfer, plan.posting)))))
  | recording plan =>
      errand.finish
        (.record (errand.draft plan.pair.toLockedPair)
          (fun transfer => .done (.ok (transfer, plan.posting))))
  | committing plan transfer _ => conclude errand.caller (.ok (transfer, plan.posting))
  | failing failure => conclude errand.caller (.error failure)
  | noting plan transfer => afterCommit errand.caller transfer plan.posting
  | auditing plan transfer instant =>
      .ask (.outside (.audit (.ofTransfer errand.caller transfer.reference instant)))
        (fun _ =>
          .ask (.outside (.dispatch (plan.posting.event transfer)))
            (fun _ => .done (.ok transfer)))
  | dispatching plan transfer =>
      .ask (.outside (.dispatch (plan.posting.event transfer)))
        (fun _ => .done (.ok transfer))
  | ended outcome => .done outcome

/-- Whether a call has a transaction open. -/
def inside : Progress errand -> Bool
  | requested | noting _ _ | auditing _ _ _ | dispatching _ _ | ended _ => false
  | _ => true

/--
What the transaction of a call holds and has staged. Nothing is known of a
transaction that is about to be undone.
-/
def work? : Progress errand -> Option Transaction
  | lockingFirst => some .fresh
  | lockingSecond _ _ => some ⟨[errand.order.1], .empty, .empty, []⟩
  | clocking _ | consulting _ | savingLimit _ =>
      some ⟨[errand.order.1, errand.order.2], .empty, .empty, []⟩
  | savingSender plan =>
      some ⟨[errand.order.1, errand.order.2], .empty, plan.stagedLimits, []⟩
  | savingReceiver plan =>
      some ⟨[errand.order.1, errand.order.2], plan.stagedSender, plan.stagedLimits, []⟩
  | identifying plan | referencing plan | recording plan =>
      some ⟨[errand.order.1, errand.order.2], plan.stagedPair, plan.stagedLimits, []⟩
  | committing plan transfer _ =>
      some ⟨[errand.order.1, errand.order.2], plan.stagedPair, plan.stagedLimits, [transfer]⟩
  | _ => none

/-- The rows whose locks a call has been granted and may still make use of. -/
def held (progress : Progress errand) : List String :=
  (progress.work?.map Transaction.held).getD []

/-- The rows that a call has read and may still write. -/
def rows : Progress errand -> List Account
  | lockingSecond first _ => [first]
  | clocking pair | consulting pair => pair.rows
  | savingLimit plan | savingSender plan | savingReceiver plan | identifying plan
  | referencing plan | recording plan | committing plan _ _ => plan.pair.rows
  | _ => []

/-- The number of questions that a call has asked, as long as nothing went wrong. -/
def asked? : Progress errand -> Option Nat
  | requested => some 0
  | lockingFirst => some 1
  | lockingSecond _ _ => some 2
  | clocking _ => some 3
  | consulting _ => some 4
  | savingLimit _ => some 5
  | savingSender _ => some 6
  | savingReceiver _ => some 7
  | identifying _ => some 8
  | referencing _ => some 9
  | recording _ => some 10
  | committing _ _ _ => some 11
  | _ => none

/-- What is decided about a call: success with the commit, failure as soon as it is met. -/
def verdict? : Progress errand -> Option (Except Failure Transfer)
  | failing failure => some (.error failure)
  | noting _ transfer | auditing _ transfer _ | dispatching _ transfer => some (.ok transfer)
  | ended outcome => some outcome
  | _ => none

/-- What a call stands at is what its progress says, or the wait for the lock it asks for. -/
inductive Stands : Progress errand -> Standing -> Prop
  | active (progress : Progress errand) (current : Option TransactionId) :
      Stands progress (.active current progress.script)
  | first (id : TransactionId) :
      Stands .lockingFirst
        (.waiting id errand.order.1 (.lock errand.order.1) (fun result => result)
          errand.onFirst)
  | second (first : Account) (named : first.iban = errand.order.1) (id : TransactionId) :
      Stands (.lockingSecond first named)
        (.waiting id errand.order.2 (.lock errand.order.2) (fun result => result)
          (errand.onSecond first))

/-- A call has the transaction open that its progress says, if any. -/
inductive Seated (store : Store) (progress : Progress errand) : Option TransactionId -> Prop
  | outside (outside : progress.inside = false) : Seated store progress none
  | inside
      (id : TransactionId)
      (transaction : Transaction)
      (inside : progress.inside = true)
      (here : store.transactions.get? id = some transaction)
      (work : ∀ work, progress.work? = some work -> work.Grows transaction) :
      Seated store progress (some id)

/-- A call has come as far as its progress says. -/
structure Tracks (progress : Progress errand) (store : Store) (call : TransferCall) : Prop where
  oracle : call.oracle = errand.oracle
  distinct : errand.sender ≠ errand.receiver ∨ ∃ outcome, progress = .ended outcome
  stands : progress.Stands call.standing
  seated : progress.Seated store call.current
  heard : ∀ asked, progress.asked? = some asked ->
    call.transcript.length = asked ∧ call.rows = progress.rows

/-- A call that does not wait has the rest of its script to go through. -/
theorem Stands.script_of_active
    {progress : Progress errand}
    {current : Option TransactionId}
    {script : TransferScript (Except Failure Transfer)}
    (stands : progress.Stands (.active current script)) :
    script = progress.script := by
  generalize same : Standing.active current script = standing at stands
  cases stands with
  | active progress current =>
      cases same
      rfl
  | first id => cases same
  | second first named id => cases same

end Progress

namespace Errand

/-- Where the call of an errand starts; one that names a single account ends there. -/
def outset (errand : Errand) : Progress errand :=
  if errand.sender = errand.receiver then .ended (.error (.refused .sameAccount))
  else .requested

theorem tracks_outset (errand : Errand) (store : Store) :
    errand.outset.Tracks store errand.call := by
  by_cases same : errand.sender = errand.receiver
  · have refused : transferScript errand.request errand.caller =
        .done (.error (.refused .sameAccount)) := by
      unfold sender receiver at same
      simp [transferScript, same]
    rw [outset, if_pos same]
    refine ⟨rfl, Or.inr ⟨_, rfl⟩, ?_, .outside rfl, fun _ asked => by cases asked⟩
    rw [call, refused]
    exact .active (.ended _) none
  · rw [outset, if_neg same]
    refine ⟨rfl, Or.inl same, .active .requested none, .outside rfl, ?_⟩
    intro asked equal
    cases equal
    exact ⟨rfl, rfl⟩

end Errand
end Giro
