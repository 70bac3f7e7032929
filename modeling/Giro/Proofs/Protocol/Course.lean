import Giro.Proofs.Protocol.Conduct

/-!
# The course of a transfer

The steps of a transfer in turn, each of which is in its place and leaves what the
next one needs: the locks leave both accounts, the clock and the limit row leave a
posting or an objection to it, and the posting is all that is staged.
-/

namespace Giro
namespace Mandate

variable {mandate : Mandate} {heard : List Exchange}

/-! ## What was handed over stays known -/

theorem findSome?_append_of_some
    {α β : Type}
    {reads : α -> Option β}
    {first : List α}
    {value : β}
    (known : first.findSome? reads = some value)
    (more : List α) :
    (first ++ more).findSome? reads = some value := by
  rw [List.findSome?_append, known, Option.some_or]

theorem findSome?_append_of_none
    {α β : Type}
    {reads : α -> Option β}
    {first : List α}
    (unknown : first.findSome? reads = none)
    (more : List α) :
    (first ++ more).findSome? reads = more.findSome? reads := by
  rw [List.findSome?_append, unknown, Option.none_or]

/-- A row is not handed over before its lock is asked for. -/
theorem account?_eq_none
    {iban : String}
    (unasked : iban ∉ locksAsked heard) :
    account? iban heard = none := by
  rw [account?, List.findSome?_eq_none_iff]
  intro exchange member
  obtain ⟨question, answer⟩ := exchange
  cases question with
  | outside ask => rfl
  | ledger ask =>
      cases ask with
      | lock other =>
          apply if_neg
          rintro rfl
          exact unasked (List.mem_filterMap.mpr ⟨_, member, rfl⟩)
      | _ => rfl

theorem account?_append
    {iban : String}
    {account : Account}
    (known : account? iban heard = some account)
    (more : List Exchange) :
    account? iban (heard ++ more) = some account :=
  findSome?_append_of_some known more

theorem Granted.append
    {pair : LockedPair}
    (granted : mandate.Granted heard pair)
    (more : List Exchange) :
    mandate.Granted (heard ++ more) pair :=
  ⟨account?_append granted.sender more, account?_append granted.receiver more⟩

/-- The exchange that hands over an account along with its lock. -/
def handover (iban : String) (account : Account) : Exchange :=
  ⟨.ledger (.lock iban), (.ok (some account) : Except Refusal (Option Account))⟩

theorem account?_handover
    (iban : String)
    (unasked : iban ∉ locksAsked heard)
    (account : Account) :
    account? iban (heard ++ [handover iban account]) = some account := by
  have here : Exchange.accountFor? iban (handover iban account) = some account := if_pos rfl
  rw [account?, findSome?_append_of_none (account?_eq_none unasked), List.findSome?_cons, here]

/-! ## A step that may be refused -/

/-- The ledger's refusal of a step fails the transfer, and its grant lets it go on. -/
theorem Going.keeps_granted
    {γ : Type}
    {next : γ -> TransferWork (Transfer × Posting)}
    (going : mandate.Going heard)
    (ask : LedgerAsk)
    (reads : ask.Answer -> Except Refusal γ)
    (calm : ask.ends = false)
    (refuses : ∀ answer refusal, reads answer = .error refusal ->
      ask.refusal? answer = some refusal)
    (proper : mandate.ProperLedger heard ask)
    (rest : ∀ answer value, reads answer = .ok value ->
      (next value).Keeps mandate.Proper mandate.Settled
        (heard ++ [(⟨.ledger ask, answer⟩ : Exchange)])) :
    (Script.ask (.ledger ask) (fun answer => TransferWork.granted (reads answer) next) :
      TransferWork (Transfer × Posting)).Keeps mandate.Proper mandate.Settled heard := by
  refine keeps_ask proper ?_
  intro (answer : ask.Answer)
  cases result : reads answer with
  | ok value => exact rest answer value result
  | error refusal =>
      have fails := mandate.failure?_of_refusal? heard (refuses answer refusal result)
      have fallen : mandate.Fallen (heard ++ [(⟨.ledger ask, answer⟩ : Exchange)])
          (.refused refusal) := going.falls calm rfl fails
      exact fallen

/-! ## Both locks -/

/-- A lock is asked for in its turn, and comes with an account or ends the transfer. -/
theorem Going.keeps_lockExisting
    {next : Account -> TransferWork (Transfer × Posting)}
    (going : mandate.Going heard)
    (iban : String)
    (inTurn : locksAsked heard ++ [iban] <+: [mandate.order.1, mandate.order.2])
    (rest : ∀ account, mandate.Going (heard ++ [handover iban account]) ->
      (next account).Keeps mandate.Proper mandate.Settled (heard ++ [handover iban account])) :
    (TransferWork.lockExisting (mandate.side iban) iban next).Keeps mandate.Proper
      mandate.Settled heard := by
  have proper : mandate.ProperLedger heard (.lock iban) := ⟨going.toInside, inTurn⟩
  refine going.keeps_granted (.lock iban) (fun answer => answer) rfl ?_ proper ?_
  · intro (answer : Except Refusal (Option Account)) refusal refused
    rw [refused]
    rfl
  · intro (answer : Except Refusal (Option Account)) account granted
    subst granted
    cases account with
    | none => exact going.falls rfl rfl rfl
    | some account => exact rest account (going.hears rfl rfl rfl)

/-- Both accounts are locked, and nothing else has been asked. -/
structure Locked (mandate : Mandate) (heard : List Exchange) (pair : LockedPair) : Prop
    extends mandate.Going heard where
  granted : mandate.Granted heard pair
  timeless : instant? heard = none
  unread : mandate.today? heard = none

/-- The transaction has just been begun. -/
def begun : List Exchange :=
  [⟨.ledger .begin, (.ok () : Except Refusal Unit)⟩]

theorem order_cases (mandate : Mandate) :
    mandate.order = (mandate.sender, mandate.receiver) ∨
      mandate.order = (mandate.receiver, mandate.sender) :=
  lockOrder_cases mandate.sender mandate.receiver

/-- Two different accounts are locked in order, whoever sends. -/
theorem keeps_lockPair
    {next : LockedPair -> TransferWork (Transfer × Posting)}
    (distinct : mandate.sender ≠ mandate.receiver)
    (rest : ∀ handed pair, mandate.Locked handed pair ->
      (next pair).Keeps mandate.Proper mandate.Settled handed) :
    (TransferWork.lockPair mandate.sender mandate.receiver next).Keeps mandate.Proper
      mandate.Settled begun := by
  unfold TransferWork.lockPair
  rw [if_neg distinct]
  have going : mandate.Going begun := ⟨⟨rfl, rfl⟩, rfl, rfl⟩
  refine going.keeps_lockExisting mandate.order.1 ⟨[mandate.order.2], rfl⟩ ?_
  intro first going
  have asked : locksAsked (begun ++ [handover mandate.order.1 first]) = [mandate.order.1] :=
    locksAsked_concat begun _
  have secondUnasked : mandate.order.2 ∉ [mandate.order.1] := by
    rcases mandate.order_cases with straight | swapped
    · simpa [straight] using distinct.symm
    · simpa [swapped] using distinct
  refine going.keeps_lockExisting mandate.order.2 ⟨[], by rw [asked]; rfl⟩ ?_
  intro second going
  have unaskedYet : mandate.order.1 ∉ locksAsked begun := List.not_mem_nil
  have firstKnown := account?_append (account?_handover mandate.order.1 unaskedYet first)
    [handover mandate.order.2 second]
  have secondKnown := account?_handover mandate.order.2 (asked ▸ secondUnasked) second
  change (if mandate.order.1 = mandate.sender then next ⟨first, second⟩
    else next ⟨second, first⟩).Keeps mandate.Proper mandate.Settled _
  rcases mandate.order_cases with straight | swapped
  · rw [straight] at firstKnown secondKnown going ⊢
    rw [if_pos rfl]
    exact rest _ _ ⟨going, ⟨firstKnown, secondKnown⟩, rfl, rfl⟩
  · rw [swapped] at firstKnown secondKnown going ⊢
    rw [if_neg distinct.symm]
    exact rest _ _ ⟨going, ⟨secondKnown, firstKnown⟩, rfl, rfl⟩

/-! ## The rules and the posting -/

/-- Checking the rules and posting is one decision. -/
theorem settle_eq (pair : LockedPair) (instant : Instant) (today : Option DailyLimit) :
    TransferWork.settle mandate.request mandate.caller pair instant today =
      TransferWork.orElse (mandate.propose pair instant today) (fun posting =>
        TransferWork.apply posting
          (TransferWork.recordPosting mandate.request pair posting instant)) := by
  unfold TransferWork.settle propose
  dsimp only
  cases TransferCandidate.validate _ with
  | error failure => rfl
  | ok _ => cases Posting.post pair mandate.request.amount instant.date today <;> rfl

/-- A posting was made from what was read under both locks, and from nothing else. -/
structure Posted
    (mandate : Mandate)
    (heard : List Exchange)
    (pair : LockedPair)
    (today : Option DailyLimit)
    (posting : Posting) : Prop
    extends mandate.Going heard where
  granted : mandate.Granted heard pair
  read : mandate.today? heard = some today
  debited : posting.sender = { pair.sender with balance := posting.sender.balance }
  credited : posting.receiver = { pair.receiver with balance := posting.receiver.balance }
  charged : posting.daily.iban = (today.map DailyLimit.iban).getD pair.sender.iban

theorem posting_of_propose
    {pair : LockedPair}
    {instant : Instant}
    {today : Option DailyLimit}
    {posting : Posting}
    (proposed : mandate.propose pair instant today = .ok posting) :
    Posting.post pair mandate.request.amount instant.date today = .ok posting := by
  unfold propose at proposed
  dsimp only at proposed
  split at proposed
  · cases proposed
  · generalize Posting.post pair mandate.request.amount instant.date today = result at proposed ⊢
    cases result with
    | error refusal => cases proposed
    | ok other =>
        cases proposed
        rfl

/-- The clock and the limit row are read, and what follows depends on the decision alone. -/
theorem Locked.keeps_settle
    {pair : LockedPair}
    (locked : mandate.Locked heard pair)
    (rest : ∀ after instant today posting,
      mandate.Posted after pair today posting ->
      (TransferWork.apply posting
        (TransferWork.recordPosting mandate.request pair posting instant)).Keeps
          mandate.Proper mandate.Settled after) :
    (TransferWork.now (fun instant =>
      TransferWork.readLimit mandate.sender instant.date (fun today =>
        TransferWork.settle mandate.request mandate.caller pair instant today))).Keeps
          mandate.Proper mandate.Settled heard := by
  refine keeps_ask (fun note => by cases note) ?_
  intro (instant : Instant)
  have going : mandate.Going (heard ++ [(⟨.outside .now, instant⟩ : Exchange)]) :=
    locked.hears rfl rfl rfl
  have granted := locked.granted.append [(⟨.outside .now, instant⟩ : Exchange)]
  have told : instant? (heard ++ [(⟨.outside .now, instant⟩ : Exchange)]) = some instant :=
    findSome?_append_of_none locked.timeless _
  have unread : mandate.today? (heard ++ [(⟨.outside .now, instant⟩ : Exchange)]) = none :=
    findSome?_append_of_none locked.unread _
  generalize heard ++ [(⟨.outside .now, instant⟩ : Exchange)] = reading at *
  refine going.keeps_granted (.readLimit mandate.sender instant.date) (fun answer => answer) rfl
    ?_ ⟨going.toInside, rfl, ⟨pair, granted⟩, instant, told, rfl⟩ ?_
  · intro (answer : Except Refusal (Option DailyLimit)) refusal refused
    rw [refused]
    rfl
  · intro (answer : Except Refusal (Option DailyLimit)) today read
    subst read
    rw [settle_eq]
    cases proposed : mandate.propose pair instant today with
    | error failure =>
        have rejection : mandate.rejection? reading today = some failure := by
          simp only [rejection?, granted.sender, granted.receiver, told, proposed]
        exact going.falls rfl rfl rejection
    | ok posting =>
        have rejection : mandate.rejection? reading today = none := by
          simp only [rejection?, granted.sender, granted.receiver, told, proposed]
        have posted := posting_of_propose proposed
        rw [Posting.post_eq_ok_iff] at posted
        obtain ⟨debited, credited, used, -, -, -, rfl⟩ := posted
        refine rest _ instant today _ ⟨going.hears rfl rfl rejection, granted.append _, ?_,
          rfl, rfl, ?_⟩
        · have here : Exchange.limitFor? mandate.sender
              ⟨.ledger (.readLimit mandate.sender instant.date),
                (.ok today : Except Refusal (Option DailyLimit))⟩ = some today := if_pos rfl
          rw [today?, findSome?_append_of_none unread, List.findSome?_cons, here]
        · cases today <;> rfl

/-! ## The three rows and the record -/

/-- A posting outlasts every step that succeeds. -/
theorem Posted.hears
    {pair : LockedPair}
    {today : Option DailyLimit}
    {posting : Posting}
    (posted : mandate.Posted heard pair today posting)
    {exchange : Exchange}
    (calm : exchange.ends = false)
    (silent : exchange.isNote = false)
    (succeeds : mandate.failure? heard exchange = none) :
    mandate.Posted (heard ++ [exchange]) pair today posting where
  toGoing := posted.toGoing.hears calm silent succeeds
  granted := posted.granted.append [exchange]
  read := findSome?_append_of_some posted.read [exchange]
  debited := posted.debited
  credited := posted.credited
  charged := posted.charged

/-- A row that belongs to the posting is staged, or the transfer fails with the refusal. -/
theorem Posted.keeps_stage
    {pair : LockedPair}
    {today : Option DailyLimit}
    {posting : Posting}
    {next : TransferWork (Transfer × Posting)}
    (posted : mandate.Posted heard pair today posting)
    (ask : LedgerAsk)
    (reads : ask.Answer -> Except Refusal Unit)
    (calm : ask.ends = false)
    (refuses : ∀ answer refusal, reads answer = .error refusal ->
      ask.refusal? answer = some refusal)
    (succeeds : ∀ answer, reads answer = .ok () ->
      mandate.failure? heard ⟨.ledger ask, answer⟩ = none)
    (proper : mandate.ProperLedger heard ask)
    (rest : ∀ after, mandate.Posted after pair today posting ->
      next.Keeps mandate.Proper mandate.Settled after) :
    (Script.ask (.ledger ask) (fun answer => TransferWork.granted (reads answer) (fun _ => next)) :
      TransferWork (Transfer × Posting)).Keeps mandate.Proper mandate.Settled heard := by
  refine posted.keeps_granted ask reads calm refuses proper ?_
  intro answer _ granted
  exact rest _ (posted.hears calm rfl (succeeds answer granted))

theorem refusalIn_of_error
    (answer : Except Refusal Unit)
    (refusal : Refusal)
    (refused : answer = .error refusal) :
    refusalIn answer = some refusal := by
  rw [refused]
  rfl

/-- All rows of a posting are staged, and then its record. -/
theorem Posted.keeps_apply
    {pair : LockedPair}
    {instant : Instant}
    {today : Option DailyLimit}
    {posting : Posting}
    (posted : mandate.Posted heard pair today posting) :
    (TransferWork.apply posting
      (TransferWork.recordPosting mandate.request pair posting instant)).Keeps
        mandate.Proper mandate.Settled heard := by
  refine posted.keeps_stage (.writeLimit posting.daily) (fun answer => answer) rfl
    refusalIn_of_error ?_ ⟨posted.toInside, pair, today, posted.granted, posted.read,
      posted.charged⟩ ?_
  · rintro _ rfl
    rfl
  intro limited posted
  refine posted.keeps_stage (.writeAccount posting.sender) (fun answer => answer) rfl
    refusalIn_of_error ?_ ⟨posted.toInside, pair, today, posted.granted, posted.read,
      Or.inl posted.debited⟩ ?_
  · rintro _ rfl
    rfl
  intro debited posted
  refine posted.keeps_stage (.writeAccount posting.receiver) (fun answer => answer) rfl
    refusalIn_of_error ?_ ⟨posted.toInside, pair, today, posted.granted, posted.read,
      Or.inr posted.credited⟩ ?_
  · rintro _ rfl
    rfl
  intro credited posted
  refine keeps_ask (fun note => by cases note) ?_
  intro (identifier : Uuid)
  have identified : mandate.Posted (credited ++ [(⟨.outside .externalId, identifier⟩ : Exchange)])
      pair today posting := posted.hears rfl rfl rfl
  refine keeps_ask (fun note => by cases note) ?_
  intro (reference : String)
  have referred : mandate.Posted (credited ++ [(⟨.outside .externalId, identifier⟩ : Exchange)] ++
      [(⟨.outside (.reference instant), reference⟩ : Exchange)]) pair today posting :=
    identified.hears rfl rfl rfl
  generalize credited ++ [(⟨.outside .externalId, identifier⟩ : Exchange)] ++
      [(⟨.outside (.reference instant), reference⟩ : Exchange)] = minted at *
  refine referred.keeps_granted
    (.record (mandate.request.draft pair identifier reference instant)) (fun answer => answer) rfl
    ?_ ⟨referred.toInside, pair, today, referred.granted, referred.read, rfl, rfl⟩ ?_
  · intro (answer : Except Refusal Transfer) refusal refused
    rw [refused]
    rfl
  · rintro (answer : Except Refusal Transfer) transfer recorded
    subst recorded
    refine ⟨referred.toGoing.hears rfl rfl rfl, ⟨_, List.mem_concat_self⟩, pair.sender,
      account?_append referred.granted.sender _, ?_⟩
    rw [posted.debited]

/-! ## The whole course -/

/-- All steps within the transaction are in their place, and leave it to be ended. -/
theorem keeps_execute (distinct : mandate.sender ≠ mandate.receiver) :
    (TransferWork.execute mandate.request mandate.sender mandate.receiver mandate.caller).Keeps
      mandate.Proper mandate.Settled begun :=
  keeps_lockPair distinct (fun _ _ locked =>
    locked.keeps_settle (fun _ _ _ _ posted => posted.keeps_apply))

/-- A transfer of which nothing was begun has failed with the refusal. -/
theorem concluded_unbegun (refusal : Refusal) :
    mandate.Concluded [⟨.ledger .begin, (.error refusal : Except Refusal Unit)⟩]
      (.error (.refused refusal)) where
  ended := rfl
  fails := by
    intro failure
    change _ ↔ some (Failure.refused refusal) = some failure
    simp
  succeeds := by
    intro transfer equal
    cases equal
  noted := by
    intro commits
    cases commits
  unnoted := fun _ => rfl

theorem keeps_transfer (mandate : Mandate) :
    (if mandate.sender = mandate.receiver then .done (.error (.refused .sameAccount))
      else
        .ask (.ledger .begin) (fun (answer : Except Refusal Unit) =>
          match answer with
          | .error refusal => .done (.error (.refused refusal))
          | .ok _ =>
              (TransferWork.execute mandate.request mandate.sender mandate.receiver
                mandate.caller).bind (conclude mandate.caller)) :
      TransferScript (Except Failure Transfer)).Keeps mandate.Proper mandate.Final [] := by
  by_cases same : mandate.sender = mandate.receiver
  · rw [if_pos same]
    exact Or.inl ⟨same, rfl, rfl⟩
  · rw [if_neg same]
    refine keeps_ask rfl ?_
    intro (answer : Except Refusal Unit)
    cases answer with
    | error refusal => exact Or.inr ⟨same, concluded_unbegun refusal⟩
    | ok _ =>
        refine Script.keeps_bind (keeps_execute same) ?_
        intro later result settled
        have concludes : (conclude mandate.caller result).Keeps mandate.Proper
            mandate.Concluded later := by
          cases result with
          | error failure => exact keeps_conclude_error settled
          | ok done => exact keeps_conclude_ok settled
        exact concludes.weaken (fun _ _ concluded => Or.inr ⟨same, concluded⟩)

/-- Whatever was answered, each question was in its place, and what is left will be. -/
theorem proper_of_leads
    {request : TransferRequest}
    {caller : Caller}
    {rest : TransferScript (Except Failure Transfer)}
    (leads : (transferScript request caller).Leads heard rest) :
    rest.Keeps (of request caller).Proper (of request caller).Final heard ∧
      ∀ before question answer after, heard = before ++ ⟨question, answer⟩ :: after ->
        (of request caller).Proper before question := by
  unfold transferScript at leads
  unfold of
  generalize Iban.normalize request.sender = sender at leads ⊢
  generalize Iban.normalize request.receiver = receiver at leads ⊢
  exact leads.keeps (keeps_transfer ⟨request, caller, sender, receiver⟩)

/-! ## The accounts that are written -/

theorem eq_handover
    {iban : String}
    {account : Account}
    {exchange : Exchange}
    (handed : exchange.accountFor? iban = some account) :
    exchange = handover iban account := by
  obtain ⟨question, answer⟩ := exchange
  cases question with
  | outside ask => cases handed
  | ledger ask =>
      cases ask with
      | lock other =>
          change Except Refusal (Option Account) at answer
          change (if other = iban then answer.toOption.join else none) = some account at handed
          split at handed
          · rename_i same
            subst same
            rcases answer with refusal | _ | row
            · cases handed
            · cases handed
            · cases handed
              rfl
          · cases handed
      | _ => cases handed

/-- The exchange that reads the limit row of an account on a day. -/
def reading (iban : String) (date : Date) (today : Option DailyLimit) : Exchange :=
  ⟨.ledger (.readLimit iban date), (.ok today : Except Refusal (Option DailyLimit))⟩

theorem eq_reading
    {iban : String}
    {today : Option DailyLimit}
    {exchange : Exchange}
    (read : exchange.limitFor? iban = some today) :
    ∃ date, exchange = reading iban date today := by
  obtain ⟨question, answer⟩ := exchange
  cases question with
  | outside ask => cases read
  | ledger ask =>
      cases ask with
      | readLimit other date =>
          change Except Refusal (Option DailyLimit) at answer
          change (if other = iban then answer.toOption else none) = some today at read
          split at read
          · rename_i same
            subst same
            rcases answer with refusal | row
            · cases read
            · cases read
              exact ⟨date, rfl⟩
          · cases read
      | _ => cases read

/-- The two accounts bear their numbers, if the ledger hands over what it is asked for. -/
theorem Granted.named
    {pair : LockedPair}
    (granted : mandate.Granted heard pair)
    (truthful : ∀ exchange ∈ heard, exchange.Truthful) :
    pair.sender.iban = mandate.sender ∧ pair.receiver.iban = mandate.receiver := by
  have named : ∀ iban account, account? iban heard = some account -> account.iban = iban := by
    intro iban account handed
    obtain ⟨exchange, member, found⟩ := List.exists_of_findSome?_eq_some handed
    have honest := truthful exchange member
    rw [eq_handover found] at honest
    exact honest account rfl
  exact ⟨named _ _ granted.sender, named _ _ granted.receiver⟩

theorem named_of_today?
    {row : DailyLimit}
    (read : mandate.today? heard = some (some row))
    (truthful : ∀ exchange ∈ heard, exchange.Truthful) :
    row.iban = mandate.sender := by
  obtain ⟨exchange, member, found⟩ := List.exists_of_findSome?_eq_some read
  have honest := truthful exchange member
  obtain ⟨date, same⟩ := eq_reading found
  rw [same] at honest
  exact honest row rfl

/-- Only rows of the two accounts are written, if the ledger hands over what it is asked for. -/
theorem written_of_proper
    {ask : LedgerAsk}
    (proper : mandate.ProperLedger heard ask)
    (truthful : ∀ exchange ∈ heard, exchange.Truthful) :
    ∀ iban ∈ ask.written, iban = mandate.sender ∨ iban = mandate.receiver := by
  cases ask with
  | writeLimit row =>
      obtain ⟨-, pair, today, granted, read, keeps⟩ := proper
      have sender := (granted.named truthful).1
      intro iban member
      rw [List.mem_singleton.mp member]
      change row.iban = _ at keeps
      cases today with
      | none => exact Or.inl (keeps.trans sender)
      | some other => exact Or.inl (keeps.trans (named_of_today? read truthful))
  | writeAccount row =>
      obtain ⟨-, pair, today, granted, -, keeps⟩ := proper
      obtain ⟨sender, receiver⟩ := granted.named truthful
      intro iban member
      rw [List.mem_singleton.mp member]
      rcases keeps with debited | credited
      · rw [debited]
        exact Or.inl sender
      · rw [credited]
        exact Or.inr receiver
  | record draft =>
      obtain ⟨-, pair, today, granted, -, sends, receives⟩ := proper
      obtain ⟨sender, receiver⟩ := granted.named truthful
      intro iban member
      rcases List.mem_cons.mp member with rfl | member
      · exact Or.inl (sends.trans sender)
      · rw [List.mem_singleton.mp member]
        exact Or.inr (receives.trans receiver)
  | _ =>
      intro iban member
      cases member

/-- The first of two locks is the lesser one. -/
theorem order_ascends (distinct : mandate.sender ≠ mandate.receiver) :
    mandate.order.1 < mandate.order.2 := by
  rw [order, lockOrder_eq]
  exact min_lt_max.mpr distinct

/-- A transaction is discarded for an overflow alone, which is then the outcome. -/
theorem overflow_of_discard
    {before after : List Exchange}
    {outcome : Except Failure Transfer}
    {exchange : Exchange}
    (concluded : mandate.Concluded (before ++ exchange :: after) outcome)
    (proper : mandate.ProperLedger before .discard) :
    ∃ overflow, outcome = .error (.overflowed overflow) := by
  have demanded := proper.2
  cases failed : mandate.failed? before with
  | none =>
      rw [failed] at demanded
      cases demanded
  | some failure =>
      cases failure with
      | refused refusal =>
          rw [failed] at demanded
          cases demanded
      | overflowed overflow =>
          refine ⟨overflow, (concluded.fails _).mpr ?_⟩
          rw [failed?_append, failed, Option.some_or]

/--
Whoever answers: a transfer that names a single account asks nothing. Any other one
asks each of its questions in its place, so that it begins one transaction, locks
both accounts in ascending order, writes nothing before both are handed over and
nothing else than their rows, ends the transaction once, as its steps have gone,
fails exactly as its first failing step did, and is noted once, after a commit.
Nothing but an overflow has it leave a transaction without commit or rollback.
-/
theorem transfer_keeps_protocol
    (request : TransferRequest)
    (caller : Caller)
    (partner : transferSurroundings.Partner) :
    let mandate := Mandate.of request caller
    let conversation := (transferScript request caller).converse partner []
    mandate.Final conversation.1 conversation.2 ∧
      (mandate.sender ≠ mandate.receiver -> mandate.order.1 < mandate.order.2) ∧
      ∀ before question answer after,
        conversation.1 = before ++ ⟨question, answer⟩ :: after ->
          mandate.Proper before question ∧
            (question = .ledger .discard ->
              ∃ overflow, conversation.2 = .error (.overflowed overflow)) ∧
            ((∀ exchange ∈ before, Exchange.Truthful exchange) ->
              ∀ ask, question = .ledger ask ->
                ∀ iban ∈ ask.written, iban = mandate.sender ∨ iban = mandate.receiver) := by
  intro mandate conversation
  obtain ⟨final, proper⟩ := proper_of_leads (Script.Leads.start.converse partner)
  refine ⟨final, order_ascends, ?_⟩
  intro before question answer after equal
  have inPlace := proper before question answer after equal
  refine ⟨inPlace, ?_, ?_⟩
  · rintro rfl
    rcases final with ⟨-, silent, -⟩ | ⟨-, concluded⟩
    · rw [silent] at equal
      exact absurd equal.symm (List.append_ne_nil_of_right_ne_nil _ (List.cons_ne_nil _ _))
    · rw [equal] at concluded
      exact overflow_of_discard concluded inPlace
  · rintro truthful ask rfl
    exact written_of_proper inPlace truthful

end Mandate

namespace Sample

/-- Whoever is asked grants everything, and has used a limit up to the last unit there is. -/
def brimful : transferSurroundings.Partner := fun _ question =>
  match question with
  | .outside ask => oracle 7 "R7" 0 ask
  | .ledger ask =>
      let largest : Decimal := .whole (Decimal.capacity - 1) (by decide)
      match ask with
      | .lock iban =>
          (.ok (some { account iban 1 with dailyLimit := largest }) :
            Except Refusal (Option Account))
      | .readLimit iban date =>
          (.ok (some ⟨iban, date, largest, largest⟩) : Except Refusal (Option DailyLimit))
      | .record draft => (.ok ⟨draft, 1⟩ : Except Refusal Transfer)
      | .begin | .writeLimit _ | .writeAccount _ | .commit | .rollback =>
          (.ok () : Except Refusal Unit)
      | .discard => ()

end Sample

/--
The sum of the limit rule overflows. The transaction that was begun is neither
committed nor rolled back, and there is no refusal to return.
-/
theorem Mandate.overflow_abandons_transaction :
    let conversation :=
      (transferScript (Sample.errand "A" "B" 1 7 "R7").request
        (Sample.errand "A" "B" 1 7 "R7").caller).converse Sample.brimful []
    let asked : List TransferAsk := conversation.1.map Sigma.fst
    conversation.1.any Exchange.opens = true ∧
      .ledger .commit ∉ asked ∧ .ledger .rollback ∉ asked ∧
      conversation.2 = .error (.overflowed .addition) := by
  decide

end Giro
