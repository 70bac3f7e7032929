import Giro.Proofs.Receipt.Cooldown

/-!
# Receipts one at a time

Receipts are issued one after another behind one breaker, on a clock that may show
anything and with a printer that may answer anything. Each trial to render a receipt
is written down: when the breaker was asked, what rendering came to if the trial was
let pass, and when a failure was reported. What was written down before decides
whether the next trial is let pass, and the trials of a call decide its outcome.
-/

namespace Giro

/-- Whether rendering failed. -/
def Rendering.isFailure : Rendering -> Bool
  | .rendered _ => false
  | .transient _ => true
  | .fatal _ => true

/-- A trial to render a receipt; nothing was rendered if the breaker did not let it pass. -/
structure Trial where
  asked : Instant
  rendering? : Option Rendering
  reported? : Option Instant
deriving DecidableEq

namespace Trial

/-- Whether the breaker let the trial pass. -/
def passed (trial : Trial) : Bool :=
  trial.rendering?.isSome

/-- Whether the trial passed and rendering failed. -/
def failed (trial : Trial) : Bool :=
  trial.rendering?.any Rendering.isFailure

/-- Whether rendering failed in a way that is worth another trial. -/
def isTransient (trial : Trial) : Bool :=
  match trial.rendering? with
  | some (.transient _) => true
  | _ => false

/-- When the clock was read for the trial. -/
def readings (trial : Trial) : List Instant :=
  trial.asked :: trial.reported?.toList

/-- What a call comes to that ends with the trial. -/
def verdict (trial : Trial) : Except Failure String :=
  match trial.rendering? with
  | some (.rendered text) => .ok text
  | some (.fatal reason) => .error (.refused (.renderingFailed reason))
  | some (.transient _) => .error (.refused .receiptUnavailable)
  | none => .error (.refused .receiptUnavailable)

/-- What was rendered in some trials, newest first. -/
def renderings (trials : List Trial) : List Rendering :=
  trials.filterMap Trial.rendering?

/-- When the clock was read for some trials, in order of time. -/
def timeline (trials : List Trial) : List Instant :=
  trials.reverse.flatMap readings

/-- How many renderings failed in a row, up to the last one. -/
def strikes (trials : List Trial) : Nat :=
  ((renderings trials).takeWhile Rendering.isFailure).length

/-- When the last failure was reported. -/
def lastFailure? (trials : List Trial) : Option Instant :=
  trials.findSome? Trial.reported?

/--
Whether a trial is let pass at an instant after some trials, newest first: fewer
renderings than the threshold failed in a row, or the last failure is a cooldown ago.
-/
def Admissible (settings : BreakerSettings) (earlier : List Trial) (now : Instant) : Prop :=
  strikes earlier < max 1 settings.threshold ∨
    ∃ failed, lastFailure? earlier = some failed ∧ failed.plusMillis settings.cooldown <= now

/-- Every trial was let pass exactly if it was admissible after those before it. -/
def Ruled (settings : BreakerSettings) (trials : List Trial) : Prop :=
  ∀ trial older, trial :: older <:+ trials ->
    (trial.passed = true ↔ Admissible settings older trial.asked)

/-- What was rendered in some trials is what the printer came to, from a count on. -/
def Pressed
    (press : Nat -> TransferDetails -> Rendering)
    (details : TransferDetails)
    (first : Nat)
    (trials : List Trial) : Prop :=
  (renderings trials).reverse =
    (List.range (renderings trials).length).map (fun count => press (first + count) details)

/-- What a breaker is like between calls, after some trials. -/
def Settled (settings : BreakerSettings) (trials : List Trial) : BreakerState -> Prop
  | .closed failures => failures = strikes trials ∧ strikes trials < max 1 settings.threshold
  | .opened since => lastFailure? trials = some since ∧ max 1 settings.threshold <= strikes trials
  | .halfOpen _ => False

@[simp] theorem renderings_nil : renderings [] = [] := rfl

@[simp] theorem renderings_cons (trial : Trial) (trials : List Trial) :
    renderings (trial :: trials) = trial.rendering?.toList ++ renderings trials := by
  cases rendering : trial.rendering? <;> simp [renderings, rendering]

@[simp] theorem lastFailure?_cons (trial : Trial) (trials : List Trial) :
    lastFailure? (trial :: trials) = trial.reported?.or (lastFailure? trials) := by
  cases reported : trial.reported? <;> simp [lastFailure?, reported]

@[simp] theorem renderings_append (newer older : List Trial) :
    renderings (newer ++ older) = renderings newer ++ renderings older :=
  List.filterMap_append

@[simp] theorem timeline_cons (trial : Trial) (trials : List Trial) :
    timeline (trial :: trials) = timeline trials ++ trial.readings := by
  simp [timeline]

/-- A failure was reported when the clock was read. -/
theorem mem_timeline_of_lastFailure
    {trials : List Trial}
    {failed : Instant}
    (last : lastFailure? trials = some failed) :
    failed ∈ timeline trials := by
  obtain ⟨trial, member, reported⟩ := List.exists_of_findSome?_eq_some last
  exact List.mem_flatMap.mpr
    ⟨trial, List.mem_reverse.mpr member, by simp [readings, reported]⟩

theorem Pressed.append
    {press : Nat -> TransferDetails -> Rendering}
    {details : TransferDetails}
    {first : Nat}
    {newer older : List Trial}
    (after : Pressed press details (first + (renderings older).length) newer)
    (before : Pressed press details first older) :
    Pressed press details first (newer ++ older) := by
  unfold Pressed at *
  rw [renderings_append, List.reverse_append, List.length_append, Nat.add_comm, List.range_add,
    List.map_append, before, after, List.map_map]
  simp [Function.comp_def, Nat.add_assoc]

theorem length_renderings_le (trials : List Trial) :
    (renderings trials).length <= trials.length :=
  List.length_filterMap_le _ _

/-- In trials that failed and are worth another one, something was rendered each time. -/
theorem length_renderings_of_transient
    {trials : List Trial}
    (transient : ∀ trial ∈ trials, trial.isTransient = true) :
    (renderings trials).length = trials.length := by
  induction trials with
  | nil => rfl
  | cons trial rest ih =>
      obtain ⟨here, there⟩ := List.forall_mem_cons.mp transient
      cases rendering : trial.rendering? with
      | none => simp [isTransient, rendering] at here
      | some rendered => simp [rendering, ih there]

theorem strikes_of_failure
    {rendering : Rendering}
    (failure : rendering.isFailure = true)
    (asked : Instant)
    (reported? : Option Instant)
    (trials : List Trial) :
    strikes (⟨asked, some rendering, reported?⟩ :: trials) = strikes trials + 1 := by
  simp [strikes, failure]

theorem ruled_nil (settings : BreakerSettings) : Ruled settings [] := by
  intro trial older within
  cases List.suffix_nil.mp within

theorem Ruled.cons
    {settings : BreakerSettings}
    {trials : List Trial}
    (ruled : Ruled settings trials)
    {trial : Trial}
    (rule : trial.passed = true ↔ Admissible settings trials trial.asked) :
    Ruled settings (trial :: trials) := by
  intro other older within
  rcases List.suffix_cons_iff.mp within with same | within
  · obtain ⟨rfl, rfl⟩ := List.cons.inj same
    exact rule
  · exact ruled other older within

end Trial

/-- The breaker, how often the clock was read, and the trials so far, newest first. -/
structure Shift where
  breaker : Breaker
  readings : Nat
  trials : List Trial
deriving DecidableEq

/-- A receipt that is asked for: of which transfer in which ledger, and by whom. -/
structure ReceiptCall where
  tables : Tables
  id : Int
  caller : Caller

/-- Whether a caller is an administrator or owns the account on one side of a transfer. -/
def Tables.Party (tables : Tables) (transfer : Transfer) (caller : Caller) : Prop :=
  caller.role = .admin ∨
    ∃ account,
      (tables.findAccount transfer.sender = some account ∨
        tables.findAccount transfer.receiver = some account) ∧
        account.owner.userId = caller.userId

/-- The accounts on both sides of every transfer are there. -/
def Tables.Linked (tables : Tables) : Prop :=
  ∀ transfer ∈ tables.transfers,
    (tables.findAccount transfer.sender).isSome = true ∧
      (tables.findAccount transfer.receiver).isSome = true

namespace Shift

open Trial

/-- Before the first trial, behind a closed breaker. -/
def make (settings : BreakerSettings) : Shift :=
  ⟨.make settings, 0, []⟩

/-- How often something was rendered. -/
def rendered (shift : Shift) : Nat :=
  (renderings shift.trials).length

/-- The shift with its newest trial changed. -/
def amend (shift : Shift) (change : Trial -> Trial) : Shift :=
  match shift.trials with
  | [] => shift
  | trial :: earlier => { shift with trials := change trial :: earlier }

section Session

variable
  (clock : Nat -> Instant)
  (press : Nat -> TransferDetails -> Rendering)
  (policy : RetryPolicy)

/-- The answer to what issuing a receipt asks for, and the shift after it. -/
def respond : (ask : ReceiptAsk) -> Shift -> ask.Answer × Shift
  | .allowed, shift =>
      let now := clock shift.readings
      (((shift.breaker.allow now).map Prod.fst,
        { breaker := shift.breaker.heed now .allowed
          readings := shift.readings + 1
          trials := ⟨now, none, none⟩ :: shift.trials }) : Except Overflow Bool × Shift)
  | .render details, shift =>
      let rendering := press shift.rendered details
      ((rendering, shift.amend (fun trial => { trial with rendering? := some rendering })) :
        Rendering × Shift)
  | .succeeded, shift => (((), { shift with breaker := shift.breaker.succeed }) : Unit × Shift)
  | .failed, shift =>
      let now := clock shift.readings
      (((),
        { shift with
            breaker := shift.breaker.fail now
            readings := shift.readings + 1 }.amend
          (fun trial => { trial with reported? := some now })) : Unit × Shift)
  | .pause _ _, shift => (((), shift) : Unit × Shift)

/-- The outcome of a call, and the shift after it. -/
def serve (call : ReceiptCall) (shift : Shift) : Except Failure Receipt × Shift :=
  (Receipt.issue (.ofTables call.tables) policy call.id call.caller).run
    (respond clock press) shift

/-- The shift after some calls, one after another. -/
def serveAll (calls : List ReceiptCall) (shift : Shift) : Shift :=
  calls.foldl (fun shift call => (serve clock press policy call shift).2) shift

/-- The trials written down so far, what they say of the breaker, and the rule that they follow. -/
structure Orderly (settings : BreakerSettings) (shift : Shift) : Prop where
  configured : shift.breaker.settings = (Breaker.make settings).settings
  settled : Settled settings shift.trials shift.breaker.state
  timed : timeline shift.trials = (List.range shift.readings).map clock
  reported : ∀ trial ∈ shift.trials, trial.reported?.isSome = trial.failed
  ruled : Ruled settings shift.trials

theorem orderly_make (settings : BreakerSettings) : Orderly clock settings (make settings) where
  configured := rfl
  settled := ⟨rfl, Nat.lt_of_lt_of_le Nat.zero_lt_one (Nat.le_max_left ..)⟩
  timed := rfl
  reported := by simp [make]
  ruled := ruled_nil settings

/-- What becomes of a breaker that is asked whether a trial may pass. -/
structure Asked
    (settings : BreakerSettings)
    (shift : Shift)
    (passes : Bool)
    (after : Breaker) : Prop where
  allowed : shift.breaker.allow (clock shift.readings) = .ok (passes, after)
  admissible : passes = true ↔ Admissible settings shift.trials (clock shift.readings)
  same : passes = false -> after = shift.breaker
  configured : after.settings = (Breaker.make settings).settings
  state : passes = true ->
    (after.state = .closed (strikes shift.trials) ∧
        strikes shift.trials < max 1 settings.threshold) ∨
      (∃ probed, after.state = .halfOpen probed) ∧
        max 1 settings.threshold <= strikes shift.trials

end Session

variable
  {clock : Nat -> Instant}
  {press : Nat -> TransferDetails -> Rendering}
  {policy : RetryPolicy}
  {settings : BreakerSettings}
  {shift : Shift}

/-- A breaker can always tell whether a trial may pass. -/
theorem Orderly.asked
    (orderly : Orderly clock settings shift)
    (cooldown : settings.cooldown <= Breaker.maxCooldown)
    (reached : ∀ reading, ((clock reading).plusMillis settings.cooldown).inRange = true) :
    ∃ passes after, Asked clock settings shift passes after := by
  obtain ⟨⟨breakerSettings, state⟩, readings, trials⟩ := shift
  obtain rfl : breakerSettings = (Breaker.make settings).settings := orderly.configured
  have settled : Settled settings trials state := orderly.settled
  cases state with
  | halfOpen probed => exact settled.elim
  | closed failures =>
      obtain ⟨rfl, few⟩ := settled
      exact ⟨true, _, rfl, ⟨fun _ => .inl few, fun _ => rfl⟩, by simp,
        rfl, fun _ => .inl ⟨rfl, few⟩⟩
  | opened since =>
      obtain ⟨last, many⟩ := settled
      have read : since ∈ (List.range readings).map clock :=
        orderly.timed ▸ mem_timeline_of_lastFailure last
      obtain ⟨reading, -, rfl⟩ := List.mem_map.mp read
      have finite : ¬ Breaker.maxCooldown < settings.cooldown := Nat.not_lt.mpr cooldown
      have admissible_iff :
          Admissible settings trials (clock readings) ↔
            (clock reading).plusMillis settings.cooldown <= clock readings := by
        simp [Admissible, last, Nat.not_lt.mpr many]
      by_cases elapsed : (clock reading).plusMillis settings.cooldown <= clock readings
      · refine ⟨true, ⟨(Breaker.make settings).settings, .halfOpen (clock readings)⟩, ?_,
          ⟨fun _ => admissible_iff.mpr elapsed, fun _ => rfl⟩, by simp,
          rfl, fun _ => .inr ⟨⟨_, rfl⟩, many⟩⟩
        simp [Breaker.allow, Breaker.cooledDown, Breaker.make, finite, Instant.addMillis, reached,
          elapsed]
      · refine ⟨false, ⟨(Breaker.make settings).settings, .opened (clock reading)⟩, ?_,
          ⟨by simp, fun admissible => absurd (admissible_iff.mp admissible) elapsed⟩,
          fun _ => rfl, rfl, by simp⟩
        simp [Breaker.allow, Breaker.cooledDown, Breaker.make, finite, Instant.addMillis, reached,
          elapsed]

/-- A trial that is not let pass leaves the breaker as it is. -/
theorem Orderly.refuse
    {after : Breaker}
    (orderly : Orderly clock settings shift)
    (asked : Asked clock settings shift false after) :
    Orderly clock settings
      ⟨after, shift.readings + 1, ⟨clock shift.readings, none, none⟩ :: shift.trials⟩ where
  configured := asked.configured
  settled := asked.same rfl ▸ orderly.settled
  timed := by simp [orderly.timed, Trial.readings, List.range_succ]
  reported := List.forall_mem_cons.mpr ⟨rfl, orderly.reported⟩
  ruled := orderly.ruled.cons asked.admissible

/-- A success closes the breaker. -/
theorem Orderly.succeed
    {after : Breaker}
    (orderly : Orderly clock settings shift)
    (asked : Asked clock settings shift true after)
    (text : String) :
    Orderly clock settings
      ⟨after.succeed, shift.readings + 1,
        ⟨clock shift.readings, some (.rendered text), none⟩ :: shift.trials⟩ where
  configured := asked.configured
  settled := ⟨rfl, Nat.lt_of_lt_of_le Nat.zero_lt_one (Nat.le_max_left ..)⟩
  timed := by simp [orderly.timed, Trial.readings, List.range_succ]
  reported := List.forall_mem_cons.mpr ⟨rfl, orderly.reported⟩
  ruled := orderly.ruled.cons asked.admissible

/-- A failure opens the breaker if enough of them happened in a row. -/
theorem Orderly.fail
    {after : Breaker}
    (orderly : Orderly clock settings shift)
    (counted : settings.threshold <= Breaker.maxFailures)
    (asked : Asked clock settings shift true after)
    {rendering : Rendering}
    (failure : rendering.isFailure = true) :
    Orderly clock settings
      ⟨after.fail (clock (shift.readings + 1)), shift.readings + 2,
        ⟨clock shift.readings, some rendering, some (clock (shift.readings + 1))⟩ ::
          shift.trials⟩ where
  configured := by
    rw [← asked.configured]
    exact Breaker.settings_heed after _ .failed
  settled := by
    obtain ⟨breakerSettings, state⟩ := after
    obtain rfl : breakerSettings = (Breaker.make settings).settings := asked.configured
    have limit : 1 <= Breaker.maxFailures := by decide
    rcases asked.state rfl with ⟨rfl, few⟩ | ⟨⟨probed, rfl⟩, many⟩
    · have threshold : (Breaker.make settings).settings.threshold = max settings.threshold 1 := rfl
      simp only [Breaker.fail]
      by_cases reached : (Breaker.make settings).settings.threshold <=
          min (strikes shift.trials + 1) Breaker.maxFailures
      · rw [if_pos reached]
        refine ⟨by simp, ?_⟩
        rw [strikes_of_failure failure]
        omega
      · rw [if_neg reached]
        refine ⟨?_, ?_⟩ <;> rw [strikes_of_failure failure] <;> omega
    · refine ⟨by simp, ?_⟩
      rw [strikes_of_failure failure]
      omega
  timed := by simp [orderly.timed, Trial.readings, List.range_succ]
  reported := List.forall_mem_cons.mpr ⟨failure.symm, orderly.reported⟩
  ruled := orderly.ruled.cons asked.admissible

/-- One more trial was written down. -/
structure Tried
    (clock : Nat -> Instant)
    (press : Nat -> TransferDetails -> Rendering)
    (settings : BreakerSettings)
    (details : TransferDetails)
    (shift : Shift)
    (trial : Trial)
    (after : Shift) : Prop where
  trials : after.trials = trial :: shift.trials
  orderly : Orderly clock settings after
  pressed : Pressed press details shift.rendered [trial]

variable (press policy) in
/-- An attempt is one trial, and goes on only after a transient failure. -/
theorem run_attempt
    (orderly : Orderly clock settings shift)
    (counted : settings.threshold <= Breaker.maxFailures)
    (cooldown : settings.cooldown <= Breaker.maxCooldown)
    (reached : ∀ reading, ((clock reading).plusMillis settings.cooldown).inRange = true)
    (details : TransferDetails) :
    ∃ trial after, Tried clock press settings details shift trial after ∧
      (∀ number,
        (Receipt.attempt policy details 0 number).run (respond clock press) shift =
          (trial.verdict, after)) ∧
      ∀ left number,
        (Receipt.attempt policy details (left + 1) number).run (respond clock press) shift =
          if trial.isTransient then
            (Receipt.attempt policy details left (number + 1)).run (respond clock press) after
          else (trial.verdict, after) := by
  obtain ⟨passes, breaker, asked⟩ := orderly.asked cooldown reached
  have allowed := asked.allowed
  cases passes with
  | false =>
      have nothing : Pressed press details shift.rendered [⟨clock shift.readings, none, none⟩] := by
        simp [Pressed]
      refine ⟨_, _, ⟨rfl, orderly.refuse asked, nothing⟩, fun number => ?_,
        fun left number => ?_⟩ <;>
        simp [Receipt.attempt, Script.run, respond, Breaker.heed, allowed, Except.map, verdict,
          isTransient]
  | true =>
      cases pressed : press (renderings shift.trials).length details with
      | rendered text =>
          refine ⟨_, _, ⟨rfl, orderly.succeed asked text, ?_⟩, fun number => ?_,
            fun left number => ?_⟩
          · simp [Pressed, rendered, pressed]
          all_goals
            simp [Receipt.attempt, Script.run, respond, amend, Breaker.heed, allowed, Except.map,
              verdict, isTransient, rendered, pressed]
      | fatal reason =>
          have failure : (Rendering.fatal reason).isFailure = true := rfl
          refine ⟨_, _, ⟨rfl, orderly.fail counted asked failure, ?_⟩,
            fun number => ?_, fun left number => ?_⟩
          · simp [Pressed, rendered, pressed]
          all_goals
            simp [Receipt.attempt, Script.run, respond, amend, Breaker.heed, allowed, Except.map,
              verdict, isTransient, rendered, pressed]
      | transient reason =>
          have failure : (Rendering.transient reason).isFailure = true := rfl
          refine ⟨_, _, ⟨rfl, orderly.fail counted asked failure, ?_⟩,
            fun number => ?_, fun left number => ?_⟩
          · simp [Pressed, rendered, pressed]
          all_goals
            simp [Receipt.attempt, Script.run, respond, amend, Breaker.heed, allowed, Except.map,
              verdict, isTransient, rendered, pressed]

/-- The trials of one call, newest first: all but the newest one failed and were repeated. -/
structure Carried
    (clock : Nat -> Instant)
    (press : Nat -> TransferDetails -> Rendering)
    (settings : BreakerSettings)
    (details : TransferDetails)
    (left : Nat)
    (shift : Shift)
    (newest : Trial)
    (repeated : List Trial)
    (after : Shift) : Prop where
  trials : after.trials = newest :: repeated ++ shift.trials
  orderly : Orderly clock settings after
  transient : ∀ trial ∈ repeated, trial.isTransient = true
  bounded : repeated.length <= left
  exhausted : newest.isTransient = true -> repeated.length = left
  pressed : Pressed press details shift.rendered (newest :: repeated)

variable (press policy) in
/-- The trials of a call are as many as it takes, and as there are left at most. -/
theorem run_attempts
    (orderly : Orderly clock settings shift)
    (counted : settings.threshold <= Breaker.maxFailures)
    (cooldown : settings.cooldown <= Breaker.maxCooldown)
    (reached : ∀ reading, ((clock reading).plusMillis settings.cooldown).inRange = true)
    (details : TransferDetails)
    (left number : Nat) :
    ∃ newest repeated after,
      (Receipt.attempt policy details left number).run (respond clock press) shift =
          (newest.verdict, after) ∧
        Carried clock press settings details left shift newest repeated after := by
  induction left generalizing shift number with
  | zero =>
      obtain ⟨trial, after, tried, last, -⟩ :=
        run_attempt press policy orderly counted cooldown reached details
      exact ⟨trial, [], after, last number, tried.trials, tried.orderly, nofun, Nat.le_refl 0,
        fun _ => rfl, tried.pressed⟩
  | succ left ih =>
      obtain ⟨trial, after, tried, -, more⟩ :=
        run_attempt press policy orderly counted cooldown reached details
      rw [more]
      cases transient : trial.isTransient with
      | false =>
          exact ⟨trial, [], after, rfl, tried.trials, tried.orderly, nofun, Nat.zero_le _,
            fun _ => by simp_all, tried.pressed⟩
      | true =>
          obtain ⟨newest, repeated, last, ran, carried⟩ := ih tried.orderly (number + 1)
          refine ⟨newest, repeated ++ [trial], last, ran, ?_, carried.orderly, ?_, ?_, ?_, ?_⟩
          · simp [carried.trials, tried.trials]
          · exact List.forall_mem_append.mpr ⟨carried.transient, by simpa using transient⟩
          · simpa using carried.bounded
          · simpa using carried.exhausted
          · have count : after.rendered = shift.rendered + (renderings [trial]).length := by
              simp [rendered, tried.trials, Nat.add_comm]
            have newer := carried.pressed
            rw [count] at newer
            exact newer.append tried.pressed

variable (press policy) in
/-- Rendering the receipt of a transfer is the trials of one call. -/
theorem run_render
    (orderly : Orderly clock settings shift)
    (counted : settings.threshold <= Breaker.maxFailures)
    (cooldown : settings.cooldown <= Breaker.maxCooldown)
    (reached : ∀ reading, ((clock reading).plusMillis settings.cooldown).inRange = true)
    {call : ReceiptCall}
    {details : TransferDetails}
    (found : Receipt.lookUp (.ofTables call.tables) call.id call.caller = .ok details) :
    ∃ newest repeated after,
      serve clock press policy call shift =
          (newest.verdict.map (fun text => ⟨details.transfer.reference, text⟩), after) ∧
        Carried clock press settings details (policy.maxAttempts - 1) shift newest repeated
          after := by
  obtain ⟨newest, repeated, after, ran, carried⟩ :=
    run_attempts press policy orderly counted cooldown reached details
      (policy.maxAttempts - 1) 1
  refine ⟨newest, repeated, after, ?_, carried⟩
  simp only [serve, Receipt.issue, found, Receipt.render]
  refine (Script.run_bind _ (Receipt.attempt policy details _ _) _ _).trans ?_
  rw [ran]
  rfl

theorem serve_of_error
    {call : ReceiptCall}
    {failure : Failure}
    (found : Receipt.lookUp (.ofTables call.tables) call.id call.caller = .error failure) :
    serve clock press policy call shift = (.error failure, shift) := by
  simp only [serve, Receipt.issue, found]
  rfl

theorem Orderly.serve
    (orderly : Orderly clock settings shift)
    (counted : settings.threshold <= Breaker.maxFailures)
    (cooldown : settings.cooldown <= Breaker.maxCooldown)
    (reached : ∀ reading, ((clock reading).plusMillis settings.cooldown).inRange = true)
    (call : ReceiptCall) :
    Orderly clock settings (serve clock press policy call shift).2 := by
  cases found : Receipt.lookUp (.ofTables call.tables) call.id call.caller with
  | error failure =>
      rw [serve_of_error found]
      exact orderly
  | ok details =>
      obtain ⟨_, _, after, served, carried⟩ :=
        run_render press policy orderly counted cooldown reached found
      rw [served]
      exact carried.orderly

theorem Orderly.serveAll
    (orderly : Orderly clock settings shift)
    (counted : settings.threshold <= Breaker.maxFailures)
    (cooldown : settings.cooldown <= Breaker.maxCooldown)
    (reached : ∀ reading, ((clock reading).plusMillis settings.cooldown).inRange = true)
    (calls : List ReceiptCall) :
    Orderly clock settings (serveAll clock press policy calls shift) := by
  induction calls generalizing shift with
  | nil => exact orderly
  | cons call rest ih => exact ih (orderly.serve counted cooldown reached call)

end Shift

namespace Receipt

variable {tables : Tables} {id : Int} {caller : Caller}

theorem lookUp_unknown (unknown : ∀ transfer ∈ tables.transfers, transfer.id ≠ id) :
    lookUp (.ofTables tables) id caller = .error (.refused (.noSuchTransfer id)) := by
  have missing : tables.transfers.find? (fun transfer => transfer.id = id) = none := by
    simpa using unknown
  simp only [lookUp, Reader.ofTables, Tables.findTransfer, missing]
  rfl

/-- The parties of a transfer may see its receipt, and nobody else. -/
theorem lookUp_found
    (linked : tables.Linked)
    {transfer : Transfer}
    (logged : tables.transfers.find? (fun transfer => transfer.id = id) = some transfer) :
    ∃ details, tables.findTransfer id = .ok (some details) ∧ details.transfer = transfer ∧
      (tables.Party transfer caller ->
        lookUp (.ofTables tables) id caller = .ok details) ∧
      (¬ tables.Party transfer caller ->
        lookUp (.ofTables tables) id caller = .error (.refused .notParty)) := by
  obtain ⟨senderThere, receiverThere⟩ := linked transfer (List.mem_of_find?_eq_some logged)
  obtain ⟨sender, senderFound⟩ := Option.isSome_iff_exists.mp senderThere
  obtain ⟨receiver, receiverFound⟩ := Option.isSome_iff_exists.mp receiverThere
  have found : tables.findTransfer id = .ok (some ⟨transfer, sender.owner, receiver.owner⟩) := by
    simp only [Tables.findTransfer, logged, Tables.ownerOf, senderFound, receiverFound]
    rfl
  have party_iff :
      mayView caller ⟨transfer, sender.owner, receiver.owner⟩ = true ↔
        tables.Party transfer caller := by
    simp [mayView, Tables.Party, Caller.isAdmin, senderFound, receiverFound, or_and_right,
      exists_or, or_assoc]
  refine ⟨_, found, rfl, fun party => ?_, fun stranger => ?_⟩
  · simp only [lookUp, Reader.ofTables, found, Failure.ofRefusal]
    exact if_pos (party_iff.mpr party)
  · simp only [lookUp, Reader.ofTables, found, Failure.ofRefusal]
    exact if_neg (fun allowed => stranger (party_iff.mp allowed))

end Receipt
/-- What can be added to an instant is shorter than the longest cooldown. -/
theorem Breaker.cooldown_le_of_inRange
    {instant : Instant}
    {cooldown : Nat}
    (told : instant.inRange = true)
    (reached : (instant.plusMillis cooldown).inRange = true) :
    cooldown <= maxCooldown := by
  have later := Instant.seconds_le_plusMillis instant cooldown
  simp only [Instant.inRange, Bool.and_eq_true, decide_eq_true_eq] at told reached
  have early : Date.first.day <= instant.seconds / 86400 := told.1
  have late : (instant.plusMillis cooldown).seconds / 86400 <= Date.last.day := reached.2
  have first : Date.first.day = -96465292 := by decide
  have last : Date.last.day = 95026236 := by decide
  rw [maxCooldown]
  omega

namespace Shift

open Trial

/-- After a trial that passed while the breaker was open, the next one passes if it succeeded. -/
theorem Orderly.passed_after_probe
    {clock : Nat -> Instant}
    {settings : BreakerSettings}
    {shift : Shift}
    (orderly : Orderly clock settings shift)
    {next probe : Trial}
    {older : List Trial}
    (within : next :: probe :: older <:+ shift.trials)
    (opened : max 1 settings.threshold <= strikes older)
    (passed : probe.passed = true) :
    next.passed = true ↔
      (probe.failed = true ->
        ∃ reported, probe.reported? = some reported ∧
          reported.plusMillis settings.cooldown <= next.asked) := by
  rw [orderly.ruled next _ within]
  have noted : probe.reported?.isSome = probe.failed :=
    orderly.reported probe (within.subset (by simp))
  obtain ⟨asked, rendering?, reported?⟩ := probe
  cases rendering? with
  | none => cases passed
  | some rendering =>
      cases failure : rendering.isFailure with
      | false =>
          have succeeded : strikes (⟨asked, some rendering, reported?⟩ :: older) = 0 := by
            simp [strikes, failure]
          have positive : 0 < max 1 settings.threshold :=
            Nat.lt_of_lt_of_le Nat.zero_lt_one (Nat.le_max_left ..)
          simp [Admissible, succeeded, positive, failed, failure]
      | true =>
          have failedProbe : (Trial.mk asked (some rendering) reported?).failed = true := failure
          rw [failedProbe] at noted
          obtain ⟨reported, rfl⟩ := Option.isSome_iff_exists.mp noted
          have many : ¬ strikes older + 1 < max 1 settings.threshold := by omega
          simp [Admissible, strikes_of_failure failure, many, failedProbe]

/--
Receipts are issued one at a time, whatever the clock shows and the printer answers.
Nobody but the parties of a transfer and administrators gets as far as the breaker. For
anyone else there are trials: all but the newest one failed and were worth another one,
there are no more renderings than attempts, as many if the newest one failed like that,
and the newest one decides the outcome. A trial is let pass exactly if fewer renderings
than the threshold failed in a row before it, in whatever calls, or if the cooldown has
passed since the last failure; so after a probe that failed nothing passes for another
cooldown, and after one that succeeded the next one passes.
-/
theorem receipts_guarded
    (settings : BreakerSettings)
    (counted : settings.threshold <= Breaker.maxFailures)
    (policy : RetryPolicy)
    (clock : Nat -> Instant)
    (told : ∀ reading, (clock reading).inRange = true)
    (reached : ∀ reading, ((clock reading).plusMillis settings.cooldown).inRange = true)
    (press : Nat -> TransferDetails -> Rendering)
    (calls : List ReceiptCall)
    (call : ReceiptCall)
    (linked : call.tables.Linked) :
    let before := serveAll clock press policy calls (make settings)
    let outcome := (serve clock press policy call before).1
    let after := (serve clock press policy call before).2
    ((∀ transfer ∈ call.tables.transfers, transfer.id ≠ call.id) ->
      outcome = .error (.refused (.noSuchTransfer call.id)) ∧ after = before) ∧
    (∀ transfer,
      call.tables.transfers.find? (fun transfer => transfer.id = call.id) = some transfer ->
        (¬ call.tables.Party transfer call.caller ->
          outcome = .error (.refused .notParty) ∧ after = before) ∧
        (call.tables.Party transfer call.caller ->
          ∃ details newest repeated,
            call.tables.findTransfer call.id = .ok (some details) ∧
            details.transfer = transfer ∧
            after.trials = newest :: repeated ++ before.trials ∧
            outcome = newest.verdict.map (fun text => ⟨transfer.reference, text⟩) ∧
            (∀ trial ∈ repeated, trial.isTransient = true) ∧
            (renderings (newest :: repeated)).length <= max 1 policy.maxAttempts ∧
            (newest.isTransient = true ->
              (renderings (newest :: repeated)).length = max 1 policy.maxAttempts) ∧
            Pressed press details before.rendered (newest :: repeated))) ∧
    timeline after.trials = (List.range after.readings).map clock ∧
    Ruled settings after.trials ∧
    ∀ next probe older, next :: probe :: older <:+ after.trials ->
      max 1 settings.threshold <= strikes older ->
        probe.passed = true ->
          (next.passed = true ↔
            (probe.failed = true ->
              ∃ reported, probe.reported? = some reported ∧
                reported.plusMillis settings.cooldown <= next.asked)) := by
  intro before outcome after
  have cooldown := Breaker.cooldown_le_of_inRange (told 0) (reached 0)
  have orderly : Orderly clock settings before :=
    (orderly_make clock settings).serveAll counted cooldown reached calls
  have orderlyAfter : Orderly clock settings after :=
    orderly.serve counted cooldown reached call
  have unserved {failure : Failure}
      (found : Receipt.lookUp (.ofTables call.tables) call.id call.caller = .error failure) :
      outcome = .error failure ∧ after = before := by
    simp only [outcome, after, serve_of_error found, and_self]
  refine ⟨fun unknown => unserved (Receipt.lookUp_unknown unknown), fun transfer logged => ?_,
    orderlyAfter.timed, orderlyAfter.ruled,
    fun next probe older within opened passed =>
      orderlyAfter.passed_after_probe within opened passed⟩
  obtain ⟨details, found, rfl, party, stranger⟩ := Receipt.lookUp_found linked logged
  refine ⟨fun isStranger => unserved (stranger isStranger), fun isParty => ?_⟩
  obtain ⟨newest, repeated, last, served, carried⟩ :=
    run_render press policy orderly counted cooldown reached (party isParty)
  refine ⟨details, newest, repeated, found, rfl, ?trials, ?outcome, carried.transient, ?bounded,
    ?exhausted, carried.pressed⟩
  case trials => simp only [after, served, carried.trials]
  case outcome => simp only [outcome, served]
  case bounded =>
    refine Nat.le_trans (length_renderings_le _) ?_
    have bounded := carried.bounded
    rw [List.length_cons]
    omega
  case exhausted =>
    intro transient
    have exhausted := carried.exhausted transient
    rw [length_renderings_of_transient (List.forall_mem_cons.mpr ⟨transient, carried.transient⟩),
      List.length_cons]
    omega

end Shift

namespace Sample

/-- A clock that stands still, and shows half a minute more after five readings. -/
def leapingClock (reading : Nat) : Instant :=
  if reading < 5 then ⟨0, 0⟩ else ⟨30, 0⟩

/-- A printer that fails twice. -/
def stubbornPress (count : Nat) (_ : TransferDetails) : Rendering :=
  if count < 2 then .transient "jam" else .rendered "text"

/-- The sender of the sample transfer asks for its receipt. -/
def receiptCall : ReceiptCall := ⟨ledger, 1, ⟨1, .user, "A", none⟩⟩

end Sample

namespace Shift

open Trial

/--
Two failures open the breaker in the middle of the first call. The second call comes
after the cooldown, and gets its receipt with the probe.
-/
theorem receipts_guarded_sample :
    let settings : BreakerSettings := ⟨2, 30000⟩
    let before :=
      serveAll Sample.leapingClock Sample.stubbornPress .standard [Sample.receiptCall]
        (make settings)
    let served :=
      serve Sample.leapingClock Sample.stubbornPress .standard Sample.receiptCall before
    settings.threshold <= Breaker.maxFailures ∧
      (∀ reading, (Sample.leapingClock reading).inRange = true) ∧
      (∀ reading,
        ((Sample.leapingClock reading).plusMillis settings.cooldown).inRange = true) ∧
      Sample.ledger.Linked ∧
      before.breaker.state = .opened ⟨0, 0⟩ ∧
      before.rendered = 2 ∧
      served.1.toOption = some ⟨"R7", "text"⟩ ∧
      served.2.breaker.state = .closed 0 ∧
      Ruled settings served.2.trials := by
  intro settings before served
  have counted : settings.threshold <= Breaker.maxFailures := by decide
  have told (reading : Nat) : (Sample.leapingClock reading).inRange = true := by
    unfold Sample.leapingClock
    split <;> decide
  have reached (reading : Nat) :
      ((Sample.leapingClock reading).plusMillis settings.cooldown).inRange = true := by
    unfold Sample.leapingClock
    split <;> decide
  have linked : Sample.ledger.Linked := by
    unfold Tables.Linked
    decide
  obtain ⟨-, -, -, ruled, -⟩ :=
    receipts_guarded settings counted .standard Sample.leapingClock told reached
      Sample.stubbornPress [Sample.receiptCall] Sample.receiptCall linked
  exact ⟨counted, told, reached, linked, by decide +kernel, by decide +kernel, by decide +kernel,
    by decide +kernel, ruled⟩

end Shift
end Giro
