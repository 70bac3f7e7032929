import Giro.Proofs.Time.Order
import Giro.Proofs.Traffic.Basic
import Giro.Receipt.Service

/-!
# Calls behind an open breaker

Receipts are issued side by side behind one breaker. Each call takes its steps at
times of its own, so that what it reports may be late: the breaker may have opened
since the call was admitted. A late failure changes nothing, but a late success
closes the breaker. That, and a cooldown too long to be added to an instant, are
the only ways to be admitted before the cooldown is over.
-/

namespace Giro

namespace Breaker

/-- Whether a call may pass at an instant. -/
def admits (breaker : Breaker) (now : Instant) : Bool :=
  match breaker.allow now with
  | .ok (allowed, _) => allowed
  | .error _ => false

/-- Whether the breaker is open. -/
def isOpen (breaker : Breaker) : Bool :=
  match breaker.state with
  | .opened _ => true
  | _ => false

/-- Whether the breaker is closed. -/
def isClosed (breaker : Breaker) : Bool :=
  match breaker.state with
  | .closed _ => true
  | _ => false

/-- What a receipt is answered at an instant, given what rendering would come to. -/
def reply (breaker : Breaker) (now : Instant) (rendering : Rendering) :
    (ask : ReceiptAsk) -> ask.Answer
  | .allowed => ((breaker.allow now).map Prod.fst : Except Overflow Bool)
  | .render _ => rendering
  | .succeeded => ()
  | .failed => ()
  | .pause _ _ => ()

/-- The breaker after a question that a receipt asked at an instant. -/
def heed (breaker : Breaker) (now : Instant) : ReceiptAsk -> Breaker
  | .allowed =>
      match breaker.allow now with
      | .ok (_, after) => after
      | .error _ => breaker
  | .succeeded => breaker.succeed
  | .failed => breaker.fail now
  | .render _ => breaker
  | .pause _ _ => breaker

variable {breaker : Breaker} {since now : Instant}

/-- A breaker that is cooling down lets nothing pass. -/
theorem cooledDown_of_early
    {cooldown : Nat}
    (finite : ¬ maxCooldown < cooldown)
    (early : now < since.plusMillis cooldown) :
    cooledDown since now cooldown ≠ .ok true := by
  have cooling : ¬ since.plusMillis cooldown <= now := by
    rw [Instant.le_iff_not_lt]
    exact fun elapsed => elapsed early
  rw [cooledDown, if_neg finite, Instant.addMillis]
  by_cases reached : (since.plusMillis cooldown).inRange = true
  · simp [reached, cooling]
  · simp [reached]

/-- While an open breaker is cooling down, asking does not change it, and gets nobody in. -/
theorem allow_of_early
    (state : breaker.state = .opened since)
    (finite : ¬ maxCooldown < breaker.settings.cooldown)
    (early : now < since.plusMillis breaker.settings.cooldown) :
    breaker.admits now = false ∧ breaker.heed now .allowed = breaker := by
  have cooling := cooledDown_of_early finite early
  rw [admits, heed, allow, state]
  dsimp only
  cases cooled : cooledDown since now breaker.settings.cooldown with
  | error overflow => exact ⟨rfl, rfl⟩
  | ok elapsed =>
      cases elapsed with
      | true => exact absurd cooled cooling
      | false => exact ⟨rfl, rfl⟩

/-- Nothing but a success has an effect on an open breaker that is cooling down. -/
theorem heed_of_early
    (state : breaker.state = .opened since)
    (finite : ¬ maxCooldown < breaker.settings.cooldown)
    (early : now < since.plusMillis breaker.settings.cooldown)
    {ask : ReceiptAsk}
    (other : ask ≠ .succeeded) :
    breaker.heed now ask = breaker := by
  cases ask with
  | allowed => exact (allow_of_early state finite early).2
  | succeeded => exact absurd rfl other
  | failed => simp only [heed, fail, state]
  | render details => rfl
  | pause delay attempt => rfl

/-- A closed breaker stays closed, unless it opens. -/
theorem isClosed_heed
    (closed : breaker.isClosed = true)
    (ask : ReceiptAsk)
    (unopened : (breaker.heed now ask).isOpen = false) :
    (breaker.heed now ask).isClosed = true := by
  obtain ⟨settings, state⟩ := breaker
  cases state with
  | opened since => cases closed
  | halfOpen probed => cases closed
  | closed failures =>
      cases ask with
      | failed =>
          simp only [heed, fail] at unopened ⊢
          split at unopened
          · cases unopened
          · rw [if_neg ‹_›]
            rfl
      | _ => rfl

/-- A closed breaker lets everyone pass. -/
theorem admits_of_closed (closed : breaker.isClosed = true) (now : Instant) :
    breaker.admits now = true := by
  obtain ⟨settings, state⟩ := breaker
  cases state with
  | closed failures => rfl
  | opened since => cases closed
  | halfOpen probed => cases closed

/-- A cooldown that is too long counts as over, so nobody is ever refused. -/
theorem admits_of_endless
    (endless : maxCooldown < breaker.settings.cooldown)
    (now : Instant) :
    breaker.admits now = true := by
  obtain ⟨settings, state⟩ := breaker
  cases state <;> simp_all [admits, allow, cooledDown]

@[simp] theorem settings_heed (breaker : Breaker) (now : Instant) (ask : ReceiptAsk) :
    (breaker.heed now ask).settings = breaker.settings := by
  obtain ⟨settings, state⟩ := breaker
  cases ask with
  | allowed =>
      cases state with
      | closed failures => rfl
      | opened since =>
          simp only [heed, allow]
          cases cooledDown since now settings.cooldown with
          | error overflow => rfl
          | ok elapsed => cases elapsed <;> rfl
      | halfOpen probed =>
          simp only [heed, allow]
          cases cooledDown probed now settings.cooldown with
          | error overflow => rfl
          | ok elapsed => cases elapsed <;> rfl
  | failed =>
      cases state with
      | closed failures =>
          simp only [heed, fail]
          split <;> rfl
      | opened since => rfl
      | halfOpen probed => rfl
  | _ => rfl

end Breaker

/-- Receipts that are issued side by side, and the breaker before all of them. -/
structure Office where
  breaker : Breaker
  calls : List (ReceiptScript (Except Failure Receipt))

/-- A step of a call: when it is taken, and what rendering comes to if the call asks for it. -/
structure Beat where
  index : Nat
  now : Instant
  rendering : Rendering

namespace Office

/-- Calls that have not done anything yet, behind a closed breaker. -/
def make
    (settings : BreakerSettings)
    (calls : List (ReceiptScript (Except Failure Receipt))) : Office :=
  ⟨.make settings, calls⟩

/-- What a call asks with a step, unless it is over. -/
def asked? (office : Office) (beat : Beat) : Option ReceiptAsk :=
  match office.calls[beat.index]? with
  | some (.ask ask _) => some ask
  | _ => none

/-- The office after a step of a call; nothing happens any more once the call is over. -/
def take (office : Office) (beat : Beat) : Office :=
  match office.calls[beat.index]? with
  | some (.ask ask next) =>
      ⟨office.breaker.heed beat.now ask,
        office.calls.set beat.index
          (next (office.breaker.reply beat.now beat.rendering ask))⟩
  | _ => office

/-- The office after some steps, one after another. -/
def play (office : Office) (beats : List Beat) : Office :=
  beats.foldl take office

/-- A call asks to be admitted, and is. -/
def admits (office : Office) (beat : Beat) : Bool :=
  office.asked? beat = some .allowed && office.breaker.admits beat.now

/-- A call reports a success. -/
def succeeds (office : Office) (beat : Beat) : Bool :=
  office.asked? beat = some .succeeded

/-- The breaker opens with a step. -/
def opens (office : Office) (beat : Beat) : Bool :=
  !office.breaker.isOpen && (office.take beat).breaker.isOpen

/-- Whether something happens with one of some steps. -/
def ever (happens : Office -> Beat -> Bool) : Office -> List Beat -> Bool
  | _, [] => false
  | office, beat :: rest => happens office beat || ever happens (office.take beat) rest

@[simp] theorem play_cons (office : Office) (beat : Beat) (beats : List Beat) :
    office.play (beat :: beats) = (office.take beat).play beats := rfl

/-- All that a step does to the breaker is what its question does. -/
theorem breaker_take (office : Office) (beat : Beat) :
    (office.take beat).breaker =
      match office.asked? beat with
      | some ask => office.breaker.heed beat.now ask
      | none => office.breaker := by
  unfold take asked?
  rcases office.calls[beat.index]? with _ | ⟨value⟩ | ⟨ask, next⟩ <;> rfl

@[simp] theorem settings_take (office : Office) (beat : Beat) :
    (office.take beat).breaker.settings = office.breaker.settings := by
  rw [breaker_take]
  split
  · exact Breaker.settings_heed _ _ _
  · rfl

theorem settings_play (office : Office) (beats : List Beat) :
    (office.play beats).breaker.settings = office.breaker.settings := by
  induction beats generalizing office with
  | nil => rfl
  | cons beat rest ih => rw [play_cons, ih, settings_take]

/-- The breaker opens when a failure is reported, as of that time. -/
theorem state_of_opens {office : Office} {beat : Beat} (opens : office.opens beat = true) :
    (office.take beat).breaker.state = .opened beat.now := by
  simp only [Office.opens, Bool.and_eq_true, Bool.not_eq_true'] at opens
  obtain ⟨shut, opened⟩ := opens
  rw [breaker_take] at opened ⊢
  generalize office.breaker = breaker at shut opened ⊢
  obtain ⟨settings, state⟩ := breaker
  cases asked : office.asked? beat with
  | none => simp [asked, shut] at opened
  | some ask =>
      rw [asked] at opened
      dsimp only at opened ⊢
      cases state with
      | opened since => cases shut
      | closed failures =>
          cases ask with
          | failed =>
              simp only [Breaker.heed, Breaker.fail] at opened ⊢
              split at opened
              · rw [if_pos ‹_›]
              · cases opened
          | _ => cases opened
      | halfOpen probed =>
          cases ask with
          | failed => rfl
          | allowed =>
              simp only [Breaker.heed, Breaker.allow] at opened
              cases cooled : Breaker.cooledDown probed beat.now settings.cooldown with
              | error overflow =>
                  rw [cooled] at opened
                  cases opened
              | ok elapsed =>
                  rw [cooled] at opened
                  cases elapsed <;> cases opened
          | _ => cases opened

variable {office : Office} {since : Instant}

/-- Without a success, an open breaker stays as it is until it has cooled down. -/
theorem breaker_play_of_early
    {beats : List Beat}
    (state : office.breaker.state = .opened since)
    (finite : ¬ Breaker.maxCooldown < office.breaker.settings.cooldown)
    (early : ∀ beat ∈ beats, beat.now < since.plusMillis office.breaker.settings.cooldown)
    (unsuccessful : office.ever succeeds beats = false) :
    (office.play beats).breaker = office.breaker := by
  induction beats generalizing office with
  | nil => rfl
  | cons beat rest ih =>
      simp only [ever, Bool.or_eq_false_iff] at unsuccessful
      obtain ⟨unreported, unsuccessful⟩ := unsuccessful
      have same : (office.take beat).breaker = office.breaker := by
        rw [breaker_take]
        cases asked : office.asked? beat with
        | none => rfl
        | some ask =>
            refine Breaker.heed_of_early state finite (early beat (List.mem_cons_self ..)) ?_
            rintro rfl
            simp [succeeds, asked] at unreported
      rw [play_cons, ← same]
      refine ih (same ▸ state) (same ▸ finite) ?_ unsuccessful
      intro other member
      rw [same]
      exact early other (List.mem_cons_of_mem _ member)

/-- A closed breaker is closed until it opens. -/
theorem isClosed_play
    {beats : List Beat}
    (closed : office.breaker.isClosed = true)
    (unopened : office.ever opens beats = false) :
    (office.play beats).breaker.isClosed = true := by
  induction beats generalizing office with
  | nil => exact closed
  | cons beat rest ih =>
      simp only [ever, Bool.or_eq_false_iff] at unopened
      refine ih ?_ unopened.2
      have shut : office.breaker.isOpen = false := by
        obtain ⟨⟨settings, state⟩, calls⟩ := office
        cases state <;> first | rfl | cases closed
      have still : (office.take beat).breaker.isOpen = false := by
        simpa [opens, shut] using unopened.1
      rw [breaker_take] at still ⊢
      cases asked : office.asked? beat with
      | none => exact closed
      | some ask =>
          rw [asked] at still
          exact Breaker.isClosed_heed closed ask still

/-- A success closes the breaker until it opens again, whatever it was before. -/
theorem isClosed_play_of_succeeds
    {beats : List Beat}
    (successful : office.ever succeeds beats = true)
    (unopened : office.ever opens beats = false) :
    (office.play beats).breaker.isClosed = true := by
  induction beats generalizing office with
  | nil => cases successful
  | cons beat rest ih =>
      simp only [ever, Bool.or_eq_false_iff] at unopened
      simp only [ever, Bool.or_eq_true] at successful
      rw [play_cons]
      rcases successful with reported | later
      · refine isClosed_play ?_ unopened.2
        have asked : office.asked? beat = some .succeeded := by
          simpa [succeeds] using reported
        rw [breaker_take, asked]
        rfl
      · exact ih later unopened.2

/--
A breaker has opened, and a call asks to be admitted before the cooldown is over, on
a clock that does not go back. It is admitted only if the cooldown is too long to be
added to an instant, or if a success was reported in the meantime; and it is admitted
then, unless the breaker has opened once more.
-/
theorem admits_while_open_iff
    (settings : BreakerSettings)
    (calls : List (ReceiptScript (Except Failure Receipt)))
    (earlier between : List Beat)
    (opening asking : Beat)
    (opening_opens : ((make settings calls).play earlier).opens opening = true)
    (steady : ∀ beat ∈ between, beat.now <= asking.now)
    (asks : ((((make settings calls).play earlier).take opening).play between).asked? asking =
      some .allowed)
    (early : asking.now < opening.now.plusMillis settings.cooldown) :
    let opened := ((make settings calls).play earlier).take opening
    let admitted := (opened.play between).admits asking = true
    let excused := Breaker.maxCooldown < settings.cooldown ∨ opened.ever succeeds between = true
    (admitted -> excused) ∧ (opened.ever opens between = false -> (admitted ↔ excused)) := by
  intro opened admitted excused
  have settled : opened.breaker.settings.cooldown = settings.cooldown := by
    rw [settings_take, settings_play]
    rfl
  have needed : admitted -> excused := by
    intro passes
    by_cases finite : ¬ Breaker.maxCooldown < settings.cooldown
    · right
      cases successful : opened.ever succeeds between with
      | true => rfl
      | false =>
          have state : opened.breaker.state = .opened opening.now :=
            state_of_opens opening_opens
          rw [← settled] at finite early
          have same : (opened.play between).breaker = opened.breaker :=
            breaker_play_of_early state finite
              (fun beat member => Instant.lt_of_le_of_lt (steady beat member) early) successful
          have refused := (Breaker.allow_of_early state finite early).1
          simp only [admitted, Office.admits, same, refused, Bool.and_false] at passes
          cases passes
    · exact Or.inl (Decidable.not_not.mp finite)
  refine ⟨needed, fun unopened => ⟨needed, ?_⟩⟩
  have decided : admitted ↔ (opened.play between).breaker.admits asking.now = true := by
    simp [admitted, Office.admits, asks, opened]
  rw [decided]
  rintro (endless | successful)
  · refine Breaker.admits_of_endless ?_ asking.now
    rw [settings_play, settled]
    exact endless
  · exact Breaker.admits_of_closed (isClosed_play_of_succeeds successful unopened) asking.now

end Office

namespace Sample

/-- A ledger with one transfer. -/
def ledger : Tables where
  accounts := (Table.empty.put "A" (account "A" 1)).put "B" (account "B" 2)
  limits := .empty
  transfers :=
    [{ (errand "A" "B" 1 7 "R7").request.draft ⟨account "A" 1, account "B" 2⟩ ⟨7⟩ "R7" ⟨0, 0⟩ with
       id := 1 }]

/-- A receipt for the sender of that transfer. -/
def receipt : ReceiptScript (Except Failure Receipt) :=
  Receipt.issue (.ofTables ledger) .standard 1 ⟨1, .user, "A", none⟩

/-- Three calls behind a breaker that one failure opens for half a minute. -/
def office : Office :=
  .make ⟨1, 30000⟩ [receipt, receipt, receipt]

/-- A step at the start of time. -/
def beat (index : Nat) (rendering : Rendering) : Beat :=
  ⟨index, ⟨0, 0⟩, rendering⟩

/-- Two calls are admitted, and the first one fails to render its receipt. -/
def spoiled : List Beat :=
  [beat 0 (.fatal "jam"), beat 1 (.rendered "text"), beat 0 (.fatal "jam")]

/-- The second one renders its receipt meanwhile, and reports that. -/
def belated : List Beat :=
  [beat 1 (.rendered "text"), beat 1 (.rendered "text")]

end Sample

namespace Office

theorem admits_while_open_iff_sample :
    let opened := (Sample.office.play Sample.spoiled).take (Sample.beat 0 (.fatal "jam"))
    let asking := Sample.beat 2 (.rendered "text")
    let admitted := (opened.play Sample.belated).admits asking = true
    let excused := Breaker.maxCooldown < 30000 ∨ opened.ever succeeds Sample.belated = true
    (admitted -> excused) ∧
      (opened.ever opens Sample.belated = false -> (admitted ↔ excused)) :=
  admits_while_open_iff ⟨1, 30000⟩ [Sample.receipt, Sample.receipt, Sample.receipt]
    Sample.spoiled Sample.belated (Sample.beat 0 (.fatal "jam")) (Sample.beat 2 (.rendered "text"))
    (by decide +kernel) (by decide) (by decide +kernel) (by decide)

/--
The failure of the first call opens the breaker. The success of the second one, which
was admitted before, closes it again at once, and the third one is admitted without
any cooldown.
-/
theorem late_success_closes :
    let opened := (Sample.office.play Sample.spoiled).take (Sample.beat 0 (.fatal "jam"))
    let asking := Sample.beat 2 (.rendered "text")
    (Sample.office.play Sample.spoiled).opens (Sample.beat 0 (.fatal "jam")) = true ∧
      opened.breaker.state = .opened ⟨0, 0⟩ ∧
      asking.now < Instant.plusMillis ⟨0, 0⟩ 30000 ∧
      (opened.play Sample.belated).admits asking = true := by
  decide +kernel

end Office
end Giro
