import Giro.Proofs.Gateway.Requests
import Giro.Proofs.Json.Texts

/-!
# Amounts are sent back as they are shown

Two amounts are shown the same only if they are the same number. An amount with at most four
digits behind the point that count, and not below zero, is understood as the same number when
it is sent back. These are the amounts that requests leave in the ledger.
-/

namespace Giro

namespace Money

/-- A number that is not below zero, with at most four digits behind the point that count. -/
structure IsAmount (number : Decimal) : Prop where
  nonneg : 0 <= number.value
  stored : ∃ count : Int, number.value = count / 10 ^ 4

theorem isAmount_iff {number : Decimal} :
    IsAmount number ↔ Decimal.zero <= number ∧ number.Storable := by
  have units := number.cast_units
  have nonneg : 0 <= number.value ↔ Decimal.zero <= number := by
    rw [Decimal.le_def, Decimal.units_zero, ← Int.cast_nonneg_iff (R := ℚ), units]
    exact (mul_nonneg_iff_of_pos_right (by positivity)).symm
  have stored : (∃ count : Int, number.value = count / 10 ^ 4) ↔ number.Storable := by
    have steps (count : Int) :
        number.value = count / 10 ^ 4 ↔ number.units = Decimal.storedUnits * count := by
      rw [← Int.cast_inj (α := ℚ), units, Int.cast_mul, Int.cast_natCast, Decimal.storedUnits,
        cast_tenTo]
      constructor
      · intro value
        rw [value]
        ring
      · intro same
        linear_combination same / 10 ^ 28
    exact exists_congr steps
  exact ⟨fun amount => ⟨nonneg.mp amount.nonneg, stored.mp amount.stored⟩,
    fun both => ⟨nonneg.mpr both.1, stored.mpr both.2⟩⟩

end Money

namespace TransferForm

/-- A body that asks for a transfer of an amount. -/
def body (sender receiver : String) (amount : Json) (currency description : String) : Json :=
  .object
    [("sender_iban", .text sender), ("receiver_iban", .text receiver), ("amount", amount),
      ("currency", .text currency), ("description", .text description)]

/-- A body is read as it was written. -/
theorem read_body (sender receiver amount currency description : String) :
    read
        (Text.bytesOf
          (body sender receiver (.text amount) currency description).render.toList) =
      .ok ⟨sender, receiver, .text amount, some currency, some description⟩ := by
  have record : Json.readRecord layout
        (Json.Token.ofText (body sender receiver (.text amount) currency description).render) =
      .ok [.text sender, .text receiver, .text amount, .optionalText currency,
        .optionalText description] :=
    Json.Field.readRecord_render
      ⟨"sender_iban", .text, sender, .text sender, fun _ => rfl⟩
      [⟨"receiver_iban", .text, receiver, .text receiver, fun _ => rfl⟩,
        ⟨"amount", .textOrNumber, amount, .text amount, fun _ => rfl⟩,
        ⟨"currency", .optionalText, currency, .optionalText currency, fun _ => rfl⟩,
        ⟨"description", .optionalText, description, .optionalText description, fun _ => rfl⟩]
      (by simp)
  rw [read, Json.Token.ofBytes_bytesOf, record]
  rfl

end TransferForm

/-- Sent back as it is shown, an amount is understood as the same number, whatever else is
asked for. -/
def Answer.Returns (number : Decimal) : Prop :=
  ∀ sender receiver currency description, ∃ form understood,
    TransferForm.read
        (Text.bytesOf
          (TransferForm.body sender receiver (amount number) currency description).render.toList) =
      .ok form ∧
    form.amount.amount = .ok understood ∧
    understood.value = number.value

namespace Money

/-- An amount is accepted as it is shown, and is the same number. -/
theorem IsAmount.parse_format {number : Decimal} (isAmount : IsAmount number) :
    ∃ understood, parse (format number) = .ok understood ∧ understood.value = number.value := by
  obtain ⟨nonneg, storable⟩ := isAmount_iff.mp isAmount
  obtain ⟨understood, parsed, same⟩ := Money.parse_format nonneg storable
  exact ⟨understood, parsed, Decimal.units_eq_iff_value_eq.mp same⟩

theorem IsAmount.returns {number : Decimal} (isAmount : IsAmount number) :
    Answer.Returns number := by
  intro sender receiver currency description
  obtain ⟨understood, parsed, same⟩ := isAmount.parse_format
  refine ⟨_, understood, TransferForm.read_body .., ?_, same⟩
  rw [AmountInput.amount, AmountInput.toText, parsed]

end Money

namespace Bank

/-- Whatever is recorded is a transfer of an amount. -/
def RecordsAmounts (bank : Bank) : Prop :=
  ∀ record ∈ bank.store.tables.transfers, Money.IsAmount record.amount

/-- What is recorded on request is a transfer of an amount. -/
theorem Handles.recordsAmounts
    {bank after : Bank}
    {request : HttpRequest}
    {handling : Handling}
    (handles : bank.Handles request handling after)
    (idle : bank.Idle)
    (before : bank.RecordsAmounts) :
    after.RecordsAmounts := by
  cases handles with
  | turnsDown => exact before
  | looks _ _ _ same =>
      rw [RecordsAmounts, same.store]
      exact before
  | fails _ _ _ same =>
      rw [RecordsAmounts, same]
      exact before
  | transfers wanted caller transfer oracle posting _ _ _ judged booked =>
      obtain ⟨pair, approves⟩ := Tables.approves_of_judge idle.quiet.keyed judged
      intro record member
      rw [booked, Tables.book, List.mem_append, List.mem_singleton] at member
      rcases member with earlier | rfl
      · exact before record earlier
      · exact Money.isAmount_iff.mpr ⟨(Decimal.lt_def.mp approves.positive).le, approves.storable⟩

/-- However many requests there have been, nothing but amounts is recorded. -/
theorem Serves.recordsAmounts
    {first bank : Bank}
    {requests : List HttpRequest}
    (served : first.Serves requests bank)
    (idle : first.Idle)
    (before : first.RecordsAmounts) :
    bank.RecordsAmounts := by
  induction served with
  | opens same =>
      rw [RecordsAmounts, same.store]
      exact before
  | handles served request same recorded =>
      have still := served.idle idle
      rw [RecordsAmounts, same.store]
      exact (still.handles request).recordsAmounts still recorded

/--
Decimals are shown the same exactly if they are the same number. An amount that is shown is
accepted as it is, and is the same number. So is the amount of every transfer on record when
it is told of and sent back, whatever requests there have been.
-/
theorem amounts_return_as_shown :
    (∀ left right : Decimal, Money.format left = Money.format right ↔ left.value = right.value) ∧
    (∀ amount : Decimal, Money.IsAmount amount ->
      ∃ understood, Money.parse (Money.format amount) = .ok understood ∧
        understood.value = amount.value) ∧
    ∀ (first bank : Bank) (requests : List HttpRequest),
      first.Idle -> first.RecordsAmounts -> first.Serves requests bank ->
        ∀ record ∈ bank.store.tables.transfers,
          (Answer.transfer record).field? "amount" = some (Answer.amount record.amount) ∧
            Answer.Returns record.amount := by
  refine ⟨fun left right => ?_, fun amount isAmount => isAmount.parse_format, ?_⟩
  · exact Money.format_eq_format_iff.trans Decimal.units_eq_iff_value_eq
  · intro first bank requests idle before served record member
    exact ⟨rfl, (served.recordsAmounts idle before record member).returns⟩

/-- What an order has put on record is shown like the same number with more zeros. -/
theorem amounts_return_as_shown_sample :
    let after := (Sample.branch.handle Sample.order).2
    let longer : Decimal := ⟨15000, 4, by decide, by decide⟩
    after.store.tables.transfers ≠ [] ∧
      ∀ record ∈ after.store.tables.transfers,
        Money.format record.amount = Money.format longer ∧
          Answer.Returns record.amount ∧
          ∃ understood, Money.parse (Money.format longer) = .ok understood ∧
            understood.value = longer.value := by
  intro after longer
  obtain ⟨told, accepted, returned⟩ := amounts_return_as_shown
  have served : Sample.branch.Serves [Sample.order] after :=
    .handles (.opens (.refl Sample.branch)) Sample.order (.refl after)
  have value : longer.value = 3 / 2 := by norm_num [Decimal.value, longer]
  have recorded : after.store.tables.transfers.map
      (fun record => (record.amount.coefficient, record.amount.scale)) = [(150, 2)] := by
    decide +kernel
  refine ⟨fun none => ?_, fun record member => ⟨?_, ?_, accepted longer ⟨?_, 15000, ?_⟩⟩⟩
  · rw [none] at recorded
    cases recorded
  · have figures := List.mem_map_of_mem (f := fun record : Transfer =>
      (record.amount.coefficient, record.amount.scale)) member
    rw [recorded, List.mem_singleton, Prod.mk.injEq] at figures
    refine (told _ _).mpr ?_
    rw [value, Decimal.value, figures.1, figures.2]
    norm_num
  · exact (returned _ _ _ Sample.idle_branch (fun _ member => (by cases member)) served
      record member).2
  · rw [value]
    norm_num
  · rw [value]
    norm_num

end Bank

end Giro
