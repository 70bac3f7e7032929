import Giro.Bank.Operations
import Giro.Proofs.Account.NormalForm
import Giro.Proofs.Traffic.Solo

/-!
# Spellings of an account number

An account number may be written with blanks anywhere and in small letters. Two spellings have
the same normal form exactly if they differ in nothing else, and only the normal form is ever
looked up, locked or compared. So queries and transfers cannot tell two spellings of a number
apart, and a transfer is one between an account and itself exactly if it names the account
twice, in whatever spelling. It is then refused before anything is asked of the ledger.
-/

namespace Giro

/-- Texts are the same but for blanks and for the case of ASCII letters. -/
inductive Text.Respelled : List Char -> List Char -> Prop
  | ended : Respelled [] []
  | blankLeft {blank : Char} {left right : List Char} :
      isBlank blank = true -> Respelled left right -> Respelled (blank :: left) right
  | blankRight {blank : Char} {left right : List Char} :
      isBlank blank = true -> Respelled left right -> Respelled left (blank :: right)
  | letter {first second : Char} {left right : List Char} :
      first.toUpper = second.toUpper -> Respelled left right ->
      Respelled (first :: left) (second :: right)

/-- Capitals are blank if the letters are, which none is. -/
theorem Text.isBlank_toUpper_eq (character : Char) :
    isBlank character.toUpper = isBlank character := by
  cases visible : isBlank character with
  | false => exact isBlank_toUpper visible
  | true =>
      have large : ¬ character.isLower := by
        intro small
        obtain ⟨low, high⟩ : 97 <= character.toNat ∧ character.toNat <= 122 := by
          simpa [Char.isLower, UInt32.le_iff_toNat_le] using small
        simp only [isBlank, Bool.or_eq_true, Bool.and_eq_true, decide_eq_true_eq,
          beq_iff_eq] at visible
        omega
      rw [Char.toUpper_eq_of_not_isLower large, visible]

namespace Iban

/-- Two texts spell the same number. -/
def Respelled (left right : String) : Prop :=
  Text.Respelled left.toList right.toList

/-- The characters of the normal form. -/
def normalChars (characters : List Char) : List Char :=
  (characters.filter (fun character => !Text.isBlank character)).map Char.toUpper

theorem toList_normalize (spelling : String) :
    (normalize spelling).toList = normalChars spelling.toList := by
  rw [normalize, Text.toList_upper, Text.toList_squeeze, normalChars]

theorem normalChars_cons_blank
    {blank : Char}
    (isBlank : Text.isBlank blank = true)
    (characters : List Char) :
    normalChars (blank :: characters) = normalChars characters := by
  simp [normalChars, isBlank]

theorem normalChars_cons_visible
    {character : Char}
    (visible : Text.isBlank character = false)
    (characters : List Char) :
    normalChars (character :: characters) =
      character.toUpper :: normalChars characters := by
  simp [normalChars, visible]

theorem normalChars_eq_of_respelled
    {left right : List Char}
    (same : Text.Respelled left right) :
    normalChars left = normalChars right := by
  induction same with
  | ended => rfl
  | blankLeft isBlank _ ih => rw [normalChars_cons_blank isBlank, ih]
  | blankRight isBlank _ ih => rw [normalChars_cons_blank isBlank, ih]
  | @letter first second left right same _ ih =>
      have blanks : Text.isBlank first = Text.isBlank second := by
        rw [← Text.isBlank_toUpper_eq first, same, Text.isBlank_toUpper_eq]
      cases visible : Text.isBlank first with
      | true =>
          rw [normalChars_cons_blank visible, normalChars_cons_blank (blanks ▸ visible), ih]
      | false =>
          rw [normalChars_cons_visible visible, normalChars_cons_visible (blanks ▸ visible), same,
            ih]

theorem respelled_of_normalChars_nil
    {right : List Char}
    (empty : normalChars right = []) :
    Text.Respelled [] right := by
  induction right with
  | nil => exact .ended
  | cons next rest ih =>
      cases visible : Text.isBlank next with
      | true => exact .blankRight visible (ih (normalChars_cons_blank visible rest ▸ empty))
      | false => simp [normalChars_cons_visible visible] at empty

theorem respelled_of_normalChars_eq
    {left right : List Char}
    (same : normalChars left = normalChars right) :
    Text.Respelled left right := by
  induction left generalizing right with
  | nil => exact respelled_of_normalChars_nil same.symm
  | cons first rest ih =>
      cases visible : Text.isBlank first with
      | true => exact .blankLeft visible (ih (normalChars_cons_blank visible rest ▸ same))
      | false =>
          rw [normalChars_cons_visible visible] at same
          -- The blanks in front of the other text come before its first letter.
          induction right with
          | nil => simp [normalChars] at same
          | cons second others blanks =>
              cases alsoVisible : Text.isBlank second with
              | true =>
                  exact .blankRight alsoVisible
                    (blanks (normalChars_cons_blank alsoVisible others ▸ same))
              | false =>
                  rw [normalChars_cons_visible alsoVisible, List.cons.injEq] at same
                  exact .letter same.1 (ih same.2)

/-- Two spellings have the same normal form exactly if they spell the same number. -/
theorem respelled_iff (left right : String) :
    Respelled left right ↔ normalize left = normalize right := by
  rw [← String.toList_inj, toList_normalize, toList_normalize]
  exact ⟨normalChars_eq_of_respelled, respelled_of_normalChars_eq⟩

instance (left right : String) : Decidable (Respelled left right) :=
  decidable_of_iff _ (respelled_iff left right).symm

theorem Respelled.symm {left right : String} (same : Respelled left right) :
    Respelled right left :=
  (respelled_iff right left).mpr ((respelled_iff left right).mp same).symm

theorem Respelled.trans
    {left middle right : String}
    (first : Respelled left middle)
    (second : Respelled middle right) :
    Respelled left right :=
  (respelled_iff left right).mpr
    (((respelled_iff left middle).mp first).trans ((respelled_iff middle right).mp second))

theorem respelled_normalize (spelling : String) : Respelled (normalize spelling) spelling :=
  (respelled_iff _ _).mpr (normalize_normalize spelling)

end Iban

namespace Query

variable {left right : String}

/-- Every query gives the same answer for both spellings. -/
structure Alike (left right : String) : Prop where
  history : ∀ reader request caller,
    history reader left request caller = history reader right request caller
  filterHistory : ∀ reader filter request caller,
    filterHistory reader left filter request caller =
      filterHistory reader right filter request caller
  summary : ∀ reader caller, summary reader left caller = summary reader right caller
  categories : ∀ reader caller, categories reader left caller = categories reader right caller
  weeklyTrend : ∀ reader now caller,
    weeklyTrend reader now left caller = weeklyTrend reader now right caller

/-- What is looked up and what is reported is the normal form. -/
theorem authorize_of_respelled
    (same : Iban.Respelled left right)
    (reader : Reader)
    (caller : Caller) :
    authorize reader left caller = authorize reader right caller := by
  rw [authorize, authorize, (Iban.respelled_iff left right).mp same]

theorem alike_of_respelled (same : Iban.Respelled left right) : Alike left right where
  history reader request caller := by
    rw [Query.history, Query.history, Query.filterHistory, Query.filterHistory,
      authorize_of_respelled same]
  filterHistory reader filter request caller := by
    rw [Query.filterHistory, Query.filterHistory, authorize_of_respelled same]
  summary reader caller := by rw [Query.summary, Query.summary, authorize_of_respelled same]
  categories reader caller := by
    rw [Query.categories, Query.categories, authorize_of_respelled same]
  weeklyTrend reader now caller := by
    rw [Query.weeklyTrend, Query.weeklyTrend, authorize_of_respelled same]

end Query

namespace TransferRequest

variable {request other : TransferRequest}

/-- Two requests differ in the spelling of their account numbers only. -/
structure Respells (request other : TransferRequest) : Prop where
  sender : Iban.Respelled request.sender other.sender
  receiver : Iban.Respelled request.receiver other.receiver
  amount : request.amount = other.amount
  currency : request.currency = other.currency
  description : request.description = other.description

theorem Respells.trans
    {third : TransferRequest}
    (first : request.Respells other)
    (second : other.Respells third) :
    request.Respells third where
  sender := first.sender.trans second.sender
  receiver := first.receiver.trans second.receiver
  amount := first.amount.trans second.amount
  currency := first.currency.trans second.currency
  description := first.description.trans second.description

theorem Respells.selfTransfer_iff (same : request.Respells other) :
    Iban.Respelled request.sender request.receiver ↔
      Iban.Respelled other.sender other.receiver :=
  ⟨fun self => same.sender.symm.trans (self.trans same.receiver),
    fun self => same.sender.trans (self.trans same.receiver.symm)⟩

theorem respells_normalized (request : TransferRequest) :
    request.Respells request.normalized := by
  rw [normalized]
  exact ⟨(Iban.respelled_normalize request.sender).symm,
    (Iban.respelled_normalize request.receiver).symm, rfl, rfl, rfl⟩

/-- Nothing of a transfer depends on how the numbers are spelled. -/
theorem transferScript_of_respells (same : request.Respells other) (caller : Caller) :
    transferScript request caller = transferScript other caller := by
  obtain ⟨sender, receiver, amount, currency, description⟩ := same
  rw [Iban.respelled_iff] at sender receiver
  cases request
  cases other
  simp only at sender receiver amount currency description
  subst amount currency description
  simp only [transferScript, sender, receiver]
  rfl

/-- Two requests come to the same, whatever they meet. -/
structure Alike (request other : TransferRequest) : Prop where
  /-- The outcome is the same, and so is the bank after it. -/
  transfer : ∀ (bank : Bank) caller,
    bank.transfer request caller = bank.transfer other caller
  spawn : ∀ (bank : Bank) name caller,
    bank.spawn name request caller = bank.spawn name other caller
  /-- Among other transfers every step is the same, with the same rows asked for. -/
  traffic : ∀ (store : Store) (before after : List Errand) (caller : Caller) (oracle : Oracle)
      (schedule : List Nat),
    (Traffic.start store (before ++ ⟨request, caller, oracle⟩ :: after)).run schedule =
      (Traffic.start store (before ++ ⟨other, caller, oracle⟩ :: after)).run schedule

theorem alike_of_respells (same : request.Respells other) : Alike request other where
  transfer bank caller := by
    rw [Bank.transfer, Bank.transfer, transferScript_of_respells same]
  spawn bank name caller := by
    simp only [Bank.spawn, transferScript_of_respells same]
  traffic store before after caller oracle schedule := by
    simp only [Traffic.start, List.map_append, List.map_cons, Errand.call,
      transferScript_of_respells same]

/-- A request is refused as one between an account and itself, with nothing asked before. -/
structure RefusedUnasked (request : TransferRequest) : Prop where
  script : ∀ caller, transferScript request caller = .done (.error (.refused .sameAccount))
  transfer : ∀ (bank : Bank) caller,
    (bank.transfer request caller).1 = .error (.refused .sameAccount) ∧
      (bank.transfer request caller).2.store = bank.store
  traffic : ∀ store before after caller oracle schedule,
    ∃ call,
      ((Traffic.start store (before ++ ⟨request, caller, oracle⟩ :: after)).run
          schedule).calls[before.length]? = some call ∧
        call.transcript = [] ∧
        call.outcome? = some (.error (.refused .sameAccount))

/-- A transfer of an account to itself is over before it asks anything, and no other one is. -/
theorem transferScript_eq_done_iff (request : TransferRequest) (caller : Caller) :
    transferScript request caller = .done (.error (.refused .sameAccount)) ↔
      Iban.Respelled request.sender request.receiver := by
  rw [Iban.respelled_iff]
  constructor
  · intro refused
    by_contra different
    simp [transferScript, different] at refused
  · intro same
    simp [transferScript, same]

theorem refusedUnasked_iff (request : TransferRequest) :
    request.RefusedUnasked ↔ Iban.Respelled request.sender request.receiver := by
  constructor
  · intro refused
    exact (transferScript_eq_done_iff request ⟨0, .user, "", none⟩).mp (refused.script _)
  · intro same
    have script (caller : Caller) := (transferScript_eq_done_iff request caller).mpr same
    refine ⟨script, fun bank caller => ?_, fun store before after caller oracle schedule => ?_⟩
    · rw [Bank.transfer, script]
      exact ⟨rfl, rfl⟩
    · have stands : (Errand.call ⟨request, caller, oracle⟩).standing =
          .active none (.done (.error (.refused .sameAccount))) := by
        rw [Errand.call, script]
      refine ⟨Errand.call ⟨request, caller, oracle⟩,
        Traffic.calls_run_of_done ?_ stands schedule, rfl, ?_⟩
      · simp [Traffic.start]
      · exact TransferCall.outcome?_eq_some_iff.mpr ⟨_, stands⟩

theorem isSelfTransfer_iff (request : TransferRequest) :
    request.isSelfTransfer = true ↔ Iban.Respelled request.sender request.receiver := by
  rw [isSelfTransfer, beq_iff_eq, Iban.respelled_iff]

/--
To every query, two spellings of a number are the same. Two requests that differ in such
spellings only come to the same in every bank and among any other transfers, and so does the
request with the normal forms. A request is refused with nothing asked before exactly if its
sender and receiver spell the same number, and then all of these requests are.
-/
theorem spelling_immaterial
    {left right : String}
    {request other : TransferRequest}
    (same : Iban.Respelled left right)
    (respells : request.Respells other) :
    Query.Alike left right ∧
      request.Alike other ∧
      request.Alike other.normalized ∧
      (request.isSelfTransfer = true ↔ Iban.Respelled request.sender request.receiver) ∧
      (Iban.Respelled request.sender request.receiver ↔ request.RefusedUnasked) ∧
      (Iban.Respelled request.sender request.receiver ↔ other.RefusedUnasked) ∧
      (Iban.Respelled request.sender request.receiver ↔ other.normalized.RefusedUnasked) := by
  have normal := respells.trans other.respells_normalized
  exact ⟨Query.alike_of_respelled same, alike_of_respells respells, alike_of_respells normal,
    request.isSelfTransfer_iff, request.refusedUnasked_iff.symm,
    respells.selfTransfer_iff.trans other.refusedUnasked_iff.symm,
    normal.selfTransfer_iff.trans other.normalized.refusedUnasked_iff.symm⟩

end TransferRequest

/-- Numbers in small letters, with blanks of two kinds. -/
def Sample.lax : TransferRequest :=
  ⟨"de89 3704", "gb82\u00a0West", .whole 30 (by decide), none, none⟩

/-- The same numbers in capitals, with blanks around one of them. -/
def Sample.strict : TransferRequest :=
  ⟨"DE893704", " GB82WEST\t", .whole 30 (by decide), none, none⟩

theorem TransferRequest.spelling_immaterial_sample :
    Iban.Respelled "nl91 abna" "NL91\u3000ABNA" ∧
      Sample.lax.Respells Sample.strict ∧
      Query.Alike "nl91 abna" "NL91\u3000ABNA" ∧
      Sample.lax.Alike Sample.strict ∧
      ¬ Sample.strict.RefusedUnasked := by
  have same : Iban.Respelled "nl91 abna" "NL91\u3000ABNA" := by decide +kernel
  have respells : Sample.lax.Respells Sample.strict :=
    ⟨by decide +kernel, by decide +kernel, rfl, rfl, rfl⟩
  have different : ¬ Iban.Respelled Sample.lax.sender Sample.lax.receiver := by decide +kernel
  obtain ⟨queries, transfers, -, -, -, refused, -⟩ :=
    TransferRequest.spelling_immaterial same respells
  exact ⟨same, respells, queries, transfers, fun unasked => different (refused.mpr unasked)⟩

end Giro
