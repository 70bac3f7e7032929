import Giro.Proofs.Decimal.Shown
import Giro.Proofs.Text.Pieces
import Giro.Proofs.Time.Calendar
import Giro.Receipt.Text

/-!
# What a receipt tells

A receipt puts a line feed behind every line and leaves the values as they are. Reference,
names, account numbers and description may be any text; without line feeds in them a receipt
has its 13 lines, and the values are read off the rows. A line feed in the description adds
a line that may pass for another row, but what is around the description still delimits it.
Line feeds elsewhere can make the receipts of different transfers the same.
-/

namespace Giro

theorem Currency.code_inj {left right : Currency} : left.code = right.code ↔ left = right := by
  cases left <;> cases right <;> decide

theorem TransferStatus.word_inj {left right : TransferStatus} :
    left.word = right.word ↔ left = right := by
  cases left <;> cases right <;> decide

namespace Receipt

/-- A text at its line feeds. -/
def pieces (text : String) : List String :=
  (Text.splitAt '\n' text.toList).map String.ofList

/-- The lines of a text that ends each of them with a line feed. -/
def readLines (text : String) : List String :=
  (pieces text).dropLast

/-- The value of a row. -/
def readValue (line : String) : String :=
  String.ofList (line.toList.drop (labelWidth + 2))

/-- The values in the rows of a receipt, which begin behind two lines. -/
def readValues (text : String) : List String :=
  (((readLines text).drop 2).take 9).map readValue

/-- Reference, names and account numbers. -/
def namings (details : TransferDetails) : List String :=
  let transfer := details.transfer
  [transfer.reference, details.sender.displayName, transfer.sender,
    details.receiver.displayName, transfer.receiver]

/-- No line feed is in the reference, the names or the account numbers. -/
def Plain (details : TransferDetails) : Prop :=
  ∀ naming ∈ namings details, '\n' ∉ naming.toList

/-- Nor is one in the description. -/
def Unbroken (details : TransferDetails) : Prop :=
  Plain details ∧ '\n' ∉ (descriptionText details.transfer.description).toList

/-- The facts that a receipt is about, the time to the minute. -/
structure SameFacts (left right : TransferDetails) : Prop where
  reference : left.transfer.reference = right.transfer.reference
  minute : left.transfer.createdAt.seconds / 60 = right.transfer.createdAt.seconds / 60
  senderName : left.sender.displayName = right.sender.displayName
  sender : left.transfer.sender = right.transfer.sender
  receiverName : left.receiver.displayName = right.receiver.displayName
  receiver : left.transfer.receiver = right.transfer.receiver
  amount : left.transfer.amount.units = right.transfer.amount.units
  currency : left.transfer.currency = right.transfer.currency
  description :
    descriptionText left.transfer.description = descriptionText right.transfer.description
  status : left.transfer.status = right.transfer.status

instance (details : TransferDetails) : Decidable (Plain details) :=
  inferInstanceAs (Decidable (∀ _ ∈ _, _))

instance (details : TransferDetails) : Decidable (Unbroken details) :=
  inferInstanceAs (Decidable (_ ∧ _))

/-! ## Lines -/

theorem pieces_of_whole {text : String} (whole : '\n' ∉ text.toList) : pieces text = [text] := by
  rw [pieces, Text.splitAt_eq_splitOn, List.splitOn_eq_singleton whole, List.map_singleton,
    String.ofList_toList]

theorem length_pieces (text : String) : (pieces text).length = text.toList.count '\n' + 1 := by
  rw [pieces, List.length_map, Text.length_splitAt]

theorem pieces_inj {left right : String} : pieces left = pieces right ↔ left = right := by
  refine ⟨fun same => ?_, congrArg pieces⟩
  rw [pieces, pieces, Text.splitAt_eq_splitOn, Text.splitAt_eq_splitOn,
    (List.map_injective_iff.mpr fun _ _ => String.ofList_inj.mp).eq_iff] at same
  have joined := congrArg ['\n'].intercalate same
  rwa [List.intercalate_splitOn, List.intercalate_splitOn, String.toList_inj] at joined

/-- The lines of a text that are joined with line feeds are split at their own. -/
theorem readLines_join (lines : List String) :
    readLines (String.join (lines.map (fun line => line ++ "\n"))) = lines.flatMap pieces := by
  have ends :
      pieces (String.join (lines.map (fun line => line ++ "\n"))) =
        lines.flatMap pieces ++ [""] := by
    induction lines with
    | nil => rfl
    | cons line lines ih =>
        rw [List.map_cons, String.join_cons, pieces, String.toList_append, String.toList_append,
          Text.splitAt_eq_splitOn, List.append_assoc]
        have fed : ("\n" : String).toList = ['\n'] := rfl
        rw [fed, List.singleton_append, List.splitOn_append_cons_self, List.map_append,
          ← Text.splitAt_eq_splitOn, ← Text.splitAt_eq_splitOn, ← pieces, ← pieces, ih,
          List.flatMap_cons, List.append_assoc]
  rw [readLines, ends, List.dropLast_concat]

theorem readLines_document (details : TransferDetails) :
    readLines (document details) = (lines details).flatMap pieces :=
  readLines_join _

theorem flatMap_pieces_of_whole
    {lines : List String}
    (whole : ∀ line ∈ lines, '\n' ∉ line.toList) :
    lines.flatMap pieces = lines := by
  induction lines with
  | nil => rfl
  | cons line lines ih =>
      obtain ⟨here, there⟩ := List.forall_mem_cons.mp whole
      rw [List.flatMap_cons, pieces_of_whole here, ih there, List.singleton_append]

/-- Lines stay as many as they are exactly if no line feed is in one of them. -/
theorem length_flatMap_pieces_iff (lines : List String) :
    (lines.flatMap pieces).length = lines.length ↔ ∀ line ∈ lines, '\n' ∉ line.toList := by
  have counted : (lines.flatMap pieces).length =
      lines.length + (lines.map (fun line => line.toList.count '\n')).sum := by
    induction lines with
    | nil => rfl
    | cons line lines ih =>
        rw [List.flatMap_cons, List.length_append, length_pieces, ih, List.length_cons,
          List.map_cons, List.sum_cons]
        omega
  rw [counted, Nat.add_eq_left, List.sum_eq_zero_iff]
  simp only [List.forall_mem_map, List.count_eq_zero]

/-! ## Values -/

/-- The labels of the rows, in order. -/
def labels : List String :=
  ["Transaction Reference", "Date", "Sender Name", "Sender IBAN", "Receiver Name",
    "Receiver IBAN", "Amount", "Description", "Status"]

theorem map_fst_rows (details : TransferDetails) : (rows details).map Prod.fst = labels := rfl

theorem padLabel_spec :
    ∀ label ∈ labels,
      (padLabel label).toList.length = labelWidth ∧ '\n' ∉ (padLabel label).toList := by
  decide

theorem rowText_inj {label left right : String} :
    rowText (label, left) = rowText (label, right) ↔ left = right :=
  String.append_right_inj _

theorem whole_rowText_iff {row : String × String} (known : row.1 ∈ labels) :
    '\n' ∉ (rowText row).toList ↔ '\n' ∉ row.2.toList := by
  have label := (padLabel_spec _ known).2
  have colon : '\n' ∉ (": " : String).toList := by decide
  simp only [rowText, String.toList_append, List.mem_append, label, colon, false_or]

theorem readValue_rowText {row : String × String} (known : row.1 ∈ labels) :
    readValue (rowText row) = row.2 := by
  have width := (padLabel_spec _ known).1
  have front : ((padLabel row.1).toList ++ (": " : String).toList).length = labelWidth + 2 := by
    rw [List.length_append, width]
    rfl
  rw [readValue, rowText, String.toList_append, String.toList_append, ← front, List.drop_left,
    String.ofList_toList]

theorem whole_of_all_isDigit {digits : List Char} (all : digits.all Char.isDigit = true) :
    '\n' ∉ digits :=
  fun member => absurd (List.all_eq_true.mp all _ member) (by decide)

theorem whole_showPadded (width number : Nat) : '\n' ∉ (Text.showPadded width number).toList :=
  whole_of_all_isDigit (Text.all_isDigit_showPadded width number)

theorem whole_minuteText (instant : Instant) : '\n' ∉ (minuteText instant).toList := by
  have year : '\n' ∉ (Date.showYear instant.date.toCivil.year).toList := by
    rw [Date.toList_showYear]
    split_ifs <;> simp [whole_showPadded]
  simp [minuteText, year, whole_showPadded]

theorem whole_format (amount : Decimal) : '\n' ∉ (Money.format amount).toList := by
  rw [Money.format]
  generalize amount.normalize.extendTo Money.shownDigits = shown
  have digits := whole_of_all_isDigit shown.numeral.wholeDigits
  have fraction := whole_of_all_isDigit shown.numeral.fractionDigits
  rw [Decimal.toText, String.toList_ofList, Decimal.toChars_eq, Decimal.Numeral.chars]
  split_ifs <;> simp [digits, fraction]

theorem whole_amountText (amount : Decimal) (currency : Currency) :
    '\n' ∉ (Money.format amount ++ " " ++ currency.code).toList := by
  cases currency <;> simp [Currency.code, whole_format]

theorem whole_status (status : TransferStatus) : '\n' ∉ status.word.toList := by
  cases status <;> decide

theorem whole_values_iff (details : TransferDetails) :
    (∀ row ∈ rows details, '\n' ∉ row.2.toList) ↔ Unbroken details := by
  simp only [rows, Unbroken, Plain, namings, List.forall_mem_cons, whole_minuteText,
    whole_amountText, whole_status, not_false_iff, true_and]
  constructor
  · rintro ⟨reference, senderName, sender, receiverName, receiver, description, -⟩
    exact ⟨⟨reference, senderName, sender, receiverName, receiver, List.forall_mem_nil _⟩,
      description⟩
  · rintro ⟨⟨reference, senderName, sender, receiverName, receiver, -⟩, description⟩
    exact ⟨reference, senderName, sender, receiverName, receiver, description,
      List.forall_mem_nil _⟩

/-- The texts of any form are all that can break the lines of a receipt. -/
theorem whole_lines_iff (details : TransferDetails) :
    (∀ line ∈ lines details, '\n' ∉ line.toList) ↔ Unbroken details := by
  have bounds : ∀ line ∈ [title, rule] ++ [rule, footer], '\n' ∉ line.toList := by decide
  have values : (∀ line ∈ (rows details).map rowText, '\n' ∉ line.toList) ↔
      ∀ row ∈ rows details, '\n' ∉ row.2.toList := by
    rw [List.forall_mem_map]
    refine forall₂_congr fun row member => whole_rowText_iff ?_
    rw [← map_fst_rows details]
    exact List.mem_map_of_mem member
  rw [lines, ← whole_values_iff, ← values]
  simp only [List.mem_append]
  constructor
  · exact fun whole line member => whole line (.inl (.inr member))
  · rintro whole line ((first | row) | last)
    · exact bounds line (List.mem_append_left _ first)
    · exact whole line row
    · exact bounds line (List.mem_append_right _ last)

/-- Dates and times are written the same exactly if they are the same to the minute. -/
theorem minuteText_eq_iff (left right : Instant) :
    minuteText left = minuteText right ↔ left.seconds / 60 = right.seconds / 60 := by
  have leftDay := Date.toCivil_spec left.date
  have rightDay := Date.toCivil_spec right.date
  have leftSecond := left.secondOfDay_lt
  have rightSecond := right.secondOfDay_lt
  have hundred : tenTo 2 = 100 := rfl
  have civil :
      (left.date.toCivil.day = right.date.toCivil.day ∧
          left.date.toCivil.month = right.date.toCivil.month ∧
            left.date.toCivil.year = right.date.toCivil.year) ↔
        left.seconds / 86400 = right.seconds / 86400 := by
    have dates : left.date = right.date ↔ left.seconds / 86400 = right.seconds / 86400 := by
      rw [Instant.date, Instant.date, Date.mk.injEq]
    rw [← dates, ← Date.toCivil_inj]
    obtain ⟨leftYear, leftMonth, leftDay⟩ := left.date.toCivil
    obtain ⟨rightYear, rightMonth, rightDay⟩ := right.date.toCivil
    rw [Date.Civil.mk.injEq]
    tauto
  rw [minuteText, minuteText,
    Text.append_showPadded_inj (by decide) (by omega) (by omega), String.append_left_inj,
    Text.append_showPadded_inj (by decide) (by omega) (by omega), String.append_left_inj]
  simp only [String.append_assoc]
  rw [Text.showPadded_append_inj (by decide) (by omega) (by omega), String.append_right_inj,
    Text.showPadded_append_inj (by decide) (by omega) (by omega), String.append_right_inj,
    Date.showYear_inj, civil]
  rw [Instant.secondOfDay, Instant.secondOfDay]
  omega

theorem amountText_eq_iff
    {left right : Decimal}
    {leftCurrency rightCurrency : Currency} :
    Money.format left ++ " " ++ leftCurrency.code =
        Money.format right ++ " " ++ rightCurrency.code ↔
      left.units = right.units ∧ leftCurrency = rightCurrency := by
  have long (currency : Currency) : currency.code.toList.length = 3 := by cases currency <;> rfl
  rw [Text.append_inj_of_back ((long leftCurrency).trans (long rightCurrency).symm),
    String.append_left_inj, Money.format_eq_format_iff, Currency.code_inj]

/-- The rows of two receipts are the same exactly if they tell the same facts. -/
theorem rows_eq_iff (left right : TransferDetails) :
    rows left = rows right ↔ SameFacts left right := by
  simp only [rows, List.cons.injEq, Prod.mk.injEq, true_and, and_true, minuteText_eq_iff,
    amountText_eq_iff, TransferStatus.word_inj]
  constructor
  · rintro ⟨reference, minute, senderName, sender, receiverName, receiver, ⟨amount, currency⟩,
      description, status⟩
    exact ⟨reference, minute, senderName, sender, receiverName, receiver, amount, currency,
      description, status⟩
  · rintro ⟨reference, minute, senderName, sender, receiverName, receiver, amount, currency,
      description, status⟩
    exact ⟨reference, minute, senderName, sender, receiverName, receiver, ⟨amount, currency⟩,
      description, status⟩

/-! ## Documents -/

theorem document_of_rows {left right : TransferDetails} (same : rows left = rows right) :
    document left = document right := by
  rw [document, lines, same, ← lines, ← document]

/-- The lines in front of the description. -/
def front (details : TransferDetails) : List String :=
  [title, rule] ++ ((rows details).take 7).map rowText

/-- The lines behind the description. -/
def back (details : TransferDetails) : List String :=
  ((rows details).drop 8).map rowText ++ [rule, footer]

/-- The row between them. -/
def descriptionRow (details : TransferDetails) : String :=
  rowText ("Description", descriptionText details.transfer.description)

theorem lines_eq (details : TransferDetails) :
    lines details = front details ++ [descriptionRow details] ++ back details := rfl

theorem length_front (details : TransferDetails) : (front details).length = 9 := rfl

theorem length_back (details : TransferDetails) : (back details).length = 3 := rfl

/-- Without line feeds elsewhere, the description alone can break the lines. -/
theorem readLines_of_plain {details : TransferDetails} (plain : Plain details) :
    readLines (document details) =
      front details ++ pieces (descriptionRow details) ++ back details := by
  -- With another description, all lines around it are whole.
  let silent : TransferDetails :=
    { details with transfer := { details.transfer with description := none } }
  have unbroken : Unbroken silent := ⟨plain, (by decide : '\n' ∉ noDescription.toList)⟩
  have whole := (whole_lines_iff silent).mpr unbroken
  rw [lines_eq, List.forall_mem_append, List.forall_mem_append] at whole
  obtain ⟨⟨wholeFront, -⟩, wholeBack⟩ := whole
  have first : (front details).flatMap pieces = front details :=
    flatMap_pieces_of_whole wholeFront
  have last : (back details).flatMap pieces = back details :=
    flatMap_pieces_of_whole wholeBack
  rw [readLines_document, lines_eq, List.flatMap_append, List.flatMap_append, first, last,
    List.flatMap_singleton]

theorem readLines_of_unbroken {details : TransferDetails} (unbroken : Unbroken details) :
    readLines (document details) = lines details := by
  rw [readLines_document, flatMap_pieces_of_whole ((whole_lines_iff details).mpr unbroken)]

theorem length_readLines_iff (details : TransferDetails) :
    (readLines (document details)).length = 13 ↔ Unbroken details := by
  rw [readLines_document, ← whole_lines_iff, ← length_flatMap_pieces_iff]
  rfl

theorem readValues_of_unbroken {details : TransferDetails} (unbroken : Unbroken details) :
    readValues (document details) = (rows details).map Prod.snd := by
  have between : ((lines details).drop 2).take 9 = (rows details).map rowText := rfl
  rw [readValues, readLines_of_unbroken unbroken, between, List.map_map]
  refine List.map_congr_left fun row member => readValue_rowText ?_
  rw [← map_fst_rows details]
  exact List.mem_map_of_mem member

/-- Lines around descriptions tell apart what the rows tell apart. -/
theorem document_eq_iff_of_plain
    {left right : TransferDetails}
    (leftPlain : Plain left)
    (rightPlain : Plain right) :
    document left = document right ↔ SameFacts left right := by
  rw [← rows_eq_iff]
  refine ⟨fun same => ?_, document_of_rows⟩
  have read := congrArg readLines same
  rw [readLines_of_plain leftPlain, readLines_of_plain rightPlain] at read
  obtain ⟨befores, backs⟩ := List.append_inj' read
    ((length_back left).trans (length_back right).symm)
  obtain ⟨fronts, descriptions⟩ := List.append_inj befores
    ((length_front left).trans (length_front right).symm)
  rw [pieces_inj, descriptionRow, descriptionRow, rowText_inj] at descriptions
  simp only [front, back, rows, List.take_succ_cons, List.take_zero, List.drop_succ_cons,
    List.drop_zero, List.map_cons, List.map_nil, List.cons_append, List.nil_append,
    List.cons.injEq, rowText_inj, true_and, and_true] at fronts backs
  obtain ⟨reference, minute, senderName, sender, receiverName, receiver, amount⟩ := fronts
  rw [rows, rows, reference, minute, senderName, sender, receiverName, receiver, amount,
    descriptions, backs]

/-- A receipt of 13 lines is told apart from all others. -/
theorem document_eq_iff_of_unbroken
    {left : TransferDetails}
    (unbroken : Unbroken left)
    (right : TransferDetails) :
    document left = document right ↔ SameFacts left right := by
  refine ⟨fun same => ?_, fun same => document_of_rows ((rows_eq_iff _ _).mpr same)⟩
  have other : Unbroken right := by
    rw [← length_readLines_iff, ← same, length_readLines_iff]
    exact unbroken
  exact (document_eq_iff_of_plain unbroken.1 other.1).mp same

/--
A receipt is 13 lines exactly if no line feed is in a name, an account number, the reference
or the description. Then its lines are title and rule, the nine rows and again a rule, and the
last line; the values are read off the rows, and no other receipt is the same unless it tells
the same facts. Without line feeds elsewhere, receipts of whatever descriptions are the same
only if they tell the same facts.
-/
theorem document_tells_facts (details : TransferDetails) :
    ((readLines (document details)).length = 13 ↔ Unbroken details) ∧
    (Unbroken details ->
      readLines (document details) =
          [title, rule] ++
            (rows details).map (fun row => padLabel row.1 ++ ": " ++ row.2) ++ [rule, footer] ∧
        readValues (document details) = (rows details).map Prod.snd ∧
        ∀ other, document details = document other ↔ SameFacts details other) ∧
    (Plain details ->
      ∀ other, Plain other -> (document details = document other ↔ SameFacts details other)) :=
  ⟨length_readLines_iff details,
    fun unbroken =>
      ⟨readLines_of_unbroken unbroken, readValues_of_unbroken unbroken,
        document_eq_iff_of_unbroken unbroken⟩,
    fun plain _ otherPlain => document_eq_iff_of_plain plain otherPlain⟩

end Receipt

namespace Sample

/-- A transfer from account A to account B, between owners of some names. -/
def paid (description : Option String) (sender receiver : String × String) : TransferDetails where
  transfer :=
    { externalId := ⟨7⟩, reference := "R7", sender := "A", receiver := "B"
      amount := .whole 60 (by decide), currency := .eur, type := .transfer, status := .completed
      description := description, createdAt := ⟨0, 0⟩, id := 1 }
  sender := ⟨1, sender.1, sender.2, "user@example.com", true⟩
  receiver := ⟨2, receiver.1, receiver.2, "user@example.com", true⟩

/-- A text, and below it the rows that name the sending account and a receiver. -/
def spanning (text : String) (receiver : String × String) : String :=
  text ++ "\n" ++ Receipt.rowText ("Sender IBAN", "A") ++ "\n" ++
    Receipt.rowText ("Receiver Name", receiver.1 ++ " " ++ receiver.2)

end Sample

namespace Receipt

/-- A blank description of two lines breaks no receipt, and is read as one that says nothing. -/
theorem document_tells_facts_sample :
    let details := Sample.paid (some " \n") ("Ada", "A") ("Bob", "B")
    Unbroken details ∧
      readValues (document details) = (rows details).map Prod.snd := by
  intro details
  have unbroken : Unbroken details := by decide
  exact ⟨unbroken, ((document_tells_facts details).2.1 unbroken).2.1⟩

/--
A completed transfer with a description of two lines has a receipt of 14 lines, in which the
row of the status says that it has failed. Names of several lines give two transfers the same
receipt, although neither their senders nor their receivers have the same names.
-/
theorem line_feed_forges_rows :
    let forged := Sample.paid (some ("Rent\n" ++ rowText ("Status", "FAILED")))
      ("Ada", "A") ("Bob", "B")
    let long := Sample.paid none ("Ada", Sample.spanning "A" ("Bob", "B")) ("Cy", "C")
    let other := Sample.paid none ("Ada", "A") ("Bob", Sample.spanning "B" ("Cy", "C"))
    (forged.transfer.status = .completed ∧ (readLines (document forged)).length = 14 ∧
        (readValues (document forged)).getLast? = some "FAILED") ∧
      long.sender.displayName ≠ other.sender.displayName ∧
        long.receiver.displayName ≠ other.receiver.displayName ∧
          document long = document other := by
  intro forged long other
  refine ⟨⟨rfl, ?_⟩, by decide, by decide, ?_⟩
  · have lines := readLines_of_plain (by decide : Plain forged)
    have broken : pieces (descriptionRow forged) =
        [rowText ("Description", "Rent"), rowText ("Status", "FAILED")] := by decide
    rw [readValues, lines, broken]
    have last : readValue (rowText ("Status", "FAILED")) = "FAILED" :=
      readValue_rowText (by decide)
    exact ⟨rfl, congrArg some last⟩
  · simp only [document, Receipt.lines, rows, rowText, long, other, Sample.paid, Sample.spanning,
      Owner.displayName, List.map_cons, List.map_nil, List.cons_append, List.nil_append,
      String.join_cons, String.join_nil, String.append_assoc]

end Receipt
end Giro
