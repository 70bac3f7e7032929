import Giro.Ledger.Tables
import Giro.Proofs.Time.Order
import Mathlib.Data.List.Nodup

/-!
# Histories in pages

The pages of a history, one after another, are the whole history: every transfer
of the account within the bounds once, the newest first. All pages are full but
the last one, which has at least one item. That no two transfers have the same
number is what makes the order a strict one, so that the pages do not depend on
the order in which the log was written.
-/

namespace Giro

namespace Page

variable {α : Type}

/-- The page of a list that a request asks for, the pages having a size. -/
def slice (items : List α) (request : PageRequest) : Page α :=
  ⟨(items.drop request.offset).take request.size, request.page, request.size, items.length,
    (items.length + request.size - 1) / request.size⟩

theorem ofList_of_pos (items : List α) {request : PageRequest} (positive : 0 < request.size) :
    ofList items request = .ok (slice items request) :=
  if_neg (Nat.ne_of_gt positive)

/-- Pages of no size, and they alone, cannot be counted. -/
theorem ofList_eq_error_iff (items : List α) (request : PageRequest) (overflow : Overflow) :
    ofList items request = .error overflow ↔ request.size = 0 ∧ overflow = .zeroDivisor := by
  rw [ofList, make]
  split <;> simp [*, eq_comm]

/-- Pages of one size, one after another, are the front of the list. -/
theorem flatMap_items_slice (items : List α) (size count : Nat) :
    (List.range count).flatMap (fun page => (slice items ⟨page, size⟩).items) =
      items.take (count * size) := by
  induction count with
  | zero => simp
  | succ count ih =>
      rw [List.range_succ, List.flatMap_append, ih, Nat.succ_mul, List.take_add]
      simp [slice, PageRequest.offset]

theorem length_items_slice (items : List α) (page size : Nat) :
    (slice items ⟨page, size⟩).items.length = min size (items.length - page * size) := by
  simp [slice, PageRequest.offset]

/-- There is a page for each item, and no page without one. -/
theorem lt_totalPages_iff (items : List α) {size : Nat} (positive : 0 < size) (page : Nat) :
    page < (slice items ⟨page, size⟩).totalPages ↔ page * size < items.length := by
  simp only [slice]
  rw [← Nat.succ_le_iff, Nat.le_div_iff_mul_le positive, Nat.succ_mul]
  omega

end Page

namespace PageRequest

theorem size_make_pos (page size : Nat) : 0 < (make page size).size := by
  simp only [make, maxSize]
  omega

end PageRequest

namespace TransferFilter

/-- A transfer lies within all bounds that are given, each of them included. -/
structure Holds (filter : TransferFilter) (transfer : Transfer) : Prop where
  enough : ∀ least, filter.minAmount = some least -> least <= transfer.amount
  notTooMuch : ∀ most, filter.maxAmount = some most -> transfer.amount <= most
  notTooEarly : ∀ earliest, filter.start = some earliest -> earliest <= transfer.createdAt
  notTooLate : ∀ latest, filter.stop = some latest -> transfer.createdAt <= latest

theorem accepts_iff (filter : TransferFilter) (transfer : Transfer) :
    filter.accepts transfer = true ↔ filter.Holds transfer := by
  simp only [accepts, Bool.and_eq_true, Option.all_eq_true, decide_eq_true_eq]
  constructor
  · rintro ⟨⟨⟨enough, notTooMuch⟩, notTooEarly⟩, notTooLate⟩
    exact ⟨enough, notTooMuch, notTooEarly, notTooLate⟩
  · rintro ⟨enough, notTooMuch, notTooEarly, notTooLate⟩
    exact ⟨⟨⟨enough, notTooMuch⟩, notTooEarly⟩, notTooLate⟩

end TransferFilter

namespace Transfer

/-- A transfer was made after another one, or at the same time and with a larger number. -/
def Newer (left right : Transfer) : Prop :=
  right.createdAt < left.createdAt ∨
    left.createdAt = right.createdAt ∧ right.id < left.id

theorem involves_iff (transfer : Transfer) (iban : String) :
    transfer.involves iban = true ↔ transfer.sender = iban ∨ transfer.receiver = iban := by
  simp [involves]

end Transfer

namespace Tables

/-- Of two transfers that may stand side by side, the first is newer or both have one number. -/
theorem newestFirst_iff (left right : Transfer) :
    newestFirst left right = true ↔
      right.createdAt < left.createdAt ∨
        left.createdAt = right.createdAt ∧ right.id <= left.id := by
  simp only [newestFirst, Bool.or_eq_true, Bool.and_eq_true, Bool.not_eq_true',
    decide_eq_true_eq, decide_eq_false_iff_not]
  constructor
  · rintro (later | ⟨notEarlier, larger⟩)
    · exact Or.inl later
    · by_cases later : right.createdAt < left.createdAt
      · exact Or.inl later
      · exact Or.inr ⟨Instant.eq_of_not_lt notEarlier later, larger⟩
  · rintro (later | ⟨same, larger⟩)
    · exact Or.inl later
    · rw [same]
      exact Or.inr ⟨fun before => Instant.lt_asymm before before, larger⟩

theorem newestFirst_trans
    (first second third : Transfer)
    (newer : newestFirst first second = true)
    (older : newestFirst second third = true) :
    newestFirst first third = true := by
  rw [newestFirst_iff] at *
  rcases newer with later | ⟨same, larger⟩
  · rcases older with latest | ⟨alike, -⟩
    · exact Or.inl (Instant.lt_trans latest later)
    · exact Or.inl (alike ▸ later)
  · rcases older with later | ⟨alike, largest⟩
    · exact Or.inl (same ▸ later)
    · exact Or.inr ⟨same.trans alike, by omega⟩

theorem newestFirst_total (left right : Transfer) :
    (newestFirst left right || newestFirst right left) = true := by
  rw [Bool.or_eq_true, newestFirst_iff, newestFirst_iff]
  by_cases later : right.createdAt < left.createdAt
  · exact Or.inl (Or.inl later)
  · by_cases earlier : left.createdAt < right.createdAt
    · exact Or.inr (Or.inl earlier)
    · have same := Instant.eq_of_not_lt earlier later
      rcases Int.le_total right.id left.id with larger | larger
      · exact Or.inl (Or.inr ⟨same, larger⟩)
      · exact Or.inr (Or.inr ⟨same.symm, larger⟩)

variable {tables : Tables} {iban : String} {filter : TransferFilter}

theorem mem_matching_iff (transfer : Transfer) :
    transfer ∈ tables.matching iban filter ↔
      transfer ∈ tables.transfers ∧
        (transfer.sender = iban ∨ transfer.receiver = iban) ∧ filter.Holds transfer := by
  rw [matching, (List.mergeSort_perm _ _).mem_iff, List.mem_filter, Bool.and_eq_true,
    Transfer.involves_iff, TransferFilter.accepts_iff]

/-- Transfers with the same number are one and the same. -/
theorem eq_of_id_eq
    (distinct : (tables.transfers.map Transfer.id).Nodup)
    {left right : Transfer}
    (here : left ∈ tables.transfers)
    (there : right ∈ tables.transfers)
    (same : left.id = right.id) :
    left = right :=
  List.inj_on_of_nodup_map distinct here there same

theorem nodup_matching (distinct : (tables.transfers.map Transfer.id).Nodup) :
    (tables.matching iban filter).Nodup := by
  rw [matching, (List.mergeSort_perm _ _).nodup_iff]
  exact (List.Nodup.of_map _ distinct).filter _

theorem pairwise_newestFirst :
    (tables.matching iban filter).Pairwise (fun left right => newestFirst left right = true) :=
  List.pairwise_mergeSort newestFirst_trans newestFirst_total _

/-- In the history of an account each transfer is newer than all that follow. -/
theorem pairwise_newer (distinct : (tables.transfers.map Transfer.id).Nodup) :
    (tables.matching iban filter).Pairwise Transfer.Newer := by
  refine (pairwise_newestFirst.and (nodup_matching distinct)).imp_of_mem ?_
  rintro left right here there ⟨ordered, different⟩
  rcases (newestFirst_iff left right).mp ordered with later | ⟨same, larger⟩
  · exact Or.inl later
  · have unequal : left.id ≠ right.id := fun equal =>
      different (eq_of_id_eq distinct ((mem_matching_iff left).mp here).1
        ((mem_matching_iff right).mp there).1 equal)
    exact Or.inr ⟨same, by omega⟩

/-- The history of an account does not depend on the order of the log. -/
theorem matching_of_perm
    (distinct : (tables.transfers.map Transfer.id).Nodup)
    {other : Tables}
    (shuffled : other.transfers.Perm tables.transfers) :
    other.matching iban filter = tables.matching iban filter := by
  refine List.Perm.eq_of_pairwise ?_ pairwise_newestFirst pairwise_newestFirst ?_
  · intro left right here there newer older
    have logged := shuffled.mem_iff.mp ((mem_matching_iff left).mp here).1
    refine eq_of_id_eq distinct logged ((mem_matching_iff right).mp there).1 ?_
    rcases (newestFirst_iff left right).mp newer with later | ⟨same, larger⟩
    · rcases (newestFirst_iff right left).mp older with earlier | ⟨same, -⟩
      · exact absurd earlier (Instant.lt_asymm later)
      · exact absurd (same ▸ later) (fun before => Instant.lt_asymm before before)
    · rcases (newestFirst_iff right left).mp older with earlier | ⟨-, smaller⟩
      · exact absurd (same ▸ earlier) (fun before => Instant.lt_asymm before before)
      · omega
  · exact (List.mergeSort_perm _ _).trans
      ((shuffled.filter _).trans (List.mergeSort_perm _ _).symm)

/-- A page that is asked for in the usual way is handed out. -/
theorem listTransfers_make (index size : Nat) :
    tables.listTransfers iban filter (.make index size) =
      .ok (Page.slice (tables.matching iban filter) (.make index size)) :=
  Page.ofList_of_pos _ (PageRequest.size_make_pos index size)

/-- The items of all pages of a size, one page after another. -/
def allPages (tables : Tables) (iban : String) (filter : TransferFilter) (size : Nat) :
    Except Overflow (List Transfer) := do
  let first <- tables.listTransfers iban filter (.make 0 size)
  let pages <- (List.range first.totalPages).mapM (fun index =>
    tables.listTransfers iban filter (.make index size))
  .ok (pages.flatMap Page.items)

/-- All pages together are the whole history. -/
theorem flatMap_items_matching (size : Nat) :
    let page (index : Nat) := Page.slice (tables.matching iban filter) (.make index size)
    (List.range (page 0).totalPages).flatMap (fun index => (page index).items) =
      tables.matching iban filter := by
  intro page
  have whole := Page.flatMap_items_slice (tables.matching iban filter)
    (PageRequest.make 0 size).size (page 0).totalPages
  refine whole.trans (List.take_of_length_le (Nat.le_of_not_lt fun more => ?_))
  have positive := PageRequest.size_make_pos 0 size
  exact Nat.lt_irrefl _ ((Page.lt_totalPages_iff _ positive (page 0).totalPages).mpr more)

theorem allPages_eq (size : Nat) :
    tables.allPages iban filter size = .ok (tables.matching iban filter) := by
  let page (index : Nat) := Page.slice (tables.matching iban filter) (.make index size)
  have handed : (List.range (page 0).totalPages).mapM (fun index =>
        tables.listTransfers iban filter (.make index size)) =
      .ok ((List.range (page 0).totalPages).map page) := by
    simp only [listTransfers_make]
    exact List.mapM_pure
  calc tables.allPages iban filter size
      = .ok (((List.range (page 0).totalPages).map page).flatMap Page.items) := by
        rw [allPages, listTransfers_make]
        exact congrArg (fun pages => pages >>= fun pages => .ok (pages.flatMap Page.items)) handed
    _ = .ok (tables.matching iban filter) := by
        rw [List.flatMap_map]
        exact congrArg Except.ok (flatMap_items_matching size)

/--
Whatever the size asked for, the pages of a history hold every transfer of the account
within the bounds once and nothing else, the newest first and of those made at the same
time the one with the largest number. Every page but the last one is full, the last one
is not empty and there is nothing behind it. Each page tells how many transfers there
are, and none depends on the order in which the transfers were logged. No page fails.
-/
theorem pages_exhaust_history
    (tables : Tables)
    (distinct : (tables.transfers.map Transfer.id).Nodup)
    (iban : String)
    (filter : TransferFilter)
    (size : Nat) :
    ∃ page : Nat -> Page Transfer,
      (∀ index, tables.listTransfers iban filter (.make index size) = .ok (page index)) ∧
      let pages := (page 0).totalPages
      let all := (List.range pages).flatMap (fun index => (page index).items)
      let full := min (max size 1) 100
      (all.Nodup ∧
        ∀ transfer, transfer ∈ all ↔
          transfer ∈ tables.transfers ∧
            (transfer.sender = iban ∨ transfer.receiver = iban) ∧ filter.Holds transfer) ∧
        all.Pairwise Transfer.Newer ∧
        (∀ index, index + 1 < pages -> (page index).items.length = full) ∧
        (∀ index, index + 1 = pages ->
          0 < (page index).items.length ∧ (page index).items.length <= full) ∧
        (∀ index, pages <= index -> (page index).items = []) ∧
        (∀ index, (page index).totalItems = all.length ∧ (page index).totalPages = pages) ∧
        ∀ other : Tables, other.transfers.Perm tables.transfers ->
          ∀ index, other.listTransfers iban filter (.make index size) = .ok (page index) := by
  let page (index : Nat) := Page.slice (tables.matching iban filter) (.make index size)
  refine ⟨page, fun index => listTransfers_make index size, ?_⟩
  intro pages all full
  have whole : all = tables.matching iban filter := flatMap_items_matching size
  have fullPositive : 0 < full := PageRequest.size_make_pos 0 size
  have exists_iff (index : Nat) : index < pages ↔ index * full < all.length := by
    rw [whole]
    exact Page.lt_totalPages_iff _ fullPositive index
  have length_eq (index : Nat) :
      (page index).items.length = min full (all.length - index * full) := by
    rw [whole]
    exact Page.length_items_slice _ index full
  refine ⟨⟨whole ▸ nodup_matching distinct, fun transfer => whole ▸ mem_matching_iff transfer⟩,
    whole ▸ pairwise_newer distinct, ?full, ?last, ?past, ?totals, ?shuffled⟩
  case full =>
    intro index more
    have next := (exists_iff (index + 1)).mp more
    rw [length_eq]
    rw [Nat.succ_mul] at next
    omega
  case last =>
    intro index isLast
    have some := (exists_iff index).mp (by omega)
    rw [length_eq]
    omega
  case past =>
    intro index beyond
    have none := (exists_iff index).not.mp (by omega)
    apply List.eq_nil_of_length_eq_zero
    rw [length_eq]
    omega
  case totals =>
    intro index
    exact ⟨congrArg List.length whole.symm, rfl⟩
  case shuffled =>
    intro other shuffled index
    rw [listTransfers_make, matching_of_perm distinct shuffled]

end Tables

namespace Sample

/-- A transfer of a whole amount, made at a second of time. -/
def payment
    (id : Nat)
    (second : Int)
    (sender receiver : String)
    (amount : Decimal)
    (description : Option String) : Transfer where
  externalId := ⟨id⟩
  reference := Text.showNat id
  sender := sender
  receiver := receiver
  amount := amount
  currency := .eur
  type := .transfer
  status := .completed
  description := description
  createdAt := ⟨second, 0⟩
  id := id

/-- Five transfers, four of them to or from one account, and three at the same time. -/
def journal : Tables where
  accounts := .empty
  limits := .empty
  transfers :=
    [payment 2 86400 "A" "B" (.whole 41 (by decide)) (some "rent"),
      payment 5 86400 "A" "A" (.whole 7 (by decide)) none,
      payment 1 3600 "B" "A" (.whole 3 (by decide)) none,
      payment 4 90000 "B" "C" (.whole 5 (by decide)) none,
      payment 3 86400 "A" "C" (.whole 19 (by decide)) (some "cafe")]

/-- From the amount of the smallest of them upward. -/
def bounds : TransferFilter :=
  { TransferFilter.unbounded with minAmount := some (.whole 3 (by decide)) }

end Sample

namespace Tables

theorem pages_exhaust_history_sample :
    let shuffled : Tables := { Sample.journal with transfers := Sample.journal.transfers.reverse }
    (Sample.journal.transfers.map Transfer.id).Nodup ∧
      ∃ page : Nat -> Page Transfer,
        (∀ index, Sample.journal.listTransfers "A" Sample.bounds (.make index 3) =
          .ok (page index)) ∧
        (page 0).totalPages = 2 ∧
        (page 0).items.length = 3 ∧
        0 < (page 1).items.length ∧
        (page 2).items = [] ∧
        shuffled.listTransfers "A" Sample.bounds (.make 0 3) = .ok (page 0) := by
  intro shuffled
  have distinct : (Sample.journal.transfers.map Transfer.id).Nodup := by decide
  obtain ⟨page, handed, -, -, full, last, past, -, same⟩ :=
    pages_exhaust_history Sample.journal distinct "A" Sample.bounds 3
  have pages : (page 0).totalPages = 2 := by
    have first := (listTransfers_make 0 3).symm.trans (handed 0)
    rw [← Except.ok.inj first]
    simp only [Page.slice, matching, List.length_mergeSort]
    decide
  exact ⟨distinct, page, handed, pages, full 0 (pages.symm ▸ by decide), (last 1 pages.symm).1,
    past 2 (Nat.le_of_eq pages), same shuffled (List.reverse_perm _) 0⟩

end Tables
end Giro
