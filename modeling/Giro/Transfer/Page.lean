import Giro.Transfer.Record

/-!
# Filters and pages

A filter bounds amount and time of transfers, both ends included. A list is
handed out in pages, numbered from zero. A request that is made as one asks for
pages of between one and a hundred items; one that is put together by hand may ask
for pages of any size, and pages of size 0 cannot be counted.
-/

namespace Giro

/-- Bounds on transfers, each of which may be open. -/
structure TransferFilter where
  minAmount : Option Decimal
  maxAmount : Option Decimal
  start : Option Instant
  stop : Option Instant
deriving DecidableEq

namespace TransferFilter

/-- The filter that lets everything pass. -/
def unbounded : TransferFilter := ⟨none, none, none, none⟩

/-- Whether a transfer lies within all bounds. -/
def accepts (filter : TransferFilter) (transfer : Transfer) : Bool :=
  filter.minAmount.all (fun least => decide (least <= transfer.amount)) &&
    filter.maxAmount.all (fun most => decide (transfer.amount <= most)) &&
    filter.start.all (fun earliest => decide (earliest <= transfer.createdAt)) &&
    filter.stop.all (fun latest => decide (transfer.createdAt <= latest))

end TransferFilter

/-- Which page of a list is wanted. -/
structure PageRequest where
  page : Nat
  size : Nat
deriving DecidableEq

namespace PageRequest

/-- The page that is meant if none is asked for. -/
def firstPage : Nat := 0

/-- The size of pages if none is asked for. -/
def defaultSize : Nat := 20

/-- The largest size of pages. -/
def maxSize : Nat := 100

/-- The request for a page, its size brought between one and the largest. -/
def make (page size : Nat) : PageRequest :=
  ⟨page, min (max size 1) maxSize⟩

/-- The number of items on the pages before. -/
def offset (request : PageRequest) : Nat :=
  request.page * request.size

end PageRequest

/-- One page of a list. -/
structure Page (α : Type) where
  items : List α
  page : Nat
  size : Nat
  totalItems : Nat
  totalPages : Nat
deriving DecidableEq

namespace Page

/-- A page with the numbers that describe it, unless its size is 0. -/
def make {α : Type} (items : List α) (request : PageRequest) (total : Nat) :
    Except Overflow (Page α) :=
  if request.size = 0 then .error .zeroDivisor
  else .ok ⟨items, request.page, request.size, total, (total + request.size - 1) / request.size⟩

/-- The page of a list that a request asks for. -/
def ofList {α : Type} (items : List α) (request : PageRequest) : Except Overflow (Page α) :=
  make ((items.drop request.offset).take request.size) request items.length

/-- The page with a function applied to its items. -/
def map {α β : Type} (function : α -> β) (page : Page α) : Page β :=
  { page with items := page.items.map function }

end Page
end Giro
