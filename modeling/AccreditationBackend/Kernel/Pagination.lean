import Mathlib.Algebra.Order.Floor.Div
import AccreditationBackend.Foundation.Ranking

/-! Pages of a result: what a list endpoint reads, and what it says of the whole. -/

set_option autoImplicit false

namespace AccreditationBackend

variable {α : Type}

/-- The numbers that `@Min(1)` lets through. -/
structure PageRequest where
  page : Nat := 1
  pageSize : Nat := 20
  page_pos : 1 ≤ page := by decide
  pageSize_pos : 1 ≤ pageSize := by decide

structure PaginationQueryDto extends PageRequest where
  pageSize_max : pageSize ≤ 100 := by decide

structure PageResult (α : Type) where
  items : List α
  total : Nat
  page : Nat
  pageSize : Nat
  totalPages : Nat
  deriving DecidableEq, Repr

structure SkipTake where
  skip : Nat
  take : Nat
  deriving DecidableEq, Repr

/-- The quotient is taken exactly: of two integers below 2^53, a double rounds none down to an integer. -/
def buildPageResult (items : List α) (total : Nat) (request : PageRequest) : PageResult α where
  items := items
  total := total
  page := request.page
  pageSize := request.pageSize
  totalPages := max 1 (total ⌈/⌉ request.pageSize)

def toSkipTake (request : PageRequest) : SkipTake where
  skip := (request.page - 1) * request.pageSize
  take := request.pageSize

/-- The rows that a query returns which skips some and takes others. -/
def SkipTake.rows (window : SkipTake) (xs : List α) : List α := (xs.drop window.skip).take window.take

/-- What a list endpoint answers whose whole result is `xs`. -/
def pageOf (xs : List α) (request : PageRequest) : PageResult α :=
  buildPageResult ((toSkipTake request).rows xs) xs.length request

/-- The page that comes after `before` others. -/
def PageRequest.turnTo (request : PageRequest) (before : Nat) : PageRequest where
  page := before + 1
  pageSize := request.pageSize
  page_pos := Nat.succ_le_succ (Nat.zero_le before)
  pageSize_pos := request.pageSize_pos

/-- The items on the pages from the first to the `n`-th. -/
def pagesUpTo (xs : List α) (request : PageRequest) (n : Nat) : List α :=
  (List.range n).flatMap fun before => (pageOf xs (request.turnTo before)).items

/-- The first `n` pages are the whole result, each full before the last, and there is nothing after them. -/
structure Pages (xs : List α) (request : PageRequest) (n : Nat) : Prop where
  whole : pagesUpTo xs request n = xs
  full : ∀ before, before + 1 < n → (pageOf xs (request.turnTo before)).items.length = request.pageSize
  beyond : ∀ before, n ≤ before → (pageOf xs (request.turnTo before)).items = []

section Pages

variable (xs : List α) (request : PageRequest)

theorem pageOf_items (before : Nat) :
    (pageOf xs (request.turnTo before)).items =
      (xs.drop (before * request.pageSize)).take request.pageSize := rfl

theorem pagesUpTo_take (n : Nat) : pagesUpTo xs request n = xs.take (n * request.pageSize) := by
  induction n with
  | zero => simp [pagesUpTo]
  | succ n ih =>
      have grown : pagesUpTo xs request (n + 1) =
          pagesUpTo xs request n ++ (pageOf xs (request.turnTo n)).items := by
        simp [pagesUpTo, List.range_succ]
      rw [grown, ih, pageOf_items, Nat.succ_mul, List.take_add]

/-- The number of pages is enough exactly where it covers the length. -/
theorem totalPages_le {n : Nat} :
    (pageOf xs request).totalPages ≤ n ↔ 1 ≤ n ∧ xs.length ≤ n * request.pageSize := by
  rw [pageOf, buildPageResult, max_le_iff, ceilDiv_le_iff_le_mul request.pageSize_pos,
    Nat.mul_comm]

/-- No answer of an endpoint is longer than its query may ask for. -/
theorem page_bounded (query : PaginationQueryDto) : (pageOf xs query.toPageRequest).items.length ≤ 100 :=
  (List.length_take_le _ _).trans query.pageSize_max

theorem pages_total : Pages xs request (pageOf xs request).totalPages := by
  obtain ⟨_, covers⟩ := (totalPages_le xs request).mp le_rfl
  refine ⟨?_, fun before earlier => ?_, fun before later => ?_⟩
  · rw [pagesUpTo_take, List.take_of_length_le covers]
  · -- A page before the last ends inside the result, or fewer pages were enough.
    have inside : (before + 1) * request.pageSize < xs.length := by
      by_contra past
      have fewer :=
        (totalPages_le xs request).mpr ⟨Nat.succ_le_succ before.zero_le, Nat.not_lt.mp past⟩
      omega
    rw [pageOf_items, List.length_take, List.length_drop]
    rw [Nat.succ_mul] at inside
    omega
  · have past : xs.length ≤ before * request.pageSize :=
      covers.trans (Nat.mul_le_mul_right _ later)
    rw [pageOf_items, List.drop_of_length_le past, List.take_nil]

/-- Pages lose and repeat nothing, and their announced number is the least that does. -/
theorem pages_partition :
    Pages xs request (pageOf xs request).totalPages ∧ 1 ≤ (pageOf xs request).totalPages ∧
      ∀ n, 1 ≤ n → Pages xs request n → (pageOf xs request).totalPages ≤ n := by
  refine ⟨pages_total xs request, le_max_left _ _, fun n positive pages => ?_⟩
  refine (totalPages_le xs request).mpr ⟨positive, ?_⟩
  have whole := pages.whole
  rw [pagesUpTo_take] at whole
  exact (List.take_eq_self_iff xs).mp whole

end Pages

/-! ## Pages of a query that leaves ties open -/

section Rankings

open Foundation

variable {κ : Type} [LinearOrder κ] {key : α → κ} (rankings : Nat → Ranking key) (xs : List α)
  (request : PageRequest)

/-- The items of the first `n` pages, when the query of each page ranks the rows in its own way. -/
def rankedPages (n : Nat) : List α :=
  (List.range n).flatMap fun before => (pageOf ((rankings before).rank xs) (request.turnTo before)).items

theorem pageOf_map {β : Type} (f : α → β) :
    (pageOf xs request).items.map f = (pageOf (xs.map f) request).items := by
  simp [pageOf, buildPageResult, SkipTake.rows, List.map_take, List.map_drop]

/-- The keys on the pages are those of any one ranking. -/
theorem rankedPages_keys {ys : List α} (ranking : Ranked key xs ys) (n : Nat) :
    (rankedPages rankings xs request n).map key = (pagesUpTo ys request n).map key := by
  rw [rankedPages, pagesUpTo, List.map_flatMap, List.map_flatMap]
  congr 1
  funext before
  rw [pageOf_map, pageOf_map, ((rankings before).ranks xs).keys ranking (.refl _)]

theorem rankedPages_mem {n : Nat} {a : α} (shown : a ∈ rankedPages rankings xs request n) : a ∈ xs := by
  obtain ⟨before, _, shown⟩ := List.mem_flatMap.mp shown
  exact ((rankings before).ranks xs).perm.mem_iff.mp (List.mem_of_mem_drop (List.mem_of_mem_take shown))

end Rankings

example : pageOf [1, 2, 3, 4, 5] { page := 3, pageSize := 2 } =
    { items := [5], total := 5, page := 3, pageSize := 2, totalPages := 3 } := by
  decide

end AccreditationBackend
