import AccountRegistry.Proofs.Listing.Acceptance
import AccountRegistry.Proofs.Store.Pages
import AccountRegistry.Store.Source
import Mathlib.Order.Bounds.Basic

/-! # Pages past the end

The numbers of a page are computed in machine words without wrapping. A page other than the first is
past the end exactly if its window shows none of the rows, and then the policy decides between a
refusal and an empty page; all other pages are the same under both policies.
-/

namespace AccountRegistry

/-! ## Arithmetic -/

/-- The numbers that belong to a page of a size, and to so many rows altogether. -/
structure PageRequest.Measures (r : PageRequest) (page size : Nat) (total : UInt64) : Prop where
  offset : (r.offset.toNat : Int) = (page - 1) * size
  stop : (r.offset + r.limit).toNat = page * size
  limit_ne_zero : r.limit ≠ 0
  pages : IsLeast {n | total.toNat ≤ n * size} (r.pagesFor total).toNat
  pastEnd : r.isPastEnd total = true ↔ 2 ≤ page ∧ total.toNat ≤ (page - 1) * size

namespace PageRequest

variable (r : PageRequest)

/-- The end of a window is computed without wrapping. -/
theorem offset_add_limit_toNat : (r.offset + r.limit).toNat = r.page.toNat * r.size.toNat := by
  have hlt : r.page.toNat * r.size.toNat < UInt32.size * UInt32.size :=
    Nat.mul_lt_mul'' r.page.toNat_lt_size r.size.toNat_lt_size
  rw [UInt64.toNat_add, offset_toNat, limit_toNat, ← page_mul_size]
  exact Nat.mod_eq_of_lt hlt

theorem pagesFor_isLeast (total : UInt64) :
    IsLeast {n | total.toNat ≤ n * r.size.toNat} (r.pagesFor total).toNat :=
  ⟨(r.pagesFor_le_iff total _).mp le_rfl, fun n hn => (r.pagesFor_le_iff total n).mpr hn⟩

/-- The test compares pages, which comes to comparing rows. -/
theorem isPastEnd_iff (total : UInt64) : r.isPastEnd total = true ↔
    2 ≤ r.page.toNat ∧ total.toNat ≤ (r.page.toNat - 1) * r.size.toNat := by
  have hmax (a b c : UInt64) : max a b < c ↔ a.toNat < c.toNat ∧ b.toNat < c.toNat := by
    change (if a ≤ b then b else a) < c ↔ _
    rw [UInt64.lt_iff_toNat_lt]
    split
    · next h =>
      rw [UInt64.le_iff_toNat_le] at h
      omega
    · next h =>
      rw [UInt64.le_iff_toNat_le] at h
      omega
  have hone : (1 : UInt64).toNat = 1 := rfl
  rw [isPastEnd, decide_eq_true_iff, hmax, UInt32.toNat_toUInt64, hone, ← r.pagesFor_le_iff]
  omega

theorem measures (total : UInt64) : r.Measures r.page.toNat r.size.toNat total where
  offset := by
    rw [offset_toNat, Int.natCast_mul, Int.natCast_sub r.page_toNat_pos, Int.natCast_one]
  stop := r.offset_add_limit_toNat
  limit_ne_zero h := by
    have hlimit := congrArg UInt64.toNat h
    have hpos := r.size_toNat_pos
    rw [limit_toNat] at hlimit
    exact hpos.ne' hlimit
  pages := r.pagesFor_isLeast total
  pastEnd := r.isPastEnd_iff total

end PageRequest

/-! ## Pages of a source -/

/-- A source that reads windows of some rows for a query, together with the number of all of them.
-/
structure AccountSource.Windows (s : AccountSource) (q : Query) (rows : List Account) : Prop where
  fits : rows.length < UInt64.size
  fetchPage (w : Window) : s.fetchPage q w = .ok ⟨.ofNat rows.length, MemoryStore.cut w rows⟩

theorem MemoryStore.windows_source (s : MemoryStore) (fits : s.size < UInt64.size) (q : Query) :
    s.source.Windows q (select s.rows q) where
  fits := Nat.lt_of_le_of_lt (s.count_le_size q) fits
  fetchPage _ := rfl

/-- A page other than the first that would have no items. -/
def PageRequest.Overflows (r : PageRequest) (rows : List Account) : Prop :=
  2 ≤ r.page.toNat ∧ MemoryStore.cut r.window rows = []

namespace AccountSource

variable {s : AccountSource} {q : Query} {rows : List Account} {r : PageRequest}

theorem page_empty : s.page q r .empty =
    (s.fetchPage q r.window).map fun slice => .ofItems slice.items slice.total r := by
  rw [page]
  cases s.fetchPage q r.window with
  | error e => rfl
  | ok slice =>
    change slice.toPage r .empty = _
    rw [PageSlice.toPage, if_neg fun hand => nomatch hand.1]
    rfl

variable (h : s.Windows q rows)

include h

theorem isPastEnd_iff_overflows : r.isPastEnd (.ofNat rows.length) = true ↔ r.Overflows rows := by
  have hsize := r.size_toNat_pos.ne'
  rw [r.isPastEnd_iff, UInt64.toNat_ofNat_of_lt' h.fits, PageRequest.Overflows,
    MemoryStore.cut_window, List.take_eq_nil_iff, List.drop_eq_nil_iff, or_iff_right hsize]

theorem page_eq (overflow : PageOverflow) : s.page q r overflow =
    PageSlice.toPage ⟨.ofNat rows.length, MemoryStore.cut r.window rows⟩ r overflow := by
  rw [page, h.fetchPage]
  rfl

theorem page_reject_eq_error_iff {e : StoreError} : s.page q r .reject = .error e ↔
    r.Overflows rows ∧ e = .pageNotFound r.page (r.pagesFor (.ofNat rows.length)) := by
  rw [page_eq h, PageSlice.toPage, ← isPastEnd_iff_overflows h]
  by_cases hpast : r.isPastEnd (.ofNat rows.length) = true
  · simp [hpast, eq_comm]
  · simp [hpast]

theorem page_of_not_overflows (hpast : ¬ r.Overflows rows) (overflow : PageOverflow) :
    s.page q r overflow =
      .ok (.ofItems (MemoryStore.cut r.window rows) (.ofNat rows.length) r) := by
  rw [page_eq h, PageSlice.toPage, if_neg]
  rw [isPastEnd_iff_overflows h]
  exact fun hand => hpast hand.2

end AccountSource

/-- The numbers of an accepted page request are exact. Whatever a source answers, the policy for
empty pages adds no failure. For a source that reads windows of some rows, the policy to reject fails
exactly for a page other than the first that would have no items, and names the page and the number
of pages; in all other cases both policies give the same page, whose items are mapped one by one. -/
theorem accepted_page_is_exact {page size max : UInt32} {r : PageRequest}
    (h : PageRequest.check page size max = .ok r) :
    (r.page = page ∧ r.size = size) ∧
    (∀ total, r.Measures page.toNat size.toNat total) ∧
    ∀ (s : AccountSource) (q : Query),
      (s.page q r .empty =
        (s.fetchPage q r.window).map fun slice => .ofItems slice.items slice.total r) ∧
      ∀ rows, s.Windows q rows →
        (∀ e, s.page q r .reject = .error e ↔ r.Overflows rows ∧
          e = .pageNotFound page (r.pagesFor (.ofNat rows.length))) ∧
        (¬ r.Overflows rows → ∀ overflow {α : Type} (f : Account → α),
          (s.page q r overflow).map (Page.map f) =
            .ok ⟨(MemoryStore.cut r.window rows).map f, .ofNat rows.length, page, size,
              r.pagesFor (.ofNat rows.length)⟩) := by
  obtain ⟨-, rfl, rfl⟩ := PageRequest.check_eq_ok_iff.mp h
  refine ⟨⟨rfl, rfl⟩, r.measures, fun s q => ⟨AccountSource.page_empty, fun rows hrows => ?_⟩⟩
  refine ⟨fun e => AccountSource.page_reject_eq_error_iff hrows, fun hpast overflow α f => ?_⟩
  rw [AccountSource.page_of_not_overflows hrows hpast overflow]
  rfl

/-- The third page of two of three accounts is missing, and the second one is there. -/
theorem third_page_is_past_end : ∃ r,
    PageRequest.check 3 2 10 = .ok r ∧ r.offset.toNat = 4 ∧
    MemoryStore.sampleStore.source.page .everything r .reject = .error (.pageNotFound 3 2) := by
  have hcheck : PageRequest.check 3 2 10 = .ok ⟨3, 2, by decide, by decide⟩ := rfl
  have hlength : (MemoryStore.select MemoryStore.sampleStore.rows .everything).length = 3 := by
    rw [MemoryStore.select, sortByClauses, sortById, List.length_mergeSort, List.length_mergeSort]
    decide
  obtain ⟨-, hmeasures, hsource⟩ := accepted_page_is_exact hcheck
  obtain ⟨-, hwindows⟩ := hsource MemoryStore.sampleStore.source .everything
  obtain ⟨hreject, -⟩ := hwindows _ (MemoryStore.sampleStore.windows_source (by decide) _)
  refine ⟨_, hcheck, Int.ofNat.inj (hmeasures 3).offset, (hreject _).mpr ⟨⟨by decide, ?_⟩, ?_⟩⟩
  · rw [MemoryStore.cut_window, List.drop_of_length_le (by rw [hlength]; decide), List.take_nil]
  · rw [hlength]
    decide

end AccountRegistry
