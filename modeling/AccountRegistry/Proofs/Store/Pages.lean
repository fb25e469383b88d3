import AccountRegistry.Store.Memory
import Mathlib.Data.List.Basic

/-! # Pages of a query

The number of pages is the least that holds all rows. The pages up to that number cut the rows of a
query, its own window apart, into consecutive parts, all of them full but the last.
-/

namespace AccountRegistry

/-! ## Arithmetic -/

/-- The window of page `k` of a size, for any `k` from 1 up. -/
def pageWindow (size : UInt32) (k : Nat) : Window :=
  ⟨some size.toUInt64, .ofNat ((k - 1) * size.toNat)⟩

namespace PageRequest

variable (r : PageRequest)

theorem size_toNat_pos : 0 < r.size.toNat := UInt32.le_iff_toNat_le.mp r.size_pos

theorem page_toNat_pos : 0 < r.page.toNat := UInt32.le_iff_toNat_le.mp r.page_pos

@[simp] theorem limit_toNat : r.limit.toNat = r.size.toNat := UInt32.toNat_toUInt64 _

/-- The offset is computed without wrapping. -/
theorem offset_toNat : r.offset.toNat = (r.page.toNat - 1) * r.size.toNat := by
  have hp : (r.page - 1).toNat = r.page.toNat - 1 := UInt32.toNat_sub_of_le _ _ r.page_pos
  have hlt : (r.page.toNat - 1) * r.size.toNat < UInt32.size * UInt32.size :=
    Nat.mul_lt_mul'' (by have := r.page.toNat_lt_size; omega) r.size.toNat_lt_size
  rw [offset, UInt64.toNat_mul, UInt32.toNat_toUInt64, UInt32.toNat_toUInt64, hp]
  exact Nat.mod_eq_of_lt hlt

theorem window_eq : r.window = pageWindow r.size r.page.toNat := by
  rw [window, pageWindow, ← offset_toNat, UInt64.ofNat_toNat]
  rfl

theorem pagesFor_toNat (total : UInt64) :
    (r.pagesFor total).toNat = total.toNat / r.size.toNat +
      if total.toNat % r.size.toNat = 0 then 0 else 1 := by
  have hs := r.size_toNat_pos
  have hz : total % r.limit = 0 ↔ total.toNat % r.size.toNat = 0 := by
    rw [← UInt64.toNat_inj, UInt64.toNat_mod, limit_toNat]
    rfl
  by_cases h : total.toNat % r.size.toNat = 0
  · rw [pagesFor, if_pos (hz.mpr h), if_pos h, UInt64.toNat_div, limit_toNat, Nat.add_zero]
  · rw [pagesFor, if_neg (fun h' => h (hz.mp h')), if_neg h, UInt64.toNat_add, UInt64.toNat_div,
      limit_toNat]
    refine Nat.mod_eq_of_lt (Nat.lt_of_le_of_lt ?_ total.toNat_lt_size)
    have hne : r.size.toNat ≠ 1 := fun he => h (by rw [he, Nat.mod_one])
    have htotal : total.toNat ≠ 0 := fun he => h (by rw [he, Nat.zero_mod])
    exact Nat.div_lt_self (Nat.pos_of_ne_zero htotal) (by omega)

/-- So many pages hold all rows exactly if they are not fewer than the number of pages. -/
theorem pagesFor_le_iff (total : UInt64) (n : Nat) :
    (r.pagesFor total).toNat ≤ n ↔ total.toNat ≤ n * r.size.toNat := by
  have hs := r.size_toNat_pos
  rw [pagesFor_toNat]
  by_cases h : total.toNat % r.size.toNat = 0
  · rw [if_pos h, Nat.add_zero]
    have hd := Nat.div_mul_cancel (Nat.dvd_of_mod_eq_zero h)
    constructor
    · intro hn
      exact hd ▸ Nat.mul_le_mul_right _ hn
    · intro hn
      exact Nat.div_le_of_le_mul (by rwa [Nat.mul_comm])
  · rw [if_neg h, Nat.succ_le_iff, Nat.div_lt_iff_lt_mul hs]
    refine ⟨Nat.le_of_lt, fun hn => Nat.lt_of_le_of_ne hn fun he => h ?_⟩
    rw [he, Nat.mul_mod_left]

theorem pagesFor_ofNat_le_iff {total : Nat} (fits : total < UInt64.size) (n : Nat) :
    (r.pagesFor (.ofNat total)).toNat ≤ n ↔ total ≤ n * r.size.toNat := by
  rw [pagesFor_le_iff, UInt64.toNat_ofNat_of_lt' fits]

theorem lt_pagesFor_ofNat_iff {total : Nat} (fits : total < UInt64.size) (n : Nat) :
    n < (r.pagesFor (.ofNat total)).toNat ↔ n * r.size.toNat < total := by
  rw [← Nat.not_le, r.pagesFor_ofNat_le_iff fits, Nat.not_le]

theorem page_mul_size :
    r.page.toNat * r.size.toNat = (r.page.toNat - 1) * r.size.toNat + r.size.toNat := by
  rw [← Nat.succ_mul, Nat.succ_eq_add_one, Nat.sub_add_cancel r.page_toNat_pos]

end PageRequest

/-! ## Parts of a list -/

/-- Parts of one length, one after the other, are a beginning of the list. -/
theorem flatMap_parts {α : Type} (l : List α) (size n : Nat) :
    ((List.range n).flatMap fun i => (l.drop (i * size)).take size) = l.take (n * size) := by
  induction n with
  | zero => simp
  | succ n ih =>
    rw [List.range_succ, List.flatMap_append, ih, List.flatMap_singleton, Nat.succ_mul,
      List.take_add]

/-! ## Pages -/

namespace MemoryStore

variable (s : MemoryStore) (q : Query)

theorem fetch_all : s.fetch (q.within .all) = select s.rows q := rfl

theorem count_eq : s.count q = (s.fetch (q.within .all)).length := rfl

theorem items_fetchPage (w : Window) : (s.fetchPage q w).items = s.fetch (q.within w) := rfl

theorem count_le_size : s.count q ≤ s.size := by
  rw [count, select, sortByClauses, sortById, List.length_mergeSort, List.length_mergeSort]
  exact List.length_filter_le _ _

theorem cut_window (r : PageRequest) (rows : List Account) :
    cut r.window rows = (rows.drop ((r.page.toNat - 1) * r.size.toNat)).take r.size.toNat := by
  rw [← r.offset_toNat, ← r.limit_toNat]
  rfl

theorem length_cut_window (r : PageRequest) (rows : List Account) :
    (cut r.window rows).length =
      min r.size.toNat (rows.length - (r.page.toNat - 1) * r.size.toNat) := by
  rw [cut_window, List.length_take, List.length_drop]

theorem cut_pageWindow {size : UInt32} {k : Nat} (rows : List Account)
    (h : (k - 1) * size.toNat < UInt64.size) :
    cut (pageWindow size k) rows = (rows.drop ((k - 1) * size.toNat)).take size.toNat := by
  simp only [cut, pageWindow, UInt64.toNat_ofNat_of_lt' h, UInt32.toNat_toUInt64]

section

variable {rows : List Account} (fits : rows.length < UInt64.size) (r : PageRequest)

include fits

/-- The pages cut some rows into consecutive parts. -/
theorem flatMap_cut_pageWindow :
    (List.range (r.pagesFor (.ofNat rows.length)).toNat).flatMap
      (fun i => cut (pageWindow r.size (i + 1)) rows) = rows := by
  have hparts : ∀ i ∈ List.range (r.pagesFor (.ofNat rows.length)).toNat,
      cut (pageWindow r.size (i + 1)) rows = (rows.drop (i * r.size.toNat)).take r.size.toNat := by
    intro i hi
    have hlt := (r.lt_pagesFor_ofNat_iff fits i).mp (List.mem_range.mp hi)
    exact cut_pageWindow rows (Nat.lt_trans hlt fits)
  have hall := (r.pagesFor_ofNat_le_iff fits _).mp (Nat.le_refl _)
  rw [List.flatMap_congr hparts, flatMap_parts, List.take_of_length_le hall]

theorem length_cut_of_lt (h : r.page.toNat < (r.pagesFor (.ofNat rows.length)).toNat) :
    (cut r.window rows).length = r.size.toNat := by
  have hlt := (r.lt_pagesFor_ofNat_iff fits _).mp h
  have hpage := r.page_mul_size
  rw [length_cut_window]
  omega

theorem length_cut_of_eq (h : r.page.toNat = (r.pagesFor (.ofNat rows.length)).toNat) :
    1 ≤ (cut r.window rows).length ∧ (cut r.window rows).length ≤ r.size.toNat := by
  have hpos := r.page_toNat_pos
  have hsize := r.size_toNat_pos
  have hlt := (r.lt_pagesFor_ofNat_iff fits (r.page.toNat - 1)).mp (by omega)
  rw [length_cut_window]
  omega

theorem cut_of_pages_lt (h : (r.pagesFor (.ofNat rows.length)).toNat < r.page.toNat) :
    cut r.window rows = [] := by
  have hle := (r.pagesFor_ofNat_le_iff fits (r.page.toNat - 1)).mp (by omega)
  rw [cut_window, List.drop_of_length_le hle, List.take_nil]

end

/-- The number of rows fits a machine word in a store that itself does. -/
theorem total_toNat (fits : s.size < UInt64.size) (w : Window) :
    (s.fetchPage q w).total.toNat = s.count q :=
  UInt64.toNat_ofNat_of_lt' (Nat.lt_of_le_of_lt (s.count_le_size q) fits)

/-- The pages of a query partition its rows. A store whose size fits a machine word, as the length
of every list in memory does, reports the number of all rows with every page; the pages from the
first to the last are the rows in their order, every page before the last is full, the last one is
not empty, and behind it there is nothing. -/
theorem pages_partition (fits : s.size < UInt64.size) (r : PageRequest) :
    let rows := s.fetch (q.within .all)
    let items := fun k => (s.fetchPage q (pageWindow r.size k)).items
    let pages := (r.pagesFor (.ofNat rows.length)).toNat
    (∀ w, (s.fetchPage q w).total.toNat = rows.length ∧
      (s.fetchPage q w).items = s.fetch (q.within w)) ∧
    s.count q = rows.length ∧
    (List.range pages).flatMap (fun i => items (i + 1)) = rows ∧
    r.window = pageWindow r.size r.page.toNat ∧
    (r.page.toNat < pages → (items r.page.toNat).length = r.size.toNat) ∧
    (r.page.toNat = pages → 1 ≤ (items r.page.toNat).length ∧
      (items r.page.toNat).length ≤ r.size.toNat) ∧
    (pages < r.page.toNat → items r.page.toNat = []) := by
  intro rows items pages
  have hfit : rows.length < UInt64.size := Nat.lt_of_le_of_lt (s.count_le_size q) fits
  have hitems : items r.page.toNat = cut r.window rows :=
    congrArg (cut · rows) r.window_eq.symm
  rw [hitems]
  refine ⟨fun w => ⟨s.total_toNat q fits w, s.items_fetchPage q w⟩, s.count_eq q, ?_, r.window_eq,
    ?_, ?_, ?_⟩
  · exact flatMap_cut_pageWindow hfit r
  · exact length_cut_of_lt hfit r
  · exact length_cut_of_eq hfit r
  · exact cut_of_pages_lt hfit r

/-- Two active accounts and an archived one. -/
def sampleStore : MemoryStore :=
  empty.insertAll [{ (default : Account) with id := .ofNat 3 },
    { (default : Account) with id := .ofNat 2, archived := true },
    { (default : Account) with id := .ofNat 1 }]

theorem two_pages_of_three_accounts :
    sampleStore.size < UInt64.size ∧
    (List.range 2).flatMap (fun i =>
        (sampleStore.fetchPage .everything (pageWindow 2 (i + 1))).items) =
      sampleStore.fetch (Query.everything.within .all) := by
  have fits : sampleStore.size < UInt64.size := by decide
  have hlen : (sampleStore.fetch (Query.everything.within .all)).length = 3 := by
    rw [fetch_all, select, sortByClauses, sortById, List.length_mergeSort, List.length_mergeSort]
    decide
  have h := (sampleStore.pages_partition .everything fits ⟨2, 2, by decide, by decide⟩).2.2.1
  rw [hlen] at h
  exact ⟨fits, h⟩

end MemoryStore

end AccountRegistry
