import AccountRegistry.Shape.FromText
import AccountRegistry.Store.RowOrder
import AccountRegistry.Store.Source

/-! # Accounts in memory

A store holds one account for each identifier, the one written last. Queries filter, sort and cut
the rows.
-/

namespace AccountRegistry

/-- Accounts, at most one with each identifier. -/
structure MemoryStore where
  rows : List Account
  distinct : rows.Pairwise fun a b => a.id ≠ b.id

/-- Writes an account over the one with its identifier, or behind all others. -/
def putRow (a : Account) : List Account → List Account
  | [] => [a]
  | b :: rest => if b.id = a.id then a :: rest else b :: putRow a rest

theorem mem_putRow_iff {a b : Account} {rows : List Account}
    (h : rows.Pairwise fun a b => a.id ≠ b.id) :
    b ∈ putRow a rows ↔ b = a ∨ b.id ≠ a.id ∧ b ∈ rows := by
  induction rows with
  | nil => simp [putRow]
  | cons c rows ih =>
    obtain ⟨hc, hrows⟩ := List.pairwise_cons.mp h
    unfold putRow
    split
    · next hid =>
      have hb : b ∈ rows → b.id ≠ a.id := fun hb he => hc b hb (hid.trans he.symm)
      rw [List.mem_cons, List.mem_cons]
      grind
    · next hid =>
      rw [List.mem_cons, List.mem_cons, ih hrows]
      grind

theorem distinct_putRow {a : Account} {rows : List Account}
    (h : rows.Pairwise fun a b => a.id ≠ b.id) :
    (putRow a rows).Pairwise fun a b => a.id ≠ b.id := by
  induction rows with
  | nil => simp [putRow]
  | cons c rest ih =>
    rw [List.pairwise_cons] at h
    by_cases hc : c.id = a.id
    · simp only [putRow, hc, if_true, List.pairwise_cons]
      exact ⟨fun b hb => hc ▸ h.1 b hb, h.2⟩
    · simp only [putRow, hc, if_false, List.pairwise_cons]
      refine ⟨fun b hb => ?_, ih h.2⟩
      rcases (mem_putRow_iff h.2).mp hb with rfl | ⟨-, hb⟩
      · exact hc
      · exact h.1 b hb

namespace MemoryStore

def empty : MemoryStore := ⟨[], .nil⟩

/-- Adds an account or replaces the one with its identifier. -/
def insert (s : MemoryStore) (a : Account) : MemoryStore :=
  ⟨putRow a s.rows, distinct_putRow s.distinct⟩

def insertAll (s : MemoryStore) (accounts : List Account) : MemoryStore := accounts.foldl insert s

/-- The name of this kind of store. -/
def backendName : String := "memory"

def size (s : MemoryStore) : Nat := s.rows.length

def isEmpty (s : MemoryStore) : Bool := s.size == 0

/-! ## Files -/

/-- What a file system gives for a file: its text, or why there is none. -/
abbrev FileText := Except String String

/-- Adds the accounts of a file, which holds a list of them, or fails as a whole. The number of
accounts in the file comes with the store. -/
def load (s : MemoryStore) (path : String) (file : FileText) :
    Except StoreError (MemoryStore × Nat) :=
  match file with
  | .error reason => .error (.internal s!"failed to read {path}: {reason}")
  | .ok text =>
    match (Shape.list Account.shape).parse text with
    | .error f => .error (.internal s!"invalid account data in {path}: {f.message text.toList}")
    | .ok accounts => .ok (s.insertAll accounts, accounts.length)

/-! ## Queries -/

/-- The rows that a query selects, in its order, its window apart. -/
def select (rows : List Account) (q : Query) : List Account :=
  sortByClauses q.order (sortById (rows.filter q.predicate.matches))

/-- The part of some rows that a window shows. -/
def cut (w : Window) (rows : List Account) : List Account :=
  let rest := rows.drop w.offset.toNat
  match w.limit with
  | some n => rest.take n.toNat
  | none => rest

def count (s : MemoryStore) (q : Query) : Nat := (select s.rows q).length

def fetch (s : MemoryStore) (q : Query) : List Account := cut q.window (select s.rows q)

/-- A window of the rows of a query, whatever window the query has, and the number of all its
rows. -/
def fetchPage (s : MemoryStore) (q : Query) (w : Window) : PageSlice :=
  let rows := select s.rows q
  ⟨.ofNat rows.length, cut w rows⟩

/-- The store as a source; its reads never fail. -/
def source (s : MemoryStore) : AccountSource where
  backendName := backendName
  fetch q := .ok (s.fetch q)
  fetchPage q w := .ok (s.fetchPage q w)

end MemoryStore

end AccountRegistry
