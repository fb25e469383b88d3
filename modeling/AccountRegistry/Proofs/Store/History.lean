import AccountRegistry.Proofs.Shape.ListText
import AccountRegistry.Proofs.Store.RowOrder
import Mathlib.Data.Finset.Card
import Mathlib.Data.List.Pairwise

/-! # Histories of a store

A store holds the account that was written last under each identifier, in whatever portions the
accounts came and whichever loads failed in between. What it answers depends on these alone.
-/

namespace AccountRegistry

/-- The last account with its identifier among some that are written one after the other. -/
def LastWrite (accounts : List Account) (a : Account) : Prop :=
  ∃ before after, accounts = before ++ a :: after ∧ ∀ b ∈ after, b.id ≠ a.id

@[simp] theorem not_lastWrite_nil (a : Account) : ¬ LastWrite [] a := by
  simp [LastWrite]

theorem lastWrite_cons {a b : Account} {accounts : List Account} :
    LastWrite (b :: accounts) a ↔
      LastWrite accounts a ∨ b = a ∧ ∀ c ∈ accounts, c.id ≠ a.id := by
  unfold LastWrite
  constructor
  · rintro ⟨_ | ⟨c, before⟩, after, h, hafter⟩
    · cases h
      exact .inr ⟨rfl, hafter⟩
    · cases h
      exact .inl ⟨before, after, rfl, hafter⟩
  · rintro (⟨before, after, rfl, hafter⟩ | ⟨rfl, hafter⟩)
    · exact ⟨b :: before, after, rfl, hafter⟩
    · exact ⟨[], accounts, rfl, hafter⟩

theorem LastWrite.mem {a : Account} {accounts : List Account} (h : LastWrite accounts a) :
    a ∈ accounts := by
  obtain ⟨before, after, rfl, -⟩ := h
  simp

theorem exists_lastWrite {a : Account} {accounts : List Account} (h : a ∈ accounts) :
    ∃ b, LastWrite accounts b ∧ b.id = a.id := by
  induction accounts generalizing a with
  | nil => cases h
  | cons c accounts ih =>
    by_cases hlater : ∃ d ∈ accounts, d.id = a.id
    · obtain ⟨d, hd, hid⟩ := hlater
      obtain ⟨b, hb, hbd⟩ := ih hd
      exact ⟨b, lastWrite_cons.mpr (.inl hb), hbd.trans hid⟩
    · have hac : a = c := (List.mem_cons.mp h).resolve_right fun hmem => hlater ⟨a, hmem, rfl⟩
      subst hac
      exact ⟨a, lastWrite_cons.mpr (.inr ⟨rfl, fun d hd hid => hlater ⟨d, hd, hid⟩⟩), rfl⟩

/-- Where no two different accounts are written under one identifier, the last writes are all. -/
theorem lastWrite_iff_mem {accounts : List Account}
    (h : ∀ a ∈ accounts, ∀ b ∈ accounts, a.id = b.id → a = b) {a : Account} :
    LastWrite accounts a ↔ a ∈ accounts := by
  refine ⟨LastWrite.mem, fun ha => ?_⟩
  obtain ⟨b, hb, hid⟩ := exists_lastWrite ha
  rwa [← h b hb.mem a ha hid]

namespace MemoryStore

/-- The account that a store holds under an identifier. -/
def get? (s : MemoryStore) (id : Uuid) : Option Account := s.rows.find? fun a => a.id == id

theorem nodup_ids (s : MemoryStore) : (s.rows.map Account.id).Nodup :=
  List.pairwise_map.mpr s.distinct

theorem eq_of_id_eq {s : MemoryStore} {a b : Account} (ha : a ∈ s.rows) (hb : b ∈ s.rows)
    (h : a.id = b.id) : a = b :=
  List.inj_on_of_nodup_map s.nodup_ids ha hb h

theorem get?_eq_some_iff {s : MemoryStore} {id : Uuid} {a : Account} :
    s.get? id = some a ↔ a.id = id ∧ a ∈ s.rows := by
  unfold get?
  constructor
  · intro h
    exact ⟨by simpa using List.find?_some h, List.mem_of_find?_eq_some h⟩
  · rintro ⟨rfl, ha⟩
    cases hb : s.rows.find? fun b => b.id == a.id with
    | none => simpa using List.find?_eq_none.mp hb a ha
    | some b =>
      have hid : b.id = a.id := by simpa using List.find?_some hb
      rw [eq_of_id_eq (List.mem_of_find?_eq_some hb) ha hid]

/-! ## Writes -/

theorem mem_insert {s : MemoryStore} {a b : Account} :
    b ∈ (s.insert a).rows ↔ b = a ∨ b.id ≠ a.id ∧ b ∈ s.rows :=
  mem_putRow_iff s.distinct

theorem mem_insertAll {s : MemoryStore} {accounts : List Account} {b : Account} :
    b ∈ (s.insertAll accounts).rows ↔
      LastWrite accounts b ∨ (∀ a ∈ accounts, a.id ≠ b.id) ∧ b ∈ s.rows := by
  induction accounts generalizing s with
  | nil => simp [insertAll]
  | cons a accounts ih =>
    rw [insertAll, List.foldl_cons, ← insertAll, ih, mem_insert, lastWrite_cons]
    grind

theorem insertAll_append (s : MemoryStore) (before after : List Account) :
    s.insertAll (before ++ after) = (s.insertAll before).insertAll after :=
  List.foldl_append

theorem mem_insertAll_empty {accounts : List Account} {b : Account} :
    b ∈ (empty.insertAll accounts).rows ↔ LastWrite accounts b := by
  simp [mem_insertAll, empty]

/-- Every identifier that was written counts once. -/
theorem size_insertAll_empty (accounts : List Account) :
    (empty.insertAll accounts).size = (accounts.map Account.id).toFinset.card := by
  have hids : ((empty.insertAll accounts).rows.map Account.id).toFinset =
      (accounts.map Account.id).toFinset := by
    ext id
    simp only [List.mem_toFinset, List.mem_map, mem_insertAll_empty]
    constructor
    · rintro ⟨a, ha, rfl⟩
      exact ⟨a, ha.mem, rfl⟩
    · rintro ⟨a, ha, rfl⟩
      exact exists_lastWrite ha
  rw [← hids, List.toFinset_card_of_nodup (nodup_ids _), List.length_map, size]

theorem isEmpty_insertAll_empty (accounts : List Account) :
    (empty.insertAll accounts).isEmpty = true ↔ accounts = [] := by
  rw [isEmpty, beq_iff_eq, size_insertAll_empty, Finset.card_eq_zero, List.toFinset_eq_empty_iff,
    List.map_eq_nil_iff]

/-! ## Loads -/

/-- A file that can be read and holds a list of accounts, all of them valid. -/
def FileText.Holds (file : FileText) (accounts : List Account) : Prop :=
  ∃ text : String, file = .ok text ∧
    Json.IsList (fun cs => Account.shape.read (Json.maxDepth - 1) cs) text.toList accounts

theorem load_eq_ok_iff {s t : MemoryStore} {path : String} {file : FileText} {n : Nat} :
    s.load path file = .ok (t, n) ↔
      ∃ accounts, file.Holds accounts ∧ t = s.insertAll accounts ∧ n = accounts.length := by
  unfold FileText.Holds
  cases file with
  | error reason => simp [load]
  | ok text =>
    simp only [← Shape.parse_list_eq_ok_iff Account.listItem, load, Except.ok.injEq]
    constructor
    · intro h
      split at h
      · cases h
      · next accounts hparse =>
        cases h
        exact ⟨accounts, ⟨text, rfl, hparse⟩, rfl, rfl⟩
    · rintro ⟨accounts, ⟨_, rfl, hparse⟩, rfl, rfl⟩
      rw [hparse]

end MemoryStore

/-! ## Histories -/

/-- One write to a store. -/
inductive StoreStep
  | insert (a : Account)
  | insertAll (accounts : List Account)
  | load (path : String) (file : MemoryStore.FileText)

namespace StoreStep

/-- The accounts that a step writes. -/
def writes : StoreStep → List Account
  | .insert a => [a]
  | .insertAll accounts => accounts
  | .load _ (.error _) => []
  | .load _ (.ok text) => ((Shape.list Account.shape).parse text).toOption.getD []

end StoreStep

/-- Everything that some steps write, in order. -/
def written (history : List StoreStep) : List Account := history.flatMap StoreStep.writes

namespace MemoryStore

/-- The store after a step; a load that fails leaves it as it was. -/
def after (s : MemoryStore) : StoreStep → MemoryStore
  | .insert a => s.insert a
  | .insertAll accounts => s.insertAll accounts
  | .load path file =>
    match s.load path file with
    | .ok (t, _) => t
    | .error _ => s

/-- The store that some steps make of an empty one. -/
def run (history : List StoreStep) : MemoryStore := history.foldl after empty

theorem after_eq_insertAll (s : MemoryStore) (step : StoreStep) :
    s.after step = s.insertAll step.writes := by
  cases step with
  | insert a => rfl
  | insertAll accounts => rfl
  | load path file =>
    cases file with
    | error reason => rfl
    | ok text =>
      cases h : (Shape.list Account.shape).parse text <;>
        simp [after, load, StoreStep.writes, h, Except.toOption, insertAll]

theorem run_eq_insertAll (history : List StoreStep) :
    run history = empty.insertAll (written history) := by
  unfold run written
  generalize empty = s
  induction history generalizing s with
  | nil => rfl
  | cons step history ih =>
    rw [List.foldl_cons, ih, after_eq_insertAll, List.flatMap_cons, insertAll_append]

/-- Two stores that answer every read alike. -/
structure SameAnswers (s t : MemoryStore) : Prop where
  size : s.size = t.size
  count : ∀ q, s.count q = t.count q
  fetch : ∀ q, s.fetch q = t.fetch q
  fetchPage : ∀ q w, s.fetchPage q w = t.fetchPage q w
  page : ∀ q r overflow, s.source.page q r overflow = t.source.page q r overflow
  findById : ∀ id, s.source.findById id = t.source.findById id
  findByNumber : ∀ number, s.source.findByNumber number = t.source.findByNumber number
  listByCompany : ∀ id, s.source.listByCompany id = t.source.listByCompany id

theorem SameAnswers.of_perm {s t : MemoryStore} (h : s.rows.Perm t.rows) : SameAnswers s t := by
  have hselect : ∀ q, select s.rows q = select t.rows q := select_of_perm t.distinct h
  have hfetch : ∀ q, s.fetch q = t.fetch q := fun q => by rw [MemoryStore.fetch, hselect]; rfl
  have hpage : ∀ q w, s.fetchPage q w = t.fetchPage q w := fun q w => by
    rw [MemoryStore.fetchPage, hselect]; rfl
  have hsource : s.source = t.source := by
    unfold source
    simp only [hfetch, hpage]
  refine ⟨h.length_eq, fun q => ?_, hfetch, hpage, ?_, ?_, ?_, ?_⟩
  · rw [MemoryStore.count, hselect]; rfl
  all_goals simp only [hsource, implies_true]

theorem perm_of_mem_iff {s t : MemoryStore} (h : ∀ a, a ∈ s.rows ↔ a ∈ t.rows) :
    s.rows.Perm t.rows :=
  (List.perm_ext_iff_of_nodup s.nodup_ids.of_map t.nodup_ids.of_map).mpr h

end MemoryStore

/-! ## Loads in a history -/

namespace StoreStep

theorem writes_load_of_holds {path : String} {file : MemoryStore.FileText}
    {accounts : List Account} (h : file.Holds accounts) :
    writes (.load path file) = accounts := by
  obtain ⟨text, rfl, hlist⟩ := h
  rw [writes, (Shape.parse_list_eq_ok_iff Account.listItem).mpr hlist]
  rfl

theorem writes_load_eq_nil {path : String} {file : MemoryStore.FileText}
    (h : ∀ accounts, ¬ file.Holds accounts) : writes (.load path file) = [] := by
  cases file with
  | error reason => rfl
  | ok text =>
    cases hparse : (Shape.list Account.shape).parse text with
    | error f => rw [writes, hparse]; rfl
    | ok accounts =>
      exact absurd ⟨text, rfl, (Shape.parse_list_eq_ok_iff Account.listItem).mp hparse⟩ (h accounts)

end StoreStep

namespace MemoryStore

theorem load_eq_error_iff {s : MemoryStore} {path : String} {file : FileText} :
    (∃ e, s.load path file = .error e) ↔ ∀ accounts, ¬ file.Holds accounts := by
  constructor
  · rintro ⟨e, he⟩ accounts hfile
    rw [load_eq_ok_iff.mpr ⟨accounts, hfile, rfl, rfl⟩] at he
    cases he
  · intro h
    cases hload : s.load path file with
    | error e => exact ⟨e, rfl⟩
    | ok r =>
      obtain ⟨accounts, hfile, -⟩ := load_eq_ok_iff.mp hload
      exact absurd hfile (h accounts)

/-- What a store holds once some accounts have been written to it, one after the other. -/
structure Reflects (s : MemoryStore) (accounts : List Account) : Prop where
  rows : ∀ a, a ∈ s.rows ↔ LastWrite accounts a
  get? : ∀ id a, s.get? id = some a ↔ a.id = id ∧ LastWrite accounts a
  size : s.size = (accounts.map Account.id).toFinset.card
  isEmpty : s.isEmpty = true ↔ accounts = []

theorem reflects_run (history : List StoreStep) : (run history).Reflects (written history) := by
  have hrows : ∀ a, a ∈ (run history).rows ↔ LastWrite (written history) a := fun a => by
    rw [run_eq_insertAll, mem_insertAll_empty]
  refine ⟨hrows, fun id a => ?_, ?_, ?_⟩
  · rw [get?_eq_some_iff, hrows]
  · rw [run_eq_insertAll, size_insertAll_empty]
  · rw [run_eq_insertAll, isEmpty_insertAll_empty]

/-- A load inserts all accounts of its file in order, or fails and leaves the store as it was. -/
structure LoadsWholly (s : MemoryStore) (path : String) (file : FileText) : Prop where
  load_eq_ok_iff : ∀ t n, s.load path file = .ok (t, n) ↔
    ∃ accounts, file.Holds accounts ∧ t = accounts.foldl insert s ∧ n = accounts.length
  load_eq_error_iff : (∃ e, s.load path file = .error e) ↔ ∀ accounts, ¬ file.Holds accounts
  of_holds : ∀ accounts, file.Holds accounts →
    s.after (.load path file) = accounts.foldl insert s ∧
      StoreStep.writes (.load path file) = accounts
  of_not_holds : (∀ accounts, ¬ file.Holds accounts) →
    s.after (.load path file) = s ∧ StoreStep.writes (.load path file) = []

theorem loadsWholly (s : MemoryStore) (path : String) (file : FileText) :
    s.LoadsWholly path file := by
  refine ⟨fun _ _ => load_eq_ok_iff, load_eq_error_iff, fun accounts h => ?_, fun h => ?_⟩
  · have hwrites : StoreStep.writes (.load path file) = accounts :=
      StoreStep.writes_load_of_holds h
    exact ⟨by rw [after_eq_insertAll, hwrites, insertAll], hwrites⟩
  · have hwrites : StoreStep.writes (.load path file) = [] := StoreStep.writes_load_eq_nil h
    exact ⟨by rw [after_eq_insertAll, hwrites, insertAll, List.foldl_nil], hwrites⟩

/-- A store holds under each identifier the account written there last, and a load adds its whole
file or nothing. Whatever histories end in the same last writes, and however their rows are
arranged, every read is answered alike. -/
theorem run_holds_last_writes (history : List StoreStep) :
    (run history).Reflects (written history) ∧
    (∀ path file, (run history).LoadsWholly path file) ∧
    ∀ (history' : List StoreStep) (s t : MemoryStore),
      (∀ a, LastWrite (written history) a ↔ LastWrite (written history') a) →
      s.rows.Perm (run history).rows → t.rows.Perm (run history').rows → SameAnswers s t := by
  refine ⟨reflects_run history, loadsWholly _, fun history' s t h hs ht => ?_⟩
  refine .of_perm (hs.trans (.trans (perm_of_mem_iff fun a => ?_) ht.symm))
  rw [(reflects_run history).rows, (reflects_run history').rows, h]

theorem run_holds_last_writes_twice :
    let a : Account := default
    let b : Account := { a with id := ⟨1⟩ }
    let archived : Account := { a with archived := true }
    SameAnswers
      (run [.insert a, .load "accounts.json" (.error "no such file"), .insertAll [b, archived],
        .load "empty.json" (.ok "[{}]")])
      (run [.insertAll [archived, b]]) := by
  intro a b archived
  refine (run_holds_last_writes _).2.2 _ _ _ (fun c => ?_) (.refl _) (.refl _)
  have hwritten : written [.insert a, .load "accounts.json" (.error "no such file"),
      .insertAll [b, archived], .load "empty.json" (.ok "[{}]")] = [a, b, archived] := by
    rfl
  have hid : a.id ≠ b.id := by decide
  have hwritten' : written [.insertAll [archived, b]] = [archived, b] := rfl
  have harchived : archived.id = a.id := rfl
  rw [hwritten, hwritten']
  simp only [lastWrite_cons, not_lastWrite_nil, List.forall_mem_cons]
  grind

end MemoryStore

end AccountRegistry
