import AccountRegistry.Proofs.Account
import AccountRegistry.Proofs.Store.History

/-! # Files of written accounts

A file that accounts were written to puts exactly these accounts into a store.
-/

namespace AccountRegistry

open Json

theorem Account.parse_print {a : Account} {v : Value} (h : shape.write a = .ok v) :
    shape.parse v.print = .ok a :=
  Shape.parse_print (a.restores (by decide)) h

theorem Account.parse_print_list {accounts : List Account} {v : Value}
    (h : (Shape.list shape).write accounts = .ok v) :
    (Shape.list shape).parse v.print = .ok accounts :=
  Shape.parse_print ⟨by decide, fun a _ => a.restores (by decide)⟩ h

theorem MemoryStore.load_print {accounts : List Account} {v : Value}
    (h : (Shape.list Account.shape).write accounts = .ok v) (s : MemoryStore) (path : String) :
    s.load path (.ok v.print) = .ok (s.insertAll accounts, accounts.length) := by
  unfold load
  dsimp only
  rw [Account.parse_print_list h]

/-- Timestamps, accounts and files of accounts are read back as what was written. -/
theorem reading_undoes_writing :
    (∀ t s, Timestamp.text t = .ok s →
      Timestamp.ofText s = .ok t ∧ ∀ u, Timestamp.ofText s = .ok u → u.text = .ok s) ∧
    (∀ a v, Account.shape.write a = .ok v → Account.shape.parse v.print = .ok a) ∧
    ∀ accounts v, (Shape.list Account.shape).write accounts = .ok v →
      ∀ path, ∃ store, MemoryStore.empty.load path (.ok v.print) = .ok (store, accounts.length) ∧
        ∀ a, a ∈ store.rows ↔ LastWrite accounts a := by
  refine ⟨fun t s h => ?_, fun _ _ => Account.parse_print, fun accounts v h path => ?_⟩
  · have hread := Timestamp.ofText_of_text h
    refine ⟨hread, fun u hu => ?_⟩
    cases hread.symm.trans hu
    exact h
  · exact ⟨_, MemoryStore.load_print h _ path, fun a => MemoryStore.mem_insertAll_empty⟩

/-- An account with a quoted name, half of its bank details and an offset of its own. -/
def quotedAccount : Account :=
  { (default : Account) with
    companyName := "Ä \"1\"\n"
    bankInfo := some ⟨"Bank", none, some "Street 1"⟩
    created := ⟨1234500000, 330⟩ }

theorem reading_undoes_writing_quotedAccount :
    Timestamp.ofText "1970-01-01T05:30:01.2345+05:30" = .ok quotedAccount.created ∧
      (∃ v, Account.shape.write quotedAccount = .ok v ∧
        Account.shape.parse v.print = .ok quotedAccount) ∧
      ∃ v store, (Shape.list Account.shape).write [quotedAccount, default, quotedAccount] = .ok v ∧
        MemoryStore.empty.load "accounts.json" (.ok v.print) = .ok (store, 3) := by
  obtain ⟨htime, haccount, hload⟩ := reading_undoes_writing
  refine ⟨(htime _ _ rfl).1, ⟨_, rfl, haccount quotedAccount _ rfl⟩, ?_⟩
  obtain ⟨store, hstore, -⟩ := hload [quotedAccount, default, quotedAccount] _ rfl "accounts.json"
  exact ⟨_, store, rfl, hstore⟩

end AccountRegistry
