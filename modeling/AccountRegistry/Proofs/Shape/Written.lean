import AccountRegistry.Proofs.Json.Written
import AccountRegistry.Proofs.Shape.ListText
import AccountRegistry.Shape.Write

/-! # Written data

Data is read back from the text of the value that its shape writes for it, as long as every text in
it is read back from how it is written.
-/

namespace AccountRegistry

variable {α σ : Type}

namespace Json

/-- A text that is read as `x` whatever follows, and that is neither blank at its beginning nor the
end of a list. -/
structure IsRead (item : Reader α) (text : List Char) (x : α) : Prop where
  starts : ∃ c r, text = c :: r ∧ isSpace c = false ∧ c ≠ ']'
  reads : ∀ rest, item (text ++ rest) = .ok (x, rest)

theorem skipSpace_cons {c : Char} (h : isSpace c = false) (rest : List Char) :
    skipSpace (c :: rest) = c :: rest :=
  List.dropWhile_cons_of_neg (by simp [h])

theorem isRead_stringWith {expected : String} {take : String → Except String α} {s : String}
    {x : α} (h : take s = .ok x) : IsRead (stringWith expected take) (printString s) x where
  starts := ⟨'"', _, rfl, by decide, by decide⟩
  reads rest := by
    rw [printString_eq, List.cons_append, List.append_assoc, List.singleton_append, stringWith,
      skipSpace_cons (by decide)]
    refine bind_eq_ok_iff.mpr ⟨(s, rest), stringBody_printed s rest, ?_⟩
    dsimp only
    rw [h]
    rfl

theorem isRead_label {take : String → Except String α} {s : String} {x : α} (h : take s = .ok x) :
    IsRead (label take) (printString s) x where
  starts := ⟨'"', _, rfl, by decide, by decide⟩
  reads rest := by
    rw [printString_eq, List.cons_append, label, skipSpace_cons (by decide)]
    exact (isRead_stringWith h).reads rest

theorem isRead_boolean (b : Bool) : IsRead boolean (printValue (.bool b)) b := by
  cases b with
  | false => exact ⟨⟨'f', _, rfl, by decide, by decide⟩, fun _ => rfl⟩
  | true => exact ⟨⟨'t', _, rfl, by decide, by decide⟩, fun _ => rfl⟩

/-! ## Lists -/

/-- What is written behind an item of a list. -/
def itemsTail : List Value → List Char
  | [] => [']']
  | v :: rest => ',' :: printItems (v :: rest)

theorem printItems_cons (v : Value) (rest : List Value) :
    printItems (v :: rest) = printValue v ++ itemsTail rest := by
  cases rest <;> rfl

theorem length_lt_itemsTail (vs : List Value) : vs.length < (itemsTail vs).length := by
  induction vs with
  | nil => exact Nat.one_pos
  | cons v vs ih =>
    rw [itemsTail, printItems_cons, List.length_cons, List.length_cons, List.length_append]
    omega

/-- An item goes on a list at its beginning and behind a comma. -/
theorem moreItems_text {text rest : List Char}
    (h : ∃ c r, text = c :: r ∧ isSpace c = false ∧ c ≠ ']') :
    moreItems true (text ++ rest) = .ok (true, text ++ rest) ∧
      moreItems false (',' :: (text ++ rest)) = .ok (true, text ++ rest) := by
  obtain ⟨c, r, rfl, hspace, hbracket⟩ := h
  have hskip : skipSpace (c :: r ++ rest) = c :: r ++ rest := skipSpace_cons hspace _
  have hne : c :: r ++ rest ≠ [] ∧ ∀ others, c :: r ++ rest ≠ ']' :: others :=
    ⟨List.cons_ne_nil _ _, fun _ heq => hbracket (List.cons.inj heq).1⟩
  exact ⟨moreItems_first_iff.mpr ⟨hskip, hne⟩,
    moreItems_next_iff.mpr ⟨_, skipSpace_cons (by decide) _, hskip, hne⟩⟩

variable {item : Reader α} {fuel : Nat}

theorem items_itemsTail {vs : List Value} {xs : List α} {rest : List Char}
    (h : List.Forall₂ (fun v x => IsRead item (printValue v) x) vs xs) (hfuel : vs.length < fuel) :
    items item fuel false (itemsTail vs ++ rest) = .ok (xs, ']' :: rest) := by
  induction h generalizing fuel with
  | nil =>
    obtain ⟨fuel, rfl⟩ := Nat.exists_eq_succ_of_ne_zero (Nat.ne_zero_of_lt hfuel)
    rfl
  | @cons v x vs xs hv hvs ih =>
    obtain ⟨fuel, rfl⟩ := Nat.exists_eq_succ_of_ne_zero (Nat.ne_zero_of_lt hfuel)
    rw [itemsTail, printItems_cons, List.cons_append, List.append_assoc, items]
    have hrest := ih (Nat.lt_of_succ_lt_succ hfuel)
    exact bind_eq_ok_iff.mpr ⟨_, (moreItems_text hv.starts).2, bind_eq_ok_iff.mpr ⟨_, hv.reads _,
      bind_eq_ok_iff.mpr ⟨_, hrest, rfl⟩⟩⟩

theorem items_printItems {vs : List Value} {xs : List α} {rest : List Char}
    (h : List.Forall₂ (fun v x => IsRead item (printValue v) x) vs xs) :
    items item ((printItems vs ++ rest).length + 1) true (printItems vs ++ rest) =
      .ok (xs, ']' :: rest) := by
  cases h with
  | nil => rfl
  | @cons v x vs xs hv hvs =>
    rw [printItems_cons, List.append_assoc, items]
    have hlength := length_lt_itemsTail vs
    have hfuel : vs.length < (printValue v ++ (itemsTail vs ++ rest)).length := by
      simp only [List.length_append]
      omega
    exact bind_eq_ok_iff.mpr ⟨_, (moreItems_text hv.starts).1, bind_eq_ok_iff.mpr ⟨_, hv.reads _,
      bind_eq_ok_iff.mpr ⟨_, items_itemsTail hvs hfuel, rfl⟩⟩⟩

/-! ## Objects -/

/-- What is written behind a member of an object. -/
def membersTail : List (String × Value) → List Char
  | [] => ['\x7d']
  | entry :: rest => ',' :: printMembers (entry :: rest)

theorem printMembers_cons (key : String) (v : Value) (rest : List (String × Value)) :
    printMembers ((key, v) :: rest) =
      printString key ++ ':' :: (printValue v ++ membersTail rest) := by
  cases rest <;> simp [printMembers, membersTail]

theorem length_lt_membersTail (entries : List (String × Value)) :
    entries.length < (membersTail entries).length := by
  induction entries with
  | nil => exact Nat.one_pos
  | cons entry entries ih =>
    rw [membersTail, printMembers_cons, List.length_cons, List.length_cons, List.length_append,
      List.length_cons, List.length_append]
    omega

/-- Steps that take in written members, one after the other. -/
inductive TakesIn (step : String → σ → Reader σ) : List (String × Value) → σ → σ → Prop
  | nil (s : σ) : TakesIn step [] s s
  | cons {key : String} {v : Value} {entries : List (String × Value)} {s t u : σ}
      (first : ∀ rest, step key s (':' :: (printValue v ++ rest)) = .ok (t, rest))
      (others : TakesIn step entries t u) : TakesIn step ((key, v) :: entries) s u

/-- A key goes on an object at its beginning and behind a comma. -/
theorem moreMembers_key (key : String) (rest : List Char) :
    moreMembers true (printString key ++ rest) = .ok (true, printString key ++ rest) ∧
      moreMembers false (',' :: (printString key ++ rest)) = .ok (true, printString key ++ rest) :=
  ⟨rfl, rfl⟩

theorem key_printString (s : String) (rest : List Char) :
    key (printString s ++ rest) = .ok (s, rest) := by
  rw [printString_eq, List.cons_append, List.append_assoc]
  exact stringBody_printed s rest

variable {step : String → σ → Reader σ}

theorem readMembers_membersTail {entries : List (String × Value)} {s t : σ} {rest : List Char}
    (h : TakesIn step entries s t) (hfuel : entries.length < fuel) :
    readMembers step fuel false s (membersTail entries ++ rest) = .ok (t, '\x7d' :: rest) := by
  induction h generalizing fuel with
  | nil s =>
    obtain ⟨fuel, rfl⟩ := Nat.exists_eq_succ_of_ne_zero (Nat.ne_zero_of_lt hfuel)
    rfl
  | @cons key v entries s t u first others ih =>
    obtain ⟨fuel, rfl⟩ := Nat.exists_eq_succ_of_ne_zero (Nat.ne_zero_of_lt hfuel)
    rw [membersTail, printMembers_cons, List.cons_append, List.append_assoc, List.cons_append,
      List.append_assoc, readMembers]
    have hrest := ih (Nat.lt_of_succ_lt_succ hfuel)
    exact bind_eq_ok_iff.mpr ⟨_, (moreMembers_key key _).2, bind_eq_ok_iff.mpr
      ⟨_, key_printString key _, bind_eq_ok_iff.mpr ⟨_, first _, hrest⟩⟩⟩

theorem readMembers_printMembers {entries : List (String × Value)} {s t : σ} {rest : List Char}
    (h : TakesIn step entries s t) :
    readMembers step ((printMembers entries ++ rest).length + 1) true s
      (printMembers entries ++ rest) = .ok (t, '\x7d' :: rest) := by
  cases h with
  | nil s => rfl
  | @cons key v entries s t u first others =>
    rw [printMembers_cons, List.append_assoc, List.cons_append, List.append_assoc, readMembers]
    have hlength := length_lt_membersTail entries
    have hfuel : entries.length <
        (printString key ++ ':' :: (printValue v ++ (membersTail entries ++ rest))).length := by
      simp only [List.length_append, List.length_cons]
      omega
    exact bind_eq_ok_iff.mpr ⟨_, (moreMembers_key key _).1, bind_eq_ok_iff.mpr
      ⟨_, key_printString key _, bind_eq_ok_iff.mpr
        ⟨_, first _, readMembers_membersTail others hfuel⟩⟩⟩

end Json

open Json

/-! ## Shapes -/

def Members.keys : {α σ : Type} → Members α σ → List String
  | _, _, .nil => []
  | _, _, .cons key _ _ _ rest => key :: rest.keys

mutual

/-- Data that is read back part by part where lists and records may nest less than `depth` deep.
Numbers and data of either of two shapes are left out. -/
def Shape.Restores : {α : Type} → Shape α → (depth : Nat) → α → Prop
  | _, .string _ read write, _, x => ∀ text, write x = .ok text → read text = .ok x
  | _, .bool, _, _ => True
  | _, .natural _ _, _, _ => False
  | _, .integer, _, _ => False
  | _, .choice options label, _, x => choiceOf options label (label x) = .ok x
  | _, .option s, depth, x =>
    ∀ y, x = some y → s.Restores depth y ∧ ∀ v, s.write y = .ok v → ∀ r, printValue v ≠ 'n' :: r
  | _, .list s, depth, xs => 1 < depth ∧ ∀ x ∈ xs, s.Restores (depth - 1) x
  | _, .record _ members, depth, x =>
    1 < depth ∧ members.keys.Nodup ∧ members.Restores (depth - 1) x
  | _, .refine s read write, depth, y => ∀ x, write y = .ok x → s.Restores depth x ∧ read x = .ok y
  | _, .either _ _ _, _, _ => False

/-- A member that is not written is the value for when it is missing. -/
def Members.Restores : {α σ : Type} → Members α σ → (depth : Nat) → α → Prop
  | _, _, .nil, _, _ => True
  | _, _, .cons _ s absent hidden rest, depth, (x, xs) =>
    (if hidden x then absent = some x else s.Restores depth x) ∧ rest.Restores depth xs

end

theorem Members.key_mem_of_write : {α σ : Type} → (m : Members α σ) → {x : α} →
    {entries : List (String × Value)} → m.write x = .ok entries → ∀ e ∈ entries, e.1 ∈ m.keys
  | _, _, .nil, _, _, h => by
    cases h
    exact List.forall_mem_nil _
  | _, _, .cons key s absent hidden rest, (x, xs), _, h => by
    unfold Members.write at h
    split at h
    · exact fun e he => .tail key (rest.key_mem_of_write h e he)
    · obtain ⟨v, -, h⟩ := bind_eq_ok_iff.mp h
      obtain ⟨vs, hvs, h⟩ := bind_eq_ok_iff.mp h
      cases h
      refine List.forall_mem_cons.mpr ⟨List.mem_cons_self, fun e he => ?_⟩
      exact .tail key (rest.key_mem_of_write hvs e he)

/-- Members behind the first one are taken in without it. -/
theorem Json.TakesIn.behind {β : Type} {key : String} {s : Shape α} {absent : Option α}
    {hidden : α → Bool} {rest : Members β σ} {depth : Nat} {slot : Option α} {slots filled : σ}
    {entries : List (String × Value)}
    (h : TakesIn (fun k slots cs => rest.accept depth k slots cs) entries slots filled)
    (hkey : ∀ e ∈ entries, e.1 ≠ key) :
    TakesIn (fun k slots cs => (Members.cons key s absent hidden rest).accept depth k slots cs)
      entries (slot, slots) (slot, filled) := by
  induction h with
  | nil slots => exact .nil _
  | cons first others ih =>
    obtain ⟨hfirst, hothers⟩ := List.forall_mem_cons.mp hkey
    refine .cons (fun next => ?_) (ih hothers)
    unfold Members.accept
    rw [if_neg fun heq => hfirst heq.symm]
    exact bind_eq_ok_iff.mpr ⟨_, first next, rfl⟩

theorem Shape.read_list (s : Shape α) {depth : Nat} (h : 1 < depth) (cs : List Char) :
    (Shape.list s).read depth ('[' :: cs) = enclose closeList afterList
      (items (fun cs => s.read (depth - 1) cs) (cs.length + 1) true cs) :=
  if_neg (Nat.not_le.mpr h)

theorem Shape.read_record (name : String) (members : Members α σ) {depth : Nat} (h : 1 < depth)
    (cs : List Char) :
    (Shape.record name members).read depth ('\x7b' :: cs) = enclose closeObject afterObject (do
      let (slots, cs) ←
        readMembers (fun key slots cs => members.accept (depth - 1) key slots cs) (cs.length + 1)
          true members.unread cs
      match members.finish slots with
      | .ok x => .ok (x, cs)
      | .error message => .error (complaint message cs)) :=
  if_neg (Nat.not_le.mpr h)

mutual

/-- What a shape writes is read back, whatever follows. -/
theorem Shape.isRead_of_write : {α : Type} → (s : Shape α) → {depth : Nat} → {x : α} →
    {v : Value} → s.Restores depth x → s.write x = .ok v →
    IsRead (fun cs => s.read depth cs) (printValue v) x
  | _, .string _ read write, _, x, v, hx, h => by
    obtain ⟨text, htext, rfl⟩ := map_eq_ok_iff.mp h
    exact isRead_stringWith (hx text htext)
  | _, .bool, _, b, _, _, h => by
    cases h
    exact isRead_boolean b
  | _, .choice options name, _, x, _, hx, h => by
    cases h
    exact isRead_label hx
  | _, .option s, depth, none, _, _, h => by
    cases h
    exact ⟨⟨'n', _, rfl, by decide, by decide⟩, fun _ => rfl⟩
  | _, .option s, depth, some x, v, hx, h => by
    obtain ⟨hrestores, hnull⟩ := hx x rfl
    obtain ⟨⟨c, r, hc, hspace, hbracket⟩, hreads⟩ := s.isRead_of_write hrestores h
    refine ⟨⟨c, r, hc, hspace, hbracket⟩, fun rest => ?_⟩
    have hread := hreads rest
    rw [hc, List.cons_append] at hread ⊢
    unfold Shape.read
    rw [skipSpace_cons hspace]
    split
    · next heq =>
      cases heq
      exact absurd hc (hnull v h r)
    · exact map_eq_ok_iff.mpr ⟨_, hread, rfl⟩
  | _, .list s, depth, xs, _, hlist, h => by
    obtain ⟨hdepth, hxs⟩ := hlist
    obtain ⟨vs, hvs, rfl⟩ := map_eq_ok_iff.mp h
    have hitems : List.Forall₂
        (fun v x => IsRead (fun cs => s.read (depth - 1) cs) (printValue v) x) vs xs := by
      have hwritten := mapM_eq_ok_iff.mp hvs
      clear h hvs
      induction hwritten with
      | nil => exact .nil
      | cons hv _ ih =>
        obtain ⟨hx, hxs⟩ := List.forall_mem_cons.mp hxs
        exact .cons (s.isRead_of_write hx hv) (ih hxs)
    refine ⟨⟨'[', _, rfl, by decide, by decide⟩, fun rest => ?_⟩
    rw [printValue, List.cons_append, Shape.read_list s hdepth, items_printItems hitems, enclose,
      closeList_bracket]
    rfl
  | _, .record name members, depth, x, _, hrecord, h => by
    obtain ⟨hdepth, hkeys, hx⟩ := hrecord
    obtain ⟨entries, hentries, rfl⟩ := map_eq_ok_iff.mp h
    obtain ⟨slots, hslots, hfinish⟩ := members.takesIn_of_write hx hkeys hentries
    refine ⟨⟨'\x7b', _, rfl, by decide, by decide⟩, fun rest => ?_⟩
    rw [printValue, List.cons_append, Shape.read_record name members hdepth,
      readMembers_printMembers hslots]
    simp only [bind, Except.bind, hfinish]
    rfl
  | _, .refine s read write, depth, y, v, hy, h => by
    obtain ⟨x, hwrite, hv⟩ := bind_eq_ok_iff.mp h
    obtain ⟨hx, hread⟩ := hy x hwrite
    obtain ⟨hstarts, hreads⟩ := s.isRead_of_write hx hv
    refine ⟨hstarts, fun rest => ?_⟩
    unfold Shape.read
    refine bind_eq_ok_iff.mpr ⟨_, hreads rest, ?_⟩
    dsimp only
    rw [hread]

theorem Members.takesIn_of_write : {α σ : Type} → (m : Members α σ) → {depth : Nat} → {x : α} →
    {entries : List (String × Value)} → m.Restores depth x → m.keys.Nodup →
    m.write x = .ok entries →
    ∃ slots, TakesIn (fun k slots cs => m.accept depth k slots cs) entries m.unread slots ∧
      m.finish slots = .ok x
  | _, _, .nil, _, _, _, _, _, h => by
    cases h
    exact ⟨(), .nil _, rfl⟩
  | _, _, .cons key s absent hidden rest, depth, (x, xs), entries, hmembers, hkeys, h => by
    obtain ⟨hx, hxs⟩ := hmembers
    obtain ⟨hkey, hkeys⟩ := List.nodup_cons.mp hkeys
    have hbehind {vs : List (String × Value)} (hvs : rest.write xs = .ok vs) :
        ∀ e ∈ vs, e.1 ≠ key :=
      fun e he heq => hkey (heq ▸ rest.key_mem_of_write hvs e he)
    unfold Members.write at h
    split at h
    · next hhidden =>
      rw [if_pos hhidden] at hx
      obtain ⟨slots, hslots, hfinish⟩ := rest.takesIn_of_write hxs hkeys h
      refine ⟨(none, slots), hslots.behind (hbehind h), ?_⟩
      unfold Members.finish
      rw [hx, hfinish]
      rfl
    · next hhidden =>
      rw [if_neg hhidden] at hx
      obtain ⟨v, hv, h⟩ := bind_eq_ok_iff.mp h
      obtain ⟨vs, hvs, h⟩ := bind_eq_ok_iff.mp h
      cases h
      obtain ⟨slots, hslots, hfinish⟩ := rest.takesIn_of_write hxs hkeys hvs
      refine ⟨(some x, slots), .cons (fun next => ?_) (hslots.behind (hbehind hvs)), ?_⟩
      · unfold Members.accept
        rw [if_pos rfl]
        exact bind_eq_ok_iff.mpr ⟨_, rfl, bind_eq_ok_iff.mpr
          ⟨_, (s.isRead_of_write hx hv).reads next, rfl⟩⟩
      · unfold Members.finish
        rw [hfinish]
        rfl

end

/-- Data is read back from the text of what its shape writes for it. -/
theorem Shape.parse_print {s : Shape α} {x : α} {v : Value} (hx : s.Restores maxDepth x)
    (h : s.write x = .ok v) : s.parse v.print = .ok x := by
  have hread := (s.isRead_of_write hx h).reads []
  rw [List.append_nil] at hread
  unfold Shape.parse Value.print
  rw [String.toList_ofList]
  exact bind_eq_ok_iff.mpr ⟨_, hread, rfl⟩

end AccountRegistry
