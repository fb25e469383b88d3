import AccountRegistry.Proofs.Shape.Progress

/-! # What shapes contain

Data read from a text is data that its shape describes: every part of it comes from the reading that
the shape gives for that part, or is a value for a missing member.
-/

namespace AccountRegistry

open Json

mutual

/-- Data that a shape describes. -/
def Shape.Contains : {α : Type} → Shape α → α → Prop
  | _, .string _ read _, x => ∃ s, read s = .ok x
  | _, .bool, _ => True
  | _, .natural _ bound, n => n ≤ bound
  | _, .integer, _ => True
  | _, .choice options _, x => x ∈ options
  | _, .option s, x => ∀ y, x = some y → s.Contains y
  | _, .list s, xs => ∀ x ∈ xs, s.Contains x
  | _, .record _ members, x => members.Contains x
  | _, .refine s read _, y => ∃ x, s.Contains x ∧ read x = .ok y
  | _, .either name s t, x => ∃ v, (Shape.either name s t).ofValue v = .ok x

def Members.Contains : {α σ : Type} → Members α σ → α → Prop
  | _, _, .nil, _ => True
  | _, _, .cons _ s absent _ rest, (x, xs) => (s.Contains x ∨ absent = some x) ∧ rest.Contains xs

end

/-- Some members of a record have been read, and are what the shape describes. -/
def Members.ContainsRead : {α σ : Type} → Members α σ → σ → Prop
  | _, _, .nil, _ => True
  | _, _, .cons _ s _ _ rest, (slot, slots) =>
    (∀ x, slot = some x → s.Contains x) ∧ rest.ContainsRead slots

theorem Members.containsRead_unread : {α σ : Type} → (m : Members α σ) → m.ContainsRead m.unread
  | _, _, .nil => trivial
  | _, _, .cons _ _ _ _ rest => ⟨nofun, rest.containsRead_unread⟩

theorem Members.contains_of_finish : {α σ : Type} → (m : Members α σ) → {slots : σ} → {xs : α} →
    m.ContainsRead slots → m.finish slots = .ok xs → m.Contains xs
  | _, _, .nil, _, _, _, _ => trivial
  | _, _, .cons key s absent _ rest, (slot, slots), (x, xs), hread, h => by
    obtain ⟨hslot, hslots⟩ := hread
    have hmember {y} (h : (do let ys ← rest.finish slots; return (y, ys)) = .ok (x, xs)) :
        y = x ∧ rest.Contains xs := by
      obtain ⟨ys, hys, h⟩ := bind_eq_ok_iff.mp h
      cases h
      exact ⟨rfl, rest.contains_of_finish hslots hys⟩
    cases slot with
    | some y =>
      obtain ⟨rfl, hrest⟩ := hmember h
      exact ⟨.inl (hslot _ rfl), hrest⟩
    | none =>
      cases absent with
      | some y =>
        obtain ⟨rfl, hrest⟩ := hmember h
        exact ⟨.inr rfl, hrest⟩
      | none => cases h

namespace Json

variable {α β : Type}

/-- A reading that gives only such data, if it succeeds. -/
def Gives (p : α → Prop) (r : Except Fault (α × List Char)) : Prop :=
  ∀ x rest, r = .ok (x, rest) → p x

namespace Gives

variable {p : α → Prop} {q : β → Prop} {r : Except Fault (α × List Char)}

theorem ok {x : α} {rest : List Char} (h : p x) : Gives p (.ok (x, rest)) := by
  rintro _ _ ⟨⟩
  exact h

theorem error {f : Fault} : Gives p (.error f) := nofun

theorem bind {f : α × List Char → Except Fault (β × List Char)} (h : Gives p r)
    (hf : ∀ x rest, p x → Gives q (f (x, rest))) : Gives q (r >>= f) := by
  intro y rest hy
  obtain ⟨⟨x, mid⟩, hx, hy⟩ := bind_eq_ok_iff.mp hy
  exact hf x mid (h x mid hx) y rest hy

theorem map {f : α × List Char → β × List Char} (h : Gives p r) (hf : ∀ c, p c.1 → q (f c).1) :
    Gives q (r.map f) := by
  intro y rest hy
  obtain ⟨⟨x, mid⟩, hx, hy⟩ := map_eq_ok_iff.mp hy
  have hq := hf (x, mid) (h x mid hx)
  rwa [hy] at hq

/-- A reading of whatever kind. -/
theorem any : Gives (fun _ => True) r := fun _ _ _ => trivial

theorem checkAt {r : Except String α} {cs : List Char} (h : ∀ x, r = .ok x → p x) :
    Gives p (checkAt r cs) := by
  unfold AccountRegistry.checkAt
  split
  · exact ok (h _ rfl)
  · exact error

theorem unexpected {expected : String} {cs : List Char} :
    Gives p (AccountRegistry.unexpected expected cs) :=
  fun _ _ h => absurd h unexpected_ne_ok

theorem enclose {close : Reader Unit} {after : List Char → List Char} (h : Gives p r) :
    Gives p (AccountRegistry.enclose close after r) := by
  unfold AccountRegistry.enclose
  split
  · next x cs =>
    intro y rest hy
    obtain ⟨_, -, hy⟩ := map_eq_ok_iff.mp hy
    cases hy
    exact h x cs rfl
  · exact error

end Gives

variable {p : α → Prop}

theorem gives_numberWith {expected : String} {take : Number → Except String α} {cs : List Char}
    (h : ∀ n x, take n = .ok x → p x) : Gives p (numberWith expected take cs) := by
  unfold numberWith
  split
  · exact .error
  · exact Gives.any.bind fun n rest _ => .checkAt (h n)
  · split
    · exact Gives.any.bind fun n rest _ => .checkAt (h n)
    · exact .unexpected

theorem gives_stringWith {expected : String} {take : String → Except String α} {cs : List Char}
    (h : ∀ s x, take s = .ok x → p x) : Gives p (stringWith expected take cs) := by
  unfold stringWith
  split
  · exact .error
  · exact Gives.any.bind fun s rest _ => .checkAt (h s)
  · exact .unexpected

theorem gives_label {take : String → Except String α} {cs : List Char}
    (h : ∀ s x, take s = .ok x → p x) : Gives p (label take cs) := by
  unfold label
  split
  · exact .error
  · exact gives_stringWith h
  · refine (gives_stringWith h).bind fun x rest hx => ?_
    refine Gives.any.bind fun _ rest _ => Gives.any.bind fun _ rest _ => ?_
    dsimp only
    split
    · exact .ok hx
    · exact .error
    · exact .error
  · exact .error

theorem gives_items {item : Reader α} (h : ∀ cs, Gives p (item cs)) {fuel : Nat} {first : Bool}
    {cs : List Char} : Gives (fun xs => ∀ x ∈ xs, p x) (items item fuel first cs) := by
  induction fuel generalizing first cs with
  | zero => exact .error
  | succ fuel ih =>
    unfold items
    refine Gives.any.bind fun more cs _ => ?_
    cases more with
    | false => exact .ok (List.forall_mem_nil p)
    | true =>
      refine (h cs).bind fun x mid hx => ih.bind fun xs rest hxs => ?_
      exact .ok (List.forall_mem_cons.mpr ⟨hx, hxs⟩)

theorem gives_readMembers {σ : Type} {p : σ → Prop} {step : String → σ → Reader σ}
    (h : ∀ k slots cs, p slots → Gives p (step k slots cs)) {fuel : Nat} {first : Bool} {slots : σ}
    {cs : List Char} (hslots : p slots) : Gives p (readMembers step fuel first slots cs) := by
  induction fuel generalizing first slots cs with
  | zero => exact .error
  | succ fuel ih =>
    unfold readMembers
    refine Gives.any.bind fun more cs _ => ?_
    cases more with
    | false => exact .ok hslots
    | true =>
      refine Gives.any.bind fun k cs _ => ?_
      exact (h k slots cs hslots).bind fun slots rest hslots => ih hslots

end Json

mutual

theorem Shape.gives_read : {α : Type} → (s : Shape α) → {depth : Nat} → {cs : List Char} →
    Gives s.Contains (s.read depth cs)
  | _, .string expecting take _, _, cs => gives_stringWith fun s _ h => ⟨s, h⟩
  | _, .bool, _, cs => .any
  | _, .natural name bound, _, cs => gives_numberWith fun n x h => by
    unfold naturalOf at h
    split at h
    · split at h
      · next hle =>
        cases h
        exact hle
      · cases h
    · cases h
    · cases h
  | _, .integer, _, cs => .any
  | _, .choice options name, _, cs => gives_label fun s x h => by
    unfold choiceOf at h
    split at h
    · next hfind =>
      cases h
      exact List.mem_of_find?_eq_some hfind
    · cases h
  | _, .option s, depth, cs => by
    unfold Shape.read
    split
    · exact Gives.any.map fun _ _ => nofun
    · refine s.gives_read.map fun c hc x hx => ?_
      cases hx
      exact hc
  | _, .list s, depth, cs => by
    unfold Shape.read
    split
    · exact .error
    · split
      · exact .error
      · exact .enclose (gives_items fun cs => s.gives_read)
    · exact .unexpected
  | _, .record name members, depth, cs => by
    unfold Shape.read
    split
    · exact .error
    · split
      · exact .error
      · exact .enclose members.gives_readItems
    · split
      · exact .error
      · refine .enclose (p := members.Contains) ?_
        refine (gives_readMembers (fun _ _ _ => members.gives_accept)
          members.containsRead_unread).bind fun slots rest hslots => ?_
        dsimp only
        split
        · next hfinish => exact .ok (members.contains_of_finish hslots hfinish)
        · exact .error
    · exact .unexpected
  | _, .refine s take _, depth, cs => by
    unfold Shape.read
    refine s.gives_read.bind fun x rest hx => ?_
    dsimp only
    split
    · next htake => exact .ok ⟨x, hx, htake⟩
    · exact .error
  | _, .either name s t, depth, cs => by
    unfold Shape.read
    refine Gives.any.bind fun v rest _ => ?_
    dsimp only
    split
    · next hvalue => exact .ok ⟨v, hvalue⟩
    · exact .error

theorem Members.gives_readItems : {α σ : Type} → (m : Members α σ) → {depth : Nat} →
    {whole : String} → {i : Nat} → {cs : List Char} →
    Gives m.Contains (m.readItems depth whole i cs)
  | _, _, .nil, _, _, _, _ => .ok trivial
  | _, _, .cons key s absent _ rest, depth, whole, i, cs => by
    unfold Members.readItems
    refine Gives.any.bind fun more cs _ => ?_
    cases more with
    | true =>
      refine s.gives_read.bind fun x mid hx => ?_
      exact rest.gives_readItems.bind fun xs _ hxs => .ok ⟨.inl hx, hxs⟩
    | false =>
      cases absent with
      | some x => exact rest.gives_readItems.bind fun xs _ hxs => .ok ⟨.inr rfl, hxs⟩
      | none => exact .error

theorem Members.gives_accept : {α σ : Type} → (m : Members α σ) → {depth : Nat} → {k : String} →
    {slots : σ} → {cs : List Char} → m.ContainsRead slots →
    Gives m.ContainsRead (m.accept depth k slots cs)
  | _, _, .nil, _, _, _, _, _ => fun _ _ _ => trivial
  | _, _, .cons key s absent _ rest, depth, k, (slot, slots), cs, h => by
    unfold Members.accept
    split
    · cases slot with
      | some x => exact .error
      | none =>
        refine Gives.any.bind fun _ cs _ => s.gives_read.bind fun x _ hx => ?_
        exact .ok ⟨fun _ hy => Option.some.inj hy ▸ hx, h.2⟩
    · exact (rest.gives_accept h.2).bind fun slots _ hslots => .ok ⟨h.1, hslots⟩

end

/-- What is read from a text is what the shape describes. -/
theorem Shape.contains_of_parse {α : Type} {s : Shape α} {text : String} {x : α}
    (h : s.parse text = .ok x) : s.Contains x := by
  obtain ⟨⟨y, rest⟩, hread, h⟩ := bind_eq_ok_iff.mp h
  obtain ⟨_, -, h⟩ := bind_eq_ok_iff.mp h
  cases h
  exact s.gives_read _ _ hread

end AccountRegistry
