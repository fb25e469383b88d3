import AccountRegistry.Account
import AccountRegistry.Proofs.Shape.Progress

/-! # Texts of lists

Which texts are lists of given data: brackets around elements with commas between them, and blanks.
Exactly these are read as lists.
-/

namespace AccountRegistry

variable {α : Type}

namespace Json

variable {item : Reader α}

/-- What follows an element of a list: its closing bracket, or a comma and further elements. -/
inductive ListTail (item : Reader α) : List Char → List α → List Char → Prop
  | close {cs rest : List Char} (bracket : skipSpace cs = ']' :: rest) :
      ListTail item cs [] rest
  | comma {cs next mid rest : List Char} {x : α} {xs : List α} (comma : skipSpace cs = ',' :: next)
      (element : item (skipSpace next) = .ok (x, mid)) (others : ListTail item mid xs rest) :
      ListTail item cs (x :: xs) rest

/-- What follows the opening bracket of a list. -/
inductive ListBody (item : Reader α) : List Char → List α → List Char → Prop
  | close {cs rest : List Char} (bracket : skipSpace cs = ']' :: rest) : ListBody item cs [] rest
  | first {cs mid rest : List Char} {x : α} {xs : List α}
      (element : item (skipSpace cs) = .ok (x, mid)) (others : ListTail item mid xs rest) :
      ListBody item cs (x :: xs) rest

/-- A text with nothing but a list in it, blanks apart. -/
def IsList (item : Reader α) (text : List Char) (xs : List α) : Prop :=
  ∃ inner rest, skipSpace text = '[' :: inner ∧ ListBody item inner xs rest ∧ skipSpace rest = []

/-- A reader that can tell the end of a list from an element, of which each takes up some text. -/
structure ListItem (item : Reader α) : Prop where
  nil : ∀ p, item [] ≠ .ok p
  bracket : ∀ cs p, item (']' :: cs) ≠ .ok p
  advances : ∀ c cs x rest, item (c :: cs) = .ok (x, rest) → rest.length ≤ cs.length

theorem moreItems_eq_false_iff {first : Bool} {cs rest : List Char} :
    moreItems first cs = .ok (false, rest) ↔ ∃ r, skipSpace cs = ']' :: r ∧ rest = ']' :: r := by
  unfold moreItems
  grind [stopAt_ne_ok, stopSeeing_ne_ok]

theorem moreItems_first_iff {cs rest : List Char} :
    moreItems true cs = .ok (true, rest) ↔
      skipSpace cs = rest ∧ rest ≠ [] ∧ ∀ r, rest ≠ ']' :: r := by
  unfold moreItems
  grind [stopAt_ne_ok, stopSeeing_ne_ok]

theorem moreItems_next_iff {cs rest : List Char} :
    moreItems false cs = .ok (true, rest) ↔
      ∃ next, skipSpace cs = ',' :: next ∧ skipSpace next = rest ∧ rest ≠ [] ∧
        ∀ r, rest ≠ ']' :: r := by
  unfold moreItems
  grind [stopAt_ne_ok, stopSeeing_ne_ok]

/-- An element takes up some of the text, so that less fuel is enough for those after it. -/
theorem ListItem.length_lt (hitem : ListItem item) {cs rest : List Char} {x : α}
    (h : item (skipSpace cs) = .ok (x, rest)) : rest.length < cs.length := by
  have hle := skipSpace_length_le cs
  cases hc : skipSpace cs with
  | nil => exact absurd (hc ▸ h) (hitem.nil _)
  | cons c r =>
    rw [hc] at h hle
    exact Nat.lt_of_le_of_lt (hitem.advances c r x rest h) hle

theorem listTail_of_items {fuel : Nat} {cs close : List Char} {xs : List α}
    (h : items item fuel false cs = .ok (xs, close)) :
    ∃ rest, close = ']' :: rest ∧ ListTail item cs xs rest := by
  induction fuel generalizing cs xs with
  | zero => cases h
  | succ fuel ih =>
    unfold items at h
    obtain ⟨⟨more, start⟩, hmore, h⟩ := bind_eq_ok_iff.mp h
    cases more with
    | false =>
      obtain ⟨r, hr, rfl⟩ := moreItems_eq_false_iff.mp hmore
      cases h
      exact ⟨r, rfl, .close hr⟩
    | true =>
      obtain ⟨next, hnext, rfl, -⟩ := moreItems_next_iff.mp hmore
      obtain ⟨⟨x, mid⟩, hx, h⟩ := bind_eq_ok_iff.mp h
      obtain ⟨⟨xs, end_⟩, hxs, h⟩ := bind_eq_ok_iff.mp h
      cases h
      obtain ⟨rest, rfl, hrest⟩ := ih hxs
      exact ⟨rest, rfl, .comma hnext hx hrest⟩

theorem listBody_of_items {fuel : Nat} {cs close : List Char} {xs : List α}
    (h : items item fuel true cs = .ok (xs, close)) :
    ∃ rest, close = ']' :: rest ∧ ListBody item cs xs rest := by
  cases fuel with
  | zero => cases h
  | succ fuel =>
    unfold items at h
    obtain ⟨⟨more, start⟩, hmore, h⟩ := bind_eq_ok_iff.mp h
    cases more with
    | false =>
      obtain ⟨r, hr, rfl⟩ := moreItems_eq_false_iff.mp hmore
      cases h
      exact ⟨r, rfl, .close hr⟩
    | true =>
      obtain ⟨rfl, -⟩ := moreItems_first_iff.mp hmore
      obtain ⟨⟨x, mid⟩, hx, h⟩ := bind_eq_ok_iff.mp h
      obtain ⟨⟨xs, end_⟩, hxs, h⟩ := bind_eq_ok_iff.mp h
      cases h
      obtain ⟨rest, rfl, hrest⟩ := listTail_of_items hxs
      exact ⟨rest, rfl, .first hx hrest⟩

theorem ListItem.start_ne (hitem : ListItem item) {cs : List Char} {p : α × List Char}
    (h : item cs = .ok p) : cs ≠ [] ∧ ∀ r, cs ≠ ']' :: r := by
  constructor
  · rintro rfl
    exact hitem.nil p h
  · rintro r rfl
    exact hitem.bracket r p h

theorem items_of_listTail (hitem : ListItem item) {fuel : Nat} {cs rest : List Char}
    {xs : List α} (h : ListTail item cs xs rest) (hfuel : cs.length < fuel) :
    items item fuel false cs = .ok (xs, ']' :: rest) := by
  -- Every comma and every element shortens the text by at least the fuel it takes.
  induction h generalizing fuel with
  | close bracket =>
    obtain ⟨fuel, rfl⟩ := Nat.exists_eq_succ_of_ne_zero (Nat.ne_zero_of_lt hfuel)
    unfold items
    exact bind_eq_ok_iff.mpr ⟨_, moreItems_eq_false_iff.mpr ⟨_, bracket, rfl⟩, rfl⟩
  | @comma cs next mid rest x xs comma element others ih =>
    obtain ⟨fuel, rfl⟩ := Nat.exists_eq_succ_of_ne_zero (Nat.ne_zero_of_lt hfuel)
    have hmore := moreItems_next_iff.mpr ⟨_, comma, rfl, hitem.start_ne element⟩
    have hmid : mid.length < fuel := by
      have := length_lt_of_skipSpace comma
      have := hitem.length_lt element
      omega
    have hothers := ih hmid
    unfold items
    exact bind_eq_ok_iff.mpr ⟨_, hmore, bind_eq_ok_iff.mpr ⟨_, element,
      bind_eq_ok_iff.mpr ⟨_, hothers, rfl⟩⟩⟩

theorem items_of_listBody (hitem : ListItem item) {cs rest : List Char} {xs : List α}
    (h : ListBody item cs xs rest) :
    items item (cs.length + 1) true cs = .ok (xs, ']' :: rest) := by
  unfold items
  cases h with
  | close bracket =>
    exact bind_eq_ok_iff.mpr ⟨_, moreItems_eq_false_iff.mpr ⟨_, bracket, rfl⟩, rfl⟩
  | first element others =>
    have hmore := moreItems_first_iff.mpr ⟨rfl, hitem.start_ne element⟩
    have hothers := items_of_listTail hitem others (hitem.length_lt element)
    exact bind_eq_ok_iff.mpr ⟨_, hmore, bind_eq_ok_iff.mpr ⟨_, element,
      bind_eq_ok_iff.mpr ⟨_, hothers, rfl⟩⟩⟩

theorem skipSpace_bracket (rest : List Char) : skipSpace (']' :: rest) = ']' :: rest :=
  List.dropWhile_cons_of_neg (by decide)

theorem closeList_bracket (rest : List Char) : closeList (']' :: rest) = .ok ((), rest) := by
  unfold closeList
  rw [skipSpace_bracket]
  rfl

end Json

open Json

/-- A list of data is read from a text exactly when the text is such a list. -/
theorem Shape.parse_list_eq_ok_iff {s : Shape α}
    (hitem : ListItem fun cs => s.read (maxDepth - 1) cs) {text : String} {xs : List α} :
    (Shape.list s).parse text = .ok xs ↔
      IsList (fun cs => s.read (maxDepth - 1) cs) text.toList xs := by
  unfold Shape.parse IsList
  rw [bind_eq_ok_iff]
  constructor
  · rintro ⟨⟨ys, rest⟩, hread, h⟩
    obtain ⟨⟨⟩, hend, h⟩ := bind_eq_ok_iff.mp h
    cases h
    unfold Shape.read at hread
    split at hread
    · cases hread
    · next inner hinner =>
      rw [if_neg (by decide)] at hread
      unfold enclose at hread
      split at hread
      · next close hitems =>
        obtain ⟨_, rfl, hbody⟩ := listBody_of_items hitems
        rw [closeList_bracket] at hread
        cases hread
        exact ⟨inner, _, hinner, hbody, endOfText_eq_ok_iff.mp hend⟩
      · cases hread
    · exact absurd hread unexpected_ne_ok
  · rintro ⟨inner, rest, hinner, hbody, hend⟩
    refine ⟨(xs, rest), ?_, bind_eq_ok_iff.mpr ⟨(), endOfText_eq_ok_iff.mpr hend, rfl⟩⟩
    unfold Shape.read
    rw [hinner]
    change enclose closeList afterList (items _ (inner.length + 1) true inner) = _
    rw [items_of_listBody hitem hbody, enclose, closeList_bracket]
    rfl

theorem Account.listItem : ListItem fun cs => Account.shape.read (maxDepth - 1) cs where
  nil _ := nofun
  bracket cs p h := by
    unfold Account.shape Shape.mapTo Shape.read at h
    obtain ⟨q, hq, -⟩ := bind_eq_ok_iff.mp h
    unfold Shape.read at hq
    rw [skipSpace_bracket] at hq
    exact unexpected_ne_ok hq
  advances _ _ _ _ h := Shape.read_length_le h

end AccountRegistry
