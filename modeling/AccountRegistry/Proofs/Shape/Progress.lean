import AccountRegistry.Shape.FromText
import AccountRegistry.Proofs.Json.Progress

/-! # Progress of shapes

Whatever its shape, data takes up at least one character of its text.
-/

namespace AccountRegistry

open Json

variable {α : Type}

@[simp] theorem complainAt_ne_ok {message : String} {rest : List Char} {x : α} :
    complainAt message rest ≠ .ok x := nofun

theorem unexpected_ne_ok {expected : String} {cs : List Char} {x : α} :
    unexpected expected cs ≠ .ok x := by
  unfold unexpected
  grind [complainAt_ne_ok, stopSeeing_ne_ok, bind_eq_ok_iff]

theorem checkAt_rest {r : Except String α} {cs rest : List Char} {x : α}
    (h : checkAt r cs = .ok (x, rest)) : rest = cs := by
  unfold checkAt at h
  grind [complainAt_ne_ok]

theorem numberWith_length_lt {expected : String} {take : Number → Except String α}
    {cs rest : List Char} {x : α} (h : numberWith expected take cs = .ok (x, rest)) :
    rest.length < cs.length := by
  unfold numberWith at h
  grind [stopAt_ne_ok, bind_eq_ok_iff, → checkAt_rest, → numberBody_length_lt, unexpected_ne_ok,
    → length_lt_of_skipSpace, skipSpace_length_le]

theorem stringWith_length_lt {expected : String} {take : String → Except String α}
    {cs rest : List Char} {x : α} (h : stringWith expected take cs = .ok (x, rest)) :
    rest.length < cs.length := by
  unfold stringWith at h
  grind [stopAt_ne_ok, bind_eq_ok_iff, → checkAt_rest, → stringBody_length_lt, unexpected_ne_ok,
    → length_lt_of_skipSpace]

theorem boolean_length_lt {cs rest : List Char} {b : Bool} (h : boolean cs = .ok (b, rest)) :
    rest.length < cs.length := by
  unfold boolean at h
  grind [stopAt_ne_ok, map_eq_ok_iff, → word_length_le, unexpected_ne_ok,
    → length_lt_of_skipSpace]

theorem unit_length_lt {cs rest : List Char} {u : Unit} (h : unit cs = .ok (u, rest)) :
    rest.length < cs.length := by
  unfold unit at h
  grind [stopAt_ne_ok, → word_length_le, unexpected_ne_ok, → length_lt_of_skipSpace]

theorem label_length_lt {take : String → Except String α} {cs rest : List Char} {x : α}
    (h : label take cs = .ok (x, rest)) : rest.length < cs.length := by
  unfold label at h
  split at h
  · cases h
  · next hc =>
    have := stringWith_length_lt h
    have := hc ▸ skipSpace_length_le cs
    omega
  · next hc =>
    have := length_lt_of_skipSpace hc
    obtain ⟨⟨y, afterName⟩, hy, h⟩ := bind_eq_ok_iff.mp h
    have := stringWith_length_lt hy
    obtain ⟨⟨_, afterColon⟩, hcolon, h⟩ := bind_eq_ok_iff.mp h
    have := colon_length_lt hcolon
    obtain ⟨⟨_, afterUnit⟩, hunit, h⟩ := bind_eq_ok_iff.mp h
    have := unit_length_lt hunit
    dsimp only at h
    split at h
    · next hend =>
      cases h
      have := length_lt_of_skipSpace hend
      omega
    all_goals cases h
  · cases h

theorem leaves_enclose {n : Nat} {close : Reader Unit} {after : List Char → List Char}
    {contents : Except Fault (α × List Char)} (hcontents : Leaves n contents)
    (hclose : ∀ {cs rest u}, close cs = .ok (u, rest) → rest.length < cs.length) :
    Leaves n (enclose close after contents) := by
  unfold enclose
  split
  · next x cs =>
    rintro y rest h
    obtain ⟨⟨u, _⟩, hu, h⟩ := map_eq_ok_iff.mp h
    cases h
    exact Nat.le_of_lt (Nat.lt_of_lt_of_le (hclose hu) (hcontents x cs rfl))
  · exact .error

theorem leaves_readMembers {σ : Type} {n fuel : Nat} {step : String → σ → Reader σ} {first : Bool}
    {slots : σ} {cs : List Char}
    (hstep : ∀ k slots cs, cs.length ≤ n → Leaves n (step k slots cs)) (h : cs.length ≤ n) :
    Leaves n (readMembers step fuel first slots cs) := by
  induction fuel generalizing first slots cs with
  | zero => exact .stopSeeing
  | succ fuel ih =>
    unfold readMembers
    refine .bind (.of_le moreMembers_length_le h) fun more rest hrest => ?_
    cases more with
    | false => exact .ok hrest
    | true =>
      refine .bind (.of_le key_length_le hrest) fun k afterKey hkey => ?_
      exact (hstep k slots afterKey hkey).bind fun slots mid => ih

mutual

theorem Shape.leaves_read {n : Nat} : {α : Type} → (s : Shape α) → {depth : Nat} →
    {cs : List Char} → cs.length ≤ n + 1 → Leaves n (s.read depth cs)
  | _, .string expecting take _, _, cs, h => .of_lt_succ stringWith_length_lt h
  | _, .bool, _, cs, h => .of_lt_succ boolean_length_lt h
  | _, .natural name bound, _, cs, h => .of_lt_succ numberWith_length_lt h
  | _, .integer, _, cs, h => .of_lt_succ numberWith_length_lt h
  | _, .choice options name, _, cs, h => .of_lt_succ label_length_lt h
  | _, .option s, depth, cs, h => by
    unfold Shape.read
    split
    · next hc =>
      exact .map (.of_le word_length_le (length_le_of_skipSpace hc h)) fun _ => rfl
    · exact .map (s.leaves_read (Nat.le_trans (skipSpace_length_le cs) h)) fun _ => rfl
  | _, .list s, depth, cs, h => by
    unfold Shape.read
    split
    · exact .stopAt
    · next r hc =>
      split
      · exact .stopSeeing
      · refine leaves_enclose ?_ closeList_length_lt
        exact leaves_items (fun cs hcs => s.leaves_read (Nat.le_succ_of_le hcs))
          (length_le_of_skipSpace hc h)
    · exact fun _ _ h => absurd h unexpected_ne_ok
  | _, .record name members, depth, cs, h => by
    have hr : ∀ {c r}, skipSpace cs = c :: r → r.length ≤ n :=
      fun hc => length_le_of_skipSpace hc h
    unfold Shape.read
    split
    · exact .stopAt
    · next hc =>
      split
      · exact .stopSeeing
      · exact leaves_enclose (members.leaves_readItems (hr hc)) closeList_length_lt
    · next hc =>
      split
      · exact .stopSeeing
      · refine leaves_enclose ?_ closeObject_length_lt
        refine (leaves_readMembers (fun _ _ _ => members.leaves_accept) (hr hc)).bind
          fun slots rest hrest => ?_
        dsimp only
        split
        · exact .ok hrest
        · exact .error
    · exact fun _ _ h => absurd h unexpected_ne_ok
  | _, .refine s take _, depth, cs, h => by
    unfold Shape.read
    refine (s.leaves_read h).bind fun x rest hrest => ?_
    dsimp only
    split
    · exact .ok hrest
    · exact .error
  | _, .either name s t, depth, cs, h => by
    unfold Shape.read
    refine (leaves_value h).bind fun x rest hrest => ?_
    dsimp only
    split
    · exact .ok hrest
    · exact .error

theorem Members.leaves_readItems {n : Nat} : {α σ : Type} → (m : Members α σ) → {depth : Nat} →
    {whole : String} → {i : Nat} → {cs : List Char} → cs.length ≤ n →
    Leaves n (m.readItems depth whole i cs)
  | _, _, .nil, _, _, _, cs, h => .ok h
  | _, _, .cons key s absent _ rest, depth, whole, i, cs, h => by
    unfold Members.readItems
    refine .bind (.of_le moreItems_length_le h) fun more cs hcs => ?_
    cases more with
    | true =>
      refine (s.leaves_read (Nat.le_succ_of_le hcs)).bind fun x mid hmid => ?_
      exact (rest.leaves_readItems hmid).bind fun _ _ => .ok
    | false =>
      cases absent with
      | some x => exact (rest.leaves_readItems hcs).bind fun _ _ => .ok
      | none => exact .error

theorem Members.leaves_accept {n : Nat} : {α σ : Type} → (m : Members α σ) → {depth : Nat} →
    {k : String} → {slots : σ} → {cs : List Char} → cs.length ≤ n →
    Leaves n (m.accept depth k slots cs)
  | _, _, .nil, _, _, _, cs, h => by
    unfold Members.accept
    refine .bind (.of_lt colon_length_lt h) fun _ cs hcs => ?_
    exact .bind (.of_le skip_length_le hcs) fun _ _ => .ok
  | _, _, .cons key s absent _ rest, depth, k, (slot, slots), cs, h => by
    unfold Members.accept
    split
    · cases slot with
      | some x => exact .error
      | none =>
        refine .bind (.of_lt colon_length_lt h) fun _ cs hcs => ?_
        exact (s.leaves_read (Nat.le_succ_of_le hcs)).bind fun _ _ => .ok
    · exact (rest.leaves_accept h).bind fun _ _ => .ok

end

theorem Shape.read_length_le {s : Shape α} {depth : Nat} {c : Char} {cs rest : List Char} {x : α}
    (h : s.read depth (c :: cs) = .ok (x, rest)) : rest.length ≤ cs.length :=
  s.leaves_read (Nat.le_refl _) x rest h

end AccountRegistry
