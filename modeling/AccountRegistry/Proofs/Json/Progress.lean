import AccountRegistry.Json.Skip
import AccountRegistry.Proofs.Result

/-! # Progress of readers

A reader leaves no more of a text than it was given, and less where it reads a lexeme. So the fuel
that containers are read with, one more than the length of the text, never runs out.
-/

namespace AccountRegistry.Json

variable {α β : Type}

/-- A reading that leaves at most `n` characters, if it succeeds. -/
def Leaves (n : Nat) (r : Except Fault (α × List Char)) : Prop :=
  ∀ x rest, r = .ok (x, rest) → rest.length ≤ n

namespace Leaves

variable {n m : Nat} {r : Except Fault (α × List Char)}

theorem of_le {cs : List Char} (h : ∀ {x rest}, r = .ok (x, rest) → rest.length ≤ cs.length)
    (hcs : cs.length ≤ n) : Leaves n r :=
  fun _ _ hr => Nat.le_trans (h hr) hcs

theorem of_lt {cs : List Char} (h : ∀ {x rest}, r = .ok (x, rest) → rest.length < cs.length)
    (hcs : cs.length ≤ n) : Leaves n r :=
  of_le (fun hr => Nat.le_of_lt (h hr)) hcs

/-- What takes up a character can be given one more. -/
theorem of_lt_succ {cs : List Char} (h : ∀ {x rest}, r = .ok (x, rest) → rest.length < cs.length)
    (hcs : cs.length ≤ n + 1) : Leaves n r :=
  fun _ _ hr => Nat.le_of_lt_succ (Nat.lt_of_lt_of_le (h hr) hcs)

theorem ok {x : α} {rest : List Char} (h : rest.length ≤ n) : Leaves n (.ok (x, rest)) := by
  rintro _ _ ⟨⟩
  exact h

theorem error {f : Fault} : Leaves (α := α) n (.error f) := nofun

theorem stopAt {c : Cause} {rest : List Char} {ahead : Nat} :
    Leaves (α := α) n (stopAt c rest ahead) := nofun

theorem stopSeeing {c : Cause} {rest : List Char} : Leaves (α := α) n (stopSeeing c rest) := nofun

theorem bind {f : α × List Char → Except Fault (β × List Char)} (h : Leaves n r)
    (hf : ∀ x rest, rest.length ≤ n → Leaves m (f (x, rest))) : Leaves m (r >>= f) := by
  intro y rest hy
  obtain ⟨⟨x, mid⟩, hx, hy⟩ := bind_eq_ok_iff.mp hy
  exact hf x mid (h x mid hx) y rest hy

theorem map {f : α × List Char → β × List Char} (h : Leaves n r) (hf : ∀ p, (f p).2 = p.2) :
    Leaves n (r.map f) := by
  intro y rest hy
  obtain ⟨⟨x, mid⟩, hx, hy⟩ := map_eq_ok_iff.mp hy
  have := h x mid hx
  have := hf (x, mid)
  grind

end Leaves

/-! ## Lexemes -/

theorem skipSpace_length_le (cs : List Char) : (skipSpace cs).length ≤ cs.length :=
  (List.dropWhile_sublist _).length_le

theorem length_lt_of_skipSpace {cs r : List Char} {c : Char} (h : skipSpace cs = c :: r) :
    r.length < cs.length := by
  have hle := skipSpace_length_le cs
  rw [h] at hle
  exact hle

theorem length_le_of_skipSpace {n : Nat} {cs r : List Char} {c : Char} (h : skipSpace cs = c :: r)
    (hcs : cs.length ≤ n + 1) : r.length ≤ n :=
  Nat.le_of_lt_succ (Nat.lt_of_lt_of_le (length_lt_of_skipSpace h) hcs)

theorem afterDigits_length_le (cs : List Char) : (afterDigits cs).length ≤ cs.length :=
  (List.dropWhile_sublist _).length_le

@[simp] theorem stopAt_ne_ok {c : Cause} {rest : List Char} {n : Nat} {x : α} :
    stopAt c rest n ≠ .ok x := nofun

@[simp] theorem stopSeeing_ne_ok {c : Cause} {rest : List Char} {x : α} :
    stopSeeing c rest ≠ .ok x := nofun

@[simp] theorem noHexQuad_ne_ok {rest : List Char} {x : α} : noHexQuad rest ≠ .ok x := by
  unfold noHexQuad
  split <;> simp

@[simp] theorem noLowSurrogate_ne_ok {rest : List Char} {x : α} : noLowSurrogate rest ≠ .ok x := by
  fun_cases noLowSurrogate rest <;> simp

theorem word_length_le {es cs rest : List Char} {u : Unit} (h : word es cs = .ok (u, rest)) :
    rest.length ≤ cs.length := by
  fun_induction word es cs <;> grind [stopAt_ne_ok]

theorem stringBody_length_lt {done cs rest : List Char} {s : String}
    (h : stringBody done cs = .ok (s, rest)) : rest.length < cs.length := by
  fun_induction stringBody done cs <;> simp_all <;> omega

theorem floatOfParts_rest {positive : Bool} {n : Nat} {e : Int} {cs rest : List Char} {x : Float}
    (h : floatOfParts positive n e cs = .ok (x, rest)) : rest = cs := by
  unfold floatOfParts at h
  split at h <;> simp_all

theorem exponentDigits_length_le (n : Nat) (cs : List Char) :
    (exponentDigits n cs).2.length ≤ cs.length := by
  fun_induction exponentDigits n cs with
  | case2 => simp_all; omega
  | _ => simp_all

theorem exponentPart_length_le {positive : Bool} {n : Nat} {e : Int} {cs rest : List Char}
    {x : Float} (h : exponentPart positive n e cs = .ok (x, rest)) : rest.length ≤ cs.length := by
  unfold exponentPart at h
  grind [exponentDigits_length_le, → floatOfParts_rest, afterDigits_length_le, stopAt_ne_ok]

theorem fractionPart_length_le {positive : Bool} {n : Nat} {e : Int} {cs rest : List Char}
    {x : Float} (h : fractionPart positive n e cs = .ok (x, rest)) : rest.length ≤ cs.length := by
  unfold fractionPart at h
  grind [→ exponentPart_length_le, → floatOfParts_rest, afterDigits_length_le, stopAt_ne_ok,
    stopSeeing_ne_ok]

theorem toFloat_eq_ok {r : Except Fault (Float × List Char)} {n : Number} {rest : List Char}
    (h : toFloat r = .ok (n, rest)) : ∃ x, r = .ok (x, rest) := by
  obtain ⟨⟨x, mid⟩, hr, he⟩ := map_eq_ok_iff.mp h
  cases he
  exact ⟨x, hr⟩

theorem numberTail_length_le {positive : Bool} {n m : Nat} {cs rest : List Char} {x : Number}
    (h : numberTail positive n m cs = .ok (x, rest)) : rest.length ≤ cs.length := by
  unfold numberTail at h
  grind [→ exponentPart_length_le, → fractionPart_length_le, → floatOfParts_rest, → toFloat_eq_ok]

theorem afterDigits_cons {c : Char} (h : c.isDigit = true) (cs : List Char) :
    afterDigits (c :: cs) = afterDigits cs :=
  List.dropWhile_cons_of_pos h

theorem numberBody_length_lt {positive : Bool} {cs rest : List Char} {x : Number}
    (h : numberBody positive cs = .ok (x, rest)) : rest.length < cs.length := by
  unfold numberBody at h
  grind [→ numberTail_length_le, afterDigits_length_le, afterDigits_cons, stopAt_ne_ok,
    stopSeeing_ne_ok]

/-! ## Skipping -/

theorem skipString_length_lt {cs rest : List Char} {u : Unit} (h : skipString cs = .ok (u, rest)) :
    rest.length < cs.length := by
  fun_induction skipString cs <;> simp_all <;> omega

theorem skipExponent_length_le {cs rest : List Char} {u : Unit}
    (h : skipExponent cs = .ok (u, rest)) : rest.length ≤ cs.length := by
  unfold skipExponent at h
  grind [afterDigits_length_le, stopAt_ne_ok]

theorem skipFraction_length_le {cs rest : List Char} {u : Unit}
    (h : skipFraction cs = .ok (u, rest)) : rest.length ≤ cs.length := by
  unfold skipFraction at h
  grind [afterDigits_length_le, → skipExponent_length_le, stopAt_ne_ok, stopSeeing_ne_ok]

theorem skipNumber_length_lt {cs rest : List Char} {u : Unit}
    (h : skipNumber cs = .ok (u, rest)) : rest.length < cs.length := by
  unfold skipNumber at h
  grind [afterDigits_length_le, → skipExponent_length_le, → skipFraction_length_le, stopAt_ne_ok,
    stopSeeing_ne_ok]

theorem leave_length_le {fuel : Nat} {comma : Bool} {f : Frame} {outer : List Frame}
    {cs rest : List Char} {x : Option (List Frame)}
    (h : leave fuel comma f outer cs = .ok (x, rest)) : rest.length ≤ cs.length := by
  fun_induction leave fuel comma f outer cs <;>
    grind [skipSpace_length_le, stopAt_ne_ok, stopSeeing_ne_ok]

theorem colon_length_lt {cs rest : List Char} {u : Unit} (h : colon cs = .ok (u, rest)) :
    rest.length < cs.length := by
  unfold colon at h
  grind [→ length_lt_of_skipSpace, stopAt_ne_ok, stopSeeing_ne_ok]

theorem skipKey_length_le {cs rest : List Char} {u : Unit} (h : skipKey cs = .ok (u, rest)) :
    rest.length ≤ cs.length := by
  unfold skipKey at h
  grind [→ length_lt_of_skipSpace, stopAt_ne_ok, stopSeeing_ne_ok, bind_eq_ok_iff,
    → skipString_length_lt, → colon_length_lt]

theorem leaves_skipWithin {n fuel : Nat} {frames : List Frame} {cs : List Char}
    (h : cs.length ≤ n) : Leaves n (skipWithin fuel frames cs) := by
  induction fuel generalizing frames cs with
  | zero => exact .stopSeeing
  | succ fuel ih =>
    unfold skipWithin
    -- What comes after a value or an opening bracket, from any rest that is short enough.
    extract_lets resume done
    have hresume : ∀ next rest, rest.length ≤ n → Leaves n (resume (next, rest)) := by
      rintro (_ | (_ | ⟨⟨⟩, frames⟩)) rest hrest
      · exact .ok hrest
      · exact ih hrest
      · exact ih hrest
      · exact .bind (.of_le skipKey_length_le hrest) fun _ _ => ih
    have hdone : ∀ r, Leaves n r → Leaves n (done r) := by
      intro r hr
      refine hr.bind fun _ rest hrest => ?_
      cases frames with
      | nil => exact .ok hrest
      | cons f outer =>
        exact .bind (.of_le leave_length_le hrest) hresume
    have hnumber : ∀ r : List Char, r.length ≤ n → Leaves n (done (skipNumber r)) :=
      fun r hr => hdone _ (.of_lt skipNumber_length_lt hr)
    have hstart : ∀ f r, r.length ≤ n →
        Leaves n (leave (frames.length + 2) false f frames r >>= resume) :=
      fun f r hr => .bind (.of_le leave_length_le hr) hresume
    have hword : ∀ es r, r.length ≤ n → Leaves n (done (word es r)) :=
      fun es r hr => hdone _ (.of_le word_length_le hr)
    have hr : ∀ {c r}, skipSpace cs = c :: r → r.length ≤ n :=
      fun hc => length_le_of_skipSpace hc (Nat.le_succ_of_le h)
    split
    · exact .stopAt
    iterate 3 · next hc => exact hword _ _ (hr hc)
    · next hc => exact hnumber _ (hr hc)
    · next hc =>
      exact hdone _ (.of_lt skipString_length_lt (hr hc))
    iterate 2 · next hc => exact hstart _ _ (hr hc)
    · next hc =>
      split
      · exact hnumber _ (Nat.le_trans (hc ▸ skipSpace_length_le cs) h)
      · exact .stopSeeing

theorem skip_length_le {cs rest : List Char} {u : Unit} (h : skip cs = .ok (u, rest)) :
    rest.length ≤ cs.length :=
  leaves_skipWithin (Nat.le_refl _) u rest h

/-! ## Entries -/

theorem moreItems_length_le {first more : Bool} {cs rest : List Char}
    (h : moreItems first cs = .ok (more, rest)) : rest.length ≤ cs.length := by
  unfold moreItems at h
  grind [skipSpace_length_le, → length_lt_of_skipSpace, stopAt_ne_ok, stopSeeing_ne_ok]

theorem moreMembers_length_le {first more : Bool} {cs rest : List Char}
    (h : moreMembers first cs = .ok (more, rest)) : rest.length ≤ cs.length := by
  unfold moreMembers at h
  grind [skipSpace_length_le, → length_lt_of_skipSpace, stopAt_ne_ok, stopSeeing_ne_ok]

theorem closeList_length_lt {cs rest : List Char} {u : Unit} (h : closeList cs = .ok (u, rest)) :
    rest.length < cs.length := by
  unfold closeList at h
  grind [→ length_lt_of_skipSpace, stopAt_ne_ok, stopSeeing_ne_ok]

theorem closeObject_length_lt {cs rest : List Char} {u : Unit}
    (h : closeObject cs = .ok (u, rest)) : rest.length < cs.length := by
  unfold closeObject at h
  grind [→ length_lt_of_skipSpace, stopAt_ne_ok, stopSeeing_ne_ok]

theorem key_length_le {cs rest : List Char} {k : String} (h : key cs = .ok (k, rest)) :
    rest.length ≤ cs.length := by
  have := stringBody_length_lt h
  simp only [List.length_drop] at this
  omega

theorem leaves_items {n fuel : Nat} {item : Reader α} {first : Bool} {cs : List Char}
    (hitem : ∀ cs : List Char, cs.length ≤ n → Leaves n (item cs)) (h : cs.length ≤ n) :
    Leaves n (items item fuel first cs) := by
  induction fuel generalizing first cs with
  | zero => exact .stopSeeing
  | succ fuel ih =>
    unfold items
    refine .bind (.of_le moreItems_length_le h) fun more rest hrest => ?_
    cases more with
    | false => exact .ok hrest
    | true => exact (hitem rest hrest).bind fun x mid hmid => (ih hmid).bind fun xs end_ => .ok

theorem leaves_members {n fuel : Nat} {item : Reader α} {first : Bool} {cs : List Char}
    (hitem : ∀ cs : List Char, cs.length ≤ n → Leaves n (item cs)) (h : cs.length ≤ n) :
    Leaves n (members item fuel first cs) := by
  induction fuel generalizing first cs with
  | zero => exact .stopSeeing
  | succ fuel ih =>
    unfold members
    refine .bind (.of_le moreMembers_length_le h) fun more rest hrest => ?_
    cases more with
    | false => exact .ok hrest
    | true =>
      refine .bind (.of_le key_length_le hrest) fun k afterKey hkey => ?_
      refine .bind (.of_lt colon_length_lt hkey) fun _ start hstart => ?_
      exact (hitem start hstart).bind fun x mid hmid => (ih hmid).bind fun xs end_ => .ok

theorem leaves_value {n depth : Nat} {cs : List Char} (h : cs.length ≤ n + 1) :
    Leaves n (value depth cs) := by
  induction depth generalizing cs with
  | zero => exact .stopSeeing
  | succ depth ih =>
    have hr : ∀ {c r}, skipSpace cs = c :: r → r.length ≤ n :=
      fun hc => length_le_of_skipSpace hc h
    have hitem : ∀ cs : List Char, cs.length ≤ n → Leaves n (value depth cs) :=
      fun cs hcs => ih (Nat.le_succ_of_le hcs)
    unfold value
    split
    · exact .stopAt
    iterate 3 · next hc =>
      exact .map (.of_le word_length_le (hr hc)) fun _ => rfl
    · next hc =>
      exact .map (.of_lt numberBody_length_lt (hr hc)) fun _ => rfl
    · next hc =>
      exact .map (.of_lt stringBody_length_lt (hr hc)) fun _ => rfl
    · next hc =>
      split
      · exact .stopSeeing
      · refine (leaves_items hitem (hr hc)).bind fun _ rest hrest => ?_
        exact .bind (.of_lt closeList_length_lt hrest) fun _ _ => .ok
    · next hc =>
      split
      · exact .stopSeeing
      · refine (leaves_members hitem (hr hc)).bind fun _ rest hrest => ?_
        exact .bind (.of_lt closeObject_length_lt hrest) fun _ _ => .ok
    · next hc =>
      split
      · refine .map (fun _ rest hb => ?_) fun _ => rfl
        have := numberBody_length_lt hb
        have := hc ▸ skipSpace_length_le cs
        omega
      · exact .stopSeeing

theorem endOfText_eq_ok_iff {cs : List Char} : endOfText cs = .ok () ↔ skipSpace cs = [] := by
  unfold endOfText
  split <;> simp_all [stopSeeing_ne_ok]

end AccountRegistry.Json
