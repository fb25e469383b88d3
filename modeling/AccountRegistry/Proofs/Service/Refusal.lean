import AccountRegistry.Proofs.Result
import AccountRegistry.Service.App

/-! # Bodies of refusals

A refused request is answered with one detail for each of its faults, and the body that holds them
can always be written.
-/

namespace AccountRegistry

theorem Shape.write_list {α : Type} {s : Shape α} {f : α → Json.Value}
    (h : ∀ x, s.write x = .ok (f x)) (xs : List α) :
    (Shape.list s).write xs = .ok (.array (xs.map f)) := by
  refine map_eq_ok_iff.mpr ⟨xs.map f, mapM_eq_ok_iff.mpr ?_, rfl⟩
  rw [List.forall₂_map_right_iff, List.forall₂_same]
  exact fun x _ => h x

theorem Members.write_required {α β σ : Type} {key : String} {s : Shape α} {rest : Members β σ}
    {x : α} {y : β} {v : Json.Value} {vs : List (String × Json.Value)} (hv : s.write x = .ok v)
    (hvs : rest.write y = .ok vs) :
    (Members.required key s rest).write (x, y) = .ok ((key, v) :: vs) := by
  unfold Members.required Members.write
  rw [hv, hvs]
  rfl

/-- A fault as clients see it. -/
def Problem.json (p : Problem) : Json.Value :=
  .object [("loc", .array (p.location.map .string)), ("msg", .string p.message),
    ("type", .string p.kind)]

theorem Problem.write_shape (p : Problem) : Problem.shape.write p = .ok p.json := by
  have hlocation : (Shape.list .text).write p.location = .ok (.array (p.location.map .string)) :=
    Shape.write_list (fun _ => rfl) p.location
  exact map_eq_ok_iff.mpr ⟨_, Members.write_required hlocation
    (Members.write_required rfl (Members.write_required rfl rfl)), rfl⟩

theorem ErrorBody.write_shape (ps : List Problem) : ErrorBody.shape.write (.inl ps) =
    .ok (.object [("detail", .array (ps.map Problem.json))]) :=
  map_eq_ok_iff.mpr
    ⟨_, Members.write_required (Shape.write_list Problem.write_shape ps) rfl, rfl⟩

/-- The faults of a request are details of the response. -/
theorem errorResponse_unprocessable (ps : List Problem) :
    App.errorResponse (.unprocessable ps) =
      .ofJson 422 (.object [("detail", .array (ps.map Problem.json))]) := by
  rw [App.errorResponse, ServiceError.body, ErrorBody.write_shape]
  rfl

end AccountRegistry
