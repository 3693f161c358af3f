import PaymentConnector.Json.Display
import PaymentConnector.Proofs.NestedValues

/-!
Values that stand inside a message. A whole number has a text if it is not too long, and a
list or an object has one if everything in it has. So just one limit is met there.
-/

namespace PaymentConnector.Json

/-- Something is written under a condition, and otherwise a number in it is too long. -/
structure WrittenIf {α : Type} (p : Prop) (x : Except Limit α) : Prop where
  ok : p → ∃ a, x = .ok a
  tooLong : ¬ p → x = .error .digits

namespace WrittenIf

variable {α β : Type} {p q : Prop} {x : Except Limit α} {f : α → Except Limit β}

theorem of_ok {a : α} (hp : p) : WrittenIf p (.ok a : Except Limit α) :=
  ⟨fun _ => ⟨a, rfl⟩, fun hnot => absurd hp hnot⟩

theorem congr (h : WrittenIf p x) (hpq : p ↔ q) : WrittenIf q x :=
  ⟨fun hq => h.ok (hpq.mpr hq), fun hnot => h.tooLong fun hp => hnot (hpq.mp hp)⟩

theorem bind (hx : WrittenIf p x) (hf : ∀ a, WrittenIf q (f a)) :
    WrittenIf (p ∧ q) (x >>= f) := by
  constructor
  · rintro ⟨hp, hq⟩
    obtain ⟨a, rfl⟩ := hx.ok hp
    exact (hf a).ok hq
  · intro hnot
    by_cases hp : p
    · obtain ⟨a, rfl⟩ := hx.ok hp
      exact (hf a).tooLong fun hq => hnot ⟨hp, hq⟩
    · rw [hx.tooLong hp]
      rfl

theorem map (hx : WrittenIf p x) {g : α → β} : WrittenIf p (x >>= fun a => .ok (g a)) :=
  (hx.bind fun _ => of_ok trivial).congr (and_iff_left trivial)

theorem exists_iff (h : WrittenIf p x) : (∃ a, x = .ok a) ↔ p := by
  refine ⟨?_, h.ok⟩
  rintro ⟨a, rfl⟩
  exact Classical.byContradiction fun hnot => nomatch h.tooLong hnot

theorem eq_error_iff (h : WrittenIf p x) {l : Limit} : x = .error l ↔ ¬ p ∧ l = .digits := by
  constructor
  · rintro rfl
    have hnot : ¬ p := fun hp => nomatch h.ok hp
    exact ⟨hnot, Except.error.inj (h.tooLong hnot)⟩
  · rintro ⟨hnot, rfl⟩
    exact h.tooLong hnot

end WrittenIf

theorem numeral_of_fits {n : Int} (h : FitsDigits n) :
    numeral n = .ok (String.ofList (intText n)) := if_neg (Nat.not_lt.mpr h)

theorem writtenIf_numeral (n : Int) : WrittenIf (FitsDigits n) (numeral n) :=
  ⟨fun h => ⟨_, numeral_of_fits h⟩, fun hnot => if_pos (Nat.lt_of_not_le hnot)⟩

theorem writtenIf_innerItems {items : List Json}
    (h : ∀ j ∈ items, WrittenIf (j.NumbersFit .digits) j.inner) :
    WrittenIf (∀ j ∈ items, j.NumbersFit .digits) (innerItems items) := by
  induction items with
  | nil => exact .of_ok fun j hj => absurd hj List.not_mem_nil
  | cons j items ih =>
    obtain ⟨hj, hrest⟩ := List.forall_mem_cons.mp h
    exact (hj.bind fun _ => (ih hrest).map).congr List.forall_mem_cons.symm

theorem writtenIf_innerEntries {entries : List (String × Json)}
    (h : ∀ e ∈ entries, WrittenIf (e.2.NumbersFit .digits) e.2.inner) :
    WrittenIf (∀ e ∈ entries, e.2.NumbersFit .digits) (innerEntries entries) := by
  induction entries with
  | nil => exact .of_ok fun e he => absurd he List.not_mem_nil
  | cons e entries ih =>
    obtain ⟨he, hrest⟩ := List.forall_mem_cons.mp h
    refine (he.bind fun _ => (ih hrest).map).congr ?_
    rw [List.forall_mem_cons]

theorem writtenIf_inner (j : Json) : WrittenIf (j.NumbersFit .digits) j.inner := by
  induction j using Json.treeInduction with
  | int n =>
    refine (writtenIf_numeral n).congr ?_
    rw [NumbersFit.int_iff]
    exact Iff.rfl
  | arr items ih => exact (writtenIf_innerItems ih).map.congr NumbersFit.arr_iff.symm
  | obj entries ih => exact (writtenIf_innerEntries ih).map.congr NumbersFit.obj_iff.symm
  | _ => exact .of_ok (.of_depth_eq_zero rfl fun _ h => nomatch h)

/-- A value has a text if no whole number in it is too long. -/
theorem writtenIf_display (j : Json) : WrittenIf (j.NumbersFit .digits) j.display := by
  cases j with
  | str s => exact .of_ok (.of_depth_eq_zero rfl fun _ h => nomatch h)
  | _ => exact writtenIf_inner _

theorem display_int {n : Int} (h : FitsDigits n) :
    (int n).display = .ok (String.ofList (intText n)) := numeral_of_fits h

end PaymentConnector.Json
