import PaymentConnector.Check.Scalar
import PaymentConnector.Vocabulary

/-!
Laws of checked values and of the fields of objects. A chain of checks succeeds just
when each check in it does, so a reader of an object can be taken apart into what it
asks of each key. A map after a chain can be moved into it, and maps before its last
check can be moved out.
-/

namespace PaymentConnector

namespace Checked

variable {α β γ : Type}

@[simp] theorem map_eq_map (f : α → β) (x : Checked α) : f <$> x = x.map f := rfl

@[simp] theorem seq_eq_app (f : Checked (α → β)) (x : Checked α) :
    f <*> x = f.app fun _ => x := rfl

theorem map_id (x : Checked α) : x.map id = x := by
  cases x <;> rfl

theorem map_map (g : β → γ) (f : α → β) (x : Checked α) :
    (x.map f).map g = x.map fun a => g (f a) := by
  cases x <;> rfl

theorem map_app (g : β → γ) (f : Checked (α → β)) (x : Checked α) :
    (f.app fun _ => x).map g = (f.map fun h a => g (h a)).app fun _ => x := by
  cases f <;> cases x <;> rfl

theorem app_map (f : Checked (β → γ)) (g : α → β) (x : Checked α) :
    (f.app fun _ => x.map g) = (f.map fun h a => h (g a)).app fun _ => x := by
  cases f <;> cases x <;> rfl

theorem map_under (f : α → β) (key : String) (x : Checked α) :
    (x.under key).map f = (x.map f).under key := by
  cases x <;> rfl

theorem map_andThen (g : β → γ) (x : Checked α) (f : α → Checked β) :
    (x.andThen f).map g = x.andThen fun a => (f a).map g := by
  cases x <;> rfl

theorem andThen_map (f : β → Checked γ) (g : α → β) (x : Checked α) :
    (x.map g).andThen f = x.andThen fun a => f (g a) := by
  cases x <;> rfl

theorem map_eq_ok_iff {f : α → β} {x : Checked α} {b : β} :
    x.map f = .ok b ↔ ∃ a, x = .ok a ∧ f a = b := by
  cases x <;> simp [map]

theorem app_eq_ok_iff {f : Checked (α → β)} {x : Checked α} {b : β} :
    (f.app fun _ => x) = .ok b ↔ ∃ g a, f = .ok g ∧ x = .ok a ∧ g a = b := by
  cases f <;> cases x <;> simp [app]

theorem exists_map_eq_ok_iff {f : α → β} {x : Checked α} :
    (∃ b, x.map f = .ok b) ↔ ∃ a, x = .ok a := by
  cases x <;> simp [map]

theorem exists_app_eq_ok_iff {f : Checked (α → β)} {x : Checked α} :
    (∃ b, (f.app fun _ => x) = .ok b) ↔ (∃ g, f = .ok g) ∧ ∃ a, x = .ok a := by
  cases f <;> cases x <;> simp [app]

theorem under_eq_ok_iff {key : String} {x : Checked α} {a : α} :
    x.under key = .ok a ↔ x = .ok a := by
  cases x <;> simp [under]

theorem eq_ok_or_failed (x : Checked α) : (∃ a, x = .ok a) ∨ ∃ faults, x = .failed faults := by
  cases x with
  | ok a => exact Or.inl ⟨a, rfl⟩
  | failed faults => exact Or.inr ⟨faults, rfl⟩

end Checked

namespace Object

variable {α : Type} {o : Object} {key : String} {read : Reader α}

theorem required_eq_ok_iff {a : α} :
    o.required key read = .ok a ↔ ∃ j, o.get? key = some j ∧ read j = .ok a := by
  unfold required
  cases o.get? key <;> simp [Checked.under_eq_ok_iff]

/-- A key without a value: it is not there, or holds null. -/
def IsVoid (o : Object) (key : String) : Prop := o.get? key = none ∨ o.get? key = some .null

theorem exists_of_not_isVoid (h : ¬ o.IsVoid key) : ∃ j, o.get? key = some j ∧ j ≠ .null := by
  cases hget : o.get? key with
  | none => exact absurd (Or.inl hget) h
  | some j => exact ⟨j, rfl, fun hj => h (Or.inr (hj ▸ hget))⟩

theorem optional_of_isVoid (h : o.IsVoid key) : o.optional key read = .ok none := by
  unfold optional
  rcases h with hnone | hnull
  · rw [hnone]
  · rw [hnull]

theorem optional_of_get? {j : Json} (h : o.get? key = some j) (hj : j ≠ .null) :
    o.optional key read = ((read j).under key).map some := by
  unfold optional
  rw [h]
  cases j with
  | null => exact absurd rfl hj
  | _ => rfl

theorem optional_eq_ok_iff {a : Option α} :
    o.optional key read = .ok a ↔
      (o.IsVoid key ∧ a = none) ∨
        ∃ j v, o.get? key = some j ∧ j ≠ .null ∧ read j = .ok v ∧ a = some v := by
  by_cases hvoid : o.IsVoid key
  · rw [optional_of_isVoid hvoid]
    rcases hvoid with h | h
    · simp [IsVoid, h, eq_comm]
    · simp [IsVoid, h, eq_comm]
  · obtain ⟨j, hget, hj⟩ := exists_of_not_isVoid hvoid
    rw [optional_of_get? hget hj]
    simp [IsVoid, hget, hj, Checked.map_eq_ok_iff, Checked.under_eq_ok_iff, @eq_comm _ a]

theorem defaulted_eq_ok_iff {a value : α} :
    o.defaulted key value read = .ok a ↔
      (o.get? key = none ∧ a = value) ∨ ∃ j, o.get? key = some j ∧ read j = .ok a := by
  unfold defaulted
  cases o.get? key with
  | none => simp [eq_comm]
  | some j => simp [Checked.under_eq_ok_iff]

end Object

theorem readString_eq_ok_iff {j : Json} {s : String} : readString j = .ok s ↔ j = .str s := by
  cases j <;> simp [readString, Checked.fail]

namespace Vocabulary

variable {α : Type} [Vocabulary α]

/-- Every member is found under its own token. -/
class Lawful (α : Type) [Vocabulary α] : Prop where
  ofToken?_token : ∀ a : α, ofToken? α (token a) = some a

theorem token_of_ofToken? {s : String} {a : α} (h : ofToken? α s = some a) : token a = s := by
  have hfound := List.find?_some h
  simpa using hfound

theorem read_eq_ok_iff [Lawful α] {j : Json} {a : α} :
    read α j = .ok a ↔ j = .str (token a) := by
  constructor
  · intro h
    cases j with
    | str s =>
      cases hs : ofToken? α s with
      | none => simp [read, hs, Checked.fail] at h
      | some b =>
        simp only [read, hs, Checked.ok.injEq] at h
        subst h
        rw [token_of_ofToken? hs]
    | _ => simp [read, Checked.fail] at h
  · rintro rfl
    simp [read, Lawful.ofToken?_token]

end Vocabulary

end PaymentConnector
