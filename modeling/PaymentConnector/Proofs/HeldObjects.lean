import PaymentConnector.Proofs.CarriedObjects
import PaymentConnector.Proofs.ReadTexts

/-!
The object that a payload holds, told by the grammar of JSON text. A payload is taken for an
object just if it is the object, or if its characters or its bytes are text of it inside the
limits of the reader, where the entry counts that comes last for its key.
-/

namespace PaymentConnector

open Text

namespace Wire.Payload

/-- A payload that holds an object: the object itself, or text of it. -/
inductive Holds : Payload → Object → Prop
  | object (o : Object) : Holds (.value (.obj o)) o
  | text {s : String} {o : Object} (h : Json.JsonText dialect.numbers (.obj o) s.toList)
      (hreach : dialect.Reaches dialect.depth (.obj o)) :
      Holds (.value (.str s)) (Json.lastEntries o)
  | bytes {b : List UInt8} {t : List Char} {o : Object} (hb : Utf8.decode b = .ok t)
      (h : Json.JsonText dialect.numbers (.obj o) t)
      (hreach : dialect.Reaches dialect.depth (.obj o)) :
      Holds (.bytes b) (Json.lastEntries o)

theorem textObject?_eq_some_iff_verdict {t : List Char} {o : Object} :
    textObject? t = some o ↔ Json.verdict dialect t = .ok (.obj o) := by
  rw [← Json.read_eq_ok_iff, textObject?]
  cases Json.read dialect t with
  | error f => simp
  | ok j => cases j <;> simp [Json.object?]

/-- The object of a text is that which the text spells, inside the limits. -/
theorem textObject?_eq_some_iff {t : List Char} {o : Object} :
    textObject? t = some o ↔
      ∃ o', Json.JsonText dialect.numbers (.obj o') t ∧
        dialect.Reaches dialect.depth (.obj o') ∧ Json.lastEntries o' = o := by
  rw [textObject?_eq_some_iff_verdict, Json.verdict_eq_ok_iff rfl]
  constructor
  · rintro ⟨j, hj, hreach, hmerged⟩
    cases j with
    | obj o' =>
      rw [Json.merged_obj] at hmerged
      exact ⟨o', hj, hreach, Json.obj.inj hmerged⟩
    | _ => cases hmerged
  · rintro ⟨o', ho', hreach, rfl⟩
    exact ⟨.obj o', ho', hreach, Json.merged_obj o'⟩

theorem object?_eq_some_iff {p : Payload} {o : Object} : p.object? = some o ↔ p.Holds o := by
  constructor
  · intro h
    cases p with
    | value j =>
      cases j with
      | obj o' =>
        obtain rfl := Option.some.inj h
        exact .object o'
      | str s =>
        obtain ⟨o', ho', hreach, rfl⟩ := textObject?_eq_some_iff.mp h
        exact .text ho' hreach
      | _ => cases h
    | bytes b =>
      cases hb : Utf8.decode b with
      | error f => simp [object?, hb] at h
      | ok t =>
        rw [object?, hb] at h
        obtain ⟨o', ho', hreach, rfl⟩ := textObject?_eq_some_iff.mp h
        exact .bytes hb ho' hreach
  · intro h
    cases h with
    | object o => rfl
    | text h hreach => exact textObject?_eq_some_iff.mpr ⟨_, h, hreach, rfl⟩
    | bytes hb h hreach =>
      rw [object?, hb]
      exact textObject?_eq_some_iff.mpr ⟨_, h, hreach, rfl⟩

/-- A payload that holds an object is read as the object is. -/
theorem Holds.read_eq {α : Type} {reader : Reader α} {p : Payload} {o : Object} (h : p.Holds o) :
    p.read reader = reader (.obj o) := by
  have htext {t : List Char} {o : Object} (ht : Json.JsonText dialect.numbers (.obj o) t)
      (hreach : dialect.Reaches dialect.depth (.obj o)) :
      readText reader t = reader (.obj (Json.lastEntries o)) := by
    have hread := Json.read_eq_ok_iff.mpr (ht.verdict_eq hreach)
    rw [Json.merged_obj] at hread
    simp only [readText, hread]
  cases h with
  | object o => rfl
  | text h hreach => exact htext h hreach
  | bytes hb h hreach =>
    simp only [read, hb]
    exact htext h hreach

theorem Holds.parse_eq {α : Type} {reader : Reader α} {p : Payload} {o : Object} (h : p.Holds o)
    (name : String) : p.parse name reader = (value (.obj o)).parse name reader := by
  simp only [parse, h.read_eq, (Holds.object o).read_eq]

end Wire.Payload

end PaymentConnector
