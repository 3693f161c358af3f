import PaymentConnector.Proofs.ReceivedTexts

/-!
The object inside a payload, in whatever form the payload comes. A schema reads a payload
just when the payload carries an object that it reads, so a response is taken in just when
its object is, and leads to the same call.
-/

namespace PaymentConnector

open Text

/-- The object that a value is. -/
def Json.object? : Json → Option Object
  | obj o => some o
  | _ => none

namespace Wire.Payload

/-- The object that a text is JSON for. -/
def textObject? (t : List Char) : Option Object :=
  match Json.read dialect t with
  | .ok j => j.object?
  | .error _ => none

/-- The object that a payload is, or that its text or its bytes are JSON for. -/
def object? : Payload → Option Object
  | value (.obj o) => some o
  | value (.str s) => textObject? s.toList
  | value _ => none
  | bytes b =>
    match Utf8.decode b with
    | .ok t => textObject? t
    | .error _ => none

section

variable {α : Type} {reader : Reader α} {a : α}

theorem readText_eq_ok_iff (hreader : reader.TakesObjects) {t : List Char} :
    readText reader t = .ok a ↔ ∃ o, textObject? t = some o ∧ reader (.obj o) = .ok a := by
  unfold readText textObject?
  cases Json.read dialect t with
  | error f => simp [malformed, Checked.fail]
  | ok j =>
    constructor
    · intro h
      obtain ⟨o, rfl⟩ := hreader j a h
      exact ⟨o, rfl, h⟩
    · rintro ⟨o, ho, h⟩
      cases j with
      | obj o' => exact Option.some.inj ho ▸ h
      | _ => cases ho

/-- A reader of objects takes a payload for the object in it. -/
theorem read_eq_ok_iff (hreader : reader.TakesObjects) {p : Payload} :
    p.read reader = .ok a ↔ ∃ o, p.object? = some o ∧ reader (.obj o) = .ok a := by
  cases p with
  | value j =>
    cases j with
    | obj o => simp [read, object?]
    | str s => exact readText_eq_ok_iff hreader
    | _ => simp [read, object?, malformed, Checked.fail]
  | bytes b =>
    cases hb : Utf8.decode b with
    | error f => simp [read, object?, hb, malformed, Checked.fail]
    | ok t => simpa [read, object?, hb] using readText_eq_ok_iff hreader

end

end Wire.Payload

namespace Call

variable {flow : Flow} {c c' : Call flow} {p : Wire.Payload}

/-- A response is taken in for the object in it, and settled as that object. -/
theorem respond_eq_ok_iff_of_object :
    (c.respond p).value = .ok c' ↔
      ∃ o a s, p.object? = some o ∧ flow.readAnswer (.obj o) = .ok a ∧
        flow.settle a = .ok s ∧ c' = c.settle s := by
  rw [respond_eq_ok_iff]
  constructor
  · rintro ⟨a, s, ha, hs, rfl⟩
    obtain ⟨o, ho, ha⟩ := (Wire.Payload.read_eq_ok_iff flow.takesObjects_readAnswer).mp ha
    exact ⟨o, a, s, ho, ha, hs, rfl⟩
  · rintro ⟨o, a, s, ho, ha, hs, rfl⟩
    exact ⟨a, s, (Wire.Payload.read_eq_ok_iff flow.takesObjects_readAnswer).mpr ⟨o, ho, ha⟩,
      hs, rfl⟩

end Call

end PaymentConnector
