import PaymentConnector.CommandLine.Report
import PaymentConnector.Proofs.AgreeingReaders

/-!
Texts that the program reads from its sources. A file holds the text that its bytes are
decoded to, and the standard input holds what stands there. An orderly text is read as the
value that every reader finds in it, whatever ends its lines; if none is found, the trouble
tells why.
-/

namespace PaymentConnector

open Text

namespace CommandLine

theorem covers_commonDialect : dialect.Covers Json.commonDialect :=
  ⟨rfl, by decide, rfl, Or.inl rfl⟩

namespace Sources

/-- The text that stands in a source. -/
inductive Holds (s : Sources) : String → List Char → Prop
  | file {path : String} {bytes : List UInt8} {t : List Char} (hpath : path ≠ inputPath)
      (hnul : path.contains '\x00' = false) (hfile : s.file (tidyPath path) = .ok bytes)
      (hdecode : Utf8.decode bytes = .ok t) : Holds s path t
  | input : Holds s inputPath s.input

theorem Holds.exists_readText {s : Sources} {path : String} {t : List Char}
    (h : s.Holds path t) :
    ∃ f, Json.KeepsLines f ∧ s.readText path = .ok (f t) := by
  cases h with
  | file hpath hnul hfile hdecode =>
    refine ⟨unifyBreaks, Json.keepsLines_unifyBreaks, ?_⟩
    simp [readText, hpath, readFile, hnul, hfile, hdecode]
  | input => exact ⟨id, Json.keepsLines_id, by simp [readText]⟩

/-- An orderly text is read as its value, or the cause of its fault tells the trouble. -/
theorem Holds.readJson_cases {s : Sources} {path : String} {t : List Char} (h : s.Holds path t)
    (ht : Json.Orderly t) :
    (∃ j, Json.verdict Json.commonDialect t = .ok j ∧ s.readJson path = .ok j) ∨
      ∃ text f, Json.verdict Json.commonDialect t = .error f.cause ∧
        s.readJson path = .error (textTrouble text f) := by
  obtain ⟨f, hf, htext⟩ := h.exists_readText
  have hverdict := ht.verdict_eq hf covers_commonDialect rfl
  have hread : s.readJson path =
      (Json.read dialect (f t)).mapError (textTrouble (f t)) := by
    rw [readJson, htext]
    rfl
  rw [← hverdict, hread, Json.verdict]
  cases Json.read dialect (f t) with
  | ok j => exact Or.inl ⟨j, rfl, rfl⟩
  | error e => exact Or.inr ⟨f t, e, rfl, rfl⟩

theorem Holds.readJson_eq_ok_iff {s : Sources} {path : String} {t : List Char}
    (h : s.Holds path t) (ht : Json.Orderly t) {j : Json} :
    s.readJson path = .ok j ↔ Json.verdict Json.commonDialect t = .ok j := by
  rcases h.readJson_cases ht with ⟨k, hk, hread⟩ | ⟨text, f, hfault, hread⟩
  · rw [hk, hread]
    simp
  · rw [hfault, hread]
    simp

/-- The call that a source holds is read from the value of its text. -/
theorem Holds.readCall_eq_ok_iff {s : Sources} {path : String} {t : List Char}
    (h : s.Holds path t) (ht : Json.Orderly t) {flow : Flow} {call : Call flow} :
    s.readCall flow path = .ok call ↔
      ∃ j, Json.verdict Json.commonDialect t = .ok j ∧ Call.read flow .value j = .ok call := by
  simp only [← h.readJson_eq_ok_iff ht, readCall]
  cases s.readJson path with
  | error e => simp [bind, Except.bind]
  | ok j =>
    simp only [bind, Except.bind, Except.ok.injEq, exists_eq_left']
    cases Call.read flow .value j with
    | ok c => simp [Checked.orFail]
    | failed faults => simp [Checked.orFail]

end Sources

end CommandLine

end PaymentConnector
