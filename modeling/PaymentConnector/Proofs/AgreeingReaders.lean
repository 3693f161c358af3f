import PaymentConnector.CommandLine.Source
import PaymentConnector.Proofs.ReaderFindings

/-!
Readers that differ in their dialect, and texts that differ in their line breaks. Where a
strict reader does not stop because values stand too deep, a number is too long or a half of a
surrogate pair stands alone, every reader that goes as deep finds the same, also when other
characters end the lines.
-/

namespace PaymentConnector.Json

/-! Line breaks -/

/-- A change of line breaks: every character stays, apart from carriage returns. One of them
stays too, or becomes a line feed, or is lost before one. -/
structure KeepsLines (f : List Char → List Char) : Prop where
  nil : f [] = []
  cons : ∀ c r, c ≠ '\r' → f (c :: r) = c :: f r
  cr : ∀ r, ∃ c t, f ('\r' :: r) = c :: f t ∧ (c = '\r' ∨ c = '\n') ∧ (t = r ∨ r = '\n' :: t)

theorem keepsLines_id : KeepsLines id where
  nil := rfl
  cons _ _ _ := rfl
  cr r := ⟨'\r', r, rfl, Or.inl rfl, Or.inl rfl⟩

theorem keepsLines_unifyBreaks : KeepsLines CommandLine.unifyBreaks where
  nil := by rw [CommandLine.unifyBreaks]
  cons c r hc := by
    rw [CommandLine.unifyBreaks]
    · intro t heq
      exact absurd heq hc
    · exact hc
  cr r := by
    cases r with
    | nil => exact ⟨'\n', [], rfl, Or.inr rfl, Or.inl rfl⟩
    | cons c t =>
      by_cases hc : c = '\n'
      · subst hc
        exact ⟨'\n', t, rfl, Or.inr rfl, Or.inr rfl⟩
      · refine ⟨'\n', c :: t, ?_, Or.inr rfl, Or.inl rfl⟩
        rw [CommandLine.unifyBreaks]
        intro u heq
        exact hc (List.cons.inj heq).1

namespace KeepsLines

variable {f : List Char → List Char}

theorem eq_nil_iff (hf : KeepsLines f) {s : List Char} : f s = [] ↔ s = [] := by
  cases s with
  | nil => simp [hf.nil]
  | cons c r =>
    by_cases hc : c = '\r'
    · obtain ⟨c', t, heq, -⟩ := hf.cr r
      simp [hc, heq]
    · simp [hf.cons c r hc]

/-- A test that no line break passes sees the same next character. -/
theorem head?_iff (hf : KeepsLines f) {c : Char} (hcr : c ≠ '\r') (hlf : c ≠ '\n')
    {s : List Char} : (f s).head? = some c ↔ s.head? = some c := by
  cases s with
  | nil => simp [hf.nil]
  | cons a r =>
    by_cases ha : a = '\r'
    · obtain ⟨c', t, heq, hc', -⟩ := hf.cr r
      have hne : c' ≠ c := by
        rintro rfl
        exact hc'.elim hcr hlf
      simp [ha, heq, hne, hcr.symm]
    · simp [hf.cons a r ha]

theorem skipBlanks_eq (hf : KeepsLines f) (s : List Char) :
    skipBlanks (f s) = f (skipBlanks s) := by
  generalize hn : s.length = n
  induction n using Nat.strongRecOn generalizing s with
  | ind n ih =>
    cases s with
    | nil => rw [hf.nil]; exact hf.nil.symm
    | cons c r =>
      by_cases hc : c = '\r'
      · -- one blank is left of a break that had two of them
        obtain ⟨c', t, heq, hc', ht⟩ := hf.cr r
        have hblank : isBlank c' = true := by rcases hc' with rfl | rfl <;> rfl
        have hsame : skipBlanks (c :: r) = skipBlanks t := by
          subst hc
          rcases ht with rfl | rfl <;> rfl
        have hshort : t.length < n := by
          rcases ht with rfl | rfl <;> simp at hn <;> omega
        rw [hsame, hc, heq, ← ih _ hshort t rfl]
        simp [skipBlanks, hblank]
      · rw [hf.cons c r hc]
        by_cases hblank : isBlank c = true
        · have hrest := ih r.length (by simp at hn; omega) r rfl
          have hskip (t : List Char) : skipBlanks (c :: t) = skipBlanks t := by
            simp [skipBlanks, hblank]
          rw [hskip, hskip, hrest]
        · have hskip (t : List Char) : skipBlanks (c :: t) = c :: t := by
            simp [skipBlanks, hblank]
          rw [hskip, hskip, hf.cons c r hc]

theorem hexUnit_eq (hf : KeepsLines f) (k value : Nat) (r : List Char) :
    hexUnit k value (f r) = (hexUnit k value r).map fun p => (p.1, f p.2) := by
  induction k generalizing value r with
  | zero => rfl
  | succ k ih =>
    cases r with
    | nil => rw [hf.nil]; rfl
    | cons c r =>
      by_cases hc : c = '\r'
      · obtain ⟨c', t, heq, hc', -⟩ := hf.cr r
        have hnone : hexValue? c' = none := by rcases hc' with rfl | rfl <;> rfl
        have hnone' : hexValue? '\r' = none := rfl
        simp [hc, heq, hexUnit, hnone, hnone']
      · rw [hf.cons c r hc, hexUnit, hexUnit]
        cases hexValue? c with
        | none => rfl
        | some digit => exact ih _ r

theorem spanDigits_eq (hf : KeepsLines f) (s : List Char) :
    spanDigits (f s) = ((spanDigits s).1, f (spanDigits s).2) := by
  have hstop {c : Char} (hc : c.isDigit = false) (t : List Char) :
      spanDigits (c :: t) = ([], c :: t) := by simp [spanDigits, hc]
  induction s with
  | nil => simp [spanDigits, hf.nil]
  | cons c r ih =>
    by_cases hc : c = '\r'
    · obtain ⟨c', t, heq, hc', -⟩ := hf.cr r
      have hdigit : c'.isDigit = false := by rcases hc' with rfl | rfl <;> rfl
      subst hc
      rw [hstop rfl]
      simp only [heq, hstop hdigit]
    · rw [hf.cons c r hc]
      by_cases hdigit : c.isDigit = true
      · have hgo (t : List Char) :
            spanDigits (c :: t) = (c :: (spanDigits t).1, (spanDigits t).2) := by
          simp [spanDigits, hdigit]
        rw [hgo, hgo, ih]
      · have hstop' := hstop (Bool.eq_false_iff.mpr hdigit)
        rw [hstop', hstop', hf.cons c r hc]

theorem wholePart_eq (hf : KeepsLines f) (s : List Char) :
    wholePart (f s) = ((wholePart s).1, f (wholePart s).2) := by
  by_cases hzero : s.head? = some '0'
  · obtain ⟨r, rfl⟩ := List.head?_eq_some_iff.mp hzero
    rw [hf.cons _ _ (by decide)]
    rfl
  · have hspan {t : List Char} (ht : t.head? ≠ some '0') : wholePart t = spanDigits t := by
      rw [wholePart]
      rintro r rfl
      exact ht rfl
    have hzero' : (f s).head? ≠ some '0' := fun h =>
      hzero ((hf.head?_iff (by decide) (by decide)).mp h)
    rw [hspan hzero, hspan hzero', hf.spanDigits_eq]

theorem fraction_eq (hf : KeepsLines f) (s : List Char) :
    fraction (f s) = ((fraction s).1, f (fraction s).2) := by
  by_cases hpoint : s.head? = some '.'
  · obtain ⟨r, rfl⟩ := List.head?_eq_some_iff.mp hpoint
    rw [hf.cons _ _ (by decide), fraction, fraction, hf.spanDigits_eq]
    split
    · rw [hf.cons _ _ (by decide)]
    · rfl
  · have hnone {t : List Char} (ht : t.head? ≠ some '.') : fraction t = ([], t) := by
      rw [fraction]
      rintro r rfl
      exact ht rfl
    have hpoint' : (f s).head? ≠ some '.' := fun h =>
      hpoint ((hf.head?_iff (by decide) (by decide)).mp h)
    rw [hnone hpoint, hnone hpoint']

theorem exponentSign_eq (hf : KeepsLines f) (s : List Char) :
    exponentSign (f s) = ((exponentSign s).1, f (exponentSign s).2) := by
  by_cases hminus : s.head? = some '-'
  · obtain ⟨r, rfl⟩ := List.head?_eq_some_iff.mp hminus
    rw [hf.cons _ _ (by decide)]
    rfl
  by_cases hplus : s.head? = some '+'
  · obtain ⟨r, rfl⟩ := List.head?_eq_some_iff.mp hplus
    rw [hf.cons _ _ (by decide)]
    rfl
  · have hnone {t : List Char} (ht : t.head? ≠ some '-') (ht' : t.head? ≠ some '+') :
        exponentSign t = (false, t) := by
      rw [exponentSign]
      · rintro r rfl
        exact ht rfl
      · rintro r rfl
        exact ht' rfl
    have hminus' : (f s).head? ≠ some '-' := fun h =>
      hminus ((hf.head?_iff (by decide) (by decide)).mp h)
    have hplus' : (f s).head? ≠ some '+' := fun h =>
      hplus ((hf.head?_iff (by decide) (by decide)).mp h)
    rw [hnone hminus hplus, hnone hminus' hplus']

theorem exponent_eq (hf : KeepsLines f) (s : List Char) :
    exponent (f s) = ((exponent s).1, f (exponent s).2) := by
  cases s with
  | nil => rw [hf.nil, exponent, hf.nil]
  | cons e r =>
    by_cases he : e = '\r'
    · obtain ⟨c', t, heq, hc', -⟩ := hf.cr r
      have hmark : ¬ (c' = 'e' ∨ c' = 'E') := by rcases hc' with rfl | rfl <;> decide
      simp [he, heq, exponent, hmark]
    · rw [hf.cons e r he]
      simp only [exponent, hf.exponentSign_eq, hf.spanDigits_eq]
      split
      · rfl
      · rw [hf.cons e r he]

/-- A number is found alike, whatever ends the lines. -/
theorem unsignedFinding_eq (hf : KeepsLines f) (l : NumberLimit) (negative : Bool)
    (s : List Char) :
    unsignedFinding l negative (f s) =
      (unsignedFinding l negative s).map fun p => (p.1, f p.2) := by
  simp only [unsignedFinding, hf.wholePart_eq, hf.fraction_eq, hf.exponent_eq]
  split
  · rfl
  split
  · rfl
  split
  · rfl
  · rfl

theorem isPrefixOf_eq (hf : KeepsLines f) {w : List Char} (hw : ∀ c ∈ w, c ≠ '\r' ∧ c ≠ '\n')
    (s : List Char) :
    w.isPrefixOf (f s) = w.isPrefixOf s ∧
      (w.isPrefixOf s = true → (f s).drop w.length = f (s.drop w.length)) := by
  induction w generalizing s with
  | nil => simp
  | cons a w ih =>
    obtain ⟨hcr, hlf⟩ := hw a List.mem_cons_self
    cases s with
    | nil => simp [hf.nil]
    | cons c r =>
      by_cases hc : c = '\r'
      · obtain ⟨c', t, heq, hc', -⟩ := hf.cr r
        have hne : (a == c') = false := by
          apply beq_false_of_ne
          rintro rfl
          exact hc'.elim hcr hlf
        have hne' : (a == '\r') = false := beq_false_of_ne hcr
        simp only [hc, heq, List.isPrefixOf, hne, hne', Bool.false_and]
        exact ⟨trivial, fun h => absurd h Bool.false_ne_true⟩
      · obtain ⟨hsame, hdrop⟩ := ih (fun c hc => hw c (List.mem_cons_of_mem a hc)) r
        rw [hf.cons c r hc]
        refine ⟨by simp [List.isPrefixOf, hsame], fun h => ?_⟩
        simp only [List.isPrefixOf, Bool.and_eq_true] at h
        simpa using hdrop h.2

theorem word?_eq (hf : KeepsLines f) (s : List Char) :
    word? (f s) = (word? s).map fun p => (p.1, f p.2) := by
  have hall : ∀ e ∈ words, ∀ c ∈ e.1.toList, c ≠ '\r' ∧ c ≠ '\n' := by simp [words]
  unfold word?
  generalize words = ws at hall
  induction ws with
  | nil => rfl
  | cons e ws ih =>
    obtain ⟨w, j⟩ := e
    have hrest := ih fun e he => hall e (List.mem_cons_of_mem _ he)
    obtain ⟨hsame, hdrop⟩ := hf.isPrefixOf_eq (hall _ List.mem_cons_self) s
    simp only [List.findSome?_cons, hsame]
    by_cases hw : w.toList.isPrefixOf s = true
    · have hdrop' := hdrop hw
      rw [String.length_toList] at hdrop'
      simp [hw, hdrop']
    · simpa [hw] using hrest

end KeepsLines

/-! Agreement -/

/-- What a strict reader finds in a text, and what another reader finds in the text with other
line breaks: the same, unless the strict one goes too deep or meets half of a pair, or meets a
number that is too long while the other one is `lax` about numbers. -/
inductive Agrees {α : Type} (lax : Prop) (f : List Char → List Char) :
    Finding α → Finding α → Prop
  | found (a : α) (r : List Char) : Agrees lax f (.ok (a, r)) (.ok (a, f r))
  | fault (cause : TextCause) : Agrees lax f (.error cause) (.error cause)
  | tooDeep (y : Finding α) : Agrees lax f (.error .tooDeep) y
  | loneSurrogate (y : Finding α) : Agrees lax f (.error .loneSurrogate) y
  | tooLong (hlax : lax) (count : Nat) (y : Finding α) :
      Agrees lax f (.error (.tooManyDigits count)) y

namespace Agrees

variable {α β : Type} {lax : Prop} {f : List Char → List Char}

theorem of_eq {x y : Finding α} (h : y = x.map fun p => (p.1, f p.2)) : Agrees lax f x y := by
  subst h
  cases x with
  | error cause => exact .fault cause
  | ok p => exact .found p.1 p.2

theorem mapValue {x y : Finding α} (h : Agrees lax f x y) (g : α → β) :
    Agrees lax f (x.mapValue g) (y.mapValue g) := by
  cases h with
  | found a r => exact .found (g a) r
  | fault cause => exact .fault cause
  | tooDeep => exact .tooDeep _
  | loneSurrogate => exact .loneSurrogate _
  | tooLong hlax count => exact .tooLong hlax count _

theorem andThen {x y : Finding α} {g g' : α → List Char → Finding β} (h : Agrees lax f x y)
    (hg : ∀ a r, x = .ok (a, r) → Agrees lax f (g a r) (g' a (f r))) :
    Agrees lax f (x.andThen g) (y.andThen g') := by
  cases h with
  | found a r => exact hg a r rfl
  | fault cause => exact .fault cause
  | tooDeep => exact .tooDeep _
  | loneSurrogate => exact .loneSurrogate _
  | tooLong hlax count => exact .tooLong hlax count _

end Agrees

/-- A reader that goes as deep as another one, which is strict, and takes all its numbers. -/
structure Dialect.Covers (d' d : Dialect) : Prop where
  strict : d.repairSurrogates = false
  depth_le : d.depth ≤ d'.depth
  nothingBeneath : d.emptyBeneath = false
  numbers : d.numbers = d'.numbers ∨ d.numbers = .characters

/-- Every reader goes as deep as this. -/
def commonDepth : Nat := 150

/-- The reader that takes only what every reader takes, apart from long numbers. -/
def commonDialect : Dialect := ⟨commonDepth, false, .digits, false⟩

/-- The reader that takes only what every reader takes. -/
def strictDialect : Dialect := { commonDialect with numbers := .characters }

/-- A text in which values do not stand too deep and no half of a surrogate pair stands alone,
as far as it can be read. -/
structure Orderly (t : List Char) : Prop where
  notTooDeep : verdict commonDialect t ≠ .error .tooDeep
  paired : verdict commonDialect t ≠ .error .loneSurrogate

theorem Orderly.of_verdict {t : List Char} {j : Json} (h : verdict commonDialect t = .ok j) :
    Orderly t := by
  constructor
  · simp [h]
  · simp [h]

/-- A text in which no number is too long either. -/
structure Moderate (t : List Char) : Prop where
  notTooDeep : verdict strictDialect t ≠ .error .tooDeep
  paired : verdict strictDialect t ≠ .error .loneSurrogate
  notTooLong : ∀ count, verdict strictDialect t ≠ .error (.tooManyDigits count)

theorem Moderate.of_verdict {t : List Char} {j : Json} (h : verdict strictDialect t = .ok j) :
    Moderate t := by
  constructor
  · simp [h]
  · simp [h]
  · simp [h]

theorem covers_strictDialect : commonDialect.Covers strictDialect :=
  ⟨rfl, Nat.le_refl _, rfl, Or.inr rfl⟩

/-- A number that the reader which counts characters takes is found by every reader. -/
theorem unsignedFinding_cases (l : NumberLimit) (negative : Bool) (s : List Char) :
    (∃ count, unsignedFinding .characters negative s = .error (.tooManyDigits count)) ∨
      unsignedFinding l negative s = unsignedFinding .characters negative s := by
  simp only [unsignedFinding]
  generalize hexceeded : NumberLimit.characters.isExceeded negative _ _ = exceeded
  cases exceeded with
  | false =>
    right
    simp only [NumberLimit.not_isExceeded hexceeded l]
  | true =>
    by_cases hnil : (wholePart s).1 = []
    · right
      simp only [hnil, if_true]
    · left
      simp only [hnil, if_true, if_false]
      exact ⟨_, rfl⟩

section

variable {lax : Prop} {f : List Char → List Char} {d d' : Dialect}

section

variable {start start' : Nat} {r : List Char}

/-- An escape, if the pieces after it agree. -/
theorem agrees_pieces_escape (hf : KeepsLines f)
    (hrest : ∀ (t : List Char) (p : Piece), t.length < r.length →
      Agrees lax f ((pieces start t).finding.mapValue (p :: ·))
        ((pieces start' (f t)).finding.mapValue (p :: ·))) :
    Agrees lax f (pieces start ('\\' :: r)).finding (pieces start' ('\\' :: f r)).finding := by
  cases r with
  | nil =>
    rw [hf.nil, finding_pieces_backslash, finding_pieces_backslash]
    exact .fault _
  | cons a r =>
    by_cases hu : a = 'u'
    · subst hu
      rw [hf.cons _ _ (by decide), finding_pieces_numbered, finding_pieces_numbered, hf.hexUnit_eq]
      cases hunit : hexUnit 4 0 r with
      | none => exact .fault _
      | some found =>
        obtain ⟨m, t⟩ := found
        have hlength := length_of_hexUnit hunit
        simp only [Option.map_some, hf.eq_nil_iff]
        split
        · exact .fault _
        · exact hrest _ _ (by simp only [List.length_cons]; omega)
    · by_cases hcr : a = '\r'
      · obtain ⟨c', t, heq, hc', -⟩ := hf.cr r
        have hu' : c' ≠ 'u' := by rcases hc' with rfl | rfl <;> decide
        have hnone : namedEscape? c' = none := by rcases hc' with rfl | rfl <;> rfl
        have hnone' : namedEscape? '\r' = none := rfl
        rw [hcr, heq, finding_pieces_escape _ (by decide), finding_pieces_escape _ hu', hnone,
          hnone']
        exact .fault _
      · rw [hf.cons a r hcr, finding_pieces_escape _ hu, finding_pieces_escape _ hu]
        cases namedEscape? a with
        | none => exact .fault _
        | some a' => exact hrest _ _ (by simp)

/-- A character that stands for itself or is not allowed, if the pieces after it agree. -/
theorem agrees_pieces_char (hf : KeepsLines f) {c : Char} (hquote : c ≠ '"') (hslash : c ≠ '\\')
    (hrest : ∀ p : Piece, Agrees lax f ((pieces start r).finding.mapValue (p :: ·))
      ((pieces start' (f r)).finding.mapValue (p :: ·))) :
    Agrees lax f (pieces start (c :: r)).finding (pieces start' (f (c :: r))).finding := by
  by_cases hcr : c = '\r'
  · obtain ⟨c', t, heq, hc', -⟩ := hf.cr r
    have hquote' : c' ≠ '"' := by rcases hc' with rfl | rfl <;> decide
    have hslash' : c' ≠ '\\' := by rcases hc' with rfl | rfl <;> decide
    have hlow : c'.toNat < 0x20 := by rcases hc' with rfl | rfl <;> decide
    have hlow' : '\r'.toNat < 0x20 := by decide
    rw [finding_pieces_char _ hquote hslash, hcr, heq, finding_pieces_char _ hquote' hslash',
      if_pos hlow, if_pos hlow']
    exact .fault _
  · rw [hf.cons c r hcr, finding_pieces_char _ hquote hslash, finding_pieces_char _ hquote hslash]
    split
    · exact .fault _
    · exact hrest _

end

theorem agrees_pieces (hf : KeepsLines f) (start start' : Nat) (s : List Char) :
    Agrees lax f (pieces start s).finding (pieces start' (f s)).finding := by
  generalize hn : s.length = n
  induction n using Nat.strongRecOn generalizing s with
  | ind n ih =>
    cases s with
    | nil =>
      rw [hf.nil, finding_pieces_nil, finding_pieces_nil]
      exact .fault _
    | cons c r =>
      rw [List.length_cons] at hn
      by_cases hquote : c = '"'
      · subst hquote
        rw [hf.cons _ _ (by decide), finding_pieces_quote, finding_pieces_quote]
        exact .found _ _
      by_cases hslash : c = '\\'
      · subst hslash
        rw [hf.cons _ _ (by decide)]
        exact agrees_pieces_escape hf fun t p ht => (ih _ (by omega) t rfl).mapValue _
      · exact agrees_pieces_char hf hquote hslash fun p => (ih _ (by omega) r rfl).mapValue _

/-- Pieces that are joined strictly are joined alike when halves are repaired. -/
theorem joinPieces_of_strict (repair : Bool) {high : Option Nat} {ps : List Piece}
    {cs : List Char} (h : joinPieces false high ps = some cs) :
    joinPieces repair high ps = some cs := by
  have hlone {rest : Option (List Char)} (h : afterLone false rest = some cs) : False := by
    simp [afterLone] at h
  induction ps generalizing high cs with
  | nil =>
    cases high with
    | none => exact h
    | some n => exact absurd h (by simp [joinPieces, afterLone])
  | cons p ps ih =>
    cases p with
    | char c =>
      cases high with
      | none =>
        rw [joinPieces] at h ⊢
        obtain ⟨rest, hrest, rfl⟩ := Option.map_eq_some_iff.mp h
        rw [ih hrest (by simp [afterLone])]
        rfl
      | some n => exact absurd h (by simp [joinPieces, afterLone])
    | unit n =>
      cases high with
      | none =>
        rw [joinPieces] at h ⊢
        split at h
        · rename_i hhigh
          rw [if_pos hhigh]
          exact ih h (by simp [afterLone])
        split at h
        · exact absurd h (by simp [afterLone])
        · rename_i hhigh hlow
          rw [if_neg hhigh, if_neg hlow]
          obtain ⟨rest, hrest, rfl⟩ := Option.map_eq_some_iff.mp h
          rw [ih hrest (by simp [afterLone])]
          rfl
      | some m =>
        rw [joinPieces] at h ⊢
        split at h
        · rename_i hlow
          rw [if_pos hlow]
          obtain ⟨rest, hrest, rfl⟩ := Option.map_eq_some_iff.mp h
          rw [ih hrest (by simp [afterLone])]
          rfl
        split at h
        · exact absurd h (by simp [afterLone])
        · exact absurd h (by simp [afterLone])

theorem agrees_stringBody (hf : KeepsLines f) (hd : d'.Covers d) (s : List Char) :
    Agrees lax f (stringBody d s).finding (stringBody d' (f s)).finding := by
  rw [finding_stringBody, finding_stringBody, hd.strict]
  refine (agrees_pieces hf _ _ s).andThen fun ps r _ => ?_
  cases hjoin : joinPieces false none ps with
  | none => exact .loneSurrogate _
  | some cs =>
    rw [joinPieces_of_strict d'.repairSurrogates hjoin]
    exact .found _ _

theorem agrees_afterItem {α : Type} (hf : KeepsLines f) {close : Char}
    {more more' : List Char → Finding (List α)} (a : α) (r : List Char)
    (hmore : ∀ t, skipBlanks r = ',' :: t →
      Agrees lax f (more (skipBlanks t)) (more' (f (skipBlanks t)))) :
    Agrees lax f (afterItem close more a r) (afterItem close more' a (f r)) := by
  simp only [afterItem, hf.skipBlanks_eq]
  cases hr : skipBlanks r with
  | nil =>
    rw [hf.nil]
    exact .fault _
  | cons c t =>
    have hc : c ≠ '\r' := by
      rintro rfl
      have hhead := List.head?_dropWhile_not isBlank r
      rw [skipBlanks] at hr
      simp [hr, isBlank] at hhead
    simp only [hf.cons c t hc]
    by_cases hend : c = close
    · simp only [hend, if_true]
      exact .found _ _
    by_cases hcomma : c = ','
    · subst hcomma
      simp only [hend, if_false, if_true, hf.skipBlanks_eq]
      exact (hmore t hr).mapValue _
    · simp only [hend, hcomma, if_false]
      exact .fault _

/-- Rows of parts agree if each part does. -/
theorem agrees_row {α : Type} (hf : KeepsLines f) {close : Char}
    {one one' : List Char → Finding α} {more more' : List Char → Finding (List α)}
    (hmore : ∀ s, more s = (one s).andThen (afterItem close more))
    (hmore' : ∀ s, more' s = (one' s).andThen (afterItem close more'))
    (hshort : ∀ s a r, one s = .ok (a, r) → r.length < s.length)
    (hone : ∀ s, Agrees lax f (one s) (one' (f s))) (s : List Char) :
    Agrees lax f (more s) (more' (f s)) := by
  induction s using row_induction hshort with
  | row s ih =>
    rw [hmore, hmore']
    refine (hone s).andThen fun a r hfound => agrees_afterItem hf a r fun t ht => ?_
    exact ih a r t hfound ht

theorem agrees_afterOpening {α : Type} (hf : KeepsLines f) {close : Char} (hcr : close ≠ '\r')
    (hlf : close ≠ '\n') {more more' : List Char → Finding (List α)}
    (hmore : ∀ s, Agrees lax f (more s) (more' (f s))) (make : List α → Json) (s : List Char) :
    Agrees lax f (afterOpening close more make s) (afterOpening close more' make (f s)) := by
  simp only [afterOpening, hf.skipBlanks_eq, hf.head?_iff hcr hlf]
  split
  · rename_i hhead
    obtain ⟨t, ht⟩ := List.head?_eq_some_iff.mp hhead
    rw [ht, hf.cons _ _ hcr]
    exact .found _ _
  · exact (hmore _).mapValue _

theorem agrees_name (hf : KeepsLines f) (hd : d'.Covers d) (s : List Char) :
    Agrees lax f (name d s).finding (name d' (f s)).finding := by
  by_cases hquote : s.head? = some '"'
  · obtain ⟨t, rfl⟩ := List.head?_eq_some_iff.mp hquote
    rw [hf.cons _ _ (by decide), finding_name_quote, finding_name_quote]
    refine (agrees_stringBody hf hd t).andThen fun key r _ => ?_
    simp only [afterName, hf.skipBlanks_eq]
    by_cases hcolon : (skipBlanks r).head? = some ':'
    · obtain ⟨u, hu⟩ := List.head?_eq_some_iff.mp hcolon
      simp only [hu, hf.cons _ _ (show ':' ≠ '\r' by decide), hf.skipBlanks_eq]
      exact .found _ _
    · have hcolon' : (f (skipBlanks r)).head? ≠ some ':' := fun h =>
        hcolon ((hf.head?_iff (by decide) (by decide)).mp h)
      split
      · rename_i u hu
        exact absurd (by rw [hu]; rfl) hcolon
      · split
        · rename_i u hu
          exact absurd (by rw [hu]; rfl) hcolon'
        · exact .fault _
  · have hquote' : (f s).head? ≠ some '"' := fun h =>
      hquote ((hf.head?_iff (by decide) (by decide)).mp h)
    rw [finding_name_other d hquote, finding_name_other d' hquote']
    exact .fault _

theorem agrees_value_string (hf : KeepsLines f) (hd : d'.Covers d) (n n' : Nat)
    (r : List Char) :
    Agrees lax f (value d n ('"' :: r)).finding (value d' n' (f ('"' :: r))).finding := by
  rw [hf.cons _ _ (by decide), finding_value_quote, finding_value_quote]
  exact (agrees_stringBody hf hd r).mapValue _

theorem agrees_unsignedFinding (hf : KeepsLines f) (hd : d'.Covers d)
    (hlax : d.numbers ≠ d'.numbers → lax) (negative : Bool) (s : List Char) :
    Agrees lax f (unsignedFinding d.numbers negative s)
      (unsignedFinding d'.numbers negative (f s)) := by
  rw [hf.unsignedFinding_eq]
  by_cases hsame : d.numbers = d'.numbers
  · rw [hsame]
    exact .of_eq rfl
  · have hcharacters := hd.numbers.resolve_left hsame
    rw [hcharacters]
    rcases unsignedFinding_cases d'.numbers negative s with ⟨count, hcount⟩ | heq
    · rw [hcount]
      exact .tooLong (hlax hsame) count _
    · rw [heq]
      exact .of_eq rfl

theorem agrees_scalar (hf : KeepsLines f) (hd : d'.Covers d)
    (hlax : d.numbers ≠ d'.numbers → lax) (s : List Char) :
    Agrees lax f (scalar d.numbers s).finding (scalar d'.numbers (f s)).finding := by
  rw [finding_scalar, finding_scalar, hf.word?_eq]
  cases word? s with
  | some found => exact .of_eq rfl
  | none =>
    simp only [Option.map_none]
    by_cases hminus : s.head? = some '-'
    · obtain ⟨r, rfl⟩ := List.head?_eq_some_iff.mp hminus
      rw [hf.cons _ _ (by decide), finding_number_minus, finding_number_minus]
      exact agrees_unsignedFinding hf hd hlax true r
    · have hminus' : (f s).head? ≠ some '-' := fun h =>
        hminus ((hf.head?_iff (by decide) (by decide)).mp h)
      rw [finding_number _ hminus, finding_number _ hminus']
      exact agrees_unsignedFinding hf hd hlax false s

theorem agrees_value_scalar (hf : KeepsLines f) (hd : d'.Covers d)
    (hlax : d.numbers ≠ d'.numbers → lax) (n n' : Nat) {s : List Char}
    (hquote : s.head? ≠ some '"') (hlist : s.head? ≠ some '[') (hobject : s.head? ≠ some '{') :
    Agrees lax f (value d n s).finding (value d' n' (f s)).finding := by
  have hhead {c : Char} (hcr : c ≠ '\r') (hlf : c ≠ '\n') (h : s.head? ≠ some c) :
      (f s).head? ≠ some c := fun h' => h ((hf.head?_iff hcr hlf).mp h')
  rw [finding_value_scalar d n hquote hlist hobject, finding_value_scalar d' n'
    (hhead (by decide) (by decide) hquote) (hhead (by decide) (by decide) hlist)
    (hhead (by decide) (by decide) hobject)]
  exact agrees_scalar hf hd hlax s

/-- A value agrees with the value that a reader finds who goes as deep. -/
theorem agrees_value (hf : KeepsLines f) (hd : d'.Covers d)
    (hlax : d.numbers ≠ d'.numbers → lax) {n n' : Nat} (hn : n ≤ n') (s : List Char) :
    Agrees lax f (value d n s).finding (value d' n' (f s)).finding := by
  -- the induction is on the depth of the strict reader; the other one has at least as much left
  induction n generalizing n' s with
  | zero =>
    rcases value_cases s with ⟨r, rfl⟩ | ⟨r, rfl⟩ | ⟨r, rfl⟩ | ⟨hquote, hlist, hobject⟩
    · exact agrees_value_string hf hd _ _ r
    · rw [finding_value_zero_list, beneathFinding_of_nothing hd.nothingBeneath]
      exact .tooDeep _
    · rw [finding_value_zero_object, beneathFinding_of_nothing hd.nothingBeneath]
      exact .tooDeep _
    · exact agrees_value_scalar hf hd hlax _ _ hquote hlist hobject
  | succ n ih =>
    obtain ⟨m, rfl⟩ : ∃ m, n' = m + 1 := ⟨n' - 1, by omega⟩
    have hitem (s : List Char) : Agrees lax f (value d n s).finding (value d' m (f s)).finding :=
      ih (by omega) s
    rcases value_cases s with ⟨r, rfl⟩ | ⟨r, rfl⟩ | ⟨r, rfl⟩ | ⟨hquote, hlist, hobject⟩
    · exact agrees_value_string hf hd _ _ r
    · rw [hf.cons _ _ (by decide), finding_value_list, finding_value_list, finding_list,
        finding_list]
      refine agrees_afterOpening hf (by decide) (by decide) (fun s => ?_) _ r
      exact agrees_row hf (finding_items _) (finding_items _)
        (fun _ _ _ => length_lt_of_finding) hitem s
    · rw [hf.cons _ _ (by decide), finding_value_object, finding_value_object, finding_object,
        finding_object]
      have hentry (s : List Char) :
          Agrees lax f (entryFinding d (value d n) s) (entryFinding d' (value d' m) (f s)) :=
        (agrees_name hf hd s).andThen fun key v _ => (hitem v).mapValue _
      refine agrees_afterOpening hf (by decide) (by decide) (fun s => ?_) _ r
      exact agrees_row hf (finding_entries d _) (finding_entries d' _)
        (fun _ _ _ => length_lt_of_entryFinding) hentry s
    · exact agrees_value_scalar hf hd hlax _ _ hquote hlist hobject

/-- The strict reader stops at depth, at half of a pair or at a long number that the other reader
may take, or both readers say the same. -/
theorem verdict_agrees (hf : KeepsLines f) (hd : d'.Covers d) (t : List Char) :
    verdict d t = .error .tooDeep ∨ verdict d t = .error .loneSurrogate ∨
      (d.numbers ≠ d'.numbers ∧ ∃ count, verdict d t = .error (.tooManyDigits count)) ∨
      verdict d' (f t) = verdict d t := by
  have hmark : (f t).head? = some (Char.ofNat 0xFEFF) ↔ t.head? = some (Char.ofNat 0xFEFF) :=
    hf.head?_iff (by decide) (by decide)
  have hvalue : Agrees (d.numbers ≠ d'.numbers) f (value d d.depth (skipBlanks t)).finding
      (value d' d'.depth (skipBlanks (f t))).finding := by
    rw [hf.skipBlanks_eq]
    exact agrees_value hf hd id hd.depth_le (skipBlanks t)
  simp only [verdict_eq, hmark]
  generalize (value d d.depth (skipBlanks t)).finding = x at hvalue ⊢
  generalize (value d' d'.depth (skipBlanks (f t))).finding = y at hvalue ⊢
  split
  · exact Or.inr (Or.inr (Or.inr rfl))
  · cases hvalue with
    | found j r =>
      exact Or.inr (Or.inr (Or.inr (by simp only [hf.skipBlanks_eq, hf.eq_nil_iff])))
    | fault cause => exact Or.inr (Or.inr (Or.inr rfl))
    | tooDeep => exact Or.inl rfl
    | loneSurrogate => exact Or.inr (Or.inl rfl)
    | tooLong hlax count => exact Or.inr (Or.inr (Or.inl ⟨hlax, count, rfl⟩))

/-- A number that is too long for one reader is so for every reader with the same limit. -/
theorem verdict_of_tooManyDigits (hf : KeepsLines f) (hd : d'.Covers d)
    (hnumbers : d.numbers = d'.numbers) {t : List Char} {count : Nat}
    (h : verdict d t = .error (.tooManyDigits count)) :
    verdict d' (f t) = .error (.tooManyDigits count) := by
  rcases verdict_agrees hf hd t with hdeep | hlone | ⟨hlax, -⟩ | hsame
  · exact absurd (h.symm.trans hdeep) (by simp)
  · exact absurd (h.symm.trans hlone) (by simp)
  · exact absurd hnumbers hlax
  · exact hsame.trans h

theorem Orderly.verdict_eq {t : List Char} (h : Orderly t) (hf : KeepsLines f)
    (hd : d'.Covers commonDialect) (hnumbers : d'.numbers = .digits) :
    verdict d' (f t) = verdict commonDialect t := by
  rcases verdict_agrees hf hd t with hdeep | hlone | ⟨hlax, -⟩ | hsame
  · exact absurd hdeep h.notTooDeep
  · exact absurd hlone h.paired
  · exact absurd hnumbers.symm hlax
  · exact hsame

theorem Moderate.verdict_eq {t : List Char} (h : Moderate t) (hf : KeepsLines f)
    (hd : d'.Covers strictDialect) : verdict d' (f t) = verdict strictDialect t := by
  rcases verdict_agrees hf hd t with hdeep | hlone | ⟨-, count, hcount⟩ | hsame
  · exact absurd hdeep h.notTooDeep
  · exact absurd hlone h.paired
  · exact absurd hcount (h.notTooLong count)
  · exact hsame

theorem Moderate.verdict_commonDialect {t : List Char} (h : Moderate t) :
    verdict commonDialect t = verdict strictDialect t :=
  h.verdict_eq keepsLines_id covers_strictDialect

end

end PaymentConnector.Json
