import PaymentConnector.Proofs.NestedValues
import PaymentConnector.Proofs.SpelledStrings

/-!
Values as they are written in JSON text. Items stand between brackets, with a comma and
blanks between them. A text of a value is read back as that value in every dialect that goes
deep enough and takes its numbers, whatever follows the text. A written text is ASCII; it stands
for the value it was written for, apart from the digits of fractional numbers.
-/

namespace PaymentConnector.Json

/-! Blanks -/

/-- Nothing but blanks. -/
def Blanks (w : List Char) : Prop := ∀ c ∈ w, isBlank c = true

theorem blanks_nil : Blanks [] := fun _ hc => absurd hc List.not_mem_nil

/-- The first character of a value. -/
def Starts (t : List Char) : Prop :=
  ∃ c r, t = c :: r ∧ c ∉ [' ', '\t', '\n', '\r', ']', '}', Char.ofNat 0xFEFF]

theorem skipBlanks_append {w : List Char} (hw : Blanks w) (r : List Char) :
    skipBlanks (w ++ r) = skipBlanks r := List.dropWhile_append_of_pos hw

theorem skipBlanks_cons {c : Char} (hc : isBlank c = false) (r : List Char) :
    skipBlanks (c :: r) = c :: r := by
  rw [skipBlanks, List.dropWhile_cons_of_neg]
  simp [hc]

theorem Starts.append {t : List Char} (h : Starts t) (r : List Char) : Starts (t ++ r) := by
  obtain ⟨c, u, rfl, hc⟩ := h
  exact ⟨c, u ++ r, rfl, hc⟩

theorem Starts.skipBlanks_eq {t : List Char} (h : Starts t) : skipBlanks t = t := by
  obtain ⟨c, u, rfl, hc⟩ := h
  simp only [List.mem_cons, not_or] at hc
  have hblank : isBlank c = false := by simp [isBlank, hc.1, hc.2.1, hc.2.2.1, hc.2.2.2.1]
  exact skipBlanks_cons hblank u

theorem follows_nil : Follows [] := by
  intro c hc
  exact absurd hc (by simp)

theorem follows_cons {c : Char} (hc : isBlank c = true ∨ c = ',' ∨ c = ']' ∨ c = '}')
    (r : List Char) : Follows (c :: r) := by
  intro c' hc'
  obtain rfl : c = c' := Option.some.inj hc'
  exact hc

theorem Follows.of_blanks {w r : List Char} (hw : Blanks w) (hr : Follows r) :
    Follows (w ++ r) := by
  cases w with
  | nil => exact hr
  | cons c w => exact follows_cons (Or.inl (hw c List.mem_cons_self)) _

/-! Rows of texts -/

/-- Texts between brackets, with blanks before the first, after every comma and behind the
last of them. -/
def bracketed (left : Char) (w₀ w w' : List Char) (right : Char) (ts : List (List Char)) :
    List Char :=
  left :: (w₀ ++ (joinWith (',' :: w) ts ++ (w' ++ [right])))

section

variable {α β : Type} {close : Char} {one : List Char → Finding α}
  {more : List Char → Finding (List α)} {w₀ w w' : List Char}
  {parts : List β} {val : β → α} {text : β → List Char}

theorem afterItem_blanks_close (hclose : isBlank close = false) (hw' : Blanks w') (a : α)
    (r : List Char) : afterItem close more a (w' ++ close :: r) = .ok ([a], r) := by
  have hskip : skipBlanks (w' ++ close :: r) = close :: r := by
    rw [skipBlanks_append hw', skipBlanks_cons hclose]
  simp [afterItem, hskip]

theorem afterItem_comma (hclose : close ≠ ',') (hw : Blanks w) (a : α) {t : List Char}
    (ht : Starts t) :
    afterItem close more a (',' :: (w ++ t)) = (more t).mapValue (a :: ·) := by
  have hskip : skipBlanks (',' :: (w ++ t)) = ',' :: (w ++ t) := skipBlanks_cons rfl _
  have hnext : skipBlanks (w ++ t) = t := by rw [skipBlanks_append hw, ht.skipBlanks_eq]
  simp [afterItem, hskip, hnext, hclose.symm]

/-- Texts that are each read as a part are read together as the parts. -/
theorem finding_row (hclose : close = ']' ∨ close = '}')
    (hmore : ∀ s, more s = (one s).andThen (afterItem close more))
    (hw : Blanks w) (hw' : Blanks w') (hstart : ∀ e ∈ parts, Starts (text e))
    (hone : ∀ e ∈ parts, ∀ r, Follows r → one (text e ++ r) = .ok (val e, r))
    (hparts : parts ≠ []) (r : List Char) :
    more (joinWith (',' :: w) (parts.map text) ++ (w' ++ close :: r)) =
      .ok (parts.map val, r) := by
  have hblank : isBlank close = false := by rcases hclose with rfl | rfl <;> rfl
  have hcomma : close ≠ ',' := by rcases hclose with rfl | rfl <;> decide
  induction parts with
  | nil => exact absurd rfl hparts
  | cons e rest ih =>
    have hhead := hone e List.mem_cons_self
    cases rest with
    | nil =>
      have hfollows : Follows (w' ++ close :: r) :=
        Follows.of_blanks hw' (follows_cons (Or.inr (Or.inr hclose)) r)
      rw [List.map_singleton, joinWith, hmore, hhead _ hfollows, Finding.andThen_ok,
        afterItem_blanks_close hblank hw']
      rfl
    | cons e' rest =>
      have hrest := ih (fun e he => hstart e (List.mem_cons_of_mem _ he))
        (fun e he => hone e (List.mem_cons_of_mem _ he)) (List.cons_ne_nil _ _)
      have hnext : Starts (joinWith (',' :: w) ((e' :: rest).map text) ++ (w' ++ close :: r)) := by
        have hstart' : Starts (text e') := hstart e' (by simp)
        cases rest with
        | nil => exact hstart'.append _
        | cons e'' rest => exact ((hstart'.append _).append _).append _
      have hsplit : joinWith (',' :: w) ((e :: e' :: rest).map text) ++ (w' ++ close :: r) =
          text e ++ ',' :: (w ++
            (joinWith (',' :: w) ((e' :: rest).map text) ++ (w' ++ close :: r))) := by
        simp [joinWith]
      rw [hsplit, hmore, hhead _ (follows_cons (by simp) _), Finding.andThen_ok,
        afterItem_comma hcomma hw _ hnext, hrest]
      rfl

theorem afterOpening_bracketed (hclose : close = ']' ∨ close = '}')
    (hmore : ∀ s, more s = (one s).andThen (afterItem close more))
    (hw₀ : Blanks w₀) (hw : Blanks w) (hw' : Blanks w') (hstart : ∀ e ∈ parts, Starts (text e))
    (hone : ∀ e ∈ parts, ∀ r, Follows r → one (text e ++ r) = .ok (val e, r))
    (make : List α → Json) (left : Char) (r : List Char) :
    afterOpening close more make ((bracketed left w₀ w w' close (parts.map text)).tail ++ r) =
      .ok (make (parts.map val), r) := by
  have hblank : isBlank close = false := by rcases hclose with rfl | rfl <;> rfl
  have htext : (bracketed left w₀ w w' close (parts.map text)).tail ++ r =
      w₀ ++ (joinWith (',' :: w) (parts.map text) ++ (w' ++ close :: r)) := by
    simp [bracketed]
  rw [htext, afterOpening, skipBlanks_append hw₀]
  cases parts with
  | nil =>
    have hskip : skipBlanks (w' ++ close :: r) = close :: r := by
      rw [skipBlanks_append hw', skipBlanks_cons hblank]
    simp [joinWith, hskip]
  | cons e rest =>
    have hnext : Starts (joinWith (',' :: w) ((e :: rest).map text) ++ (w' ++ close :: r)) := by
      have hstart' : Starts (text e) := hstart e List.mem_cons_self
      cases rest with
      | nil => exact hstart'.append _
      | cons e' rest => exact ((hstart'.append _).append _).append _
    have hhead : (joinWith (',' :: w) ((e :: rest).map text) ++ (w' ++ close :: r)).head? ≠
        some close := by
      obtain ⟨c, u, heq, hc⟩ := hnext
      rw [heq]
      rintro ⟨⟩
      rcases hclose with rfl | rfl <;> exact hc (by simp)
    rw [hnext.skipBlanks_eq, if_neg hhead,
      finding_row hclose hmore hw hw' hstart hone (List.cons_ne_nil _ _)]
    rfl

end

/-! The grammar -/

/-- The text of an entry. -/
def entryText (key : String) (t : List Char) : List Char := stringText key ++ ':' :: ' ' :: t

/-- A value that is no list, object or string, with the text that is written for it. -/
inductive IsScalar (l : NumberLimit) : Json → List Char → Prop
  | word {j : Json} {t : List Char} (h : IsWord j t) : IsScalar l j t
  | whole {n : Int} (h : l.Takes n) : IsScalar l (.int n) (intText n)
  | decimal {n : Nat} {p : Int} {t : List Char} (h : IsDecimal n p t) :
      IsScalar l (.float (.ofDecimal false n p)) t
  | minus {n : Nat} {p : Int} {t : List Char} (h : IsDecimal n p t) :
      IsScalar l (.float (.ofDecimal true n p)) ('-' :: t)

/-- A value with a text that stands for it where a limit holds. -/
inductive IsText (l : NumberLimit) : Json → List Char → Prop
  | scalar {j : Json} {t : List Char} (h : IsScalar l j t) : IsText l j t
  | string (s : String) : IsText l (.str s) (stringText s)
  | list {β : Type} {parts : List β} {val : β → Json} {text : β → List Char}
      {w₀ w w' : List Char} (hw₀ : Blanks w₀) (hw : Blanks w) (hw' : Blanks w')
      (hparts : ∀ e ∈ parts, IsText l (val e) (text e)) :
      IsText l (.arr (parts.map val)) (bracketed '[' w₀ w w' ']' (parts.map text))
  | object {β : Type} {parts : List β} {key : β → String} {val : β → Json}
      {text : β → List Char} {w₀ w w' : List Char} (hw₀ : Blanks w₀) (hw : Blanks w)
      (hw' : Blanks w') (hkeys : (parts.map key).Nodup)
      (hparts : ∀ e ∈ parts, IsText l (val e) (text e)) :
      IsText l (.obj (parts.map fun e => (key e, val e)))
        (bracketed '{' w₀ w w' '}' (parts.map fun e => entryText (key e) (text e)))

section

variable {l : NumberLimit}

theorem IsWord.exists_cons {j : Json} {t : List Char} (h : IsWord j t) :
    j.depth = 0 ∧ ∃ c r, t = c :: r ∧ (c.isAlphanum = true ∨ c = '-') := by
  obtain ⟨w, hw, rfl⟩ := h
  simp only [words, List.mem_cons, Prod.mk.injEq, List.not_mem_nil, or_false] at hw
  rcases hw with ⟨rfl, rfl⟩ | ⟨rfl, rfl⟩ | ⟨rfl, rfl⟩ | ⟨rfl, rfl⟩ | ⟨rfl, rfl⟩ | ⟨rfl, rfl⟩ <;>
    exact ⟨rfl, _, _, rfl, by decide⟩

theorem IsWhole.exists_cons {w : List Char} (hw : IsWhole w) (t : List Char) :
    ∃ c r, w ++ t = c :: r ∧ c.isAlphanum = true := by
  obtain ⟨c, w, rfl⟩ := List.exists_cons_of_ne_nil hw.ne_nil
  have hc : c.isDigit = true := hw.digits c List.mem_cons_self
  exact ⟨c, w ++ t, rfl, by simp [Char.isAlphanum, hc]⟩

theorem IsScalar.exists_cons {j : Json} {t : List Char} (h : IsScalar l j t) :
    j.depth = 0 ∧ ∃ c r, t = c :: r ∧ (c.isAlphanum = true ∨ c = '-') := by
  cases h with
  | word h => exact h.exists_cons
  | @whole n h =>
    refine ⟨rfl, ?_⟩
    unfold intText
    split
    · exact ⟨_, _, rfl, Or.inr rfl⟩
    · obtain ⟨c, r, heq, hc⟩ := (isWhole_toDigits n.natAbs).exists_cons []
      rw [List.append_nil] at heq
      exact ⟨c, r, heq, Or.inl hc⟩
  | decimal h =>
    obtain ⟨w, ds, e, x, hw, hshort, hds, he, hne⟩ := h
    rw [List.append_assoc]
    obtain ⟨c, r, heq, hc⟩ := hw.exists_cons (fractionText ds ++ e)
    exact ⟨rfl, c, r, heq, Or.inl hc⟩
  | minus h => exact ⟨rfl, _, _, rfl, Or.inr rfl⟩

theorem starts_cons {c : Char} (hc : c.isAlphanum = true ∨ c = '-') (r : List Char) :
    Starts (c :: r) := by
  refine ⟨c, r, rfl, fun hmem => ?_⟩
  have hall : ∀ c ∈ [' ', '\t', '\n', '\r', ']', '}', Char.ofNat 0xFEFF],
      c.isAlphanum = false ∧ c ≠ '-' := by simp
  obtain ⟨hclass, hminus⟩ := hall c hmem
  simp [hclass, hminus] at hc

theorem IsScalar.starts {j : Json} {t : List Char} (h : IsScalar l j t) : Starts t := by
  obtain ⟨-, c, r, rfl, hc⟩ := h.exists_cons
  exact starts_cons hc r

theorem IsWhole.starts {w : List Char} (hw : IsWhole w) : Starts w := by
  obtain ⟨c, r, heq, hc⟩ := hw.exists_cons []
  rw [List.append_nil] at heq
  rw [heq]
  exact starts_cons (Or.inl hc) r

theorem Starts.head?_ne_mark {t : List Char} (h : Starts t) :
    t.head? ≠ some (Char.ofNat 0xFEFF) := by
  obtain ⟨c, r, rfl, hc⟩ := h
  rintro ⟨⟩
  exact hc (by simp)

theorem IsText.starts {j : Json} {t : List Char} (h : IsText l j t) : Starts t := by
  cases h with
  | scalar h => exact h.starts
  | string s => exact ⟨_, _, rfl, by decide⟩
  | list => exact ⟨_, _, rfl, by decide⟩
  | object => exact ⟨_, _, rfl, by decide⟩

/-! Reading a text -/

theorem finding_value_cons {c : Char} (hc : c.isAlphanum = true ∨ c = '-') (d : Dialect)
    (n : Nat) (r : List Char) :
    (value d n (c :: r)).finding = (Json.scalar d.numbers (c :: r)).finding := by
  have hall : ∀ c ∈ ['"', '[', '{'], c.isAlphanum = false ∧ c ≠ '-' := by simp
  have hne : c ∉ ['"', '[', '{'] := by
    intro hmem
    obtain ⟨hclass, hminus⟩ := hall c hmem
    simp [hclass, hminus] at hc
  simp only [List.mem_cons, List.not_mem_nil, or_false, not_or] at hne
  exact finding_value_scalar d n (by simpa using hne.1) (by simpa using hne.2.1)
    (by simpa using hne.2.2)

theorem IsScalar.finding_value {d : Dialect} {j : Json} {t : List Char}
    (h : IsScalar d.numbers j t) (n : Nat) {r : List Char} (hr : Follows r) :
    (value d n (t ++ r)).finding = .ok (j, r) := by
  have hread : (Json.scalar d.numbers (t ++ r)).finding = .ok (j, r) := by
    cases h with
    | word h => exact finding_scalar_word _ h r
    | whole h => exact finding_scalar_intText h hr
    | decimal h => exact (finding_scalar_decimal _ h hr).1
    | minus h => exact (finding_scalar_decimal _ h hr).2
  obtain ⟨-, c, u, rfl, hc⟩ := h.exists_cons
  rw [List.cons_append, finding_value_cons hc]
  exact hread

theorem finding_stringText (d : Dialect) (s : String) (r : List Char) :
    (stringBody d ((stringText s).tail ++ r)).finding = .ok (s, r) := by
  have htext : (stringText s).tail ++ r = s.toList.flatMap escapeChar ++ '"' :: r := by
    simp [stringText]
  rw [htext, finding_stringBody_flatMap]

theorem entryFinding_entryText {d : Dialect} {item : (s : List Char) → Step Json s} {key : String}
    {j : Json} {t r : List Char} (ht : Starts t) (hitem : (item (t ++ r)).finding = .ok (j, r)) :
    entryFinding d item (entryText key t ++ r) = .ok ((key, j), r) := by
  have htext : entryText key t ++ r = '"' :: ((stringText key).tail ++ ':' :: ' ' :: (t ++ r)) := by
    simp [entryText, stringText]
  have hcolon : skipBlanks (':' :: ' ' :: (t ++ r)) = ':' :: ' ' :: (t ++ r) :=
    skipBlanks_cons rfl _
  have hvalue : skipBlanks (' ' :: (t ++ r)) = t ++ r := by
    have hblank : Blanks [' '] := by simp [Blanks, isBlank]
    exact (skipBlanks_append hblank _).trans (ht.append r).skipBlanks_eq
  rw [htext, entryFinding, finding_name_quote, finding_stringText, Finding.andThen_ok, afterName,
    hcolon]
  simp only [Finding.andThen_ok, hvalue, hitem, Finding.mapValue_ok]

/-- A value is read back from its text, whatever may follow. -/
theorem IsText.finding_value {d : Dialect} {j : Json} {t : List Char} (h : IsText d.numbers j t)
    {n : Nat} (hn : j.depth ≤ n) {r : List Char} (hr : Follows r) :
    (value d n (t ++ r)).finding = .ok (j, r) := by
  induction h generalizing n r with
  | scalar h => exact h.finding_value n hr
  | string s =>
    have htext : stringText s ++ r = '"' :: ((stringText s).tail ++ r) := rfl
    rw [htext, finding_value_quote, finding_stringText]
    rfl
  | @list β parts val text w₀ w w' hw₀ hw hw' hparts ih =>
    -- the opening bracket takes one level, so one level less is left for the items
    obtain ⟨m, rfl⟩ : ∃ m, n = m + 1 := ⟨n - 1, by rw [depth] at hn; omega⟩
    have hdepth := itemsDepth_le_iff.mp (Nat.le_of_succ_le_succ hn)
    have htext : bracketed '[' w₀ w w' ']' (parts.map text) ++ r =
        '[' :: ((bracketed '[' w₀ w w' ']' (parts.map text)).tail ++ r) := rfl
    rw [htext, finding_value_list, finding_list]
    refine afterOpening_bracketed (Or.inl rfl) (finding_items _) hw₀ hw hw'
      (fun e he => (hparts e he).starts) (fun e he r hr => ?_) _ _ _
    exact ih e he (hdepth _ (List.mem_map_of_mem he)) hr
  | @object β parts key val text w₀ w w' hw₀ hw hw' hkeys hparts ih =>
    obtain ⟨m, rfl⟩ : ∃ m, n = m + 1 := ⟨n - 1, by rw [depth] at hn; omega⟩
    have hdepth := entriesDepth_le_iff.mp (Nat.le_of_succ_le_succ hn)
    have htext : bracketed '{' w₀ w w' '}' (parts.map fun e => entryText (key e) (text e)) ++ r =
        '{' :: ((bracketed '{' w₀ w w' '}'
          (parts.map fun e => entryText (key e) (text e))).tail ++ r) := rfl
    have hnodup : ((parts.map fun e => (key e, val e)).map Prod.fst).Nodup := by
      rwa [List.map_map]
    have hstart : ∀ e ∈ parts, Starts (entryText (key e) (text e)) := by
      intro e _
      exact ⟨'"', _, rfl, by decide⟩
    have hone : ∀ e ∈ parts, ∀ r, Follows r →
        entryFinding d (value d m) (entryText (key e) (text e) ++ r) =
          .ok ((key e, val e), r) := by
      intro e he r hr
      have hmem : (key e, val e) ∈ parts.map fun e => (key e, val e) :=
        List.mem_map_of_mem (f := fun e => (key e, val e)) he
      exact entryFinding_entryText (hparts e he).starts (ih e he (hdepth _ hmem) hr)
    rw [htext, finding_value_object, finding_object,
      afterOpening_bracketed (Or.inr rfl) (finding_entries d _) hw₀ hw hw' hstart hone,
      Entries.ofList_of_nodup hnodup]

/-- A text stands for its value as a whole. -/
theorem IsText.verdict_eq {d : Dialect} {j : Json} {t : List Char} (h : IsText d.numbers j t)
    (hdepth : j.depth ≤ d.depth) : verdict d t = .ok j := by
  have hread := h.finding_value hdepth follows_nil
  rw [List.append_nil] at hread
  rw [Json.verdict_eq, if_neg h.starts.head?_ne_mark, h.starts.skipBlanks_eq, hread]
  rfl

/-- A whole number with too many digits is a fault. -/
theorem IsWhole.verdict_eq_error {w : List Char} (hw : IsWhole w) {d : Dialect}
    (hlong : ¬ d.numbers.Admits false true w) :
    verdict d w = .error (.tooManyDigits w.length) := by
  have hread : (value d d.depth w).finding = .error (.tooManyDigits w.length) := by
    have hnumber := unsignedFinding_overlong hw hlong follows_nil.endsNumber
    rw [List.append_nil, ← finding_scalar_digits _ hw.digits hw.ne_nil
      (List.append_nil w).symm] at hnumber
    obtain ⟨c, r, heq, hc⟩ := hw.exists_cons []
    rw [List.append_nil] at heq
    rw [heq, finding_value_cons (Or.inl hc), ← heq]
    exact hnumber
  rw [Json.verdict_eq, if_neg hw.starts.head?_ne_mark, hw.starts.skipBlanks_eq, hread]

end

theorem read_eq_ok_iff {d : Dialect} {t : List Char} {j : Json} :
    read d t = .ok j ↔ verdict d t = .ok j := by
  rw [verdict]
  cases read d t <;> simp

end PaymentConnector.Json
