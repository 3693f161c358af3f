import PaymentConnector.Text.Fields

/-!
Laws of cutting text. A text is free of a class if none of its characters is in the
class. A cut at the first character of a class runs through every text that is free
of the class and stops right before that character, and what lies before the cut is
free of the class.
-/

namespace PaymentConnector.Text

/-- No character of the text is in the class. -/
def Free (p : Char → Bool) (s : List Char) : Prop := ∀ c ∈ s, p c = false

variable {p : Char → Bool} {c d : Char} {s t : List Char}

theorem all_not_eq_true_iff : s.all (!p ·) = true ↔ Free p s := by simp [Free]

instance (p : Char → Bool) (s : List Char) : Decidable (Free p s) :=
  decidable_of_iff (s.all (!p ·) = true) all_not_eq_true_iff

/-- A character of a class differs from every character outside it. -/
theorem ne_of_class (hc : p c = true) (hd : p d = false) : c ≠ d := by
  rintro rfl
  exact Bool.noConfusion (hc.symm.trans hd)

namespace Free

theorem nil : Free p [] := fun _ h => absurd h List.not_mem_nil

theorem cons (hc : p c = false) (hs : Free p s) : Free p (c :: s) := by
  intro d hd
  rcases List.mem_cons.mp hd with rfl | hd
  · exact hc
  · exact hs d hd

theorem append (hs : Free p s) (ht : Free p t) : Free p (s ++ t) := by
  intro c hc
  rcases List.mem_append.mp hc with hc | hc
  · exact hs c hc
  · exact ht c hc

theorem reverse (hs : Free p s) : Free p s.reverse := fun c hc => hs c (List.mem_reverse.mp hc)

theorem notMem (hs : Free p s) (hc : p c = true) : c ∉ s := by
  intro hmem
  rw [hs c hmem] at hc
  exact Bool.noConfusion hc

end Free

theorem getLast?_of_append (h : (s ++ t).getLast? = some c) (ht : t ≠ []) :
    t.getLast? = some c := by
  rw [List.getLast?_append, List.getLast?_eq_some_getLast ht, Option.some_or] at h
  rw [List.getLast?_eq_some_getLast ht, h]

theorem cut_cons_of_mem (hc : p c = true) : cut p (c :: s) = ([], c :: s) := by
  simp [cut, hc]

theorem cut_cons_of_free (hc : p c = false) : cut p (c :: s) = (c :: (cut p s).1, (cut p s).2) := by
  simp [cut, hc]

theorem cut_append_of_free (hs : Free p s) : cut p (s ++ t) = (s ++ (cut p t).1, (cut p t).2) := by
  induction s with
  | nil => rfl
  | cons c s ih =>
    rw [List.cons_append, cut_cons_of_free (hs c List.mem_cons_self),
      ih fun d hd => hs d (List.mem_cons_of_mem c hd), List.cons_append]

theorem cut_append_cons (hs : Free p s) (hc : p c = true) : cut p (s ++ c :: t) = (s, c :: t) := by
  rw [cut_append_of_free hs, cut_cons_of_mem hc, List.append_nil]

theorem cut_of_free (hs : Free p s) : cut p s = (s, []) := by
  have h := cut_append_of_free (t := []) hs
  rw [List.append_nil] at h
  rw [h, show cut p [] = ([], []) from rfl, List.append_nil]

/-- A text is free of a class, or has a first character in it. -/
theorem free_or_exists_first (p : Char → Bool) (s : List Char) :
    Free p s ∨ ∃ before c after, s = before ++ c :: after ∧ Free p before ∧ p c = true := by
  induction s with
  | nil => exact Or.inl Free.nil
  | cons d s ih =>
    cases hd : p d with
    | true => exact Or.inr ⟨[], d, s, rfl, Free.nil, hd⟩
    | false =>
      rcases ih with hs | ⟨before, c, after, rfl, hbefore, hc⟩
      · exact Or.inl (hs.cons hd)
      · exact Or.inr ⟨d :: before, c, after, rfl, hbefore.cons hd, hc⟩

/-- A cut takes a text apart where the class begins. -/
theorem cut_eq_iff {before after : List Char} :
    cut p s = (before, after) ↔
      s = before ++ after ∧ Free p before ∧ ∀ c, after.head? = some c → p c = true := by
  constructor
  · intro h
    rcases free_or_exists_first p s with hs | ⟨first, c, rest, rfl, hfirst, hc⟩
    · rw [cut_of_free hs] at h
      obtain ⟨rfl, rfl⟩ := Prod.mk.inj h
      exact ⟨(List.append_nil s).symm, hs, by simp⟩
    · rw [cut_append_cons hfirst hc] at h
      obtain ⟨rfl, rfl⟩ := Prod.mk.inj h
      exact ⟨rfl, hfirst, by simpa using hc⟩
  · rintro ⟨rfl, hfree, hafter⟩
    cases after with
    | nil => rw [List.append_nil, cut_of_free hfree]
    | cons c after => exact cut_append_cons hfree (hafter c rfl)

theorem cutAround_append_cons (hs : Free p s) (hc : p c = true) :
    cutAround p (s ++ c :: t) = some (s, t) := by
  rw [cutAround, cut_append_cons hs hc]

theorem cutAround_of_free (hs : Free p s) : cutAround p s = none := by
  rw [cutAround, cut_of_free hs]

theorem cutAround_eq_some_iff {before after : List Char} :
    cutAround p s = some (before, after) ↔
      ∃ c, s = before ++ c :: after ∧ Free p before ∧ p c = true := by
  constructor
  · intro h
    rcases free_or_exists_first p s with hs | ⟨first, c, rest, rfl, hfirst, hc⟩
    · rw [cutAround_of_free hs] at h
      exact absurd h (by simp)
    · rw [cutAround_append_cons hfirst hc, Option.some.injEq, Prod.mk.injEq] at h
      obtain ⟨rfl, rfl⟩ := h
      exact ⟨c, rfl, hfirst, hc⟩
  · rintro ⟨c, rfl, hfree, hc⟩
    exact cutAround_append_cons hfree hc

theorem cutAround_eq_none_iff : cutAround p s = none ↔ Free p s := by
  refine ⟨fun h => ?_, cutAround_of_free⟩
  rcases free_or_exists_first p s with hs | ⟨first, c, rest, rfl, hfirst, hc⟩
  · exact hs
  · rw [cutAround_append_cons hfirst hc] at h
    exact absurd h (by simp)

theorem cutAroundLast_append_cons (ht : Free p t) (hc : p c = true) :
    cutAroundLast p (s ++ c :: t) = some (s, t) := by
  have hreverse : (s ++ c :: t).reverse = t.reverse ++ c :: s.reverse := by simp
  rw [cutAroundLast, hreverse, cutAround_append_cons ht.reverse hc]
  simp

theorem cutAroundLast_eq_some_iff {before after : List Char} :
    cutAroundLast p s = some (before, after) ↔
      ∃ c, s = before ++ c :: after ∧ Free p after ∧ p c = true := by
  constructor
  · intro h
    obtain ⟨⟨first, last⟩, hcut, heq⟩ := Option.map_eq_some_iff.mp h
    obtain ⟨rfl, rfl⟩ := Prod.mk.inj heq
    obtain ⟨c, hs, hfree, hc⟩ := cutAround_eq_some_iff.mp hcut
    refine ⟨c, ?_, hfree.reverse, hc⟩
    rw [← List.reverse_reverse s, hs]
    simp
  · rintro ⟨c, rfl, hfree, hc⟩
    exact cutAroundLast_append_cons hfree hc

theorem cutAroundLast_of_free (hs : Free p s) : cutAroundLast p s = none := by
  rw [cutAroundLast, cutAround_of_free hs.reverse, Option.map_none]

theorem fields_ne_nil : fields p s ≠ [] := by
  cases s with
  | nil => simp [fields]
  | cons c s =>
    unfold fields
    split
    · simp
    · split <;> simp

theorem fields_cons_of_free (hc : p c = false) :
    ∃ f fs, fields p s = f :: fs ∧ fields p (c :: s) = (c :: f) :: fs := by
  cases h : fields p s with
  | nil => exact absurd h fields_ne_nil
  | cons f fs => exact ⟨f, fs, rfl, by simp [fields, hc, h]⟩

theorem fields_append_cons (hs : Free p s) (hc : p c = true) :
    fields p (s ++ c :: t) = s :: fields p t := by
  induction s with
  | nil => simp [fields, hc]
  | cons d s ih =>
    have hrest := ih fun e he => hs e (List.mem_cons_of_mem d he)
    simp [fields, hs d List.mem_cons_self, hrest]

theorem fields_of_free (hs : Free p s) : fields p s = [s] := by
  induction s with
  | nil => rfl
  | cons d s ih =>
    have hrest := ih fun e he => hs e (List.mem_cons_of_mem d he)
    simp [fields, hs d List.mem_cons_self, hrest]

/-- The fields with what separates them are the whole text. -/
theorem intercalate_fields (c : Char) (s : List Char) :
    [c].intercalate (fields (· = c) s) = s := by
  induction s with
  | nil => rfl
  | cons d s ih =>
    by_cases hd : d = c
    · obtain ⟨f, fs, hfields⟩ := List.exists_cons_of_ne_nil (fields_ne_nil (p := (· = c)) (s := s))
      rw [fields, if_pos (decide_eq_true hd)]
      rw [hfields] at ih ⊢
      rw [List.intercalate_cons_cons, ih, hd]
      rfl
    · have hfree : decide (d = c) = false := decide_eq_false hd
      obtain ⟨f, fs, hfields, hcons⟩ := fields_cons_of_free (p := (· = c)) (s := s) hfree
      rw [hfields] at ih
      rw [hcons, ← ih]
      cases fs with
      | nil => simp
      | cons g gs => simp [List.intercalate_cons_cons]

/-- Parts without separators are the fields of the text that they make. -/
theorem fields_intercalate (hc : p c = true) {parts : List (List Char)} (hne : parts ≠ [])
    (hfree : ∀ part ∈ parts, Free p part) : fields p ([c].intercalate parts) = parts := by
  induction parts with
  | nil => exact absurd rfl hne
  | cons part rest ih =>
    obtain ⟨hpart, hrest⟩ := List.forall_mem_cons.mp hfree
    cases rest with
    | nil => rw [List.intercalate_singleton, fields_of_free hpart]
    | cons next rest =>
      rw [List.intercalate_cons_cons, List.append_assoc, List.singleton_append,
        fields_append_cons hpart hc, ih (List.cons_ne_nil _ _) hrest]

/-- A field has characters of the text only, and none that separates. -/
theorem mem_of_mem_fields {f : List Char} (hf : f ∈ fields p s) (hc : c ∈ f) :
    c ∈ s ∧ p c = false := by
  induction s generalizing f with
  | nil =>
    rw [fields, List.mem_singleton] at hf
    exact absurd (hf ▸ hc) List.not_mem_nil
  | cons d s ih =>
    cases hd : p d with
    | true =>
      rw [fields, if_pos hd, List.mem_cons] at hf
      rcases hf with rfl | hf
      · exact absurd hc List.not_mem_nil
      · exact ⟨List.mem_cons_of_mem d (ih hf hc).1, (ih hf hc).2⟩
    | false =>
      obtain ⟨g, gs, hs, hds⟩ := fields_cons_of_free (s := s) hd
      rw [hds, List.mem_cons] at hf
      rcases hf with rfl | hf
      · rcases List.mem_cons.mp hc with rfl | hc
        · exact ⟨List.mem_cons_self, hd⟩
        · have hg := ih (hs ▸ List.mem_cons_self) hc
          exact ⟨List.mem_cons_of_mem d hg.1, hg.2⟩
      · have hg := ih (hs ▸ List.mem_cons_of_mem g hf) hc
        exact ⟨List.mem_cons_of_mem d hg.1, hg.2⟩

end PaymentConnector.Text
