import Mathlib.Data.List.TakeWhile
import PaymentConnector.Text.Blank

/-!
Trimmed texts. What is trimmed off a text belongs to the class at both ends, and what is left
neither starts nor ends in the class. A text with members of the class around it is trimmed to
itself if it has such ends.
-/

namespace PaymentConnector.Text

variable {p : Char → Bool} {c : Char}

theorem dropWhile_append_cons (hc : p c = false) (s t : List Char) :
    (s ++ c :: t).dropWhile p = s.dropWhile p ++ c :: t := by
  have hcons : (c :: t).dropWhile p = c :: t := List.dropWhile_cons_of_neg (by simp [hc])
  rw [List.dropWhile_append, hcons]
  split
  · rename_i hempty
    rw [List.isEmpty_iff.mp hempty, List.nil_append]
  · rfl

/-- A trimmed text is trimmed on each side of every character that stays. -/
theorem trim_append_cons (hc : p c = false) (s t : List Char) :
    trim p (s ++ c :: t) = s.dropWhile p ++ c :: (t.reverse.dropWhile p).reverse := by
  have hreverse : (s.dropWhile p ++ c :: t).reverse =
      t.reverse ++ c :: (s.dropWhile p).reverse := by simp
  rw [trim, dropWhile_append_cons hc, hreverse, dropWhile_append_cons hc]
  simp

theorem trim_eq_nil_iff {s : List Char} : trim p s = [] ↔ ∀ ch ∈ s, p ch = true := by
  rw [trim, List.reverse_eq_nil_iff, List.dropWhile_eq_nil_iff]
  simp only [List.mem_reverse]
  constructor
  · intro h ch hch
    rw [← List.takeWhile_append_dropWhile (p := p) (l := s), List.mem_append] at hch
    rcases hch with hfront | hback
    · exact List.mem_takeWhile_imp hfront
    · exact h ch hback
  · intro h ch hch
    exact h ch (List.dropWhile_subset p hch)

/-- Every character is of a class. -/
def Within (p : Char → Bool) (w : List Char) : Prop := ∀ c ∈ w, p c = true

instance (p : Char → Bool) (w : List Char) : Decidable (Within p w) :=
  decidable_of_iff (w.all p = true) List.all_eq_true

theorem dropWhile_append_of_within {w : List Char} (hw : Within p w) (t : List Char) :
    (w ++ t).dropWhile p = t.dropWhile p := List.dropWhile_append_of_pos hw

/-- A text is what is left of it between members of the class. -/
theorem exists_append_trim (p : Char → Bool) (s : List Char) :
    ∃ w w', Within p w ∧ Within p w' ∧ s = w ++ trim p s ++ w' := by
  have hback : s.dropWhile p = trim p s ++ ((s.dropWhile p).reverse.takeWhile p).reverse := by
    rw [trim, ← List.reverse_append, List.takeWhile_append_dropWhile, List.reverse_reverse]
  refine ⟨s.takeWhile p, ((s.dropWhile p).reverse.takeWhile p).reverse, ?_, ?_, ?_⟩
  · exact fun c hc => List.mem_takeWhile_imp hc
  · exact fun c hc => List.mem_takeWhile_imp (List.mem_reverse.mp hc)
  · rw [List.append_assoc, ← hback, List.takeWhile_append_dropWhile]

/-- Neither the first nor the last character is of a class. -/
structure Trimmed (p : Char → Bool) (t : List Char) : Prop where
  head : ∀ c ∈ t.head?, p c = false
  last : ∀ c ∈ t.getLast?, p c = false

theorem dropWhile_of_head {t : List Char} (h : ∀ c ∈ t.head?, p c = false) : t.dropWhile p = t := by
  cases t with
  | nil => rfl
  | cons c t => exact List.dropWhile_cons_of_neg (by simp [h c rfl])

theorem Trimmed.trim_eq {t w w' : List Char} (ht : Trimmed p t) (hw : Within p w)
    (hw' : Within p w') : trim p (w ++ t ++ w') = t := by
  have hback : Within p w'.reverse := fun c hc => hw' c (List.mem_reverse.mp hc)
  cases t with
  | nil =>
    rw [List.append_nil, trim_eq_nil_iff]
    exact List.forall_mem_append.mpr ⟨hw, hw'⟩
  | cons c t =>
    have hfront : (c :: t ++ w').dropWhile p = c :: t ++ w' := dropWhile_of_head ht.head
    rw [trim, List.append_assoc, dropWhile_append_of_within hw, hfront, List.reverse_append,
      dropWhile_append_of_within hback, dropWhile_of_head, List.reverse_reverse]
    rw [List.head?_reverse]
    exact ht.last

theorem head?_dropWhile (p : Char → Bool) (s : List Char) :
    ∀ c ∈ (s.dropWhile p).head?, p c = false := by
  intro c hc
  have hnot := List.head?_dropWhile_not p s
  rwa [Option.mem_def.mp hc] at hnot

theorem trimmed_trim (p : Char → Bool) (s : List Char) : Trimmed p (trim p s) where
  head := by
    -- what is dropped at the end does not reach the first character that stays
    intro c hc
    have hprefix : trim p s <+: s.dropWhile p := by
      rw [trim, ← List.reverse_suffix, List.reverse_reverse]
      exact List.dropWhile_suffix p
    obtain ⟨rest, hrest⟩ := hprefix
    apply head?_dropWhile p s
    rw [← hrest, List.head?_append, hc, Option.some_or]
    rfl
  last := by
    rw [trim, List.getLast?_reverse]
    exact head?_dropWhile p _

/-- Members of the class around a text do not change what is left of it. -/
theorem trim_append {w w' : List Char} (hw : Within p w) (hw' : Within p w') (s : List Char) :
    trim p (w ++ s ++ w') = trim p s := by
  obtain ⟨v, v', hv, hv', hs⟩ := exists_append_trim p s
  have hwide : w ++ s ++ w' = (w ++ v) ++ trim p s ++ (v' ++ w') := by
    calc w ++ s ++ w' = w ++ (v ++ trim p s ++ v') ++ w' := by rw [← hs]
      _ = (w ++ v) ++ trim p s ++ (v' ++ w') := by simp only [List.append_assoc]
  rw [hwide]
  exact (trimmed_trim p s).trim_eq (List.forall_mem_append.mpr ⟨hw, hv⟩)
    (List.forall_mem_append.mpr ⟨hv', hw'⟩)

end PaymentConnector.Text
