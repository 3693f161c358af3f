import Mathlib.Tactic.Choose
import PaymentConnector.Proofs.SpelledValues
import PaymentConnector.Text.Composed

/-!
The texts that are written for values. Both ways of writing, on one line and on many, are
layouts: they share the texts of scalars and put blanks of their own into lists and objects.
In every layout a text stands for its value, apart from the digits of fractional numbers, and
consists of ASCII characters.
-/

namespace PaymentConnector.Json

open Text

/-! Layouts -/

/-- A way to write values, given how deep they stand. -/
structure Layout (write : Nat → Json → List Char) : Prop where
  null : ∀ n, write n .null = "null".toList
  bool : ∀ n b, write n (.bool b) = (if b then "true" else "false").toList
  int : ∀ n i, write n (.int i) = intText i
  float : ∀ n x, write n (.float x) = floatText x
  str : ∀ n s, write n (.str s) = stringText s
  arr : ∀ n items, ∃ w₀ w w', Blanks w₀ ∧ Blanks w ∧ Blanks w' ∧
    write n (.arr items) = bracketed '[' w₀ w w' ']' (items.map (write (n + 1)))
  obj : ∀ n entries, ∃ w₀ w w', Blanks w₀ ∧ Blanks w ∧ Blanks w' ∧
    write n (.obj entries) = bracketed '{' w₀ w w' '}'
      (entries.map fun e => entryText e.1 (write (n + 1) e.2))

theorem compactItems_eq_map (items : List Json) : compactItems items = items.map compact := by
  induction items with
  | nil => rfl
  | cons j items ih => rw [compactItems, ih, List.map_cons]

theorem compactEntries_eq_map (entries : List (String × Json)) :
    compactEntries entries = entries.map fun e => entryText e.1 (compact e.2) := by
  induction entries with
  | nil => rfl
  | cons e entries ih =>
    obtain ⟨key, j⟩ := e
    rw [compactEntries, ih, List.map_cons, entryText]

theorem layout_compact : Layout fun _ => compact where
  null _ := by rw [compact]
  bool _ b := by rw [compact]
  int _ i := by rw [compact]
  float _ x := by rw [compact]
  str _ s := by rw [compact]
  arr _ items := by
    refine ⟨[], [' '], [], blanks_nil, by simp [Blanks, isBlank], blanks_nil, ?_⟩
    simp [compact, compactItems_eq_map, bracketed]
  obj _ entries := by
    refine ⟨[], [' '], [], blanks_nil, by simp [Blanks, isBlank], blanks_nil, ?_⟩
    simp [compact, compactEntries_eq_map, bracketed]

theorem indentedItems_eq_map (n : Nat) (items : List Json) :
    indentedItems n items = items.map (indented n) := by
  induction items with
  | nil => rfl
  | cons j items ih => rw [indentedItems, ih, List.map_cons]

theorem indentedEntries_eq_map (n : Nat) (entries : List (String × Json)) :
    indentedEntries n entries = entries.map fun e => entryText e.1 (indented n e.2) := by
  induction entries with
  | nil => rfl
  | cons e entries ih =>
    obtain ⟨key, j⟩ := e
    rw [indentedEntries, ih, List.map_cons, entryText]

theorem blanks_newline (n : Nat) : Blanks (newline n) := by
  intro c hc
  rcases List.mem_cons.mp hc with rfl | hc
  · rfl
  · rw [List.eq_of_mem_replicate hc]
    rfl

theorem exists_bracketed_block (left right : Char) (n : Nat) (ts : List (List Char)) :
    ∃ w₀ w w', Blanks w₀ ∧ Blanks w ∧ Blanks w' ∧
      block left right n ts = bracketed left w₀ w w' right ts := by
  cases ts with
  | nil => exact ⟨[], [], [], blanks_nil, blanks_nil, blanks_nil, rfl⟩
  | cons t ts =>
    refine ⟨newline (n + 1), newline (n + 1), newline n, blanks_newline _, blanks_newline _,
      blanks_newline _, ?_⟩
    simp [block, bracketed]

theorem layout_indented : Layout indented where
  null _ := by rw [indented]
  bool _ b := by rw [indented]
  int _ i := by rw [indented]
  float _ x := by rw [indented]
  str _ s := by rw [indented]
  arr n items := by
    rw [indented, indentedItems_eq_map]
    exact exists_bracketed_block '[' ']' n _
  obj n entries := by
    rw [indented, indentedEntries_eq_map]
    exact exists_bracketed_block '{' '}' n _

/-! Texts stand for their values -/

/-- A text that stands for the value, or for one that differs from it in fractional numbers. -/
structure Renders (l : NumberLimit) (j j' : Json) (t : List Char) : Prop where
  isText : IsText l j' t
  depth_eq : j'.depth = j.depth
  eq_of_floatFree : j.FloatFree → j' = j

section

variable {l : NumberLimit}

theorem Renders.of_isText {j : Json} {t : List Char} (h : IsText l j t) : Renders l j j t :=
  ⟨h, rfl, fun _ => rfl⟩

theorem isWord_of_mem {w : String} {j : Json} (h : (w, j) ∈ words) : IsText l j w.toList :=
  .scalar (.word ⟨w, h, rfl⟩)

theorem exists_renders_float (x : Binary64) :
    ∃ j', Renders l (.float x) j' (floatText x) := by
  cases x with
  | finite negative m e =>
    obtain ⟨n, p, t, ht, htext⟩ := exists_isDecimal_floatText negative m e
    have hfree : ¬ (Json.float (.finite negative m e)).FloatFree := fun h => h _ (.self _)
    rw [htext]
    cases negative with
    | false => exact ⟨_, .scalar (.decimal ht), rfl, fun h => absurd h hfree⟩
    | true => exact ⟨_, .scalar (.minus ht), rfl, fun h => absurd h hfree⟩
  | infinite negative =>
    cases negative with
    | false => exact ⟨_, .of_isText (isWord_of_mem (by simp [words]))⟩
    | true => exact ⟨_, .of_isText (isWord_of_mem (by simp [words]))⟩
  | notANumber => exact ⟨_, .of_isText (isWord_of_mem (by simp [words]))⟩

namespace Layout

variable {write : Nat → Json → List Char}

/-- A list whose items have texts that stand for them has one too. -/
theorem exists_renders_arr (h : Layout write) {items : List Json} {n : Nat}
    (hitems : ∀ j ∈ items, ∃ j', Renders l j j' (write (n + 1) j)) :
    ∃ j', Renders l (.arr items) j' (write n (.arr items)) := by
  have hsome : Nonempty Json := ⟨.null⟩
  obtain ⟨w₀, w, w', hw₀, hw, hw', htext⟩ := h.arr n items
  -- g replaces each item by the value that its text stands for
  choose! g hg using hitems
  rw [htext]
  refine ⟨.arr (items.map g), .list hw₀ hw hw' fun j hj => (hg j hj).isText, ?_, ?_⟩
  · rw [depth, depth, itemsDepth_map fun j hj => (hg j hj).depth_eq]
  · intro hfree
    have hsame : ∀ j ∈ items, g j = j := by
      intro j hj
      exact (hg j hj).eq_of_floatFree fun x hx => hfree x (.item hj hx)
    rw [List.map_congr_left hsame, List.map_id']

/-- An object with keys of their own whose values have texts that stand for them has one too. -/
theorem exists_renders_obj (h : Layout write) {entries : List (String × Json)} {n : Nat}
    (hkeys : (entries.map Prod.fst).Nodup)
    (hentries : ∀ e ∈ entries, ∃ j', Renders l e.2 j' (write (n + 1) e.2)) :
    ∃ j', Renders l (.obj entries) j' (write n (.obj entries)) := by
  have hsome : Nonempty Json := ⟨.null⟩
  obtain ⟨w₀, w, w', hw₀, hw, hw', htext⟩ := h.obj n entries
  choose! g hg using hentries
  have hisText := @IsText.object l (String × Json) entries Prod.fst g
    (fun e => write (n + 1) e.2) w₀ w w' hw₀ hw hw' hkeys fun e he => (hg e he).isText
  rw [htext]
  refine ⟨.obj (entries.map fun e => (e.1, g e)), hisText, ?_, ?_⟩
  · rw [depth, depth, entriesDepth_map fun e he => (hg e he).depth_eq]
  · intro hfree
    have hsame : ∀ e ∈ entries, (e.1, g e) = e := by
      intro e he
      have hvalue : e.2.FloatFree := fun x hx => hfree x (.entry he hx)
      have hg' : g e = e.2 := (hg e he).eq_of_floatFree hvalue
      rw [hg']
    rw [List.map_congr_left hsame, List.map_id']

theorem exists_renders (h : Layout write) (j : Json) (hkeys : j.KeysDistinct)
    (hnumbers : j.NumbersFit l) (n : Nat) : ∃ j', Renders l j j' (write n j) := by
  induction j using Json.treeInduction generalizing n with
  | null =>
    rw [h.null]
    exact ⟨_, .of_isText (isWord_of_mem (by simp [words]))⟩
  | bool b =>
    rw [h.bool]
    cases b with
    | false => exact ⟨_, .of_isText (isWord_of_mem (by simp [words]))⟩
    | true => exact ⟨_, .of_isText (isWord_of_mem (by simp [words]))⟩
  | int i =>
    rw [h.int]
    exact ⟨_, .of_isText (.scalar (.whole (hnumbers i (.self _))))⟩
  | float x =>
    rw [h.float]
    exact exists_renders_float x
  | str s =>
    rw [h.str]
    exact ⟨_, .of_isText (.string s)⟩
  | arr items ih =>
    apply h.exists_renders_arr
    intro j hj
    exact ih j hj (fun o ho => hkeys o (.item hj ho)) (fun i hi => hnumbers i (.item hj hi)) _
  | obj entries ih =>
    apply h.exists_renders_obj (hkeys entries (.self _))
    intro e he
    exact ih e he (fun o ho => hkeys o (.entry he ho)) (fun i hi => hnumbers i (.entry he hi)) _

/-- A writable value is written as a text that is read as the value, up to fractional numbers. -/
theorem exists_verdict (h : Layout write) {d : Dialect} {j : Json} (hkeys : j.KeysDistinct)
    (hnumbers : j.NumbersFit d.numbers) (hdepth : j.depth ≤ d.depth) (n : Nat) :
    ∃ j', verdict d (write n j) = .ok j' ∧ (j.FloatFree → j' = j) := by
  obtain ⟨j', hrenders⟩ := h.exists_renders j hkeys hnumbers n
  have hdepth' : j'.depth ≤ d.depth := hrenders.depth_eq ▸ hdepth
  exact ⟨j', hrenders.isText.verdict_eq hdepth', hrenders.eq_of_floatFree⟩

theorem verdict_write (h : Layout write) {d : Dialect} {j : Json} (hkeys : j.KeysDistinct)
    (hnumbers : j.NumbersFit d.numbers) (hdepth : j.depth ≤ d.depth) (hfree : j.FloatFree)
    (n : Nat) : verdict d (write n j) = .ok j := by
  obtain ⟨j', hread, heq⟩ := h.exists_verdict hkeys hnumbers hdepth n
  rw [hread, heq hfree]

end Layout

end

/-! Texts are ASCII -/

/-- Every character is ASCII. -/
def AsciiText (t : List Char) : Prop := ∀ c ∈ t, isAscii c = true

namespace AsciiText

theorem nil : AsciiText [] := fun _ hc => absurd hc List.not_mem_nil

theorem cons {c : Char} {t : List Char} (hc : isAscii c = true) (ht : AsciiText t) :
    AsciiText (c :: t) := List.forall_mem_cons.mpr ⟨hc, ht⟩

theorem append {s t : List Char} (hs : AsciiText s) (ht : AsciiText t) : AsciiText (s ++ t) :=
  List.forall_mem_append.mpr ⟨hs, ht⟩

theorem of_digits {ds : List Char} (hds : Digits ds) : AsciiText ds := by
  intro c hc
  have hdigit := hds c hc
  simp only [Char.isDigit, Bool.and_eq_true, decide_eq_true_eq] at hdigit
  have hle : c.toNat ≤ '9'.toNat := UInt32.le_iff_toNat_le.mp hdigit.2
  have hnine : '9'.toNat = 57 := rfl
  simp only [isAscii, decide_eq_true_eq]
  omega

theorem of_blanks {w : List Char} (hw : Blanks w) : AsciiText w := by
  intro c hc
  have hblank := hw c hc
  simp only [isBlank, Bool.or_eq_true, decide_eq_true_eq] at hblank
  rcases hblank with ((rfl | rfl) | rfl) | rfl <;> rfl

theorem of_isExponent {x : Option Int} {e : List Char} (h : IsExponent x e) : AsciiText e := by
  cases h with
  | absent => exact nil
  | negative ds hne hds => exact cons rfl (cons rfl (of_digits hds))
  | positive ds hne hds => exact cons rfl (cons rfl (of_digits hds))

theorem of_isDecimal {n : Nat} {p : Int} {t : List Char} (h : IsDecimal n p t) : AsciiText t := by
  obtain ⟨w, ds, e, x, hw, hshort, hds, he, hne⟩ := h
  have hfraction : AsciiText (fractionText ds) := by
    unfold fractionText
    split
    · exact nil
    · exact cons rfl (of_digits hds)
  exact ((of_digits hw.digits).append hfraction).append (of_isExponent he)

theorem of_isWord {j : Json} {t : List Char} (h : IsWord j t) : AsciiText t := by
  obtain ⟨w, hw, rfl⟩ := h
  have hall : ∀ e ∈ words, e.1.toList.all isAscii = true := by decide
  exact List.all_eq_true.mp (hall _ hw)

theorem intText (n : Int) : AsciiText (intText n) := by
  unfold Json.intText
  split
  · exact cons rfl (of_digits (digits_toDigits _))
  · exact of_digits (digits_toDigits _)

theorem of_isScalar {l : NumberLimit} {j : Json} {t : List Char} (h : IsScalar l j t) :
    AsciiText t := by
  cases h with
  | word h => exact of_isWord h
  | whole => exact intText _
  | decimal h => exact of_isDecimal h
  | minus h => exact cons rfl (of_isDecimal h)

theorem escapeUnit {n : Nat} (hn : n < 0x10000) : AsciiText (escapeUnit n) := by
  have hall : ∀ i : Fin 16, isAscii i.val.digitChar = true := by decide
  have hdigit {k : Nat} (hk : k < 16) : isAscii k.digitChar = true := hall ⟨k, hk⟩
  have hdigits : AsciiText (hexPadded 4 n) := by
    rw [hexPadded_four hn]
    exact cons (hdigit (by omega)) (cons (hdigit (by omega)) (cons (hdigit (by omega))
      (cons (hdigit (by omega)) nil)))
  exact cons rfl (cons rfl hdigits)

theorem escapeChar (c : Char) : AsciiText (escapeChar c) := by
  have hrange := toNat_range c
  have hcode : AsciiText (escapeCode c.toNat) := by
    unfold escapeCode
    split
    · exact escapeUnit (by omega)
    · exact (escapeUnit (by omega)).append (escapeUnit (by omega))
  unfold Json.escapeChar
  repeat' split
  all_goals try exact cons rfl (cons rfl nil)
  · rename_i hc
    have hascii : isAscii c = true := by
      simp only [isAscii, decide_eq_true_eq]
      omega
    exact cons hascii nil
  · exact hcode

theorem stringText (s : String) : AsciiText (stringText s) := by
  have hbody : AsciiText (s.toList.flatMap Json.escapeChar) := by
    intro c hc
    obtain ⟨c', -, hc'⟩ := List.mem_flatMap.mp hc
    exact escapeChar c' c hc'
  exact cons rfl (hbody.append (cons rfl nil))

theorem bracketed {left right : Char} {w₀ w w' : List Char} {ts : List (List Char)}
    (hleft : isAscii left = true) (hright : isAscii right = true) (hw₀ : Blanks w₀)
    (hw : Blanks w) (hw' : Blanks w') (hts : ∀ t ∈ ts, AsciiText t) :
    AsciiText (bracketed left w₀ w w' right ts) := by
  have hrow : AsciiText (joinWith (',' :: w) ts) := by
    induction ts with
    | nil => exact nil
    | cons t ts ih =>
      have ht : AsciiText t := hts t List.mem_cons_self
      have hrest := ih fun t' ht' => hts t' (List.mem_cons_of_mem t ht')
      cases ts with
      | nil => exact ht
      | cons t' ts => exact (ht.append (cons rfl (of_blanks hw))).append hrest
  exact cons hleft ((of_blanks hw₀).append (hrow.append ((of_blanks hw').append (cons hright nil))))

theorem of_isText {l : NumberLimit} {j : Json} {t : List Char} (h : IsText l j t) :
    AsciiText t := by
  induction h with
  | scalar h => exact of_isScalar h
  | string s => exact stringText s
  | list hw₀ hw hw' hparts ih =>
    refine bracketed rfl rfl hw₀ hw hw' ?_
    intro t ht
    obtain ⟨e, he, rfl⟩ := List.mem_map.mp ht
    exact ih e he
  | object hw₀ hw hw' hkeys hparts ih =>
    refine bracketed rfl rfl hw₀ hw hw' ?_
    intro t ht
    obtain ⟨e, he, rfl⟩ := List.mem_map.mp ht
    exact (stringText _).append (cons rfl (cons rfl (ih e he)))

end AsciiText

theorem Layout.asciiText {write : Nat → Json → List Char} (h : Layout write) {l : NumberLimit}
    {j : Json} (hkeys : j.KeysDistinct) (hnumbers : j.NumbersFit l) (n : Nat) :
    AsciiText (write n j) := by
  obtain ⟨j', hrenders⟩ := h.exists_renders j hkeys hnumbers n
  exact .of_isText hrenders.isText

end PaymentConnector.Json
