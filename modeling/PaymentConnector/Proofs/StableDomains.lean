import PaymentConnector.Proofs.NormalHosts
import PaymentConnector.Proofs.PunycodeLabels

/-!
Domain names in ASCII, read again. The characters of such a name are written as they are, and
its labels are those that it was joined from. Each label is read as before, unless it was
encoded in more characters than are decoded; a name with such a label is not read again.
-/

namespace PaymentConnector

/-! Ascending tables -/

namespace Text

theorem le_of_mem_spansOfGaps {position : Nat} {gaps : List Nat} :
    ∀ s ∈ spansOfGaps position gaps, position ≤ s.1 := by
  induction position, gaps using spansOfGaps.induct with
  | case1 position gap length rest first ih =>
    rw [spansOfGaps]
    refine List.forall_mem_cons.mpr ⟨Nat.le_add_right _ _, fun s hs => ?_⟩
    have hle := ih s hs
    omega
  | case2 position gaps hgaps =>
    rw [spansOfGaps.eq_2 _ _ hgaps]
    simp

theorem ascending_spansOfGaps (position : Nat) (gaps : List Nat) :
    (spansOfGaps position gaps).Pairwise (·.1 ≤ ·.1) := by
  induction position, gaps using spansOfGaps.induct with
  | case1 position gap length rest first ih =>
    rw [spansOfGaps]
    refine List.Pairwise.cons (fun s hs => ?_) ih
    have hle := le_of_mem_spansOfGaps s hs
    dsimp only
    omega
  | case2 position gaps hgaps =>
    rw [spansOfGaps.eq_2 _ _ hgaps]
    exact List.Pairwise.nil

theorem le_of_mem_classesOfGaps {position : Nat} {gaps : List Nat} :
    ∀ s ∈ classesOfGaps position gaps, position ≤ s.span.1 := by
  induction position, gaps using classesOfGaps.induct with
  | case1 position gap length value rest first ih =>
    rw [classesOfGaps]
    refine List.forall_mem_cons.mpr ⟨Nat.le_add_right _ _, fun s hs => ?_⟩
    have hle := ih s hs
    omega
  | case2 position gaps hgaps =>
    rw [classesOfGaps.eq_2 _ _ hgaps]
    simp

theorem ascending_classesOfGaps (position : Nat) (gaps : List Nat) :
    (classesOfGaps position gaps).Pairwise (·.span.1 ≤ ·.span.1) := by
  induction position, gaps using classesOfGaps.induct with
  | case1 position gap length value rest first ih =>
    rw [classesOfGaps]
    refine List.Pairwise.cons (fun s hs => ?_) ih
    have hle := le_of_mem_classesOfGaps s hs
    dsimp only
    omega
  | case2 position gaps hgaps =>
    rw [classesOfGaps.eq_2 _ _ hgaps]
    exact List.Pairwise.nil

/-- An entry of an ascending table is among the first ones, or at a bound or beyond it. -/
theorem mem_takeWhile_or_le {α : Type} {place : α → Nat} {table : List α}
    (h : table.Pairwise (place · ≤ place ·)) (bound : Nat) {entry : α} (hentry : entry ∈ table) :
    entry ∈ table.takeWhile (place · < bound) ∨ bound ≤ place entry := by
  induction h with
  | nil => exact absurd hentry List.not_mem_nil
  | @cons first rest hfirst _ ih =>
    by_cases hlt : place first < bound
    · have hkept : (first :: rest).takeWhile (place · < bound) =
          first :: rest.takeWhile (place · < bound) := by simp [hlt]
      rw [hkept, List.mem_cons]
      rcases List.mem_cons.mp hentry with rfl | hrest
      · exact Or.inl (Or.inl rfl)
      · rcases ih hrest with hmem | hle
        · exact Or.inl (Or.inr hmem)
        · exact Or.inr hle
    · right
      rcases List.mem_cons.mp hentry with rfl | hrest
      · exact Nat.not_lt.mp hlt
      · exact Nat.le_trans (Nat.not_lt.mp hlt) (hfirst entry hrest)

end Text

namespace Url.Domain

open Text

/-! Characters of ASCII -/

theorem isValid_of_isAscii {c : Char} (hc : isAscii c = true) (hupper : c.isUpper = false) :
    isValid c = true :=
  of_ascii (P := fun c => c.isUpper = false → isValid c = true) (by decide +kernel)
    (of_decide_eq_true hc) hupper

/-- No mark is in ASCII. -/
theorem isMark_of_isAscii {c : Char} (hc : isAscii c = true) : isMark c = false := by
  have hfirst : markSpans.takeWhile (·.1 < 0x80) = [] := by decide +kernel
  have hlt : c.toNat < 0x80 := of_decide_eq_true hc
  rw [isMark, inSpans, List.any_eq_false]
  intro s hs hhas
  have hle : s.1 ≤ c.toNat := of_decide_eq_true (Bool.and_eq_true_iff.mp hhas).1
  rcases mem_takeWhile_or_le (ascending_spansOfGaps _ _) 0x80 hs with hmem | hge
  · rw [show spansOfGaps _ _ = markSpans from rfl, hfirst] at hmem
    exact absurd hmem List.not_mem_nil
  · omega

/-- No character of ASCII is of a script that runs from right to left. -/
theorem turns_of_isAscii {c : Char} (hc : isAscii c = true) : (direction c).turns = false := by
  have hfirst : (directionClasses.takeWhile (·.span.1 < 0x80)).all
      (fun s => !(Direction.ofClass s.value).turns) = true := by decide +kernel
  have hlt : c.toNat < 0x80 := of_decide_eq_true hc
  rw [direction, classIn]
  cases hfound : directionClasses.find? (·.span.has c.toNat) with
  | none => rfl
  | some s =>
    have hhas := List.find?_some hfound
    have hle : s.span.1 ≤ c.toNat := of_decide_eq_true (Bool.and_eq_true_iff.mp hhas).1
    rcases mem_takeWhile_or_le (ascending_classesOfGaps _ _) 0x80
      (List.mem_of_find?_eq_some hfound) with hmem | hge
    · simpa using List.all_eq_true.mp hfirst s hmem
    · omega

theorem isAscii_of_isDigit {c : Char} (h : c.isDigit = true) : isAscii c = true := by
  have hle : c.toNat ≤ 0x39 := of_decide_eq_true (Bool.and_eq_true_iff.mp h).2
  exact decide_eq_true (by omega)

/-! Labels -/

/-- A label, and what it is read from: a label in ASCII, one that was encoded before, or one in
another script. -/
inductive Label.ReadFrom (part : List Char) : Label → Prop
  | plain (hmark : mark.isPrefixOf part = false) (hvalid : isValidLabel part = true)
      (hascii : part.all isAscii = true) : ReadFrom part ⟨part, part⟩
  | decoded {body text : List Char} (hpart : part = mark ++ body)
      (hlength : body.length ≤ decodeLimit) (hdecode : Punycode.decode body = some text)
      (hvalid : isValidLabel text = true) (hascii : text.all isAscii = false) :
      ReadFrom part ⟨text, part⟩
  | encoded (hmark : mark.isPrefixOf part = false) (hvalid : isValidLabel part = true)
      (hascii : part.all isAscii = false) : ReadFrom part ⟨part, mark ++ Punycode.encode part⟩

theorem decodeLabel?_append_mark (body : List Char) :
    decodeLabel? (mark ++ body) =
      if decodeLimit < body.length then none
      else (Punycode.decode body).bind fun text =>
        if isValidLabel text && !text.all isAscii then some ⟨text, mark ++ body⟩ else none := by
  rw [decodeLabel?, List.drop_left]
  cases Punycode.decode body <;> rfl

theorem label?_append_mark (body : List Char) :
    label? (mark ++ body) = decodeLabel? (mark ++ body) := by
  have hprefix : mark.isPrefixOf (mark ++ body) = true := by
    rw [List.isPrefixOf_iff_prefix]
    exact List.prefix_append mark body
  rw [label?, if_pos hprefix]

theorem readFrom_of_label? {part : List Char} {l : Label} (h : label? part = some l) :
    l.ReadFrom part := by
  by_cases hprefix : mark.isPrefixOf part = true
  · obtain ⟨body, rfl⟩ := List.isPrefixOf_iff_prefix.mp hprefix
    rw [label?_append_mark, decodeLabel?_append_mark] at h
    obtain ⟨hlength, h⟩ := Option.ite_none_left_eq_some.mp h
    obtain ⟨text, hdecode, h⟩ := Option.bind_eq_some_iff.mp h
    obtain ⟨hfine, h⟩ := Option.ite_none_right_eq_some.mp h
    obtain rfl := Option.some.inj h
    obtain ⟨hvalid, hascii⟩ := Bool.and_eq_true_iff.mp hfine
    exact .decoded rfl (Nat.not_lt.mp hlength) hdecode hvalid (by simpa using hascii)
  · have hmark : mark.isPrefixOf part = false := Bool.not_eq_true _ ▸ hprefix
    rw [label?, if_neg hprefix, encodeLabel?] at h
    obtain ⟨hvalid, h⟩ := Option.ite_none_left_eq_some.mp h
    have hvalid : isValidLabel part = true := by simpa using hvalid
    by_cases hascii : part.all isAscii = true
    · rw [if_pos hascii] at h
      obtain rfl := Option.some.inj h
      exact .plain hmark hvalid hascii
    · rw [if_neg hascii] at h
      obtain ⟨-, h⟩ := Option.ite_none_left_eq_some.mp h
      obtain rfl := Option.some.inj h
      exact .encoded hmark hvalid (Bool.not_eq_true _ ▸ hascii)

/-- A label that is marked as encoded has no more characters than are decoded. -/
def FitsDecoder (label : List Char) : Prop :=
  mark <+: label → label.length ≤ mark.length + decodeLimit

theorem fitsDecoder_append_mark {body : List Char} :
    FitsDecoder (mark ++ body) ↔ body.length ≤ decodeLimit := by
  simp [FitsDecoder]

/-- The ASCII form of a label is read as the label was. -/
theorem label?_ascii {part : List Char} {l : Label} (h : label? part = some l)
    (hfits : FitsDecoder l.ascii) : label? l.ascii = some l := by
  cases readFrom_of_label? h with
  | plain => exact h
  | decoded => exact h
  | encoded hmark hvalid hascii =>
    have hlength := Nat.not_lt.mpr (fitsDecoder_append_mark.mp hfits)
    rw [label?_append_mark, decodeLabel?_append_mark, if_neg hlength, Punycode.decode_encode,
      Option.bind_some, hvalid, hascii]
    rfl

/-- The ASCII form of a label that is too long to be decoded is not read. -/
theorem label?_ascii_eq_none {part : List Char} {l : Label} (h : label? part = some l)
    (hfits : ¬ FitsDecoder l.ascii) : label? l.ascii = none := by
  cases readFrom_of_label? h with
  | plain hmark =>
    refine absurd (fun hprefix => ?_) hfits
    rw [List.isPrefixOf_iff_prefix.mpr hprefix] at hmark
    cases hmark
  | decoded hpart hlength =>
    rw [hpart] at hfits
    exact absurd (fitsDecoder_append_mark.mpr hlength) hfits
  | encoded =>
    rw [label?_append_mark, decodeLabel?_append_mark,
      if_pos (Nat.not_le.mp (mt fitsDecoder_append_mark.mpr hfits))]

theorem isValid_of_isValidLabel {label : List Char} (h : isValidLabel label = true) :
    ∀ c ∈ label, isValid c = true := by
  simp only [isValidLabel, Bool.and_eq_true] at h
  exact List.all_eq_true.mp h.1.1.1.2

theorem isValid_digitChar {d : Nat} (hd : d < 36) : isValid (Punycode.digitChar d) = true := by
  have hall : ∀ i : Fin 36, (Punycode.digitChar i.val).isUpper = false := by decide
  exact isValid_of_isAscii (Punycode.isAscii_digitChar hd) (hall ⟨d, hd⟩)

theorem isUpper_of_digitValue? {c : Char} (h : (Punycode.digitValue? c).isSome) :
    c.isUpper = false :=
  of_ascii (P := fun c => (Punycode.digitValue? c).isSome → c.isUpper = false) (by decide +kernel)
    (of_decide_eq_true (Punycode.digitValue?_isSome_ascii h)) h

/-- The characters of a label in ASCII may stand in a name, and none of them is a point that
the label was not read from. -/
theorem mem_ascii_of_label? {part : List Char} {l : Label} (h : label? part = some l) {c : Char}
    (hc : c ∈ l.ascii) : isValid c = true ∧ (c = '.' → c ∈ part) := by
  have hmark : mark.all (fun c => decide (c ≠ '.') && !c.isUpper && isAscii c) = true := by decide
  have hofMark (hc : c ∈ mark) : isValid c = true ∧ (c = '.' → c ∈ part) := by
    have hfine := List.all_eq_true.mp hmark c hc
    simp only [Bool.and_eq_true, Bool.not_eq_true', decide_eq_true_eq] at hfine
    exact ⟨isValid_of_isAscii hfine.2 hfine.1.2, fun heq => absurd heq hfine.1.1⟩
  have hdelimiter : isValid Punycode.delimiter = true := isValid_of_isAscii (by decide) (by decide)
  cases readFrom_of_label? h with
  | plain _ hvalid => exact ⟨isValid_of_isValidLabel hvalid c hc, fun _ => hc⟩
  | decoded hpart _ hdecode hvalid =>
    refine ⟨?_, fun _ => hc⟩
    rw [hpart] at hc
    rcases List.mem_append.mp hc with hc | hc
    · exact (hofMark hc).1
    · rcases Punycode.mem_of_decode hdecode hc with ⟨hmem, -⟩ | rfl | hdigit
      · exact isValid_of_isValidLabel hvalid c hmem
      · exact hdelimiter
      · exact isValid_of_isAscii (Punycode.digitValue?_isSome_ascii hdigit)
          (isUpper_of_digitValue? hdigit)
  | encoded _ hvalid =>
    rcases List.mem_append.mp hc with hc | hc
    · exact hofMark hc
    · rcases Punycode.mem_encode hc with ⟨hmem, -⟩ | rfl | ⟨d, hd, rfl⟩
      · exact ⟨isValid_of_isValidLabel hvalid c hmem, fun _ => hmem⟩
      · exact ⟨hdelimiter, fun heq => absurd heq (by decide)⟩
      · have hall : ∀ i : Fin 36, Punycode.digitChar i.val ≠ '.' := by decide
        exact ⟨isValid_digitChar hd, fun heq => absurd heq (hall ⟨d, hd⟩)⟩

/-! Names -/

theorem exists_of_labels? {parts : List (List Char)} {labels : List Label}
    (h : labels? parts = some labels) :
    labels.length = parts.length ∧ ∀ l ∈ labels, ∃ part ∈ parts, label? part = some l := by
  induction parts generalizing labels with
  | nil =>
    obtain rfl : [] = labels := Option.some.inj h
    simp
  | cons part parts ih =>
    simp only [labels?, Option.bind_eq_bind, Option.pure_def, Option.bind_eq_some_iff,
      Option.some.injEq] at h
    obtain ⟨l, hl, ls, hls, rfl⟩ := h
    obtain ⟨hlength, hall⟩ := ih hls
    refine ⟨congrArg (· + 1) hlength, List.forall_mem_cons.mpr ⟨⟨part, by simp, hl⟩, ?_⟩⟩
    intro m hm
    obtain ⟨p, hp, hread⟩ := hall m hm
    exact ⟨p, List.mem_cons_of_mem part hp, hread⟩

theorem labels?_map_ascii {labels : List Label} (h : ∀ l ∈ labels, label? l.ascii = some l) :
    labels? (labels.map (·.ascii)) = some labels := by
  induction labels with
  | nil => rfl
  | cons l labels ih =>
    obtain ⟨hl, hrest⟩ := List.forall_mem_cons.mp h
    rw [List.map_cons, labels?, hl, ih hrest]
    rfl

theorem labels?_eq_none {parts : List (List Char)} (h : ∃ part ∈ parts, label? part = none) :
    labels? parts = none := by
  induction parts with
  | nil => simp at h
  | cons part parts ih =>
    rw [labels?]
    cases hread : label? part with
    | none => rfl
    | some l =>
      obtain ⟨p, hp, hnone⟩ := h
      rcases List.mem_cons.mp hp with rfl | hp
      · rw [hread] at hnone
        cases hnone
      · rw [ih ⟨p, hp, hnone⟩]
        rfl

theorem writtenName?_eq_self {s : List Char} (h : ∀ c ∈ s, isValid c = true) :
    writtenName? s = some s := by
  induction s with
  | nil => rfl
  | cons c s ih =>
    obtain ⟨hc, hs⟩ := List.forall_mem_cons.mp h
    rw [writtenName?, written?, if_pos hc, ih hs]
    rfl

theorem composed_eq_self {s : List Char} (h : ∀ c ∈ s, isAscii c = true) : composed s = s := by
  rw [composed, if_pos (List.all_eq_true.mpr h)]

/-- A name in ASCII, with the labels that it is read as. -/
structure AsciiName (labels : List Label) (ascii : List Char) : Prop where
  join_eq : joinLabels labels = ascii
  fields_eq : fields (· = '.') ascii = labels.map (·.ascii)
  chars : ∀ c ∈ ascii, isAscii c = true ∧ isValid c = true ∧ isBarred c = false
  read : ∀ l ∈ labels, ∃ part, label? part = some l
  directions : keepDirections labels = true

theorem exists_asciiName {s ascii : List Char} (h : toAscii? s = some ascii) :
    ∃ labels, AsciiName labels ascii := by
  simp only [toAscii?, Option.bind_eq_bind, Option.bind_eq_some_iff] at h
  obtain ⟨name, -, labels, hlabels, h⟩ := h
  obtain ⟨hfine, hascii⟩ := Option.ite_none_right_eq_some.mp h
  obtain rfl := Option.some.inj hascii
  rw [Bool.and_eq_true, Bool.not_eq_true', List.any_eq_false] at hfine
  obtain ⟨hlength, hread⟩ := exists_of_labels? hlabels
  have hne : labels ≠ [] := by
    rintro rfl
    exact fields_ne_nil (List.length_eq_zero_iff.mp hlength.symm)
  have hvalid : ∀ l ∈ labels, ∀ c ∈ l.ascii, isValid c = true ∧ c ≠ '.' := by
    intro l hl c hc
    obtain ⟨part, hpart, hlabel⟩ := hread l hl
    obtain ⟨hvalid, hpoint⟩ := mem_ascii_of_label? hlabel hc
    refine ⟨hvalid, fun heq => ?_⟩
    exact of_decide_eq_false (mem_of_mem_fields hpart (hpoint heq)).2 heq
  have hfields : fields (· = '.') (joinLabels labels) = labels.map (·.ascii) := by
    refine fields_intercalate (by decide) (by simpa using hne) fun part hpart c hc => ?_
    obtain ⟨l, hl, rfl⟩ := List.mem_map.mp hpart
    exact decide_eq_false (hvalid l hl c hc).2
  refine ⟨labels, rfl, hfields, fun c hc => ⟨?_, ?_, ?_⟩, ?_, hfine.1⟩
  · exact forall_mem_joinLabels (by decide) (isAscii_of_labels? hlabels) c hc
  · have hpoint : isValid '.' = true := isValid_of_isAscii (by decide) (by decide)
    exact forall_mem_joinLabels hpoint (fun l hl c hc => (hvalid l hl c hc).1) c hc
  · simpa using hfine.2 c hc
  · intro l hl
    obtain ⟨part, -, hlabel⟩ := hread l hl
    exact ⟨part, hlabel⟩

/-- The labels of a name that are marked as encoded have no more characters than are decoded. -/
def Decodable (name : List Char) : Prop := ∀ label ∈ fields (· = '.') name, FitsDecoder label

theorem AsciiName.toAscii?_eq {labels : List Label} {ascii : List Char}
    (h : AsciiName labels ascii) :
    toAscii? ascii = (labels? (labels.map (·.ascii))).bind fun labels =>
      let ascii := joinLabels labels
      if keepDirections labels && !ascii.any isBarred then some ascii else none := by
  have hwritten : writtenName? ascii = some ascii :=
    writtenName?_eq_self fun c hc => (h.chars c hc).2.1
  have hcomposed : composed ascii = ascii := composed_eq_self fun c hc => (h.chars c hc).1
  rw [toAscii?, hwritten]
  simp only [Option.bind_eq_bind, Option.bind_some, hcomposed, h.fields_eq]

theorem AsciiName.toAscii?_of_fits {labels : List Label} {ascii : List Char}
    (h : AsciiName labels ascii) (hfits : ∀ l ∈ labels, FitsDecoder l.ascii) :
    toAscii? ascii = some ascii := by
  have hread : labels? (labels.map (·.ascii)) = some labels := by
    refine labels?_map_ascii fun l hl => ?_
    obtain ⟨part, hpart⟩ := h.read l hl
    exact label?_ascii hpart (hfits l hl)
  have hbarred : ascii.any isBarred = false := by
    rw [List.any_eq_false]
    intro c hc
    simp [(h.chars c hc).2.2]
  rw [h.toAscii?_eq, hread, Option.bind_some]
  simp only [h.join_eq, h.directions, hbarred]
  rfl

/-- A name in ASCII is read again as itself if its labels can be decoded, and else not at all. -/
theorem toAscii?_ascii {s ascii : List Char} (h : toAscii? s = some ascii) :
    (Decodable ascii → toAscii? ascii = some ascii) ∧
      (¬ Decodable ascii → toAscii? ascii = none) := by
  obtain ⟨labels, hname⟩ := exists_asciiName h
  have hlabels : Decodable ascii ↔ ∀ l ∈ labels, FitsDecoder l.ascii := by
    rw [Decodable, hname.fields_eq]
    simp
  rw [hlabels]
  constructor
  · exact hname.toAscii?_of_fits
  · intro hfits
    simp only [not_forall] at hfits
    obtain ⟨l, hl, hlong⟩ := hfits
    obtain ⟨part, hpart⟩ := hname.read l hl
    have hnone := label?_ascii_eq_none hpart hlong
    rw [hname.toAscii?_eq, labels?_eq_none ⟨l.ascii, List.mem_map_of_mem hl, hnone⟩,
      Option.bind_none]

end Url.Domain

end PaymentConnector
