import PaymentConnector.Proofs.JsonTexts

/-!
What a text is read for. A strict reader takes exactly the texts of the grammar whose values stand
inside its limits: each part that it finds is spelled in the text, and nothing else is in it.
-/

namespace PaymentConnector.Json

/-- What is skipped are blanks. -/
theorem exists_blanks (s : List Char) : ∃ w, Blanks w ∧ s = w ++ skipBlanks s :=
  ⟨s.takeWhile isBlank, fun _ hc => List.mem_takeWhile_imp hc,
    List.takeWhile_append_dropWhile.symm⟩

/-! Strings that were read -/

/-- Pieces with the text of all of them. -/
inductive IsPieces : List Piece → List Char → Prop
  | nil : IsPieces [] []
  | cons {p : Piece} {ps : List Piece} {t u : List Char} (hp : IsPiece p t) (h : IsPieces ps u) :
      IsPieces (p :: ps) (t ++ u)

section

variable {start : Nat} {s r : List Char} {ps : List Piece}

/-- A text that starts with a piece is read for it and for the pieces behind it. -/
def StartsWithPiece (start : Nat) (s : List Char) (ps : List Piece) (r : List Char) : Prop :=
  ∃ p qs t u, ps = p :: qs ∧ IsPiece p t ∧ s = t ++ u ∧ (pieces start u).finding = .ok (qs, r)

theorem startsWithPiece_of_mapValue {p : Piece} {t u : List Char} (hp : IsPiece p t)
    (h : (pieces start u).finding.mapValue (p :: ·) = .ok (ps, r)) :
    StartsWithPiece start (t ++ u) ps r := by
  obtain ⟨qs, hqs, rfl⟩ := Finding.mapValue_eq_ok_iff.mp h
  exact ⟨p, qs, t, u, rfl, hp, rfl, hqs⟩

theorem startsWithPiece_of_backslash (h : (pieces start ('\\' :: s)).finding = .ok (ps, r)) :
    StartsWithPiece start ('\\' :: s) ps r := by
  cases s with
  | nil => exact absurd h (by simp [finding_pieces_backslash])
  | cons a s =>
    by_cases hu : a = 'u'
    · subst hu
      match s, h with
      | a :: b :: c :: d :: e :: s, h =>
        rw [finding_pieces_unit] at h
        cases hunit : unitOf? a b c d with
        | none => exact absurd h (by simp [hunit])
        | some n =>
          rw [hunit] at h
          exact startsWithPiece_of_mapValue (.numbered hunit) h
      | [], h | [_], h | [_, _], h | [_, _, _], h | [_, _, _, _], h =>
        rw [finding_pieces_short _ (by simp)] at h
        exact absurd h (by simp)
    · rw [finding_pieces_escape _ hu] at h
      cases hnamed : namedEscape? a with
      | none => exact absurd h (by simp [hnamed])
      | some c =>
        rw [hnamed] at h
        exact startsWithPiece_of_mapValue (.named hnamed) h

/-- A text of pieces starts with one, or with the closing quote. -/
theorem exists_piece (h : (pieces start s).finding = .ok (ps, r)) :
    (ps = [] ∧ s = '"' :: r) ∨ StartsWithPiece start s ps r := by
  cases s with
  | nil => exact absurd h (by simp [finding_pieces_nil])
  | cons c s =>
    by_cases hquote : c = '"'
    · subst hquote
      rw [finding_pieces_quote] at h
      obtain ⟨rfl, rfl⟩ := Prod.mk.inj (Except.ok.inj h)
      exact Or.inl ⟨rfl, rfl⟩
    by_cases hslash : c = '\\'
    · subst hslash
      exact Or.inr (startsWithPiece_of_backslash h)
    · rw [finding_pieces_char _ hquote hslash] at h
      split at h
      · exact absurd h (by simp)
      · rename_i hc
        exact Or.inr (startsWithPiece_of_mapValue (.self hquote hslash (Nat.not_lt.mp hc)) h)

theorem exists_isPieces (h : (pieces start s).finding = .ok (ps, r)) :
    ∃ t, IsPieces ps t ∧ s = t ++ '"' :: r := by
  induction ps generalizing s with
  | nil =>
    rcases exists_piece h with ⟨-, rfl⟩ | ⟨p, qs, t, u, hcons, -⟩
    · exact ⟨[], .nil, rfl⟩
    · cases hcons
  | cons p ps ih =>
    rcases exists_piece h with ⟨hnil, -⟩ | ⟨p', qs, t, u, hcons, hp, rfl, hrest⟩
    · cases hnil
    · obtain ⟨rfl, rfl⟩ := List.cons.inj hcons
      obtain ⟨v, hv, rfl⟩ := ih hrest
      exact ⟨t ++ v, .cons hp hv, by rw [List.append_assoc]⟩

end

/-- Pieces that are joined strictly are the letters of a string. -/
theorem isString_of_joinPieces {ps : List Piece} {t cs : List Char} (h : IsPieces ps t)
    (hjoin : joinPieces false none ps = some cs) : IsString cs t := by
  -- a first half takes the piece after it along, so the induction is on the number of pieces
  generalize hn : ps.length = n
  induction n using Nat.strongRecOn generalizing ps t cs with
  | ind n ih =>
    cases h with
    | nil =>
      obtain rfl := Option.some.inj hjoin
      exact .nil
    | @cons p ps t u hp h =>
      rw [List.length_cons] at hn
      cases p with
      | char c =>
        rw [joinPieces] at hjoin
        obtain ⟨rest, hrest, rfl⟩ := Option.map_eq_some_iff.mp hjoin
        exact .cons (.char hp) (ih _ (by omega) h hrest rfl)
      | unit k =>
        rw [joinPieces] at hjoin
        split at hjoin
        · rename_i hhigh
          cases h with
          | nil => exact absurd hjoin (by simp [joinPieces, afterLone])
          | @cons q ps u v hq h =>
            cases q with
            | char c => exact absurd hjoin (by simp [joinPieces, afterLone])
            | unit l =>
              rw [joinPieces] at hjoin
              split at hjoin
              · rename_i hlow
                obtain ⟨rest, hrest, rfl⟩ := Option.map_eq_some_iff.mp hjoin
                rw [List.length_cons] at hn
                rw [← List.append_assoc]
                exact .cons (.pair hp hq hhigh hlow) (ih _ (by omega) h hrest rfl)
              · exact absurd hjoin (by simp [afterLone])
        · rename_i hhigh
          split at hjoin
          · exact absurd hjoin (by simp [afterLone])
          · rename_i hlow
            obtain ⟨rest, hrest, rfl⟩ := Option.map_eq_some_iff.mp hjoin
            exact .cons (.unit hp (Bool.eq_false_iff.mpr hhigh) (Bool.eq_false_iff.mpr hlow))
              (ih _ (by omega) h hrest rfl)

theorem exists_of_stringBody {d : Dialect} (hd : d.repairSurrogates = false) {key : String}
    {s r : List Char} (h : (stringBody d s).finding = .ok (key, r)) :
    ∃ t, IsQuoted key t ∧ '"' :: s = t ++ r := by
  rw [finding_stringBody, hd] at h
  obtain ⟨ps, u, hpieces, hfound⟩ := Finding.andThen_eq_ok_iff.mp h
  obtain ⟨t, ht, rfl⟩ := exists_isPieces hpieces
  cases hjoin : joinPieces false none ps with
  | none => exact absurd hfound (by simp [hjoin])
  | some cs =>
    simp only [hjoin, Except.ok.injEq, Prod.mk.injEq] at hfound
    obtain ⟨rfl, rfl⟩ := hfound
    refine ⟨_, ⟨t, ?_, rfl⟩, by simp⟩
    rw [String.toList_ofList]
    exact isString_of_joinPieces ht hjoin

/-- A value that is no list, object or string is a word or a number. -/
theorem exists_of_scalar {l : NumberLimit} {s r : List Char} {j : Json}
    (h : (scalar l s).finding = .ok (j, r)) :
    ∃ t, Spelled l j t ∧ j.depth = 0 ∧ s = t ++ r := by
  rw [finding_scalar] at h
  cases hword : word? s with
  | some found =>
    obtain ⟨k, u⟩ := found
    simp only [hword, Except.ok.injEq, Prod.mk.injEq] at h
    obtain ⟨rfl, rfl⟩ := h
    obtain ⟨⟨w, j⟩, hw, hfound⟩ := List.exists_of_findSome?_eq_some hword
    simp only [Option.ite_none_right_eq_some, Option.some.injEq, Prod.mk.injEq] at hfound
    obtain ⟨hhead, rfl, rfl⟩ := hfound
    obtain ⟨u, rfl⟩ := List.isPrefixOf_iff_prefix.mp hhead
    have hall : ∀ e ∈ words, e.2.depth = 0 := by simp [words, depth]
    refine ⟨w.toList, .word ⟨w, hw, rfl⟩, hall _ hw, ?_⟩
    rw [← String.length_toList, List.drop_left]
  | none =>
    have hflat {t : List Char} (ht : IsNumber l j t) : j.depth = 0 := by cases ht <;> rfl
    simp only [hword] at h
    by_cases hminus : s.head? = some '-'
    · obtain ⟨s, rfl⟩ := List.head?_eq_some_iff.mp hminus
      rw [finding_number_minus] at h
      obtain ⟨t, ht, rfl⟩ := exists_of_unsignedFinding h
      exact ⟨_, .number ht, hflat ht, rfl⟩
    · rw [finding_number l hminus] at h
      obtain ⟨t, ht, rfl⟩ := exists_of_unsignedFinding h
      exact ⟨_, .number ht, hflat ht, rfl⟩

/-! Rows that were read -/

section

variable {α β : Type} {close : Char} {one : List Char → Finding α}
  {more : List Char → Finding (List α)} {val : β → α} {pad : β → Padded} {p : β → Prop}

theorem afterItem_cases {a : α} {as : List α} {u r : List Char}
    (h : afterItem close more a u = .ok (as, r)) :
    (skipBlanks u = close :: r ∧ as = [a]) ∨ ∃ v rest, skipBlanks u = ',' :: v ∧
      more (skipBlanks v) = .ok (rest, r) ∧ as = a :: rest := by
  unfold afterItem at h
  split at h
  · exact absurd h (by simp)
  · rename_i c v hu
    split at h
    · rename_i hclose
      obtain ⟨rfl, rfl⟩ := Prod.mk.inj (Except.ok.inj h)
      exact Or.inl ⟨by rw [hu, hclose], rfl⟩
    split at h
    · rename_i hcomma
      obtain ⟨rest, hrest, rfl⟩ := Finding.mapValue_eq_ok_iff.mp h
      exact Or.inr ⟨v, rest, by rw [hu, hcomma], hrest, rfl⟩
    · exact absurd h (by simp)

/-- A row that is read is spelled part by part, if each of its parts is. -/
theorem exists_rowText (hmore : ∀ s, more s = (one s).andThen (afterItem close more))
    (hshort : ∀ s a r, one s = .ok (a, r) → r.length < s.length)
    (hone : ∀ s a r, one s = .ok (a, r) → ∃ t, s = t ++ r ∧ ∀ w w', Blanks w → Blanks w' →
      ∃ e : β, val e = a ∧ p e ∧ (pad e).chars = w ++ (t ++ w'))
    {s r : List Char} {as : List α} (h : more (skipBlanks s) = .ok (as, r)) :
    ∃ parts : List β, as = parts.map val ∧ (∀ e ∈ parts, p e) ∧ parts ≠ [] ∧
      s = rowText (parts.map pad) ++ close :: r := by
  generalize hs : skipBlanks s = s' at h
  induction s' using row_induction hshort generalizing s as with
  | row s' ih =>
    rw [hmore] at h
    obtain ⟨a, u, hfound, hafter⟩ := Finding.andThen_eq_ok_iff.mp h
    obtain ⟨t, ht, hpart⟩ := hone s' a u hfound
    obtain ⟨w, hw, hsplit⟩ := exists_blanks s
    obtain ⟨w', hw', hsplit'⟩ := exists_blanks u
    obtain ⟨e, he, hpe, hchars⟩ := hpart w w' hw hw'
    rw [hs, ht] at hsplit
    rcases afterItem_cases hafter with ⟨hclose, rfl⟩ | ⟨v, rest, hcomma, hrest, rfl⟩
    · refine ⟨[e], by simp [he], by simpa using hpe, by simp, ?_⟩
      rw [hsplit, hsplit', hclose]
      simp [rowText, joinWith, hchars]
    · obtain ⟨parts, rfl, hparts, hne, hv⟩ := ih a u v hfound hcomma rfl hrest
      refine ⟨e :: parts, by simp [he], List.forall_mem_cons.mpr ⟨hpe, hparts⟩, by simp, ?_⟩
      obtain ⟨e', parts, rfl⟩ := List.exists_cons_of_ne_nil hne
      have hrow : rowText ((e :: e' :: parts).map pad) =
          (pad e).chars ++ ',' :: rowText ((e' :: parts).map pad) := rowText_cons_cons _ _ _
      rw [hsplit, hsplit', hcomma, hv, hrow, hchars]
      simp

theorem exists_of_afterOpening {make : List α → Json}
    (hmore : ∀ s, more s = (one s).andThen (afterItem close more))
    (hshort : ∀ s a r, one s = .ok (a, r) → r.length < s.length)
    (hone : ∀ s a r, one s = .ok (a, r) → ∃ t, s = t ++ r ∧ ∀ w w', Blanks w → Blanks w' →
      ∃ e : β, val e = a ∧ p e ∧ (pad e).chars = w ++ (t ++ w'))
    {s r : List Char} {v : Json} (h : afterOpening close more make s = .ok (v, r)) :
    ∃ (w : List Char) (parts : List β), Blanks w ∧ v = make (parts.map val) ∧
      (∀ e ∈ parts, p e) ∧ s = w ++ (rowText (parts.map pad) ++ [close]) ++ r := by
  unfold afterOpening at h
  split at h
  · rename_i hhead
    obtain ⟨u, hu⟩ := List.head?_eq_some_iff.mp hhead
    obtain ⟨w, hw, hsplit⟩ := exists_blanks s
    obtain ⟨rfl, rfl⟩ := Prod.mk.inj (Except.ok.inj h)
    refine ⟨w, [], hw, rfl, by simp, ?_⟩
    rw [hu] at hsplit ⊢
    rw [hsplit]
    simp [rowText, joinWith]
  · obtain ⟨as, has, rfl⟩ := Finding.mapValue_eq_ok_iff.mp h
    obtain ⟨parts, rfl, hparts, -, hs⟩ := exists_rowText hmore hshort hone has
    exact ⟨[], parts, blanks_nil, rfl, hparts, by simpa using hs⟩

end

/-! Values that were read -/

/-- An entry that is found is spelled in the text before the rest, with any blanks around it. -/
theorem exists_member {d : Dialect} (hd : d.repairSurrogates = false) {n : Nat}
    (hitem : ∀ s r v, (value d n s).finding = .ok (v, r) →
      ∃ j t, Spelled d.numbers j t ∧ d.Reaches n j ∧ j.merged = v ∧ s = t ++ r)
    {s r : List Char} {a : String × Json} (h : entryFinding d (value d n) s = .ok (a, r)) :
    ∃ t, s = t ++ r ∧ ∀ w w', Blanks w → Blanks w' → ∃ m : Member, (m.key, m.value.merged) = a ∧
      (IsQuoted m.key m.name.text ∧ Spelled d.numbers m.value m.body.text ∧ d.Reaches n m.value) ∧
        m.padded.chars = w ++ (t ++ w') := by
  obtain ⟨key, u, hname, hvalue⟩ := Finding.andThen_eq_ok_iff.mp h
  obtain ⟨v, hv, rfl⟩ := Finding.mapValue_eq_ok_iff.mp hvalue
  obtain ⟨j, t, hj, hfits, hmerged, rfl⟩ := hitem u r v hv
  by_cases hquote : s.head? = some '"'
  · obtain ⟨s, rfl⟩ := List.head?_eq_some_iff.mp hquote
    rw [finding_name_quote] at hname
    obtain ⟨key', x, hstring, hafter⟩ := Finding.andThen_eq_ok_iff.mp hname
    obtain ⟨q, hq, hs⟩ := exists_of_stringBody hd hstring
    unfold afterName at hafter
    split at hafter
    · rename_i y hcolon
      obtain ⟨rfl, hrest⟩ := Prod.mk.inj (Except.ok.inj hafter)
      obtain ⟨w₁, hw₁, hsplit⟩ := exists_blanks x
      obtain ⟨w₂, hw₂, hsplit'⟩ := exists_blanks y
      refine ⟨q ++ (w₁ ++ ':' :: (w₂ ++ t)), ?_, fun w w' hw hw' => ?_⟩
      · rw [hs, hsplit, hcolon, hsplit', hrest]
        simp
      · exact ⟨⟨key', ⟨w, q, w₁, hw, hw₁⟩, j, ⟨w₂, t, w', hw₂, hw'⟩⟩, by rw [hmerged],
          ⟨hq, hj, hfits⟩, by simp [Member.padded, Padded.chars]⟩
    · exact absurd hafter (by simp)
  · rw [finding_name_other d hquote] at hname
    exact absurd hname (by simp)

section

variable {d : Dialect} {n : Nat} {s r : List Char} {v : Json}

theorem exists_spelled_string (hd : d.repairSurrogates = false)
    (h : (value d n ('"' :: s)).finding = .ok (v, r)) :
    ∃ j t, Spelled d.numbers j t ∧ d.Reaches n j ∧ j.merged = v ∧ '"' :: s = t ++ r := by
  rw [finding_value_quote] at h
  obtain ⟨key, hkey, rfl⟩ := Finding.mapValue_eq_ok_iff.mp h
  obtain ⟨t, ht, hs⟩ := exists_of_stringBody hd hkey
  exact ⟨.str key, t, .string ht, Dialect.reaches_of_depth_eq_zero rfl, rfl, hs⟩

theorem exists_spelled_scalar (hquote : s.head? ≠ some '"') (hlist : s.head? ≠ some '[')
    (hobject : s.head? ≠ some '{') (h : (value d n s).finding = .ok (v, r)) :
    ∃ j t, Spelled d.numbers j t ∧ d.Reaches n j ∧ j.merged = v ∧ s = t ++ r := by
  rw [finding_value_scalar d n hquote hlist hobject] at h
  obtain ⟨t, ht, hdepth, hs⟩ := exists_of_scalar h
  exact ⟨v, t, ht, Dialect.reaches_of_depth_eq_zero hdepth, merged_of_depth_eq_zero hdepth, hs⟩

/-- What is found one too deep is nothing but a pair of brackets with blanks inside. -/
theorem exists_of_beneathFinding {close : Char} {empty : Json}
    (h : beneathFinding d close empty s = .ok (v, r)) :
    d.emptyBeneath = true ∧ v = empty ∧ ∃ w, Blanks w ∧ s = w ++ close :: r := by
  unfold beneathFinding at h
  split at h
  · rename_i hempty
    obtain ⟨u, hu⟩ := List.head?_eq_some_iff.mp hempty.2
    obtain ⟨w, hw, hsplit⟩ := exists_blanks s
    obtain ⟨rfl, rfl⟩ := Prod.mk.inj (Except.ok.inj h)
    refine ⟨hempty.1, rfl, w, hw, ?_⟩
    rw [hu] at hsplit ⊢
    exact hsplit
  · exact absurd h (by simp)

/-- A value that is found is spelled in the text before the rest, within reach. -/
theorem exists_spelled (hd : d.repairSurrogates = false)
    (h : (value d n s).finding = .ok (v, r)) :
    ∃ j t, Spelled d.numbers j t ∧ d.Reaches n j ∧ j.merged = v ∧ s = t ++ r := by
  induction n generalizing s r v with
  | zero =>
    rcases value_cases s with ⟨u, rfl⟩ | ⟨u, rfl⟩ | ⟨u, rfl⟩ | ⟨hquote, hlist, hobject⟩
    · exact exists_spelled_string hd h
    · rw [finding_value_zero_list] at h
      obtain ⟨hempty, rfl, w, hw, rfl⟩ := exists_of_beneathFinding h
      have hnone : ∀ e ∈ ([] : List (Json × Padded)), Spelled d.numbers e.1 e.2.text := by simp
      exact ⟨_, _, .list hw hnone, ⟨hempty, rfl⟩, rfl, by simp [rowText, joinWith]⟩
    · rw [finding_value_zero_object] at h
      obtain ⟨hempty, rfl, w, hw, rfl⟩ := exists_of_beneathFinding h
      have hnone : ∀ m ∈ ([] : List Member),
          IsQuoted m.key m.name.text ∧ Spelled d.numbers m.value m.body.text := by simp
      exact ⟨_, _, .object hw (fun m hm => (hnone m hm).1) fun m hm => (hnone m hm).2,
        ⟨hempty, rfl⟩, rfl, by simp [rowText, joinWith]⟩
    · exact exists_spelled_scalar hquote hlist hobject h
  | succ n ih =>
    rcases value_cases s with ⟨u, rfl⟩ | ⟨u, rfl⟩ | ⟨u, rfl⟩ | ⟨hquote, hlist, hobject⟩
    · exact exists_spelled_string hd h
    · rw [finding_value_list, finding_list] at h
      have hone : ∀ s a r, (value d n s).finding = .ok (a, r) → ∃ t, s = t ++ r ∧
          ∀ w w', Blanks w → Blanks w' → ∃ e : Json × Padded, e.1.merged = a ∧
            (Spelled d.numbers e.1 e.2.text ∧ d.Reaches n e.1) ∧
              e.2.chars = w ++ (t ++ w') := by
        intro s a r h
        obtain ⟨j, t, hj, hreach, hmerged, hs⟩ := ih h
        exact ⟨t, hs, fun w w' hw hw' =>
          ⟨(j, ⟨w, t, w', hw, hw'⟩), hmerged, ⟨hj, hreach⟩, rfl⟩⟩
      obtain ⟨w, items, hw, rfl, hitems, rfl⟩ := exists_of_afterOpening (finding_items _)
        (fun _ _ _ => length_lt_of_finding) hone h
      refine ⟨_, _, .list hw fun e he => (hitems e he).1, ?_, ?_, rfl⟩
      · simpa [Dialect.Reaches] using fun j p he => (hitems (j, p) he).2
      · rw [merged_arr, List.map_map]
        rfl
    · rw [finding_value_object, finding_object] at h
      obtain ⟨w, members, hw, rfl, hmembers, rfl⟩ := exists_of_afterOpening (finding_entries d _)
        (fun _ _ _ => length_lt_of_entryFinding)
        (fun _ _ _ => exists_member hd fun _ _ _ => ih) h
      refine ⟨_, _, .object hw (fun m hm => (hmembers m hm).1)
        (fun m hm => (hmembers m hm).2.1), ?_, ?_, rfl⟩
      · simpa [Dialect.Reaches] using fun m hm => (hmembers m hm).2.2
      · rw [merged_obj, lastEntries, List.map_map]
        rfl
    · exact exists_spelled_scalar hquote hlist hobject h

end

/-- A strict reader takes just the texts that are JSON for a value within its reach, with no
number that is too long for it, and reads them as that value, with the entry that comes last for
each key. -/
theorem verdict_eq_ok_iff {d : Dialect} (hd : d.repairSurrogates = false) {t : List Char}
    {v : Json} :
    verdict d t = .ok v ↔ ∃ j, JsonText d.numbers j t ∧ d.Reaches d.depth j ∧ j.merged = v := by
  constructor
  · intro h
    rw [verdict_eq] at h
    split at h
    · exact absurd h (by simp)
    · cases hfound : (value d d.depth (skipBlanks t)).finding with
      | error cause => exact absurd h (by simp [hfound])
      | ok found =>
        obtain ⟨v', r⟩ := found
        simp only [hfound] at h
        split at h
        · rename_i hend
          obtain rfl := Except.ok.inj h
          obtain ⟨j, u, hj, hreach, hmerged, hskip⟩ := exists_spelled hd hfound
          obtain ⟨w, hw, hsplit⟩ := exists_blanks t
          obtain ⟨w', hw', hsplit'⟩ := exists_blanks r
          rw [hend, List.append_nil] at hsplit'
          refine ⟨j, ⟨⟨w, u, w', hw, hw'⟩, hj, ?_⟩, hreach, hmerged⟩
          rw [hsplit, hskip, hsplit']
          rfl
        · exact absurd h (by simp)
  · rintro ⟨j, hj, hreach, rfl⟩
    exact hj.verdict_eq hreach

/-- Values that are replaced by later ones may be deeper than those that stay. -/
theorem Dialect.Reaches.merged {d : Dialect} {n : Nat} {j : Json} (h : d.Reaches n j) :
    d.Reaches n j.merged := by
  induction n generalizing j with
  | zero =>
    cases j with
    | arr items =>
      obtain ⟨hd, rfl⟩ := h
      exact ⟨hd, rfl⟩
    | obj entries =>
      obtain ⟨hd, rfl⟩ := h
      exact ⟨hd, rfl⟩
    | _ => trivial
  | succ n ih =>
    cases j with
    | arr items =>
      rw [merged_arr]
      intro k hk
      obtain ⟨j, hj, rfl⟩ := List.mem_map.mp hk
      exact ih (h j hj)
    | obj entries =>
      rw [merged_obj]
      intro e he
      obtain ⟨e', he', rfl⟩ := List.mem_map.mp (Entries.mem_of_mem_ofList he)
      exact ih (h e' he')
    | _ => trivial

/-- A text is JSON for one value only, up to entries that are replaced by later ones. -/
theorem JsonText.merged_eq {l : NumberLimit} {j k : Json} {t : List Char} (hj : JsonText l j t)
    (hk : JsonText l k t) : j.merged = k.merged := by
  -- a reader that goes deep enough for both values finds one
  have hread {i : Json} (hi : JsonText l i t) (hle : i.depth ≤ max j.depth k.depth) :
      verdict ⟨max j.depth k.depth, false, l, false⟩ t = .ok i.merged :=
    JsonText.verdict_eq hi (Dialect.reaches_of_depth_le hle)
  exact Except.ok.inj
    ((hread hj (Nat.le_max_left _ _)).symm.trans (hread hk (Nat.le_max_right _ _)))

theorem JsonText.of_string {l : NumberLimit} {s : String} {t : List Char}
    (h : JsonText l (.str s) t) (l' : NumberLimit) : JsonText l' (.str s) t := by
  obtain ⟨p, hp, ht⟩ := h
  refine ⟨p, ?_, ht⟩
  generalize p.text = u at hp
  cases hp with
  | word h =>
    obtain ⟨w, hw, -⟩ := h
    simp [words] at hw
  | number h => cases h
  | string h => exact .string h

/-- A text that stands for a string does so for every reader. -/
theorem verdict_eq_str {d : Dialect} (hd : d.repairSurrogates = false) {s : String}
    {t : List Char} (h : verdict d t = .ok (.str s)) (d' : Dialect) :
    verdict d' t = .ok (.str s) := by
  obtain ⟨j, hj, -, hmerged⟩ := (verdict_eq_ok_iff hd).mp h
  cases j with
  | str s' =>
    obtain rfl := Json.str.inj hmerged
    exact (hj.of_string d'.numbers).verdict_eq (Dialect.reaches_of_depth_eq_zero rfl)
  | _ => cases hmerged

/-- A text of a value that is out of reach is refused. -/
theorem JsonText.verdict_ne_ok {d : Dialect} (hd : d.repairSurrogates = false) {j : Json}
    {t : List Char} (h : JsonText d.numbers j t) (hdeep : ¬ d.Reaches d.depth j.merged)
    (v : Json) : verdict d t ≠ .ok v := by
  intro hread
  obtain ⟨k, hk, hreach, -⟩ := (verdict_eq_ok_iff hd).mp hread
  rw [h.merged_eq hk] at hdeep
  exact hdeep hreach.merged

/-! Numbers that are too long -/

/-- What is short enough somewhere is so where only the digits of whole numbers count. -/
theorem NumberLimit.Admits.digits {l : NumberLimit} {negative isWhole : Bool} {w : List Char}
    (h : l.Admits negative isWhole w) : NumberLimit.digits.Admits negative isWhole w := by
  cases l with
  | digits => exact h
  | characters => exact NumberLimit.not_isExceeded h .digits

theorem IsNumber.digits {l : NumberLimit} {j : Json} {t : List Char} (h : IsNumber l j t) :
    IsNumber .digits j t := by
  cases h with
  | whole negative hw hl => exact .whole negative hw hl.digits
  | decimal negative hw hl hds he hne => exact .decimal negative hw hl.digits hds he hne

theorem Spelled.digits {l : NumberLimit} {j : Json} {t : List Char} (h : Spelled l j t) :
    Spelled .digits j t := by
  induction h with
  | word h => exact .word h
  | number h => exact .number h.digits
  | string h => exact .string h
  | list hw hitems ih => exact .list hw ih
  | object hw hnames hvalues ih => exact .object hw hnames ih

theorem JsonText.digits {l : NumberLimit} {j : Json} {t : List Char} (h : JsonText l j t) :
    JsonText .digits j t := by
  obtain ⟨p, hp, ht⟩ := h
  exact ⟨p, hp.digits, ht⟩

theorem IsNumber.numbersFit {l : NumberLimit} {j : Json} {t : List Char} (h : IsNumber l j t) :
    j.NumbersFit l := by
  cases h with
  | @whole negative w hw hl =>
    intro n hn
    obtain rfl := Json.int.inj (Part.int_iff.mp hn)
    have hshort := NumberLimit.admits_whole_iff.mp hl
    have hvalue := toDigits_ofDigitChars hw
    cases negative with
    | false =>
      have hsign : decide ((Nat.ofDigitChars 10 w 0 : Int) < 0) = false :=
        decide_eq_false (by omega)
      simpa [NumberLimit.Takes, hsign, hvalue] using hshort
    | true =>
      refine Nat.le_trans (l.length_le_of_le (Bool.le_true _) ?_) hshort
      simp [hvalue]
  | decimal => simp [NumbersFit]

theorem Spelled.numbersFit {l : NumberLimit} {j : Json} {t : List Char} (h : Spelled l j t) :
    j.NumbersFit l := by
  induction h with
  | @word j t h =>
    obtain ⟨w, hw, -⟩ := h
    have hall : ∀ e ∈ words, ∀ n, ¬ Part (int n) e.2 := by simp [words]
    exact fun n hn => absurd hn (hall _ hw n)
  | number h => exact h.numbersFit
  | string h => simp [NumbersFit]
  | @list items w hw hitems ih =>
    rintro n (_ | ⟨hj, hn⟩)
    obtain ⟨e, he, rfl⟩ := List.mem_map.mp hj
    exact ih e he n hn
  | @object members w hw hnames hvalues ih =>
    rintro n (_ | _ | ⟨he, hn⟩)
    obtain ⟨m, hm, rfl⟩ := List.mem_map.mp he
    exact ih m hm n hn

theorem NumbersFit.merged {l : NumberLimit} {j : Json} (h : j.NumbersFit l) :
    j.merged.NumbersFit l := by
  induction j using Json.treeInduction with
  | arr items ih =>
    rw [merged_arr]
    rintro n (_ | ⟨hk, hn⟩)
    obtain ⟨j, hj, rfl⟩ := List.mem_map.mp hk
    exact ih j hj (fun m hm => h m (.item hj hm)) n hn
  | obj entries ih =>
    rw [merged_obj]
    rintro n (_ | _ | ⟨hk, hn⟩)
    obtain ⟨e, he, rfl⟩ := List.mem_map.mp (Entries.mem_of_mem_ofList hk)
    exact ih e he (fun m hm => h m (.entry he hm)) n hn
  | _ => exact h

/-- What a strict reader takes has no number that is too long for it. -/
theorem numbersFit_of_verdict {d : Dialect} (hd : d.repairSurrogates = false) {t : List Char}
    {v : Json} (h : verdict d t = .ok v) : v.NumbersFit d.numbers := by
  obtain ⟨j, ⟨p, hp, -⟩, -, rfl⟩ := (verdict_eq_ok_iff hd).mp h
  exact hp.numbersFit.merged

end PaymentConnector.Json
