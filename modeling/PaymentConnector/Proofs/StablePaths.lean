import Mathlib.Data.List.Basic
import PaymentConnector.Proofs.NormalUrls

/-!
Paths in segments, read again from their texts. Settled segments hold no slashes and are no dots,
so they are the segments of the text that they make, and settling them again changes none but
the first: in the path of a file a drive letter is put down with a colon.
-/

namespace PaymentConnector.Url

open Text

/-- The segments of a path in which the dots have been settled. -/
structure Dotless (kind : SchemeKind) (parts : List (List Char)) : Prop where
  ne_nil : parts ≠ []
  chars : ∀ s ∈ parts, ∀ c ∈ s, keepPath c = true ∧ isSlash kind c = false
  dots : ∀ s ∈ parts, isDoubleDot s = false ∧ isSingleDot s = false

variable {kind : SchemeKind} {parts : List (List Char)}

theorem colon_ne_dots (c : Char) :
    isDoubleDot [c, ':'] = false ∧ isSingleDot [c, ':'] = false := by
  by_cases hdot : c = '.'
  · subst hdot
    decide
  · have hnone : dropDot? [c, ':'] = none := by
      unfold dropDot?
      split <;> simp_all
    simp [isDoubleDot, isSingleDot, hnone]

theorem settleSegment_ne_dots {done : List (List Char)} {s : List Char}
    (hdouble : isDoubleDot s = false) (hsingle : isSingleDot s = false) :
    isDoubleDot (settleSegment kind done s) = false ∧
      isSingleDot (settleSegment kind done s) = false := by
  unfold settleSegment
  split
  · rename_i c d
    split
    · exact colon_ne_dots c
    · exact ⟨hdouble, hsingle⟩
  · exact ⟨hdouble, hsingle⟩

theorem settleSegments_ne_nil (done : List (List Char)) (hne : parts ≠ []) :
    settleSegments kind done parts ≠ [] := by
  induction parts generalizing done with
  | nil => exact absurd rfl hne
  | cons part rest ih =>
    cases rest with
    | nil =>
      unfold settleSegments
      split
      · simp
      · split <;> simp
    | cons next rest =>
      have hrest (done : List (List Char)) : settleSegments kind done (next :: rest) ≠ [] :=
        ih done (List.cons_ne_nil next rest)
      unfold settleSegments
      split
      · exact hrest _
      · split
        · exact hrest _
        · exact hrest _

theorem dotless_settledSegments (kind : SchemeKind) (s : List Char) :
    Dotless kind (settledSegments kind s) where
  ne_nil := settleSegments_ne_nil [] (by simpa using fields_ne_nil)
  chars := fun _ hpart => isSegmentChar_of_mem_settledSegments hpart
  dots := by
    apply forall_mem_settleSegments
    · decide
    · intro done part _ hdouble hsingle
      exact settleSegment_ne_dots hdouble hsingle
    · simp

theorem settleSegment_cons (kind : SchemeKind) (last : List Char) (done : List (List Char))
    (s : List Char) : settleSegment kind (last :: done) s = s := by
  unfold settleSegment
  split <;> simp

/-- Segments that are no dots stay as they are after the first one. -/
theorem settleSegments_of_dots (last : List Char) (done : List (List Char))
    (hdots : ∀ s ∈ parts, isDoubleDot s = false ∧ isSingleDot s = false) :
    settleSegments kind (last :: done) parts = (last :: done).reverse ++ parts := by
  induction parts generalizing last done with
  | nil => simp [settleSegments]
  | cons part rest ih =>
    obtain ⟨⟨hdouble, hsingle⟩, hrest⟩ := List.forall_mem_cons.mp hdots
    cases rest with
    | nil => simp [settleSegments, hdouble, hsingle, settleSegment_cons]
    | cons next rest =>
      simp [settleSegments, hdouble, hsingle, settleSegment_cons, ih _ _ hrest]

theorem Dotless.settleSegments_eq {s : List Char} {rest : List (List Char)}
    (h : Dotless kind (s :: rest)) :
    settleSegments kind [] (s :: rest) = settleSegment kind [] s :: rest := by
  obtain ⟨⟨hdouble, hsingle⟩, hrest⟩ := List.forall_mem_cons.mp h.dots
  cases rest with
  | nil => simp [settleSegments, hdouble, hsingle]
  | cons next rest =>
    simp [settleSegments, hdouble, hsingle, settleSegments_of_dots _ _ hrest]

/-! The text of a path -/

theorem flatMap_slash (hne : parts ≠ []) :
    parts.flatMap ('/' :: ·) = '/' :: ['/'].intercalate parts := by
  induction parts with
  | nil => exact absurd rfl hne
  | cons part rest ih =>
    cases rest with
    | nil => simp
    | cons next rest =>
      rw [List.flatMap_cons, ih (List.cons_ne_nil next rest), List.intercalate_cons_cons,
        List.append_assoc]
      rfl

theorem isSlash_slash (kind : SchemeKind) : isSlash kind '/' = true := rfl

/-- The slash before the first segment is not part of it. -/
theorem Dotless.dropSlash_text (h : Dotless kind parts) :
    dropSlash kind (UrlPath.segments parts).text = ['/'].intercalate parts := by
  rw [UrlPath.text, flatMap_slash h.ne_nil, dropSlash, if_pos (isSlash_slash kind)]

/-- The segments are found again in the text that they make. -/
theorem Dotless.fields_intercalate (h : Dotless kind parts) :
    fields (isSlash kind) (['/'].intercalate parts) = parts :=
  Text.fields_intercalate (isSlash_slash kind) h.ne_nil fun part hpart c hc =>
    (h.chars part hpart c hc).2

theorem Dotless.map_percentEncode (h : Dotless kind parts) :
    parts.map (percentEncode keepPath) = parts := by
  rw [List.map_congr_left (g := id), List.map_id]
  intro part hpart
  exact percentEncode_eq_self fun c hc => (h.chars part hpart c hc).1

theorem Dotless.settledSegments_eq {s : List Char} {rest : List (List Char)}
    (h : Dotless kind (s :: rest)) :
    settledSegments kind (['/'].intercalate (s :: rest)) = settleSegment kind [] s :: rest := by
  rw [settledSegments, h.fields_intercalate, h.map_percentEncode, h.settleSegments_eq]

theorem settleSegment_of_ne_file (hkind : kind ≠ .file) (done : List (List Char))
    (s : List Char) : settleSegment kind done s = s := by
  unfold settleSegment
  split <;> simp [hkind]

/-- A path that is not that of a file is read as it was. -/
theorem Dotless.readSegments_text (h : Dotless kind parts) (hkind : kind ≠ .file) :
    readSegments kind (dropSlash kind (UrlPath.segments parts).text) = .segments parts := by
  rw [h.dropSlash_text]
  obtain ⟨s, rest, rfl⟩ := List.exists_cons_of_ne_nil h.ne_nil
  rw [readSegments, h.settledSegments_eq, settleSegment_of_ne_file hkind]
  simp [hkind]

/-- A dot before the path, which sets it off, is settled. -/
theorem readSegments_dot (kind : SchemeKind) (s : List Char) :
    readSegments kind ('.' :: '/' :: s) = readSegments kind s := by
  have hfree : Free (isSlash kind) ['.'] := by cases kind <;> decide
  have hfields : fields (isSlash kind) ('.' :: '/' :: s) = ['.'] :: fields (isSlash kind) s :=
    fields_append_cons hfree (isSlash_slash kind)
  have hdot : percentEncode keepPath ['.'] = ['.'] := rfl
  obtain ⟨part, rest, hparts⟩ :=
    List.exists_cons_of_ne_nil (fields_ne_nil (p := isSlash kind) (s := s))
  have hsettled : settledSegments kind ('.' :: '/' :: s) = settledSegments kind s := by
    rw [settledSegments, settledSegments, hfields, hparts, List.map_cons, List.map_cons, hdot]
    rfl
  simp only [readSegments, hsettled]

/-! Paths of files -/

/-- The path of a file has no empty segments in front of others. -/
def StartsShown : List (List Char) → Prop
  | [] :: _ :: _ => False
  | _ => True

theorem dropEmptyStart_eq_self (h : StartsShown parts) : dropEmptyStart parts = parts := by
  unfold dropEmptyStart
  split
  · exact absurd h id
  · rfl

theorem startsShown_dropEmptyStart (parts : List (List Char)) :
    StartsShown (dropEmptyStart parts) := by
  induction parts using dropEmptyStart.induct with
  | case1 s rest ih => rwa [dropEmptyStart]
  | case2 parts hparts =>
    have hself : dropEmptyStart parts = parts := by
      rw [dropEmptyStart]
      exact hparts
    rw [hself]
    unfold StartsShown
    split
    · rename_i s rest
      exact hparts s rest rfl
    · trivial

theorem dropEmptyStart_ne_nil (hne : parts ≠ []) : dropEmptyStart parts ≠ [] := by
  induction parts using dropEmptyStart.induct with
  | case1 s rest ih =>
    rw [dropEmptyStart]
    exact ih (List.cons_ne_nil s rest)
  | case2 parts hparts =>
    rw [dropEmptyStart]
    · exact hne
    · exact hparts

theorem Dotless.dropEmptyStart (h : Dotless kind parts) : Dotless kind (dropEmptyStart parts) where
  ne_nil := dropEmptyStart_ne_nil h.ne_nil
  chars := fun s hs => h.chars s (mem_of_mem_dropEmptyStart hs)
  dots := fun s hs => h.dots s (mem_of_mem_dropEmptyStart hs)

theorem isDrive_pair (c d : Char) : isDrive [c, d] = (c.isAlpha && (d = ':' || d = '|')) := rfl

theorem exists_of_isDrive {s : List Char} (h : isDrive s = true) : ∃ c d, s = [c, d] :=
  List.length_eq_two.mp (of_decide_eq_true (Bool.and_eq_true_iff.mp h).1)

theorem settleSegment_of_isDrive {c d : Char} (h : isDrive [c, d] = true) :
    settleSegment .file [] [c, d] = [c, ':'] := if_pos ⟨rfl, rfl, h⟩

theorem settleSegment_of_not_isDrive {s : List Char} (h : isDrive s = false) :
    settleSegment .file [] s = s := by
  unfold settleSegment
  split
  · simp [h]
  · rfl

theorem isDrive_settleSegment (s : List Char) :
    isDrive (settleSegment .file [] s) = isDrive s := by
  cases hdrive : isDrive s with
  | false => rw [settleSegment_of_not_isDrive hdrive, hdrive]
  | true =>
    obtain ⟨c, d, rfl⟩ := exists_of_isDrive hdrive
    rw [isDrive_pair, Bool.and_eq_true] at hdrive
    rw [settleSegment_of_isDrive (by rw [isDrive_pair, Bool.and_eq_true]; exact hdrive),
      isDrive_pair, hdrive.1]
    rfl

theorem Dotless.namesDrive_text {s : List Char} {rest : List (List Char)}
    (h : Dotless .file (s :: rest)) :
    namesDrive (dropSlash .file (UrlPath.segments (s :: rest)).text) = isDrive s := by
  rw [h.dropSlash_text, namesDrive, h.settledSegments_eq]
  exact isDrive_settleSegment s

theorem startsShown_settleSegment {s : List Char} {rest : List (List Char)}
    (h : StartsShown (s :: rest)) : StartsShown (settleSegment .file [] s :: rest) := by
  cases hdrive : isDrive s with
  | false => rwa [settleSegment_of_not_isDrive hdrive]
  | true =>
    obtain ⟨c, d, rfl⟩ := exists_of_isDrive hdrive
    rw [settleSegment_of_isDrive hdrive]
    trivial

/-- Together with its slash, the path of a file is read as it was. -/
theorem Dotless.readSegments_rooted (h : Dotless .file parts) (hshown : StartsShown parts) :
    readSegments .file (UrlPath.segments parts).text = .segments parts := by
  have hslash : fields (isSlash .file) ('/' :: ['/'].intercalate parts) = [] :: parts := by
    rw [fields, if_pos (isSlash_slash .file), h.fields_intercalate]
  -- the empty segment before the slash stands first, so no drive letter does
  have hsettled : settleSegments .file [] ([] :: parts) = [] :: parts := by
    obtain ⟨s, rest, rfl⟩ := List.exists_cons_of_ne_nil h.ne_nil
    exact settleSegments_of_dots [] [] h.dots
  have hdrop : Url.dropEmptyStart ([] :: parts) = parts := by
    obtain ⟨s, rest, rfl⟩ := List.exists_cons_of_ne_nil h.ne_nil
    rw [Url.dropEmptyStart]
    exact dropEmptyStart_eq_self hshown
  rw [UrlPath.text, flatMap_slash h.ne_nil, readSegments, settledSegments, hslash, List.map_cons,
    h.map_percentEncode]
  exact congrArg UrlPath.segments ((congrArg Url.dropEmptyStart hsettled).trans hdrop)

/-- The path of a file is read as it was, but for a drive letter without a colon. -/
theorem Dotless.readSegments_file {s : List Char} {rest : List (List Char)}
    (h : Dotless .file (s :: rest)) (hshown : StartsShown (s :: rest)) :
    readSegments .file (dropSlash .file (UrlPath.segments (s :: rest)).text) =
      .segments (settleSegment .file [] s :: rest) := by
  rw [h.dropSlash_text, readSegments, h.settledSegments_eq]
  exact congrArg UrlPath.segments (dropEmptyStart_eq_self (startsShown_settleSegment hshown))

end PaymentConnector.Url
