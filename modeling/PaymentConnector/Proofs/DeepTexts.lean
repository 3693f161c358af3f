import PaymentConnector.Proofs.HeldObjects

/-!
Objects as texts without blanks. Such a text is JSON for the object, and it is refused if a list
in it is too deep, under whatever key it stands.
-/

namespace PaymentConnector.Json

variable {l : NumberLimit}

/-- The text of a string in which every character stands for itself. -/
def plainText (s : String) : List Char := '"' :: (s.toList ++ ['"'])

/-- No character of a string has to be escaped. -/
def IsPlain (s : String) : Prop := ∀ c ∈ s.toList, c ≠ '"' ∧ c ≠ '\\' ∧ 0x20 ≤ c.toNat

instance (s : String) : Decidable (IsPlain s) := List.decidableBAll _ s.toList

theorem isQuoted_plainText {s : String} (h : IsPlain s) : IsQuoted s (plainText s) := by
  refine ⟨s.toList, ?_, rfl⟩
  unfold IsPlain at h
  generalize s.toList = cs at h
  induction cs with
  | nil => exact .nil
  | cons c cs ih =>
    obtain ⟨⟨hquote, hslash, hc⟩, hrest⟩ := List.forall_mem_cons.mp h
    exact .cons (.char (.self hquote hslash hc)) (ih hrest)

/-- An entry without blanks, with the text of its value. -/
def Member.bare (key : String) (j : Json) (t : List Char) : Member :=
  ⟨key, ⟨[], plainText key, [], blanks_nil, blanks_nil⟩, j, ⟨[], t, [], blanks_nil, blanks_nil⟩⟩

/-- The text of an object without blanks. -/
def bareText (members : List Member) : List Char :=
  '{' :: (rowText (members.map Member.padded) ++ ['}'])

theorem jsonText_bareText {members : List Member}
    (hnames : ∀ m ∈ members, IsQuoted m.key m.name.text)
    (hvalues : ∀ m ∈ members, Spelled l m.value m.body.text) :
    JsonText l (.obj (members.map fun m => (m.key, m.value))) (bareText members) := by
  refine ⟨⟨[], bareText members, [], blanks_nil, blanks_nil⟩, ?_, by simp [Padded.chars]⟩
  exact .object blanks_nil hnames hvalues

/-! Objects of plain strings -/

/-- Entries whose keys and values are plain strings. -/
def plainMembers (es : List (String × String)) : List Member :=
  es.map fun e => .bare e.1 (.str e.2) (plainText e.2)

section

variable {es : List (String × String)}

theorem isQuoted_plainMembers (h : ∀ e ∈ es, IsPlain e.1 ∧ IsPlain e.2) :
    ∀ m ∈ plainMembers es, IsQuoted m.key m.name.text := by
  intro m hm
  obtain ⟨e, he, rfl⟩ := List.mem_map.mp hm
  exact isQuoted_plainText (h e he).1

theorem spelled_plainMembers (h : ∀ e ∈ es, IsPlain e.1 ∧ IsPlain e.2) :
    ∀ m ∈ plainMembers es, Spelled l m.value m.body.text := by
  intro m hm
  obtain ⟨e, he, rfl⟩ := List.mem_map.mp hm
  exact .string (isQuoted_plainText (h e he).2)

theorem jsonText_plainMembers (h : ∀ e ∈ es, IsPlain e.1 ∧ IsPlain e.2) :
    JsonText l (.obj (es.map fun e => (e.1, .str e.2))) (bareText (plainMembers es)) := by
  have htext := jsonText_bareText (l := l) (isQuoted_plainMembers h) (spelled_plainMembers h)
  rwa [plainMembers, List.map_map] at htext

theorem depth_plainMembers_le :
    (obj (es.map fun e => (e.1, str e.2))).depth ≤ 1 := by
  refine Nat.succ_le_succ (entriesDepth_le_iff.mpr fun e he => ?_)
  obtain ⟨e', -, rfl⟩ := List.mem_map.mp he
  exact Nat.le_refl _

end

/-! Lists that stand too deep -/

def nestedText : Nat → List Char
  | 0 => ['[', ']']
  | n + 1 => '[' :: (nestedText n ++ [']'])

theorem spelled_nested (n : Nat) : Spelled l (nested n) (nestedText n) := by
  induction n with
  | zero =>
    have hnone : ∀ e ∈ ([] : List (Json × Padded)), Spelled l e.1 e.2.text := by simp
    exact .list blanks_nil hnone
  | succ n ih =>
    have hitems : ∀ e ∈ [(nested n, (⟨[], nestedText n, [], blanks_nil, blanks_nil⟩ : Padded))],
        Spelled l e.1 e.2.text := by simpa using ih
    have hlist := Spelled.list blanks_nil hitems
    rw [nested, nestedText]
    simpa [rowText, joinWith, Padded.chars] using hlist

theorem merged_nested (n : Nat) : (nested n).merged = nested n := by
  induction n with
  | zero => rfl
  | succ n ih => simp [nested, merged_arr, ih]

theorem depth_lt_of_get? {o : Object} {key : String} {j : Json} (h : o.get? key = some j) :
    j.depth < (obj o).depth :=
  Nat.lt_succ_of_le (entriesDepth_le_iff.mp (Nat.le_refl _) _ (mem_of_get? h))

section

variable {members : List Member} {key : String} {n : Nat}

theorem forall_mem_nested {p : Member → Prop} (h : ∀ m ∈ members, p m)
    (hlast : p (.bare key (nested n) (nestedText n))) :
    ∀ m ∈ members ++ [.bare key (nested n) (nestedText n)], p m :=
  List.forall_mem_append.mpr ⟨h, by simpa using hlast⟩

theorem jsonText_nested (hnames : ∀ m ∈ members, IsQuoted m.key m.name.text)
    (hvalues : ∀ m ∈ members, Spelled l m.value m.body.text) (hkey : IsPlain key) :
    JsonText l (.obj ((members.map fun m => (m.key, m.value)) ++ [(key, nested n)]))
      (bareText (members ++ [.bare key (nested n) (nestedText n)])) := by
  have htext := jsonText_bareText
    (forall_mem_nested (n := n) hnames (isQuoted_plainText hkey))
    (forall_mem_nested hvalues (spelled_nested n))
  rwa [List.map_append] at htext

/-- A text is refused if lists stand too deep in it, whatever else is there. -/
theorem verdict_ne_ok_of_nested {d : Dialect}
    (hnames : ∀ m ∈ members, IsQuoted m.key m.name.text)
    (hvalues : ∀ m ∈ members, Spelled d.numbers m.value m.body.text) (hkey : IsPlain key)
    (hd : d.repairSurrogates = false) (hdeep : d.depth ≤ n) (v : Json) :
    verdict d (bareText (members ++ [.bare key (nested n) (nestedText n)])) ≠ .ok v := by
  refine (jsonText_nested hnames hvalues hkey).verdict_ne_ok hd (fun hreach => ?_) v
  -- the lists come last for their key, so they are still there when the keys are merged
  have hlast (o : Object) :
      (lastEntries (o ++ [(key, nested n)])).get? key = some (nested n) := by
    rw [get?_lastEntries, List.reverse_append]
    simp [merged_nested]
  rw [merged_obj] at hreach
  have hdepth := Nat.lt_of_lt_of_le (depth_lt_of_get? (hlast _)) hreach.depth_le
  rw [depth_nested] at hdepth
  omega

end

/-- The text of an object of plain strings that has lists inside one another under a last key. -/
def deepText (es : List (String × String)) (key : String) (n : Nat) : List Char :=
  bareText (plainMembers es ++ [.bare key (nested n) (nestedText n)])

theorem jsonText_deepText {es : List (String × String)} {key : String}
    (h : ∀ e ∈ es, IsPlain e.1 ∧ IsPlain e.2) (hkey : IsPlain key) (n : Nat) :
    JsonText l (.obj ((es.map fun e => (e.1, .str e.2)) ++ [(key, nested n)]))
      (deepText es key n) := by
  have htext :=
    jsonText_nested (l := l) (n := n) (isQuoted_plainMembers h) (spelled_plainMembers h) hkey
  rwa [plainMembers, List.map_map] at htext

end PaymentConnector.Json

namespace PaymentConnector.Wire.Payload

open Json (IsPlain plainMembers bareText)

/-- The text of an object of plain strings holds the object. -/
theorem holds_plainMembers {es : List (String × String)}
    (h : ∀ e ∈ es, IsPlain e.1 ∧ IsPlain e.2) :
    Holds (.value (.str (String.ofList (bareText (plainMembers es)))))
      (Json.lastEntries (es.map fun e => (e.1, .str e.2))) := by
  have htext := Json.jsonText_plainMembers (l := dialect.numbers) h
  rw [← String.toList_ofList (l := bareText (plainMembers es))] at htext
  exact .text htext
    (Json.Dialect.reaches_of_depth_le (Nat.le_trans Json.depth_plainMembers_le (by decide)))

/-- A text in which lists stand too deep holds no object. -/
theorem not_holds_deepText {es : List (String × String)} {key : String} {n : Nat}
    (h : ∀ e ∈ es, IsPlain e.1 ∧ IsPlain e.2) (hkey : IsPlain key) (hdeep : dialect.depth ≤ n)
    (o : Object) : ¬ Holds (.value (.str (String.ofList (Json.deepText es key n)))) o := by
  intro hholds
  have htext := object?_eq_some_iff.mpr hholds
  rw [object?, String.toList_ofList, textObject?_eq_some_iff_verdict] at htext
  exact Json.verdict_ne_ok_of_nested (Json.isQuoted_plainMembers h) (Json.spelled_plainMembers h)
    hkey rfl hdeep _ htext

end PaymentConnector.Wire.Payload
