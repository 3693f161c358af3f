import PaymentConnector.Proofs.SpelledNumbers

/-!
Values inside values. The parts of a value are the value itself and the parts of its items
and entries; its depth counts the lists and objects that stand inside one another. A value
is writable within a depth if it is no deeper, no object in it has a key twice and no whole
number in it has more digits than are read. A reader reaches a value that is no deeper than
the reader goes.
-/

namespace PaymentConnector

/-! Entries -/

namespace Entries

variable {α : Type}

theorem keys_put (es : List (String × α)) (key : String) (value : α) :
    (put es key value).map Prod.fst =
      if key ∈ es.map Prod.fst then es.map Prod.fst else es.map Prod.fst ++ [key] := by
  induction es with
  | nil => rfl
  | cons e es ih =>
    obtain ⟨k, v⟩ := e
    by_cases hk : k = key
    · simp [put, hk]
    · have hk' : key ≠ k := fun h => hk h.symm
      simp only [put, hk, if_false, List.map_cons, ih, List.mem_cons, hk', false_or]
      split <;> rfl

theorem nodup_put {es : List (String × α)} (h : (es.map Prod.fst).Nodup) (key : String)
    (value : α) : ((put es key value).map Prod.fst).Nodup := by
  rw [keys_put]
  split
  · exact h
  · rename_i hkey
    have hdisjoint : ∀ a ∈ es.map Prod.fst, ∀ b ∈ [key], a ≠ b := by
      intro a ha b hb hab
      rw [List.mem_singleton.mp hb] at hab
      exact hkey (hab ▸ ha)
    exact List.nodup_append.mpr ⟨h, by simp, hdisjoint⟩

theorem put_of_notMem {es : List (String × α)} {key : String} (h : key ∉ es.map Prod.fst)
    (value : α) : put es key value = es ++ [(key, value)] := by
  induction es with
  | nil => rfl
  | cons e es ih =>
    obtain ⟨k, v⟩ := e
    simp only [List.map_cons, List.mem_cons, not_or] at h
    have hk : k ≠ key := fun hk => h.1 hk.symm
    rw [put, if_neg hk, ih h.2]
    rfl

theorem mem_put {es : List (String × α)} {key : String} {value : α} {e : String × α}
    (h : e ∈ put es key value) : e = (key, value) ∨ e ∈ es := by
  induction es with
  | nil => exact Or.inl (List.mem_singleton.mp h)
  | cons e' es ih =>
    obtain ⟨k, v⟩ := e'
    by_cases hk : k = key
    · rw [put, if_pos hk] at h
      exact (List.mem_cons.mp h).imp id (List.mem_cons_of_mem _)
    · rw [put, if_neg hk] at h
      rcases List.mem_cons.mp h with rfl | h
      · exact Or.inr List.mem_cons_self
      · exact (ih h).imp id (List.mem_cons_of_mem _)

theorem foldl_put_of_nodup (acc : List (String × α)) {es : List (String × α)}
    (h : ((acc ++ es).map Prod.fst).Nodup) :
    es.foldl (fun es e => put es e.1 e.2) acc = acc ++ es := by
  induction es generalizing acc with
  | nil => simp
  | cons e es ih =>
    have hnot : e.1 ∉ acc.map Prod.fst := by
      rw [List.map_append, List.map_cons] at h
      intro hmem
      exact (List.nodup_append.mp h).2.2 e.1 hmem e.1 List.mem_cons_self rfl
    rw [List.foldl_cons, put_of_notMem hnot, ih _ (by simpa using h)]
    simp

/-- Entries with keys of their own stay as they are. -/
theorem ofList_of_nodup {es : List (String × α)} (h : (es.map Prod.fst).Nodup) :
    ofList es = es := foldl_put_of_nodup [] h

/-- What each put keeps, the whole list has. -/
theorem ofList_induction {p : List (String × α) → Prop} (hnil : p [])
    (es : List (String × α))
    (hput : ∀ acc, p acc → ∀ e ∈ es, p (put acc e.1 e.2)) : p (ofList es) := by
  have hfold : ∀ acc, p acc → p (es.foldl (fun es e => put es e.1 e.2) acc) := by
    induction es with
    | nil => exact fun acc hacc => hacc
    | cons e es ih =>
      intro acc hacc
      exact ih (fun acc hacc e he => hput acc hacc e (List.mem_cons_of_mem _ he)) _
        (hput acc hacc e List.mem_cons_self)
  exact hfold [] hnil

theorem nodup_keys_ofList (es : List (String × α)) : ((ofList es).map Prod.fst).Nodup :=
  ofList_induction (p := fun acc => (acc.map Prod.fst).Nodup) (by simp) es
    fun _ hacc e _ => nodup_put hacc e.1 e.2

theorem mem_of_mem_ofList {es : List (String × α)} {e : String × α} (h : e ∈ ofList es) :
    e ∈ es := by
  refine ofList_induction (p := fun acc => ∀ e ∈ acc, e ∈ es) (by simp) es ?_ e h
  intro acc hacc e' he' e he
  rcases mem_put he with rfl | he
  · exact he'
  · exact hacc e he

theorem lookup_cons (key : String) (value : α) (es : List (String × α)) (k : String) :
    ((key, value) :: es).lookup k = if k = key then some value else es.lookup k := by
  by_cases hk : k = key
  · rw [if_pos hk, List.lookup_cons, beq_iff_eq.mpr hk]
  · rw [if_neg hk, List.lookup_cons, beq_eq_false_iff_ne.mpr hk]

theorem lookup_put (es : List (String × α)) (key : String) (value : α) (k : String) :
    (put es key value).lookup k = if k = key then some value else es.lookup k := by
  induction es with
  | nil => exact lookup_cons key value [] k
  | cons e es ih =>
    obtain ⟨name, v⟩ := e
    by_cases hname : name = key
    · subst hname
      rw [put, if_pos rfl, lookup_cons, lookup_cons]
      by_cases hk : k = name
      · rw [if_pos hk, if_pos hk]
      · rw [if_neg hk, if_neg hk, if_neg hk]
    · rw [put, if_neg hname, lookup_cons, lookup_cons, ih]
      by_cases hk : k = name
      · rw [if_pos hk, if_neg (hk ▸ hname), if_pos hk]
      · rw [if_neg hk, if_neg hk]

theorem lookup_foldl_put (es acc : List (String × α)) (k : String) :
    (es.foldl (fun es e => put es e.1 e.2) acc).lookup k =
      (es.reverse.lookup k).or (acc.lookup k) := by
  induction es generalizing acc with
  | nil => rfl
  | cons e es ih =>
    rw [List.foldl_cons, ih, lookup_put, List.reverse_cons, List.lookup_append, Option.or_assoc,
      lookup_cons]
    by_cases hk : k = e.1
    · rw [if_pos hk, if_pos hk, Option.some_or]
    · rw [if_neg hk, if_neg hk]
      rfl

/-- The value that arrives last for a key stays. -/
theorem lookup_ofList (es : List (String × α)) (k : String) :
    (ofList es).lookup k = es.reverse.lookup k := by
  rw [ofList, lookup_foldl_put]
  exact Option.or_none
end Entries

namespace Json

/-- Induction on a value, through all items and entries. -/
theorem treeInduction {p : Json → Prop} (null : p null) (bool : ∀ b, p (bool b))
    (int : ∀ n, p (int n)) (float : ∀ x, p (float x)) (str : ∀ s, p (str s))
    (arr : ∀ items, (∀ j ∈ items, p j) → p (arr items))
    (obj : ∀ entries, (∀ e ∈ entries, p e.2) → p (obj entries)) (j : Json) : p j :=
  match j with
  | .null => null
  | .bool b => bool b
  | .int n => int n
  | .float x => float x
  | .str s => str s
  | .arr items => arr items fun k hk =>
    have := List.sizeOf_lt_of_mem hk
    treeInduction null bool int float str arr obj k
  | .obj entries => obj entries fun e he =>
    have := List.sizeOf_lt_of_mem he
    treeInduction null bool int float str arr obj e.2
termination_by sizeOf j
decreasing_by
  · simp only [Json.arr.sizeOf_spec]
    omega
  · obtain ⟨key, value⟩ := e
    simp only [Json.obj.sizeOf_spec, Prod.mk.sizeOf_spec] at *
    omega

/-- A value inside another one, at any depth, or the value itself. -/
inductive Part : Json → Json → Prop
  | self (j : Json) : Part j j
  | item {k j : Json} {items : List Json} (hj : j ∈ items) (hk : Part k j) : Part k (arr items)
  | entry {k : Json} {e : String × Json} {entries : List (String × Json)} (he : e ∈ entries)
      (hk : Part k e.2) : Part k (obj entries)

/-- There is no fractional number in a value. -/
def FloatFree (j : Json) : Prop := ∀ x, ¬ Part (float x) j

/-- No object in a value has a key twice. -/
def KeysDistinct (j : Json) : Prop := ∀ o, Part (obj o) j → (o.map Prod.fst).Nodup

/-- No whole number in a value is too long where a limit holds. -/
def NumbersFit (l : NumberLimit) (j : Json) : Prop := ∀ n, Part (int n) j → l.Takes n

mutual

/-- How many lists and objects stand inside one another. -/
def depth : Json → Nat
  | arr items => itemsDepth items + 1
  | obj entries => entriesDepth entries + 1
  | null => 0
  | bool _ => 0
  | int _ => 0
  | float _ => 0
  | str _ => 0

def itemsDepth : List Json → Nat
  | [] => 0
  | j :: rest => max (depth j) (itemsDepth rest)

def entriesDepth : List (String × Json) → Nat
  | [] => 0
  | (_, j) :: rest => max (depth j) (entriesDepth rest)

end

namespace Part

variable {k : Json}

/-- A value without lists and objects has no other parts. -/
theorem iff_of_depth_eq_zero {j : Json} (hj : j.depth = 0) : Part k j ↔ k = j := by
  constructor
  · intro hk
    cases hk with
    | self => rfl
    | item => exact absurd hj (Nat.succ_ne_zero _)
    | entry => exact absurd hj (Nat.succ_ne_zero _)
  · rintro rfl
    exact self _

@[simp] theorem null_iff : Part k null ↔ k = null := iff_of_depth_eq_zero rfl

@[simp] theorem bool_iff {b : Bool} : Part k (bool b) ↔ k = bool b := iff_of_depth_eq_zero rfl

@[simp] theorem int_iff {n : Int} : Part k (int n) ↔ k = int n := iff_of_depth_eq_zero rfl

@[simp] theorem float_iff {x : Binary64} : Part k (float x) ↔ k = float x :=
  iff_of_depth_eq_zero rfl

@[simp] theorem str_iff {s : String} : Part k (str s) ↔ k = str s := iff_of_depth_eq_zero rfl

@[simp] theorem arr_iff {items : List Json} :
    Part k (arr items) ↔ k = arr items ∨ ∃ j ∈ items, Part k j := by
  constructor
  · rintro (_ | ⟨hj, hk⟩)
    · exact Or.inl rfl
    · exact Or.inr ⟨_, hj, hk⟩
  · rintro (rfl | ⟨j, hj, hk⟩)
    · exact self _
    · exact item hj hk

@[simp] theorem obj_iff {entries : List (String × Json)} :
    Part k (obj entries) ↔ k = obj entries ∨ ∃ e ∈ entries, Part k e.2 := by
  constructor
  · rintro (_ | _ | ⟨he, hk⟩)
    · exact Or.inl rfl
    · exact Or.inr ⟨_, he, hk⟩
  · rintro (rfl | ⟨e, he, hk⟩)
    · exact self _
    · exact entry he hk

end Part

theorem itemsDepth_le_iff {items : List Json} {n : Nat} :
    itemsDepth items ≤ n ↔ ∀ j ∈ items, depth j ≤ n := by
  induction items with
  | nil => simp [itemsDepth]
  | cons j items ih => rw [itemsDepth, Nat.max_le, ih, List.forall_mem_cons]

theorem entriesDepth_le_iff {entries : List (String × Json)} {n : Nat} :
    entriesDepth entries ≤ n ↔ ∀ e ∈ entries, depth e.2 ≤ n := by
  induction entries with
  | nil => simp [entriesDepth]
  | cons e entries ih =>
    obtain ⟨key, j⟩ := e
    rw [entriesDepth, Nat.max_le, ih, List.forall_mem_cons]

/-- No part of a value is deeper than the value. -/
theorem Part.depth_le {k j : Json} (h : Part k j) : k.depth ≤ j.depth := by
  induction h with
  | self => exact Nat.le_refl _
  | item hj _ ih =>
    exact Nat.le_trans ih (Nat.le_succ_of_le (itemsDepth_le_iff.mp (Nat.le_refl _) _ hj))
  | entry he _ ih =>
    exact Nat.le_trans ih (Nat.le_succ_of_le (entriesDepth_le_iff.mp (Nat.le_refl _) _ he))

theorem itemsDepth_map {items : List Json} {g : Json → Json}
    (h : ∀ j ∈ items, (g j).depth = j.depth) :
    itemsDepth (items.map g) = itemsDepth items := by
  induction items with
  | nil => rfl
  | cons j items ih =>
    have hrest := ih fun k hk => h k (List.mem_cons_of_mem j hk)
    rw [List.map_cons, itemsDepth, itemsDepth, hrest, h j List.mem_cons_self]

theorem entriesDepth_map {entries : List (String × Json)} {g : String × Json → Json}
    (h : ∀ e ∈ entries, (g e).depth = e.2.depth) :
    entriesDepth (entries.map fun e => (e.1, g e)) = entriesDepth entries := by
  induction entries with
  | nil => rfl
  | cons e entries ih =>
    obtain ⟨key, j⟩ := e
    have hrest := ih fun e' he' => h e' (List.mem_cons_of_mem _ he')
    rw [List.map_cons, entriesDepth, entriesDepth, hrest, h _ List.mem_cons_self]

/-- Lists inside one another. -/
def nested : Nat → Json
  | 0 => arr []
  | n + 1 => arr [nested n]

theorem depth_nested (n : Nat) : (nested n).depth = n + 1 := by
  induction n with
  | zero => rfl
  | succ n ih => simp [nested, depth, itemsDepth, ih]

/-! Values within reach -/

/-- Lists and objects stand at most so deep inside one another. An empty one may stand one
deeper if the dialect has it so. -/
def Dialect.Reaches (d : Dialect) : Nat → Json → Prop
  | 0, arr items => d.emptyBeneath = true ∧ items = []
  | 0, obj entries => d.emptyBeneath = true ∧ entries = []
  | n + 1, arr items => ∀ j ∈ items, d.Reaches n j
  | n + 1, obj entries => ∀ e ∈ entries, d.Reaches n e.2
  | _, _ => True

namespace Dialect

variable {d : Dialect} {n : Nat} {j : Json}

theorem reaches_of_depth_eq_zero (hj : j.depth = 0) : d.Reaches n j := by
  cases j with
  | arr => cases hj
  | obj => cases hj
  | _ => cases n <;> trivial

/-- What is no deeper than a reader goes is in its reach. -/
theorem reaches_of_depth_le (hj : j.depth ≤ n) : d.Reaches n j := by
  induction n generalizing j with
  | zero => exact reaches_of_depth_eq_zero (Nat.le_zero.mp hj)
  | succ n ih =>
    cases j with
    | arr items =>
      intro k hk
      exact ih (itemsDepth_le_iff.mp (Nat.le_of_succ_le_succ hj) k hk)
    | obj entries =>
      intro e he
      exact ih (entriesDepth_le_iff.mp (Nat.le_of_succ_le_succ hj) e he)
    | _ => trivial

/-- What is in reach is at most one deeper than a reader goes. -/
theorem Reaches.depth_le (h : d.Reaches n j) : j.depth ≤ n + 1 := by
  induction n generalizing j with
  | zero =>
    cases j with
    | arr items =>
      obtain ⟨-, rfl⟩ := h
      exact Nat.le_refl _
    | obj entries =>
      obtain ⟨-, rfl⟩ := h
      exact Nat.le_refl _
    | _ => exact Nat.zero_le _
  | succ n ih =>
    cases j with
    | arr items => exact Nat.succ_le_succ (itemsDepth_le_iff.mpr fun k hk => ih (h k hk))
    | obj entries => exact Nat.succ_le_succ (entriesDepth_le_iff.mpr fun e he => ih (h e he))
    | _ => exact Nat.zero_le _

end Dialect

/-! Keys of their own -/

namespace KeysDistinct

theorem of_depth_eq_zero {j : Json} (hj : j.depth = 0) : j.KeysDistinct := by
  intro o ho
  rw [← (Part.iff_of_depth_eq_zero hj).mp ho] at hj
  exact absurd hj (Nat.succ_ne_zero _)

theorem arr_iff {items : List Json} :
    (arr items).KeysDistinct ↔ ∀ j ∈ items, j.KeysDistinct := by
  constructor
  · exact fun h j hj o ho => h o (.item hj ho)
  · rintro h o (_ | ⟨hj, ho⟩)
    exact h _ hj o ho

theorem obj_iff {entries : List (String × Json)} :
    (obj entries).KeysDistinct ↔
      (entries.map Prod.fst).Nodup ∧ ∀ e ∈ entries, e.2.KeysDistinct := by
  constructor
  · exact fun h => ⟨h entries (.self _), fun e he o ho => h o (.entry he ho)⟩
  · rintro ⟨hkeys, h⟩ o (_ | _ | ⟨he, ho⟩)
    · exact hkeys
    · exact h _ he o ho

end KeysDistinct

/-! Numbers that fit -/

namespace NumbersFit

variable {l : NumberLimit}

theorem of_depth_eq_zero {j : Json} (hj : j.depth = 0) (hint : ∀ n, j = int n → l.Takes n) :
    j.NumbersFit l := fun n hn => hint n ((Part.iff_of_depth_eq_zero hj).mp hn).symm

theorem int_iff {n : Int} : (int n).NumbersFit l ↔ l.Takes n :=
  ⟨fun h => h n (.self _), fun h => of_depth_eq_zero rfl fun _ hm => Json.int.inj hm ▸ h⟩

theorem arr_iff {items : List Json} :
    (arr items).NumbersFit l ↔ ∀ j ∈ items, j.NumbersFit l := by
  constructor
  · exact fun h j hj n hn => h n (.item hj hn)
  · rintro h n (_ | ⟨hj, hn⟩)
    exact h _ hj n hn

theorem obj_iff {entries : List (String × Json)} :
    (obj entries).NumbersFit l ↔ ∀ e ∈ entries, e.2.NumbersFit l := by
  constructor
  · exact fun h e he n hn => h n (.entry he hn)
  · rintro h n (_ | _ | ⟨he, hn⟩)
    exact h _ he n hn

end NumbersFit

/-! Writable values -/

/-- A value that has a text: it is deep enough inside the limit, its objects have keys of their
own and its whole numbers have no more digits than are read. -/
structure Writable (limit : Nat) (j : Json) : Prop where
  depth_le : j.depth ≤ limit
  keysDistinct : j.KeysDistinct
  numbersFit : j.NumbersFit .digits

namespace Writable

variable {limit : Nat}

theorem mono {limit' : Nat} {j : Json} (h : j.Writable limit) (hle : limit ≤ limit') :
    j.Writable limit' := ⟨Nat.le_trans h.depth_le hle, h.keysDistinct, h.numbersFit⟩

theorem of_depth_eq_zero {j : Json} (hj : j.depth = 0) (hint : ∀ n, j = int n → FitsDigits n) :
    j.Writable limit := by
  exact ⟨hj ▸ Nat.zero_le _, .of_depth_eq_zero hj, .of_depth_eq_zero hj hint⟩

@[simp] theorem null : Json.null.Writable limit := of_depth_eq_zero rfl fun _ h => nomatch h

@[simp] theorem bool (b : Bool) : (Json.bool b).Writable limit :=
  of_depth_eq_zero rfl fun _ h => nomatch h

@[simp] theorem float (x : Binary64) : (Json.float x).Writable limit :=
  of_depth_eq_zero rfl fun _ h => nomatch h

@[simp] theorem str (s : String) : (Json.str s).Writable limit :=
  of_depth_eq_zero rfl fun _ h => nomatch h

@[simp] theorem int_iff {n : Int} : (Json.int n).Writable limit ↔ FitsDigits n := by
  constructor
  · intro h
    exact h.numbersFit n (.self _)
  · intro h
    exact of_depth_eq_zero rfl fun m hm => Json.int.inj hm ▸ h

theorem arr_iff {items : List Json} :
    (arr items).Writable (limit + 1) ↔ ∀ j ∈ items, j.Writable limit := by
  constructor
  · intro h j hj
    have hdepth := itemsDepth_le_iff.mp (Nat.le_of_succ_le_succ h.depth_le) j hj
    exact ⟨hdepth, KeysDistinct.arr_iff.mp h.keysDistinct j hj,
      NumbersFit.arr_iff.mp h.numbersFit j hj⟩
  · intro h
    exact ⟨Nat.succ_le_succ (itemsDepth_le_iff.mpr fun j hj => (h j hj).depth_le),
      KeysDistinct.arr_iff.mpr fun j hj => (h j hj).keysDistinct,
      NumbersFit.arr_iff.mpr fun j hj => (h j hj).numbersFit⟩

theorem obj_iff {entries : List (String × Json)} :
    (obj entries).Writable (limit + 1) ↔
      (entries.map Prod.fst).Nodup ∧ ∀ e ∈ entries, e.2.Writable limit := by
  constructor
  · intro h
    obtain ⟨hkeys, hvalues⟩ := KeysDistinct.obj_iff.mp h.keysDistinct
    refine ⟨hkeys, fun e he => ?_⟩
    have hdepth := entriesDepth_le_iff.mp (Nat.le_of_succ_le_succ h.depth_le) e he
    exact ⟨hdepth, hvalues e he, NumbersFit.obj_iff.mp h.numbersFit e he⟩
  · rintro ⟨hkeys, h⟩
    exact ⟨Nat.succ_le_succ (entriesDepth_le_iff.mpr fun e he => (h e he).depth_le),
      KeysDistinct.obj_iff.mpr ⟨hkeys, fun e he => (h e he).keysDistinct⟩,
      NumbersFit.obj_iff.mpr fun e he => (h e he).numbersFit⟩

theorem not_obj_zero {entries : List (String × Json)} : ¬ (obj entries).Writable 0 :=
  fun h => absurd h.depth_le (Nat.not_succ_le_zero _)

end Writable

end Json

end PaymentConnector
