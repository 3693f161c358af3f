import PaymentConnector.Json.Limit
import PaymentConnector.Proofs.NestedValues

/-!
What a dump shows of a dictionary. Numbers that are not finite give way to nulls and nothing
else changes, so what is shown is as deep as the dictionary, has the same keys and whole numbers,
and is shown as it is once more. A value has about as many levels as it is deep, so a dictionary
that is shallow enough is always shown.
-/

namespace PaymentConnector

namespace Json

/-! Levels -/

@[simp] theorem itemsLevels_nil : itemsLevels [] = 0 := rfl

theorem itemsLevels_cons (j : Json) (rest : List Json) :
    itemsLevels (j :: rest) = max j.levels (itemsLevels rest) := rfl

@[simp] theorem entriesLevels_nil : entriesLevels [] = 0 := rfl

theorem entriesLevels_cons (key : String) (j : Json) (rest : List (String × Json)) :
    entriesLevels ((key, j) :: rest) = max j.levels (entriesLevels rest) := rfl

theorem levels_arr (items : List Json) : (arr items).levels = itemsLevels items + 1 := rfl

theorem levels_obj (entries : List (String × Json)) :
    (obj entries).levels = entriesLevels entries + 1 := rfl

section

variable {n : Nat}

theorem itemsLevels_le_iff {items : List Json} :
    itemsLevels items ≤ n ↔ ∀ j ∈ items, levels j ≤ n := by
  induction items with
  | nil => simp
  | cons j items ih => rw [itemsLevels_cons, Nat.max_le, ih, List.forall_mem_cons]

theorem entriesLevels_le_iff {entries : List (String × Json)} :
    entriesLevels entries ≤ n ↔ ∀ e ∈ entries, levels e.2 ≤ n := by
  induction entries with
  | nil => simp
  | cons e entries ih =>
    obtain ⟨key, j⟩ := e
    rw [entriesLevels_cons, Nat.max_le, ih, List.forall_mem_cons]

end

/-- A value that is no list and no object may add a level to those around it. -/
theorem levels_le (j : Json) : j.levels ≤ j.depth + 1 := by
  induction j using Json.treeInduction with
  | arr items ih =>
    have hitems : itemsLevels items ≤ itemsDepth items + 1 := by
      rw [itemsLevels_le_iff]
      intro j hj
      have hdepth := itemsDepth_le_iff.mp (Nat.le_refl _) j hj
      exact Nat.le_trans (ih j hj) (Nat.succ_le_succ hdepth)
    exact Nat.succ_le_succ hitems
  | obj entries ih =>
    have hentries : entriesLevels entries ≤ entriesDepth entries + 1 := by
      rw [entriesLevels_le_iff]
      intro e he
      have hdepth := entriesDepth_le_iff.mp (Nat.le_refl _) e he
      exact Nat.le_trans (ih e he) (Nat.succ_le_succ hdepth)
    exact Nat.succ_le_succ hentries
  | _ => exact Nat.le_refl _

theorem depth_le_levels (j : Json) : j.depth ≤ j.levels := by
  induction j using Json.treeInduction with
  | arr items ih =>
    have hitems : itemsDepth items ≤ itemsLevels items := by
      rw [itemsDepth_le_iff]
      exact fun j hj => Nat.le_trans (ih j hj) (itemsLevels_le_iff.mp (Nat.le_refl _) j hj)
    exact Nat.succ_le_succ hitems
  | obj entries ih =>
    have hentries : entriesDepth entries ≤ entriesLevels entries := by
      rw [entriesDepth_le_iff]
      exact fun e he => Nat.le_trans (ih e he) (entriesLevels_le_iff.mp (Nat.le_refl _) e he)
    exact Nat.succ_le_succ hentries
  | _ => exact Nat.zero_le _

theorem itemsLevels_map {items : List Json} {g : Json → Json}
    (h : ∀ j ∈ items, (g j).levels = j.levels) :
    itemsLevels (items.map g) = itemsLevels items := by
  induction items with
  | nil => rfl
  | cons j items ih =>
    have hrest := ih fun k hk => h k (List.mem_cons_of_mem j hk)
    rw [List.map_cons, itemsLevels_cons, itemsLevels_cons, hrest, h j List.mem_cons_self]

theorem entriesLevels_map {entries : List (String × Json)} {g : String × Json → Json}
    (h : ∀ e ∈ entries, (g e).levels = e.2.levels) :
    entriesLevels (entries.map fun e => (e.1, g e)) = entriesLevels entries := by
  induction entries with
  | nil => rfl
  | cons e entries ih =>
    obtain ⟨key, j⟩ := e
    have hrest := ih fun e' he' => h e' (List.mem_cons_of_mem _ he')
    rw [List.map_cons, entriesLevels_cons, entriesLevels_cons, hrest, h _ List.mem_cons_self]

/-! Numbers that are not finite -/

theorem finiteItems_cons (j : Json) (rest : List Json) :
    finiteItems (j :: rest) = j.finite :: finiteItems rest := rfl

theorem finiteEntries_cons (key : String) (j : Json) (rest : List (String × Json)) :
    finiteEntries ((key, j) :: rest) = (key, j.finite) :: finiteEntries rest := rfl

theorem finiteItems_eq (items : List Json) : finiteItems items = items.map finite := by
  induction items with
  | nil => rfl
  | cons j items ih => rw [finiteItems_cons, ih, List.map_cons]

theorem finiteEntries_eq (entries : List (String × Json)) :
    finiteEntries entries = entries.map fun e => (e.1, e.2.finite) := by
  induction entries with
  | nil => rfl
  | cons e entries ih =>
    obtain ⟨key, j⟩ := e
    rw [finiteEntries_cons, ih, List.map_cons]

@[simp] theorem finite_arr (items : List Json) : (arr items).finite = arr (items.map finite) :=
  congrArg arr (finiteItems_eq items)

@[simp] theorem finite_obj (entries : List (String × Json)) :
    (obj entries).finite = obj (entries.map fun e => (e.1, e.2.finite)) :=
  congrArg obj (finiteEntries_eq entries)

theorem finite_finite (j : Json) : j.finite.finite = j.finite := by
  induction j using Json.treeInduction with
  | arr items ih =>
    rw [finite_arr, finite_arr, List.map_map]
    exact congrArg arr (List.map_congr_left ih)
  | obj entries ih =>
    rw [finite_obj, finite_obj, List.map_map]
    exact congrArg obj (List.map_congr_left fun e he => Prod.ext rfl (ih e he))
  | float x => cases x <;> rfl
  | _ => rfl

theorem depth_finite (j : Json) : j.finite.depth = j.depth := by
  induction j using Json.treeInduction with
  | arr items ih =>
    rw [finite_arr, depth, depth, itemsDepth_map ih]
  | obj entries ih =>
    rw [finite_obj, depth, depth, entriesDepth_map ih]
  | float x => cases x <;> rfl
  | _ => rfl

theorem levels_finite (j : Json) : j.finite.levels = j.levels := by
  induction j using Json.treeInduction with
  | arr items ih =>
    rw [finite_arr, levels_arr, levels_arr, itemsLevels_map ih]
  | obj entries ih =>
    rw [finite_obj, levels_obj, levels_obj, entriesLevels_map ih]
  | float x => cases x <;> rfl
  | _ => rfl

theorem KeysDistinct.finite {j : Json} (h : j.KeysDistinct) : j.finite.KeysDistinct := by
  induction j using Json.treeInduction with
  | arr items ih =>
    rw [finite_arr, arr_iff, List.forall_mem_map]
    exact fun j hj => ih j hj (arr_iff.mp h j hj)
  | obj entries ih =>
    obtain ⟨hkeys, hvalues⟩ := obj_iff.mp h
    rw [finite_obj, obj_iff, List.map_map, List.forall_mem_map]
    exact ⟨hkeys, fun e he => ih e he (hvalues e he)⟩
  | float x => cases x <;> exact .of_depth_eq_zero rfl
  | _ => exact h

theorem NumbersFit.finite {l : NumberLimit} {j : Json} (h : j.NumbersFit l) :
    j.finite.NumbersFit l := by
  induction j using Json.treeInduction with
  | arr items ih =>
    rw [finite_arr, arr_iff, List.forall_mem_map]
    exact fun j hj => ih j hj (arr_iff.mp h j hj)
  | obj entries ih =>
    rw [finite_obj, obj_iff, List.forall_mem_map]
    exact fun e he => ih e he (obj_iff.mp h e he)
  | float x => cases x <;> exact .of_depth_eq_zero rfl fun _ hint => nomatch hint
  | _ => exact h

theorem Writable.finite {n : Nat} {j : Json} (h : j.Writable n) : j.finite.Writable n :=
  ⟨Nat.le_trans (Nat.le_of_eq j.depth_finite) h.depth_le, h.keysDistinct.finite,
    h.numbersFit.finite⟩

end Json

/-! Dictionaries -/

namespace Object

variable {o : Object}

/-- The dictionary with its values as a dump shows them. -/
def shown (o : Object) : Object := o.map fun e => (e.1, e.2.finite)

theorem tree_eq (o : Object) : o.tree = .obj o.shown := Json.finite_obj o

@[simp] theorem tree_shown (o : Object) : o.shown.tree = o.tree := by
  rw [tree, ← tree_eq, tree, Json.finite_finite]

theorem isShallow_iff :
    o.isShallow = true ↔ ∀ e ∈ o, e.2.levels ≤ Json.levelLimit := by
  simp [isShallow]

@[simp] theorem isShallow_shown (o : Object) : o.shown.isShallow = o.isShallow := by
  rw [Bool.eq_iff_iff, isShallow_iff, isShallow_iff, shown, List.forall_mem_map]
  simp only [Json.levels_finite]

theorem isShallow_of_depth_le (h : (Json.obj o).depth ≤ Json.levelLimit) :
    o.isShallow = true := by
  rw [isShallow_iff]
  intro e he
  have hentry := Json.entriesDepth_le_iff.mp (Nat.le_refl _) e he
  have hentries : Json.entriesDepth o + 1 ≤ Json.levelLimit := h
  have hlevels := e.2.levels_le
  omega

end Object

namespace Json

variable {dictionaries : List Object} {tree j : Json}

theorem dumpOf_eq_ok_iff :
    dumpOf dictionaries tree = .ok j ↔
      (∀ o ∈ dictionaries, o.isShallow = true) ∧ tree = j := by
  unfold dumpOf
  rw [← List.all_eq_true]
  cases dictionaries.all Object.isShallow <;> simp

/-- What is shown can be dumped as often as what it is shown for. -/
theorem dumpOf_map_shown (dictionaries : List Object) (tree : Json) :
    dumpOf (dictionaries.map Object.shown) tree = dumpOf dictionaries tree := by
  unfold dumpOf
  rw [List.all_map]
  simp only [Function.comp_def, Object.isShallow_shown]

/-- There is no dump if a value stands too deep in one of the dictionaries. -/
theorem dumpOf_of_deep {o : Object} {e : String × Json} (ho : o ∈ dictionaries) (he : e ∈ o)
    (hdeep : levelLimit < e.2.depth) : dumpOf dictionaries tree = .error .nesting := by
  have hnot : ¬ dictionaries.all Object.isShallow = true := by
    intro hall
    have hlevels := Object.isShallow_iff.mp (List.all_eq_true.mp hall o ho) e he
    exact Nat.not_lt.mpr (Nat.le_trans e.2.depth_le_levels hlevels) hdeep
  exact if_neg hnot

end Json

end PaymentConnector
