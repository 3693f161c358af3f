import PaymentConnector.Text.Upper

/-!
Upper-casing is settled after one round. A small letter is one that the tables give a
capital form of its own. No capital form holds a small letter, which is checked on both
sets at once, as bits of two numbers. So every letter of a capital form is its own
capital form, and upper-casing a text for a second time leaves it as it is.
-/

namespace PaymentConnector.Text

/-! The letters of the tables -/

def CaseRun.members (r : CaseRun) : List Nat :=
  (List.range r.count).map fun i => r.first + i * r.step

/-- The letters whose capital form the tables tell. -/
def smallLetters : List Nat := longCapitals.map Prod.fst ++ caseRuns.flatMap CaseRun.members

/-- The letters that the capital forms in the tables are made of. -/
def capitalLetters : List Nat :=
  longCapitals.flatMap Prod.snd
    ++ caseRuns.flatMap fun r => r.members.map fun (n : Nat) => (n + r.shift).toNat

theorem CaseRun.mem_members_of_has {r : CaseRun} {n : Nat} (h : r.has n = true) :
    n ∈ r.members := by
  simp only [has, Bool.and_eq_true, decide_eq_true_eq, beq_iff_eq] at h
  obtain ⟨⟨hfirst, hlast⟩, hstep⟩ := h
  have hplace : (n - r.first) / r.step * r.step = n - r.first :=
    Nat.div_mul_cancel (Nat.dvd_of_mod_eq_zero hstep)
  refine List.mem_map.mpr ⟨(n - r.first) / r.step, ?_, by omega⟩
  rw [List.mem_range]
  apply Nat.div_lt_of_lt_mul
  rw [Nat.mul_comm]
  omega

theorem capital_of_notMem {n : Nat} (h : n ∉ smallLetters) : capital n = [n] := by
  simp only [smallLetters, List.mem_append, not_or] at h
  obtain ⟨hlong, hrun⟩ := h
  have hlookup : longCapitals.lookup n = none := by
    rw [List.lookup_eq_none_iff]
    intro e he
    simp only [bne_iff_ne, ne_eq]
    rintro rfl
    exact hlong (List.mem_map_of_mem he)
  have hfind : caseRuns.find? (·.has n) = none := by
    rw [List.find?_eq_none]
    intro r hr hhas
    exact hrun (List.mem_flatMap.mpr ⟨r, hr, CaseRun.mem_members_of_has hhas⟩)
  simp only [capital, hlookup, hfind]

/-- A letter without a capital form in the tables is its own, and the others have one made
of capital letters. -/
theorem capital_cases (n : Nat) : capital n = [n] ∨ ∀ m ∈ capital n, m ∈ capitalLetters := by
  unfold capital
  cases hlookup : longCapitals.lookup n with
  | some letters =>
    refine Or.inr fun m hm => List.mem_append_left _ ?_
    obtain ⟨before, after, htable, -⟩ := List.lookup_eq_some_iff.mp hlookup
    have hentry : (n, letters) ∈ longCapitals := by
      rw [htable]
      exact List.mem_append_right _ List.mem_cons_self
    exact List.mem_flatMap.mpr ⟨(n, letters), hentry, hm⟩
  | none =>
    cases hfind : caseRuns.find? (·.has n) with
    | none => exact Or.inl rfl
    | some r =>
      refine Or.inr fun m hm => List.mem_append_right _ ?_
      have hhas : r.has n = true := by simpa using List.find?_some hfind
      have hmember := CaseRun.mem_members_of_has hhas
      have hrun := List.mem_of_find?_eq_some hfind
      rw [List.mem_singleton] at hm
      rw [hm]
      exact List.mem_flatMap.mpr ⟨r, hrun, List.mem_map.mpr ⟨n, hmember, rfl⟩⟩

/-! Small letters and capital letters are apart -/

/-- A set of numbers as the bits of one. -/
def bitset : List Nat → Nat
  | [] => 0
  | n :: ns => bitset ns ||| 1 <<< n

theorem testBit_bitset_of_mem {ns : List Nat} {n : Nat} (h : n ∈ ns) :
    (bitset ns).testBit n = true := by
  induction ns with
  | nil => exact absurd h List.not_mem_nil
  | cons m ns ih =>
    rw [bitset, Nat.testBit_or, Bool.or_eq_true]
    rcases List.mem_cons.mp h with rfl | h
    · right
      simp [Nat.testBit_shiftLeft]
    · exact Or.inl (ih h)

theorem disjoint_of_bitset {ns ms : List Nat} (h : bitset ns &&& bitset ms = 0) {n : Nat}
    (hn : n ∈ ns) : n ∉ ms := by
  intro hm
  have hboth : (bitset ns &&& bitset ms).testBit n = true := by
    rw [Nat.testBit_and, testBit_bitset_of_mem hn, testBit_bitset_of_mem hm]
    rfl
  rw [h, Nat.zero_testBit] at hboth
  exact Bool.noConfusion hboth

theorem notMem_smallLetters {n : Nat} (h : n ∈ capitalLetters) : n ∉ smallLetters :=
  disjoint_of_bitset (by decide +kernel) h

theorem isValidChar_of_mem_capitalLetters : ∀ n ∈ capitalLetters, n.isValidChar := by
  decide +kernel

/-! Upper-casing twice -/

/-- The letters of a capital form are characters, and each is its own capital form. -/
theorem capital_of_mem_capital (c : Char) {m : Nat} (h : m ∈ capital c.toNat) :
    m.isValidChar ∧ capital m = [m] := by
  rcases capital_cases c.toNat with hown | hcapitals
  · rw [hown, List.mem_singleton] at h
    rw [h]
    exact ⟨c.valid, hown⟩
  · have hm := hcapitals m h
    exact ⟨isValidChar_of_mem_capitalLetters m hm, capital_of_notMem (notMem_smallLetters hm)⟩

theorem capital_of_mem_upperChars {s : List Char} {c : Char} (h : c ∈ upperChars s) :
    capital c.toNat = [c.toNat] := by
  obtain ⟨d, -, hc⟩ := List.mem_flatMap.mp h
  obtain ⟨m, hm, rfl⟩ := List.mem_map.mp hc
  obtain ⟨hvalid, hcapital⟩ := capital_of_mem_capital d hm
  have hnat : (Char.ofNat m).toNat = m := by
    rw [Char.ofNat, dif_pos hvalid]
    rfl
  rw [hnat, hcapital]

theorem upperChars_eq_self {s : List Char} (h : ∀ c ∈ s, capital c.toNat = [c.toNat]) :
    upperChars s = s := by
  induction s with
  | nil => rfl
  | cons c s ih =>
    have hrest := ih fun d hd => h d (List.mem_cons_of_mem c hd)
    rw [upperChars] at hrest
    rw [upperChars, List.flatMap_cons, h c List.mem_cons_self, List.map_singleton,
      Char.ofNat_toNat, hrest, List.singleton_append]

theorem upper_upper (s : String) : upper (upper s) = upper s := by
  rw [upper, upper, String.toList_ofList]
  exact congrArg String.ofList (upperChars_eq_self fun c hc => capital_of_mem_upperChars hc)

end PaymentConnector.Text
