import PaymentConnector.Proofs.PlacedDigits
import PaymentConnector.Proofs.TextCuts
import PaymentConnector.Url.Ipv6

/-!
Addresses of eight groups are read back from their text. A text without two colons in a
row has its groups between the colons. In a text with them, the run of zeros that was
left out is as long as what the groups before and after it leave of eight.
-/

namespace PaymentConnector.Url.Ipv6

open Text

structure IsAddress (groups : List Nat) : Prop where
  length_eq : groups.length = 8
  lt : ∀ n ∈ groups, n < 65536

/-! Groups and colons -/

theorem free_toDigits {p : Char → Bool} (hp : ∀ c, p c = true → hexDigit? c = none) (n : Nat) :
    Free p (Nat.toDigits 16 n) := by
  intro c hc
  have hsome := Ipv4.hexDigit?_isSome_of_mem_toDigits (by decide) (by decide) hc
  cases hpc : p c with
  | false => rfl
  | true => simp [hp c hpc] at hsome

theorem free_colon_toDigits (n : Nat) : Free (· = ':') (Nat.toDigits 16 n) := by
  apply free_toDigits
  intro c hc
  rw [of_decide_eq_true hc]
  rfl

theorem joinGroups_cons_cons (n m : Nat) (ns : List Nat) :
    joinGroups (n :: m :: ns) = Nat.toDigits 16 n ++ ':' :: joinGroups (m :: ns) := rfl

theorem joinGroups_head?_ne_colon (ns : List Nat) (t : List Char) (h : ns ≠ []) :
    (joinGroups ns ++ t).head? ≠ some ':' := by
  obtain ⟨n, ms, rfl⟩ := List.exists_cons_of_ne_nil h
  obtain ⟨c, cs, hdigits⟩ := List.exists_cons_of_ne_nil (Nat.toDigits_ne_nil (n := n) (b := 16))
  have hc : c ≠ ':' := by
    have hfree := free_colon_toDigits n c (hdigits ▸ List.mem_cons_self)
    simpa using hfree
  cases ms with
  | nil => simpa [joinGroups, hdigits] using hc
  | cons m ms => simpa [joinGroups_cons_cons, hdigits] using hc

theorem joinGroups_eq_nil {ns : List Nat} (h : joinGroups ns = []) : ns = [] := by
  cases ns with
  | nil => rfl
  | cons n ms =>
    cases ms with
    | nil => exact absurd h Nat.toDigits_ne_nil
    | cons m ms => simp [joinGroups_cons_cons] at h

theorem fields_joinGroups (n : Nat) (ns : List Nat) :
    fields (· = ':') (joinGroups (n :: ns)) = (n :: ns).map (Nat.toDigits 16) := by
  induction ns generalizing n with
  | nil => exact fields_of_free (free_colon_toDigits n)
  | cons m ms ih =>
    rw [joinGroups_cons_cons, fields_append_cons (free_colon_toDigits n) (by decide), ih m]
    rfl

theorem cutAtDouble_append_of_free {s : List Char} (hs : Free (· = ':') s) (t : List Char) :
    cutAtDouble (s ++ t) = (cutAtDouble t).map fun (before, after) => (s ++ before, after) := by
  induction s with
  | nil => simp
  | cons c s ih =>
    have hc : c ≠ ':' := by simpa using hs c List.mem_cons_self
    rw [List.cons_append, cutAtDouble.eq_2 _ _ (by simp [hc]),
      ih fun d hd => hs d (List.mem_cons_of_mem c hd), Option.map_map]
    rfl

theorem cutAtDouble_colon {t : List Char} (ht : t.head? ≠ some ':') :
    cutAtDouble (':' :: t) =
      (cutAtDouble t).map fun (before, after) => (':' :: before, after) := by
  rw [cutAtDouble.eq_2]
  rintro rest - rfl
  exact ht rfl

/-- No two colons in a row stand within groups, nor across their end. -/
theorem cutAtDouble_joinGroups_append (ns : List Nat) (t : List Char) :
    cutAtDouble (joinGroups ns ++ t) =
      (cutAtDouble t).map fun (before, after) => (joinGroups ns ++ before, after) := by
  induction ns with
  | nil => simp [joinGroups]
  | cons n ns ih =>
    cases ns with
    | nil => exact cutAtDouble_append_of_free (free_colon_toDigits n) t
    | cons m ms =>
      rw [joinGroups_cons_cons, List.append_assoc, List.cons_append,
        cutAtDouble_append_of_free (free_colon_toDigits n),
        cutAtDouble_colon (joinGroups_head?_ne_colon _ t (List.cons_ne_nil m ms)), ih,
        Option.map_map, Option.map_map]
      simp [Function.comp_def]

theorem cutAtDouble_joinGroups (ns : List Nat) : cutAtDouble (joinGroups ns) = none := by
  have h := cutAtDouble_joinGroups_append ns []
  rwa [List.append_nil] at h

theorem cutAtDouble_joinGroups_double (ns : List Nat) (t : List Char) :
    cutAtDouble (joinGroups ns ++ ':' :: ':' :: t) = some (joinGroups ns, t) := by
  rw [cutAtDouble_joinGroups_append]
  simp [cutAtDouble]

/-! Reading groups -/

theorem group?_eq_some {s : List Char} {n : Nat} (h : group? s = some n) : n < 65536 := by
  unfold group? at h
  split at h
  · simp at h
  · rename_i hshape
    have hlength : s.length ≤ 4 := by
      rw [not_or] at hshape
      omega
    calc n < Nat.pow 16 s.length := Ipv4.numeral?_lt h
      _ ≤ Nat.pow 16 4 := Nat.pow_le_pow_right (by decide) hlength

theorem group?_toDigits {n : Nat} (hn : n < 65536) : group? (Nat.toDigits 16 n) = some n := by
  have hlength : (Nat.toDigits 16 n).length ≤ 4 :=
    (Nat.length_toDigits_le_iff (by decide) (by decide)).mpr hn
  rw [group?, if_neg]
  · exact Ipv4.numeral?_toDigits (by decide) (by decide) n
  · rintro (hnil | hlong)
    · exact Nat.toDigits_ne_nil hnil
    · omega

theorem mapM_group?_toDigits {ns : List Nat} (h : ∀ n ∈ ns, n < 65536) :
    (ns.map (Nat.toDigits 16)).mapM group? = some ns := by
  induction ns with
  | nil => rfl
  | cons n ns ih =>
    rw [List.map_cons, List.mapM_cons, group?_toDigits (h n List.mem_cons_self),
      ih fun m hm => h m (List.mem_cons_of_mem n hm)]
    rfl

theorem groupsOf?_toDigits {ns : List Nat} (h : ∀ n ∈ ns, n < 65536) :
    groupsOf? (ns.map (Nat.toDigits 16)) = some ns := by
  induction ns with
  | nil => rfl
  | cons n ns ih =>
    have hn := group?_toDigits (h n List.mem_cons_self)
    cases ns with
    | nil => simp [groupsOf?, hn]
    | cons m ms =>
      have hrest := ih fun k hk => h k (List.mem_cons_of_mem n hk)
      rw [List.map_cons] at hrest ⊢
      rw [List.map_cons, groupsOf?, hn, hrest]
      · rfl
      · exact List.cons_ne_nil _ _

theorem plainGroups?_joinGroups {ns : List Nat} (h : ∀ n ∈ ns, n < 65536) :
    plainGroups? (joinGroups ns) = some ns := by
  cases ns with
  | nil => rfl
  | cons n ns =>
    rw [plainGroups?, if_neg fun hnil => List.cons_ne_nil n ns (joinGroups_eq_nil hnil),
      fields_joinGroups, mapM_group?_toDigits h]

theorem groups?_joinGroups {ns : List Nat} (h : ∀ n ∈ ns, n < 65536) :
    groups? (joinGroups ns) = some ns := by
  cases ns with
  | nil => rfl
  | cons n ns =>
    rw [groups?, if_neg fun hnil => List.cons_ne_nil n ns (joinGroups_eq_nil hnil),
      fields_joinGroups, groupsOf?_toDigits h]

/-! The run of zeros that is left out -/

theorem foldl_longer_mem (best : Nat × Nat) (runs : List (Nat × Nat)) :
    runs.foldl (fun best run => if best.2 < run.2 then run else best) best ∈ best :: runs := by
  induction runs generalizing best with
  | nil => exact List.mem_cons_self
  | cons run runs ih =>
    rw [List.foldl_cons]
    by_cases h : best.2 < run.2
    · rw [if_pos h]
      exact List.mem_cons_of_mem best (ih run)
    · rw [if_neg h]
      rcases List.mem_cons.mp (ih best) with heq | hmem
      · exact List.mem_cons.mpr (Or.inl heq)
      · exact List.mem_cons_of_mem best (List.mem_cons_of_mem run hmem)

theorem takeWhile_zero_append_drop (ns : List Nat) :
    List.replicate (ns.takeWhile (· = 0)).length 0 ++ ns.drop (ns.takeWhile (· = 0)).length =
      ns := by
  have hzeros : ns.takeWhile (· = 0) = List.replicate (ns.takeWhile (· = 0)).length 0 := by
    apply List.eq_replicate_of_mem
    intro n hn
    simpa using List.all_eq_true.mp List.all_takeWhile n hn
  have hsplit : ns.takeWhile (· = 0) ++ ns.dropWhile (· = 0) = ns :=
    List.takeWhile_append_dropWhile
  have hdrop : ns.drop (ns.takeWhile (· = 0)).length = ns.dropWhile (· = 0) := by
    conv => lhs; arg 2; rw [← hsplit]
    exact List.drop_left
  rw [← hzeros, hdrop, hsplit]

/-- What is left out is a run of at least two zeros. -/
theorem zeroRun_eq_some {groups : List Nat} {start size : Nat}
    (h : zeroRun groups = some (start, size)) :
    2 ≤ size ∧
      groups = groups.take start ++ List.replicate size 0 ++ groups.drop (start + size) := by
  obtain ⟨hlong, hbest⟩ := Option.ite_none_right_eq_some.mp h
  rw [Option.some.injEq] at hbest
  have hmem := foldl_longer_mem (0, 0)
    ((List.range groups.length).map fun i => (i, ((groups.drop i).takeWhile (· = 0)).length))
  rw [hbest] at hlong hmem
  refine ⟨hlong, ?_⟩
  rcases List.mem_cons.mp hmem with hzero | hrun
  -- the pair that the search starts from stands for no run
  · rw [hzero] at hlong
    exact absurd hlong (by decide)
  · obtain ⟨i, -, hi⟩ := List.mem_map.mp hrun
    obtain ⟨rfl, rfl⟩ := Prod.mk.inj hi
    have hzeros := takeWhile_zero_append_drop (groups.drop i)
    rw [List.drop_drop] at hzeros
    rw [List.append_assoc, hzeros, List.take_append_drop]

/-- Reading the text of an address gives the address. -/
theorem read?_text {groups : List Nat} (h : IsAddress groups) :
    read? (text groups) = some groups := by
  unfold text
  cases hrun : zeroRun groups with
  | none => simp [read?, cutAtDouble_joinGroups, groups?_joinGroups h.lt, h.length_eq]
  | some run =>
    obtain ⟨start, size⟩ := run
    obtain ⟨hsize, hgroups⟩ := zeroRun_eq_some hrun
    have hhigh : ∀ n ∈ groups.take start, n < 65536 := fun n hn => h.lt n (List.mem_of_mem_take hn)
    have hlow : ∀ n ∈ groups.drop (start + size), n < 65536 :=
      fun n hn => h.lt n (List.mem_of_mem_drop hn)
    -- the groups that are written and the run between them make eight
    have hlength := congrArg List.length hgroups
    simp only [List.length_append, List.length_replicate, h.length_eq] at hlength
    have hgiven : (groups.take start).length + (groups.drop (start + size)).length ≤ 7 := by omega
    have hmissing :
        8 - ((groups.take start).length + (groups.drop (start + size)).length) = size := by omega
    simp only [read?, cutAtDouble_joinGroups_double, plainGroups?_joinGroups hhigh,
      groups?_joinGroups hlow, Option.bind_eq_bind, Option.bind_some, if_pos hgiven, hmissing]
    rw [← hgroups]

example : text [0x2001, 0xDB8, 0, 0, 0, 0, 0, 1] = "2001:db8::1".toList := by decide

/-! What is read is an address -/

theorem groupsOf?_lt {parts : List (List Char)} {ns : List Nat} (h : groupsOf? parts = some ns) :
    ∀ n ∈ ns, n < 65536 := by
  induction parts generalizing ns with
  | nil =>
    have hns : ns = [] := by simpa [groupsOf?] using h.symm
    simp [hns]
  | cons part rest ih =>
    cases rest with
    | nil =>
      unfold groupsOf? at h
      cases hpart : group? part with
      | some n =>
        obtain rfl : [n] = ns := by simpa [hpart] using h
        simpa using group?_eq_some hpart
      | none =>
        obtain ⟨n, hn, rfl⟩ :
            ∃ n, Ipv4.readStrict? part = some n ∧ [n / 65536, n % 65536] = ns := by
          simpa [hpart] using h
        have hlt := Ipv4.readStrict?_lt hn
        simp only [List.mem_cons, List.not_mem_nil, or_false, forall_eq_or_imp, forall_eq]
        omega
    | cons next rest =>
      rw [groupsOf?] at h
      · simp only [Option.bind_eq_bind, Option.pure_def, Option.bind_eq_some_iff,
          Option.some.injEq] at h
        obtain ⟨n, hn, ms, hms, rfl⟩ := h
        exact List.forall_mem_cons.mpr ⟨group?_eq_some hn, ih hms⟩
      · exact List.cons_ne_nil next rest

theorem groups?_lt {s : List Char} {ns : List Nat} (h : groups? s = some ns) :
    ∀ n ∈ ns, n < 65536 := by
  unfold groups? at h
  split at h
  · obtain rfl : [] = ns := by simpa using h
    simp
  · exact groupsOf?_lt h

theorem plainGroups?_lt {s : List Char} {ns : List Nat} (h : plainGroups? s = some ns) :
    ∀ n ∈ ns, n < 65536 := by
  unfold plainGroups? at h
  split at h
  · obtain rfl : [] = ns := by simpa using h
    simp
  · exact Ipv4.mapM_lt (fun s n h => group?_eq_some h) h

theorem isAddress_of_read? {s : List Char} {groups : List Nat} (h : read? s = some groups) :
    IsAddress groups := by
  unfold read? at h
  split at h
  · obtain ⟨ns, hns, h⟩ := Option.bind_eq_some_iff.mp h
    obtain ⟨hlength, hgroups⟩ := Option.ite_none_right_eq_some.mp h
    obtain rfl : ns = groups := by simpa using hgroups
    exact ⟨hlength, groups?_lt hns⟩
  · rename_i before after hcut
    simp only [Option.bind_eq_bind, Option.bind_eq_some_iff, Option.ite_none_right_eq_some,
      Option.some.injEq] at h
    obtain ⟨high, hhigh, low, hlow, hgiven, rfl⟩ := h
    refine ⟨?_, ?_⟩
    · simp only [List.length_append, List.length_replicate]
      omega
    · intro n hn
      simp only [List.mem_append, List.mem_replicate] at hn
      rcases hn with (hn | ⟨-, rfl⟩) | hn
      · exact plainGroups?_lt hhigh n hn
      · decide
      · exact groups?_lt hlow n hn

end PaymentConnector.Url.Ipv6
