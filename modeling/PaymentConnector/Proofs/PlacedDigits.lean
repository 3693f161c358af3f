import PaymentConnector.Url.Ipv4

/-!
Numerals in a base of at most sixteen. Every number is read back from its digits, and
a text of so many digits stands for a number below that power of the base. So four bytes
in decimal fit into 32 bits.
-/

namespace PaymentConnector.Url.Ipv4

open Text

/-- The number that a text stands for in a base, if all its characters are digits. -/
def numeral? (base : Nat) (s : List Char) : Option Nat := (digitsIn? base s).map (valueIn base)

theorem hexDigit?_digitChar {d : Nat} (hd : d < 16) : hexDigit? d.digitChar = some d := by
  have hall : ∀ i : Fin 16, hexDigit? i.val.digitChar = some i.val := by decide
  exact hall ⟨d, hd⟩

theorem valueIn_concat (base : Nat) (ds : List Nat) (d : Nat) :
    valueIn base (ds ++ [d]) = valueIn base ds * base + d := by
  simp [valueIn]

theorem digitsIn?_cons (base : Nat) (c : Char) (s : List Char) :
    digitsIn? base (c :: s) =
      ((hexDigit? c).bind fun d => if d < base then some d else none).bind fun d =>
        (digitsIn? base s).map (d :: ·) := by
  simp only [digitsIn?, List.mapM_cons, Option.map_eq_bind]
  rfl

theorem digitsIn?_concat {base d : Nat} {s : List Char} {c : Char} {ds : List Nat}
    (hs : digitsIn? base s = some ds) (hc : hexDigit? c = some d) (hd : d < base) :
    digitsIn? base (s ++ [c]) = some (ds ++ [d]) := by
  unfold digitsIn? at hs ⊢
  rw [List.mapM_append, hs]
  simp [hc, hd]

theorem numeral?_toDigits {base : Nat} (hbase : 1 < base) (hle : base ≤ 16) (n : Nat) :
    numeral? base (Nat.toDigits base n) = some n := by
  induction n using Nat.strongRecOn with
  | ind n ih =>
    by_cases hn : n < base
    · have hdigit := hexDigit?_digitChar (Nat.lt_of_lt_of_le hn hle)
      simp [numeral?, Nat.toDigits_of_lt_base hn, digitsIn?, hdigit, hn, valueIn]
    · have hmod : n % base < base := Nat.mod_lt n (by omega)
      have hdigit := hexDigit?_digitChar (Nat.lt_of_lt_of_le hmod hle)
      have hrest := ih (n / base) (Nat.div_lt_self (by omega) hbase)
      obtain ⟨ds, hds, hvalue⟩ := Option.map_eq_some_iff.mp hrest
      rw [Nat.toDigits_of_base_le hbase (by omega), numeral?, digitsIn?_concat hds hdigit hmod,
        Option.map_some, valueIn_concat, hvalue, Nat.div_add_mod']

theorem digitsIn?_eq_some {base : Nat} {s : List Char} {ds : List Nat}
    (h : digitsIn? base s = some ds) :
    ds.length = s.length ∧ (∀ d ∈ ds, d < base) ∧ ∀ c ∈ s, (hexDigit? c).isSome := by
  induction s generalizing ds with
  | nil =>
    have hds : ds = [] := by simpa [digitsIn?] using h.symm
    simp [hds]
  | cons c s ih =>
    rw [digitsIn?_cons] at h
    obtain ⟨d, hd, h⟩ := Option.bind_eq_some_iff.mp h
    obtain ⟨es, hes, rfl⟩ := Option.map_eq_some_iff.mp h
    obtain ⟨e, hc, he⟩ := Option.bind_eq_some_iff.mp hd
    have hlt : d < base := by
      split at he
      · simp_all
      · simp at he
    obtain ⟨hlength, hall, hsome⟩ := ih hes
    exact ⟨by simp [hlength], List.forall_mem_cons.mpr ⟨hlt, hall⟩,
      List.forall_mem_cons.mpr ⟨by simp [hc], hsome⟩⟩

theorem foldl_digits_lt {base : Nat} {ds : List Nat} (h : ∀ d ∈ ds, d < base) (n : Nat) :
    ds.foldl (fun n d => n * base + d) n < (n + 1) * Nat.pow base ds.length := by
  induction ds generalizing n with
  | nil => simp
  | cons d ds ih =>
    have hd : d < base := h d List.mem_cons_self
    have hstep : n * base + d + 1 ≤ (n + 1) * base := by
      rw [Nat.add_mul, Nat.one_mul]
      omega
    have hpow : Nat.pow base (d :: ds).length = Nat.pow base ds.length * base := rfl
    calc ds.foldl (fun n d => n * base + d) (n * base + d)
        < (n * base + d + 1) * Nat.pow base ds.length :=
          ih (fun e he => h e (List.mem_cons_of_mem d he)) _
      _ ≤ (n + 1) * base * Nat.pow base ds.length := Nat.mul_le_mul_right _ hstep
      _ = (n + 1) * Nat.pow base (d :: ds).length := by
          rw [hpow, Nat.mul_assoc, Nat.mul_comm base]

theorem valueIn_lt {base : Nat} {ds : List Nat} (h : ∀ d ∈ ds, d < base) :
    valueIn base ds < Nat.pow base ds.length := by
  have hlt := foldl_digits_lt h 0
  rwa [Nat.zero_add, Nat.one_mul] at hlt

theorem numeral?_lt {base n : Nat} {s : List Char} (h : numeral? base s = some n) :
    n < Nat.pow base s.length := by
  obtain ⟨ds, hds, rfl⟩ := Option.map_eq_some_iff.mp h
  obtain ⟨hlength, hall, -⟩ := digitsIn?_eq_some hds
  rw [← hlength]
  exact valueIn_lt hall

theorem hexDigit?_isSome_of_mem_toDigits {base n : Nat} {c : Char} (hbase : 1 < base)
    (hle : base ≤ 16) (hc : c ∈ Nat.toDigits base n) : (hexDigit? c).isSome := by
  obtain ⟨ds, hds, -⟩ := Option.map_eq_some_iff.mp (numeral?_toDigits hbase hle n)
  exact (digitsIn?_eq_some hds).2.2 c hc

theorem strictByte?_le {s : List Char} {n : Nat} (h : strictByte? s = some n) : n ≤ 255 := by
  unfold strictByte? at h
  split at h
  · simp at h
  · obtain ⟨hle, hn⟩ := Option.ite_none_right_eq_some.mp h
    exact Option.some.inj hn ▸ hle

theorem mapM_lt {α : Type} {f : α → Option Nat} {bound : Nat}
    (hf : ∀ a n, f a = some n → n < bound) {as : List α} {ns : List Nat}
    (h : as.mapM f = some ns) : ∀ n ∈ ns, n < bound := by
  induction as generalizing ns with
  | nil =>
    have hns : ns = [] := by simpa using h.symm
    simp [hns]
  | cons a as ih =>
    simp only [List.mapM_cons, Option.bind_eq_bind, Option.pure_def, Option.bind_eq_some_iff,
      Option.some.injEq] at h
    obtain ⟨n, hn, ms, hms, rfl⟩ := h
    exact List.forall_mem_cons.mpr ⟨hf a n hn, ih hms⟩

theorem readStrict?_lt {s : List Char} {n : Nat} (h : readStrict? s = some n) :
    n < 65536 * 65536 := by
  unfold readStrict? at h
  split at h
  · rename_i a b c d hbytes
    have hbound : ∀ n ∈ [a, b, c, d], n < 256 :=
      mapM_lt (fun s n h => Nat.lt_succ_of_le (strictByte?_le h)) hbytes
    simp only [Option.some.injEq] at h
    rw [← h]
    simpa using valueIn_lt hbound
  · simp at h

end PaymentConnector.Url.Ipv4
