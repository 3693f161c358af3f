import PaymentConnector.Proofs.Ipv6Groups
import PaymentConnector.Proofs.KeptCharacters

/-!
Hosts in normal form: the characters of a name are those that a host may hold, and
addresses fit into four bytes or into eight groups. Every host that can be read is in
normal form, and its text has brackets around an address of eight groups only.
-/

namespace PaymentConnector.Url

open Text

/-- The characters of host names: those of ASCII that stand for no other part of a URL. -/
def isHostChar (c : Char) : Bool := keepPlain c && !Host.plainHostBarred c

namespace Domain

theorem isHostChar_of_not_isBarred {c : Char} (hascii : isAscii c = true)
    (h : isBarred c = false) : isHostChar c = true :=
  of_ascii (P := fun c => isBarred c = false → isHostChar c = true) (by decide +kernel)
    (of_decide_eq_true hascii) h

theorem isAscii_of_label? {label : List Char} {l : Label} (h : label? label = some l) :
    ∀ c ∈ l.ascii, isAscii c = true := by
  have hmark : mark.all isAscii = true := rfl
  unfold label? at h
  split at h
  · rename_i hprefix
    obtain ⟨body, rfl⟩ := List.isPrefixOf_iff_prefix.mp hprefix
    unfold decodeLabel? at h
    rw [List.drop_left] at h
    dsimp only at h
    split at h
    · exact absurd h (by simp)
    · split at h
      · rename_i text hdecode
        obtain ⟨-, hl⟩ := Option.ite_none_right_eq_some.mp h
        rw [← Option.some.inj hl]
        intro c hc
        rcases List.mem_append.mp hc with hc | hc
        · exact List.all_eq_true.mp hmark c hc
        · exact Punycode.isAscii_of_decode hdecode c hc
      · exact absurd h (by simp)
  · unfold encodeLabel? at h
    split at h
    · exact absurd h (by simp)
    · split at h
      · rename_i hall
        rw [← Option.some.inj h]
        exact List.all_eq_true.mp hall
      · split at h
        · exact absurd h (by simp)
        · rw [← Option.some.inj h]
          intro c hc
          rcases List.mem_append.mp hc with hc | hc
          · exact List.all_eq_true.mp hmark c hc
          · exact Punycode.isAscii_of_mem_encode label c hc

theorem isAscii_of_labels? {parts : List (List Char)} {labels : List Label}
    (h : labels? parts = some labels) : ∀ l ∈ labels, ∀ c ∈ l.ascii, isAscii c = true := by
  induction parts generalizing labels with
  | nil =>
    obtain rfl : [] = labels := by simpa [labels?] using h
    simp
  | cons part parts ih =>
    simp only [labels?, Option.bind_eq_bind, Option.pure_def, Option.bind_eq_some_iff,
      Option.some.injEq] at h
    obtain ⟨l, hl, ls, hls, rfl⟩ := h
    exact List.forall_mem_cons.mpr ⟨isAscii_of_label? hl, ih hls⟩

/-- A joined name has the characters of its labels and points. -/
theorem forall_mem_joinLabels {P : Char → Prop} {labels : List Label} (hpoint : P '.')
    (h : ∀ l ∈ labels, ∀ c ∈ l.ascii, P c) : ∀ c ∈ joinLabels labels, P c := by
  unfold joinLabels
  induction labels with
  | nil => simp
  | cons l labels ih =>
    have hl := h l List.mem_cons_self
    have hrest := ih fun m hm => h m (List.mem_cons_of_mem l hm)
    cases labels with
    | nil => simpa using hl
    | cons m ms =>
      rw [List.map_cons, List.map_cons, List.intercalate_cons_cons, ← List.map_cons]
      intro c hc
      simp only [List.mem_append, List.mem_singleton] at hc
      rcases hc with (hc | rfl) | hc
      · exact hl c hc
      · exact hpoint
      · exact hrest c hc

/-- A domain name in ASCII has characters of host names only. -/
theorem isHostChar_of_toAscii? {s ascii : List Char} (h : toAscii? s = some ascii) :
    ∀ c ∈ ascii, isHostChar c = true := by
  simp only [toAscii?, Option.bind_eq_bind, Option.bind_eq_some_iff] at h
  obtain ⟨name, -, labels, hlabels, h⟩ := h
  obtain ⟨hfine, hascii⟩ := Option.ite_none_right_eq_some.mp h
  obtain rfl := Option.some.inj hascii
  rw [Bool.and_eq_true, Bool.not_eq_true', List.any_eq_false] at hfine
  intro c hc
  exact isHostChar_of_not_isBarred
    (forall_mem_joinLabels (by decide) (isAscii_of_labels? hlabels) c hc)
    (by simpa using hfine.2 c hc)

end Domain

namespace Ipv4

theorem le_foldl_max (ns : List Nat) (m : Nat) :
    m ≤ ns.foldl max m ∧ ∀ n ∈ ns, n ≤ ns.foldl max m := by
  induction ns generalizing m with
  | nil => simp
  | cons n ns ih =>
    obtain ⟨hstart, hall⟩ := ih (max m n)
    refine ⟨?_, List.forall_mem_cons.mpr ⟨?_, hall⟩⟩
    · exact Nat.le_trans (Nat.le_max_left m n) hstart
    · exact Nat.le_trans (Nat.le_max_right m n) hstart

theorem ofNumbers?_lt {numbers : List Nat} {n : Nat} (h : ofNumbers? numbers = some n) :
    n < 0x100000000 := by
  unfold ofNumbers? at h
  split at h
  · exact absurd h (by simp)
  · rename_i last initial hreverse
    dsimp only at h
    split at h
    · exact absurd h (by simp)
    · rename_i hfine
      simp only [not_or, Nat.not_lt, Nat.not_le] at hfine
      obtain ⟨hcount, hbytes, hlast⟩ := hfine
      have hall : ∀ d ∈ initial.reverse, d < 256 := by
        intro d hd
        have hle := (le_foldl_max initial 0).2 d (List.mem_reverse.mp hd)
        omega
      have hvalue := valueIn_lt hall
      rw [List.length_reverse] at hvalue
      have hpow : Nat.pow 256 initial.length * Nat.pow 256 (4 - initial.length) = 0x100000000 := by
        calc Nat.pow 256 initial.length * Nat.pow 256 (4 - initial.length)
            = Nat.pow 256 (initial.length + (4 - initial.length)) := (Nat.pow_add _ _ _).symm
          _ = Nat.pow 256 4 := by
              congr 1
              omega
      -- the last number fills the bytes that the others leave
      calc n = valueIn 256 initial.reverse * Nat.pow 256 (4 - initial.length) + last :=
            (Option.some.inj h).symm
        _ < (valueIn 256 initial.reverse + 1) * Nat.pow 256 (4 - initial.length) := by
            rw [Nat.add_mul, Nat.one_mul]
            omega
        _ ≤ Nat.pow 256 initial.length * Nat.pow 256 (4 - initial.length) :=
            Nat.mul_le_mul_right _ hvalue
        _ = 0x100000000 := hpow

/-- The text of four bytes holds digits and points. -/
theorem mem_text {n : Nat} {c : Char} (h : c ∈ text n) : c.isDigit = true ∨ c = '.' := by
  have hdigits (m : Nat) (hc : c ∈ Nat.toDigits 10 m) : c.isDigit = true :=
    Nat.isDigit_of_mem_toDigits (by decide) (by decide) hc
  simp only [text, List.mem_append, List.mem_cons] at h
  rcases h with ((h | rfl | h) | rfl | h) | rfl | h
  · exact Or.inl (hdigits _ h)
  · exact Or.inr rfl
  · exact Or.inl (hdigits _ h)
  · exact Or.inr rfl
  · exact Or.inl (hdigits _ h)
  · exact Or.inr rfl
  · exact Or.inl (hdigits _ h)

end Ipv4

theorem isHostChar_of_isDigit {c : Char} (h : c.isDigit = true) : isHostChar c = true := by
  have hascii : c.toNat < 128 := by
    have hle : c.toNat ≤ 0x39 := of_decide_eq_true (Bool.and_eq_true_iff.mp h).2
    omega
  exact of_ascii (P := fun c => c.isDigit = true → isHostChar c = true) (by decide +kernel) hascii h

namespace Host

def Normal : Host → Prop
  | name s => ∀ c ∈ s, isHostChar c = true
  | ipv4 n => n < 0x100000000
  | ipv6 groups => Ipv6.IsAddress groups

theorem normal_of_readBracketed {s : List Char} {h : Host} (hread : readBracketed s = .ok h) :
    h.Normal := by
  unfold readBracketed at hread
  split at hread
  · split at hread
    · rename_i groups hgroups
      rw [← Except.ok.inj hread]
      exact Ipv6.isAddress_of_read? hgroups
    · simp at hread
  · simp at hread

theorem normal_of_readDomain {s : List Char} {h : Host} (hread : readDomain s = .ok h) :
    h.Normal := by
  unfold readDomain at hread
  split at hread
  · exact normal_of_readBracketed hread
  · split at hread
    · simp at hread
    · split at hread
      · simp at hread
      · simp at hread
      · rename_i ascii _ hascii
        split at hread
        · split at hread
          · rename_i n hn
            obtain ⟨numbers, -, hnumbers⟩ := Option.bind_eq_some_iff.mp hn
            rw [← Except.ok.inj hread]
            exact Ipv4.ofNumbers?_lt hnumbers
          · simp at hread
        · rw [← Except.ok.inj hread]
          exact Domain.isHostChar_of_toAscii? hascii

theorem isHostChar_of_keepUserinfo {c : Char} (h : keepUserinfo c = true) :
    isHostChar c = true := by
  exact of_ascii (P := fun c => keepUserinfo c = true → isHostChar c = true) (by decide +kernel)
    (toNat_lt_of_keepPlain (keepPlain_of_keepUserinfo h)) h

theorem normal_of_readPlain {s : List Char} {h : Host} (hread : readPlain s = .ok h) :
    h.Normal := by
  unfold readPlain at hread
  split at hread
  · exact normal_of_readBracketed hread
  · split at hread
    · simp at hread
    · rename_i hbarred
      rw [← Except.ok.inj hread]
      refine forall_mem_percentEncode (fun c hc hkeep => ?_)
        (fun c hc => isHostChar_of_keepUserinfo hc)
      have hfine : plainHostBarred c = false := by
        simp only [List.any_eq_true, not_exists, not_and, Bool.not_eq_true] at hbarred
        exact hbarred c hc
      simp [isHostChar, hkeep, hfine]

/-- The text of a host is an address in brackets, or has characters of host names only. -/
theorem Normal.text_cases {h : Host} (hnormal : h.Normal) :
    (∀ c ∈ h.text, isHostChar c = true) ∨
      ∃ groups, Ipv6.IsAddress groups ∧ h.text = '[' :: Ipv6.text groups ++ [']'] := by
  cases h with
  | name s => exact Or.inl hnormal
  | ipv4 n =>
    refine Or.inl fun c hc => ?_
    rcases Ipv4.mem_text hc with hc | rfl
    · exact isHostChar_of_isDigit hc
    · decide
  | ipv6 groups => exact Or.inr ⟨groups, hnormal, rfl⟩

end Host

end PaymentConnector.Url
