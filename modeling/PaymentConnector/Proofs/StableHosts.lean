import PaymentConnector.Proofs.EncodedTexts
import PaymentConnector.Proofs.StableDomains

/-!
Hosts read again from their texts. Four bytes are written without leading zeros and eight groups
in brackets, so each is read as the same address. A name in ASCII is read as itself if its labels
can be decoded, and the host of a URL of no known scheme in every case.
-/

namespace PaymentConnector.Url

open Text

/-! Percent-encoding -/

theorem percentDecode_of_free {s : List Char} (h : Free (· = '%') s) :
    percentDecode s = Utf8.encode s := by
  induction s with
  | nil => rw [percentDecode, Utf8.encode, List.flatMap_nil]
  | cons c s ih =>
    have hc : c ≠ '%' := of_decide_eq_false (h c List.mem_cons_self)
    have hrest := ih fun d hd => h d (List.mem_cons_of_mem c hd)
    rw [percentDecode, hrest, Utf8.encode, Utf8.encode, List.flatMap_cons]
    rintro a b rest rfl -
    exact hc rfl

/-- A text in which no percent sign stands is decoded to itself. -/
theorem decode_percentDecode_of_free {s : List Char} (h : Free (· = '%') s) :
    Utf8.decode (percentDecode s) = .ok s := by
  rw [percentDecode_of_free h, Utf8.decode_encode]

/-! Addresses of four bytes -/

namespace Ipv4

/-- The bytes of an address, the highest first. -/
def bytes (n : Nat) : List Nat :=
  [n / Nat.pow 256 3 % 256, n / Nat.pow 256 2 % 256, n / Nat.pow 256 1 % 256,
    n / Nat.pow 256 0 % 256]

theorem text_eq (n : Nat) : text n = ['.'].intercalate ((bytes n).map (Nat.toDigits 10)) := by
  simp [text, bytes, List.intercalate_cons_cons]

theorem lt_of_mem_bytes {n b : Nat} (h : b ∈ bytes n) : b < 256 := by
  have hall : ∀ m, m % 256 < 256 := fun m => Nat.mod_lt m (by decide)
  simp only [bytes, List.mem_cons, List.not_mem_nil, or_false] at h
  rcases h with rfl | rfl | rfl | rfl
  · exact hall _
  · exact hall _
  · exact hall _
  · exact hall _

theorem fields_text (n : Nat) :
    fields (· = '.') (text n) = (bytes n).map (Nat.toDigits 10) := by
  rw [text_eq]
  refine fields_intercalate (by decide) (by simp [bytes]) fun part hpart c hc => ?_
  obtain ⟨b, -, rfl⟩ := List.mem_map.mp hpart
  have hdigit := Nat.isDigit_of_mem_toDigits (by decide) (by decide) hc
  exact decide_eq_false (ne_of_class hdigit (by decide))

theorem labels_text (n : Nat) : labels (text n) = (bytes n).map (Nat.toDigits 10) := by
  have hlast : ((bytes n).map (Nat.toDigits 10)).getLast? ≠ some [] := by
    simp [bytes, Nat.toDigits_ne_nil]
  rw [labels, fields_text, if_neg fun h => hlast h.1]

theorem number?_toDigits {b : Nat} (hb : b < 256) : number? (Nat.toDigits 10 b) = some b := by
  have hall : ∀ b : Fin 256, number? (Nat.toDigits 10 b.val) = some b.val := by decide +kernel
  exact hall ⟨b, hb⟩

theorem valueIn_bytes {n : Nat} (hn : n < 0x100000000) : valueIn 256 (bytes n) = n := by
  simp only [valueIn, bytes, List.foldl_cons, List.foldl_nil, Nat.pow_eq]
  omega

theorem mapM_number?_toDigits {bs : List Nat} (h : ∀ b ∈ bs, b < 256) :
    (bs.map (Nat.toDigits 10)).mapM number? = some bs := by
  induction bs with
  | nil => rfl
  | cons b bs ih =>
    obtain ⟨hb, hrest⟩ := List.forall_mem_cons.mp h
    rw [List.map_cons, List.mapM_cons, number?_toDigits hb, ih hrest]
    rfl

theorem ofNumbers?_bytes {a b c d : Nat} (h : ∀ m ∈ [a, b, c, d], m < 256) :
    ofNumbers? [a, b, c, d] = some (valueIn 256 [a, b, c, d]) := by
  simp only [List.mem_cons, List.not_mem_nil, or_false, forall_eq_or_imp, forall_eq] at h
  obtain ⟨ha, hb, hc, hd⟩ := h
  have hfine : ¬ (3 < [c, b, a].length ∨ 255 < [c, b, a].foldl max 0 ∨
      Nat.pow 256 (4 - [c, b, a].length) ≤ d) := by
    simp
    omega
  have hreverse : [a, b, c, d].reverse = d :: [c, b, a] := rfl
  rw [ofNumbers?, hreverse]
  dsimp only
  rw [if_neg hfine]
  rfl

/-- An address of four bytes is read from its text. -/
theorem read?_text {n : Nat} (hn : n < 0x100000000) : read? (text n) = some n := by
  have hbytes : ∀ b ∈ bytes n, b < 256 := fun b hb => lt_of_mem_bytes hb
  rw [read?, labels_text, mapM_number?_toDigits hbytes, Option.bind_some, bytes,
    ofNumbers?_bytes hbytes]
  exact congrArg some (valueIn_bytes hn)

theorem endsInNumber_text (n : Nat) : endsInNumber (text n) = true := by
  have hlast : ((bytes n).map (Nat.toDigits 10)).getLast? =
      some (Nat.toDigits 10 (n / Nat.pow 256 0 % 256)) := rfl
  have hdigits : (Nat.toDigits 10 (n / Nat.pow 256 0 % 256)).all Char.isDigit = true :=
    List.all_eq_true.mpr fun c hc => Nat.isDigit_of_mem_toDigits (by decide) (by decide) hc
  rw [endsInNumber, labels_text, hlast]
  dsimp only
  rw [hdigits]
  simp [Nat.toDigits_ne_nil]

end Ipv4

/-! Domain names of digits -/

namespace Domain

theorem joinersFit_of_isAscii {s : List Char} (h : ∀ c ∈ s, isAscii c = true) :
    joinersFit s = true := by
  have hjoiners : isAscii nonJoiner = false ∧ isAscii joiner = false := by decide
  have hafter (before : List Char) (h : ∀ c ∈ s, isAscii c = true) :
      joinersFitAfter before s = true := by
    induction s generalizing before with
    | nil => rfl
    | cons c s ih =>
      obtain ⟨hc, hs⟩ := List.forall_mem_cons.mp h
      have hnon : c ≠ nonJoiner := ne_of_class hc hjoiners.1
      have hjoin : c ≠ joiner := ne_of_class hc hjoiners.2
      rw [joinersFitAfter, fits, if_neg hnon, if_neg hjoin, Bool.true_and]
      exact ih hs (c :: before) hs
  exact hafter [] h

theorem isValid_of_isDigit {c : Char} (h : c.isDigit = true) : isValid c = true := by
  have hdigits : ∀ d : Char, d.isDigit = true → d.isUpper = false := by
    intro d hd
    have hle : d.toNat ≤ 0x39 := of_decide_eq_true (Bool.and_eq_true_iff.mp hd).2
    exact of_ascii (P := fun d => d.isDigit = true → d.isUpper = false) (by decide +kernel)
      (by omega) hd
  exact isValid_of_isAscii (isAscii_of_isDigit h) (hdigits c h)

/-- Digits are a label as they are. -/
theorem label?_of_isDigit {s : List Char} (h : ∀ c ∈ s, c.isDigit = true) :
    label? s = some ⟨s, s⟩ := by
  have hascii : ∀ c ∈ s, isAscii c = true := fun c hc => isAscii_of_isDigit (h c hc)
  have hvalid : s.all isValid = true := List.all_eq_true.mpr fun c hc => isValid_of_isDigit (h c hc)
  have hhead : s.head?.any isMark = false := by
    cases s with
    | nil => rfl
    | cons c s => exact isMark_of_isAscii (hascii c List.mem_cons_self)
  have hmark : mark.isPrefixOf s = false := by
    by_contra hprefix
    obtain ⟨rest, rfl⟩ := List.isPrefixOf_iff_prefix.mp (Bool.not_eq_false _ ▸ hprefix)
    exact absurd (h 'x' List.mem_cons_self) (by decide)
  have hlabel : isValidLabel s = true := by
    rw [isValidLabel, composed_eq_self hascii, hvalid, hmark, hhead, joinersFit_of_isAscii hascii]
    simp
  rw [label?, if_neg (by simp [hmark]), encodeLabel?, hlabel, List.all_eq_true.mpr hascii]
  rfl

theorem turnsAround_of_isAscii {s : List Char} (h : ∀ c ∈ s, isAscii c = true) :
    turnsAround s = false := by
  rw [turnsAround, List.any_eq_false]
  intro c hc
  simp [turns_of_isAscii (h c hc)]

/-- The labels of an address of four bytes. -/
def byteLabels (n : Nat) : List Label :=
  (Ipv4.bytes n).map fun b => ⟨Nat.toDigits 10 b, Nat.toDigits 10 b⟩

theorem isDigit_of_mem_byteLabels {n : Nat} {l : Label} (h : l ∈ byteLabels n) :
    l.unicode = l.ascii ∧ ∀ c ∈ l.ascii, c.isDigit = true := by
  obtain ⟨b, -, rfl⟩ := List.mem_map.mp h
  exact ⟨rfl, fun c hc => Nat.isDigit_of_mem_toDigits (by decide) (by decide) hc⟩

theorem asciiName_byteLabels (n : Nat) : AsciiName (byteLabels n) (Ipv4.text n) where
  join_eq := by
    rw [joinLabels, byteLabels, List.map_map, Ipv4.text_eq]
    rfl
  fields_eq := by
    rw [Ipv4.fields_text, byteLabels, List.map_map]
    rfl
  chars := by
    intro c hc
    rcases Ipv4.mem_text hc with hdigit | rfl
    · refine ⟨isAscii_of_isDigit hdigit, isValid_of_isDigit hdigit, ?_⟩
      have hascii := of_decide_eq_true (isAscii_of_isDigit hdigit)
      exact of_ascii (P := fun c => c.isDigit = true → isBarred c = false) (by decide +kernel)
        hascii hdigit
    · exact ⟨by decide, isValid_of_isAscii (by decide) (by decide), by decide⟩
  read := by
    intro l hl
    obtain ⟨heq, hdigits⟩ := isDigit_of_mem_byteLabels hl
    refine ⟨l.ascii, ?_⟩
    rw [label?_of_isDigit hdigits]
    cases l
    exact congrArg some (by rw [Label.mk.injEq]; exact ⟨heq.symm, rfl⟩)
  directions := by
    have hnone : (byteLabels n).any (fun l => turnsAround l.unicode) = false := by
      rw [List.any_eq_false]
      intro l hl
      obtain ⟨heq, hdigits⟩ := isDigit_of_mem_byteLabels hl
      simp [heq, turnsAround_of_isAscii fun c hc => isAscii_of_isDigit (hdigits c hc)]
    rw [keepDirections, hnone]
    rfl

theorem toAscii?_ipv4 (n : Nat) : toAscii? (Ipv4.text n) = some (Ipv4.text n) := by
  refine (asciiName_byteLabels n).toAscii?_of_fits fun l hl hprefix => ?_
  obtain ⟨rest, hrest⟩ := hprefix
  have hx := (isDigit_of_mem_byteLabels hl).2 'x' (by rw [← hrest]; exact List.mem_cons_self)
  exact absurd hx (by decide)

end Domain

/-! Hosts -/

namespace Host

/-- The labels of a name can be decoded. -/
def Decodable : Host → Prop
  | name s => Domain.Decodable s
  | ipv4 _ => True
  | ipv6 _ => True

theorem readBracketed_text {groups : List Nat} (h : Ipv6.IsAddress groups) :
    readBracketed ('[' :: Ipv6.text groups ++ [']']) = .ok (ipv6 groups) := by
  have hlast : ('[' :: Ipv6.text groups ++ [']']).getLast? = some ']' := List.getLast?_concat
  have hinside : (('[' :: Ipv6.text groups ++ [']']).drop 1).dropLast = Ipv6.text groups := by simp
  rw [readBracketed, if_pos hlast, hinside, Ipv6.read?_text h]

theorem exists_of_readBracketed {s : List Char} {h : Host} (hread : readBracketed s = .ok h) :
    ∃ groups, Ipv6.IsAddress groups ∧ h = ipv6 groups := by
  unfold readBracketed at hread
  split at hread
  · split at hread
    · rename_i groups hgroups
      exact ⟨groups, Ipv6.isAddress_of_read? hgroups, (Except.ok.inj hread).symm⟩
    · cases hread
  · cases hread

/-- The host of a web URL: an address, or a name in ASCII that does not end in a number. -/
theorem cases_of_readDomain {s : List Char} {h : Host} (hread : readDomain s = .ok h) :
    (∃ groups, Ipv6.IsAddress groups ∧ h = ipv6 groups) ∨ (∃ n < 0x100000000, h = ipv4 n) ∨
      ∃ decoded ascii, Domain.toAscii? decoded = some ascii ∧ ascii ≠ [] ∧
        Ipv4.endsInNumber ascii = false ∧ h = name ascii := by
  have hnormal := normal_of_readDomain hread
  unfold readDomain at hread
  split at hread
  · exact Or.inl (exists_of_readBracketed hread)
  · split at hread
    · cases hread
    · rename_i decoded hdecoded
      split at hread
      · cases hread
      · cases hread
      · rename_i ascii hne hascii
        split at hread
        · split at hread
          · obtain rfl := Except.ok.inj hread
            exact Or.inr (Or.inl ⟨_, hnormal, rfl⟩)
          · cases hread
        · rename_i hnumber
          obtain rfl := Except.ok.inj hread
          refine Or.inr (Or.inr ⟨decoded, ascii, hascii, ?_, Bool.not_eq_true _ ▸ hnumber, rfl⟩)
          exact hne

/-- The host that the ASCII form of a domain name stands for. -/
def ofAscii? : Option (List Char) → Except Fault Host
  | none => .error .invalidDomain
  | some [] => .error .emptyHost
  | some (c :: ascii) =>
    if Ipv4.endsInNumber (c :: ascii) then
      match Ipv4.read? (c :: ascii) with
      | some n => .ok (ipv4 n)
      | none => .error .invalidIpv4
    else .ok (name (c :: ascii))

/-- A text without marks of other parts of an address is not decoded first. -/
theorem readDomain_eq {s : List Char} (h : ∀ c ∈ s, Domain.isBarred c = false) :
    readDomain s = ofAscii? (Domain.toAscii? s) := by
  have hhead : s.head? ≠ some '[' := by
    intro hhead
    exact absurd (h '[' (List.mem_of_head? hhead)) (by decide)
  have hfree : Free (· = '%') s := by
    intro c hc
    refine decide_eq_false ?_
    rintro rfl
    exact absurd (h '%' hc) (by decide)
  rw [readDomain, if_neg hhead, decode_percentDecode_of_free hfree]
  dsimp only
  cases Domain.toAscii? s with
  | none => rfl
  | some ascii => cases ascii <;> rfl

/-- The host of a web URL is read from its text as itself if its labels can be decoded, and
else not at all. -/
theorem readDomain_text {s : List Char} {h : Host} (hread : readDomain s = .ok h) :
    (h.Decodable → readDomain h.text = .ok h) ∧
      (¬ h.Decodable → readDomain h.text = .error .invalidDomain) := by
  rcases cases_of_readDomain hread with ⟨groups, haddress, rfl⟩ | ⟨n, hn, rfl⟩ |
    ⟨decoded, ascii, hascii, hne, hnumber, rfl⟩
  · refine ⟨fun _ => ?_, fun hnot => absurd trivial hnot⟩
    rw [text, readDomain, if_pos (by rfl)]
    exact readBracketed_text haddress
  · refine ⟨fun _ => ?_, fun hnot => absurd trivial hnot⟩
    have hchars := (Domain.asciiName_byteLabels n).chars
    have hnumber := Ipv4.endsInNumber_text n
    have hvalue := Ipv4.read?_text hn
    rw [text, readDomain_eq fun c hc => (hchars c hc).2.2, Domain.toAscii?_ipv4]
    cases htext : Ipv4.text n with
    | nil => simp [Ipv4.text] at htext
    | cons c t =>
      rw [htext] at hnumber hvalue
      rw [ofAscii?, if_pos hnumber, hvalue]
  · obtain ⟨labels, hname⟩ := Domain.exists_asciiName hascii
    obtain ⟨hfits, hlong⟩ := Domain.toAscii?_ascii hascii
    rw [text, readDomain_eq fun c hc => (hname.chars c hc).2.2]
    constructor
    · intro hdecodable
      rw [hfits hdecodable]
      cases ascii with
      | nil => exact absurd rfl hne
      | cons c t => rw [ofAscii?, if_neg (by simp [hnumber])]
    · intro hnot
      rw [hlong hnot, ofAscii?]

/-- The host of a URL of no known scheme is read from its text as itself. -/
theorem readPlain_text {s : List Char} {h : Host} (hread : readPlain s = .ok h) :
    readPlain h.text = .ok h := by
  have hnormal := normal_of_readPlain hread
  unfold readPlain at hread
  split at hread
  · obtain ⟨groups, haddress, rfl⟩ := exists_of_readBracketed hread
    rw [text, readPlain, if_pos (by rfl)]
    exact readBracketed_text haddress
  · split at hread
    · cases hread
    · obtain rfl := Except.ok.inj hread
      have hkept : ∀ c ∈ percentEncode keepPlain s, keepPlain c = true ∧
          plainHostBarred c = false := by
        intro c hc
        simpa [isHostChar] using hnormal c hc
      have hhead : (percentEncode keepPlain s).head? ≠ some '[' := by
        intro hhead
        exact absurd (hkept '[' (List.mem_of_head? hhead)).2 (by decide)
      have hbarred : (percentEncode keepPlain s).any plainHostBarred = false := by
        rw [List.any_eq_false]
        intro c hc
        simp [(hkept c hc).2]
      rw [text, readPlain, if_neg hhead, hbarred,
        percentEncode_eq_self fun c hc => (hkept c hc).1]
      rfl

end Host

end PaymentConnector.Url
