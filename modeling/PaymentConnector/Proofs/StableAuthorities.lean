import Mathlib.Data.List.TakeWhile
import PaymentConnector.Proofs.RedirectTargets
import PaymentConnector.Proofs.StableHosts

/-!
Authorities read again from their texts. User, password, host and port are found where they were
put, since none of them holds the mark that ends it. An authority that has been read is read as
itself from its text, unless the scheme asks for a name whose labels can be decoded and it has none.
-/

namespace PaymentConnector.Url

open Text

/-- A reader gives a value if a condition holds, and otherwise refuses the domain name. -/
structure Gives {α : Type} (x : Except Fault α) (p : Prop) (a : α) : Prop where
  ok : p → x = .ok a
  refused : ¬ p → x = .error .invalidDomain

namespace Gives

variable {α β : Type} {x : Except Fault α} {p : Prop} {a : α}

theorem of_ok (h : x = .ok a) (hp : p) : Gives x p a := ⟨fun _ => h, fun hnot => absurd hp hnot⟩

theorem eq_ok_iff (h : Gives x p a) {b : α} : x = .ok b ↔ p ∧ b = a := by
  by_cases hp : p
  · rw [h.ok hp, Except.ok.injEq]
    simp [hp, eq_comm]
  · rw [h.refused hp]
    simp [hp]

theorem map (h : Gives x p a) {f : α → β} {b : β} (hf : f a = b) : Gives (x.map f) p b where
  ok := fun hp => by rw [h.ok hp, ← hf, Except.map]
  refused := fun hnot => by rw [h.refused hnot, Except.map]

theorem congr (h : Gives x p a) {q : Prop} (hpq : p ↔ q) : Gives x q a where
  ok := fun hq => h.ok (hpq.mpr hq)
  refused := fun hnot => h.refused fun hp => hnot (hpq.mp hp)

end Gives

/-- The labels of a host can be decoded, where the scheme asks for a domain name. -/
def SchemeKind.TakesHost (kind : SchemeKind) (h : Host) : Prop :=
  kind.isSpecial = true → h.Decodable

theorem readHost_text {kind : SchemeKind} {s : List Char} {h : Host}
    (hread : readHost kind s = .ok h) : Gives (readHost kind h.text) (kind.TakesHost h) h := by
  unfold readHost at hread ⊢
  split at hread
  · rename_i hspecial
    have htakes : kind.TakesHost h ↔ h.Decodable := forall_prop_of_true hspecial
    obtain ⟨hok, hrefused⟩ := Host.readDomain_text hread
    rw [if_pos hspecial, htakes]
    exact ⟨hok, hrefused⟩
  · rename_i hplain
    rw [if_neg hplain]
    exact Gives.of_ok (Host.readPlain_text hread) fun hspecial => absurd hspecial hplain

theorem text_ne_nil_of_readHost {kind : SchemeKind} {s : List Char} {h : Host} (hs : s ≠ [])
    (hread : readHost kind s = .ok h) : h.text ≠ [] := by
  unfold readHost at hread
  split at hread
  · exact Host.text_ne_nil_of_readDomain hread
  · unfold Host.readPlain at hread
    split at hread
    · exact Host.text_ne_nil_of_readBracketed hread
    · split at hread
      · cases hread
      · rw [← Except.ok.inj hread]
        exact percentEncode_ne_nil hs

/-! The parts of an authority -/

theorem readUserinfo_credentials {username password : List Char}
    (hname : ∀ c ∈ username, keepUserinfo c = true)
    (hpassword : ∀ c ∈ password, keepUserinfo c = true) :
    readUserinfo (username ++ if password = [] then [] else ':' :: password) =
      (username, password) := by
  have hfree : Free (· = ':') username :=
    fun c hc => decide_eq_false (ne_of_class (hname c hc) (by decide))
  by_cases hnil : password = []
  · rw [if_pos hnil, List.append_nil, readUserinfo, cutAround_of_free hfree]
    exact Prod.ext (percentEncode_eq_self hname) hnil.symm
  · rw [if_neg hnil, readUserinfo, cutAround_append_cons hfree (by decide)]
    exact Prod.ext (percentEncode_eq_self hname) (percentEncode_eq_self hpassword)

/-- A text without brackets and, outside of them, without a colon is all host. -/
theorem cutHost_append {inBrackets : Bool} {s : List Char}
    (hs : ∀ c ∈ s, c ≠ '[' ∧ c ≠ ']' ∧ (c = ':' → inBrackets = true)) (t : List Char) :
    cutHost inBrackets (s ++ t) =
      (s ++ (cutHost inBrackets t).1, (cutHost inBrackets t).2) := by
  induction s with
  | nil => rfl
  | cons c s ih =>
    obtain ⟨⟨hopening, hclosing, hcolon⟩, hrest⟩ := List.forall_mem_cons.mp hs
    have hinside : ¬ (c = ':' ∧ (!inBrackets) = true) := by
      rintro ⟨rfl, houtside⟩
      rw [hcolon rfl] at houtside
      exact Bool.noConfusion houtside
    rw [List.cons_append, cutHost, if_neg hinside, if_neg hopening, if_neg hclosing]
    dsimp only
    rw [ih hrest, List.cons_append]

theorem lookup_ne_of_readPort {scheme s rest : List Char} {port : Option Nat}
    (h : readPort scheme s = .ok (port, rest)) :
    ∀ n, port = some n → webPorts.lookup scheme ≠ some n := by
  rintro n rfl
  unfold readPort at h
  dsimp only at h
  split at h
  · cases h
  · split at h
    · cases h
    · rename_i hshown
      obtain ⟨hn, -⟩ := Prod.mk.inj (Except.ok.inj h)
      rw [← Option.some.inj hn]
      exact fun hdefault => hshown (Or.inr hdefault)

theorem readPort_toDigits {scheme : List Char} {n : Nat} (hn : n ≤ 65535)
    (hport : webPorts.lookup scheme ≠ some n) :
    readPort scheme (Nat.toDigits 10 n) = .ok (some n, []) := by
  have hdigits : ∀ c ∈ Nat.toDigits 10 n, c.isDigit = true :=
    fun c hc => Nat.isDigit_of_mem_toDigits (by decide) (by decide) hc
  have htake : (Nat.toDigits 10 n).takeWhile Char.isDigit = Nat.toDigits 10 n :=
    List.takeWhile_eq_self_iff.mpr hdigits
  have hdrop : (Nat.toDigits 10 n).dropWhile Char.isDigit = [] :=
    List.dropWhile_eq_nil_iff.mpr hdigits
  have hvalue : Nat.ofDigitChars 10 (Nat.toDigits 10 n) 0 = n :=
    Nat.ofDigitChars_toDigits (by decide) (by decide)
  have hsmall : ¬ (65535 < n) := by omega
  simp [readPort, htake, hdrop, hvalue, hsmall, hport, Nat.toDigits_ne_nil]

end Url

namespace Authority

open Url Text

/-- What holds of an authority that has been read: it has a host or is empty, and no port that
goes without saying. -/
structure Canonical (scheme : List Char) (kind : SchemeKind) (a : Authority) : Prop where
  normal : a.Normal
  host : ∀ h, a.host = some h → h.text ≠ [] ∧ ∃ s, readHost kind s = .ok h
  port : ∀ n, a.port = some n → webPorts.lookup scheme ≠ some n
  bare : a.host = none → a = ⟨[], [], none, none⟩ ∧ kind.isSpecial = false

namespace Normal

variable {a : Authority}

theorem cutHost_portText (a : Authority) : cutHost false a.portText = ([], a.portText) := by
  unfold portText
  split
  · rfl
  · rfl

theorem cutHost_text (ha : a.Normal) :
    cutHost false (a.hostText ++ a.portText) = (a.hostText, a.portText) := by
  rcases ha.hostText_cases with hchars | ⟨groups, -, htext⟩
  · rw [cutHost_append, cutHost_portText, List.append_nil]
    intro c hc
    have hhost := hchars c hc
    refine ⟨ne_of_class hhost (by decide), ne_of_class hhost (by decide), ?_⟩
    rintro rfl
    exact absurd hhost (by decide)
  · have hinside : ∀ c ∈ Ipv6.text groups, c ≠ '[' ∧ c ≠ ']' ∧ (c = ':' → true = true) := by
      intro c hc
      refine ⟨?_, ?_, fun _ => rfl⟩
      · exact of_decide_eq_false (Ipv6.free_text_of_eq (by decide) (by decide) groups c hc)
      · exact of_decide_eq_false (Ipv6.free_text_of_eq (by decide) (by decide) groups c hc)
    have hclosing : cutHost true (']' :: a.portText) = ([']'], a.portText) := by
      rw [cutHost, if_neg (by simp), if_neg (by decide), if_pos rfl]
      dsimp only
      rw [cutHost_portText]
    rw [htext, List.append_assoc, List.cons_append, cutHost, if_neg (by decide), if_pos rfl]
    dsimp only
    rw [cutHost_append hinside, List.singleton_append, hclosing, List.cons_append]

/-- The user and the password before an at sign, and the host and the port after it. -/
theorem cutUserinfo_text (ha : a.Normal) :
    (cutAroundLast (· = '@') a.text).getD ([], a.text) =
      (a.username ++ (if a.password = [] then [] else ':' :: a.password),
        a.hostText ++ a.portText) := by
  have hfree := ha.free_hostText_portText
  by_cases hnone : a.username = [] ∧ a.password = []
  · have huser : a.userinfoText = [] := if_pos hnone
    rw [text, huser, List.nil_append, cutAroundLast_of_free hfree, hnone.1, hnone.2]
    rfl
  · have huser : a.userinfoText =
        a.username ++ (if a.password = [] then [] else ':' :: a.password) ++ ['@'] := if_neg hnone
    rw [text, huser, List.append_assoc, List.append_assoc _ ['@'], List.singleton_append,
      cutAroundLast_append_cons hfree (by decide)]
    rfl

/-- An at sign alone is no authority: a host follows it. -/
theorem text_ne_at (ha : a.Normal) (hne : a.hostText ≠ []) : a.text ≠ ['@'] := by
  intro hat
  have hfree := ha.free_hostText_portText
  have hsome : (a.hostText ++ a.portText).getLast?.isSome := by simp [hne]
  have hlast : a.text.getLast? = (a.hostText ++ a.portText).getLast? := by
    rw [text, List.append_assoc, List.getLast?_append, Option.or_of_isSome hsome]
  rw [hat] at hlast
  exact hfree.notMem (by decide) (List.mem_of_getLast? hlast.symm)

end Normal

namespace Canonical

variable {scheme : List Char} {kind : SchemeKind} {a : Authority}

/-- From its text an authority is read up to its host, and that is read from its own text. -/
theorem readAuthority_eq (ha : a.Canonical scheme kind) {h : Host} (hhost : a.host = some h)
    (ends : Bool) : readAuthority scheme kind ends a.text =
      (readHost kind h.text).map fun host => (⟨a.username, a.password, some host, a.port⟩, []) := by
  have htext : a.hostText = h.text := by rw [hostText, hhost]
  have hne : a.hostText ≠ [] := htext ▸ (ha.host h hhost).1
  have hopen : ¬ (decide (a.text = ['@'] ∧ (!ends) = true)) = true := by
    intro hclosed
    exact ha.normal.text_ne_at hne (of_decide_eq_true hclosed).1
  unfold readAuthority
  rw [ha.normal.cutUserinfo_text]
  dsimp only
  rw [readUserinfo_credentials ha.normal.username ha.normal.password, ha.normal.cutHost_text]
  dsimp only
  rw [if_neg hopen, if_neg hne, htext]
  cases readHost kind h.text with
  | error e => rfl
  | ok host =>
    cases hport : a.port with
    | none =>
      rw [portText, hport]
      rfl
    | some n =>
      have hread := readPort_toDigits (ha.normal.port n hport) (ha.port n hport)
      rw [portText, hport]
      simp only [hread]
      rfl

/-- An authority that has been read is read from its text as itself. -/
theorem readAuthority_text (ha : a.Canonical scheme kind) (ends : Bool) :
    Gives (readAuthority scheme kind ends a.text) (∀ h, a.host = some h → kind.TakesHost h)
      (a, []) := by
  cases hhost : a.host with
  | none =>
    obtain ⟨rfl, hplain⟩ := ha.bare hhost
    refine Gives.of_ok ?_ (by simp)
    have htext : (⟨[], [], none, none⟩ : Authority).text = [] := rfl
    rw [htext]
    simp [readAuthority, cutAroundLast, cutAround, cut, cutHost, readUserinfo, percentEncode,
      hplain]
  | some h =>
    obtain ⟨-, s, hs⟩ := ha.host h hhost
    have hhosts : kind.TakesHost h ↔ ∀ g, some h = some g → kind.TakesHost g := by simp
    rw [ha.readAuthority_eq hhost]
    refine ((readHost_text hs).congr hhosts).map ?_
    rw [← hhost]

end Canonical

end Authority

namespace Url

open Authority

theorem canonical_of_readAuthority {scheme s rest : List Char} {kind : SchemeKind} {ends : Bool}
    {a : Authority} (h : readAuthority scheme kind ends s = .ok (a, rest)) :
    a.Canonical scheme kind := by
  have hnormal := normal_of_readAuthority h
  unfold readAuthority at h
  dsimp only at h
  split at h
  · cases h
  · split at h
    · split at h
      · cases h
      · rename_i hfine
        obtain ⟨rfl, -⟩ := Prod.mk.inj (Except.ok.inj h)
        rw [not_or, Bool.not_eq_true] at hfine
        exact ⟨hnormal, by simp, by simp, fun _ => ⟨rfl, hfine.1⟩⟩
    · rename_i hne
      split at h
      · cases h
      · rename_i host hhost
        have hread : ∀ g, some host = some g → g.text ≠ [] ∧ ∃ s, readHost kind s = .ok g := by
          intro g hg
          rw [← Option.some.inj hg]
          exact ⟨text_ne_nil_of_readHost hne hhost, _, hhost⟩
        split at h
        · split at h
          · cases h
          · rename_i port rest hport
            obtain ⟨rfl, -⟩ := Prod.mk.inj (Except.ok.inj h)
            exact ⟨hnormal, hread, lookup_ne_of_readPort hport, by simp⟩
        · obtain ⟨rfl, -⟩ := Prod.mk.inj (Except.ok.inj h)
          exact ⟨hnormal, hread, by simp, by simp⟩

end Url

end PaymentConnector
