import PaymentConnector.Check.Scalar
import PaymentConnector.CommandLine.Invocation
import PaymentConnector.Proofs.NumberTexts
import PaymentConnector.Proofs.ReadValues

/-!
Whole numbers that fit. A whole number that is taken from a value, from a text or from an
argument of the program has no more digits than are read, so it can be written and read back.
-/

namespace PaymentConnector

open Json Text

/-! Numbers from values -/

/-- A text is a whole number as JSON has it if it is a number with its text. -/
theorem integerOfNumeral_eq_ok_iff {s : List Char} {n : Int} :
    integerOfNumeral s = .ok n ↔ IsNumber .characters (.int n) s := by
  rw [← finding_number_eq_ok_iff, integerOfNumeral]
  rcases number .characters s with e | ⟨j, r, hr⟩
  · simp only [Step.finding, reduceCtorEq, iff_false]
    split <;> simp
  · cases j <;> cases r <;> simp [Step.finding]

theorem fitsDigits_of_isNumber {l : NumberLimit} {n : Int} {t : List Char}
    (h : IsNumber l (.int n) t) : FitsDigits n := by
  obtain ⟨negative, w, hw, hl, -, rfl⟩ := exists_of_isNumber_int h
  have hlength := Nat.le_trans (l.digits_le_length negative _) (NumberLimit.admits_whole_iff.mp hl)
  exact fitsDigits_ofDigitChars hw.digits hlength negative

theorem fitsDigits_of_integerOfText {s : List Char} {n : Int} (h : integerOfText s = .ok n) :
    FitsDigits n := by
  simp only [integerOfText] at h
  split at h
  · cases h
  · exact fitsDigits_of_isNumber (integerOfNumeral_eq_ok_iff.mp h)

theorem fitsDigits_of_integerOfFloat {x : Binary64} {n : Int} (h : integerOfFloat x = .ok n) :
    FitsDigits n := by
  have hbound : floatIntegerBound ≤ Nat.pow 10 20 := by decide
  unfold integerOfFloat at h
  split at h
  · split at h
    · exact absurd h (by simp)
    · split at h
      · rename_i m _ hm
        obtain rfl := Except.ok.inj h
        exact fitsDigits_of_lt (Nat.lt_of_lt_of_le hm hbound) (by decide)
      · exact absurd h (by simp)
  · exact absurd h (by simp)

/-- A whole number that a value is taken for, if no number in the value is too long. -/
theorem fitsDigits_of_toInteger {j : Json} {n : Int} (hj : j.NumbersFit .digits)
    (h : toInteger j = .ok n) : FitsDigits n := by
  cases j with
  | int m =>
    obtain rfl := Except.ok.inj h
    exact NumbersFit.int_iff.mp hj
  | bool b =>
    obtain rfl := Except.ok.inj h
    cases b <;> decide
  | float x => exact fitsDigits_of_integerOfFloat h
  | str s => exact fitsDigits_of_integerOfText h
  | _ => exact absurd h (by simp [toInteger])

theorem fitsDigits_of_readNatural {j : Json} {n : Nat} (hj : j.NumbersFit .digits)
    (h : readNatural j = .ok n) : FitsDigits n := by
  unfold readNatural at h
  cases hn : toInteger j with
  | error cause => simp [hn, Checked.fail] at h
  | ok m =>
    cases m with
    | ofNat k =>
      simp only [hn, Checked.ok.injEq] at h
      subst h
      exact fitsDigits_of_toInteger hj hn
    | negSucc k => simp [hn, Checked.fail] at h

theorem fitsDigits_of_readInteger {j : Json} {n : Int} (hj : j.NumbersFit .digits)
    (h : readInteger j = .ok n) : FitsDigits n := by
  unfold readInteger at h
  cases hn : toInteger j with
  | error cause => simp [hn, Checked.fail] at h
  | ok m =>
    simp only [hn, Checked.ok.injEq] at h
    subst h
    exact fitsDigits_of_toInteger hj hn

/-! Numbers from arguments -/

namespace CommandLine

theorem digitValue?_lt {c : Char} {d : Nat} (h : digitValue? c = some d) : d < 10 := by
  obtain ⟨z, hz, rfl⟩ := Option.map_eq_some_iff.mp h
  have hfound := List.find?_some hz
  simp only [Bool.and_eq_true, decide_eq_true_eq] at hfound
  omega

theorem digitValues?_lt {s : List Char} {ds : List Nat} (h : digitValues? s = some ds) :
    ∀ d ∈ ds, d < 10 := by
  fun_induction digitValues? s generalizing ds with
  | case1 => exact absurd h (by simp)
  | case2 c =>
    obtain ⟨d, hd, rfl⟩ := Option.map_eq_some_iff.mp h
    simpa using digitValue?_lt hd
  | case3 c rest ih =>
    simp only [bind, Option.bind_eq_some_iff] at h
    obtain ⟨d, hd, es, hes, heq⟩ := h
    obtain rfl := Option.some.inj heq
    exact List.forall_mem_cons.mpr ⟨digitValue?_lt hd, ih hes⟩
  | case4 c rest _ _ ih =>
    simp only [bind, Option.bind_eq_some_iff] at h
    obtain ⟨d, hd, es, hes, heq⟩ := h
    obtain rfl := Option.some.inj heq
    exact List.forall_mem_cons.mpr ⟨digitValue?_lt hd, ih hes⟩

theorem fitsDigits_of_natural? {s : List Char} {n : Nat} {m : Int} (h : natural? s = some n)
    (hm : m.natAbs = n) : FitsDigits m := by
  simp only [natural?, bind, Option.bind_eq_some_iff] at h
  obtain ⟨digits, hdigits, hn⟩ := h
  split at hn
  · rename_i hfew
    have hvalue := Url.Ipv4.foldl_digits_lt (digitValues?_lt hdigits) 0
    have hsame : magnitude digits = digits.foldl (fun n d => n * 10 + d) 0 := by
      simp only [magnitude, Nat.mul_comm]
    obtain rfl := Option.some.inj hn
    rw [Nat.zero_add, Nat.one_mul, ← hsame, ← hm] at hvalue
    exact fitsDigits_of_lt hvalue hfew
  · exact absurd hn (by simp)

theorem fitsDigits_of_integer? {s : List Char} {n : Int} (h : integer? s = some n) :
    FitsDigits n := by
  unfold integer? at h
  split at h
  all_goals
    obtain ⟨m, hm, rfl⟩ := Option.map_eq_some_iff.mp h
    obtain ⟨k, hk, hcast⟩ := Option.bind_eq_some_iff.mp hm
    obtain rfl := Option.some.inj hcast
    exact fitsDigits_of_natural? hk (by simp)

/-- What every step keeps holds at the end. -/
theorem foldlM_invariant {α β ε : Type} {step : β → α → Except ε β} {p : β → Prop}
    (hstep : ∀ b a b', p b → step b a = .ok b' → p b') {as : List α} {b b' : β} (hb : p b)
    (h : as.foldlM step b = .ok b') : p b' := by
  induction as generalizing b with
  | nil =>
    obtain rfl := Except.ok.inj h
    exact hb
  | cons a as ih =>
    rw [List.foldlM_cons] at h
    cases hnext : step b a with
    | error e =>
      rw [hnext] at h
      exact absurd h (by simp [bind, Except.bind])
    | ok c =>
      rw [hnext] at h
      exact ih (hstep b a c hb hnext) h

namespace Command

/-- The numbers of a command fit. -/
def NumbersFit : Command → Prop
  | build _ _ amount => ∀ n ∈ amount, FitsDigits n
  | parse _ _ _ statusCode => FitsDigits statusCode

structure Draft.NumbersFit (d : Draft) : Prop where
  amount : ∀ n ∈ d.amount, FitsDigits n
  statusCode : FitsDigits d.statusCode

theorem fitsDigits_of_readInt {text : List Char} {n : Int} (h : readInt text = .ok n) :
    FitsDigits n := by
  unfold readInt at h
  split at h
  · rename_i m hm
    obtain rfl := Except.ok.inj h
    exact fitsDigits_of_integer? hm
  · exact absurd h (by simp)

theorem Draft.numbersFit_setValue {d d' : Draft} {text : List Char} {key : Key}
    (hd : d.NumbersFit) (h : d.setValue text key = .ok d') : d'.NumbersFit := by
  cases key with
  | help => exact absurd h (by simp [setValue])
  | data =>
    obtain rfl := Except.ok.inj h
    exact ⟨hd.amount, hd.statusCode⟩
  | response =>
    obtain rfl := Except.ok.inj h
    exact ⟨hd.amount, hd.statusCode⟩
  | amount =>
    cases hn : readInt text with
    | error e => simp [setValue, hn, Except.map] at h
    | ok n =>
      simp only [setValue, hn, Except.map, Except.ok.injEq] at h
      subst h
      exact ⟨by simpa using fitsDigits_of_readInt hn, hd.statusCode⟩
  | statusCode =>
    cases hn : readInt text with
    | error e => simp [setValue, hn, Except.map] at h
    | ok n =>
      simp only [setValue, hn, Except.map, Except.ok.injEq] at h
      subst h
      exact ⟨hd.amount, fitsDigits_of_readInt hn⟩

theorem Draft.numbersFit_take {d d' : Draft} {event : Event Key} (hd : d.NumbersFit)
    (h : d.take event = .ok d') : d'.NumbersFit := by
  cases event with
  | value key text => exact numbersFit_setValue hd h
  | argument text =>
    simp only [take] at h
    split at h
    · obtain rfl := Except.ok.inj h
      exact ⟨hd.amount, hd.statusCode⟩
    · exact absurd h (by simp)
  | stray =>
    obtain rfl := Except.ok.inj h
    exact ⟨hd.amount, hd.statusCode⟩
  | _ => exact absurd h (by simp [take])

theorem numbersFit_of_read {v : Verb} {arguments : List (List Char)} {c : Command}
    (h : read v arguments = .ok c) : c.NumbersFit := by
  unfold read at h
  cases hdraft : (v.grammar.read arguments).foldlM Draft.take Draft.empty with
  | error e =>
    rw [hdraft] at h
    exact absurd h (by simp [bind, Except.bind])
  | ok d =>
    have hempty : Draft.empty.NumbersFit := ⟨by simp [Draft.empty], by decide⟩
    have hfits : d.NumbersFit :=
      foldlM_invariant (fun _ _ _ hb hstep => Draft.numbersFit_take hb hstep) hempty hdraft
    rw [hdraft] at h
    simp only [bind, Except.bind, Draft.finish] at h
    split at h
    · obtain rfl := Except.ok.inj h
      exact hfits.amount
    · obtain rfl := Except.ok.inj h
      exact hfits.statusCode
    · exact absurd h (by simp)

end Command

namespace Invocation

theorem Draft.numbersFit_take {d d' : Draft} {event : Event Key}
    (hd : ∀ c ∈ d.invocation.command, c.NumbersFit) (h : d.take event = .ok d') :
    ∀ c ∈ d'.invocation.command, c.NumbersFit := by
  cases event with
  | flag key =>
    cases key with
    | verbose =>
      obtain rfl := Except.ok.inj h
      exact hd
    | _ => exact absurd h (by simp [take, setFlag])
  | value key text =>
    cases key with
    | connector =>
      obtain rfl := Except.ok.inj h
      exact hd
    | baseUrl =>
      obtain rfl := Except.ok.inj h
      exact hd
    | _ => exact absurd h (by simp [take, setValue])
  | command name arguments =>
    simp only [take] at h
    split at h
    · rename_i verb _
      cases hc : Command.read verb arguments with
      | error e => simp [hc, Except.map] at h
      | ok c =>
        simp only [hc, Except.map, Except.ok.injEq] at h
        subst h
        simpa using Command.numbersFit_of_read hc
    · exact absurd h (by simp)
  | stray =>
    obtain rfl := Except.ok.inj h
    exact hd
  | _ => exact absurd h (by simp [take])

/-- The numbers of every invocation fit. -/
theorem numbersFit_of_read {arguments : List String} {i : Invocation} {c : Command}
    (h : read arguments = .ok i) (hc : i.command = some c) : c.NumbersFit := by
  unfold read at h
  cases hdraft : (grammar.read (arguments.map String.toList)).foldlM Draft.take Draft.empty with
  | error e =>
    rw [hdraft] at h
    exact absurd h (by simp [bind, Except.bind])
  | ok d =>
    have hempty : ∀ c ∈ Draft.empty.invocation.command, c.NumbersFit := by simp [Draft.empty]
    have hfits := foldlM_invariant (p := fun d => ∀ c ∈ d.invocation.command, c.NumbersFit)
      (fun _ _ _ hb hstep => Draft.numbersFit_take hb hstep) hempty hdraft
    rw [hdraft] at h
    simp only [bind, Except.bind] at h
    split at h
    · exact absurd h (by simp)
    · obtain rfl := Except.ok.inj h
      exact hfits c hc

end Invocation

end CommandLine

end PaymentConnector
