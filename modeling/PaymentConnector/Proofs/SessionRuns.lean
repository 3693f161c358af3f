import PaymentConnector.Proofs.DumpedCalls
import PaymentConnector.Proofs.PayloadAnswers
import PaymentConnector.Proofs.RequestRefusals
import PaymentConnector.Session

/-!
Sessions, step by step. A step that fails changes nothing, so it can be left out of a run. A call
that a session holds is one that it held before, or a step made it of data or of the call at hand.
So every call of a run has its country and its currency in capitals, and is for the same attempt
as a call that the run began with or loaded. The call at hand can be read again from its dump.
-/

namespace PaymentConnector

namespace Envelope

/-- Envelopes whose dumps differ in nothing but the status. -/
def SameAttempt (e e' : Envelope) : Prop :=
  { e with status := e'.status }.dumpEntries = e'.dumpEntries

theorem sameAttempt_refl (e : Envelope) : e.SameAttempt e := rfl

theorem sameAttempt_status (e : Envelope) (status : AttemptStatus) :
    SameAttempt { e with status := status } e := rfl

theorem sameAttempt_hidden (e : Envelope) : e.hidden.SameAttempt e := e.dumpEntries_hidden

theorem SameAttempt.trans {e e' e'' : Envelope} (h : e.SameAttempt e') (h' : e'.SameAttempt e'') :
    e.SameAttempt e'' := by
  simp only [SameAttempt, dumpEntries, List.cons.injEq, Prod.mk.injEq, true_and] at h h' ⊢
  grind

end Envelope

namespace Call

variable {flow : Flow} {c c' : Call flow} {p : Wire.Payload}

/-- The call with an answer, and maybe at another status. -/
def Answered (c c' : Call flow) : Prop :=
  ∃ status response, c' =
    { envelope := { c.envelope with status := status }
      request := c.request
      response := some response }

theorem answered_of_respond (h : (c.respond p).value = .ok c') : c.Answered c' := by
  obtain ⟨s, -, rfl⟩ := Except.map_eq_ok_iff.mp h
  exact ⟨_, _, c.settle_eq s⟩

theorem answered_of_respondError {statusCode : Json}
    (h : (c.respondError p statusCode).value = .ok c') : c.Answered c' := by
  obtain ⟨e, -, rfl⟩ := Except.map_eq_ok_iff.mp h
  exact ⟨c.envelope.status, .error e, rfl⟩

theorem Answered.inCapitals (h : c.Answered c') (hc : c.InCapitals) : c'.InCapitals := by
  obtain ⟨status, response, rfl⟩ := h
  exact ⟨hc.country, hc.currency⟩

theorem Answered.sameAttempt (h : c.Answered c') : c'.envelope.SameAttempt c.envelope := by
  obtain ⟨status, response, rfl⟩ := h
  exact c.envelope.sameAttempt_status status

theorem sameAttempt_of_dump (hc : c.InCapitals) {j : Json} (hj : c.dump = .ok j) {origin : Origin}
    (h : read flow origin j = .ok c') : c'.envelope.SameAttempt c.envelope := by
  obtain ⟨-, rfl⟩ := Json.dumpOf_eq_ok_iff.mp hj
  obtain ⟨o, ho, henvelope, -⟩ := of_read h
  obtain rfl := Json.obj.inj ho
  rw [Envelope.read_dumpEntries_append hc.country] at henvelope
  rw [← Checked.ok.inj henvelope]
  exact c.envelope.sameAttempt_hidden

end Call

namespace Session

variable {s s' : Session} {t : Step} {c : AnyCall}

/-- The session after a step. -/
def after (s : Session) (t : Step) : Session := (s.step t).value.2

/-- The session after steps in order. -/
def afterAll (s : Session) (ts : List Step) : Session := ts.foldl after s

/-! Steps that fail -/

theorem after_of_attempt {r : StepResult} (h : (s.attempt t).value = .ok (r, s')) :
    s.after t = s' := by
  rw [after, step, Logged.map, h]

theorem after_of_fault {e : StepFault} (h : (s.step t).value.1 = .error e) : s.after t = s := by
  unfold after
  unfold step Logged.map at h ⊢
  cases hattempt : (s.attempt t).value with
  | error f => rfl
  | ok x =>
    rw [hattempt] at h
    cases h

theorem afterAll_append (s : Session) (ts us : List Step) :
    s.afterAll (ts ++ us) = (s.afterAll ts).afterAll us := List.foldl_append

/-- A run has one result for each step, and what comes later depends on the session alone. -/
theorem run_append (s : Session) (ts us : List Step) :
    (s.run (ts ++ us)).value = (s.run ts).value ++ ((s.afterAll ts).run us).value ∧
      (s.run (ts ++ us)).log = (s.run ts).log ++ ((s.afterAll ts).run us).log := by
  induction ts generalizing s with
  | nil => exact ⟨rfl, rfl⟩
  | cons t ts ih =>
    obtain ⟨hvalue, hlog⟩ := ih (s.after t)
    constructor
    · exact congrArg ((s.step t).value.1 :: ·) hvalue
    · simp only [List.cons_append, run, Logged.andThen, Logged.map]
      rw [List.append_assoc]
      exact congrArg ((s.step t).log ++ ·) hlog

theorem length_run (s : Session) (ts : List Step) : (s.run ts).value.length = ts.length := by
  induction ts generalizing s with
  | nil => rfl
  | cons t ts ih => exact congrArg (· + 1) (ih (s.after t))

/-- A step that fails can be left out: what comes after it is the same. -/
theorem run_of_fault {pre : List Step} {e : StepFault}
    (h : ((s.afterAll pre).step t).value.1 = .error e) (post : List Step) :
    s.afterAll (pre ++ t :: post) = s.afterAll (pre ++ post) ∧
      (s.run (pre ++ t :: post)).value =
        (s.run pre).value ++ .error e :: ((s.afterAll pre).run post).value := by
  have hsame : (s.afterAll pre).after t = s.afterAll pre := after_of_fault h
  constructor
  · rw [afterAll_append, afterAll_append]
    exact congrArg (afterAll · post) hsame
  · rw [(s.run_append pre (t :: post)).1, ← h]
    exact congrArg (fun u : Session =>
      (s.run pre).value ++ ((s.afterAll pre).step t).value.1 :: (u.run post).value) hsame

/-! Steps that succeed -/

/-- The call is at hand or put aside. -/
def Holds (s : Session) (c : AnyCall) : Prop := s.current = some c ∨ ∃ name, (name, c) ∈ s.saved

/-- The calls that a step makes of data, or of the call at hand. -/
inductive Makes (s : Session) : Step → AnyCall → Prop
  | load {flow : Flow} {data : Json} {c : Call flow} (h : Call.read flow .value data = .ok c) :
      Makes s (.load flow data) ⟨flow, c⟩
  | respond {c : AnyCall} {payload : Wire.Payload} {call : Call c.flow}
      (hc : s.current = some c) (h : (c.call.respond payload).value = .ok call) :
      Makes s (.respond payload) ⟨c.flow, call⟩
  | respondError {c : AnyCall} {payload : Wire.Payload} {statusCode : Json} {call : Call c.flow}
      (hc : s.current = some c) (h : (c.call.respondError payload statusCode).value = .ok call) :
      Makes s (.respondError payload statusCode) ⟨c.flow, call⟩
  | next {c : AnyCall} {flow : Flow} {request linked : Json} {links : Links} {r : flow.Request}
      (hc : s.current = some c) (hlinked : c.linked flow links request = .ok linked)
      (h : flow.readRequest linked = .ok r) :
      Makes s (.next flow request links) ⟨flow, c.call.envelope, r, none⟩
  | reload {c : AnyCall} {j : Json} {call : Call c.flow} (hc : s.current = some c)
      (hj : c.dump = .ok j) (h : Call.read c.flow .value j = .ok call) :
      Makes s .reload ⟨c.flow, call⟩

theorem onCurrent_eq_ok_iff {α : Type} {f : AnyCall → Logged (Except StepFault α)} {a : α} :
    (s.onCurrent f).value = .ok a ↔ ∃ c, s.current = some c ∧ (f c).value = .ok a := by
  unfold onCurrent
  cases s.current with
  | none => simp [Logged.pure]
  | some c => simp

theorem orFault_eq_ok_iff {α : Type} {x : Except Failure α} {a : α} :
    orFault x = .ok a ↔ x = .ok a := by
  cases x <;> simp [orFault]

theorem enter_eq_ok_iff {x : Checked AnyCall} {y : StepResult × Session} :
    s.enter x = .ok y ↔ ∃ c, x = .ok c ∧ s.goTo c = y := by
  cases x <;> simp [enter, Checked.map, Checked.orFail, orFault]

/-- What a step that succeeds does to a session: nothing, or it goes to a call that it makes or
that was put aside, or it puts the call at hand aside. -/
theorem attempt_eq_ok {r : StepResult} (h : (s.attempt t).value = .ok (r, s')) :
    s' = s ∨ (∃ c, s.Makes t c ∧ s.goTo c = (r, s')) ∨
      (∃ name c, s.saved.lookup name = some c ∧ s.goTo c = (r, s')) ∨
      ∃ name c, s.current = some c ∧ s' = { s with saved := Entries.put s.saved name c } := by
  cases t with
  | load flow data =>
    obtain ⟨c, hc, hgo⟩ := enter_eq_ok_iff.mp h
    obtain ⟨call, hcall, rfl⟩ := Checked.map_eq_ok_iff.mp hc
    exact .inr (.inl ⟨_, .load hcall, hgo⟩)
  | build amount =>
    obtain ⟨c, -, hbuild⟩ := onCurrent_eq_ok_iff.mp h
    obtain ⟨body, -, hstay⟩ := Except.map_eq_ok_iff.mp (orFault_eq_ok_iff.mp hbuild)
    exact .inl (Prod.mk.inj hstay).2.symm
  | respond payload =>
    obtain ⟨c, hc, hrespond⟩ := onCurrent_eq_ok_iff.mp h
    obtain ⟨call, hcall, hgo⟩ := Except.map_eq_ok_iff.mp (orFault_eq_ok_iff.mp hrespond)
    exact .inr (.inl ⟨_, .respond hc hcall, hgo⟩)
  | respondError payload statusCode =>
    obtain ⟨c, hc, hrespond⟩ := onCurrent_eq_ok_iff.mp h
    obtain ⟨call, hcall, hgo⟩ := Except.map_eq_ok_iff.mp (orFault_eq_ok_iff.mp hrespond)
    exact .inr (.inl ⟨_, .respondError hc hcall, hgo⟩)
  | next flow request links =>
    obtain ⟨c, hc, hnext⟩ := onCurrent_eq_ok_iff.mp h
    obtain ⟨linked, hlinked, henter⟩ := Except.bind_eq_ok_iff.mp hnext
    obtain ⟨c', hc', hgo⟩ := enter_eq_ok_iff.mp henter
    obtain ⟨r, hr, rfl⟩ := Checked.map_eq_ok_iff.mp hc'
    exact .inr (.inl ⟨_, .next hc hlinked (Checked.under_eq_ok_iff.mp hr), hgo⟩)
  | keys =>
    obtain ⟨c, -, hkeys⟩ := onCurrent_eq_ok_iff.mp h
    obtain ⟨k, -, hstay⟩ := Except.map_eq_ok_iff.mp (orFault_eq_ok_iff.mp hkeys)
    exact .inl (Prod.mk.inj hstay).2.symm
  | reload =>
    obtain ⟨c, hc, hreload⟩ := onCurrent_eq_ok_iff.mp h
    obtain ⟨j, hj, henter⟩ := Except.bind_eq_ok_iff.mp hreload
    obtain ⟨c', hc', hgo⟩ := enter_eq_ok_iff.mp henter
    obtain ⟨call, hcall, rfl⟩ := Checked.map_eq_ok_iff.mp hc'
    exact .inr (.inl ⟨_, .reload hc (orExceed_eq_ok_iff.mp (orFault_eq_ok_iff.mp hj)) hcall, hgo⟩)
  | save name =>
    obtain ⟨c, hc, hsave⟩ := onCurrent_eq_ok_iff.mp h
    exact .inr (.inr (.inr ⟨name, c, hc, (Prod.mk.inj (Except.ok.inj hsave)).2.symm⟩))
  | restore name =>
    obtain ⟨c, -, hrestore⟩ := onCurrent_eq_ok_iff.mp h
    cases hfound : s.saved.lookup name with
    | none =>
      rw [hfound] at hrestore
      cases hrestore
    | some c' =>
      rw [hfound] at hrestore
      exact .inr (.inr (.inl ⟨name, c', hfound, Except.ok.inj hrestore⟩))

/-! Calls that a session holds -/

theorem holds_of_goTo {r : StepResult} {c' : AnyCall} (hgo : s.goTo c' = (r, s'))
    (h : s'.Holds c) : s.Holds c ∨ c = c' := by
  obtain ⟨-, rfl⟩ := Prod.mk.inj hgo
  rcases h with hcurrent | hsaved
  · exact .inr (Option.some.inj hcurrent).symm
  · exact .inl (.inr hsaved)

/-- A call that a session holds after a step was there before, or the step made it. -/
theorem holds_of_after (h : (s.after t).Holds c) : s.Holds c ∨ s.Makes t c := by
  cases hattempt : (s.attempt t).value with
  | error f =>
    have hfault : (s.step t).value.1 = .error f := by
      rw [step, Logged.map, hattempt]
    exact .inl (after_of_fault hfault ▸ h)
  | ok x =>
    obtain ⟨r, s'⟩ := x
    rw [after_of_attempt hattempt] at h
    rcases attempt_eq_ok hattempt with
      rfl | ⟨c', hmakes, hgo⟩ | ⟨name, c', hfound, hgo⟩ | ⟨name, c', hcurrent, rfl⟩
    · exact .inl h
    · rcases holds_of_goTo hgo h with hheld | rfl
      · exact .inl hheld
      · exact .inr hmakes
    · rcases holds_of_goTo hgo h with hheld | rfl
      · exact .inl hheld
      · obtain ⟨before, behind, hsaved, -⟩ := List.lookup_eq_some_iff.mp hfound
        exact .inl (.inr ⟨name, by simp [hsaved]⟩)
    · rcases h with hheld | ⟨key, hsaved⟩
      · exact .inl (.inl hheld)
      · rcases Entries.mem_put hsaved with hput | hmem
        · exact .inl (.inl ((Prod.mk.inj hput).2 ▸ hcurrent))
        · exact .inl (.inr ⟨key, hmem⟩)

/-- What the calls that steps make have, if the calls before have it, every call of a run has. -/
theorem forall_holds_afterAll {p : AnyCall → Prop} {ts : List Step}
    (hmakes : ∀ t ∈ ts, ∀ (s : Session) (c : AnyCall),
      (∀ c, s.Holds c → p c) → s.Makes t c → p c)
    (hs : ∀ c, s.Holds c → p c) : ∀ c, (s.afterAll ts).Holds c → p c := by
  induction ts generalizing s with
  | nil => exact hs
  | cons t ts ih =>
    refine ih (fun u hu => hmakes u (List.mem_cons_of_mem _ hu)) fun c hc => ?_
    rcases holds_of_after hc with hheld | hmade
    · exact hs c hheld
    · exact hmakes t List.mem_cons_self s c hs hmade

theorem inCapitals_of_makes (hs : ∀ c, s.Holds c → c.call.InCapitals) (h : s.Makes t c) :
    c.call.InCapitals := by
  cases h with
  | load h => exact Call.inCapitals_of_read h
  | respond hc h => exact (Call.answered_of_respond h).inCapitals (hs _ (.inl hc))
  | respondError hc h => exact (Call.answered_of_respondError h).inCapitals (hs _ (.inl hc))
  | next hc _ h => exact ⟨(hs _ (.inl hc)).country, fun s => Flow.upper_currency _ h⟩
  | reload _ _ h => exact Call.inCapitals_of_read h

/-- Every call of a session that began with none has its country and its currency in capitals. -/
theorem inCapitals_of_holds {ts : List Step} (h : (empty.afterAll ts).Holds c) :
    c.call.InCapitals := by
  refine forall_holds_afterAll (fun _ _ _ _ => inCapitals_of_makes) (fun c hc => ?_) c h
  rcases hc with hcurrent | ⟨name, hsaved⟩
  · cases hcurrent
  · cases hsaved

/-- Without a load, a step makes calls for the attempt of the call at hand only. -/
theorem sameAttempt_of_makes (hs : ∀ c, s.Holds c → c.call.InCapitals) (h : s.Makes t c)
    (hload : ∀ flow data, t ≠ .load flow data) :
    ∃ c', s.Holds c' ∧ c.call.envelope.SameAttempt c'.call.envelope := by
  cases h with
  | load h => exact absurd rfl (hload _ _)
  | respond hc h => exact ⟨_, .inl hc, (Call.answered_of_respond h).sameAttempt⟩
  | respondError hc h => exact ⟨_, .inl hc, (Call.answered_of_respondError h).sameAttempt⟩
  | @next c _ _ _ _ _ hc _ h => exact ⟨c, .inl hc, c.call.envelope.sameAttempt_refl⟩
  | reload hc hj h => exact ⟨_, .inl hc, Call.sameAttempt_of_dump (hs _ (.inl hc)) hj h⟩

/-- After steps without a load, every call is for the attempt of one that was there before. -/
theorem exists_sameAttempt {ts us : List Step} (hload : ∀ flow data, .load flow data ∉ us)
    (h : (empty.afterAll (ts ++ us)).Holds c) :
    ∃ c', (empty.afterAll ts).Holds c' ∧ c.call.envelope.SameAttempt c'.call.envelope := by
  rw [afterAll_append] at h
  have hboth := forall_holds_afterAll
    (p := fun c => c.call.InCapitals ∧
      ∃ c', (empty.afterAll ts).Holds c' ∧ c.call.envelope.SameAttempt c'.call.envelope)
    (fun t ht s c hs hmade => ?_) (fun c hc => ?_) c h
  · exact hboth.2
  · have hcapitals (c : AnyCall) (hc : s.Holds c) : c.call.InCapitals := (hs c hc).1
    obtain ⟨c₁, hheld, hsame₁⟩ := sameAttempt_of_makes hcapitals hmade
      fun flow data heq => hload flow data (heq ▸ ht)
    obtain ⟨c₂, hbegun, hsame₂⟩ := (hs c₁ hheld).2
    exact ⟨inCapitals_of_makes hcapitals hmade, c₂, hbegun, hsame₁.trans hsame₂⟩
  · exact ⟨inCapitals_of_holds hc, c, hc, c.call.envelope.sameAttempt_refl⟩

/-- The call at hand is read again from its dump, if it has one and its currency still has three
characters; that of what is read is the same. -/
theorem step_reload {ts : List Step} (hs : empty.afterAll ts = s) (hc : s.current = some c)
    (hlength : ∀ u, c.flow.currency? c.call.request = some u → u.length = 3) {j : Json}
    (hj : c.dump = .ok j) :
    (s.step .reload).value =
        (.ok (.call ⟨c.flow, c.call.restored⟩),
          { s with current := some ⟨c.flow, c.call.restored⟩ }) ∧
      c.call.restored.dump = .ok j := by
  have hheld : (empty.afterAll ts).Holds c := hs ▸ .inl hc
  have hcapitals : c.call.InCapitals := inCapitals_of_holds hheld
  constructor
  · obtain ⟨-, rfl⟩ := Json.dumpOf_eq_ok_iff.mp hj
    have hread := Call.read_tree hcapitals .value hlength
    have hattempt : (s.attempt .reload).value =
        .ok (s.goTo ⟨c.flow, c.call.restored⟩) := by
      refine onCurrent_eq_ok_iff.mpr ⟨c, hc, Except.bind_eq_ok_iff.mpr ⟨c.call.tree, ?_, ?_⟩⟩
      · rw [hj]
        rfl
      · exact enter_eq_ok_iff.mpr ⟨_, congrArg (Checked.map _) hread, rfl⟩
    rw [step, Logged.map, hattempt]
    rfl
  · rw [Call.dump_restored]
    exact hj

end Session

end PaymentConnector
