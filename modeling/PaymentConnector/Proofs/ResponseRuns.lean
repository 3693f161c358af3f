import PaymentConnector.Proofs.PayloadAnswers

/-!
Runs of responses on one call. Each response comes with an HTTP status, and one that
cannot be taken in leaves the call as it was. What a response does depends on its
payload and its HTTP status alone, so the reply after a run is that of the last response
taken in, and the status is the one that the last of them moved to.
-/

namespace PaymentConnector

/-- A response on its way: the payload and the HTTP status that it came with. -/
structure Exchange where
  payload : Wire.Payload
  statusCode : Int

namespace Flow

/-- Whether answers in a flow are about a refund; these leave the attempt where it is. -/
def IsRefund (flow : Flow) : Prop := flow = refund ∨ flow = rsync

/-- The status that an answer moves an attempt to. -/
def movesTo : (flow : Flow) → flow.Answer → Option AttemptStatus
  | authorize, r => some r.status.attempt
  | capture, r => some r.status.attempt
  | void, r => some r.status.attempt
  | psync, r => some r.status.attempt
  | refund, _ => none
  | rsync, _ => none

theorem movesTo_isSome (flow : Flow) (a : flow.Answer) :
    (flow.movesTo a).isSome ↔ ¬ flow.IsRefund := by
  cases flow <;> simp [movesTo, IsRefund]

theorem status_of_settle (flow : Flow) {a : flow.Answer} {s : Settlement flow}
    (h : flow.settle a = .ok s) : s.status = flow.movesTo a := by
  cases flow with
  | authorize =>
    simp only [settle, Wire.PaymentResponse.settle] at h
    cases hredirection : Wire.PaymentResponse.redirection a with
    | error e => simp [hredirection, Except.map] at h
    | ok redirection =>
      rw [hredirection] at h
      rw [← Except.ok.inj h]
      rfl
  | _ =>
    rw [← Except.ok.inj h]
    rfl

end Flow

namespace Exchange

variable (flow : Flow) (e : Exchange)

/-- The HTTP status tells of an error. -/
def IsError : Prop := firstErrorStatus ≤ e.statusCode

instance : Decidable e.IsError := inferInstanceAs (Decidable (firstErrorStatus ≤ e.statusCode))

/-- The outcome that a response is, if it can be taken in. -/
def outcome? : Option (Outcome flow.Reply) :=
  if e.IsError then
    (ErrorReply.ofPayload e.payload (.int e.statusCode)).value.toOption.map .error
  else (flow.answer e.payload).value.toOption.map fun s => .reply s.reply

/-- The status that a response moves an attempt to, if it tells of one. -/
def status? : Option AttemptStatus :=
  if e.IsError then none
  else (e.payload.read flow.readAnswer).toOption.bind flow.movesTo

theorem status?_isSome_iff :
    (e.status? flow).isSome ↔ (e.outcome? flow).isSome ∧ ¬ e.IsError ∧ ¬ flow.IsRefund := by
  unfold status? outcome?
  by_cases herror : e.IsError
  · simp [herror]
  · simp only [herror, if_false, not_false_eq_true, true_and]
    rcases (e.payload.read flow.readAnswer).eq_ok_or_failed with ⟨a, ha⟩ | ⟨faults, hfaults⟩
    · obtain ⟨j, hj⟩ := Wire.Payload.exists_of_read ha
      obtain ⟨s, hs⟩ := flow.exists_settle hj
      rw [ha, flow.answer_of_ok ha hs]
      simpa [Checked.toOption, Except.toOption] using flow.movesTo_isSome a
    · rw [hfaults, flow.answer_of_failed hfaults]
      simp [Checked.toOption, Except.toOption]

end Exchange

namespace Call

variable {flow : Flow}

/-- The call after a response; one that cannot be taken in changes nothing. -/
def after (c : Call flow) (e : Exchange) : Call flow :=
  match (c.receive e.payload e.statusCode).value with
  | .ok c' => c'
  | .error _ => c

/-- The call after responses in order. -/
def run (c : Call flow) (es : List Exchange) : Call flow := es.foldl after c

/-- The call with an outcome, if there is one, and at a status, if there is one. -/
def update (c : Call flow) (outcome : Option (Outcome flow.Reply))
    (status : Option AttemptStatus) : Call flow where
  envelope := { c.envelope with status := status.getD c.envelope.status }
  request := c.request
  response := outcome.or c.response

/-- Whether a response is taken in does not depend on the call. -/
theorem receive_isOk_iff (c : Call flow) (e : Exchange) :
    (∃ c', (c.receive e.payload e.statusCode).value = .ok c') ↔ (e.outcome? flow).isSome := by
  unfold receive Exchange.outcome?
  by_cases herror : e.IsError
  · rw [if_pos herror, if_pos (show firstErrorStatus ≤ e.statusCode from herror)]
    cases hreply : (ErrorReply.ofPayload e.payload (.int e.statusCode)).value with
    | error f => simp [respondError, Logged.map, hreply, Except.map, Except.toOption]
    | ok r => simp [respondError, Logged.map, hreply, Except.map, Except.toOption]
  · rw [if_neg herror, if_neg (show ¬ firstErrorStatus ≤ e.statusCode from herror)]
    cases hanswer : (flow.answer e.payload).value with
    | error f => simp [respond, Logged.map, hanswer, Except.map, Except.toOption]
    | ok s => simp [respond, Logged.map, hanswer, Except.map, Except.toOption]

/-- One response: its own outcome and its own status, or no change at all. -/
theorem after_eq_update (c : Call flow) (e : Exchange) :
    c.after e = c.update (e.outcome? flow) (e.status? flow) := by
  unfold after receive Exchange.outcome? Exchange.status?
  by_cases herror : e.IsError
  · rw [if_pos herror, if_pos herror, if_pos (show firstErrorStatus ≤ e.statusCode from herror)]
    cases hreply : (ErrorReply.ofPayload e.payload (.int e.statusCode)).value with
    | error f => simp [respondError, Logged.map, hreply, Except.map, Except.toOption, update]
    | ok r => simp [respondError, Logged.map, hreply, Except.map, Except.toOption, update, answer]
  · rw [if_neg herror, if_neg herror, if_neg (show ¬ firstErrorStatus ≤ e.statusCode from herror)]
    rcases (e.payload.read flow.readAnswer).eq_ok_or_failed with ⟨a, ha⟩ | ⟨faults, hfaults⟩
    · obtain ⟨j, hj⟩ := Wire.Payload.exists_of_read ha
      obtain ⟨s, hs⟩ := flow.exists_settle hj
      rw [ha, respond, flow.answer_of_ok ha hs, Checked.toOption, Option.bind_some,
        ← flow.status_of_settle hs]
      exact c.settle_eq s
    · rw [hfaults, respond, flow.answer_of_failed hfaults]
      simp [Checked.toOption, Except.toOption, Logged.map, Except.map, update]

theorem run_cons (c : Call flow) (e : Exchange) (es : List Exchange) :
    c.run (e :: es) = (c.after e).run es := rfl

theorem run_append (c : Call flow) (es fs : List Exchange) :
    c.run (es ++ fs) = (c.run es).run fs := List.foldl_append

theorem update_update (c : Call flow) (r r' : Option (Outcome flow.Reply))
    (s s' : Option AttemptStatus) :
    (c.update r s).update r' s' = c.update (r'.or r) (s'.or s) := by
  cases r' <;> cases s' <;> rfl

theorem getLast?_filterMap_cons {α β : Type} (f : α → Option β) (a : α) (as : List α) :
    ((a :: as).filterMap f).getLast? = ((as.filterMap f).getLast?).or (f a) := by
  cases hf : f a with
  | none => rw [List.filterMap_cons_none hf, Option.or_none]
  | some b =>
    rw [List.filterMap_cons_some hf, List.getLast?_cons]
    cases (as.filterMap f).getLast? <;> rfl

/-- A whole run: the last outcome and the last status of its responses. -/
theorem run_eq_update (c : Call flow) (es : List Exchange) :
    c.run es = c.update (es.filterMap (·.outcome? flow)).getLast?
      (es.filterMap (·.status? flow)).getLast? := by
  induction es generalizing c with
  | nil => rfl
  | cons e es ih =>
    rw [run_cons, ih, after_eq_update, update_update, getLast?_filterMap_cons,
      getLast?_filterMap_cons]

theorem after_after (c : Call flow) (e : Exchange) : (c.after e).after e = c.after e := by
  rw [after_eq_update, after_eq_update, update_update, Option.or_self, Option.or_self]

theorem after_of_outcome?_eq_none (c : Call flow) {e : Exchange} (h : e.outcome? flow = none) :
    c.after e = c := by
  have hstatus : e.status? flow = none := by
    rw [← Option.not_isSome_iff_eq_none, Exchange.status?_isSome_iff, h]
    simp
  rw [after_eq_update, h, hstatus]
  rfl

/-- After any run, the response is that of the last exchange that was taken in, made from
that exchange alone, and the status is the one that the last answer about a payment moved
to; nothing else has changed. So exchanges that fail may come anywhere, and each
exchange may be repeated at once, without any difference. -/
theorem run_law (c : Call flow) (es : List Exchange) :
    c.run es =
        { envelope := { c.envelope with
            status := (es.filterMap (·.status? flow)).getLast?.getD c.envelope.status }
          request := c.request
          response := (es.filterMap (·.outcome? flow)).getLast?.or c.response } ∧
      (∀ (d : Call flow) (e : Exchange),
        (∃ d', (d.receive e.payload e.statusCode).value = .ok d') ↔ (e.outcome? flow).isSome) ∧
      (∀ e : Exchange, (e.status? flow).isSome ↔
        (e.outcome? flow).isSome ∧ e.statusCode < 400 ∧ ¬ flow.IsRefund) ∧
      (flow.IsRefund → (c.run es).envelope.status = c.envelope.status) ∧
      ∀ (pre post : List Exchange) (e : Exchange),
        c.run (pre ++ e :: e :: post) = c.run (pre ++ e :: post) ∧
          ∀ (d : Call flow) (f : Failure), (d.receive e.payload e.statusCode).value = .error f →
            c.run (pre ++ e :: post) = c.run (pre ++ post) := by
  have hstatus (e : Exchange) : (e.status? flow).isSome ↔
      (e.outcome? flow).isSome ∧ e.statusCode < 400 ∧ ¬ flow.IsRefund := by
    rw [e.status?_isSome_iff flow]
    simp [Exchange.IsError, firstErrorStatus]
  refine ⟨c.run_eq_update es, receive_isOk_iff, hstatus, ?_, ?_⟩
  · intro hrefund
    have hnone : es.filterMap (·.status? flow) = [] := by
      rw [List.filterMap_eq_nil_iff]
      intro e _
      rw [← Option.not_isSome_iff_eq_none, hstatus]
      exact fun h => h.2.2 hrefund
    rw [run_eq_update, hnone]
    rfl
  · intro pre post e
    constructor
    · rw [run_append, run_append, run_cons, run_cons, run_cons, after_after]
    · intro d f hfailed
      have hnone : e.outcome? flow = none := by
        rw [← Option.not_isSome_iff_eq_none, ← receive_isOk_iff d]
        rintro ⟨d', hd'⟩
        rw [hfailed] at hd'
        exact absurd hd' (by simp)
      rw [run_append, run_append, run_cons, after_of_outcome?_eq_none _ hnone]

end Call

end PaymentConnector
