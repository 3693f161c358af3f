import PaymentConnector.Proofs.DumpLimits
import PaymentConnector.Proofs.FittingNumbers
import PaymentConnector.Proofs.InputParts
import PaymentConnector.Proofs.ReceivedTexts

/-!
Dumps that can be written. A dump holds texts, tokens, numbers that were read and what it shows
of dictionaries, under keys of its own. So what is to be shown of a call that was read from a
writable value is writable, three levels deeper, and a response keeps it so. The dictionaries
are parts of what is shown; so there is a dump of it if it is no deeper than a dump goes.
-/

namespace PaymentConnector

open Json

variable {α : Type} {n : Nat}

/-! Parts of objects -/

namespace Json

/-- The values of a writable object are writable. -/
theorem Writable.of_get? {o : Object} {key : String} {j : Json} (ho : (obj o).Writable n)
    (hj : o.get? key = some j) : j.Writable n := by
  cases n with
  | zero => exact absurd ho Writable.not_obj_zero
  | succ n => exact ((Writable.obj_iff.mp ho).2 _ (mem_of_get? hj)).mono (Nat.le_succ n)

@[simp] theorem writable_ofToken [Vocabulary α] (a : α) : (ofToken a).Writable n := .str _

@[simp] theorem writable_ofOption_iff {write : α → Json} {a : Option α} :
    (ofOption write a).Writable n ↔ ∀ x ∈ a, (write x).Writable n := by
  cases a <;> simp [ofOption]

end Json

/-- What is read from a writable value is dumped as a writable value. -/
def Reader.Writes (read : Reader α) (dump : α → Json) (n m : Nat) : Prop :=
  ∀ j a, j.Writable n → read j = .ok a → (dump a).Writable m

namespace Object

variable {o : Object} {key : String} {read : Reader α} {dump : α → Json} {m : Nat}

theorem writable_of_required (hread : read.Writes dump n m) (ho : (obj o).Writable n) {a : α}
    (h : o.required key read = .ok a) : (dump a).Writable m := by
  obtain ⟨j, hj, ha⟩ := required_eq_ok_iff.mp h
  exact hread j a (ho.of_get? hj) ha

theorem writable_of_optional (hread : read.Writes dump n m) (ho : (obj o).Writable n)
    {a : Option α} (h : o.optional key read = .ok a) : (ofOption dump a).Writable m := by
  rcases optional_eq_ok_iff.mp h with ⟨-, rfl⟩ | ⟨j, x, hj, -, hx, rfl⟩
  · exact .null
  · exact hread j x (ho.of_get? hj) hx

theorem fitsDigits_of_required (ho : (obj o).Writable n) {k : Nat}
    (h : o.required key readNatural = .ok k) : FitsDigits k := by
  obtain ⟨j, hj, hk⟩ := required_eq_ok_iff.mp h
  exact fitsDigits_of_readNatural (ho.of_get? hj).numbersFit hk

end Object

theorem writes_readDictionary : Reader.Writes readDictionary Object.tree n n := by
  intro j o hj ho
  cases j with
  | obj o' =>
    obtain rfl := Checked.ok.inj ho
    exact hj.finite
  | _ => exact absurd ho (by simp [readDictionary, Checked.fail])

/-! Records without numbers and dictionaries -/

@[simp] theorem Secret.writable_dump (s : Secret) : s.dump.Writable n := .str _

theorem ResourceId.writable_dump (r : ResourceId) : r.dump.Writable (n + 1) := by
  simp [dump, Writable.obj_iff]

theorem Mandate.writable_dump (m : Mandate) : m.dump.Writable (n + 1) := by
  simp [dump, Writable.obj_iff]

theorem Card.writable_dump (c : Card) : c.dump.Writable (n + 1) := by
  simp [dump, Writable.obj_iff]

theorem Address.writable_dump (a : Address) : a.dump.Writable (n + 1) := by
  simp [dump, Writable.obj_iff]

theorem Contact.writable_dump (c : Contact) : c.dump.Writable (n + 2) := by
  simp [dump, Writable.obj_iff, Address.writable_dump]

theorem Credentials.writable_dump (c : Credentials) : c.dump.Writable (n + 1) := by
  cases c <;> simp [dump, keys, tagKey, Writable.obj_iff]

theorem RefundReply.writable_dump (r : RefundReply) : r.dump.Writable (n + 1) := by
  simp [dump, Writable.obj_iff]

theorem Envelope.writable_of_mem_dumpEntries (e : Envelope) :
    ∀ entry ∈ e.dumpEntries, entry.2.Writable (n + 2) := by
  simp [dumpEntries, Contact.writable_dump, Credentials.writable_dump]

/-! Requests -/

theorem PaymentMethod.writable_tree {p : PaymentMethod} (h : p.details.tree.Writable (n + 1)) :
    p.tree.Writable (n + 2) := by
  simp [tree, Writable.obj_iff, Card.writable_dump, h]

theorem PaymentMethod.writes_read : Reader.Writes read tree (n + 1) (n + 2) := by
  intro j p hj h
  obtain ⟨o, rfl, hfields⟩ := Reader.object_eq_ok_iff.mp h
  rcases (readFields o).eq_ok_or_failed with ⟨⟨kind, card, details⟩, hparts⟩ | ⟨faults, hfaults⟩
  · rw [hparts, Checked.andThen, Checked.map_eq_ok_iff] at hfields
    obtain ⟨instrument, -, rfl⟩ := hfields
    simp only [readFields, Checked.map_eq_map, Checked.seq_eq_app, Checked.app_eq_ok_iff,
      Checked.map_eq_ok_iff] at hparts
    obtain ⟨-, _, ⟨-, _, ⟨_, -, rfl⟩, -, rfl⟩, hdetails, hmk⟩ := hparts
    obtain ⟨-, -, rfl⟩ := Prod.mk.inj hmk
    apply writable_tree
    rcases Object.defaulted_eq_ok_iff.mp hdetails with ⟨-, rfl⟩ | ⟨k, hk, hread⟩
    · exact Writable.obj_iff.mpr (by simp [finiteEntries])
    · exact writes_readDictionary k _ (hj.of_get? hk) hread
  · simp [hfaults, Checked.andThen] at hfields

theorem AuthorizeData.writable_tree {d : AuthorizeData} (hamount : FitsDigits d.amount)
    (hmethod : d.method.tree.Writable (n + 2)) : d.tree.Writable (n + 3) := by
  simp [tree, Writable.obj_iff, hamount, hmethod, Mandate.writable_dump]

theorem AuthorizeData.writes_read : Reader.Writes read tree (n + 1) (n + 3) := by
  intro j d hj h
  obtain ⟨o, rfl, hfields⟩ := Reader.object_eq_ok_iff.mp h
  simp only [Checked.map_eq_map, Checked.seq_eq_app, Checked.app_eq_ok_iff,
    Checked.map_eq_ok_iff] at hfields
  obtain ⟨-, _, ⟨-, _, ⟨-, _, ⟨-, _, ⟨-, method, ⟨-, _, ⟨amount, hamount, rfl⟩, -, rfl⟩,
    hmethod, rfl⟩, -, rfl⟩, -, rfl⟩, -, rfl⟩, -, rfl⟩ := hfields
  exact writable_tree (Object.fitsDigits_of_required hj hamount)
    (Object.writable_of_required PaymentMethod.writes_read hj hmethod)

theorem CaptureData.writable_dump {d : CaptureData} (hamount : FitsDigits d.amount) :
    d.dump.Writable (n + 1) := by
  simp [dump, Writable.obj_iff, hamount]

theorem CaptureData.writes_read {m : Nat} : Reader.Writes read dump n (m + 1) := by
  intro j d hj h
  obtain ⟨o, rfl, hfields⟩ := Reader.object_eq_ok_iff.mp h
  simp only [Checked.map_eq_map, Checked.seq_eq_app, Checked.app_eq_ok_iff,
    Checked.map_eq_ok_iff] at hfields
  obtain ⟨-, _, ⟨-, _, ⟨amount, hamount, rfl⟩, -, rfl⟩, -, rfl⟩ := hfields
  exact writable_dump (Object.fitsDigits_of_required hj hamount)

theorem CancelData.writable_dump (d : CancelData) : d.dump.Writable (n + 1) := by
  simp [dump, Writable.obj_iff]

theorem SyncData.writable_dump (d : SyncData) : d.dump.Writable (n + 2) := by
  simp [dump, Writable.obj_iff, ResourceId.writable_dump]

theorem RefundData.writable_dump {d : RefundData} (hamount : FitsDigits d.amount) :
    d.dump.Writable (n + 1) := by
  simp [dump, Writable.obj_iff, hamount]

theorem RefundData.writes_read {m : Nat} : Reader.Writes read dump n (m + 1) := by
  intro j d hj h
  obtain ⟨o, rfl, hfields⟩ := Reader.object_eq_ok_iff.mp h
  simp only [Checked.map_eq_map, Checked.seq_eq_app, Checked.app_eq_ok_iff,
    Checked.map_eq_ok_iff] at hfields
  obtain ⟨-, _, ⟨-, _, ⟨-, _, ⟨-, amount, ⟨-, _, ⟨_, -, rfl⟩, -, rfl⟩, hamount, rfl⟩, -, rfl⟩,
    -, rfl⟩, -, rfl⟩ := hfields
  exact writable_dump (Object.fitsDigits_of_required hj hamount)

theorem Flow.writes_readRequest (flow : Flow) :
    Reader.Writes flow.readRequest flow.requestTree (n + 1) (n + 3) := by
  cases flow with
  | authorize => exact AuthorizeData.writes_read
  | capture => exact CaptureData.writes_read
  | void => exact fun _ d _ _ => CancelData.writable_dump d
  | psync => exact fun _ d _ _ => SyncData.writable_dump d
  | refund => exact RefundData.writes_read
  | rsync => exact RefundData.writes_read

/-! Replies -/

namespace RedirectForm

theorem keys_of_readEntries {o : Object} {fields : List (String × String)}
    (h : readEntries o = .ok fields) : fields.map Prod.fst = o.map Prod.fst := by
  induction o generalizing fields with
  | nil =>
    obtain rfl := Checked.ok.inj h
    rfl
  | cons e o ih =>
    obtain ⟨key, j⟩ := e
    simp only [readEntries, Checked.map_eq_map, Checked.seq_eq_app, Checked.app_eq_ok_iff,
      Checked.map_eq_ok_iff] at h
    obtain ⟨-, rest, ⟨_, -, rfl⟩, hrest, rfl⟩ := h
    rw [List.map_cons, List.map_cons, ih hrest]

theorem writable_dump {f : RedirectForm} (h : (f.fields.map Prod.fst).Nodup) :
    f.dump.Writable (n + 2) := by
  refine Writable.obj_iff.mpr ⟨by simp, ?_⟩
  simp only [List.forall_mem_cons]
  refine ⟨.str _, writable_ofToken _, Writable.obj_iff.mpr ⟨?_, ?_⟩, by simp⟩
  · rw [List.map_map]
    exact h
  · intro e he
    obtain ⟨⟨key, value⟩, -, rfl⟩ := List.mem_map.mp he
    exact .str value

theorem writes_read : Reader.Writes read dump (n + 1) (n + 2) := by
  intro j f hj h
  obtain ⟨o, rfl, hfields⟩ := Reader.object_eq_ok_iff.mp h
  simp only [Checked.map_eq_map, Checked.seq_eq_app, Checked.app_eq_ok_iff,
    Checked.map_eq_ok_iff] at hfields
  obtain ⟨-, fields, ⟨-, _, ⟨_, -, rfl⟩, -, rfl⟩, hentries, rfl⟩ := hfields
  apply writable_dump
  rcases Object.defaulted_eq_ok_iff.mp hentries with ⟨-, rfl⟩ | ⟨k, hk, hread⟩
  · exact List.nodup_nil
  · obtain ⟨entries, rfl, hfields⟩ := Reader.object_eq_ok_iff.mp hread
    rw [keys_of_readEntries hfields]
    exact (Writable.obj_iff.mp (hj.of_get? hk)).1

end RedirectForm

namespace PaymentReply

theorem writable_tree {r : PaymentReply}
    (hredirection : (ofOption RedirectForm.dump r.redirection).Writable (n + 2))
    (hmandate : (ofOption Object.tree r.mandateReference).Writable (n + 2))
    (hmetadata : (ofOption Object.tree r.connectorMetadata).Writable (n + 2))
    (hcharges : (ofOption Object.tree r.charges).Writable (n + 2)) : r.tree.Writable (n + 3) := by
  refine Writable.obj_iff.mpr ⟨by simp, ?_⟩
  simp only [List.forall_mem_cons]
  exact ⟨r.resource.writable_dump, hredirection, hmandate, hmetadata, by simp, by simp, by simp,
    hcharges, by simp⟩

theorem writes_read : Reader.Writes read tree (n + 1) (n + 3) := by
  intro j r hj h
  obtain ⟨o, rfl, hfields⟩ := Reader.object_eq_ok_iff.mp h
  simp only [Checked.map_eq_map, Checked.seq_eq_app, Checked.app_eq_ok_iff,
    Checked.map_eq_ok_iff] at hfields
  obtain ⟨-, charges, ⟨-, _, ⟨-, _, ⟨-, _, ⟨-, metadata, ⟨-, mandate, ⟨-, redirection, ⟨_, -, rfl⟩,
    hredirection, rfl⟩, hmandate, rfl⟩, hmetadata, rfl⟩, -, rfl⟩, -, rfl⟩, -, rfl⟩, hcharges,
    rfl⟩ := hfields
  have hdictionary {key : String} {entries : Option Object}
      (hread : Object.optional o key readDictionary = .ok entries) :
      (ofOption Object.tree entries).Writable (n + 2) :=
    (Object.writable_of_optional writes_readDictionary hj hread).mono (Nat.le_succ _)
  exact writable_tree (Object.writable_of_optional RedirectForm.writes_read hj hredirection)
    (hdictionary hmandate) (hdictionary hmetadata) (hdictionary hcharges)

end PaymentReply

theorem ErrorReply.writable_dump {r : ErrorReply} (h : FitsDigits r.statusCode) :
    r.dump.Writable (n + 1) := by
  simp [dump, Writable.obj_iff, h]

theorem ErrorReply.writes_read {m : Nat} : Reader.Writes read dump n (m + 1) := by
  intro j r hj h
  obtain ⟨o, rfl, hfields⟩ := Reader.object_eq_ok_iff.mp h
  simp only [Checked.map_eq_map, Checked.seq_eq_app, Checked.app_eq_ok_iff,
    Checked.map_eq_ok_iff] at hfields
  obtain ⟨-, _, ⟨-, _, ⟨-, status, ⟨-, _, ⟨-, _, ⟨_, -, rfl⟩, -, rfl⟩, -, rfl⟩, hstatus, rfl⟩,
    -, rfl⟩, -, rfl⟩ := hfields
  obtain ⟨k, hk, hread⟩ := Object.required_eq_ok_iff.mp hstatus
  exact writable_dump (fitsDigits_of_readInteger (hj.of_get? hk).numbersFit hread)

theorem Flow.writes_readReply (flow : Flow) :
    Reader.Writes flow.readReply flow.replyTree (n + 1) (n + 3) := by
  cases flow with
  | refund => exact fun _ r _ _ => RefundReply.writable_dump r
  | rsync => exact fun _ r _ _ => RefundReply.writable_dump r
  | _ => exact PaymentReply.writes_read

theorem Outcome.writes_read (flow : Flow) (origin : Origin) :
    Reader.Writes (read flow origin) (tree flow) (n + 1) (n + 3) := by
  intro j x hj h
  cases hreply : flow.readReply j with
  | ok r =>
    have hr : (flow.replyTree r).Writable (n + 3) := flow.writes_readReply j r hj hreply
    cases herror : ErrorReply.read j with
    | ok e =>
      have he : e.dump.Writable (n + 3) := ErrorReply.writes_read j e hj herror
      simp only [read, hreply, herror] at h
      split at h
      · obtain rfl := Checked.ok.inj h
        exact he
      · obtain rfl := Checked.ok.inj h
        exact hr
    | failed faults =>
      simp only [read, hreply, herror, Checked.ok.injEq] at h
      subst h
      exact hr
  | failed faults =>
    cases herror : ErrorReply.read j with
    | ok e =>
      simp only [read, hreply, herror, Checked.ok.injEq] at h
      subst h
      exact ErrorReply.writes_read j e hj herror
    | failed more => simp [read, hreply, herror] at h

/-! Calls -/

namespace Call

variable {flow : Flow}

theorem writable_tree_iff {c : Call flow} :
    c.tree.Writable (n + 4) ↔ (flow.requestTree c.request).Writable (n + 3) ∧
      (ofOption (Outcome.tree flow) c.response).Writable (n + 3) := by
  have hkeys : (c.envelope.dumpEntries.map Prod.fst ++ ["request", "response"]).Nodup := by
    simp [Envelope.dumpEntries]
  have henvelope := c.envelope.writable_of_mem_dumpEntries (n := n + 1)
  rw [tree, Writable.obj_iff, List.map_append, List.forall_mem_append]
  constructor
  · rintro ⟨-, -, h⟩
    exact ⟨h _ List.mem_cons_self, h _ (List.mem_cons_of_mem _ List.mem_cons_self)⟩
  · rintro ⟨hrequest, hresponse⟩
    refine ⟨hkeys, henvelope, ?_⟩
    simp only [List.forall_mem_cons]
    exact ⟨hrequest, hresponse, by simp⟩

/-- A call that was read from a writable value can be shown and written. -/
theorem writable_tree_of_read {origin : Origin} {j : Json} {c : Call flow}
    (hj : j.Writable (n + 1)) (h : read flow origin j = .ok c) : c.tree.Writable (n + 4) := by
  obtain ⟨o, rfl, hfields⟩ := Reader.object_eq_ok_iff.mp h
  simp only [Checked.map_eq_map, Checked.seq_eq_app, Checked.app_eq_ok_iff,
    Checked.map_eq_ok_iff] at hfields
  obtain ⟨-, response, ⟨-, request, ⟨_, -, rfl⟩, hrequest, rfl⟩, hresponse, rfl⟩ := hfields
  exact writable_tree_iff.mpr ⟨Object.writable_of_required flow.writes_readRequest hj hrequest,
    Object.writable_of_optional (Outcome.writes_read flow origin) hj hresponse⟩

end Call

/-! Dictionaries -/

theorem Json.Part.of_get? {o : Object} (key : String) {j k : Json} (hj : o.get? key = some j)
    (hk : Part k j) : Part k (obj o) := .entry (mem_of_get? hj) hk

/-- The dictionaries of a request are shown in it. -/
theorem Flow.part_requestTree (flow : Flow) {r : flow.Request} {o : Object}
    (ho : o ∈ flow.requestDictionaries r) : Part o.tree (flow.requestTree r) := by
  cases flow with
  | authorize =>
    obtain rfl := List.mem_singleton.mp ho
    exact .of_get? "payment_method_data" rfl (.of_get? "details" rfl (.self _))
  | _ => exact absurd ho List.not_mem_nil

theorem PaymentReply.part_tree {r : PaymentReply} {o : Object} (ho : o ∈ r.dictionaries) :
    Part o.tree r.tree := by
  simp only [dictionaries, List.mem_append, Option.mem_toList] at ho
  have hshown {x : Option Object} (hx : x = some o) : Part o.tree (ofOption Object.tree x) := by
    rw [hx]
    exact .self _
  rcases ho with (ho | ho) | ho
  · exact .of_get? "mandate_reference" rfl (hshown ho)
  · exact .of_get? "connector_metadata" rfl (hshown ho)
  · exact .of_get? "charges" rfl (hshown ho)

theorem Flow.part_replyTree (flow : Flow) {r : flow.Reply} {o : Object}
    (ho : o ∈ flow.replyDictionaries r) : Part o.tree (flow.replyTree r) := by
  cases flow with
  | refund => exact absurd ho List.not_mem_nil
  | rsync => exact absurd ho List.not_mem_nil
  | _ => exact PaymentReply.part_tree ho

namespace Call

variable {flow : Flow} {c : Call flow}

theorem part_tree {o : Object} (ho : o ∈ c.dictionaries) : Part o.tree c.tree := by
  rcases List.mem_append.mp ho with ho | ho
  · exact .entry (List.mem_append_right _ List.mem_cons_self) (flow.part_requestTree ho)
  · cases hresponse : c.response with
    | none =>
      rw [hresponse] at ho
      exact absurd ho List.not_mem_nil
    | some x =>
      rw [hresponse] at ho
      cases x with
      | reply r =>
        refine .entry (List.mem_append_right _ (List.mem_cons_of_mem _ List.mem_cons_self)) ?_
        rw [hresponse]
        exact flow.part_replyTree ho
      | error e => exact absurd ho List.not_mem_nil

/-- There is a dump of a call if nothing in it is deeper than a dump goes. -/
theorem dump_of_writable_tree {m : Nat} (h : c.tree.Writable m) (hm : m ≤ levelLimit) :
    c.dump = .ok c.tree := by
  refine dumpOf_eq_ok_iff.mpr ⟨fun o ho => Object.isShallow_of_depth_le ?_, rfl⟩
  calc (obj o).depth
      = o.tree.depth := (depth_finite _).symm
    _ ≤ c.tree.depth := (part_tree ho).depth_le
    _ ≤ levelLimit := Nat.le_trans h.depth_le hm

end Call

/-! Responses -/

theorem PaymentReply.writable_ofTransaction (id : String) (order : Option String)
    {redirection : Option RedirectForm}
    (h : (ofOption RedirectForm.dump redirection).Writable (n + 2)) :
    (ofTransaction id order redirection).tree.Writable (n + 3) :=
  writable_tree h .null .null .null

theorem RedirectForm.writable_ofAddress {address : List Char} {method : HttpMethod}
    {f : RedirectForm} (h : ofAddress address method = .ok f) : f.dump.Writable (n + 2) := by
  unfold ofAddress at h
  cases hparts : Url.Parts.split address with
  | error fault => simp [hparts, Except.map] at h
  | ok parts =>
    simp only [hparts, Except.map, Except.ok.injEq] at h
    subst h
    exact writable_dump (Entries.nodup_keys_ofList _)

theorem Wire.PaymentResponse.writable_redirection {r : PaymentResponse}
    {form : Option RedirectForm} (h : r.redirection = .ok form) :
    (ofOption RedirectForm.dump form).Writable (n + 2) := by
  unfold redirection at h
  split at h
  · obtain rfl := Except.ok.inj h
    exact .null
  · rename_i url _
    cases hform : RedirectForm.ofAddress url.text .get with
    | error fault => simp [hform, Except.map] at h
    | ok f =>
      simp only [hform, Except.map, Except.ok.injEq] at h
      subst h
      exact RedirectForm.writable_ofAddress hform

theorem Flow.writable_settle (flow : Flow) {a : flow.Answer} {s : Settlement flow}
    (h : flow.settle a = .ok s) : (flow.replyTree s.reply).Writable (n + 3) := by
  cases flow with
  | authorize =>
    simp only [settle, Wire.PaymentResponse.settle] at h
    cases hform : Wire.PaymentResponse.redirection a with
    | error fault => simp [hform, Except.map] at h
    | ok form =>
      simp only [hform, Except.map, Except.ok.injEq] at h
      subst h
      exact PaymentReply.writable_ofTransaction _ _
        (Wire.PaymentResponse.writable_redirection hform)
  | capture =>
    obtain rfl := Except.ok.inj h
    exact PaymentReply.writable_ofTransaction _ _ .null
  | void =>
    obtain rfl := Except.ok.inj h
    exact PaymentReply.writable_ofTransaction _ _ .null
  | psync =>
    obtain rfl := Except.ok.inj h
    exact PaymentReply.writable_ofTransaction _ _ .null
  | refund =>
    obtain rfl := Except.ok.inj h
    exact RefundReply.writable_dump _
  | rsync =>
    obtain rfl := Except.ok.inj h
    exact RefundReply.writable_dump _

/-- A response keeps a call writable. -/
theorem Call.Receives.writable_tree {flow : Flow} {c c' : Call flow} {p : Wire.Payload}
    {statusCode : Int} (h : c.Receives p statusCode c') (hstatus : FitsDigits statusCode)
    (hc : c.tree.Writable (n + 4)) : c'.tree.Writable (n + 4) := by
  have hrequest := (writable_tree_iff.mp hc).1
  cases h with
  | reply hlow hanswer =>
    -- the envelope may change its status, but the request stays and the reply is new
    obtain ⟨a, s, -, hs, rfl⟩ := respond_eq_ok_iff.mp hanswer
    rw [settle_eq]
    exact writable_tree_iff.mpr ⟨hrequest, flow.writable_settle hs⟩
  | error hhigh hanswer =>
    obtain ⟨a, -, -, rfl⟩ := ErrorReply.ofPayload_eq_ok_iff.mp hanswer
    exact writable_tree_iff.mpr ⟨hrequest, ErrorReply.writable_dump hstatus⟩

end PaymentConnector
