import Mathlib.Data.List.ReduceOption
import PaymentConnector.Proofs.EndpointSegments
import PaymentConnector.Proofs.InputParts
import PaymentConnector.Proofs.ReturnedIdentifiers

/-!
The addresses of requests. An address is the base, which comes from the first text that is given
and not empty, and below it a path that tells the flow and the name in the body. Below one base
the method and the path tell requests apart, whatever characters the names are made of.
-/

namespace PaymentConnector

open Text

/-! Bases -/

namespace Settings

/-- The first text that is there and not empty. -/
def firstGiven (texts : List (Option String)) : Option String :=
  texts.reduceOption.find? fun s => decide (s ≠ "")

theorem given?_none : given? none = none := rfl

theorem given?_empty : given? (some "") = none := rfl

theorem given?_some {s : String} (hs : s ≠ "") : given? (some s) = some s := by
  rw [given?, if_neg hs]

theorem value_choose_of_given {argument : Option String} {base : String}
    (h : given? argument = some base) (environment : Option String) :
    (choose argument environment).value = ofBase base := by
  rw [choose, h]
  rfl

theorem value_choose_of_not_given {argument : Option String} (h : given? argument = none)
    (environment : Option String) :
    (choose argument environment).value = ofEnvironment environment := by
  rw [choose, h]

theorem firstGiven_cons (text : Option String) (texts : List (Option String)) :
    firstGiven (text :: texts) = (given? text).or (firstGiven texts) := by
  cases text with
  | none => rw [firstGiven, List.reduceOption_cons_of_none, given?_none, Option.none_or, firstGiven]
  | some s =>
    rw [firstGiven, List.reduceOption_cons_of_some]
    by_cases hs : s = ""
    · subst hs
      rw [List.find?_cons_of_neg (by simp), given?_empty, Option.none_or, firstGiven]
    · rw [List.find?_cons_of_pos (by simpa using hs), given?_some hs, Option.some_or]

/-- The argument comes first, then the environment, then the sandbox. -/
theorem exists_base (argument environment : Option String) :
    ∃ base, firstGiven [argument, environment, some sandbox] = some base ∧
      (choose argument environment).value = ofBase base := by
  have hsandbox : firstGiven [some sandbox] = some sandbox := by decide
  rw [firstGiven_cons, firstGiven_cons, hsandbox]
  cases hargument : given? argument with
  | some base => exact ⟨base, rfl, value_choose_of_given hargument environment⟩
  | none =>
    rw [value_choose_of_not_given hargument, ofEnvironment]
    cases given? environment with
    | some base => exact ⟨base, rfl, rfl⟩
    | none => exact ⟨sandbox, rfl, rfl⟩

theorem ofBase_append_slash {base : String} (h : base.toList.getLast? ≠ some '/') :
    ofBase base = ofBase (base ++ "/") := by
  have hlast : (base ++ "/").toList.getLast? = some '/' := by simp
  rw [ofBase, ofBase, withSlash, withSlash, if_neg h, if_pos hlast]

/-- A base without a slash at its end and the base with one are the same, as an argument and in
the environment. -/
theorem choose_append_slash {base : String} (hne : base ≠ "")
    (hslash : base.toList.getLast? ≠ some '/') :
    (∀ other, (choose (some base) other).value = (choose (some (base ++ "/")) other).value) ∧
      ∀ absent, given? absent = none →
        (choose absent (some base)).value = (choose absent (some (base ++ "/"))).value := by
  have hgiven := given?_some hne
  have hgiven' : given? (some (base ++ "/")) = some (base ++ "/") := given?_some (by simp)
  have hbases := ofBase_append_slash hslash
  constructor
  · intro other
    rw [value_choose_of_given hgiven, value_choose_of_given hgiven', hbases]
  · intro absent habsent
    rw [value_choose_of_not_given habsent, value_choose_of_not_given habsent, ofEnvironment,
      ofEnvironment, hgiven, hgiven', Option.getD_some, Option.getD_some, hbases]

end Settings

/-! Paths -/

namespace Flow

/-- The key of the name in a body, in the flows that ask for one payment or one refund. -/
def nameKey? : Flow → Option String
  | void => some "cancel_id"
  | psync => some "authz_id"
  | rsync => some "refund_id"
  | _ => none

/-- The method and the path of a request of each flow, with the name that the wire form of the
body holds. -/
inductive Routes (body : Json) : Flow → HttpMethod → String → Prop
  | authorize : Routes body authorize .post "secure_payments"
  | capture : Routes body capture .post "payments"
  | refund : Routes body refund .post "refunds"
  | void {id : String} (h : body.get? "cancel_id" = some (.str id)) :
      Routes body void .post ("payments/" ++ id ++ "/cancel")
  | psync {id : String} (h : body.get? "authz_id" = some (.str id)) :
      Routes body psync .get ("payments/" ++ id ++ "/status")
  | rsync {id : String} (h : body.get? "refund_id" = some (.str id)) :
      Routes body rsync .get ("refunds/" ++ id ++ "/status")

theorem routes_route (flow : Flow) (body : flow.Body) :
    Routes (flow.wireBody body) flow (flow.route body).1 (flow.route body).2 := by
  cases flow with
  | authorize => exact .authorize
  | capture => exact .capture
  | void => exact .void rfl
  | psync => exact .psync rfl
  | refund => exact .refund
  | rsync => exact .rsync rfl

/-- The method of a flow, the collection that its path starts with, and whether more follows. -/
def signature : Flow → HttpMethod × String × Bool
  | authorize => (.post, "secure_payments", false)
  | capture => (.post, "payments", false)
  | void => (.post, "payments", true)
  | psync => (.get, "payments", true)
  | refund => (.post, "refunds", false)
  | rsync => (.get, "refunds", true)

theorem signature_injective {flow flow' : Flow} (h : flow.signature = flow'.signature) :
    flow = flow' := by
  cases flow <;> cases flow' <;> first | rfl | exact absurd h (by decide)

theorem method_route (flow : Flow) (body : flow.Body) :
    (flow.route body).1 = flow.signature.1 := by
  cases flow <;> rfl

theorem isSome_target? (flow : Flow) (body : flow.Body) :
    (flow.target? body).isSome = flow.signature.2.2 := by
  cases flow <;> rfl

/-- What follows the collection in a path; the characters of a name come no earlier. -/
def afterCollection : Option Target → List Char
  | none => []
  | some t => '/' :: (t.id.toList ++ '/' :: t.action.toList)

theorem free_collection (flow : Flow) : Free (· = '/') flow.signature.2.1.toList := by
  cases flow <;> decide

theorem cut_route (flow : Flow) (body : flow.Body) :
    cut (· = '/') (flow.route body).2.toList =
      (flow.signature.2.1.toList, afterCollection (flow.target? body)) := by
  have hpath : (flow.route body).2.toList =
      flow.signature.2.1.toList ++ afterCollection (flow.target? body) := by
    cases htarget : flow.target? body with
    | none =>
      rw [afterCollection, List.append_nil]
      cases flow <;> first | rfl | cases htarget
    | some t =>
      rw [route_of_target? htarget, Target.path]
      cases flow <;> cases htarget <;> rfl
  rw [hpath]
  cases flow.target? body with
  | none => rw [afterCollection, List.append_nil, cut_of_free flow.free_collection]
  | some t => exact cut_append_cons flow.free_collection (by decide)

theorem action_of_target? {flow : Flow} {body body' : flow.Body} {t t' : Target}
    (h : flow.target? body = some t) (h' : flow.target? body' = some t') :
    t.action = t'.action := by
  cases flow <;> cases h <;> cases h' <;> rfl

theorem get?_wireBody {flow : Flow} (body : flow.Body) {key : String}
    (hkey : flow.nameKey? = some key) :
    (flow.wireBody body).get? key = (flow.target? body).map fun t => .str t.id := by
  cases flow <;> cases hkey <;> rfl

theorem exists_target? {flow : Flow} (body : flow.Body) {key : String}
    (hkey : flow.nameKey? = some key) : ∃ t, flow.target? body = some t := by
  cases flow <;> first | exact ⟨_, rfl⟩ | cases hkey

theorem flow_eq_of_route_eq {flow flow' : Flow} {body : flow.Body} {body' : flow'.Body}
    (h : flow.route body = flow'.route body') : flow = flow' := by
  have hmethod : flow.signature.1 = flow'.signature.1 := by
    rw [← method_route flow body, ← method_route flow' body', h]
  have hcut := cut_route flow body
  rw [h, cut_route flow' body'] at hcut
  obtain ⟨hcollection, hrest⟩ := Prod.mk.inj hcut
  have hmore : flow.signature.2.2 = flow'.signature.2.2 := by
    rw [← isSome_target? flow body, ← isSome_target? flow' body']
    cases ht : flow.target? body <;> cases ht' : flow'.target? body'
    · rfl
    · simp [ht, ht', afterCollection] at hrest
    · simp [ht, ht', afterCollection] at hrest
    · rfl
  apply signature_injective
  exact Prod.ext hmethod (Prod.ext (String.toList_inj.mp hcollection.symm) hmore)

/-- Requests of one flow with one path have the same name in their bodies. -/
theorem name_eq_of_route_eq {flow : Flow} {body body' : flow.Body}
    (h : flow.route body = flow.route body') {key : String} (hkey : flow.nameKey? = some key) :
    (flow.wireBody body).get? key = (flow.wireBody body').get? key := by
  have hcut := cut_route flow body
  rw [h, cut_route flow body'] at hcut
  have hrest := (Prod.mk.inj hcut).2
  rw [get?_wireBody body hkey, get?_wireBody body' hkey]
  cases ht : flow.target? body with
  | none =>
    cases ht' : flow.target? body' with
    | none => rfl
    | some t' => simp [ht, ht', afterCollection] at hrest
  | some t =>
    cases ht' : flow.target? body' with
    | none => simp [ht, ht', afterCollection] at hrest
    | some t' =>
      have hid : t'.id.toList = t.id.toList := by
        simpa [ht, ht', afterCollection, action_of_target? ht ht'] using hrest
      rw [Option.map_some, Option.map_some, String.toList_inj.mp hid]

/-- The address of a request whose body has a wire form, below a base that may want a slash. -/
def Addressed (flow : Flow) (body : Json) (base : String) (e : Endpoint) : Prop :=
  ∃ path, flow.Routes body e.method path ∧
    (base.toList.getLast? = some '/' → e.url = base ++ path) ∧
    (base.toList.getLast? ≠ some '/' → e.url = base ++ "/" ++ path)

theorem addressed_endpoint (flow : Flow) (body : flow.Body) (base : String) :
    flow.Addressed (flow.wireBody body) base ((Settings.ofBase base).endpoint body) := by
  refine ⟨(flow.route body).2, flow.routes_route body, ?_, ?_⟩
  · intro hslash
    rw [Settings.endpoint, Settings.ofBase, Settings.withSlash, if_pos hslash]
  · intro hslash
    rw [Settings.endpoint, Settings.ofBase, Settings.withSlash, if_neg hslash]

end Flow

theorem Settings.route_eq_of_endpoint_eq {s : Settings} {flow flow' : Flow} {body : flow.Body}
    {body' : flow'.Body} (h : s.endpoint body = s.endpoint body') :
    flow.route body = flow'.route body' := by
  have hmethod : (flow.route body).1 = (flow'.route body').1 := congrArg Endpoint.method h
  have hurl : s.baseUrl ++ (flow.route body).2 = s.baseUrl ++ (flow'.route body').2 :=
    congrArg Endpoint.url h
  have hpath : s.baseUrl.toList ++ (flow.route body).2.toList =
      s.baseUrl.toList ++ (flow'.route body').2.toList := by
    rw [← String.toList_append, ← String.toList_append, hurl]
  exact Prod.ext hmethod (String.toList_inj.mp (List.append_cancel_left hpath))

namespace Call

variable {flow : Flow} {c : Call flow} {amount : Json} {body : flow.Body}

/-- The identifier of a call, in the flows that ask for one payment or one refund: that of the
transaction, and of a refund the connector's name for it, or the merchant's where that is not given
or empty. -/
inductive Identifies : {flow : Flow} → Call flow → String → Prop
  | void (c : Call .void) : Identifies c c.request.transactionId
  | psync {c : Call .psync} {id : String} (h : c.request.transactionId = .ofTransaction id)
      (hne : id ≠ "") : Identifies c id
  | connector {c : Call .rsync} {id : String} (h : c.request.connectorRefundId = some id)
      (hne : id ≠ "") : Identifies c id
  | merchant {c : Call .rsync} (h : c.request.connectorRefundId ∈ [none, some ""]) :
      Identifies c c.request.refundId

theorem identifies_iff_of_syncBody {c : Call .psync} {body : Wire.SyncRequest}
    (h : c.syncBody = .ok body) {id : String} : c.Identifies id ↔ body.authorizationId = id := by
  obtain ⟨hfound, hne⟩ := syncBody_eq_ok_iff.mp h
  constructor
  · intro hidentifies
    cases hidentifies with
    | psync hid _ => exact Option.some.inj (congrArg ResourceId.value (hfound.symm.trans hid))
  · rintro rfl
    exact .psync hfound hne

theorem identifies_iff_refundSyncBody {c : Call .rsync} {id : String} :
    c.Identifies id ↔ c.refundSyncBody.refundId = id := by
  constructor
  · intro hidentifies
    cases hidentifies with
    | connector hconnector hne =>
      rw [refundSyncBody_of_connectorRefundId hconnector, if_neg hne]
    | merchant hmissing =>
      simp only [List.mem_cons, List.not_mem_nil, or_false] at hmissing
      rcases hmissing with hnone | hempty
      · rw [refundSyncBody, hnone]
      · rw [refundSyncBody_of_connectorRefundId hempty, if_pos rfl]
  · rintro rfl
    cases hconnector : c.request.connectorRefundId with
    | none =>
      rw [refundSyncBody, hconnector]
      exact .merchant (by simp [hconnector])
    | some own =>
      rw [refundSyncBody_of_connectorRefundId hconnector]
      split
      · rename_i hempty
        exact .merchant (by simp [hconnector, hempty])
      · rename_i hne
        exact .connector hconnector hne

/-- The name in the body of a request is the identifier of the call. -/
theorem identifies_iff_of_build (h : (c.build amount).value = .ok body) {id : String} :
    c.Identifies id ↔
      ∃ key, flow.nameKey? = some key ∧ (flow.wireBody body).get? key = some (.str id) := by
  have hnamed (key : String) (name : String) (hkey : flow.nameKey? = some key)
      (hname : (flow.wireBody body).get? key = some (.str name)) :
      (∃ key, flow.nameKey? = some key ∧ (flow.wireBody body).get? key = some (.str id)) ↔
        name = id := by
    simp [hkey, hname]
  cases flow with
  | void =>
    obtain rfl : c.cancelBody = body := Except.ok.inj h
    rw [hnamed "cancel_id" _ rfl rfl]
    constructor
    · rintro ⟨⟩
      rfl
    · rintro rfl
      exact .void c
  | psync =>
    rw [hnamed "authz_id" _ rfl rfl]
    exact identifies_iff_of_syncBody h
  | rsync =>
    obtain rfl : c.refundSyncBody = body := Except.ok.inj h
    rw [hnamed "refund_id" _ rfl rfl]
    exact identifies_iff_refundSyncBody
  | _ =>
    constructor
    · rintro ⟨⟩
    · rintro ⟨key, hkey, -⟩
      cases hkey

/-- Every request that is built has an address: the base, which wants a slash if it does not end
in one, and the path that the flow and the name in the body tell. The name in the body is the
identifier of the call. A request with the same address is of the same flow and of a call with
the same identifier. -/
theorem address_of_build (h : (c.build amount).value = .ok body)
    {argument environment : Option String} {s : Settings}
    (hs : (Settings.choose argument environment).value = s) :
    ∃ e, (c.build amount).value.map s.endpoint = .ok e ∧
      (∃ base, Settings.firstGiven [argument, environment, some Settings.sandbox] = some base ∧
        flow.Addressed (flow.wireBody body) base e) ∧
      (∀ key, flow.nameKey? = some key →
        ∃ id, c.Identifies id ∧ (flow.wireBody body).get? key = some (.str id)) ∧
      (∀ base, base ≠ "" → base.toList.getLast? ≠ some '/' →
        (∀ other, (Settings.choose (some base) other).value.endpoint body =
          (Settings.choose (some (base ++ "/")) other).value.endpoint body) ∧
        ∀ absent, absent = none ∨ absent = some "" →
          (Settings.choose absent (some base)).value.endpoint body =
            (Settings.choose absent (some (base ++ "/"))).value.endpoint body) ∧
      ∀ (flow' : Flow) (c' : Call flow') (amount' : Json),
        (c'.build amount').value.map s.endpoint = .ok e →
          flow' = flow ∧ (∀ id, c'.Identifies id ↔ c.Identifies id) ∧
            ∃ body', (c'.build amount').value = .ok body' ∧
              ∀ key, flow.nameKey? = some key →
                (flow'.wireBody body').get? key = (flow.wireBody body).get? key := by
  subst hs
  obtain ⟨base, hbase, hsettings⟩ := Settings.exists_base argument environment
  refine ⟨(Settings.choose argument environment).value.endpoint body, ?_, ⟨base, hbase, ?_⟩, ?_,
    ?_, ?_⟩
  · rw [h]
    rfl
  · rw [hsettings]
    exact flow.addressed_endpoint body base
  · intro key hkey
    obtain ⟨t, ht⟩ := Flow.exists_target? body hkey
    have hname : (flow.wireBody body).get? key = some (.str t.id) := by
      rw [Flow.get?_wireBody body hkey, ht, Option.map_some]
    exact ⟨t.id, (identifies_iff_of_build h).mpr ⟨key, hkey, hname⟩, hname⟩
  · intro base hne hslash
    obtain ⟨hargument, henvironment⟩ := Settings.choose_append_slash hne hslash
    constructor
    · intro other
      rw [hargument other]
    · intro absent habsent
      rcases habsent with rfl | rfl
      · rw [henvironment none Settings.given?_none]
      · rw [henvironment (some "") Settings.given?_empty]
  · intro flow' c' amount' hsame
    cases hbuild : (c'.build amount').value with
    | error f =>
      rw [hbuild] at hsame
      cases hsame
    | ok body' =>
      rw [hbuild] at hsame
      have hroute := Settings.route_eq_of_endpoint_eq (Except.ok.inj hsame)
      obtain rfl := Flow.flow_eq_of_route_eq hroute
      have hname (key : String) (hkey : flow'.nameKey? = some key) :=
        Flow.name_eq_of_route_eq hroute hkey
      refine ⟨rfl, fun id => ?_, body', rfl, hname⟩
      rw [identifies_iff_of_build hbuild, identifies_iff_of_build h]
      refine exists_congr fun key => and_congr_right fun hkey => ?_
      rw [hname key hkey]

/-- Only cancellations go where the cancellation of a payment goes, whatever its name looks like;
here an empty argument leaves the base to the environment. -/
theorem cancelling_addressed :
    ((cancelling "7/cancel").build .null).value = .ok ⟨"7/cancel"⟩ ∧
      (Settings.choose (some "") (some "http://h")).value = ⟨"http://h/"⟩ ∧
      ∀ (flow : Flow) (c : Call flow) (amount : Json),
        (c.build amount).value.map (Settings.endpoint ⟨"http://h/"⟩) =
            .ok ⟨.post, "http://h/payments/7/cancel/cancel"⟩ →
          flow = .void ∧ c.Identifies "7/cancel" ∧
            ∃ body, (c.build amount).value = .ok body ∧
              (flow.wireBody body).get? "cancel_id" = some (.str "7/cancel") := by
  have hbuild : ((cancelling "7/cancel").build .null).value = .ok ⟨"7/cancel"⟩ := rfl
  have hsettings : (Settings.choose (some "") (some "http://h")).value = ⟨"http://h/"⟩ := rfl
  obtain ⟨e, he, -, -, -, hdistinct⟩ := address_of_build hbuild hsettings
  have haddress : (⟨.post, "http://h/payments/7/cancel/cancel"⟩ : Endpoint) = e :=
    Except.ok.inj he
  refine ⟨hbuild, hsettings, fun flow c amount hsame => ?_⟩
  obtain ⟨hflow, hidentifies, body, hbody, hname⟩ := hdistinct flow c amount (haddress ▸ hsame)
  exact ⟨hflow, (hidentifies "7/cancel").mpr (.void _), body, hbody, hname "cancel_id" rfl⟩

end Call

end PaymentConnector
