import PaymentConnector.Connector.Endpoint
import PaymentConnector.Connector.Request
import PaymentConnector.Proofs.BaseAddresses
import PaymentConnector.Proofs.TextAnswers

/-!
Where a request about one payment or one refund goes. Below the base of the addresses stand
a collection, a name in it and what is done there. The name is put in as it is, so it is one
segment of the path only if it holds no slash, no mark that ends the path and no break that
gets lost.
-/

namespace PaymentConnector

open Text

namespace Url.Parts

/-- A character that does not stay in a segment: it ends the segment, or it gets lost. -/
def leavesSegment (c : Char) : Bool := endsNetloc c || isBreak c

theorem leavesSegment_eq_false_iff {c : Char} :
    leavesSegment c = false ↔ (c ≠ '/' ∧ c ≠ '?' ∧ c ≠ '#') ∧ isBreak c = false := by
  simp [leavesSegment, endsNetloc, and_assoc]

end Url.Parts

/-- What a request asks about: a collection, a name in it and what is done there. -/
structure Target where
  collection : String
  id : String
  action : String

namespace Target

open Url Url.Parts

variable {t : Target} {s : List Char} {b : Parts}

/-- The path below the base. -/
def path (t : Target) : List Char :=
  t.collection.toList ++ '/' :: (t.id.toList ++ '/' :: t.action.toList)

def segments (t : Target) : List (List Char) :=
  [t.collection.toList, t.id.toList, t.action.toList]

/-- The address has neither query nor fragment, and its path is that of the base with the
segments of the target below it. -/
def StandsBelow (t : Target) (base : Parts) (address : List Char) : Prop :=
  ∃ parts below, split address = .ok parts ∧ parts.query = [] ∧ parts.fragment = [] ∧
    parts.path = base.path ++ below ∧ fields (· = '/') below = t.segments

/-- The collection and the action, which are not the caller's, are segments. -/
structure Plain (t : Target) : Prop where
  collection : Free leavesSegment t.collection.toList
  starts : t.collection ≠ ""
  action : Free leavesSegment t.action.toList

theorem free_slash {u : List Char} (h : Free leavesSegment u) : Free (· = '/') u :=
  fun c hc => decide_eq_false (leavesSegment_eq_false_iff.mp (h c hc)).1.1

theorem unbroken_of_free {u : List Char} (h : Free leavesSegment u) : unbroken u = u :=
  unbroken_eq_self_iff.mpr fun c hc => (leavesSegment_eq_false_iff.mp (h c hc)).2

theorem eq_path_of_fields {below : List Char} (h : fields (· = '/') below = t.segments) :
    below = t.path := by
  rw [← intercalate_fields '/' below, h]
  simp [segments, path, List.intercalate_cons_cons]

namespace Plain

theorem exists_collection_cons (h : t.Plain) :
    ∃ c rest, t.collection.toList = c :: rest ∧ c ≠ '/' := by
  obtain ⟨c, rest, hcollection⟩ :=
    List.exists_cons_of_ne_nil (mt String.toList_eq_nil_iff.mp h.starts)
  have hfree := h.collection c (by rw [hcollection]; exact List.mem_cons_self)
  exact ⟨c, rest, hcollection, (leavesSegment_eq_false_iff.mp hfree).1.1⟩

/-- What gets lost of a path gets lost of the name. -/
theorem unbroken_path (h : t.Plain) : unbroken t.path =
    t.collection.toList ++ '/' :: (unbroken t.id.toList ++ '/' :: t.action.toList) := by
  have hslash : isBreak '/' = false := by decide
  rw [path, unbroken_append, unbroken_cons hslash, unbroken_append, unbroken_cons hslash,
    unbroken_of_free h.collection, unbroken_of_free h.action]

theorem head?_unbroken_path (h : t.Plain) : (unbroken t.path).head? ≠ some '/' := by
  obtain ⟨c, rest, hcollection, hc⟩ := h.exists_collection_cons
  rw [h.unbroken_path, hcollection]
  exact fun heq => hc (Option.some.inj heq)

/-- A name without marks and breaks is a segment of its own. -/
theorem cutSections_path (h : t.Plain) (hid : Free leavesSegment t.id.toList) :
    cutSections (unbroken t.path) = ⟨t.path, none, none⟩ := by
  have hpath : unbroken t.path = t.path := by
    rw [h.unbroken_path, unbroken_of_free hid]
    rfl
  rw [hpath, cutSections_eq_iff]
  refine ⟨by simp [optionalText], fun c hc => ?_, by simp⟩
  have hmark (u : List Char) (hu : Free leavesSegment u) (hc : c ∈ u) : c ≠ '?' ∧ c ≠ '#' :=
    (leavesSegment_eq_false_iff.mp (hu c hc)).1.2
  simp only [path, List.mem_append, List.mem_cons] at hc
  rcases hc with hc | rfl | hc | rfl | hc
  · exact hmark _ h.collection hc
  · decide
  · exact hmark _ hid hc
  · decide
  · exact hmark _ h.action hc

theorem fields_path (h : t.Plain) (hid : Free leavesSegment t.id.toList) :
    fields (· = '/') t.path = t.segments := by
  rw [path, fields_append_cons (free_slash h.collection) (by decide),
    fields_append_cons (free_slash hid) (by decide), fields_of_free (free_slash h.action),
    segments]

end Plain

/-- The segments of a target leave no room for anything else. -/
theorem free_id_of_cutSections {below : List Char} {query fragment : Option (List Char)}
    (hcut : cutSections (unbroken t.path) = ⟨below, query, fragment⟩)
    (hbelow : fields (· = '/') below = t.segments) : Free leavesSegment t.id.toList := by
  obtain rfl := eq_path_of_fields hbelow
  obtain ⟨hpath, hmarks, -⟩ := cutSections_eq_iff.mp hcut
  have hkept : unbroken t.path = t.path := by
    refine unbroken_eq_self_of_length ?_
    rw [hpath, List.append_assoc, List.length_append]
    exact Nat.le_add_right _ _
  intro c hc
  have hmem : c ∈ t.path := by simp [path, hc]
  have hfield : t.id.toList ∈ fields (· = '/') t.path := by simp [hbelow, segments]
  have hslash : c ≠ '/' := of_decide_eq_false (mem_of_mem_fields hfield hc).2
  exact leavesSegment_eq_false_iff.mpr
    ⟨⟨hslash, hmarks c hmem⟩, unbroken_eq_self_iff.mp hkept c hmem⟩

/-- A target stands below a base just if the base has a path and the name is a segment. -/
theorem Plain.standsBelow_iff (h : t.Plain) (hs : s.getLast? = some '/') (hb : split s = .ok b)
    (hquery : b.query = []) (hfragment : b.fragment = []) :
    t.StandsBelow b (s ++ t.path) ↔ b.path ≠ [] ∧ Free leavesSegment t.id.toList := by
  constructor
  · rintro ⟨parts, below, hparts, -, -, hpath, hbelow⟩
    have hne : b.path ≠ [] := by
      intro hempty
      obtain ⟨c, rest, hcollection, hc⟩ := h.exists_collection_cons
      have hhead : parts.path.head? = some c := by
        rw [hpath, hempty, List.nil_append, eq_path_of_fields hbelow, path, hcollection]
        rfl
      exact hc (head?_path_of_split_append hs hb hquery hfragment hempty hparts hhead)
    rw [split_append hs hb hquery hfragment hne h.head?_unbroken_path] at hparts
    obtain rfl := Except.ok.inj hparts
    obtain rfl := List.append_cancel_left hpath
    exact ⟨hne, free_id_of_cutSections rfl hbelow⟩
  · rintro ⟨hpath, hid⟩
    refine ⟨_, t.path, split_append hs hb hquery hfragment hpath h.head?_unbroken_path, ?_⟩
    rw [h.cutSections_path hid]
    exact ⟨rfl, rfl, rfl, h.fields_path hid⟩

end Target

/-! Requests -/

namespace Settings

theorem getLast?_withSlash (base : String) : (withSlash base).toList.getLast? = some '/' := by
  unfold withSlash
  split
  · assumption
  · simp

/-- The base of the addresses ends in a slash, wherever it comes from. -/
theorem getLast?_choose (argument environment : Option String) :
    (choose argument environment).value.baseUrl.toList.getLast? = some '/' := by
  unfold choose
  split
  · exact getLast?_withSlash _
  · exact getLast?_withSlash _

end Settings

namespace Flow

/-- The payment or the refund that a request is about, in the flows that ask for one. -/
def target? : (flow : Flow) → flow.Body → Option Target
  | void, body => some ⟨"payments", body.cancelId, "cancel"⟩
  | psync, body => some ⟨"payments", body.authorizationId, "status"⟩
  | rsync, body => some ⟨"refunds", body.refundId, "status"⟩
  | _, _ => none

theorem plain_of_target? {flow : Flow} {body : flow.Body} {t : Target}
    (h : flow.target? body = some t) : t.Plain := by
  cases flow with
  | void => cases h; constructor <;> dsimp only <;> decide
  | psync => cases h; constructor <;> dsimp only <;> decide
  | rsync => cases h; constructor <;> dsimp only <;> decide
  | _ => cases h

theorem route_of_target? {flow : Flow} {body : flow.Body} {t : Target}
    (h : flow.target? body = some t) : (flow.route body).2.toList = t.path := by
  cases flow with
  | void => cases h; simp [route, Target.path]
  | psync => cases h; simp [route, Target.path]
  | rsync => cases h; simp [route, Target.path]
  | _ => cases h

end Flow

theorem Settings.url_of_target? {s : Settings} {flow : Flow} {body : flow.Body} {t : Target}
    (h : flow.target? body = some t) :
    (s.endpoint body).url.toList = s.baseUrl.toList ++ t.path := by
  rw [endpoint, String.toList_append, Flow.route_of_target? h]

theorem ResourceId.transactionId?_eq_some_iff {r : ResourceId} {id : String} :
    r.transactionId? = some id ↔ r = ofTransaction id ∧ id ≠ "" := by
  obtain ⟨kind, value⟩ := r
  cases kind <;> cases value <;> simp [transactionId?, ofTransaction]
  constructor
  · rintro ⟨hne, rfl⟩
    exact ⟨rfl, hne⟩
  · rintro ⟨rfl, hne⟩
    exact ⟨hne, rfl⟩

namespace Call

/-- A payment is asked about by the connector's name for it only. -/
theorem syncBody_eq_ok_iff {c : Call .psync} {body : Wire.SyncRequest} :
    c.syncBody = .ok body ↔
      c.request.transactionId = .ofTransaction body.authorizationId ∧
        body.authorizationId ≠ "" := by
  rw [← ResourceId.transactionId?_eq_some_iff, syncBody]
  cases c.request.transactionId.transactionId? with
  | none => simp
  | some id => cases body; simp

/-- A request about one payment or one refund goes to the segments of its target below the
base, unless the base has no path or the name holds a character that leaves its segment. -/
theorem standsBelow_of_build {flow : Flow} {c : Call flow} {amount : Json} {body : flow.Body}
    {t : Target} {argument environment : Option String} {base : Url.Parts}
    (h : (c.build amount).value = .ok body) (ht : flow.target? body = some t)
    (hbase : Url.Parts.split (Settings.choose argument environment).value.baseUrl.toList = .ok base)
    (hquery : base.query = []) (hfragment : base.fragment = []) :
    (flow = .psync → t.id ≠ "") ∧
      (t.id ≠ "" →
        (t.StandsBelow base
            ((Settings.choose argument environment).value.endpoint body).url.toList ↔
          base.path ≠ [] ∧ Free Url.Parts.leavesSegment t.id.toList)) := by
  constructor
  · rintro rfl
    obtain rfl := Option.some.inj ht
    exact (syncBody_eq_ok_iff.mp h).2
  · intro _
    rw [Settings.url_of_target? ht]
    exact (Flow.plain_of_target? ht).standsBelow_iff (Settings.getLast?_choose _ _) hbase hquery
      hfragment

/-- The cancellation of a payment under a name. -/
def cancelling (id : String) : Call .void := { cancellation with request := ⟨id, none⟩ }

/-- Where that cancellation goes, below a given base or the sandbox. -/
def cancelAddress (base : Option String) (id : String) : List Char :=
  (@Settings.endpoint (Settings.choose base none).value .void ⟨id⟩).url.toList

/-- The sandbox in parts. -/
def sandboxParts : Url.Parts :=
  ⟨"https".toList, "sandbox.dlocal.com".toList, ['/'], [], []⟩

theorem split_sandbox :
    Url.Parts.split (Settings.choose none none).value.baseUrl.toList = .ok sandboxParts := rfl

theorem cancelAddress_standsBelow_iff {base : Option String} {b : Url.Parts} (id : String)
    (hb : Url.Parts.split (Settings.choose base none).value.baseUrl.toList = .ok b)
    (hquery : b.query = []) (hfragment : b.fragment = []) :
    (Target.mk "payments" id "cancel").StandsBelow b (cancelAddress base id) ↔
      b.path ≠ [] ∧ Free Url.Parts.leavesSegment id.toList := by
  rw [cancelAddress, @Settings.url_of_target? _ .void ⟨id⟩ _ rfl]
  exact (@Flow.plain_of_target? .void ⟨id⟩ _ rfl).standsBelow_iff
    (Settings.getLast?_choose _ _) hb hquery hfragment

theorem cancelling_standsBelow :
    ((cancelling "ä:.. 7").build .null).value = .ok ⟨"ä:.. 7"⟩ ∧
      (Target.mk "payments" "ä:.. 7" "cancel").StandsBelow sandboxParts
        (cancelAddress none "ä:.. 7") := by
  have hbuild : ((cancelling "ä:.. 7").build .null).value = .ok ⟨"ä:.. 7"⟩ := rfl
  have hstands := (standsBelow_of_build hbuild rfl split_sandbox rfl rfl).2 (by decide)
  exact ⟨hbuild, hstands.mpr ⟨by decide, by decide +kernel⟩⟩

/-- Names with a slash, a mark or a break go elsewhere, and so does every name below a base
without a path. -/
theorem cancelling_elsewhere :
    (∀ id ∈ ["a/b", "a?b", "a#b", "a\tb"],
      ((cancelling id).build .null).value = .ok ⟨id⟩ ∧
        ¬ (Target.mk "payments" id "cancel").StandsBelow sandboxParts (cancelAddress none id)) ∧
      ¬ (Target.mk "payments" "a" "cancel").StandsBelow ⟨"https".toList, [], [], [], []⟩
        (cancelAddress (some "https://") "a") := by
  have hleaves : ∀ id ∈ ["a/b", "a?b", "a#b", "a\tb"],
      ¬ Free Url.Parts.leavesSegment id.toList := by decide
  constructor
  · intro id hid
    refine ⟨rfl, fun hstands => hleaves id hid ?_⟩
    exact ((cancelAddress_standsBelow_iff id split_sandbox rfl rfl).mp hstands).2
  · intro hstands
    exact ((cancelAddress_standsBelow_iff "a" rfl rfl rfl).mp hstands).1 rfl

end Call

end PaymentConnector
