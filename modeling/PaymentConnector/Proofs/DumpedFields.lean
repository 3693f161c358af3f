import PaymentConnector.Proofs.DumpLimits
import PaymentConnector.Proofs.HiddenCalls
import PaymentConnector.Proofs.InputParts

/-!
Reading what a dump shows, part by part. A field of an object is found behind all fields
of other names, so an object that is written field by field is read field by field. Every
part of a call is read from its dump as it is, with its secrets hidden and with nulls for the
numbers in its dictionaries that are not finite; a reply is read as the kind of reply that it
is and not as the other kind.
-/

namespace PaymentConnector

namespace Checked

variable {α β : Type}

@[simp] theorem map_ok (f : α → β) (a : α) : (ok a).map f = ok (f a) := rfl

@[simp] theorem app_ok (f : α → β) (a : α) : ((ok f).app fun _ => ok a) = ok (f a) := rfl

@[simp] theorem under_ok (key : String) (a : α) : (ok a).under key = ok a := rfl

@[simp] theorem map_failed (f : α → β) (fs : List Fault) : (failed fs).map f = failed fs := rfl

@[simp] theorem app_failed_ok (fs : List Fault) (a : α) :
    ((failed fs : Checked (α → β)).app fun _ => ok a) = failed fs := rfl

@[simp] theorem app_failed (fs gs : List Fault) :
    ((failed fs : Checked (α → β)).app fun _ => failed gs) = failed (fs ++ gs) := rfl

end Checked

/-- A value that is not null, and from which a reader gets `a`. -/
structure Restores {α : Type} (read : Reader α) (j : Json) (a : α) : Prop where
  ne_null : j ≠ .null
  read_eq : read j = .ok a

namespace Object

variable {α β : Type} {o : Object} {key other : String} {j : Json} {read : Reader α}

@[simp] theorem get?_cons_self : get? ((key, j) :: o) key = some j := by
  simp [get?]

@[simp] theorem get?_cons_other (h : key ≠ other) : get? ((other, j) :: o) key = o.get? key := by
  have hne : (key == other) = false := by simpa using h
  simp only [get?, List.lookup_cons, hne]

@[simp] theorem required_nil : required [] key read = .failed [⟨[key], .missing⟩] := rfl

@[simp] theorem optional_nil : optional [] key read = .ok none := rfl

@[simp] theorem required_cons_self : required ((key, j) :: o) key read = (read j).under key := by
  rw [required, get?_cons_self]

@[simp] theorem required_cons_other (h : key ≠ other) :
    required ((other, j) :: o) key read = o.required key read := by
  rw [required, required, get?_cons_other h]

@[simp] theorem optional_cons_other (h : key ≠ other) :
    optional ((other, j) :: o) key read = o.optional key read := by
  rw [optional, optional, get?_cons_other h]

@[simp] theorem defaulted_cons_self {value : α} :
    defaulted ((key, j) :: o) key value read = (read j).under key := by
  rw [defaulted, get?_cons_self]

@[simp] theorem defaulted_cons_other {value : α} (h : key ≠ other) :
    defaulted ((other, j) :: o) key value read = o.defaulted key value read := by
  rw [defaulted, defaulted, get?_cons_other h]

/-- An optional field is restored if the value that it may hold is. -/
theorem optional_cons_ofOption {write : β → Json} {f : β → α} {x : Option β}
    (h : ∀ b, x = some b → Restores read (write b) (f b)) :
    optional ((key, Json.ofOption write x) :: o) key read = .ok (x.map f) := by
  cases x with
  | none => exact optional_of_isVoid (Or.inr get?_cons_self)
  | some b =>
    obtain ⟨hnull, hread⟩ := h b rfl
    rw [Json.ofOption, optional_of_get? get?_cons_self hnull, hread]
    rfl

theorem optional_cons_same {write : α → Json} {x : Option α}
    (h : ∀ a, Restores read (write a) a) :
    optional ((key, Json.ofOption write x) :: o) key read = .ok x := by
  rw [optional_cons_ofOption fun a _ => h a, Option.map_id']

@[simp] theorem optional_cons_text {x : Option String} :
    optional ((key, Json.ofOption .str x) :: o) key readString = .ok x :=
  optional_cons_same fun _ => ⟨by simp, rfl⟩

@[simp] theorem optional_cons_bool {x : Option Bool} :
    optional ((key, Json.ofOption .bool x) :: o) key readBool = .ok x :=
  optional_cons_same fun _ => ⟨by simp, rfl⟩

@[simp] theorem optional_cons_dictionary {x : Option Object} :
    optional ((key, Json.ofOption tree x) :: o) key readDictionary = .ok (x.map shown) :=
  optional_cons_ofOption fun d _ => ⟨by simp [tree_eq], by rw [tree_eq]; rfl⟩

end Object

/-! Scalars -/

@[simp] theorem readString_str (s : String) : readString (.str s) = .ok s := rfl

@[simp] theorem readInteger_int (n : Int) : readInteger (.int n) = .ok n := rfl

@[simp] theorem readNatural_int (n : Nat) : readNatural (.int n) = .ok n := rfl

@[simp] theorem readDictionary_tree (o : Object) : readDictionary o.tree = .ok o.shown := by
  rw [Object.tree_eq]
  rfl

namespace Vocabulary

variable {α : Type} [Vocabulary α] [Lawful α]

theorem restores_token (a : α) : Restores (read α) (.ofToken a) a :=
  ⟨by simp [Json.ofToken], read_eq_ok_iff.mpr rfl⟩

@[simp] theorem read_ofToken (a : α) : read α (.ofToken a) = .ok a := (restores_token a).read_eq

@[simp] theorem optional_cons_token {o : Object} {key : String} {x : Option α} :
    Object.optional ((key, Json.ofOption .ofToken x) :: o) key (read α) = .ok x :=
  Object.optional_cons_same restores_token

end Vocabulary

namespace Secret

@[simp] theorem read_dump (s : Secret) : read s.dump = .ok s.hidden := rfl

@[simp] theorem optional_cons_secret {o : Object} {key : String} {x : Option Secret} :
    Object.optional ((key, Json.ofOption dump x) :: o) key read = .ok (x.map hidden) :=
  Object.optional_cons_ofOption fun s _ => ⟨by simp [dump], s.read_dump⟩

end Secret

/-! Addresses -/

namespace Address

/-- The country is its own form in capitals. -/
def InCapitals (a : Address) : Prop := ∀ s, a.country = some s → Text.upper s = s

theorem restores_dump {a : Address} (h : a.InCapitals) : Restores read a.dump a.hidden where
  ne_null := by simp [dump]
  read_eq := by
    have hcountry : a.country.map Text.upper = a.country := by
      cases hc : a.country with
      | none => rfl
      | some s => rw [Option.map_some, h s hc]
    simp [read, dump, Reader.model, Reader.object, hcountry, hidden]

end Address

namespace Contact

def InCapitals (c : Contact) : Prop := ∀ a, c.address = some a → a.InCapitals

theorem restores_dump {c : Contact} (h : c.InCapitals) : Restores read c.dump c.hidden where
  ne_null := by simp [dump]
  read_eq := by
    have haddress {o : Object} {key : String} :
        Object.optional ((key, Json.ofOption Address.dump c.address) :: o) key Address.read =
          .ok (c.address.map Address.hidden) :=
      Object.optional_cons_ofOption fun a ha => Address.restores_dump (h a ha)
    simp [read, dump, Reader.model, Reader.object, haddress, hidden]

end Contact

/-! Payment methods and credentials -/

namespace Card

theorem restores_dump (c : Card) : Restores read c.dump c.hidden where
  ne_null := by simp [dump]
  read_eq := by simp [read, dump, Reader.model, Reader.object, hidden]

@[simp] theorem optional_cons_card {o : Object} {key : String} {x : Option Card} :
    Object.optional ((key, Json.ofOption dump x) :: o) key read = .ok (x.map hidden) :=
  Object.optional_cons_ofOption fun c _ => c.restores_dump

end Card

namespace PaymentMethod

/-- What is read from a dump of the method. -/
def restored (p : PaymentMethod) : PaymentMethod := ⟨p.instrument.hidden, p.details.shown⟩

@[simp] theorem read_tree (p : PaymentMethod) : read p.tree = .ok p.restored := by
  have hinstrument : Instrument.of p.instrument.kind (p.instrument.card?.map Card.hidden) =
      .ok p.instrument.hidden := by
    cases p.instrument <;> rfl
  simp [read, readFields, tree, Reader.model, Reader.object, Checked.andThen, hinstrument,
    restored]

theorem tree_restored (p : PaymentMethod) : p.restored.tree = p.tree := by
  have hshown : p.restored.tree = p.hidden.tree := by simp [tree, restored, hidden]
  rw [hshown, p.tree_hidden]

end PaymentMethod

namespace Credentials

/-- Credentials are restored as those of the kind that they are. -/
@[simp] theorem read_dump (c : Credentials) : read c.dump = .ok c.hidden := by
  cases c <;> rfl

end Credentials

/-! Identifiers and replies -/

namespace ResourceId

@[simp] theorem read_dump (r : ResourceId) : read r.dump = .ok r := by
  simp [read, dump, Reader.model, Reader.object]

end ResourceId

namespace Mandate

@[simp] theorem optional_cons_mandate {o : Object} {key : String} {x : Option Mandate} :
    Object.optional ((key, Json.ofOption dump x) :: o) key read = .ok x :=
  Object.optional_cons_same fun m =>
    ⟨by simp [dump], by simp [read, dump, Reader.model, Reader.object]⟩

end Mandate

namespace RedirectForm

theorem readEntries_map_str (fields : List (String × String)) :
    readEntries (fields.map fun (key, value) => (key, .str value)) = .ok fields := by
  induction fields with
  | nil => rfl
  | cons e rest ih =>
    simp only [List.map_cons, readEntries, ih]
    rfl

theorem restores_dump (f : RedirectForm) : Restores read f.dump f where
  ne_null := by simp [dump]
  read_eq := by
    simp [read, dump, Reader.model, Reader.object, readFields, readEntries_map_str]

@[simp] theorem optional_cons_form {o : Object} {key : String} {x : Option RedirectForm} :
    Object.optional ((key, Json.ofOption dump x) :: o) key read = .ok x :=
  Object.optional_cons_same restores_dump

end RedirectForm

namespace PaymentReply

/-- What is read from a dump of the reply. -/
def restored (r : PaymentReply) : PaymentReply :=
  { r with
    mandateReference := r.mandateReference.map Object.shown
    connectorMetadata := r.connectorMetadata.map Object.shown
    charges := r.charges.map Object.shown }

theorem read_tree (r : PaymentReply) : read r.tree = .ok r.restored := by
  simp [read, tree, Reader.model, Reader.object, restored]

theorem tree_restored (r : PaymentReply) : r.restored.tree = r.tree := by
  simp only [tree, restored, Json.ofOption_map Object.tree_shown]

theorem dictionaries_restored (r : PaymentReply) :
    r.restored.dictionaries = r.dictionaries.map Object.shown := by
  simp [dictionaries, restored, Option.toList_map]

theorem read_dump_error (e : ErrorReply) :
    read e.dump = .failed [⟨["resource_id"], .missing⟩] := by
  simp [read, ErrorReply.dump, Reader.model, Reader.object]

end PaymentReply

namespace RefundReply

theorem read_dump (r : RefundReply) : read r.dump = .ok r := by
  simp [read, dump, Reader.model, Reader.object]

theorem read_dump_error (e : ErrorReply) :
    read e.dump = .failed [⟨["connector_refund_id"], .missing⟩, ⟨["refund_status"], .missing⟩] := by
  simp [read, ErrorReply.dump, Reader.model, Reader.object]

end RefundReply

namespace ErrorReply

theorem read_dump (e : ErrorReply) : read e.dump = .ok e := by
  simp [read, dump, Reader.model, Reader.object]

/-- No other reply has the keys that an error must have. -/
theorem read_replyTree (flow : Flow) (r : flow.Reply) :
    read (flow.replyTree r) =
      .failed [⟨["code"], .missing⟩, ⟨["message"], .missing⟩, ⟨["status_code"], .missing⟩] := by
  cases flow <;>
    simp [read, Flow.replyTree, PaymentReply.tree, RefundReply.dump, Reader.model, Reader.object]

end ErrorReply

end PaymentConnector
