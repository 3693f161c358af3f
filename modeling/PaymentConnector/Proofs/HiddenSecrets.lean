import PaymentConnector.Payment.Call
import PaymentConnector.Proofs.CheckedFields

/-!
Hiding the secrets of a call, once in the input and once in what was read from it.
Every text at a secret place gives way to its mask; nothing else changes. Reading
commutes with hiding, part by part, so two inputs that become equal when they are hidden
are read as calls that become equal when they are hidden. A dump shows a call as it
is when hidden.
-/

namespace PaymentConnector

/-- Changes of the values at some keys. -/
abbrev Changes := List (String × (Json → Json))

namespace Object

def change (cs : Changes) (key : String) : Json → Json := (cs.lookup key).getD id

/-- The same keys in the same order, with some values changed. -/
def alter (cs : Changes) (o : Object) : Object := o.map fun e => (e.1, change cs e.1 e.2)

theorem get?_alter (cs : Changes) (o : Object) (key : String) :
    (o.alter cs).get? key = (o.get? key).map (change cs key) := by
  unfold get? alter
  induction o with
  | nil => rfl
  | cons e rest ih =>
    obtain ⟨name, value⟩ := e
    by_cases hkey : key = name
    · subst hkey
      simp
    · have hne : (key == name) = false := by simpa using hkey
      simpa only [List.map_cons, List.lookup_cons, hne] using ih

variable {α : Type} {cs : Changes} {o : Object} {key : String} {read : Reader α}

theorem change_other (h : key ∉ cs.map Prod.fst) : change cs key = id := by
  have hnone : cs.lookup key = none := by
    rw [List.lookup_eq_none_iff]
    intro e he
    simp only [bne_iff_ne, ne_eq]
    rintro rfl
    exact h (List.mem_map_of_mem he)
  rw [change, hnone, Option.getD_none]

theorem get?_alter_other (h : key ∉ cs.map Prod.fst) : (o.alter cs).get? key = o.get? key := by
  rw [get?_alter, change_other h, Option.map_id_fun, id]

theorem required_alter_other (h : key ∉ cs.map Prod.fst) :
    (o.alter cs).required key read = o.required key read := by
  rw [required, required, get?_alter_other h]

theorem optional_alter_other (h : key ∉ cs.map Prod.fst) :
    (o.alter cs).optional key read = o.optional key read := by
  rw [optional, optional, get?_alter_other h]

theorem defaulted_alter_other {value : α} (h : key ∉ cs.map Prod.fst) :
    (o.alter cs).defaulted key value read = o.defaulted key value read := by
  rw [defaulted, defaulted, get?_alter_other h]

theorem required_alter {f : Json → Json} {g : α → α} (h : cs.lookup key = some f)
    (hread : ∀ j, read (f j) = (read j).map g) :
    (o.alter cs).required key read = (o.required key read).map g := by
  unfold required
  rw [get?_alter]
  cases o.get? key with
  | none => rfl
  | some j => simp [change, h, hread, Checked.map_under]

/-- A change that neither makes nulls nor takes them away can be carried over to the result
of an optional field. -/
theorem optional_alter {f : Json → Json} {g : α → α} (h : cs.lookup key = some f)
    (hnull : ∀ j, f j = .null ↔ j = .null) (hread : ∀ j, read (f j) = (read j).map g) :
    (o.alter cs).optional key read = (o.optional key read).map (Option.map g) := by
  have hget := get?_alter cs o key
  rw [change, h, Option.getD_some] at hget
  by_cases hvoid : o.IsVoid key
  · have hvoid' : (o.alter cs).IsVoid key := by
      rcases hvoid with hnone | hnone
      · exact Or.inl (by rw [hget, hnone, Option.map_none])
      · exact Or.inr (by rw [hget, hnone, Option.map_some, (hnull .null).mpr rfl])
    rw [optional_of_isVoid hvoid, optional_of_isVoid hvoid']
    rfl
  · obtain ⟨j, hj, hne⟩ := exists_of_not_isVoid hvoid
    rw [hj, Option.map_some] at hget
    rw [optional_of_get? hj hne, optional_of_get? hget (fun hf => hne ((hnull j).mp hf)), hread]
    cases read j <;> rfl

end Object

namespace Json

def alter (cs : Changes) : Json → Json
  | obj o => obj (Object.alter cs o)
  | j => j

theorem alter_eq_null (cs : Changes) (j : Json) : alter cs j = null ↔ j = null := by
  cases j <;> simp [alter]

/-- A text gives way to its mask; an empty one stays empty. -/
def hideText : Json → Json
  | str s => Secret.dump ⟨s⟩
  | j => j

theorem hideText_eq_null (j : Json) : hideText j = null ↔ j = null := by
  cases j <;> simp [hideText, Secret.dump]

end Json

theorem Json.ofOption_map {α : Type} {write : α → Json} {f : α → α}
    (h : ∀ a, write (f a) = write a) (x : Option α) :
    Json.ofOption write (x.map f) = Json.ofOption write x := by
  cases x with
  | none => rfl
  | some a => exact h a

namespace Secret

def hidden (s : Secret) : Secret := ⟨s.masked⟩

theorem read_hideText (j : Json) : read (Json.hideText j) = (read j).map hidden := by
  cases j <;> rfl

/-- A mask is shown as itself. -/
theorem dump_hidden (s : Secret) : s.hidden.dump = s.dump := by
  by_cases h : s.reveal = ""
  · simp [dump, hidden, masked, h]
  · simp [dump, hidden, masked, h, mask]

end Secret

namespace Object

variable {cs : Changes} {o : Object} {key : String}

theorem required_hideText (h : cs.lookup key = some Json.hideText) :
    (o.alter cs).required key Secret.read = (o.required key Secret.read).map Secret.hidden :=
  required_alter h Secret.read_hideText

theorem optional_hideText (h : cs.lookup key = some Json.hideText) :
    (o.alter cs).optional key Secret.read =
      (o.optional key Secret.read).map (Option.map Secret.hidden) :=
  optional_alter h Json.hideText_eq_null Secret.read_hideText

end Object

namespace Json

def hideKeys : Json → Json :=
  alter [("api_key", hideText), ("key1", hideText), ("api_secret", hideText), ("key2", hideText)]

def hideAddress : Json → Json :=
  alter [("first_name", hideText), ("last_name", hideText), ("line1", hideText),
    ("line2", hideText), ("state", hideText), ("zip", hideText)]

def hideContact : Json → Json :=
  alter [("address", hideAddress), ("email", hideText), ("phone", hideText)]

def hideCard : Json → Json :=
  alter [("card_number", hideText), ("card_exp_month", hideText), ("card_exp_year", hideText),
    ("card_cvc", hideText), ("card_holder_name", hideText)]

def hideMethod : Json → Json := alter [("card", hideCard)]

def hideRequest : Json → Json :=
  alter [("email", hideText), ("payment_method_data", hideMethod)]

/-- The input of a call with the keys of its credentials hidden. -/
def hideCredentials : Json → Json := alter [("connector_auth_type", hideKeys)]

/-- The input of a call with all its secrets hidden. -/
def hideSecrets : Json → Json :=
  alter [("connector_auth_type", hideKeys), ("billing", hideContact), ("request", hideRequest)]

end Json

/-- A reader of an object follows a change of the object if its fields do. -/
theorem Reader.object_alter {α : Type} {cs : Changes} {shape : Shape}
    {fields : Object → Checked α} {g : α → α}
    (h : ∀ o : Object, fields (o.alter cs) = (fields o).map g) (j : Json) :
    Reader.object shape fields (Json.alter cs j) = (Reader.object shape fields j).map g := by
  cases j with
  | obj o => exact h o
  | _ => rfl

variable {cs : Changes} {o : Object} {key : String}

namespace Address

def hidden (a : Address) : Address :=
  { a with
    firstName := a.firstName.map Secret.hidden
    lastName := a.lastName.map Secret.hidden
    line1 := a.line1.map Secret.hidden
    line2 := a.line2.map Secret.hidden
    state := a.state.map Secret.hidden
    zip := a.zip.map Secret.hidden }

theorem read_hideAddress (j : Json) : read (Json.hideAddress j) = (read j).map hidden := by
  apply Reader.object_alter
  intro o
  simp (disch := simp [List.lookup_cons]) only [Object.optional_hideText,
    Object.optional_alter_other,
    Checked.map_eq_map, Checked.seq_eq_app, Checked.map_map, Checked.map_app, Checked.app_map]
  rfl

theorem optional_hideAddress (h : cs.lookup key = some Json.hideAddress) :
    (o.alter cs).optional key read = (o.optional key read).map (Option.map hidden) :=
  Object.optional_alter h (Json.alter_eq_null _) read_hideAddress

theorem dump_hidden (a : Address) : a.hidden.dump = a.dump := by
  simp only [dump, hidden, Json.ofOption_map Secret.dump_hidden]

end Address

namespace Contact

def hidden (c : Contact) : Contact :=
  { address := c.address.map Address.hidden
    email := c.email.map Secret.hidden
    phone := c.phone.map Secret.hidden }

theorem read_hideContact (j : Json) : read (Json.hideContact j) = (read j).map hidden := by
  apply Reader.object_alter
  intro o
  simp (disch := simp [List.lookup_cons]) only [Address.optional_hideAddress,
    Object.optional_hideText,
    Checked.map_eq_map, Checked.seq_eq_app, Checked.map_map, Checked.map_app, Checked.app_map]
  rfl

theorem optional_hideContact (h : cs.lookup key = some Json.hideContact) :
    (o.alter cs).optional key read = (o.optional key read).map (Option.map hidden) :=
  Object.optional_alter h (Json.alter_eq_null _) read_hideContact

theorem dump_hidden (c : Contact) : c.hidden.dump = c.dump := by
  simp only [dump, hidden, Json.ofOption_map Secret.dump_hidden,
    Json.ofOption_map Address.dump_hidden]

end Contact

namespace Card

def hidden (c : Card) : Card :=
  { c with
    number := c.number.hidden
    expiryMonth := c.expiryMonth.hidden
    expiryYear := c.expiryYear.hidden
    code := c.code.hidden
    holderName := c.holderName.map Secret.hidden }

theorem read_hideCard (j : Json) : read (Json.hideCard j) = (read j).map hidden := by
  apply Reader.object_alter
  intro o
  simp (disch := simp [List.lookup_cons]) only [Object.required_hideText, Object.optional_hideText,
    Object.optional_alter_other,
    Checked.map_eq_map, Checked.seq_eq_app, Checked.map_map, Checked.map_app, Checked.app_map]
  rfl

theorem optional_hideCard (h : cs.lookup key = some Json.hideCard) :
    (o.alter cs).optional key read = (o.optional key read).map (Option.map hidden) :=
  Object.optional_alter h (Json.alter_eq_null _) read_hideCard

theorem dump_hidden (c : Card) : c.hidden.dump = c.dump := by
  simp only [dump, hidden, Secret.dump_hidden, Json.ofOption_map Secret.dump_hidden]

end Card

namespace Instrument

def hidden : Instrument → Instrument
  | card c => card c.hidden
  | other m => other m

theorem kind_hidden (i : Instrument) : i.hidden.kind = i.kind := by
  cases i <;> rfl

theorem of_hidden (kind : MethodKind) (details : Option Card) :
    of kind (details.map Card.hidden) = (of kind details).map hidden := by
  cases kind <;> cases details <;> rfl

end Instrument

namespace PaymentMethod

def hidden (p : PaymentMethod) : PaymentMethod := { p with instrument := p.instrument.hidden }

theorem readFields_alter (o : Object) :
    readFields (o.alter [("card", Json.hideCard)]) =
      (readFields o).map fun (kind, card, details) => (kind, card.map Card.hidden, details) := by
  simp (disch := simp [List.lookup_cons]) only [readFields, Card.optional_hideCard,
    Object.required_alter_other, Object.defaulted_alter_other,
    Checked.map_eq_map, Checked.seq_eq_app, Checked.map_map, Checked.map_app, Checked.app_map]

theorem read_hideMethod (j : Json) : read (Json.hideMethod j) = (read j).map hidden := by
  apply Reader.object_alter
  intro o
  simp only [readFields_alter, Checked.andThen_map, Checked.map_andThen, Instrument.of_hidden,
    Checked.map_map]
  rfl

theorem required_hideMethod (h : cs.lookup key = some Json.hideMethod) :
    (o.alter cs).required key read = (o.required key read).map hidden :=
  Object.required_alter h read_hideMethod

theorem tree_hidden (p : PaymentMethod) : p.hidden.tree = p.tree := by
  cases hp : p.instrument with
  | card c => simp [tree, hidden, hp, Instrument.hidden, Instrument.kind, Instrument.card?,
      Json.ofOption, Card.dump_hidden]
  | other m => simp [tree, hidden, hp, Instrument.hidden]

end PaymentMethod

end PaymentConnector
