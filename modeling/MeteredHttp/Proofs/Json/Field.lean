import MeteredHttp.Json.Field
import MeteredHttp.Proofs.Except

/-!
# What the fields of documents mean

A conversion is a relation between JSON values and what is stored of them, and an object describes
settings by such relations.

* `Value.ofTexts`, `Value.ofTextMembers` and `Value.ofNullable` write texts as JSON values: what is
  accepted where texts are expected is written so (`Value.toTexts_eq_ok` and so on).
* `Value.Stores` relates numbers to the 32-bit integers they are stored as.
* `Setting` is what a setting is, given the members of an object; **`Value.field_object_eq_ok`**
  says that fields are read so.
-/

namespace MeteredHttp.Json

/-! ## Texts -/

namespace Value

/-- An array of texts. -/
def ofTexts (texts : List Bytes) : Value := .array (texts.map .string)

/-- An object whose members are texts. -/
def ofTextMembers (entries : List (Bytes × Bytes)) : Value :=
  .object (entries.map fun entry => (entry.1, .string entry.2))

/-- A text, or null where there is none. -/
def ofNullable (text? : Option Bytes) : Value := text?.elim .null .string

variable {v : Value}

@[simp] lemma toBool_eq_ok {b : Bool} : v.toBool = .ok b ↔ v = .bool b := by
  cases v <;> simp [toBool]

@[simp] lemma toBytes_eq_ok {text : Bytes} : v.toBytes = .ok text ↔ v = .string text := by
  cases v <;> simp [toBytes]

lemma mapM_toBytes_eq_ok {items : List Value} {texts : List Bytes} :
    items.mapM toBytes = .ok texts ↔ items = texts.map .string := by
  rw [mapM_eq_ok, ← List.forall₂_eq_eq_eq, List.forall₂_map_right_iff]
  simp only [toBytes_eq_ok]

/-- The entries whose values are texts, with the same names. -/
lemma mapM_entries_eq_ok {entries : List (Bytes × Value)} {fields : List (Bytes × Bytes)} :
    (entries.mapM fun (name, v) => v.toBytes.map (name, ·)) = .ok fields
      ↔ entries = fields.map fun field => (field.1, .string field.2) := by
  have hentry : ∀ (entry : Bytes × Value) (field : Bytes × Bytes),
      entry.2.toBytes.map (entry.1, ·) = .ok field ↔ entry = (field.1, .string field.2) := by
    rintro ⟨name, v⟩ ⟨name', text⟩
    cases v <;> simp [toBytes, Except.map]
  rw [mapM_eq_ok, ← List.forall₂_eq_eq_eq, List.forall₂_map_right_iff]
  simp only [hentry]

lemma toTexts_eq_ok {texts : List Bytes} : v.toTexts = .ok texts ↔ v = ofTexts texts := by
  cases v <;> simp [toTexts, ofTexts, mapM_toBytes_eq_ok]

lemma toTextMembers_eq_ok {entries : List (Bytes × Bytes)} :
    v.toTextMembers = .ok entries ↔ v = ofTextMembers entries := by
  cases v <;> simp [toTextMembers, ofTextMembers, mapM_entries_eq_ok]

/-! ## Numbers -/

/-- The integers of 32 bits that values are stored as. -/
inductive Stores : Value → Int32 → Prop
  /-- Of an integer the last 32 bits are kept. -/
  | integer {i : Int} {n : Int32} (h : n.toInt = i.bmod Int32.size) : Stores (.integer i) n
  /-- Of a fraction the integral part is kept. -/
  | real {x : Binary64} {n : Int32} (h : x.truncate? = some n.toInt) : Stores (.real x) n
  /-- What is too large for that becomes the least integer. -/
  | large {x : Binary64} (h : ∀ n : Int32, x.truncate? ≠ some n.toInt) :
    Stores (.real x) Int32.minValue
  | bool (b : Bool) : Stores (.bool b) (if b then 1 else 0)

lemma cutToInt32_of_fits {x : Binary64} {n : Int32} (h : x.truncate? = some n.toInt) :
    cutToInt32 x = n := by
  have hlow := n.le_toInt
  have hhigh := n.toInt_lt
  simp only [cutToInt32, h]
  rw [if_pos (by omega), Int32.ofInt_toInt]

lemma cutToInt32_of_large {x : Binary64} (h : ∀ n : Int32, x.truncate? ≠ some n.toInt) :
    cutToInt32 x = Int32.minValue := by
  cases hcut : x.truncate? with
  | none => simp only [cutToInt32, hcut]
  | some i =>
    simp only [cutToInt32, hcut]
    refine if_neg fun hfits => h (Int32.ofInt i) ?_
    rw [hcut, Int32.toInt_ofInt_of_le (by omega) (by omega)]

lemma toInt32_eq_ok {n : Int32} : v.toInt32 = .ok n ↔ Stores v n := by
  constructor
  · intro h
    cases v with
    | integer i =>
      obtain rfl := Except.ok.inj h
      exact .integer Int32.toInt_ofInt
    | real x =>
      obtain rfl := Except.ok.inj h
      by_cases hfits : ∃ n : Int32, x.truncate? = some n.toInt
      · obtain ⟨n, hn⟩ := hfits
        rw [cutToInt32_of_fits hn]
        exact .real hn
      · have hlarge := not_exists.1 hfits
        rw [cutToInt32_of_large hlarge]
        exact .large hlarge
    | bool b =>
      obtain rfl := Except.ok.inj h
      exact .bool b
    | _ => cases h
  · rintro (hlast | hfits | hlarge | b)
    · exact congrArg Except.ok (Int32.toInt_inj.1 (Int32.toInt_ofInt.trans hlast.symm))
    · exact congrArg Except.ok (cutToInt32_of_fits hfits)
    · exact congrArg Except.ok (cutToInt32_of_large hlarge)
    · rfl

end Value

/-! ## Settings -/

section Settings

variable {α β : Type} {members : List (Bytes × Value)} {name : Bytes} {default x : α}
  {Means : Value → α → Prop} {convert : Value → Except Fault α}

/-- What a setting is: what the member of its name means, or its default if there is none. -/
def Setting (members : List (Bytes × Value)) (name : Bytes) (Means : Value → α → Prop)
    (default x : α) : Prop :=
  match (Value.object members).member? name with
  | some v => Means v x
  | none => x = default

/-- A setting that is there means what its value means. -/
lemma Setting.means (h : Setting members name Means default x) {v : Value}
    (hmember : (Value.object members).member? name = some v) : Means v x := by
  simpa only [Setting, hmember] using h

/-- A setting that is not the default is there. -/
lemma Setting.exists_member (h : Setting members name Means default x) (hx : x ≠ default) :
    ∃ v, (Value.object members).member? name = some v ∧ Means v x := by
  cases hmember : (Value.object members).member? name with
  | none => exact absurd (by simpa only [Setting, hmember] using h) hx
  | some v => exact ⟨v, rfl, h.means hmember⟩

/-- Only what the value of the setting means counts. -/
lemma setting_congr {Means' : Value → α → Prop}
    (h : ∀ v, (Value.object members).member? name = some v → (Means v x ↔ Means' v x)) :
    Setting members name Means default x ↔ Setting members name Means' default x := by
  cases hmember : (Value.object members).member? name with
  | none => simp only [Setting, hmember]
  | some v => simpa only [Setting, hmember] using h v hmember

/-- What is made of a setting is a setting. -/
lemma exists_setting_iff (Makes : α → β → Prop) {default' y : β}
    (hdefault : Makes default y ↔ y = default') :
    (∃ x, Setting members name Means default x ∧ Makes x y)
      ↔ Setting members name (fun v y => ∃ x, Means v x ∧ Makes x y) default' y := by
  cases hmember : (Value.object members).member? name with
  | none => simp only [Setting, hmember, exists_eq_left, hdefault]
  | some v => simp only [Setting, hmember]

/-- **A field of an object** is read as the setting that the object describes. -/
lemma Value.field_object_eq_ok (hconvert : ∀ v x, convert v = .ok x ↔ Means v x) :
    (Value.object members).field name convert default = .ok x
      ↔ Setting members name Means default x := by
  cases hmember : (Value.object members).member? name with
  | none => simp only [Value.field, Setting, hmember, Except.ok.injEq, eq_comm]
  | some v => simp only [Value.field, Setting, hmember, hconvert]

/-- Only objects have members. -/
lemma Value.exists_object_of_member? {v w : Value} (h : v.member? name = some w) :
    ∃ members, v = .object members := by
  cases v with
  | object members => exact ⟨members, rfl⟩
  | _ => cases h

/-- Only objects have fields. -/
lemma Value.exists_object_of_field {v : Value}
    (h : v.field name convert default = .ok x) : ∃ members, v = .object members := by
  cases v with
  | object members => exact ⟨members, rfl⟩
  | _ => cases h

end Settings

end MeteredHttp.Json
