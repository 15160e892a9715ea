import MeteredHttp.ClientConfig
import MeteredHttp.Proofs.Json.Field

/-!
# Which configurations are accepted

* `ClientConfig.validate_eq_ok` says which settings pass the checks.
* `ClientConfig.Describes` relates the members of a document to settings, and
  `ClientConfig.parse_eq_ok` says that a text is accepted if it describes settings that pass.
* **`ClientConfig.accepted_numbers`** says which numbers such a text can have.
-/

namespace MeteredHttp

namespace ClientConfig

open Json (Setting Value)

variable {config : ClientConfig} {files : Files} {members : List (Bytes × Value)} {v : Value}

/-! ## Checks -/

lemma validateNumbers_eq_ok :
    config.validateNumbers = .ok () ↔ ∀ entry ∈ config.numbers, 0 ≤ entry.2 := by
  rw [validateNumbers]
  cases hfind : config.numbers.find? fun entry => entry.2 < 0 with
  | none => simpa using hfind
  | some entry =>
    have hnegative := List.find?_some hfind
    simp only [decide_eq_true_eq] at hnegative
    constructor
    · rintro ⟨⟩
    · intro h
      exact absurd (h entry (List.mem_of_find?_eq_some hfind)) (Int32.not_le.2 hnegative)

/-- **What passes the checks**: key and certificate are in order, no number is negative, and the
blocked addresses and hosts make a policy. -/
lemma validate_eq_ok :
    config.validate files = .ok ()
      ↔ validateTls config.tls files = .ok () ∧ (∀ entry ∈ config.numbers, 0 ≤ entry.2)
        ∧ ∃ policy, config.policy = .ok policy := by
  simp only [validate, bind_eq_ok, pure_eq_ok]
  constructor
  · rintro ⟨⟨⟩, htls, ⟨⟩, hnumbers, policy, hpolicy, -⟩
    exact ⟨htls, validateNumbers_eq_ok.1 hnumbers, policy, hpolicy⟩
  · rintro ⟨htls, hnumbers, policy, hpolicy⟩
    exact ⟨(), htls, (), validateNumbers_eq_ok.2 hnumbers, policy, hpolicy, trivial⟩

/-! ## Documents -/

/-- The settings of TLS connections that the members of an object describe. -/
structure DescribesTls (members : List (Bytes × Value)) (tls : TlsConfig) : Prop where
  insecureSkipVerify :
    Setting members (utf8 "insecure_skip_verify") (· = .bool ·) false tls.insecureSkipVerify
  privateKey : Setting members (utf8 "private_key") (· = .string ·) [] tls.privateKey
  certificate : Setting members (utf8 "certificate") (· = .string ·) [] tls.certificate

/-- The settings that the members of a document describe, each by itself; what is not there has its
default. -/
structure Describes (members : List (Bytes × Value)) (config : ClientConfig) : Prop where
  numbers : ∀ entry ∈ config.numbers, Setting members entry.1 Value.Stores 0 entry.2
  proxy : Setting members (utf8 "proxy") (· = .string ·) [] config.proxy
  userAgent : Setting members (utf8 "user_agent") (· = .string ·) [] config.userAgent
  tls :
    Setting members (utf8 "tls_config") (fun v tls => ∃ inner, v = .object inner
      ∧ DescribesTls inner tls) {} config.tls
  blacklistIps : Setting members (utf8 "blacklist_ips") (· = .ofTexts ·) [] config.blacklistIps
  blockHostnames :
    Setting members (utf8 "block_hostnames") (· = .ofTexts ·) [] config.blockHostnames

lemma tlsOfJson_object_eq_ok {tls : TlsConfig} :
    tlsOfJson (.object members) = .ok tls ↔ DescribesTls members tls := by
  simp only [tlsOfJson, bind_eq_ok, pure_eq_ok,
    Value.field_object_eq_ok fun _ _ => Value.toBool_eq_ok,
    Value.field_object_eq_ok fun _ _ => Value.toBytes_eq_ok]
  constructor
  · rintro ⟨insecure, hinsecure, key, hkey, certificate, hcertificate, rfl⟩
    exact ⟨hinsecure, hkey, hcertificate⟩
  · intro h
    exact ⟨_, h.insecureSkipVerify, _, h.privateKey, _, h.certificate, rfl⟩

lemma tlsOfJson_eq_ok {tls : TlsConfig} :
    tlsOfJson v = .ok tls ↔ ∃ inner, v = .object inner ∧ DescribesTls inner tls := by
  constructor
  · intro h
    obtain ⟨insecure, hinsecure, -⟩ := bind_eq_ok.1 h
    obtain ⟨inner, rfl⟩ := Value.exists_object_of_field hinsecure
    exact ⟨inner, rfl, tlsOfJson_object_eq_ok.1 h⟩
  · rintro ⟨inner, rfl, h⟩
    exact tlsOfJson_object_eq_ok.2 h

lemma ofJson_object_eq_ok : ofJson (.object members) = .ok config ↔ Describes members config := by
  simp only [ofJson, bind_eq_ok, pure_eq_ok,
    Value.field_object_eq_ok fun _ _ => Value.toInt32_eq_ok,
    Value.field_object_eq_ok fun _ _ => Value.toBytes_eq_ok,
    Value.field_object_eq_ok fun _ _ => Value.toTexts_eq_ok,
    Value.field_object_eq_ok fun _ _ => tlsOfJson_eq_ok]
  constructor
  · rintro ⟨_, hdial, _, hproxy, _, hduration, _, hagent, _, hreadSize, _, hwriteSize, _, hread, _,
      hwrite, _, hconns, _, htls, _, hips, _, hhosts, rfl⟩
    refine ⟨?_, hproxy, hagent, htls, hips, hhosts⟩
    simp only [numbers, List.forall_mem_cons]
    exact ⟨hdial, hduration, hreadSize, hwriteSize, hread, hwrite, hconns, by simp⟩
  · intro h
    have hnumbers := h.numbers
    simp only [numbers, List.forall_mem_cons] at hnumbers
    obtain ⟨hdial, hduration, hreadSize, hwriteSize, hread, hwrite, hconns, -⟩ := hnumbers
    exact ⟨_, hdial, _, h.proxy, _, hduration, _, h.userAgent, _, hreadSize, _, hwriteSize, _,
      hread, _, hwrite, _, hconns, _, h.tls, _, h.blacklistIps, _, h.blockHostnames, rfl⟩

lemma exists_object_of_ofJson (h : ofJson v = .ok config) : ∃ members, v = .object members := by
  obtain ⟨dialTimeout, hdial, -⟩ := bind_eq_ok.1 h
  exact Value.exists_object_of_field hdial

/-- **Which texts are accepted**: the objects whose members describe settings that pass the
checks. -/
lemma parse_eq_ok {text : Bytes} :
    parse text files = .ok config
      ↔ ∃ members, Value.parse text = .ok (.object members) ∧ Describes members config
          ∧ config.validate files = .ok () := by
  simp only [parse, bind_eq_ok, pure_eq_ok, mapError_eq_ok]
  constructor
  · rintro ⟨_, ⟨v, hparse, hsettings⟩, ⟨⟩, hvalid, rfl⟩
    obtain ⟨members, rfl⟩ := exists_object_of_ofJson hsettings
    exact ⟨members, hparse, ofJson_object_eq_ok.1 hsettings, hvalid⟩
  · rintro ⟨members, hparse, hdescribes, hvalid⟩
    exact ⟨config, ⟨_, hparse, ofJson_object_eq_ok.2 hdescribes⟩, (), hvalid, rfl⟩

/-! ## Numbers -/

/-- A number that is not negative is stored as itself exactly if it is an integer that fits. -/
lemma eq_integer_iff_of_stores {n : Int32} (hstores : Value.Stores v n) (hn : 0 ≤ n) :
    v = .integer n.toInt ↔ ∃ i, v = .integer i ∧ 0 ≤ i ∧ i ≤ 2147483647 := by
  have hnonneg : 0 ≤ n.toInt := by simpa [Int32.le_iff_toInt_le] using hn
  constructor
  · intro h
    exact ⟨n.toInt, h, hnonneg, Int.le_of_lt_add_one n.toInt_lt⟩
  · rintro ⟨i, rfl, hlow, hhigh⟩
    cases hstores with
    | integer hlast =>
      have hsize : Int32.size = 4294967296 := rfl
      rw [hlast, Int.bmod_eq_of_le (by omega) (by omega)]

/-- **Which numbers are accepted.**

* A text is accepted if it is an object whose members describe settings that pass the checks.
* In such a text every time and every size that is there is stored as a number that is not negative.
  It is stored as itself exactly if it is an integer from zero to the largest one of 32 bits; other
  integers have wrapped around, fractions are cut off, and truth values have become numbers. -/
theorem accepted_numbers (text : Bytes) (files : Files) :
    (∀ config, parse text files = .ok config
        ↔ ∃ members, Value.parse text = .ok (.object members) ∧ Describes members config
            ∧ config.validate files = .ok ())
      ∧ ∀ config members, parse text files = .ok config →
          Value.parse text = .ok (.object members) →
          ∀ entry ∈ config.numbers, ∀ v, (Value.object members).member? entry.1 = some v →
            Value.Stores v entry.2 ∧ 0 ≤ entry.2
              ∧ (v = .integer entry.2.toInt ↔ ∃ i, v = .integer i ∧ 0 ≤ i ∧ i ≤ 2147483647) := by
  refine ⟨fun config => parse_eq_ok, ?_⟩
  intro config members haccepted hparse entry hentry v hmember
  obtain ⟨members', hparse', hdescribes, hvalid⟩ := parse_eq_ok.1 haccepted
  obtain rfl := Value.object.inj (Except.ok.inj (hparse.symm.trans hparse'))
  have hstores := (hdescribes.numbers entry hentry).means hmember
  have hnonneg := (validate_eq_ok.1 hvalid).2.1 entry hentry
  exact ⟨hstores, hnonneg, eq_integer_iff_of_stores hstores hnonneg⟩

/-- The integer that a text has under a name, if it is a document that has one there. -/
def statedInteger? (text name : Bytes) : Option Int :=
  match (Value.parse text).toOption.bind (·.member? name) with
  | some (.integer i) => some i
  | _ => none

/-- Documents with an integer that does not fit, a fraction and a truth value, each for a time. -/
def coerced : List Bytes :=
  [utf8 "\x7b\"dial_timeout\": -4294967295\x7d", utf8 "\x7b\"dial_timeout\": 1.5\x7d",
    utf8 "\x7b\"dial_timeout\": true\x7d"]

/-- They are accepted as if the time were one second, which none of them says. -/
theorem coerced_numbers_are_accepted :
    coerced.map (parse · {}) = List.replicate 3 (.ok { dialTimeout := 1 })
      ∧ ∀ text ∈ coerced, ∀ members, Value.parse text = .ok (.object members) →
          (Value.object members).member? (utf8 "dial_timeout") ≠ some (.integer 1) := by
  constructor
  · decide +kernel
  · have hstated : ∀ text ∈ coerced, statedInteger? text (utf8 "dial_timeout") ≠ some 1 := by
      decide +kernel
    intro text htext members hparse hmember
    refine hstated text htext ?_
    simp only [statedInteger?, hparse, Except.toOption, Option.bind_some, hmember]

end ClientConfig

end MeteredHttp
