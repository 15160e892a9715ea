import MeteredHttp.Transport
import MeteredHttp.Proofs.ClientConfig
import MeteredHttp.Proofs.Policy.Hosts

/-!
# Sound configurations

What a configuration that was accepted can be relied on for.

* `ClientConfig.Sound` says so, setting by setting, and `ClientConfig.validate_iff_sound` that the
  checks let exactly such configurations pass.
* `ClientConfig.make_eq_ok` says that a transport can be made for them, with a policy that has one
  entry for each text of the configuration.
* **`ClientConfig.accepted_iff_sound`** puts this together for the texts that configurations are
  read from.
-/

namespace MeteredHttp

namespace ClientConfig

open Json (Fault Value)

/-- Everything in a configuration is in order, given the files around the program. -/
structure Sound (config : ClientConfig) (files : Files) : Prop where
  tls :
    config.tls.privateKey = [] ∧ config.tls.certificate = []
      ∨ files.isRegular config.tls.privateKey = true ∧ files.isRegular config.tls.certificate = true
  dialTimeout : 0 ≤ config.dialTimeout
  maxConnDuration : 0 ≤ config.maxConnDuration
  readBufferSize : 0 ≤ config.readBufferSize
  writeBufferSize : 0 ≤ config.writeBufferSize
  readTimeout : 0 ≤ config.readTimeout
  writeTimeout : 0 ≤ config.writeTimeout
  maxConnsPerHost : 0 ≤ config.maxConnsPerHost
  blacklistIps : ∀ text ∈ config.blacklistIps, ∃ network, Network.parse text = .ok network
  blockHostnames : ∀ text ∈ config.blockHostnames, ∃ pattern, HostPattern.Writes pattern text

variable {config : ClientConfig} {files : Files} {policy : Policy}

/-! ## Checks -/

/-- An empty path leads nowhere. -/
lemma isRegular_nil (files : Files) : files.isRegular [] = false := rfl

lemma validateTls_eq_ok {tls : TlsConfig} :
    validateTls tls files = .ok ()
      ↔ tls.privateKey = [] ∧ tls.certificate = []
        ∨ files.isRegular tls.privateKey = true ∧ files.isRegular tls.certificate = true := by
  by_cases hkey : tls.privateKey = []
  · by_cases hcertificate : tls.certificate = [] <;>
      simp [validateTls, hkey, hcertificate, isRegular_nil]
  · by_cases hcertificate : tls.certificate = []
    · simp [validateTls, hkey, hcertificate, isRegular_nil]
    · cases hreadable : files.isRegular tls.certificate <;>
        cases hreadableKey : files.isRegular tls.privateKey <;>
        simp [validateTls, hkey, hcertificate, hreadable, hreadableKey]

/-- A policy has one range and one pattern for each text, in the order of the texts. -/
lemma policy_eq_ok :
    config.policy = .ok policy
      ↔ List.Forall₂ (fun text network => Network.parse text = .ok network) config.blacklistIps
          policy.networks
        ∧ List.Forall₂ (fun text pattern => HostPattern.Writes pattern text) config.blockHostnames
            policy.patterns := by
  rw [ClientConfig.policy, mapError_eq_ok, Policy.ofLists_eq_ok]
  simp only [Policy.readNetwork_eq_ok, Policy.readPattern_eq_ok]

lemma exists_policy_iff :
    (∃ policy, config.policy = .ok policy)
      ↔ (∀ text ∈ config.blacklistIps, ∃ network, Network.parse text = .ok network)
        ∧ ∀ text ∈ config.blockHostnames, ∃ pattern, HostPattern.Writes pattern text := by
  rw [← exists_forall₂_iff, ← exists_forall₂_iff]
  simp only [policy_eq_ok]
  constructor
  · rintro ⟨policy, hnetworks, hpatterns⟩
    exact ⟨⟨_, hnetworks⟩, _, hpatterns⟩
  · rintro ⟨⟨networks, hnetworks⟩, patterns, hpatterns⟩
    exact ⟨⟨networks, patterns⟩, hnetworks, hpatterns⟩

/-- **The checks let exactly the sound configurations pass.** -/
lemma validate_iff_sound : config.validate files = .ok () ↔ config.Sound files := by
  rw [validate_eq_ok, validateTls_eq_ok, exists_policy_iff]
  simp only [numbers, List.forall_mem_cons]
  constructor
  · rintro ⟨htls, ⟨hdial, hduration, hreadSize, hwriteSize, hread, hwrite, hconns, -⟩, hips, hhosts⟩
    exact ⟨htls, hdial, hduration, hreadSize, hwriteSize, hread, hwrite, hconns, hips, hhosts⟩
  · intro h
    exact ⟨h.tls, ⟨h.dialTimeout, h.maxConnDuration, h.readBufferSize, h.writeBufferSize,
      h.readTimeout, h.writeTimeout, h.maxConnsPerHost, by simp⟩, h.blacklistIps, h.blockHostnames⟩

/-! ## Transports -/

/-- What is made of a configuration is a transport with its policy. -/
lemma make_eq_ok {id : Nat} {t : Transport} :
    Transport.make id config files = .ok t
      ↔ config.validate files = .ok () ∧ ∃ policy, config.policy = .ok policy
          ∧ t = ⟨id, config, policy⟩ := by
  simp only [Transport.make, bind_eq_ok, pure_eq_ok]
  constructor
  · rintro ⟨⟨⟩, hvalid, policy, hpolicy, rfl⟩
    exact ⟨hvalid, policy, hpolicy, rfl⟩
  · rintro ⟨hvalid, policy, hpolicy, rfl⟩
    exact ⟨(), hvalid, policy, hpolicy, rfl⟩

/-! ## Documents -/

/-- **Which texts are accepted**: those that describe a sound configuration. -/
lemma parse_iff_sound {text : Bytes} :
    parse text files = .ok config
      ↔ ∃ members, Value.parse text = .ok (.object members) ∧ Describes members config
          ∧ config.Sound files := by
  simp only [parse_eq_ok, validate_iff_sound]

/-- The configuration that a text describes, before it is checked. -/
lemma readJson_eq_ok {text : Bytes} :
    (do ofJson (← Value.parse text)) = .ok config
      ↔ ∃ members, Value.parse text = .ok (.object members) ∧ Describes members config := by
  simp only [bind_eq_ok]
  constructor
  · rintro ⟨v, hparse, hsettings⟩
    obtain ⟨members, rfl⟩ := exists_object_of_ofJson hsettings
    exact ⟨members, hparse, ofJson_object_eq_ok.1 hsettings⟩
  · rintro ⟨members, hparse, hdescribes⟩
    exact ⟨_, hparse, ofJson_object_eq_ok.2 hdescribes⟩

/-- **What a text is refused for**: it describes no configuration, or one that is not sound. -/
lemma parse_eq_error {text : Bytes} {error : ParseError} (h : parse text files = .error error) :
    (∃ fault, error = .document fault)
        ∧ (∀ members config, Value.parse text = .ok (.object members) → ¬Describes members config)
      ∨ (∃ cause, error = .invalid cause)
        ∧ ∃ members config, Value.parse text = .ok (.object members) ∧ Describes members config
          ∧ ¬config.Sound files := by
  rcases bind_eq_error.1 h with hdocument | ⟨config, hconfig, hchecks⟩
  · obtain ⟨fault, hfault, rfl⟩ := mapError_eq_error.1 hdocument
    refine .inl ⟨⟨fault, rfl⟩, fun members config hparse hdescribes => ?_⟩
    rw [readJson_eq_ok.2 ⟨members, hparse, hdescribes⟩] at hfault
    cases hfault
  · obtain ⟨members, hparse, hdescribes⟩ := readJson_eq_ok.1 (mapError_eq_ok.1 hconfig)
    rcases bind_eq_error.1 hchecks with hinvalid | ⟨⟨⟩, -, hdone⟩
    · obtain ⟨cause, hcause, rfl⟩ := mapError_eq_error.1 hinvalid
      refine .inr ⟨⟨cause, rfl⟩, members, config, hparse, hdescribes, fun hsound => ?_⟩
      rw [validate_iff_sound.2 hsound] at hcause
      cases hcause
    · cases hdone

/-! ## The main result -/

/-- **Accepted configurations are sound, and sound configurations are accepted.**

* A text is accepted if it describes a sound configuration.  Otherwise it is refused, either as a
  document or for a setting.
* The checks let exactly the sound configurations pass.
* For a sound configuration a transport can be made.  Its policy is the one that the checks built:
  it has one range and one pattern for each text, in the order of the texts. -/
theorem accepted_iff_sound (files : Files) :
    (∀ text config, parse text files = .ok config
        ↔ ∃ members, Value.parse text = .ok (.object members) ∧ Describes members config
            ∧ config.Sound files)
      ∧ (∀ text error, parse text files = .error error →
          (∃ fault, error = .document fault)
              ∧ (∀ members config, Value.parse text = .ok (.object members) →
                  ¬Describes members config)
            ∨ (∃ cause, error = .invalid cause)
              ∧ ∃ members config, Value.parse text = .ok (.object members)
                  ∧ Describes members config ∧ ¬config.Sound files)
      ∧ (∀ config : ClientConfig, config.validate files = .ok () ↔ config.Sound files)
      ∧ ∀ config : ClientConfig, config.Sound files → ∃ policy, config.policy = .ok policy
          ∧ (∀ id, Transport.make id config files = .ok ⟨id, config, policy⟩)
          ∧ List.Forall₂ (fun text network => Network.parse text = .ok network)
              config.blacklistIps policy.networks
          ∧ List.Forall₂ (fun text pattern => HostPattern.Writes pattern text)
              config.blockHostnames policy.patterns := by
  refine ⟨fun _ _ => parse_iff_sound, fun _ _ => parse_eq_error, fun _ => validate_iff_sound, ?_⟩
  intro config hsound
  obtain ⟨policy, hpolicy⟩ := exists_policy_iff.2 ⟨hsound.blacklistIps, hsound.blockHostnames⟩
  obtain ⟨hnetworks, hpatterns⟩ := policy_eq_ok.1 hpolicy
  refine ⟨policy, hpolicy, fun id => ?_, hnetworks, hpatterns⟩
  exact make_eq_ok.2 ⟨validate_iff_sound.2 hsound, policy, hpolicy, rfl⟩

/-- A document with a key and a certificate, a range and a pattern. -/
def guarded : Bytes :=
  utf8 "\x7b\"tls_config\": \x7b\"private_key\": \"k.pem\", \"certificate\": \"c.pem\"\x7d, "
    ++ utf8 "\"blacklist_ips\": [\"10.0.0.0/8\"], \"block_hostnames\": [\"*.internal\"]\x7d"

/-- The files with the key and the certificate. -/
def keyFiles : Files where
  entries := [(utf8 "k.pem", .regular (utf8 "key")), (utf8 "c.pem", .regular (utf8 "certificate"))]

/-- The configuration that the document describes. -/
def guardedConfig : ClientConfig where
  tls := { privateKey := utf8 "k.pem", certificate := utf8 "c.pem" }
  blacklistIps := [utf8 "10.0.0.0/8"]
  blockHostnames := [utf8 "*.internal"]

/-- With the files it is accepted, without them it is not. -/
theorem accepted_iff_sound_guarded :
    parse guarded keyFiles = .ok guardedConfig ∧ guardedConfig.Sound keyFiles
      ∧ (∃ policy, Transport.make 0 guardedConfig keyFiles = .ok ⟨0, guardedConfig, policy⟩)
      ∧ parse guarded {} = .error (.invalid (.unreadable (utf8 "c.pem")))
      ∧ ¬guardedConfig.Sound {} := by
  have hparse : parse guarded keyFiles = .ok guardedConfig := by decide +kernel
  have hrefused : parse guarded {} = .error (.invalid (.unreadable (utf8 "c.pem"))) := by
    decide +kernel
  obtain ⟨members, -, -, hsound⟩ := ((accepted_iff_sound keyFiles).1 _ _).1 hparse
  obtain ⟨policy, -, hmake, -⟩ := (accepted_iff_sound keyFiles).2.2.2 _ hsound
  refine ⟨hparse, hsound, ⟨policy, hmake 0⟩, hrefused, fun hsound => ?_⟩
  have haccepted := ((accepted_iff_sound {}).2.2.1 guardedConfig).2 hsound
  revert haccepted
  decide

end ClientConfig

end MeteredHttp
