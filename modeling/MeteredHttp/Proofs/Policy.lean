import MeteredHttp.ClientConfig
import MeteredHttp.Proofs.Except

/-!
# What a policy is built from

* `Policy.ofLists_eq_ok` says that a policy has one range for each text of the first list and one
  pattern for each text of the second, in their order.
* `Policy.mem_patterns_of_ofLists` and `Policy.exists_network_of_ofLists` find what was read of a
  text.
-/

namespace MeteredHttp

namespace Policy

variable {networks patterns : List Bytes} {policy : Policy}

lemma ofLists_eq_ok :
    ofLists networks patterns = .ok policy
      ↔ List.Forall₂ (fun text network => readNetwork text = .ok network) networks policy.networks
        ∧ List.Forall₂ (fun text pattern => readPattern text = .ok pattern) patterns
            policy.patterns := by
  simp only [ofLists, bind_eq_ok, pure_eq_ok, mapM_eq_ok]
  constructor
  · rintro ⟨ranges, hranges, names, hnames, rfl⟩
    exact ⟨hranges, hnames⟩
  · rintro ⟨hranges, hnames⟩
    exact ⟨_, hranges, _, hnames, rfl⟩

lemma mem_patterns_of_ofLists (h : ofLists networks patterns = .ok policy) {text : Bytes}
    (htext : text ∈ patterns) {pattern : HostPattern}
    (hparse : HostPattern.parse? text = some pattern) : pattern ∈ policy.patterns := by
  obtain ⟨result, hresult, hread⟩ := exists_of_mem_of_forall₂ (ofLists_eq_ok.1 h).2 htext
  have hpattern : readPattern text = .ok pattern := by simp [readPattern, hparse]
  obtain rfl := Except.ok.inj (hpattern.symm.trans hread)
  exact hresult

lemma readNetwork_eq_ok {text : Bytes} {network : Network} :
    readNetwork text = .ok network ↔ Network.parse text = .ok network := by
  rw [readNetwork, mapError_eq_ok]

lemma exists_network_of_ofLists (h : ofLists networks patterns = .ok policy) {text : Bytes}
    (htext : text ∈ networks) : ∃ network ∈ policy.networks, Network.parse text = .ok network := by
  obtain ⟨network, hmem, hread⟩ := exists_of_mem_of_forall₂ (ofLists_eq_ok.1 h).1 htext
  exact ⟨network, hmem, readNetwork_eq_ok.1 hread⟩

end Policy

lemma ClientConfig.ofLists_of_policy {config : ClientConfig} {policy : Policy}
    (h : config.policy = .ok policy) :
    Policy.ofLists config.blacklistIps config.blockHostnames = .ok policy := by
  rwa [ClientConfig.policy, mapError_eq_ok] at h

end MeteredHttp
