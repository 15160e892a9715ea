import MeteredHttp.HostPort
import MeteredHttp.Proofs.Numeral

/-!
# Joining and splitting

* `HostPort.splitBracketed_eq_some` and `HostPort.split?_append` say which host an address has, with
  brackets around it and without them.
* `HostPort.split?_join_iff` says which hosts come back from an address that they were joined to:
  those that are `HostPort.Separable`.
-/

namespace MeteredHttp.HostPort

/-- Hosts that an address shows unchanged: a name that does not begin like one in brackets, or
something with a colon in which no bracket closes. -/
def Separable (host : Bytes) : Prop := (58 ∉ host ∧ host.head? ≠ some 91) ∨ (58 ∈ host ∧ 93 ∉ host)

instance (host : Bytes) : Decidable (Separable host) := inferInstanceAs (Decidable (_ ∨ _))

variable {host address : Bytes}

/-- Neither colons nor brackets are in a port. -/
lemma not_mem_decimal {b : UInt8} (hdigit : Numeral.isDigitOf 10 b = false) (hsign : b ≠ 45)
    (port : Int) : b ∉ Numeral.decimal port := by
  intro hmem
  rcases Numeral.isDigitOf_of_mem_decimal hmem with h | h
  · rw [hdigit] at h
    cases h
  · exact hsign h

lemma splitBracketed_eq_some :
    splitBracketed address = some host
      ↔ 93 ∉ host ∧ ∃ rest, address = host ++ 93 :: 58 :: rest := by
  constructor
  · intro h
    simp only [splitBracketed] at h
    split at h
    next mark rest hdrop =>
      obtain rfl := Option.some.inj h
      obtain rfl := Bytes.eq_of_dropWhile_ne hdrop
      refine ⟨Bytes.not_mem_takeWhile_ne 93 address, rest, ?_⟩
      rw [← hdrop, List.takeWhile_append_dropWhile]
    next => cases h
  · rintro ⟨hclosing, rest, rfl⟩
    obtain ⟨htake, hdrop⟩ := Bytes.span_append hclosing (58 :: rest)
    simp only [splitBracketed, htake, hdrop]

lemma split?_append {port : Bytes} (hhost : 58 ∉ host) (hstart : host.head? ≠ some 91)
    (hport : 58 ∉ port) : split? (host ++ 58 :: port) = some host := by
  have hhead : ∀ rest, host ++ 58 :: port ≠ 91 :: rest := by
    intro rest heq
    cases host with
    | nil => simp at heq
    | cons b others => simp_all
  have hcount : (host ++ 58 :: port).count 58 = 1 := by
    simp [List.count_eq_zero_of_not_mem hhost, List.count_eq_zero_of_not_mem hport]
  rw [split?.eq_2 _ hhead, if_pos hcount, (Bytes.span_append hhost port).1]

/-- **Exactly the separable hosts come back** from the address that they make with a port. -/
lemma split?_join_iff (host : Bytes) (port : Int) :
    split? (join host port) = some host ↔ Separable host := by
  have hclosing : (93 : UInt8) ∉ Numeral.decimal port :=
    not_mem_decimal (by decide) (by decide) port
  by_cases hhost : 58 ∈ host
  · have hjoin : join host port = 91 :: (host ++ 93 :: 58 :: Numeral.decimal port) := by
      simp [join, hhost]
    rw [hjoin, split?, splitBracketed_eq_some]
    simp [Separable, hhost]
  · have hjoin : join host port = host ++ 58 :: Numeral.decimal port := by simp [join, hhost]
    rw [hjoin]
    constructor
    · intro hsplit
      refine .inl ⟨hhost, ?_⟩
      intro hstart
      obtain ⟨rest, rfl⟩ := List.head?_eq_some_iff.1 hstart
      -- The bracket that closes would have to be in the port.
      obtain ⟨hopen, behind, heq⟩ := splitBracketed_eq_some.1 hsplit
      have hmem : (93 : UInt8) ∈ rest ++ 58 :: Numeral.decimal port := by
        rw [← List.append_eq, heq]
        simp
      simp only [List.mem_append, List.mem_cons, hclosing, or_false] at hmem hopen
      rcases hmem with hmem | hmem
      · exact hopen (.inr hmem)
      · exact absurd hmem (by decide)
    · rintro (⟨-, hstart⟩ | ⟨hmem, -⟩)
      · exact split?_append hhost hstart (not_mem_decimal (by decide) (by decide) port)
      · exact absurd hmem hhost

end MeteredHttp.HostPort
