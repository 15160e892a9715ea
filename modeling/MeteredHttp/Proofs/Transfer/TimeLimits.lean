import MeteredHttp.Transport
import MeteredHttp.Proofs.ClientConfig
import Mathlib.Data.List.ReduceOption

/-!
# Time limits of transfers

A configuration has its time limits in seconds, in 32 bits each, and the handles of a client have
theirs in milliseconds.  The limit of a whole transfer is the sum of two, which may not fit.

* `TransferSettings.totalSeconds` is that sum as it is meant, and `TransferSettings.meantMs?` the
  limit that follows from it.
* **`TransferSettings.time_limits_exact_iff`** says which limits the handles have, and that they are
  the ones that are meant if the sum fits.
-/

namespace MeteredHttp

namespace TransferSettings

variable {config : ClientConfig} {files : Files}

/-- The time that a whole transfer may take, in seconds. -/
def totalSeconds (config : ClientConfig) : Int :=
  config.readTimeout.toInt + config.writeTimeout.toInt

/-- The limit of a whole transfer that is meant, in milliseconds; zero seconds are no limit. -/
def meantMs? (config : ClientConfig) : Option Int :=
  if 0 < totalSeconds config then some (1000 * totalSeconds config) else none

/-- The numbers that a handle is told. -/
def numbers (settings : TransferSettings) : List Int :=
  settings.connectTimeoutMs :: settings.maxConnects ::
    [settings.timeoutMs, settings.bufferSize, settings.uploadBufferSize,
      settings.maxLifetimeConn].reduceOption

/-! ## Sums of 32 bits -/

/-- The sum of two numbers that are not negative is exact if it fits. -/
lemma toInt_add_eq_iff {a b : Int32} (ha : 0 ≤ a.toInt) (hb : 0 ≤ b.toInt) :
    (a + b).toInt = a.toInt + b.toInt ↔ a.toInt + b.toInt ≤ Int32.maxValue.toInt := by
  have hmax : Int32.maxValue.toInt = 2147483647 := rfl
  constructor
  · intro h
    have hlt := (a + b).toInt_lt
    omega
  · intro h
    rw [Int32.toInt_add, Int.bmod_eq_of_le (by omega) (by omega)]

/-- A sum that does not fit becomes negative. -/
lemma toInt_add_neg {a b : Int32} (h : Int32.maxValue.toInt < a.toInt + b.toInt) :
    (a + b).toInt < 0 := by
  have hmax : Int32.maxValue.toInt = 2147483647 := rfl
  have ha := a.toInt_lt
  have hb := b.toInt_lt
  have hwrap : (a.toInt + b.toInt).bmod (2 ^ 32) = a.toInt + b.toInt - 2 ^ 32 := by
    rw [← Int.sub_bmod_right, Int.bmod_eq_of_le (by omega) (by omega)]
    rfl
  rw [Int32.toInt_add, hwrap]
  omega

/-! ## Limits -/

lemma ifPositive_eq (n : Int32) : ifPositive n = if 0 < n.toInt then some n.toInt else none := by
  simp only [ifPositive, Int32.lt_iff_toInt_lt, Int32.toInt_zero]

/-- A number of a configuration that was checked is not negative. -/
lemma toInt_nonneg (h : config.validate files = .ok ()) {name : Bytes} {n : Int32}
    (hentry : (name, n) ∈ config.numbers) : 0 ≤ n.toInt := by
  have hnonneg := (ClientConfig.validate_eq_ok.1 h).2.1 _ hentry
  simpa [Int32.le_iff_toInt_le] using hnonneg

lemma connectTimeout_pos (config : ClientConfig) : 0 < config.connectTimeout.toInt := by
  rw [ClientConfig.connectTimeout]
  split
  next hset => simpa [Int32.lt_iff_toInt_lt] using hset
  next => decide

lemma connectionsPerHost_pos (config : ClientConfig) : 0 < config.connectionsPerHost.toInt := by
  rw [ClientConfig.connectionsPerHost]
  split
  next hset => simpa [Int32.lt_iff_toInt_lt] using hset
  next => decide

/-- The limit of a whole transfer is the one that is meant, or there is none. -/
lemma timeoutMs_ofConfig (hread : 0 ≤ config.readTimeout.toInt)
    (hwrite : 0 ≤ config.writeTimeout.toInt) :
    (ofConfig config).timeoutMs
      = if totalSeconds config ≤ Int32.maxValue.toInt then meantMs? config else none := by
  simp only [ofConfig, ifPositive_eq]
  by_cases hfits : totalSeconds config ≤ Int32.maxValue.toInt
  · have hsum : (config.readTimeout + config.writeTimeout).toInt = totalSeconds config :=
      (toInt_add_eq_iff hread hwrite).2 hfits
    rw [hsum, if_pos hfits, meantMs?]
    split
    next => rw [Option.map_some, Int.mul_comm]
    next => rfl
  · have hneg := toInt_add_neg (Int.not_le.1 hfits)
    rw [if_neg hfits, if_neg (by omega)]
    rfl

/-- What is meant is lost where the sum does not fit. -/
lemma timeoutMs_eq_meantMs?_iff (hread : 0 ≤ config.readTimeout.toInt)
    (hwrite : 0 ≤ config.writeTimeout.toInt) :
    (ofConfig config).timeoutMs = meantMs? config
      ↔ totalSeconds config ≤ Int32.maxValue.toInt := by
  rw [timeoutMs_ofConfig hread hwrite]
  by_cases hfits : totalSeconds config ≤ Int32.maxValue.toInt
  · simp [hfits]
  · have hpos : 0 < totalSeconds config := by
      have hmax : Int32.maxValue.toInt = 2147483647 := rfl
      omega
    simp [hfits, meantMs?, hpos]

lemma bounds_of_ifPositive {a : Int32} {n : Int} (h : ifPositive a = some n) :
    0 < n ∧ n ≤ Int32.maxValue.toInt := by
  rw [ifPositive_eq, Option.ite_none_right_eq_some] at h
  obtain ⟨hpos, hn⟩ := h
  obtain rfl := Option.some.inj hn
  exact ⟨hpos, Int.le_of_lt_add_one a.toInt_lt⟩

/-- All numbers that a handle is told are positive, and no greater than a time in milliseconds. -/
lemma bounds_of_mem_numbers {n : Int} (h : n ∈ (ofConfig config).numbers) :
    0 < n ∧ n ≤ 1000 * Int32.maxValue.toInt := by
  have hmax : Int32.maxValue.toInt = 2147483647 := rfl
  have hconnect := connectTimeout_pos config
  have hconnectLt := config.connectTimeout.toInt_lt
  have hconns := connectionsPerHost_pos config
  have hconnsLt := config.connectionsPerHost.toInt_lt
  simp only [numbers, List.mem_cons, List.reduceOption_mem_iff, List.not_mem_nil, or_false] at h
  rcases h with rfl | rfl | htimeout | hread | hwrite | hlifetime
  · simp only [ofConfig]
    omega
  · simp only [ofConfig]
    omega
  · obtain ⟨total, htotal, rfl⟩ := Option.map_eq_some_iff.1 htimeout.symm
    have hbounds := bounds_of_ifPositive htotal
    omega
  · have hbounds := bounds_of_ifPositive hread.symm
    omega
  · have hbounds := bounds_of_ifPositive hwrite.symm
    omega
  · have hbounds := bounds_of_ifPositive hlifetime.symm
    omega

/-- **Which limits handles have.**

* The limit for opening a connection is positive, and exact.
* The limit of a whole transfer is the one that is meant if the sum fits.  Otherwise the sum wraps
  around, and there is no limit.
* Every other number that a handle is told is computed without overflow, too. -/
theorem time_limits_exact_iff (config : ClientConfig) (files : Files)
    (h : config.validate files = .ok ()) :
    (0 < config.connectTimeout.toInt
        ∧ (ofConfig config).connectTimeoutMs = 1000 * config.connectTimeout.toInt)
      ∧ ((config.readTimeout + config.writeTimeout).toInt = totalSeconds config
          ↔ totalSeconds config ≤ Int32.maxValue.toInt)
      ∧ ((ofConfig config).timeoutMs = meantMs? config
          ↔ totalSeconds config ≤ Int32.maxValue.toInt)
      ∧ (Int32.maxValue.toInt < totalSeconds config → (ofConfig config).timeoutMs = none)
      ∧ ∀ n ∈ (ofConfig config).numbers, Int64.minValue.toInt ≤ n ∧ n ≤ Int64.maxValue.toInt := by
  have hread : (utf8 "read_timeout", config.readTimeout) ∈ config.numbers := by
    simp [ClientConfig.numbers]
  have hwrite : (utf8 "write_timeout", config.writeTimeout) ∈ config.numbers := by
    simp [ClientConfig.numbers]
  replace hread := toInt_nonneg h hread
  replace hwrite := toInt_nonneg h hwrite
  refine ⟨⟨connectTimeout_pos config, Int.mul_comm _ _⟩, toInt_add_eq_iff hread hwrite,
    timeoutMs_eq_meantMs?_iff hread hwrite, ?_, ?_⟩
  · intro hlarge
    rw [timeoutMs_ofConfig hread hwrite, if_neg (Int.not_le.2 hlarge)]
  · intro n hn
    have hbounds := bounds_of_mem_numbers hn
    have hmax : Int32.maxValue.toInt = 2147483647 := rfl
    have hlow : Int64.minValue.toInt = -9223372036854775808 := rfl
    have hhigh : Int64.maxValue.toInt = 9223372036854775807 := rfl
    omega

/-- The longest limit of a whole transfer. -/
theorem time_limits_exact_iff_longest :
    let config : ClientConfig := { readTimeout := 2147483646, writeTimeout := 1 }
    config.validate {} = .ok () ∧ totalSeconds config ≤ Int32.maxValue.toInt
      ∧ (ofConfig config).timeoutMs = some 2147483647000 := by
  intro config
  have haccepted : config.validate {} = .ok () := rfl
  have hfits : totalSeconds config ≤ Int32.maxValue.toInt := by decide
  have hmeant : meantMs? config = some 2147483647000 := by decide
  have hlimit := (time_limits_exact_iff config {} haccepted).2.2.1.2 hfits
  exact ⟨haccepted, hfits, hlimit.trans hmeant⟩

/-- One second more, and the limit is gone. -/
theorem longer_limit_is_dropped :
    let config : ClientConfig := { readTimeout := 2147483647, writeTimeout := 1 }
    config.validate {} = .ok () ∧ meantMs? config = some 2147483648000
      ∧ (ofConfig config).timeoutMs = none :=
  ⟨rfl, by decide, by decide⟩

end TransferSettings

end MeteredHttp
