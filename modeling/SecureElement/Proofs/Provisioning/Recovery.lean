import SecureElement.Proofs.KeyStore.Keeps
import SecureElement.Proofs.Provisioning.Progress
/-!
# Recovery from interruptions

Whatever runs a new chip has been through and wherever they were interrupted, its memory is one that the next
run can go on from. Left alone, that run takes the chip to the end, and no trace of the interruptions remains.
-/

namespace SecureElement

open Provisioning (Advance Suits Refuses)

namespace Memory

/-- The memories that runs on a new chip can leave. -/
inductive Resumable : Memory → Prop where
  | drafted {memory : Memory} (hsame : SameButPolicies factory memory) : Resumable memory
  | initialized {memory : Memory} (hconfig : memory.config = factory.configured.lockConfig.config) :
      Resumable memory
  | personalized {memory : Memory} (hconfig : memory.config = factory.configured.lockConfig.lockData.config)
      (hotp : memory.otp = otpImage version) : Resumable memory

theorem resumable_factory : Resumable factory :=
  .drafted (.refl factory)

namespace Resumable

variable {κ : Type} [KeyStore κ] {memory : Memory}

/-! The locks tell which of the three it is. -/

theorem of_open (h : Resumable memory) (hopen : memory.configLocked = false) :
    SameButPolicies factory memory := by
  cases h with
  | drafted hsame => exact hsame
  | initialized hconfig =>
    rw [configLocked_congr hconfig, configLocked_lockConfig] at hopen
    cases hopen
  | personalized hconfig =>
    rw [configLocked_congr hconfig, configLocked_lockData, configLocked_lockConfig] at hopen
    cases hopen

theorem of_between (h : Resumable memory) (hlocked : memory.configLocked = true)
    (hopen : memory.dataLocked = false) : memory.config = factory.configured.lockConfig.config := by
  cases h with
  | drafted hsame =>
    rw [← hsame.configLocked_eq, configLocked_factory] at hlocked
    cases hlocked
  | initialized hconfig => exact hconfig
  | personalized hconfig =>
    rw [dataLocked_congr hconfig, dataLocked_lockData] at hopen
    cases hopen

theorem of_locked (h : Resumable memory) (hlocked : memory.dataLocked = true) :
    memory.config = factory.configured.lockConfig.lockData.config ∧ memory.otp = otpImage version := by
  cases h with
  | drafted hsame =>
    rw [← hsame.dataLocked_eq, dataLocked_factory] at hlocked
    cases hlocked
  | initialized hconfig =>
    rw [dataLocked_congr hconfig, dataLocked_lockConfig, dataLocked_configured, dataLocked_factory] at hlocked
    cases hlocked
  | personalized hconfig hotp => exact ⟨hconfig, hotp⟩

theorem advance {state state' : Memory × κ} (hstep : Advance state state') (h : Resumable state.1) :
    Resumable state'.1 := by
  cases hstep with
  | drafted hopen hsame => exact .drafted ((h.of_open hopen).trans hsame)
  | configured hopen => exact .initialized (by rw [(h.of_open hopen).configured_eq])
  | filled hlocked hopen hsame => exact .initialized (hsame.trans (h.of_between hlocked hopen))
  | personalized hlocked hopen =>
    refine .personalized ?_ (personalized_otp _ _)
    have hconfig := h.of_between hlocked hopen
    unfold Memory.personalized
    rw [lockData_config, lockData_config, hconfig]

theorem reflTransGen {state state' : Memory × κ} (hsteps : Relation.ReflTransGen Advance state state')
    (h : Resumable state.1) : Resumable state'.1 := by
  induction hsteps with
  | refl => exact h
  | tail _ hstep ih => exact ih.advance hstep

theorem configLocked_of_dataLocked (h : Resumable memory) (hlocked : memory.dataLocked = true) :
    memory.configLocked = true := by
  rw [configLocked_congr (h.of_locked hlocked).1, configLocked_lockData, configLocked_lockConfig]

theorem otpMode_of_configLocked (h : Resumable memory) (hlocked : memory.configLocked = true) :
    memory.config.byte 18 = 0xAA := by
  cases hdata : memory.dataLocked with
  | false => rw [h.of_between hlocked hdata, byte_otpMode_lockConfig_configured]
  | true =>
    rw [(h.of_locked hdata).1, lockData_config, Bytes.byte_overwrite_of_lt _ _ (by decide),
      byte_otpMode_lockConfig_configured]

end Resumable

/-- What provisioning makes of a new chip, but for the keys. -/
structure Provisioned (memory : Memory) : Prop where
  configLocked : memory.configLocked = true
  dataLocked : memory.dataLocked = true
  policies : ∀ word, 5 ≤ word → word ≤ 12 → memory.config.slice (4 * word) 4 = Bytes.quad 0x90 0x00 0x80 0x00
  otpMode : memory.config.slice 16 4 = Bytes.quad 0xC8 0x00 0xAA 0x00
  /-- Everything else in the Config zone, but for the two lock bytes, is as shipped. -/
  identity : ∀ i, i < 16 ∨ (52 ≤ i ∧ i ≠ 86 ∧ i ≠ 87) → memory.config.byte i = factory.config.byte i
  otp : memory.otp = otpImage version

theorem Resumable.provisioned {memory : Memory} (h : Resumable memory) (hlocked : memory.dataLocked = true) :
    Provisioned memory := by
  obtain ⟨hconfig, hotp⟩ := h.of_locked hlocked
  refine ⟨h.configLocked_of_dataLocked hlocked, hlocked, ?_, ?_, ?_, hotp⟩
  · intro word hlow hhigh
    rw [hconfig]
    have hall : ∀ word < 13, 5 ≤ word →
        factory.configured.lockConfig.lockData.config.slice (4 * word) 4 =
          Bytes.quad 0x90 0x00 0x80 0x00 := by
      decide +kernel
    exact hall word (by omega) hlow
  · rw [hconfig]
    decide +kernel
  · intro i hi
    rw [hconfig, lockData_config, Bytes.byte_overwrite_singleton _ _ (by omega), lockConfig_config,
      Bytes.byte_overwrite_singleton _ _ (by omega)]
    exact (factory.sameButPolicies_configured.config i (by omega)).symm

end Memory

/-! ## Histories -/

structure Call where
  κ : Type
  [keyStore : KeyStore κ]
  store : κ
  goal : Lifecycle
  keys : Option KeySet
  budget : Nat
  pacing : Pacing

attribute [instance] Call.keyStore

namespace Bench

def call (bench : Bench) (call : Call) : Bench :=
  (finalState (Provisioning.run call.goal call.keys (Device.handle bench call.budget call.pacing)
    call.store)).device.bus

def calls (bench : Bench) (calls : List Call) : Bench :=
  calls.foldl Bench.call bench

theorem resumable_call {bench : Bench} (call : Call) (hawake : bench.chip.awake = true)
    (h : bench.chip.memory.Resumable) :
    (bench.call call).chip.awake = true ∧ (bench.call call).chip.memory.Resumable := by
  obtain ⟨hsteps, hawake'⟩ := Provisioning.run_advances call.goal call.keys
    (Device.handle bench call.budget call.pacing) call.store hawake
  exact ⟨hawake', Memory.Resumable.reflTransGen hsteps h⟩

theorem resumable_calls {bench : Bench} (calls : List Call) (hawake : bench.chip.awake = true)
    (h : bench.chip.memory.Resumable) :
    (bench.calls calls).chip.awake = true ∧ (bench.calls calls).chip.memory.Resumable := by
  induction calls generalizing bench with
  | nil => exact ⟨hawake, h⟩
  | cons call calls ih =>
    obtain ⟨hawake', h'⟩ := resumable_call call hawake h
    exact ih hawake' h'

end Bench

/-- However the calls on a new chip were disturbed, a call that is left alone takes the chip to the end if the
store records the keys. -/
theorem personalization_resumes {κ : Type} [KeyStore κ] (bench : Bench) (calls : List Call)
    (keys : Option KeySet) (budget : Nat) (pacing : Pacing) (store : κ)
    (hnew : bench.chip.memory = .factory) (hawake : bench.chip.awake = true)
    (hfaults : (bench.calls calls).chip.faults = []) (hstalls : (bench.calls calls).chip.stalls = 0)
    (hstore : (bench.calls calls).chip.memory.dataLocked = false → ¬ Refuses keys store) :
    ∃ final, Provisioning.run .personalized keys (Device.handle (bench.calls calls).chip budget pacing) store =
        .ok .personalized final ∧
      final.device.bus.memory.Provisioned ∧
      ((bench.calls calls).chip.memory.dataLocked = false →
        ∀ given, keys = some given → final.device.bus.memory.data = given.keys) := by
  obtain ⟨hawake', hresumable⟩ :=
    Bench.resumable_calls calls hawake (hnew ▸ Memory.resumable_factory)
  have hcalm : (Device.handle (bench.calls calls).chip budget pacing).Undisturbed
      (Device.handle (bench.calls calls).chip budget pacing).retryBudget := by
    refine ⟨rfl, hfaults, ?_⟩
    change (bench.calls calls).chip.stalls < _
    rw [hstalls]
    exact Device.retryBudget_pos _
  obtain ⟨final, hrun, hsteps, _, hlocked, hkeys⟩ := Provisioning.run_succeeds keys
    (Device.handle (bench.calls calls).chip budget pacing) store hawake' hcalm
    (fun hwrong => Bool.noConfusion
      (hwrong.1.symm.trans (hresumable.configLocked_of_dataLocked hwrong.2)))
    hresumable.otpMode_of_configLocked hstore
  refine ⟨final, hrun, (Memory.Resumable.reflTransGen hsteps hresumable).provisioned hlocked, ?_⟩
  intro hopen given hgiven
  obtain ⟨keySet, hsuits, _, hdata⟩ := hkeys hopen
  rw [← hsuits given hgiven]
  exact hdata

/-- A new chip that damages the answer to its fourth command. -/
def Bench.disturbed : Bench :=
  ⟨{ awake := true }, [{}, {}, {}, {}, {}, {}, { faults := [.badCrc] }]⟩

/-- A call that gives up at the first damaged answer. -/
def Call.hasty : Call :=
  ⟨MemoryStore, {}, .personalized, none, 1, .typical⟩

theorem personalization_resumes_disturbed :
    ∃ final, Provisioning.run .personalized (some ⟨Vector.replicate 16 (Bytes.zero 32)⟩)
        (Device.handle (Bench.disturbed.calls [Call.hasty]).chip 1 .typical) ({} : MemoryStore) =
          .ok .personalized final ∧
      final.device.bus.memory.Provisioned ∧
      final.device.bus.memory.data = Vector.replicate 16 (Bytes.zero 32) := by
  have hopen : (Bench.disturbed.calls [Call.hasty]).chip.memory.dataLocked = false := by
    decide +kernel
  obtain ⟨final, hrun, hprovisioned, hdata⟩ := personalization_resumes Bench.disturbed [Call.hasty]
    (some ⟨Vector.replicate 16 (Bytes.zero 32)⟩) 1 .typical ({} : MemoryStore) rfl rfl (by decide +kernel)
    (by decide +kernel) fun _ => Provisioning.not_refuses_memoryStore _ _
  exact ⟨final, hrun, hprovisioned, hdata hopen _ rfl⟩

/-! ## Stores that record nothing -/

theorem FileStore.not_recorded (error : IoError) {store : FileStore}
    (h : store.files.resolve store.path = .error error) (keySet : KeySet) (store' : FileStore) :
    KeyStore.record keySet store ≠ .ok () store' := by
  have hwrite (bytes : List UInt8) : store.files.write store.path 0o600 bytes = .error error := by
    unfold FileSystem.write FileSystem.create
    rw [h]
    rfl
  intro hrecord
  rw [FileStore.record_eq, hwrite] at hrecord
  cases hrecord

/-- Where the directory of the key store is missing, a chip is not taken to the end. -/
theorem personalization_fails_without_directory :
    ¬ ∃ final, Provisioning.run .personalized none (Device.handle ({ awake := true } : Chip) 10 .typical)
      ({ path := "/nonexistent/keys" } : FileStore) = .ok .personalized final :=
  Provisioning.run_fails_of_not_recorded none rfl Memory.dataLocked_factory
    (FileStore.not_recorded .notFound (by decide +kernel))

end SecureElement
