import SecureElement.Proofs.Device.Zones
import SecureElement.Proofs.Provisioning.Memory
/-!
# The stages of a provisioning run

Each job that a run gives to the device either does its part of the work or leaves the memory where the next
run can take it up. In a calm environment a stage fails only over the OTP mode or over the key store.
-/

namespace SecureElement

open Device (Serves)

variable {σ : Type} [ChipBus σ] {calm : Prop} {k : Core}

namespace Provisioning

/-! ## Jobs of the device -/

def pairSlots : List UInt8 := [0, 2, 4, 6, 8, 10, 12, 14]

theorem drop_pairSlots {n : Nat} (h : n < 8) :
    pairSlots.drop n = UInt8.ofNat (2 * n) :: pairSlots.drop (n + 1) := by
  revert n
  decide

theorem pairSlot_even {n : Nat} (h : n < 8) : UInt8.ofNat (2 * n) % 2 = 0 := by
  revert n
  decide

theorem writeSlotConfigs_runs {n : Nat} (hn : n < 8) (memory : Memory) (hopen : memory.configLocked = false)
    (hk : k.memory = memory.writeConfig 20 (List.replicate n policyWord.toList).flatten) :
    Runs (Serves (σ := σ) calm)
      (Device.writeSlotConfigs (UInt8.ofNat (2 * n)) evenSlotConfig oddSlotConfig) k
      (fun _ l => l.memory = memory.writeConfig 20 (List.replicate (n + 1) policyWord.toList).flatten)
      (fun _ l => ¬calm ∧ Memory.SameButPolicies memory l.memory) := by
  have hslot : (UInt8.ofNat (2 * n)).toNat = 2 * n := by
    rw [UInt8.toNat_ofNat']
    omega
  have hlength : (List.replicate n policyWord.toList).flatten.length = n * 4 := by
    simp
  have hlocked : k.memory.configLocked = false := by
    rw [hk, Memory.configLocked_writeConfig _ (by omega), hopen]
  have hsame : Memory.SameButPolicies memory k.memory := by
    rw [hk]
    exact memory.sameButPolicies_writeConfig (by omega) (by omega)
  have hnext : k.memory.writeConfig (20 + 2 * (UInt8.ofNat (2 * n)).toNat) policyWord.toList =
      memory.writeConfig 20 (List.replicate (n + 1) policyWord.toList).flatten := by
    rw [hk, hslot, List.replicate_succ', List.flatten_concat, ← Memory.writeConfig_writeConfig, hlength]
    congr 1
    omega
  have hwrite : Runs (Serves (σ := σ) calm) _ k _ _ :=
    Device.writeSlotConfigs_runs (pairSlot_even hn) (by omega) evenSlotConfig oddSlotConfig hlocked
  rw [← policyWord, hnext] at hwrite
  refine hwrite.mono (fun _ _ hl => Core.memory_of_eq hl) ?_
  intro _ l' hcut
  obtain ⟨hrough, hl' | hl'⟩ := hcut.memory
  · exact ⟨hrough, by rw [hl']; exact hsame⟩
  · exact ⟨hrough, by rw [hl']; exact memory.sameButPolicies_writeConfig (by omega) (by simp; omega)⟩

theorem writeConfigZone_runs (hopen : k.memory.configLocked = false) :
    Runs (Serves (σ := σ) calm) writeConfigZone k (fun _ l => l.memory = k.memory.configured)
      (fun _ l => ¬calm ∧ Memory.SameButPolicies k.memory l.memory) := by
  -- between two writes the first `n` pairs of slots have their policies
  let inv (rest : List UInt8) (l : Core) : Prop := ∃ n ≤ 8, rest = pairSlots.drop n ∧
    l.memory = k.memory.writeConfig 20 (List.replicate n policyWord.toList).flatten
  have hloop : Runs (Serves (σ := σ) calm)
      (pairSlots.forM fun slot => Device.writeSlotConfigs slot evenSlotConfig oddSlotConfig) k
      (fun _ l => inv [] l) (fun _ l => ¬calm ∧ Memory.SameButPolicies k.memory l.memory) := by
    refine Runs.forM inv ?_ pairSlots k ⟨0, by omega, rfl, ?_⟩
    · intro slot rest l hl
      obtain ⟨n, hn, hrest, hl⟩ := hl
      have hlt : n < 8 := by
        rcases Nat.lt_or_eq_of_le hn with hlt | rfl
        · exact hlt
        · cases hrest
      rw [drop_pairSlots hlt] at hrest
      obtain ⟨rfl, rfl⟩ := List.cons.inj hrest
      exact (writeSlotConfigs_runs hlt k.memory hopen hl).mono
        (fun _ _ hl' => ⟨n + 1, hlt, rfl, hl'⟩) (fun _ _ h => h)
    · rw [List.replicate_zero, List.flatten_nil, Memory.writeConfig_nil]
  refine hloop.bind ?_
  intro _ l hl
  obtain ⟨n, hn, hrest, hl⟩ := hl
  have hall : n = 8 := by
    have hlength := congrArg List.length hrest
    simp [pairSlots] at hlength
    omega
  subst hall
  have hlength : (List.replicate 8 policyWord.toList).flatten.length = 32 := by
    simp
  have hsame : Memory.SameButPolicies k.memory l.memory := by
    rw [hl]
    exact k.memory.sameButPolicies_writeConfig (by omega) (by omega)
  have hlocked : l.memory.configLocked = false := by
    rw [← hsame.configLocked_eq, hopen]
  have hdone : l.memory.writeConfig (Device.otpModeAddress.toNat * 4) otpModeWord.toList =
      k.memory.configured := by
    rw [hl]
    exact k.memory.writeConfig_otpModeWord
  have hwrite : Runs (Serves (σ := σ) calm) _ l _ _ :=
    Device.writeWord_runs Device.otpModeAddress otpModeWord hlocked (by decide) (by decide)
  rw [hdone] at hwrite
  refine hwrite.mono (fun _ _ hl' => Core.memory_of_eq hl') ?_
  intro _ l' hcut
  obtain ⟨hrough, hl' | hl'⟩ := hcut.memory
  · exact ⟨hrough, by rw [hl']; exact hsame⟩
  · exact ⟨hrough, by rw [hl']; exact k.memory.sameButPolicies_configured⟩

theorem lockConfigZone_runs (hopen : k.memory.configLocked = false) :
    Runs (Serves (σ := σ) calm) lockConfigZone k (fun _ l => l.memory = k.memory.lockConfig)
      (fun _ l => ¬calm ∧ (l.memory = k.memory ∨ l.memory = k.memory.lockConfig)) := by
  refine (Device.configZone_runs.mono (fun _ _ h => h) ?_).bind ?_
  · intro _ l hcut
    exact ⟨hcut.1, .inl (congrArg Core.memory hcut.unchanged)⟩
  · intro bytes l hl
    obtain ⟨rfl, rfl⟩ := hl
    exact (Device.lock_config_runs hopen).mono (fun _ _ hl => Core.memory_of_eq hl)
      fun _ _ hcut => hcut.memory

/-! ### The OTP zone -/

theorem writeOtpBlock_runs {block : UInt8} (address : UInt8) (data : Block)
    (haddress : Zone.otp.blockAddress block = .ok address) (hend : address.toNat * 4 + 32 ≤ 64)
    (hconfig : k.memory.configLocked = true) (hopen : k.memory.dataLocked = false) :
    Runs (Serves (σ := σ) calm) (writeOtpBlock block data) k
      (fun _ l => l.memory = k.memory.writeOtp (address.toNat * 4) data.toList)
      (fun _ l => ¬calm ∧ l.memory.config = k.memory.config) := by
  unfold writeOtpBlock
  rw [haddress]
  refine (Device.require_ok_runs _).bind ?_
  intro _ l hl
  obtain ⟨rfl, rfl⟩ := hl
  refine (Device.writeBlock_otp_runs data hconfig hopen hend).mono
    (fun _ _ hl' => Core.memory_of_eq hl') ?_
  intro _ l' hcut
  obtain ⟨hrough, hl' | hl'⟩ := hcut.memory
  · exact ⟨hrough, congrArg Memory.config hl'⟩
  · exact ⟨hrough, by rw [hl', Memory.writeOtp_config]⟩

theorem writeOtpBlocks_runs (first second : Block) (hconfig : k.memory.configLocked = true)
    (hopen : k.memory.dataLocked = false) :
    Runs (Serves (σ := σ) calm) (do writeOtpBlock 0 first; writeOtpBlock 1 second) k
      (fun _ l => l.memory = (k.memory.writeOtp 0 first.toList).writeOtp 32 second.toList)
      (fun _ l => ¬calm ∧ l.memory.config = k.memory.config) := by
  refine (writeOtpBlock_runs 0 first rfl (by decide) hconfig hopen).bind ?_
  intro _ l hl
  have hsame : l.memory.config = k.memory.config := by
    rw [hl, Memory.writeOtp_config]
  refine (writeOtpBlock_runs 8 second rfl (by decide)
    (by rw [Memory.configLocked_congr hsame, hconfig])
    (by rw [Memory.dataLocked_congr hsame, hopen])).mono ?_ ?_
  · intro _ l' hl'
    rw [hl', hl]
    rfl
  · intro _ l' hl'
    exact ⟨hl'.1, hl'.2.trans hsame⟩

theorem writeOtpZone_eq :
    writeOtpZone (σ := σ) = (do
      let readOnly ← Device.isOtpReadOnly
      if !readOnly then throw (.precondition .otpNotReadOnly)
      (do writeOtpBlock 0 (Bytes.zero 32); writeOtpBlock 1 (Bytes.zero 32))
      (do writeOtpBlock 0 ((otpImage version).take 32); writeOtpBlock 1 ((otpImage version).drop 32))) := by
  simp only [writeOtpZone, bind_assoc]

theorem writeOtpZone_runs (hconfig : k.memory.configLocked = true) (hopen : k.memory.dataLocked = false) :
    Runs (Serves (σ := σ) calm) writeOtpZone k
      (fun _ l => k.memory.config.byte 18 = 0xAA ∧ l.memory = k.memory.withOtp (otpImage version))
      (fun _ l => l.memory.config = k.memory.config ∧ (calm → k.memory.config.byte 18 ≠ 0xAA)) := by
  rw [writeOtpZone_eq]
  refine (Device.isOtpReadOnly_runs.mono (fun _ _ h => h) ?_).bind ?_
  · intro _ l hcut
    exact ⟨congrArg (·.memory.config) hcut.unchanged, fun c => absurd c hcut.1⟩
  intro readOnly l hl
  obtain ⟨rfl, rfl⟩ := hl
  by_cases hmode : l.memory.config.byte 18 = 0xAA
  · have hread : (!(l.memory.config.byte 18 == 0xAA)) = false := by
      simp [hmode]
    rw [hread]
    refine ((writeOtpBlocks_runs _ _ hconfig hopen).mono (fun _ _ h => h) ?_).bind ?_
    · intro _ l' hl'
      exact ⟨hl'.2, fun c => absurd c hl'.1⟩
    intro _ l₁ hl₁
    have hsame : l₁.memory.config = l.memory.config := by
      rw [hl₁, Memory.writeOtp_config, Memory.writeOtp_config]
    refine (writeOtpBlocks_runs ((otpImage version).take 32) ((otpImage version).drop 32)
      (by rw [Memory.configLocked_congr hsame, hconfig])
      (by rw [Memory.dataLocked_congr hsame, hopen])).mono ?_ ?_
    · intro _ l₂ hl₂
      refine ⟨hmode, ?_⟩
      rw [hl₂, Vector.toList_take, Vector.toList_drop, Memory.writeOtp_writeOtp, hl₁,
        Memory.withOtp_writeOtp, Memory.withOtp_writeOtp]
    · intro _ l₂ hl₂
      exact ⟨hl₂.2.trans hsame, fun c => absurd c hl₂.1⟩
  · have hread : (!(l.memory.config.byte 18 == 0xAA)) = true := by
      simp [hmode]
    rw [hread]
    exact Runs.throw ⟨rfl, fun _ => hmode⟩

/-! ### The keys -/

theorem writeKeys_runs (keySet : KeySet) (hconfig : k.memory.configLocked = true)
    (hopen : k.memory.dataLocked = false) :
    Runs (Serves (σ := σ) calm) (writeKeys keySet) k
      (fun _ l => l.memory = { k.memory with data := keySet.keys })
      (fun _ l => ¬calm ∧ l.memory.config = k.memory.config) := by
  let entries := keySet.keys.toList.zipIdx
  have hentries : entries.length = 16 := by
    simp [entries]
  let inv (rest : List (Block × Nat)) (l : Core) : Prop := ∃ n ≤ 16, rest = entries.drop n ∧
    l.memory = k.memory.withKeys keySet.keys n
  have hloop : Runs (Serves (σ := σ) calm)
      (entries.forM fun entry => Device.writeKeySlot (UInt8.ofNat entry.2) entry.1) k
      (fun _ l => inv [] l) (fun _ l => ¬calm ∧ l.memory.config = k.memory.config) := by
    refine Runs.forM inv ?_ entries k ⟨0, by omega, rfl, (k.memory.withKeys_zero _).symm⟩
    intro entry rest l hl
    obtain ⟨key, slot⟩ := entry
    obtain ⟨n, hn, hrest, hl⟩ := hl
    have hlt : n < 16 := by
      have hlength := congrArg List.length hrest
      simp [hentries] at hlength
      omega
    rw [List.drop_eq_getElem_cons (by omega)] at hrest
    obtain ⟨hentry, rfl⟩ := List.cons.inj hrest
    rw [List.getElem_zipIdx, Vector.getElem_toList] at hentry
    obtain ⟨rfl, hslot⟩ := Prod.mk.inj hentry
    rw [Nat.zero_add] at hslot
    subst hslot
    have hsame : l.memory.config = k.memory.config := by
      rw [hl]
      rfl
    have hbyte : (UInt8.ofNat slot).toNat = slot := by
      rw [UInt8.toNat_ofNat']
      omega
    refine (Device.writeKeySlot_runs (UInt8.ofNat slot) (by omega) _
      (by rw [Memory.configLocked_congr hsame, hconfig])
      (by rw [Memory.dataLocked_congr hsame, hopen])).mono ?_ ?_
    · intro _ l' hl'
      refine ⟨slot + 1, hlt, rfl, ?_⟩
      rw [hl', Core.withMemory_memory, hl, ← Memory.writeSlot_withKeys _ _ hlt]
      simp only [hbyte]
    · intro _ l' hcut
      obtain ⟨hrough, hl' | hl'⟩ := hcut.memory
      · exact ⟨hrough, (congrArg Memory.config hl').trans hsame⟩
      · exact ⟨hrough, by rw [hl', Memory.writeSlot_config, hsame]⟩
  refine hloop.mono ?_ fun _ _ h => h
  intro _ l hl
  obtain ⟨n, hn, hrest, hl⟩ := hl
  have hall : n = 16 := by
    have hlength := congrArg List.length hrest
    simp [hentries] at hlength
    omega
  rw [hl, hall, Memory.withKeys_all]

end Provisioning

end SecureElement
