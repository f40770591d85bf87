import SecureElement.Proofs.Chip.ZoneAccess
import SecureElement.Proofs.Device.Arguments
import SecureElement.Proofs.Device.Retries
/-!
# Zones as memory

A handle reads what the chip holds at the place that it asks for, and a write in the clear changes the bytes at its
place and no others. This holds for every address of every zone, however the chip is disturbed; only a write whose
attempts run out may have been carried out or not.
-/

namespace SecureElement

namespace Device

variable {σ : Type} [ChipBus σ] {calm : Prop} {k : Core}

/-! ## From the chip to the host -/

theorem exchange_run_runs (command : Command) {expected : Nat} {ok : List UInt8 → Core → Prop}
    (hexpected : command.answerLength = expected) (hlength : command.data.length ≤ maxCommandData)
    (hrun : Runs Chip.HasCore (Chip.run command) k ok (Chip.Refuses k)) :
    Runs (Serves (σ := σ) calm) (exchange command expected) k
      (fun answer l => ∃ payload, ok payload l ∧ answer = if payload = [] then [0] else payload)
      (fun error l => ((∃ status, error = .status command.opcode status) ∧ l.memory = k.memory) ∨
        (error.IsExhausted ∧ (l.memory = k.memory ∨ ∃ payload, ok payload l))) := by
  subst hexpected
  let chip : Chip := ({} : Chip).withCore k
  have hanswer := Chip.run_runs (k := k) command chip rfl
  have hdone := hrun chip rfl
  cases hresult : Chip.run command chip with
  | ok payload chip' =>
    rw [hresult] at hanswer hdone
    obtain ⟨_, _, harrives, _⟩ := hanswer
    obtain ⟨l, rfl, hok⟩ := hdone
    refine (exchange_runs hlength (Command.performs_answer hresult) (command.outcome?_arrived harrives)).mono ?_ ?_
    · intro answer l hl
      obtain ⟨houtcome, rfl⟩ := hl
      exact ⟨payload, hok, (Except.ok.inj houtcome).symm⟩
    · intro error l hl
      rcases hl with ⟨houtcome, _⟩ | ⟨_, ⟨n, rfl⟩, rfl | rfl⟩
      · cases houtcome
      · exact .inr ⟨⟨_, n, rfl⟩, .inl rfl⟩
      · exact .inr ⟨⟨_, n, rfl⟩, .inr ⟨payload, hok⟩⟩
  | error status chip' =>
    rw [hresult] at hanswer hdone
    obtain ⟨_, _, hrefusal, _⟩ := hanswer
    obtain ⟨l, rfl, _, hmemory⟩ := hdone
    refine (exchange_runs hlength (Command.performs_refusal hresult)
      (command.outcome?_refused command.answerLength hrefusal)).mono ?_ ?_
    · intro answer l hl
      cases hl.1
    · intro error l hl
      rcases hl with ⟨houtcome, rfl⟩ | ⟨_, ⟨n, rfl⟩, rfl | rfl⟩
      · exact .inl ⟨⟨status, (Except.error.inj houtcome).symm⟩, hmemory⟩
      · exact .inr ⟨⟨_, n, rfl⟩, .inl rfl⟩
      · exact .inr ⟨⟨_, n, rfl⟩, .inl hmemory⟩

theorem exchange_never_runs (command : Command) (expected : Nat) {α : Type} (f : List UInt8 → DeviceM σ α) :
    Runs (Asleep (σ := σ)) (exchange command expected >>= f) k (fun _ _ => False) (fun _ l => l = k) :=
  Runs.bind_never (exchange_asleep_runs command expected)

end Device

/-! ## Single accesses -/

inductive ZoneWrite where
  | word (zone : Zone) (address : UInt8) (data : Word)
  | block (zone : Zone) (address : UInt8) (data : Block)
  | key (slot : UInt8) (data : Block)

namespace ZoneWrite

def zone : ZoneWrite → Zone
  | word zone _ _ => zone
  | block zone _ _ => zone
  | key _ _ => .data

def start : ZoneWrite → Nat
  | word zone address _ => zone.offset address
  | block zone address _ => zone.offset address
  | key slot _ => 32 * slot.toNat

def bytes : ZoneWrite → List UInt8
  | word _ _ data => data.toList
  | block _ _ data => data.toList
  | key _ data => data.toList

def Makes (write : ZoneWrite) (a b : Memory) : Prop :=
  a.Written b write.zone write.start write.bytes

variable {σ : Type} [ChipBus σ]

def perform : ZoneWrite → DeviceM σ Unit
  | word zone address data => Device.writeWord zone address data
  | block zone address data => Device.writeBlock zone address data none
  | key slot data => Device.writeKeySlot slot data

end ZoneWrite

inductive ZoneRead where
  | word (zone : Zone) (address : UInt8)
  | block (zone : Zone) (address : UInt8)

namespace ZoneRead

def zone : ZoneRead → Zone
  | word zone _ => zone
  | block zone _ => zone

def start : ZoneRead → Nat
  | word zone address => zone.offset address
  | block zone address => zone.offset address

def length : ZoneRead → Nat
  | word _ _ => 4
  | block _ _ => 32

variable {σ : Type} [ChipBus σ]

def perform : ZoneRead → DeviceM σ (List UInt8)
  | word zone address => do return (← Device.readWord zone address).toList
  | block zone address => do return (← Device.readBlock zone address).toList

end ZoneRead

namespace Device

variable {σ : Type} [ChipBus σ] {calm : Prop} {k : Core} {zone : Zone} {param1 : UInt8}

/-- How a write in the clear to an awake chip can fail. -/
def WriteFails (write : ZoneWrite) (k : Core) (error : DeviceError) (l : Core) : Prop :=
  l.memory = k.memory ∨ (error.IsExhausted ∧ write.Makes k.memory l.memory)

theorem exchangeAck_write_runs (write : ZoneWrite) (hzone : Zone.ofParam? param1 = some write.zone)
    {address : UInt8} (hstart : write.zone.offset address = write.start) (hshort : write.bytes.length ≤ 32) :
    Runs (Serves (σ := σ) calm) (exchangeAck ⟨.write, param1, Bytes.pair address 0, write.bytes⟩) k
      (fun _ l => write.Makes k.memory l.memory) (WriteFails write k) := by
  have hlength : write.bytes.length ≤ maxCommandData := by
    unfold maxCommandData
    omega
  have hclear : write.bytes.length ≠ 64 := by
    omega
  have hrun := Chip.write_place_runs (k := k) hzone (Bytes.pair address 0) hclear
  have haddress : (Bytes.pair address 0).byte 0 = address := rfl
  rw [haddress, hstart] at hrun
  let command : Command := ⟨.write, param1, Bytes.pair address 0, write.bytes⟩
  refine Runs.bind ((exchange_run_runs command rfl hlength hrun).mono (fun _ _ h => h) ?_) ?_
  · intro error l hl
    rcases hl with ⟨_, hmemory⟩ | ⟨hexhausted, hmemory | ⟨_, _, hwritten⟩⟩
    · exact .inl hmemory
    · exact .inl hmemory
    · exact .inr ⟨hexhausted, hwritten⟩
  · intro answer l hl
    obtain ⟨_, ⟨_, hwritten⟩, _⟩ := hl
    exact Runs.pure hwritten

theorem writeBlock_place_runs (zone : Zone) (address : UInt8) (data : Block) :
    Runs (Serves (σ := σ) calm) (writeBlock zone address data none) k
      (fun _ l => (ZoneWrite.block zone address data).Makes k.memory l.memory)
      (WriteFails (.block zone address data) k) := by
  rw [writeBlock_none]
  exact exchangeAck_write_runs (.block zone address data) (Zone.ofParam?_blockParam zone) rfl
    (Nat.le_of_eq Vector.length_toList)

theorem writeKeySlot_place_runs (slot : UInt8) (data : Block) :
    Runs (Serves (σ := σ) calm) (writeKeySlot slot data) k
      (fun _ l => (ZoneWrite.key slot data).Makes k.memory l.memory) (WriteFails (.key slot data) k) := by
  unfold writeKeySlot
  by_cases hslot : slot.toNat < 16
  · have hplace : Zone.data.offset (slot <<< 3) = 32 * slot.toNat := by
      have hfound := Chip.slotOfAddress?_eq_some (Chip.slotOfAddress?_shift hslot)
      rw [Zone.offset, ← hfound]
    rw [blockAddress_data hslot]
    refine (require_ok_runs _).bind ?_
    intro _ l hl
    obtain ⟨rfl, rfl⟩ := hl
    rw [writeBlock_none]
    exact exchangeAck_write_runs (.key slot data) (Zone.ofParam?_blockParam .data) hplace
      (Nat.le_of_eq Vector.length_toList)
  · obtain ⟨error, hrefused⟩ := refused_blockAddress (σ := σ)
      (f := fun address => writeBlock .data address data none) hslot
    intro device hserves
    rw [hrefused device]
    exact ⟨k, hserves, .inl rfl⟩

/-- The bytes at a place arrive as they are, or nothing changes in the memory. -/
theorem exchangeBytes_read_runs {n : Nat} (hzone : Zone.ofParam? param1 = some zone) (address : UInt8)
    (hn : (if Flag.decode 0x80 param1 then 32 else 4) = n) :
    Runs (Serves (σ := σ) calm) (exchangeBytes n (.simple .read param1 address.toUInt16)) k
      (fun bytes l => zone.offset address + n ≤ zone.size ∧
        bytes.toList = k.memory.bytesAt zone (zone.offset address) n ∧ l = k)
      (fun _ l => l.memory = k.memory) := by
  have hrun := Chip.read_place_runs (k := k) hzone address
  dsimp only at hrun
  rw [hn] at hrun
  have hcommand : Chip.run (.simple .read param1 address.toUInt16) = Chip.read param1 address := by
    change Chip.read param1 ((Bytes.ofUInt16 address.toUInt16).byte 0) = Chip.read param1 address
    rw [Bytes.byte_ofUInt16_toUInt16]
  rw [← hcommand] at hrun
  have hanswer : (Command.simple .read param1 address.toUInt16).answerLength = n := hn
  refine ((exchange_run_runs _ hanswer (Nat.zero_le _) hrun).mono (fun _ _ h => h) ?_).bind ?_
  · intro error l hl
    rcases hl with ⟨_, hmemory⟩ | ⟨_, hmemory | ⟨_, _, _, rfl⟩⟩
    · exact hmemory
    · exact hmemory
    · rfl
  · intro answer l hl
    obtain ⟨payload, ⟨hfits, hpayload, rfl⟩, rfl⟩ := hl
    have hlong : payload.length = n := by
      rw [hpayload, Memory.bytesAt, List.length_ofFn]
    have hsome : payload ≠ [] := by
      rintro rfl
      rw [List.length_nil] at hlong
      rw [← hlong] at hn
      split at hn
      · cases hn
      · cases hn
    obtain ⟨bytes, hbytes⟩ := Bytes.exists_toList hlong
    rw [if_neg hsome, ← hbytes, Bytes.ofList?_toList]
    exact Runs.pure ⟨hfits, hbytes.trans hpayload, rfl⟩

end Device

namespace ZoneWrite

variable {σ : Type} [ChipBus σ] {k : Core}

theorem perform_runs (write : ZoneWrite) :
    Runs (Device.Serves (σ := σ) False) write.perform k (fun _ l => write.Makes k.memory l.memory)
      (Device.WriteFails write k) := by
  cases write with
  | word zone address data =>
    have hlength : (word zone address data).bytes.length = 4 := Vector.length_toList
    exact Device.exchangeAck_write_runs (word zone address data) (Zone.ofParam?_bits zone) rfl (by omega)
  | block zone address data => exact Device.writeBlock_place_runs zone address data
  | key slot data => exact Device.writeKeySlot_place_runs slot data

theorem perform_asleep_runs (write : ZoneWrite) :
    Runs (Device.Asleep (σ := σ)) write.perform k (fun _ _ => False) (fun _ l => l = k) := by
  cases write with
  | word zone address data => exact Device.exchange_never_runs _ _ _
  | block zone address data => exact Device.exchange_never_runs _ _ _
  | key slot data =>
    change Runs _ (Device.require (Zone.data.blockAddress slot) >>= _) k _ _
    cases Zone.data.blockAddress slot with
    | error error => exact Runs.bind_never (Runs.throw rfl)
    | ok address => exact Device.exchange_never_runs _ _ _

end ZoneWrite

namespace ZoneRead

variable {σ : Type} [ChipBus σ] {k : Core}

/-- The read is answered with what is at its place. -/
def Tells (read : ZoneRead) (memory : Memory) (bytes : List UInt8) : Prop :=
  read.start + read.length ≤ read.zone.size ∧ bytes = memory.bytesAt read.zone read.start read.length

theorem perform_runs (read : ZoneRead) :
    Runs (Device.Serves (σ := σ) False) read.perform k (fun bytes l => read.Tells k.memory bytes ∧ l = k)
      (fun _ l => l.memory = k.memory) := by
  cases read with
  | word zone address =>
    refine (Device.exchangeBytes_read_runs (Zone.ofParam?_bits zone) address ?_).bind ?_
    · rw [Zone.decode_bits]
      rfl
    · intro word l hl
      obtain ⟨hfits, hbytes, rfl⟩ := hl
      exact Runs.pure ⟨⟨hfits, hbytes⟩, rfl⟩
  | block zone address =>
    refine (Device.exchangeBytes_read_runs (Zone.ofParam?_blockParam zone) address ?_).bind ?_
    · rw [Zone.decode_blockParam]
      rfl
    · intro block l hl
      obtain ⟨hfits, hbytes, rfl⟩ := hl
      exact Runs.pure ⟨⟨hfits, hbytes⟩, rfl⟩

theorem perform_asleep_runs (read : ZoneRead) :
    Runs (Device.Asleep (σ := σ)) read.perform k (fun _ _ => False) (fun _ l => l = k) := by
  cases read with
  | word zone address => exact Runs.bind_never (Device.exchange_never_runs _ _ _)
  | block zone address => exact Runs.bind_never (Device.exchange_never_runs _ _ _)

end ZoneRead

/-! ## Whole zones -/

namespace Device

variable {σ : Type} [ChipBus σ] {α : Type}

/-- Whatever state the chip is in, the operation returns these bytes or fails; on a chip that is awake and not
disturbed it returns them. It changes nothing by that. -/
structure Tells (op : DeviceM σ α) (view : α → List UInt8) (device : Device σ) (bytes : List UInt8) : Prop where
  returned : ∀ a device', op device = .ok a device' →
    view a = bytes ∧ device'.bench.chip.core = device.bench.chip.core
  succeeds : device.bench.chip.awake = true → device.Undisturbed device.retryBudget →
    ∃ a device', op device = .ok a device'

theorem Tells.of_runs {op : DeviceM σ α} {view : α → List UInt8} {bytes : List UInt8} {device : Device σ}
    {k : Core} (hcore : device.bench.chip.core = k)
    (hserves : ∀ calm, Runs (Serves calm) op k (fun a l => view a = bytes ∧ l = k) (Cut calm k k))
    (hasleep : Runs Asleep op k (fun _ _ => False) (fun _ l => l = k)) : Tells op view device bytes where
  returned a device' hrun := by
    cases hawake : device.bench.chip.awake with
    | true =>
      obtain ⟨l, hserves', hview, rfl⟩ := (hserves False).of_ok ⟨hawake, hcore, False.elim⟩ hrun
      exact ⟨hview, hserves'.core.trans hcore.symm⟩
    | false =>
      obtain ⟨_, _, hnever⟩ := hasleep.of_ok ⟨hawake, hcore⟩ hrun
      exact hnever.elim
  succeeds hawake hcalm := by
    obtain ⟨a, device', _, hrun, _⟩ := (hserves True).exists_ok ⟨hawake, hcore, fun _ => hcalm⟩
      fun _ _ hcut => hcut.1 trivial
    exact ⟨a, device', hrun⟩

theorem configZone_tells (device : Device σ) :
    Tells configZone id device (device.bench.chip.memory.bytesAt .config 0 88) := by
  rw [Memory.bytesAt_config]
  exact .of_runs rfl (fun _ => configZone_runs) (Runs.bind_never (exchange_never_runs _ _ _))

theorem otpZone_tells (device : Device σ) :
    Tells otpZone Vector.toList device (device.bench.chip.memory.bytesAt .otp 0 64) := by
  have hrequire : Runs (Asleep (σ := σ)) (require (Zone.otp.blockAddress 0)) device.bench.chip.core
      (fun _ l => l = device.bench.chip.core) (fun _ l => l = device.bench.chip.core) := Runs.pure rfl
  rw [Memory.bytesAt_otp]
  refine .of_runs rfl (fun _ => otpZone_runs.mono ?_ fun _ _ h => h) ?_
  · rintro _ _ ⟨rfl, rfl⟩
    exact ⟨rfl, rfl⟩
  · refine hrequire.bind ?_
    rintro _ _ rfl
    exact Runs.bind_never (exchange_never_runs _ _ _)

theorem serialNumber_tells (device : Device σ) :
    let memory := device.bench.chip.memory
    Tells serialNumber Vector.toList device
      (memory.bytesAt .config 0 4 ++ memory.bytesAt .config 8 4 ++ memory.bytesAt .config 12 1) := by
  intro memory
  rw [← Memory.serial_toList]
  refine .of_runs rfl (fun _ => serialNumber_runs.mono ?_ fun _ _ h => h) ?_
  · rintro _ _ ⟨rfl, rfl⟩
    exact ⟨rfl, rfl⟩
  · exact Runs.bind_never (exchange_never_runs _ _ _)

theorem write_zone (device : Device σ) (write : ZoneWrite) :
    match write.perform device with
    | .ok _ device' => write.Makes device.bench.chip.memory device'.bench.chip.memory
    | .error error device' => device'.bench.chip.memory = device.bench.chip.memory ∨
      (error.IsExhausted ∧ write.Makes device.bench.chip.memory device'.bench.chip.memory) := by
  cases hawake : device.bench.chip.awake with
  | true =>
    have hruns := write.perform_runs device ⟨hawake, rfl, False.elim⟩
    cases hrun : write.perform device with
    | ok _ device' =>
      rw [hrun] at hruns
      obtain ⟨_, ⟨_, rfl, _⟩, hmakes⟩ := hruns
      exact hmakes
    | error error device' =>
      rw [hrun] at hruns
      obtain ⟨_, ⟨_, rfl, _⟩, hfails⟩ := hruns
      exact hfails
  | false =>
    obtain ⟨error, device', _, hrun, hasleep, rfl⟩ := write.perform_asleep_runs.exists_error ⟨hawake, rfl⟩
    rw [hrun]
    exact .inl (congrArg Core.memory hasleep.core)

theorem read_zone (device : Device σ) (read : ZoneRead) :
    match read.perform device with
    | .ok bytes device' =>
      read.Tells device.bench.chip.memory bytes ∧ device'.bench.chip.core = device.bench.chip.core
    | .error _ device' => device'.bench.chip.memory = device.bench.chip.memory := by
  cases hawake : device.bench.chip.awake with
  | true =>
    have hruns := read.perform_runs device ⟨hawake, rfl, False.elim⟩
    cases hrun : read.perform device with
    | ok bytes device' =>
      rw [hrun] at hruns
      obtain ⟨_, ⟨_, rfl, _⟩, htells, hcore⟩ := hruns
      exact ⟨htells, hcore⟩
    | error error device' =>
      rw [hrun] at hruns
      obtain ⟨_, ⟨_, rfl, _⟩, hmemory⟩ := hruns
      exact hmemory
  | false =>
    obtain ⟨error, device', _, hrun, hasleep, rfl⟩ := read.perform_asleep_runs.exists_error ⟨hawake, rfl⟩
    rw [hrun]
    exact congrArg Core.memory hasleep.core

/-- The zones behave as memory. A write in the clear puts its bytes at its place and touches no other byte of any
zone; one that fails touches nothing, or its attempts ran out after the chip had carried it out. A read returns the
bytes at its place. So whole zones and the serial number are read as the chip holds them. -/
theorem zones_are_memory (device : Device σ) :
    let chip := device.bench.chip
    (∀ write : ZoneWrite, match write.perform device with
      | .ok _ device' => write.Makes chip.memory device'.bench.chip.memory
      | .error error device' => device'.bench.chip.memory = chip.memory ∨
        (error.IsExhausted ∧ write.Makes chip.memory device'.bench.chip.memory)) ∧
    (∀ read : ZoneRead, match read.perform device with
      | .ok bytes device' => read.Tells chip.memory bytes ∧ device'.bench.chip.core = chip.core
      | .error _ device' => device'.bench.chip.memory = chip.memory) ∧
    Tells configZone id device (chip.memory.bytesAt .config 0 88) ∧
    Tells otpZone Vector.toList device (chip.memory.bytesAt .otp 0 64) ∧
    Tells serialNumber Vector.toList device (chip.memory.bytesAt .config 0 4 ++
      chip.memory.bytesAt .config 8 4 ++ chip.memory.bytesAt .config 12 1) :=
  ⟨device.write_zone, device.read_zone, configZone_tells device, otpZone_tells device,
    serialNumber_tells device⟩

/-- A word that is written to a disturbed chip is where it belongs, and the zone is read back as a whole. -/
theorem zones_are_memory_disturbed :
    let device : Device Chip := ofBus { awake := true, faults := [.badCrc], stalls := 2 }
    let write : ZoneWrite := .word .config 5 (Bytes.quad 1 2 3 4)
    ∃ device' bytes device'', write.perform device = .ok () device' ∧
      device'.bench.chip.memory.bytesAt .config 20 4 = [1, 2, 3, 4] ∧
      configZone device' = .ok bytes device'' ∧
      bytes = device'.bench.chip.memory.bytesAt .config 0 88 := by
  intro device write
  have hdone : (match write.perform device with
    | .ok _ device' =>
      let bench := device'.bench
      decide (bench.script = [] ∧ bench.chip.awake = true ∧ bench.chip.faults = [] ∧ bench.chip.stalls = 0)
    | .error _ _ => false) = true := by
    decide +kernel
  have hmemory := zones_are_memory device
  -- what follows is about whatever handle the write leaves, not about running it
  clear_value device
  have hwrite := hmemory.1 write
  cases hrun : write.perform device with
  | error error device' =>
    rw [hrun] at hdone
    cases hdone
  | ok _ device' =>
    rw [hrun] at hdone hwrite
    obtain ⟨hscript, hawake, hfaults, hstalls⟩ := of_decide_eq_true hdone
    have hcalm : device'.Undisturbed device'.retryBudget := by
      refine ⟨hscript, hfaults, ?_⟩
      rw [hstalls]
      exact device'.retryBudget_pos
    have hzone := (zones_are_memory device').2.2.1
    obtain ⟨bytes, device'', hread⟩ := hzone.succeeds hawake hcalm
    exact ⟨device', bytes, device'', rfl, hwrite.bytesAt, hread, (hzone.returned bytes device'' hread).1⟩

end Device

end SecureElement
