import SecureElement.Chip.Basic
import SecureElement.Frame
/-!
# Command execution

What each command does to the chip and what it answers. A command that fails answers a status; whatever it
changed before that stays changed.
-/

namespace SecureElement

abbrev ChipM := EStateM Status Chip

namespace Chip

def refuse {α : Type} : ChipM α :=
  throw .executionError

/-- The value, if there is one; else the command fails with the status. -/
def orStatus {α : Type} (status : Status) : Option α → ChipM α
  | some value => return value
  | none => throw status

def modifyMemory (change : Memory → Memory) : ChipM Unit :=
  modify fun chip => { chip with memory := change chip.memory }

def slotOfAddress? (address : UInt8) : Option (Fin 16) :=
  let slot := (address >>> 3).toNat
  if h : slot < 16 then some ⟨slot, h⟩ else none

def slotOfParam? (slot : UInt8) : Option (Fin 16) :=
  if h : slot.toNat < 16 then some ⟨slot.toNat, h⟩ else none

/-- The eight bytes of a counter, the lowest first. -/
def counterBytes (counter : UInt64) : List UInt8 :=
  (List.range 8).map fun i => UInt8.ofNat (counter.toNat >>> (8 * i))

def drawRandom : ChipM Block := do
  modify fun chip => { chip with draws := chip.draws + 1 }
  return sha256 (counterBytes (← get).draws)

def read (param1 address : UInt8) : ChipM (List UInt8) := do
  let memory := (← get).memory
  let len := if Flag.decode 0x80 param1 then 32 else 4
  let start := address.toNat * 4
  match Zone.ofParam? param1 with
  | some .config => orStatus .parseError (Bytes.slice? memory.config start len)
  | some .otp => orStatus .parseError (Bytes.slice? memory.otp start len)
  | some .data =>
    let slot ← orStatus .executionError (slotOfAddress? address)
    if memory.dataLocked = false ∨ len ≠ 32 ∨ (memory.slotConfig slot).isSecret then refuse
    return (memory.key slot).toList
  | none => throw .parseError

/-- Consumes TempKey, even if the digest then turns out wrong. -/
def writeEncrypted (slot : Fin 16) (param1 : UInt8) (param2 : Bytes 2) (data : List UInt8) :
    ChipM (List UInt8) := do
  let chip ← get
  if (chip.memory.slotConfig slot).writePolicy = .never then refuse
  let tempKey ← orStatus .executionError chip.tempKey
  set { chip with tempKey := none }
  let ciphertext ← orStatus .executionError (Bytes.ofList? 32 (data.take 32))
  let plain := Bytes.xor ciphertext tempKey.value
  let expected := sha256
    (sessionMessage tempKey.value Opcode.write.code param1 param2 plain)
  if expected.toList ≠ data.drop 32 then refuse
  modifyMemory (·.writeSlot slot plain)
  return []

def write (param1 : UInt8) (param2 : Bytes 2) (data : List UInt8) : ChipM (List UInt8) := do
  let memory := (← get).memory
  let address := param2.byte 0
  let start := address.toNat * 4
  match Zone.ofParam? param1 with
  | some .config =>
    if memory.configLocked ∨ data.length ≠ 4 ∨ address < 4 ∨ lockWordAddress ≤ address then refuse
    modifyMemory (·.writeConfig start data)
    return []
  | some .otp =>
    if memory.configLocked = false ∨ memory.dataLocked ∨ data.length ≠ 32 ∨ 64 < start + 32 then
      refuse
    modifyMemory (·.writeOtp start data)
    return []
  | some .data =>
    if memory.configLocked = false then refuse
    let slot ← orStatus .executionError (slotOfAddress? address)
    if memory.dataLocked ∧ data.length = 64 then
      writeEncrypted slot param1 param2 data
    else
      let key ← orStatus .executionError (Bytes.ofList? 32 data)
      if memory.dataLocked ∧ (memory.slotConfig slot).writePolicy ≠ .always then refuse
      modifyMemory (·.writeSlot slot key)
      return []
  | none => throw .parseError

/-- Closes one lock byte. Unless told otherwise, the chip first compares the checksum of the zone. -/
def lock (param1 : UInt8) (crc : UInt16) : ChipM (List UInt8) := do
  let memory := (← get).memory
  let skipsCrc := Flag.decode 0x80 param1
  if Flag.decode 0x01 param1 then
    if memory.configLocked = false ∨ memory.dataLocked then refuse
    if skipsCrc = false ∧ Crc16.compute memory.dataImage ≠ crc then refuse
    modifyMemory Memory.lockData
  else
    if memory.configLocked then refuse
    if skipsCrc = false ∧ Crc16.compute memory.config.toList ≠ crc then refuse
    modifyMemory Memory.lockConfig
  return []

def loadTempKey (value : Block) (source : Bool) : ChipM Unit :=
  modify fun chip => { chip with tempKey := some ⟨value, source⟩ }

def nonce (mode : UInt8) (data : List UInt8) : ChipM (List UInt8) := do
  if mode = 0x03 then
    let value ← orStatus .parseError (Bytes.ofList? 32 data)
    loadTempKey value true
    return []
  else if (mode = 0x00 ∨ mode = 0x01) ∧ data.length = nonceInputSize then
    let random ← drawRandom
    loadTempKey (sha256 (random.toList ++ data ++ [0x16, mode, 0x00])) false
    return random.toList
  else throw .parseError

def genDig (zone slot : UInt8) : ChipM (List UInt8) := do
  let chip ← get
  if zone ≠ 0x02 ∨ chip.memory.configLocked = false then refuse
  let index ← orStatus .executionError (slotOfParam? slot)
  let previous ← orStatus .executionError chip.tempKey
  loadTempKey (sha256 (sessionMessage (chip.memory.key index) Opcode.genDig.code zone (Bytes.pair slot 0)
    previous.value)) previous.source
  return []

/-- TempKey for a command that asks for it with a source flag; a blank if it does not use it. -/
def tempKeyFor (used source : Bool) : ChipM Block := do
  if used then
    match (← get).tempKey with
    | some key => if key.source = source then return key.value else refuse
    | none => refuse
  else return Bytes.zero 32

/-- The slot for a keyed digest; slots for checking only take no part in one. -/
def digestSlot (slot : UInt8) : ChipM (Fin 16) := do
  let index ← orStatus .executionError (slotOfParam? slot)
  if ((← get).memory.slotConfig index).checkOnly then refuse
  return index

def otherData (memory : Memory) (mode : MacMode) : OtherData where
  otp8 := if mode.useOtpLow then memory.otp.slice 0 8 else Bytes.zero 8
  otp3 := if mode.useOtpHigh then memory.otp.slice 8 3 else Bytes.zero 3
  sn4 := if mode.useSerial then memory.config.slice 8 4 else Bytes.zero 4
  sn23 := if mode.useSerial then memory.config.slice 2 2 else Bytes.zero 2

def mac (modeByte slot : UInt8) (challenge : List UInt8) : ChipM (List UInt8) := do
  let mode := MacMode.ofByte modeByte
  let index ← digestSlot slot
  if mode.needsChallenge ≠ decide (challenge.length = 32) then throw .parseError
  let tempKey ← tempKeyFor (mode.firstTempKey || mode.secondTempKey) mode.sourceFlag
  let memory := (← get).memory
  let first := if mode.firstTempKey then tempKey else memory.key index
  let second := if mode.secondTempKey then tempKey.toList else challenge
  let other := otherData memory mode
  let message := first.toList ++ second ++ [0x08, modeByte, slot, 0x00] ++ other.otp8.toList ++
    other.otp3.toList ++ [0xEE] ++ other.sn4.toList ++ [0x01, 0x23] ++ other.sn23.toList
  return (sha256 message).toList

/-- Rebuilds a MAC message from the challenge, the 13 bytes of other data and the chip's own secrets, and
compares its digest with the response. -/
def checkMac (mode slot : UInt8) (data : List UInt8) : ChipM (List UInt8) := do
  if data.length ≠ 77 then throw .parseError
  let index ← orStatus .parseError (slotOfParam? slot)
  let challenge := data.take 32
  let response := (data.drop 32).take 32
  let other := data.drop 64
  let usesFirst := Flag.decode 0x02 mode
  let usesSecond := Flag.decode 0x01 mode
  let tempKey ← tempKeyFor (usesFirst || usesSecond) (Flag.decode 0x04 mode)
  let memory := (← get).memory
  let first := if usesFirst then tempKey else memory.key index
  let second := if usesSecond then tempKey.toList else challenge
  let otp8 := if Flag.decode 0x20 mode then memory.otp.toList.take 8 else List.replicate 8 0
  let message := first.toList ++ second ++ other.take 4 ++ otp8 ++ (other.drop 4).take 3 ++ [0xEE] ++
    (other.drop 7).take 4 ++ [0x01, 0x23] ++ (other.drop 11).take 2
  if (sha256 message).toList ≠ response then throw .checkMacMiscompare
  return []

def hmac (modeByte slot : UInt8) : ChipM (List UInt8) := do
  let mode := MacMode.ofByte modeByte
  let index ← digestSlot slot
  let tempKey ← tempKeyFor true mode.sourceFlag
  let memory := (← get).memory
  let other := otherData memory mode
  let message := List.replicate 32 0 ++ tempKey.toList ++ [0x11, modeByte, slot, 0x00] ++
    other.otp8.toList ++ other.otp3.toList ++ [0xEE] ++ other.sn4.toList ++ [0x01, 0x23] ++
    other.sn23.toList
  return (hmacSha256 (memory.key index).toList message).toList

/-- Runs one command. An empty answer stands for success. -/
def run (command : Command) : ChipM (List UInt8) :=
  let low := command.param2.byte 0
  match command.opcode with
  | .devRev => return Memory.revision.toList
  | .random => return (← drawRandom).toList
  | .read => read command.param1 low
  | .write => write command.param1 command.param2 command.data
  | .lock => lock command.param1 (Bytes.toUInt16 command.param2)
  | .nonce => nonce command.param1 command.data
  | .genDig => genDig command.param1 low
  | .mac => mac command.param1 low command.data
  | .checkMac => checkMac command.param1 low command.data
  | .hmac => hmac command.param1 low
  | .deriveKey => throw .parseError
  | .pause => throw .parseError
  | .updateExtra => throw .parseError

end Chip

end SecureElement
