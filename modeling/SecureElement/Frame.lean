import SecureElement.Crc16
import SecureElement.Opcode
import SecureElement.Status
/-!
# Frames

A frame begins with a count byte, which covers all of it, and ends with the checksum. A command carries the opcode,
two parameters and data, and follows the word address of the command buffer on the bus. A response carries a payload;
a frame of four bytes carries a status, so there is no payload of one byte.
-/

namespace SecureElement

inductive FrameError where
  | tooShort (expected actual : Nat)
  | unexpectedLength (expected actual : Nat)
  | invalidCrc
  | dataTooLong (length : Nat)
  deriving DecidableEq, Repr

/-- The most data bytes a command can carry: its count byte covers seven bytes more. -/
def maxCommandData : Nat := 248

def FrameError.message : FrameError → String
  | .tooShort expected actual => s!"Frame too short: expected at least {expected} bytes, got {actual}"
  | .unexpectedLength expected actual => s!"Unexpected count byte: expected {expected}, got {actual}"
  | .invalidCrc => "Invalid CRC"
  | .dataTooLong length => s!"Command data too long: {length} bytes (max {maxCommandData})"

structure Command where
  opcode : Opcode
  param1 : UInt8
  param2 : Bytes 2
  data : List UInt8
  deriving DecidableEq, Repr

namespace Command

/-- Refuses data for which the count byte has no room. -/
def ofData (opcode : Opcode) (param1 : UInt8) (param2 : Bytes 2) (data : List UInt8) :
    Except FrameError Command :=
  if maxCommandData < data.length then .error (.dataTooLong data.length)
  else .ok ⟨opcode, param1, param2, data⟩

def simple (opcode : Opcode) (param1 : UInt8) (param2 : UInt16) : Command :=
  ⟨opcode, param1, Bytes.ofUInt16 param2, []⟩

def count (command : Command) : UInt8 :=
  UInt8.ofNat (7 + command.data.length)

def body (command : Command) : List UInt8 :=
  command.count :: command.opcode.code :: command.param1 :: (command.param2.toList ++ command.data)

def frame (command : Command) : List UInt8 :=
  Crc16.attach command.body

/-- What is written on the bus: the word address and the frame. -/
def encode (command : Command) : List UInt8 :=
  0x03 :: command.frame

/-- How the device takes a frame apart. The status is its answer to one that it cannot use. -/
def ofFrame (frame : List UInt8) : Except Status Command :=
  match frame with
  | count :: code :: param1 :: low :: high :: rest =>
    if frame.length < 7 ∨ count.toNat ≠ frame.length ∨ Crc16.isValid frame = false then
      .error .commError
    else match Opcode.ofCode? code with
      | none => .error .parseError
      | some opcode => .ok ⟨opcode, param1, Bytes.pair low high, rest.take (rest.length - 2)⟩
  | _ => .error .commError

def describe (command : Command) : String :=
  s!"Command({command.opcode.name} p1=0x{Hex.encodeUpper [command.param1]} " ++
    s!"p2={Hex.encodeUpper command.param2.toList} data={Hex.encodeUpper command.data})"

end Command

inductive Response where
  | status (status : Status)
  | payload (bytes : List UInt8)
  deriving DecidableEq, Repr

namespace Response

/-- The length of the frame around `expected` bytes. The sum is one of machine words, and wraps around. -/
def frameLength (expected : Nat) : Nat :=
  (expected + 3) % UInt64.size

/-- How many bytes to read for a payload of `expected` bytes: at least a status frame. -/
def size (expected : Nat) : Nat :=
  max (frameLength expected) 4

/-- The frame around a payload. -/
def encode (payload : List UInt8) : List UInt8 :=
  Crc16.attach (UInt8.ofNat (payload.length + 3) :: payload)

def encodeStatus (status : Status) : List UInt8 :=
  encode [status.toByte]

/-- The frame of a device that has just woken up. -/
def awakeFrame : List UInt8 := [0x04, 0x11, 0x33, 0x43]

/-- Takes the frame at the start of a buffer apart. What follows the frame is not looked at. -/
def parse (buffer : List UInt8) (expected : Nat) : Except FrameError Response :=
  match buffer with
  | count :: second :: _ :: _ :: _ =>
    if count = 4 then
      if Crc16.isValid (buffer.take 4) then .ok (.status (.ofByte second)) else .error .invalidCrc
    else if count.toNat ≠ frameLength expected then
      .error (.unexpectedLength (frameLength expected) count.toNat)
    else if buffer.length < count.toNat then
      .error (.tooShort count.toNat buffer.length)
    else if Crc16.isValid (buffer.take count.toNat) then
      .ok (.payload ((buffer.drop 1).take (count.toNat - 3)))
    else .error .invalidCrc
  | _ => .error (.tooShort 4 buffer.length)

end Response

end SecureElement
