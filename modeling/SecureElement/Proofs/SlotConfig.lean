import Mathlib
import SecureElement.SlotConfig
/-!
# Slot policies in two bytes

The flags and the key of a byte lie under masks that have no bit in common, so that each can be read back whatever
the others are.
-/

namespace SecureElement

namespace Flag

variable {mask other : UInt8}

theorem or_and (a b mask : UInt8) : (a ||| b) &&& mask = (a &&& mask) ||| (b &&& mask) :=
  UInt8.toBitVec_inj.1 BitVec.and_or_distrib_right

theorem decode_or (mask a b : UInt8) : decode mask (a ||| b) = (decode mask a || decode mask b) := by
  rw [Bool.eq_iff_iff, Bool.or_eq_true, decode, decode, decode, bne_iff_ne, bne_iff_ne, bne_iff_ne, or_and, ne_eq,
    UInt8.or_eq_zero_iff, not_and_or]

theorem decode_eq_false (value : UInt8) (h : value &&& mask = 0) : decode mask value = false := by
  simp [decode, h]

theorem decode_encode (set : Bool) (h : mask ≠ 0) : decode mask (encode mask set) = set := by
  cases set <;> simp [encode, decode, h]

theorem encode_and (set : Bool) (h : other &&& mask = 0) : encode other set &&& mask = 0 := by
  cases set <;> simp [encode, h]

theorem and_and (value : UInt8) (h : other &&& mask = 0) : value &&& other &&& mask = 0 := by
  rw [UInt8.and_assoc, h, UInt8.and_zero]

theorem decode_encode_other (set : Bool) (h : other &&& mask = 0) : decode mask (encode other set) = false :=
  decode_eq_false _ (encode_and set h)

theorem decode_and (value : UInt8) (h : other &&& mask = 0) : decode mask (value &&& other) = false :=
  decode_eq_false _ (and_and value h)

end Flag

namespace SlotConfig

theorem key_and {key : UInt8} (h : key.toNat < 16) : key &&& 0x0F = key := by
  apply UInt8.toNat_inj.1
  rw [UInt8.toNat_and]
  change key.toNat &&& 2 ^ 4 - 1 = key.toNat
  rw [Nat.and_two_pow_sub_one_eq_mod, Nat.mod_eq_of_lt h]

theorem toBits_and (policy : WritePolicy) : policy.toBits &&& 0x0F = 0 := by
  cases policy <;> rfl

theorem decode_toBits (policy : WritePolicy) : Flag.decode 0x20 policy.toBits = false := by
  cases policy <;> rfl

theorem ofBits_toBits {low : UInt8} (policy : WritePolicy) (hencrypt : Flag.decode 0x40 low = false)
    (hnever : Flag.decode 0x80 low = false) : WritePolicy.ofBits (low ||| policy.toBits) = policy := by
  rw [WritePolicy.ofBits, Flag.decode_or, Flag.decode_or, hencrypt, hnever]
  cases policy <;> rfl

/-- A policy whose keys name existing slots is read back from its two bytes. -/
theorem decode_encode {config : SlotConfig} (hread : config.readKey.toNat < 16)
    (hwrite : config.writeKey.toNat < 16) : decode config.encode = config := by
  have hlow : config.encode.byte 0 = (config.readKey &&& 0x0F) ||| Flag.encode 0x10 config.checkOnly |||
      Flag.encode 0x20 config.singleUse ||| Flag.encode 0x40 config.encryptedRead |||
      Flag.encode 0x80 config.isSecret := rfl
  have hhigh : config.encode.byte 1 =
      (config.writeKey &&& 0x0F) ||| Flag.encode 0x20 config.deriveKey ||| config.writePolicy.toBits := rfl
  have hpolicy : WritePolicy.ofBits (config.encode.byte 1) = config.writePolicy := by
    rw [hhigh]
    apply ofBits_toBits <;>
      simp (disch := decide) only [Flag.decode_or, Flag.decode_and, Flag.decode_encode_other, Bool.or_false]
  unfold decode
  rw [hpolicy, hlow, hhigh]
  simp (disch := decide) only [Flag.or_and, Flag.decode_or, Flag.decode_and, Flag.decode_encode,
    Flag.decode_encode_other, Flag.encode_and, decode_toBits, toBits_and, UInt8.or_zero, Bool.or_false,
    Bool.false_or]
  simp only [key_and hread, key_and hwrite]

end SlotConfig

end SecureElement
