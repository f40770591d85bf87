import SecureElement.Proofs.Chip.Effects
/-!
# Access to the zones in the clear

Each zone is a row of bytes; the Data zone is its slots, one after the other. A word address names the byte at
which an access begins, and what a read or a write in the clear does is told byte by byte from there.
-/

namespace SecureElement

namespace Bytes

theorem toList_slice_eq_ofFn {n : Nat} (bytes : Bytes n) (start len : Nat) :
    (bytes.slice start len).toList = List.ofFn fun i : Fin len => bytes.byte (start + i.val) := by
  unfold slice
  rw [Vector.toList_ofFn]

theorem slice?_eq_some {n : Nat} {bytes : Bytes n} {start len : Nat} {part : List UInt8}
    (h : bytes.slice? start len = some part) : start + len ≤ n ∧ part = (bytes.slice start len).toList := by
  have hfits : start + len ≤ n := by
    by_contra hover
    rw [slice?, if_neg hover] at h
    cases h
  rw [slice?_eq bytes hfits] at h
  exact ⟨hfits, (Option.some.inj h).symm⟩

theorem getD_toList {n : Nat} (bytes : Bytes n) {i : Nat} (h : i < n) : bytes.toList.getD i 0 = bytes.byte i := by
  rw [byte_eq_getElem bytes h, List.getD_eq_getElem _ _ (by simpa using h), Vector.getElem_toList]

end Bytes

namespace Zone

/-- Where an access to a word address begins. In the Data zone it is the start of the slot that the word
lies in. -/
def offset (address : UInt8) : Zone → Nat
  | config => 4 * address.toNat
  | otp => 4 * address.toNat
  | data => 32 * (address.toNat / 8)

/-- How many bytes a write in the clear brings. -/
def unit : Zone → Nat
  | config => 4
  | otp => 32
  | data => 32

end Zone

namespace Memory

/-- A byte of a zone; past the end there are only zeros. -/
def byteAt (memory : Memory) : Zone → Nat → UInt8
  | .config, i => memory.config.byte i
  | .otp, i => memory.otp.byte i
  | .data, i => if h : i / 32 < 16 then (memory.key ⟨i / 32, h⟩).byte (i % 32) else 0

def bytesAt (memory : Memory) (zone : Zone) (start len : Nat) : List UInt8 :=
  List.ofFn fun i : Fin len => memory.byteAt zone (start + i.val)

/-- Memory `b` is memory `a` with the bytes laid over a zone from `start` on. -/
structure Written (a b : Memory) (zone : Zone) (start : Nat) (bytes : List UInt8) : Prop where
  length : bytes.length = zone.unit
  fits : start + bytes.length ≤ zone.size
  inside : ∀ i < bytes.length, b.byteAt zone (start + i) = bytes.getD i 0
  outside : ∀ other i, other ≠ zone ∨ i < start ∨ start + bytes.length ≤ i → b.byteAt other i = a.byteAt other i

variable {a b memory : Memory} {start : Nat} {bytes : List UInt8}

/-! ## Bytes of a zone -/

theorem byteAt_config (memory : Memory) (i : Nat) : memory.byteAt .config i = memory.config.byte i := rfl

theorem byteAt_otp (memory : Memory) (i : Nat) : memory.byteAt .otp i = memory.otp.byte i := rfl

theorem byteAt_data (memory : Memory) (slot : Fin 16) {i : Nat} (h : i < 32) :
    memory.byteAt .data (32 * slot.val + i) = (memory.key slot).byte i := by
  have hslot : (32 * slot.val + i) / 32 = slot.val := by omega
  have hrest : (32 * slot.val + i) % 32 = i := by omega
  simp only [byteAt, hslot, hrest, slot.isLt, dif_pos]

theorem byteAt_data_congr {i : Nat} (h : ∀ slot : Fin 16, slot.val = i / 32 → b.key slot = a.key slot) :
    b.byteAt .data i = a.byteAt .data i := by
  by_cases hslot : i / 32 < 16
  · simp only [byteAt, dif_pos hslot, h ⟨i / 32, hslot⟩ rfl]
  · simp only [byteAt, dif_neg hslot]

theorem bytesAt_eq_slice {n : Nat} {zone : Zone} (bytes : Bytes n) (h : ∀ i, memory.byteAt zone i = bytes.byte i)
    (start len : Nat) : memory.bytesAt zone start len = (bytes.slice start len).toList := by
  rw [Bytes.toList_slice_eq_ofFn, bytesAt]
  simp only [h]

theorem bytesAt_config (memory : Memory) : memory.bytesAt .config 0 88 = memory.config.toList := by
  rw [bytesAt_eq_slice memory.config memory.byteAt_config, ← Bytes.toList_take_slice _ (Nat.le_refl 88)]
  exact List.take_of_length_le (Nat.le_of_eq Vector.length_toList)

theorem bytesAt_otp (memory : Memory) : memory.bytesAt .otp 0 64 = memory.otp.toList := by
  rw [bytesAt_eq_slice memory.otp memory.byteAt_otp, ← Bytes.toList_take_slice _ (Nat.le_refl 64)]
  exact List.take_of_length_le (Nat.le_of_eq Vector.length_toList)

theorem bytesAt_data (memory : Memory) (slot : Fin 16) :
    memory.bytesAt .data (32 * slot.val) 32 = (memory.key slot).toList := by
  apply List.ext_getElem
  · rw [bytesAt, List.length_ofFn, Vector.length_toList]
  · intro i hi _
    have hlen : i < 32 := by
      rwa [bytesAt, List.length_ofFn] at hi
    rw [Vector.getElem_toList, ← Bytes.byte_eq_getElem _ hlen, ← byteAt_data memory slot hlen]
    exact List.getElem_ofFn ..

theorem serial_toList (memory : Memory) : memory.serial.toList =
    memory.bytesAt .config 0 4 ++ memory.bytesAt .config 8 4 ++ memory.bytesAt .config 12 1 := by
  have hjoin : memory.serial.toList = (memory.config.slice 0 4).toList ++ (memory.config.slice 8 5).toList := by
    unfold serial
    exact Vector.toList_append ..
  have hsplit : (memory.config.slice 8 5).toList =
      (memory.config.slice 8 4).toList ++ (memory.config.slice 12 1).toList := by
    rw [Bytes.toList_slice _ (by decide), Bytes.toList_slice _ (by decide), Bytes.toList_slice _ (by decide),
      show 5 = 4 + 1 from rfl, List.take_add, List.drop_drop]
  simp only [bytesAt_eq_slice memory.config memory.byteAt_config]
  rw [hjoin, hsplit, List.append_assoc]

/-! ## Writes -/

theorem Written.bytesAt {zone : Zone} (h : Written a b zone start bytes) :
    b.bytesAt zone start bytes.length = bytes := by
  apply List.ext_getElem
  · rw [Memory.bytesAt, List.length_ofFn]
  · intro i _ hi
    rw [← List.getD_eq_getElem _ 0 hi, ← h.inside i hi]
    exact List.getElem_ofFn ..

theorem byte_overwrite_inside {n : Nat} (old : Bytes n) (h : start + bytes.length ≤ n) {i : Nat}
    (hi : i < bytes.length) : (Bytes.overwrite old start bytes).byte (start + i) = bytes.getD i 0 := by
  rw [Bytes.byte_overwrite _ _ _ (by omega), if_pos (by omega), Nat.add_sub_cancel_left,
    List.getD_eq_getElem _ _ hi, List.getD_eq_getElem _ _ hi]

theorem byte_overwrite_outside {n : Nat} (old : Bytes n) {i : Nat}
    (h : i < start ∨ start + bytes.length ≤ i) : (Bytes.overwrite old start bytes).byte i = old.byte i := by
  rcases h with hlow | hhigh
  · exact Bytes.byte_overwrite_of_lt old bytes hlow
  · exact Bytes.byte_overwrite_of_le old hhigh

theorem written_writeConfig (memory : Memory) (hlength : bytes.length = 4) (hfits : start + 4 ≤ 88) :
    Written memory (memory.writeConfig start bytes) .config start bytes where
  length := hlength
  fits := by
    rw [hlength]
    exact hfits
  inside i hi := by
    rw [byteAt_config, writeConfig]
    exact byte_overwrite_inside _ (by omega) hi
  outside other i houtside := by
    cases other with
    | config =>
      rw [byteAt_config, byteAt_config, writeConfig]
      exact byte_overwrite_outside _ (houtside.resolve_left fun h => h rfl)
    | otp => rw [byteAt_otp, byteAt_otp, writeConfig_otp]
    | data => exact byteAt_data_congr fun slot _ => key_congr (writeConfig_data _ _ _) slot

theorem written_writeOtp (memory : Memory) (hlength : bytes.length = 32) (hfits : start + 32 ≤ 64) :
    Written memory (memory.writeOtp start bytes) .otp start bytes where
  length := hlength
  fits := by
    rw [hlength]
    exact hfits
  inside i hi := by
    rw [byteAt_otp, writeOtp]
    exact byte_overwrite_inside _ (by omega) hi
  outside other i houtside := by
    cases other with
    | config => rw [byteAt_config, byteAt_config, writeOtp_config]
    | otp =>
      rw [byteAt_otp, byteAt_otp, writeOtp]
      exact byte_overwrite_outside _ (houtside.resolve_left fun h => h rfl)
    | data => exact byteAt_data_congr fun slot _ => key_congr (writeOtp_data _ _ _) slot

theorem written_writeSlot (memory : Memory) (slot : Fin 16) (key : Block) :
    Written memory (memory.writeSlot slot key) .data (32 * slot.val) key.toList where
  length := Vector.length_toList
  fits := by
    rw [Vector.length_toList]
    change 32 * slot.val + 32 ≤ 512
    omega
  inside i hi := by
    have hlen : i < 32 := by
      rwa [Vector.length_toList] at hi
    rw [byteAt_data _ slot hlen, key_writeSlot, Bytes.getD_toList key hlen]
  outside other i houtside := by
    cases other with
    | config => rw [byteAt_config, byteAt_config, writeSlot_config]
    | otp => rw [byteAt_otp, byteAt_otp, writeSlot_otp]
    | data =>
      have hapart := houtside.resolve_left fun h => h rfl
      rw [Vector.length_toList] at hapart
      apply byteAt_data_congr
      intro other hother
      apply key_writeSlot_of_ne
      rintro rfl
      omega

end Memory

/-! ## What the chip does -/

namespace Chip

variable {k : Core} {param1 : UInt8} {zone : Zone}

theorem slotOfAddress?_eq_some {address : UInt8} {slot : Fin 16} (h : slotOfAddress? address = some slot) :
    slot.val = address.toNat / 8 := by
  have hshift : (address >>> 3).toNat = address.toNat / 8 := by
    rw [UInt8.toNat_shiftRight, Nat.shiftRight_eq_div_pow]
    rfl
  unfold slotOfAddress? at h
  dsimp only at h
  split at h
  · obtain rfl := Option.some.inj h
    exact hshift
  · cases h

theorem slice?_place_runs {n : Nat} (bytes : Bytes n) (h : ∀ i, k.memory.byteAt zone i = bytes.byte i)
    (hsize : zone.size = n) (start len : Nat) :
    Runs HasCore (orStatus .parseError (bytes.slice? start len)) k
      (fun payload l => start + len ≤ zone.size ∧ payload = k.memory.bytesAt zone start len ∧ l = k)
      (Refuses k) := by
  apply (orStatus_runs _ (.inr (.inl rfl))).mono _ fun _ _ h => h
  intro part l hl
  obtain ⟨hpart, rfl⟩ := hl
  obtain ⟨hfits, rfl⟩ := Bytes.slice?_eq_some hpart
  exact ⟨hsize ▸ hfits, (Memory.bytesAt_eq_slice bytes h start len).symm, rfl⟩

/-- A read answers the bytes at its place, all of which exist, and changes nothing. -/
theorem read_place_runs (hzone : Zone.ofParam? param1 = some zone) (address : UInt8) :
    let len := if Flag.decode 0x80 param1 then 32 else 4
    Runs HasCore (read param1 address) k
      (fun payload l => zone.offset address + len ≤ zone.size ∧
        payload = k.memory.bytesAt zone (zone.offset address) len ∧ l = k) (Refuses k) := by
  intro len
  have hstart : address.toNat * 4 = 4 * address.toNat := Nat.mul_comm _ _
  unfold read
  apply get_runs
  intro chip hcore
  subst hcore
  rw [hzone, hstart]
  cases zone with
  | config => exact slice?_place_runs chip.memory.config (fun _ => rfl) rfl _ _
  | otp => exact slice?_place_runs chip.memory.otp (fun _ => rfl) rfl _ _
  | data =>
    apply (orStatus_runs _ (.inl rfl)).bind
    intro slot l hl
    obtain ⟨hslot, rfl⟩ := hl
    apply guarded_runs
    intro hallowed
    have hlong : len = 32 := by
      by_contra hshort
      exact hallowed (.inr (.inl hshort))
    have hplace : Zone.data.offset address = 32 * slot.val := by
      rw [slotOfAddress?_eq_some hslot]
      rfl
    have hfits : 32 * slot.val + 32 ≤ Zone.data.size := by
      change 32 * slot.val + 32 ≤ 512
      omega
    rw [hplace, hlong]
    exact Runs.pure ⟨hfits, (Memory.bytesAt_data chip.memory slot).symm, rfl⟩

/-- A write in the clear lays its bytes over the place, or it is refused and changes nothing there. -/
theorem write_place_runs (hzone : Zone.ofParam? param1 = some zone) (param2 : Bytes 2) {data : List UInt8}
    (hclear : data.length ≠ 64) :
    Runs HasCore (write param1 param2 data) k
      (fun payload l => payload = [] ∧
        k.memory.Written l.memory zone (zone.offset (param2.byte 0)) data) (Refuses k) := by
  have hstart : (param2.byte 0).toNat * 4 = 4 * (param2.byte 0).toNat := Nat.mul_comm _ _
  unfold write
  apply get_runs
  intro chip hcore
  subst hcore
  dsimp only
  rw [hzone, hstart]
  cases zone with
  | config =>
    apply guarded_runs
    intro hallowed
    apply (modifyMemory_runs _ _).bind
    intro _ l hl
    subst hl
    simp only [not_or, not_not] at hallowed
    obtain ⟨_, hlength, _, hhigh⟩ := hallowed
    rw [UInt8.not_le, UInt8.lt_iff_toNat_lt] at hhigh
    have hword : lockWordAddress.toNat = 21 := rfl
    exact Runs.pure ⟨rfl, Memory.written_writeConfig chip.memory hlength (by omega)⟩
  | otp =>
    apply guarded_runs
    intro hallowed
    apply (modifyMemory_runs _ _).bind
    intro _ l hl
    subst hl
    simp only [not_or, not_not] at hallowed
    obtain ⟨_, _, hlength, hfits⟩ := hallowed
    exact Runs.pure ⟨rfl, Memory.written_writeOtp chip.memory hlength (Nat.le_of_not_lt hfits)⟩
  | data =>
    apply guarded_runs
    intro _
    apply (orStatus_runs _ (.inl rfl)).bind
    intro slot l hl
    obtain ⟨hslot, rfl⟩ := hl
    rw [if_neg fun hsealed => hclear hsealed.2]
    apply (orStatus_runs _ (.inl rfl)).bind
    intro key l hl
    obtain ⟨hkey, rfl⟩ := hl
    obtain rfl := Bytes.ofList?_eq_some_iff.1 hkey
    apply guarded_runs
    intro _
    apply (modifyMemory_runs _ _).bind
    intro _ l hl
    subst hl
    have hplace : Zone.data.offset (param2.byte 0) = 32 * slot.val := by
      rw [slotOfAddress?_eq_some hslot]
      rfl
    rw [hplace]
    exact Runs.pure ⟨rfl, Memory.written_writeSlot chip.memory slot key⟩

end Chip

end SecureElement
