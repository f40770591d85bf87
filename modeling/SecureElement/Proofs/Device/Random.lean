import SecureElement.Bus.Script
import SecureElement.Proofs.Device.Dialogue
/-!
# Random numbers

Random bytes are drawn block by block, with as many draws as they take and no more. On every bus they are what the
device has answered, in the order of the draws, and the first draw that fails is the last. Nothing is drawn of more
bytes than a buffer can have room for.
-/

namespace SecureElement

namespace Device

variable {σ : Type}

def drawCommand (updateSeed : Bool) : Command :=
  .simple .random (if updateSeed then 0x00 else 0x01) 0

def draw (updateSeed : Bool) (result : Except DeviceError Block) : Transaction :=
  ⟨drawCommand updateSeed, 32, result.map Vector.toList⟩

theorem take_encode_drawCommand (updateSeed : Bool) :
    (drawCommand updateSeed).encode.take 4 = [0x03, 7, 0x1B, if updateSeed then 0x00 else 0x01] := by
  cases updateSeed <;> rfl

section

variable [Bus σ]

/-- The device has answered draws with the blocks, one after the other. -/
inductive Draws (updateSeed : Bool) (device : Device σ) : List Block → Device σ → Prop where
  | nil : Draws updateSeed device [] device
  | concat {blocks : List Block} {block : Block} {middle device' : Device σ}
      (before : Draws updateSeed device blocks middle) (last : random updateSeed middle = .ok block device') :
      Draws updateSeed device (blocks ++ [block]) device'

/-- Blocks are drawn until there are enough of them or a draw fails. -/
theorem randomBlocks_draws (updateSeed : Bool) (count : Nat) (device : Device σ) :
    ∃ blocks middle, Draws updateSeed device blocks middle ∧
      ((∃ drawn, drawn.toList = blocks ∧ randomBlocks updateSeed count device = .ok drawn middle) ∨
        blocks.length < count ∧ ∃ error final, random updateSeed middle = .error error final ∧
          randomBlocks updateSeed count device = .error error final) := by
  induction count with
  | zero => exact ⟨[], device, .nil, .inl ⟨#v[], rfl, rfl⟩⟩
  | succ count ih =>
    unfold randomBlocks
    rw [bind_apply]
    obtain ⟨_, middle, hdraws, ⟨drawn, rfl, hblocks⟩ | ⟨hless, error, final, hlast, hblocks⟩⟩ := ih
    · rw [hblocks]
      dsimp only
      rw [bind_apply]
      cases hrandom : random updateSeed middle with
      | ok block device' =>
        exact ⟨_, device', hdraws.concat hrandom, .inl ⟨drawn.push block, Vector.toList_push, rfl⟩⟩
      | error error final =>
        have hlength : drawn.toList.length < count + 1 := by
          rw [Vector.length_toList]
          exact Nat.lt_succ_self count
        exact ⟨_, middle, hdraws, .inr ⟨hlength, error, final, hrandom, rfl⟩⟩
    · rw [hblocks]
      exact ⟨_, middle, hdraws, .inr ⟨Nat.lt_succ_of_lt hless, error, final, hlast, rfl⟩⟩

theorem random_conducts (updateSeed : Bool) :
    Conducts (random updateSeed : DeviceM (Logged σ) Block)
      (fun block transactions => transactions = [draw updateSeed (.ok block)])
      (fun error transactions => transactions = [draw updateSeed (.error error)]) :=
  exchangeBytes_conducts (by decide) (drawCommand updateSeed)

theorem Draws.dialogue {updateSeed : Bool} {device device' : Device (Logged σ)} {blocks : List Block}
    (h : Draws updateSeed device blocks device') :
    ∃ trace, Traced device.retryBudget (device.log ++ trace) device' ∧
      Dialogue device.retryBudget ((blocks.map .ok).map (draw updateSeed)) trace := by
  induction h with
  | nil => exact ⟨[], ⟨(List.append_nil _).symm, rfl⟩, .nil⟩
  | concat _ hlast ih =>
    obtain ⟨trace, htraced, hdialogue⟩ := ih
    have hrandom := random_conducts updateSeed _ _ _ htraced
    rw [hlast] at hrandom
    obtain ⟨_, htraced', _, trace', rfl, hdialogue', rfl⟩ := hrandom
    refine ⟨trace ++ trace', ?_, ?_⟩
    · rw [← List.append_assoc]
      exact htraced'
    · rw [List.map_append, List.map_append]
      exact hdialogue.append hdialogue'

end

theorem length_flatMap_toList (blocks : List Block) : (blocks.flatMap Vector.toList).length = 32 * blocks.length := by
  induction blocks with
  | nil => rfl
  | cons block blocks ih =>
    rw [List.flatMap_cons, List.length_append, Vector.length_toList, ih, List.length_cons]
    omega

theorem take_of_mem_written {updateSeed : Bool} {budget : Nat} {results : List (Except DeviceError Block)}
    {trace : List Access} {bytes : List UInt8} (h : Dialogue budget (results.map (draw updateSeed)) trace)
    (hbytes : bytes ∈ written trace) : bytes.take 4 = [0x03, 7, 0x1B, if updateSeed then 0x00 else 0x01] := by
  obtain ⟨_, hmem, rfl⟩ := h.exists_encode hbytes
  obtain ⟨result, _, rfl⟩ := List.mem_map.1 hmem
  exact take_encode_drawCommand updateSeed

variable [Bus σ] {n : Nat}

theorem randomBytes_of_room (hroom : 32 * ((n + 31) / 32) ≤ maxCapacity) (updateSeed : Bool) :
    (randomBytes n updateSeed : DeviceM σ (List UInt8)) = do
      let blocks ← randomBlocks updateSeed ((n + 31) / 32)
      return (blocks.toList.flatMap Vector.toList).take n := by
  unfold randomBytes
  exact if_neg (Nat.not_lt.2 (le_trans (Nat.mod_le _ _) hroom))

/-- Without room for the bytes the program has ended before the first draw. -/
theorem randomBytes_of_no_room (hroom : maxCapacity < 32 * ((n + 31) / 32))
    (hword : 32 * ((n + 31) / 32) < UInt64.size) (updateSeed : Bool) (device : Device σ) :
    randomBytes n updateSeed device = .error (.panicked "capacity overflow") device := by
  unfold randomBytes
  rw [Nat.mod_eq_of_lt hword, if_pos hroom]
  rfl

theorem randomBytes_draws (hroom : 32 * ((n + 31) / 32) ≤ maxCapacity) (updateSeed : Bool) (device : Device σ) :
    ∃ blocks middle, Draws updateSeed device blocks middle ∧
      ((blocks.length = (n + 31) / 32 ∧
          randomBytes n updateSeed device = .ok ((blocks.flatMap Vector.toList).take n) middle) ∨
        blocks.length < (n + 31) / 32 ∧ ∃ error final, random updateSeed middle = .error error final ∧
          randomBytes n updateSeed device = .error error final) := by
  rw [randomBytes_of_room hroom, bind_apply]
  obtain ⟨_, middle, hdraws, ⟨drawn, rfl, hblocks⟩ | ⟨hless, error, final, hlast, hblocks⟩⟩ :=
    randomBlocks_draws updateSeed ((n + 31) / 32) device
  · rw [hblocks]
    exact ⟨_, middle, hdraws, .inl ⟨Vector.length_toList, rfl⟩⟩
  · rw [hblocks]
    exact ⟨_, middle, hdraws, .inr ⟨hless, error, final, hlast, rfl⟩⟩

/-- On every bus, `n` random bytes are the first `n` of what the device has answered to exactly as many draws as they
take, or the first draw that fails is the last exchange and its error the result. -/
theorem randomBytes_drawn (hroom : 32 * ((n + 31) / 32) ≤ maxCapacity) (updateSeed : Bool) (device : Device σ) :
    let ended := randomBytes n updateSeed device.logged
    viewed unlogged ended = randomBytes n updateSeed device ∧
    (n = 0 → ended = .ok [] device.logged) ∧
    (∃ blocks middle results, Draws updateSeed device.logged blocks middle ∧
      Dialogue device.retryBudget (results.map (draw updateSeed)) (finalState ended).log ∧
      ((∃ bytes, ended = .ok bytes middle ∧ blocks.length = (n + 31) / 32 ∧ results = blocks.map .ok ∧
          bytes = (blocks.flatMap Vector.toList).take n ∧ bytes.length = n) ∨
        ∃ error final, ended = .error error final ∧ blocks.length < (n + 31) / 32 ∧
          results = blocks.map .ok ++ [.error error] ∧ random updateSeed middle = .error error final)) ∧
    ∀ bytes ∈ written (finalState ended).log,
      bytes.take 4 = [0x03, 7, 0x1B, if updateSeed then 0x00 else 0x01] := by
  have hview := (lockstep_unlogged.randomBytes n updateSeed).viewed_eq device.logged
  obtain ⟨blocks, middle, hdraws, hended⟩ := randomBytes_draws hroom updateSeed device.logged
  obtain ⟨trace, htraced, hdialogue⟩ := hdraws.dialogue
  refine ⟨hview, fun hzero => hzero ▸ rfl, ?_⟩
  rcases hended with ⟨hlength, hended⟩ | ⟨hless, error, final, hfailed, hended⟩
  · have htake : ((blocks.flatMap Vector.toList).take n).length = n := by
      rw [List.length_take, length_flatMap_toList]
      omega
    have hlog : middle.log = trace := htraced.log
    rw [hended, finalState, hlog]
    refine ⟨⟨blocks, middle, _, hdraws, hdialogue, .inl ?_⟩, fun _ => take_of_mem_written hdialogue⟩
    exact ⟨_, rfl, hlength, rfl, rfl, htake⟩
  · have hrandom := random_conducts updateSeed _ _ _ htraced
    rw [hfailed] at hrandom
    obtain ⟨_, hlast, _, trace', rfl, hdialogue', rfl⟩ := hrandom
    have hlog : final.log = trace ++ trace' := hlast.log
    have hall := hdialogue.append hdialogue'
    rw [← List.map_singleton, ← List.map_append] at hall
    rw [hended, finalState, hlog]
    refine ⟨⟨blocks, middle, _, hdraws, hall, .inr ?_⟩, fun _ => take_of_mem_written hall⟩
    exact ⟨error, final, rfl, hless, rfl, hfailed⟩

/-- Five bytes are the first of one block. -/
theorem randomBytes_drawn_five :
    let block : Block := Vector.range 32 |>.map UInt8.ofNat
    let device : Device Script := ofBus { answers := [Response.encode block.toList] }
    let ended := randomBytes 5 false device.logged
    32 * ((5 + 31) / 32) ≤ maxCapacity ∧ conclusion ended = .ok [0, 1, 2, 3, 4] ∧
      ∃ drawn, Dialogue device.retryBudget [draw false (.ok drawn)] (finalState ended).log ∧
        drawn.toList.take 5 = [0, 1, 2, 3, 4] := by
  intro block device ended
  have hroom : 32 * ((5 + 31) / 32) ≤ maxCapacity := by decide
  have hended : conclusion ended = .ok [0, 1, 2, 3, 4] := by decide +kernel
  refine ⟨hroom, hended, ?_⟩
  obtain ⟨_, _, ⟨blocks, middle, results, _, hdialogue, hresult⟩, _⟩ := randomBytes_drawn hroom false device
  rcases hresult with ⟨bytes, hok, hlength, rfl, hbytes, _⟩ | ⟨error, final, herror, _⟩
  · obtain ⟨drawn, rfl⟩ := List.length_eq_one_iff.1 hlength
    have hsame : bytes = [0, 1, 2, 3, 4] := by
      have hconclusion := congrArg conclusion hok
      exact Except.ok.inj (hconclusion.symm.trans hended)
    refine ⟨drawn, hdialogue, ?_⟩
    rw [← hsame, hbytes, List.flatMap_singleton]
  · have hconclusion := congrArg conclusion herror
    cases hconclusion.symm.trans hended

/-- Half of the machine words count more bytes than a buffer can have room for. Nothing is drawn of so many, although
the number of bytes in whole blocks is still a machine word, and a draw would have had its own result. -/
theorem randomBytes_panics :
    let n := 2 ^ 63
    let device : Device Script := ofBus {}
    let ended := randomBytes n false device.logged
    0 < (n + 31) / 32 ∧ 32 * ((n + 31) / 32) < UInt64.size ∧ (finalState ended).log = [] ∧
      conclusion ended = .error (.panicked "capacity overflow") ∧
      conclusion (random false device) = .error (.retryExhausted .random 10) := by
  intro n device ended
  have hended : ended = .error (.panicked "capacity overflow") device.logged :=
    randomBytes_of_no_room (by decide) (by decide) false device.logged
  refine ⟨by decide, by decide, ?_, ?_, by decide +kernel⟩
  · rw [hended]
    rfl
  · rw [hended]
    rfl

end Device

end SecureElement
