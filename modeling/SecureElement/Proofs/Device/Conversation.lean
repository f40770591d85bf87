import SecureElement.Proofs.Device.Protocol
/-!
# Conversations

What passes between host and device while an operation goes well: commands and the payloads they are answered
with, each carried by the trace of one exchange. An operation that fails has at least sent no Lock.
-/

namespace SecureElement

structure Turn where
  command : Command
  payload : List UInt8

namespace Turn

def Takes (turn : Turn) (trace : List Access) : Prop :=
  ∃ budget, Protocol turn.command turn.payload.length budget trace (.ok turn.payload)

def ack (command : Command) : Turn :=
  ⟨command, [Status.success.toByte]⟩

def readWord (zone : Zone) (address : UInt8) (word : Word) : Turn :=
  ⟨.simple .read zone.bits address.toUInt16, word.toList⟩

def writeWord (zone : Zone) (address : UInt8) (word : Word) : Turn :=
  ack ⟨.write, zone.bits, Bytes.pair address 0, word.toList⟩

def writeBlock (zone : Zone) (address : UInt8) (block : Block) : Turn :=
  ack ⟨.write, zone.blockParam, Bytes.pair address 0, block.toList⟩

def draw (block : Block) : Turn :=
  ⟨.simple .random 0x01 0, block.toList⟩

end Turn

/-- The trace carries the turns, one exchange after the other. -/
inductive Conversation : List Turn → List Access → Prop where
  | nil : Conversation [] []
  | cons {turn : Turn} {turns : List Turn} {trace traces : List Access} (h : turn.Takes trace)
      (rest : Conversation turns traces) : Conversation (turn :: turns) (trace ++ traces)

theorem Conversation.append {turns turns' : List Turn} {trace trace' : List Access}
    (h : Conversation turns trace) (h' : Conversation turns' trace') :
    Conversation (turns ++ turns') (trace ++ trace') := by
  induction h with
  | nil => exact h'
  | cons hturn _ ih =>
    rw [List.cons_append, List.append_assoc]
    exact .cons hturn ih

theorem Conversation.ne_nil {turn : Turn} {turns : List Turn} {trace : List Access}
    (h : Conversation (turn :: turns) trace) : trace ≠ [] := by
  cases h with
  | cons hturn rest =>
    obtain ⟨budget, hprotocol⟩ := hturn
    obtain ⟨outcome, accesses, rfl⟩ := hprotocol.first
    exact List.cons_ne_nil _ _

/-! ## Lock frames -/

def Access.lockFrame? : Access → Option (UInt8 × Bytes 2)
  | wrote (address :: _ :: code :: param1 :: low :: high :: _) _ =>
    if address = 0x03 ∧ code = Opcode.lock.code then some (param1, Bytes.pair low high) else none
  | _ => none

theorem Access.lockFrame?_encode (command : Command) (outcome : Except BusError Nat) :
    (wrote command.encode outcome).lockFrame? =
      if command.opcode = .lock then some (command.param1, command.param2) else none := by
  unfold Command.encode
  rw [Command.frame_eq]
  unfold lockFrame?
  dsimp only
  rw [Bytes.pair_byte]
  by_cases hlock : command.opcode = .lock
  · rw [if_pos hlock, if_pos ⟨rfl, congrArg Opcode.code hlock⟩]
  · rw [if_neg hlock, if_neg fun hcode => hlock (Opcode.code_injective hcode.2)]

def Quiet (trace : List Access) : Prop :=
  ∀ access ∈ trace, access.lockFrame? = none

theorem Quiet.append {trace trace' : List Access} (h : Quiet trace) (h' : Quiet trace') :
    Quiet (trace ++ trace') :=
  List.forall_mem_append.2 ⟨h, h'⟩

theorem Access.Serves.lockFrame? {command : Command} {expected : Nat} {access : Access}
    (h : access.Serves command expected) :
    access.lockFrame? = none ∨
      (command.opcode = .lock ∧ access.lockFrame? = some (command.param1, command.param2)) := by
  rcases h with ⟨outcome, rfl⟩ | ⟨outcome, rfl⟩
  · rw [lockFrame?_encode]
    by_cases hlock : command.opcode = .lock
    · rw [if_pos hlock]
      exact .inr ⟨hlock, rfl⟩
    · rw [if_neg hlock]
      exact .inl rfl
  · exact .inl rfl

theorem Protocol.quiet {command : Command} {expected budget : Nat} {trace : List Access}
    {result : Except DeviceError (List UInt8)} (h : Protocol command expected budget trace result)
    (hopcode : command.opcode ≠ .lock) : Quiet trace := by
  intro access haccess
  exact (h.serves access haccess).lockFrame?.resolve_right fun hlock => hopcode hlock.1

/-! ## Operations that converse -/

/-- A state beside which a log of accesses is kept. -/
class Recorded (s : Type) where
  log : s → List Access

instance {σ : Type} : Recorded (Device (Logged σ)) where
  log := Device.log

/-- The operation sends no Lock. If it ends well, it has conversed in turns as `tells` has it for its value. -/
def Converses {s ε α : Type} [Recorded s] (op : EStateM ε s α) (tells : α → List Turn → Prop) : Prop :=
  ∀ log, Runs (fun log state => Recorded.log state = log) op log
    (fun a log' => ∃ turns trace, log' = log ++ trace ∧ Conversation turns trace ∧ Quiet trace ∧ tells a turns)
    (fun _ log' => ∃ trace, log' = log ++ trace ∧ Quiet trace)

namespace Converses

variable {s ε α β : Type} [Recorded s] {tells tells' : α → List Turn → Prop}

theorem pure {a : α} (h : tells a []) : Converses (Pure.pure a : EStateM ε s α) tells :=
  fun log => Runs.pure ⟨[], [], (List.append_nil log).symm, .nil, nofun, h⟩

theorem throw {e : ε} : Converses (throw e : EStateM ε s α) tells :=
  fun log => Runs.throw ⟨[], (List.append_nil log).symm, nofun⟩

theorem mono {op : EStateM ε s α} (h : Converses op tells) (htells : ∀ a turns, tells a turns → tells' a turns) :
    Converses op tells' := by
  intro log
  apply (h log).mono _ fun _ _ h => h
  intro a log' hend
  obtain ⟨turns, trace, hlog, htalk, hquiet, ha⟩ := hend
  exact ⟨turns, trace, hlog, htalk, hquiet, htells a turns ha⟩

theorem bind {op : EStateM ε s α} {f : α → EStateM ε s β} {tells' : β → List Turn → Prop}
    (h : Converses op tells)
    (hf : ∀ a turns, tells a turns → Converses (f a) fun b turns' => tells' b (turns ++ turns')) :
    Converses (op >>= f) tells' := by
  intro log
  have hop := h log
  apply (hop.mono (fun _ _ hend => hend) fun _ _ hend => hend).bind
  intro a log₁ hend
  obtain ⟨turns, trace, rfl, htalk, hquiet, ha⟩ := hend
  apply ((hf a turns ha) (log ++ trace)).mono
  · intro b log' hend
    obtain ⟨turns', trace', rfl, htalk', hquiet', hb⟩ := hend
    exact ⟨turns ++ turns', trace ++ trace', List.append_assoc _ _ _, htalk.append htalk',
      hquiet.append hquiet', hb⟩
  · intro e log' hend
    obtain ⟨trace', rfl, hquiet'⟩ := hend
    exact ⟨trace ++ trace', List.append_assoc _ _ _, hquiet.append hquiet'⟩

theorem throw_bind {e : ε} (f : α → EStateM ε s β) {tells' : β → List Turn → Prop} :
    Converses (MonadExcept.throw e >>= f) tells' :=
  fun log => Runs.throw ⟨[], (List.append_nil log).symm, nofun⟩

theorem forM {ι : Type} {f : ι → EStateM ε s PUnit} {turn : ι → Turn} :
    ∀ xs : List ι, (∀ x ∈ xs, Converses (f x) fun _ turns => turns = [turn x]) →
      Converses (xs.forM f) fun _ turns => turns = xs.map turn
  | [], _ => pure rfl
  | x :: xs, h => by
    obtain ⟨hx, hxs⟩ := List.forall_mem_cons.1 h
    apply hx.bind
    intro _ turns hturns
    apply (forM xs hxs).mono
    intro _ turns' hturns'
    rw [hturns, hturns', List.map_cons, List.singleton_append]

theorem guarded {c : Prop} [Decidable c] {e : ε} {f : PUnit → EStateM ε s α}
    (h : ¬ c → Converses (f ⟨⟩) tells) : Converses (if c then MonadExcept.throw e >>= f else f ⟨⟩) tells := by
  split
  · exact throw_bind _
  · next hc => exact h hc

end Converses

namespace Device

variable {σ α : Type}

theorem require_converses (value : Except PreconditionError α) :
    Converses (require value : DeviceM (Logged σ) α) fun a turns => value = .ok a ∧ turns = [] := by
  cases value with
  | ok value => exact Converses.pure ⟨rfl, rfl⟩
  | error error => exact Converses.throw

theorem emit_converses (event : Event) :
    Converses (emit event : DeviceM (Logged σ) Unit) fun _ turns => turns = [] := by
  intro log device hlog
  exact ⟨log, hlog, [], [], (List.append_nil log).symm, .nil, nofun, rfl⟩

variable [Bus σ]

theorem exchange_converses {command : Command} {expected : Nat} (hword : expected < UInt64.size)
    (hopcode : command.opcode ≠ .lock) :
    Converses (exchange command expected : DeviceM (Logged σ) (List UInt8)) fun payload turns =>
      turns = [⟨command, payload⟩] ∧ payload.length = expected ∧
        ∃ access : Access, access.settles? command expected = some (.ok payload) := by
  intro log device hlog
  obtain ⟨trace, htrace, hcourse⟩ := exchange_course command expected device
  have hprotocol := hcourse.protocol hword device.retryBudget_pos
  have hquiet := hprotocol.quiet hopcode
  change device.log = log at hlog
  rw [hlog] at htrace
  cases hrun : exchange command expected device with
  | ok payload device' =>
    rw [hrun] at htrace hprotocol
    have hlength := hprotocol.length payload rfl
    have htakes : Turn.Takes ⟨command, payload⟩ trace := ⟨device.retryBudget, hlength ▸ hprotocol⟩
    have htalk := Conversation.nil.cons htakes
    rw [List.append_nil] at htalk
    rcases hprotocol.ends with ⟨_, last, _, hlast, _⟩ | ⟨hresult, _⟩
    · exact ⟨_, htrace, _, trace, rfl, htalk, hquiet, rfl, hlength, last, hlast⟩
    · cases hresult
  | error error device' =>
    rw [hrun] at htrace
    exact ⟨_, htrace, trace, rfl, hquiet⟩

theorem exchangeBytes_converses {command : Command} {n : Nat} (hword : n < UInt64.size)
    (hopcode : command.opcode ≠ .lock) :
    Converses (exchangeBytes n command : DeviceM (Logged σ) (Bytes n)) fun bytes turns =>
      turns = [⟨command, bytes.toList⟩] := by
  apply (exchange_converses hword hopcode).bind
  intro payload turns hend
  obtain ⟨rfl, _⟩ := hend
  cases hbytes : Bytes.ofList? n payload with
  | none => exact Converses.throw
  | some bytes =>
    rw [← Bytes.ofList?_eq_some_iff.1 hbytes]
    exact Converses.pure rfl

end Device

theorem Access.settles?_ack {command : Command} {access : Access} {payload : List UInt8}
    (h : access.settles? command 1 = some (.ok payload)) : payload = [Status.success.toByte] := by
  unfold settles? at h
  split at h
  · split at h <;> cases h
  · cases h
  · split at h <;> cases h
  · split at h
    · next hparse => exact absurd rfl (Response.frame_of_parse_eq_payload hparse).1
    · split at h
      · injection h with hpayload
        injection hpayload with hpayload
        exact hpayload.symm
      · split at h <;> cases h
    · cases h

namespace Device

variable {σ : Type} [Bus σ]

theorem exchangeAck_converses {command : Command} (hopcode : command.opcode ≠ .lock) :
    Converses (exchangeAck command : DeviceM (Logged σ) Unit) fun _ turns => turns = [.ack command] := by
  apply (exchange_converses (by decide) hopcode).bind
  intro payload turns hend
  obtain ⟨rfl, _, _, hsettles⟩ := hend
  rw [Access.settles?_ack hsettles]
  exact Converses.pure rfl

/-! ## Zones and random numbers -/

theorem readWord_converses (zone : Zone) (address : UInt8) :
    Converses (readWord zone address : DeviceM (Logged σ) Word) fun word turns =>
      turns = [.readWord zone address word] :=
  exchangeBytes_converses (by decide) nofun

theorem writeWord_converses (zone : Zone) (address : UInt8) (word : Word) :
    Converses (writeWord zone address word : DeviceM (Logged σ) Unit) fun _ turns =>
      turns = [.writeWord zone address word] :=
  exchangeAck_converses nofun

theorem writeBlock_converses (zone : Zone) (address : UInt8) (block : Block) :
    Converses (writeBlock zone address block none : DeviceM (Logged σ) Unit) fun _ turns =>
      turns = [.writeBlock zone address block] := by
  rw [writeBlock, Option.elim_none, List.append_nil]
  exact exchangeAck_converses nofun

theorem lockWord_converses :
    Converses (lockWord : DeviceM (Logged σ) Word) fun word turns =>
      turns = [.readWord .config lockWordAddress word] :=
  readWord_converses _ _

theorem isLocked_converses (zone : Zone) :
    Converses (isLocked zone : DeviceM (Logged σ) Bool) fun _ turns =>
      ∃ word, turns = [.readWord .config lockWordAddress word] := by
  apply lockWord_converses.bind
  intro word turns hturns
  exact Converses.pure ⟨word, by rw [hturns]; rfl⟩

theorem lifecycle_converses :
    Converses (lifecycle : DeviceM (Logged σ) Lifecycle) fun state turns =>
      ∃ word, Lifecycle.ofLockWord word = .ok state ∧ turns = [.readWord .config lockWordAddress word] := by
  apply lockWord_converses.bind
  intro word turns hturns
  apply (require_converses _).bind
  intro state turns' hend
  obtain ⟨hstate, rfl⟩ := hend
  apply (emit_converses _).bind
  intro _ turns' hturns'
  exact Converses.pure ⟨word, hstate, by rw [hturns, hturns']; rfl⟩

theorem isOtpReadOnly_converses :
    Converses (isOtpReadOnly : DeviceM (Logged σ) Bool) fun readOnly turns =>
      ∃ word, readOnly = (word.byte 2 == 0xAA) ∧ turns = [.readWord .config otpModeAddress word] := by
  apply (readWord_converses _ _).bind
  intro word turns hturns
  exact Converses.pure ⟨word, rfl, by rw [hturns]; rfl⟩

def wordTurns (zone : Zone) : (address : UInt8) → List Word → List Turn
  | _, [] => []
  | address, word :: words => .readWord zone address word :: wordTurns zone (address + 1) words

theorem readWords_converses (zone : Zone) (address : UInt8) (count : Nat) :
    Converses (readWords zone address count : DeviceM (Logged σ) (List UInt8)) fun bytes turns =>
      ∃ words : List Word, words.length = count ∧ bytes = words.flatMap Vector.toList ∧
        turns = wordTurns zone address words := by
  induction count generalizing address with
  | zero => exact Converses.pure ⟨[], rfl, rfl, rfl⟩
  | succ count ih =>
    apply (readWord_converses _ _).bind
    intro word turns hturns
    apply (ih (address + 1)).bind
    intro bytes turns' hend
    obtain ⟨words, hlength, hbytes, hturns'⟩ := hend
    refine Converses.pure ⟨word :: words, congrArg Nat.succ hlength, ?_, ?_⟩
    · rw [hbytes, List.flatMap_cons]
    · rw [hturns, hturns', List.append_nil]
      rfl

theorem writeSlotConfigs_converses {slot : UInt8} (heven : slot % 2 = 0) (hslot : slot < 16)
    (even odd : SlotConfig) :
    Converses (writeSlotConfigs slot even odd : DeviceM (Logged σ) Unit) fun _ turns =>
      turns = [.writeWord .config (0x05 + slot / 2) (SlotConfig.pairToWord even odd)] := by
  unfold writeSlotConfigs
  rw [if_neg (not_not.2 heven)]
  apply (require_converses _).bind
  intro address turns hend
  obtain ⟨haddress, rfl⟩ := hend
  have hchecked : slotConfigAddress slot = .ok (0x05 + slot / 2) := by
    unfold slotConfigAddress checkKeySlot
    rw [if_neg (UInt8.not_le.2 hslot)]
    rfl
  rw [hchecked] at haddress
  obtain rfl := Except.ok.inj haddress
  exact writeWord_converses _ _ _

theorem blockAddress_ofNat {slot : Nat} (hslot : slot < 16) :
    Zone.data.blockAddress (UInt8.ofNat slot) = .ok (UInt8.ofNat (8 * slot)) := by
  revert slot
  decide

theorem writeKeySlot_converses {slot : Nat} (hslot : slot < 16) (key : Block) :
    Converses (writeKeySlot (UInt8.ofNat slot) key : DeviceM (Logged σ) Unit) fun _ turns =>
      turns = [.writeBlock .data (UInt8.ofNat (8 * slot)) key] := by
  apply (require_converses _).bind
  intro address turns hend
  obtain ⟨haddress, rfl⟩ := hend
  rw [blockAddress_ofNat hslot] at haddress
  obtain rfl := Except.ok.inj haddress
  exact writeBlock_converses _ _ _

theorem randomBlocks_converses (count : Nat) :
    Converses (randomBlocks false count : DeviceM (Logged σ) (Vector Block count)) fun blocks turns =>
      turns = blocks.toList.map .draw := by
  induction count with
  | zero => exact Converses.pure rfl
  | succ count ih =>
    apply ih.bind
    intro blocks turns hturns
    have hdraw : Converses (random false : DeviceM (Logged σ) Block) fun block turns =>
        turns = [.draw block] := exchangeBytes_converses (by decide) nofun
    apply hdraw.bind
    intro block turns' hturns'
    refine Converses.pure ?_
    rw [hturns, hturns', List.append_nil, Vector.toList_push, List.map_append, List.map_singleton]

end Device

end SecureElement
