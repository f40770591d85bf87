import SecureElement.Proofs.Device.Lockstep
/-!
# Events of an exchange

An exchange reports the packets that it sends and receives and the attempts that it repeats, and nothing else.
-/

namespace SecureElement

def Event.isTraffic : Event → Bool
  | .retry _ _ _ => true
  | .packet _ _ _ _ => true
  | _ => false

namespace Device

variable {σ : Type}

/-- What has been reported since `before` tells of traffic alone. -/
def Chatters (before : List Event) (device : Device σ) : Prop :=
  ∃ more, device.events.toList = before ++ more ∧ ∀ event ∈ more, event.isTraffic = true

variable {before : List Event}

theorem Chatters.here (device : Device σ) : Chatters device.events.toList device :=
  ⟨[], (List.append_nil _).symm, nofun⟩

theorem Chatters.emit {device : Device σ} {event : Event} (h : Chatters before device)
    (hevent : event.isTraffic = true) : Chatters before { device with events := device.events.push event } := by
  obtain ⟨more, hmore, htraffic⟩ := h
  refine ⟨more ++ [event], ?_, List.forall_mem_append.2 ⟨htraffic, List.forall_mem_singleton.2 hevent⟩⟩
  rw [Array.toList_push, hmore, List.append_assoc]

theorem emit_chatters {event : Event} (hevent : event.isTraffic = true) :
    Alike (fun device other : Device σ => device = other ∧ Chatters before device)
      (emit event : DeviceM σ Unit) (emit event) :=
  Alike.invariant fun _ h => h.emit hevent

variable [Bus σ]

theorem transmit_chatters (command : Command) :
    Alike (fun device other : Device σ => device = other ∧ Chatters before device) (transmit command)
      (transmit command) := by
  have hwrite : Alike (fun device other : Device σ => device = other ∧ Chatters before device)
      (onBus (Bus.write command.encode)) (onBus (Bus.write command.encode)) := by
    apply Alike.invariant
    intro device h
    unfold onBus
    cases Bus.write command.encode device.bus <;> exact h
  apply hwrite.bind
  intro written
  exact Alike.guarded (emit_chatters rfl)

theorem receive_chatters (opcode : Opcode) (expected : Nat) :
    Alike (fun device other : Device σ => device = other ∧ Chatters before device) (receive opcode expected)
      (receive opcode expected) := by
  apply Alike.invariant
  intro device h
  unfold receive
  cases Bus.read (Response.size expected) device.bus with
  | ok buffer bus =>
    have hread : Chatters before { device with bus } := h
    exact hread.emit rfl
  | error error bus =>
    dsimp only
    split <;> exact h

theorem attempts_chatters (command : Command) (expected left attempt : Nat) (resend : Bool) :
    Alike (fun device other : Device σ => device = other ∧ Chatters before device)
      (attempts command expected left attempt resend) (attempts command expected left attempt resend) := by
  induction left generalizing attempt resend with
  | zero => exact Alike.throw _
  | succ left ih =>
    have hpoll : Alike (fun device other : Device σ => device = other ∧ Chatters before device)
        (attempts command expected (left + 1) attempt false)
        (attempts command expected (left + 1) attempt false) := by
      apply Alike.bind (Alike.invariant fun _ h => h : Alike _ (pause command.opcode) (pause command.opcode))
      intro _
      apply (receive_chatters _ _).bind
      intro verdict
      cases verdict with
      | answered payload => exact Alike.pure _
      | refused status => exact Alike.throw _
      | inconclusive resend reason =>
        dsimp only
        split
        · exact (emit_chatters rfl).bind fun _ => ih _ _
        · exact ih _ _
    cases resend with
    | true =>
      rw [attempts_resend]
      exact (transmit_chatters _).bind fun _ => hpoll
    | false => exact hpoll

theorem exchange_events (command : Command) (expected : Nat) (device : Device σ) :
    Chatters device.events.toList (finalState (exchange command expected device)) :=
  (attempts_chatters command expected device.retryBudget 1 true).finalState (.here device)

theorem exchangeBytes_events (n : Nat) (command : Command) (device : Device σ) :
    Chatters device.events.toList (finalState (exchangeBytes n command device)) := by
  have hevents := exchange_events command n device
  unfold exchangeBytes
  rw [bind_apply]
  cases hrun : exchange command n device with
  | error error device' =>
    rw [hrun] at hevents
    exact hevents
  | ok payload device' =>
    rw [hrun] at hevents
    dsimp only
    cases Bytes.ofList? n payload <;> exact hevents

end Device

end SecureElement
