import SecureElement.Bus.Script
import SecureElement.Proofs.Device.Dialogue
import SecureElement.Proofs.Device.Mac
/-!
# Confirmed digests

On every bus, whatever its answers are: a digest counts as confirmed only if the device has answered a check of it
with success, and as refuted only if it has answered with a mismatch. Everything else is an error.
-/

namespace SecureElement

/-! ## Reads -/

def Reading (transactions : List Transaction) : Prop :=
  ∀ transaction ∈ transactions, transaction.command.opcode = .read

theorem Reading.append {transactions transactions' : List Transaction} (h : Reading transactions)
    (h' : Reading transactions') : Reading (transactions ++ transactions') :=
  List.forall_mem_append.2 ⟨h, h'⟩

namespace Device

variable {σ : Type} [Bus σ]

theorem readWord_relies (zone : Zone) (address : UInt8) :
    Relies (readWord zone address : DeviceM (Logged σ) Word) fun _ => Reading := by
  refine (exchangeBytes_relies (by decide) _).mono ?_
  rintro word _ rfl
  exact List.forall_mem_singleton.2 rfl

theorem readBlock_relies (zone : Zone) (address : UInt8) :
    Relies (readBlock zone address : DeviceM (Logged σ) Block) fun _ => Reading := by
  refine (exchangeBytes_relies (by decide) _).mono ?_
  rintro block _ rfl
  exact List.forall_mem_singleton.2 rfl

theorem otpZone_relies : Relies (otpZone : DeviceM (Logged σ) (Bytes 64)) fun _ => Reading := by
  refine (require_relies _).bind ?_
  rintro first _ ⟨_, rfl⟩
  refine (readBlock_relies .otp first).bind ?_
  intro low transactions hlow
  refine (require_relies _).bind ?_
  rintro second _ ⟨_, rfl⟩
  refine (readBlock_relies .otp second).bind ?_
  intro high transactions' hhigh
  exact Relies.pure (hlow.append (hhigh.append (List.forall_mem_nil _)))

theorem serialNumber_relies : Relies (serialNumber : DeviceM (Logged σ) (Bytes 9)) fun _ => Reading := by
  refine (readWord_relies .config 0).bind ?_
  intro first transactions hfirst
  refine (readWord_relies .config 2).bind ?_
  intro second transactions' hsecond
  refine (readWord_relies .config 3).bind ?_
  intro third transactions'' hthird
  exact Relies.pure (hfirst.append (hsecond.append (hthird.append (List.forall_mem_nil _))))

theorem otpFor_relies (mode : MacMode) :
    Relies (otpFor mode : DeviceM (Logged σ) (Bytes 64)) fun _ => Reading := by
  unfold otpFor
  split
  · exact otpZone_relies
  · exact Relies.pure (List.forall_mem_nil _)

theorem serialFor_relies (mode : MacMode) :
    Relies (serialFor mode : DeviceM (Logged σ) (Bytes 9)) fun _ => Reading := by
  unfold serialFor
  split
  · exact serialNumber_relies
  · exact Relies.pure (List.forall_mem_nil _)

theorem otherData_relies (mode : MacMode) :
    Relies (otherData mode : DeviceM (Logged σ) OtherData) fun _ => Reading := by
  rw [otherData_eq]
  refine (otpFor_relies mode).bind ?_
  intro otp transactions hotp
  refine (serialFor_relies mode).bind ?_
  intro serial transactions' hserial
  refine (compute_relies _).mono ?_
  rintro other _ ⟨_, rfl⟩
  exact hotp.append (hserial.append (List.forall_mem_nil _))

/-! ## A digest and its check -/

variable {mode : MacMode} {slot : UInt8} {challenge : List UInt8}

def macCommand (mode : MacMode) (slot : UInt8) (challenge : List UInt8) : Command :=
  ⟨.mac, mode.toByte, Bytes.pair slot 0, macInput mode challenge⟩

def confirmCommand (mode : MacMode) (slot : UInt8) (challenge : List UInt8) (mac : Block) (data : Bytes 13) :
    Command :=
  ⟨.checkMac, (CheckMacMode.ofMac mode).toByte, Bytes.pair slot 0,
    macShown mode challenge ++ mac.toList ++ data.toList⟩

/-- What an exchange that confirms or refutes a digest comes to. -/
def Confirms (verified : Bool) (result : Except DeviceError (List UInt8)) : Prop :=
  if verified then ∃ payload, result = .ok payload
  else ∃ opcode, result = .error (.status opcode .checkMacMiscompare)

theorem checkMac_conducts {check : CheckMacMode} {shown : List UInt8} (response : Block) (data : Bytes 13)
    (hslot : slot.toNat < 16) (hlength : shown.length = 32) :
    let command : Command :=
      ⟨.checkMac, check.toByte, Bytes.pair slot 0, shown ++ response.toList ++ data.toList⟩
    Conducts (checkMac check slot shown response.toList data.toList : DeviceM (Logged σ) Bool)
      (fun verified transactions => ∃ result, transactions = [⟨command, 1, result⟩] ∧
        Confirms verified result)
      (fun error transactions => transactions = [⟨command, 1, .error error⟩]) := by
  intro command
  rw [checkMac_eq response data hslot hlength]
  have hack : Conducts (do exchangeAck command; return true : DeviceM (Logged σ) Bool)
      (fun verified transactions => ∃ result, transactions = [⟨command, 1, result⟩] ∧
        Confirms verified result)
      (fun error transactions => transactions = [⟨command, 1, .error error⟩]) := by
    refine (exchangeAck_conducts command).bind ?_
    rintro _ _ ⟨payload, rfl⟩
    exact Conducts.pure ⟨.ok payload, rfl, payload, rfl⟩
  refine hack.tryCatch ?_
  rintro error _ rfl
  split
  · next opcode => exact Conducts.pure ⟨_, rfl, opcode, rfl⟩
  · exact Conducts.throw rfl

/-- The exchanges that lead to a result: the one for the digest, reads of what is to go beside it, and its check. -/
def Leads (mode : MacMode) (slot : UInt8) (challenge : List UInt8) (result : MacResult)
    (transactions : List Transaction) : Prop :=
  ∃ reads check, transactions =
      ⟨macCommand mode slot challenge, 32, .ok result.mac.toList⟩ ::
        (reads ++ [⟨confirmCommand mode slot challenge result.mac result.otherData, 1, check⟩]) ∧
    Reading reads ∧ (∀ read ∈ reads, read.Answered) ∧ Confirms result.verified check

theorem mac_conducts :
    Conducts (mac mode slot challenge : DeviceM (Logged σ) MacResult) (Leads mode slot challenge) Broken := by
  by_cases hslot : slot.toNat < 16
  swap
  · unfold mac
    rw [checkKeySlot_eq_error hslot]
    exact Conducts.throw (.inl (List.forall_mem_nil _))
  by_cases hchallenge : mode.needsChallenge = true → challenge.length = 32
  swap
  · obtain ⟨hneeds, hwrong⟩ := Classical.not_imp.1 hchallenge
    unfold mac
    rw [checkKeySlot_eq hslot, hneeds, checkLength, if_neg hwrong]
    exact Conducts.throw (.inl (List.forall_mem_nil _))
  rw [mac_eq hslot hchallenge]
  refine Conducts.bind (exchangeBytes_relies (by decide) _) ?_
  rintro mac _ ⟨hmac, rfl⟩
  refine Conducts.bind (Conducts.mono (otherData_relies mode) (fun _ _ h => h) fun _ _ h => h.append hmac) ?_
  rintro other reads ⟨hreads, hreading⟩
  refine Conducts.bind (Conducts.mono (checkMac_conducts mac (checkMacData mode slot other) hslot
    (length_macShown hchallenge)) (fun _ _ h => h) ?_) ?_
  · rintro error _ rfl
    exact .append (.append (.inr ⟨[], _, rfl, List.forall_mem_nil _, rfl⟩) hreads) hmac
  · rintro verified _ ⟨check, rfl, hcheck⟩
    refine Conducts.pure ⟨reads, check, ?_, hreading, hreads, hcheck⟩
    rw [List.append_nil]
    rfl

/-- What the accesses show that a result comes from. -/
structure Confirmation (mode : MacMode) (slot : UInt8) (challenge : List UInt8) (result : MacResult)
    (log : List Access) : Prop where
  first : (written log).head? = some (macCommand mode slot challenge).encode
  /-- The digest is the payload of the first checked frame that came in answer. -/
  digest : ∃ polls buffer rest, log = polls ++ .read (Response.size 32) (.ok buffer) :: rest ∧
    Response.encode result.mac.toList <+: buffer ∧
    ∀ access ∈ polls, access.Serves (macCommand mode slot challenge) 32 ∧
      access.settles? (macCommand mode slot challenge) 32 = none
  last : (written log).getLast? = some (confirmCommand mode slot challenge result.mac result.otherData).encode
  /-- The check was answered last, with a checked status. -/
  verdict : ∃ buffer status, log.getLast? = some (.read (Response.size 1) (.ok buffer)) ∧
    Response.encodeStatus status <+: buffer ∧ (result.verified = true ↔ status = .success) ∧
    (result.verified = false ↔ status = .checkMacMiscompare)

theorem Confirms.verdict {verified : Bool} {result : Except DeviceError (List UInt8)}
    (h : Confirms verified result) (command : Command) :
    ∃ status, (Transaction.mk command 1 result).reply? = some (Response.encodeStatus status) ∧
      (verified = true ↔ status = .success) ∧ (verified = false ↔ status = .checkMacMiscompare) := by
  cases verified with
  | true =>
    obtain ⟨payload, rfl⟩ := h
    exact ⟨.success, rfl, by simp, by simp⟩
  | false =>
    obtain ⟨opcode, rfl⟩ := h
    exact ⟨.checkMacMiscompare, rfl, by simp, by simp⟩

theorem Leads.confirmation {result : MacResult} {transactions : List Transaction} {budget : Nat}
    {log : List Access} (h : Leads mode slot challenge result transactions)
    (hdialogue : Dialogue budget transactions log) : Confirmation mode slot challenge result log := by
  obtain ⟨reads, check, rfl, hreading, hreads, hcheck⟩ := h
  rw [← List.singleton_append] at hdialogue
  obtain ⟨asked, rest, rfl, hasked, hrest⟩ := hdialogue.exists_append
  obtain ⟨between, confirmed, rfl, _, hconfirmed⟩ := hrest.exists_append
  have htakes := hasked.takes_of_singleton
  have hconfirms := hconfirmed.takes_of_singleton
  obtain ⟨status, hreply, hverdict⟩ := hcheck.verdict
    (confirmCommand mode slot challenge result.mac result.otherData)
  obtain ⟨polls, buffer, hpolls, hframe, hbefore⟩ := htakes.exists_reply rfl
  obtain ⟨checks, answer, hchecks, hstatus, _⟩ := hconfirms.exists_reply hreply
  obtain ⟨again, hagain⟩ := htakes.written
  obtain ⟨recheck, hrecheck⟩ := hconfirms.written
  refine ⟨?_, ⟨polls, buffer, between ++ confirmed, ?_, hframe, hbefore⟩, ?_,
    ⟨answer, status, ?_, hstatus, hverdict⟩⟩
  · rw [written_append, hagain, List.replicate_succ]
    rfl
  · rw [hpolls, List.append_assoc, List.singleton_append]
  · rw [written_append, written_append, hrecheck, ← List.append_assoc, List.replicate_succ',
      ← List.append_assoc, List.getLast?_concat]
  · rw [hchecks, ← List.append_assoc, ← List.append_assoc, List.getLast?_concat]

theorem Leads.mismatch {result : MacResult} {transactions : List Transaction} {transaction : Transaction}
    {budget : Nat} {trace : List Access} {error : DeviceError}
    (h : Leads mode slot challenge result transactions) (htakes : transaction.Takes budget trace)
    (hmem : transaction ∈ transactions) (herror : transaction.result = .error error) :
    transaction.command.opcode = .checkMac ∧ error = .status .checkMac .checkMacMiscompare := by
  obtain ⟨reads, check, rfl, _, hreads, hcheck⟩ := h
  rcases List.mem_cons.1 hmem with rfl | hmem
  · cases herror
  rcases List.mem_append.1 hmem with hmem | hmem
  · obtain ⟨payload, hpayload⟩ := hreads transaction hmem
    cases herror.symm.trans hpayload
  cases List.mem_singleton.1 hmem
  change check = .error error at herror
  subst herror
  cases hverified : result.verified with
  | true =>
    rw [hverified] at hcheck
    obtain ⟨payload, hpayload⟩ := hcheck
    cases hpayload
  | false =>
    rw [hverified] at hcheck
    obtain ⟨opcode, hrefused⟩ := hcheck
    cases hrefused
    rw [htakes.opcode_of_status rfl]
    exact ⟨rfl, rfl⟩

/-- On every bus a result has been confirmed or refuted by the device itself, and whatever goes wrong in an exchange
is the error that comes back, unless it is a mismatch in the check. -/
theorem mac_confirmed (mode : MacMode) (slot : UInt8) (challenge : List UInt8) (device : Device σ) :
    let ended := mac mode slot challenge device.logged
    viewed unlogged ended = mac mode slot challenge device ∧
    (∀ result, conclusion ended = .ok result →
      Confirmation mode slot challenge result (finalState ended).log) ∧
    ∃ transactions, Dialogue device.retryBudget transactions (finalState ended).log ∧
      (∀ result, conclusion ended = .ok result → Leads mode slot challenge result transactions) ∧
      ∀ transaction ∈ transactions, ∀ error, transaction.result = .error error →
        conclusion ended = .error error ∨
          (transaction.command.opcode = .checkMac ∧ error = .status .checkMac .checkMacMiscompare) := by
  intro ended
  refine ⟨(lockstep_unlogged.mac mode slot challenge).viewed_eq device.logged, ?_⟩
  have hconducts : Conducts (mac mode slot challenge : DeviceM (Logged σ) MacResult) _ _ := mac_conducts
  obtain ⟨transactions, hdialogue, hleads, hbroken⟩ := hconducts.dialogue device
  refine ⟨fun result hresult => (hleads result hresult).confirmation hdialogue, transactions, hdialogue, hleads,
    ?_⟩
  intro transaction hmem error herror
  cases hended : conclusion ended with
  | error error' => exact .inl (congrArg Except.error ((hbroken error' hended).result hmem herror).symm)
  | ok result =>
    obtain ⟨trace, htakes⟩ := hdialogue.exists_takes hmem
    exact .inr ((hleads result hended).mismatch htakes hmem herror)

/-- A device that answers with a digest and then finds that it does not match. -/
theorem mac_confirmed_refuted :
    let device : Device Script := ofBus
      { answers := [Response.encode (Bytes.zero 32).toList, Response.encodeStatus .checkMacMiscompare] }
    let ended := mac {} 1 (Bytes.zero 32).toList device.logged
    ∃ result, conclusion ended = .ok result ∧ result.verified = false ∧
      Confirmation {} 1 (Bytes.zero 32).toList result (finalState ended).log := by
  intro device ended
  have hverified : (conclusion ended).toOption.map MacResult.verified = some false := by decide +kernel
  obtain ⟨result, hresult, hfalse⟩ := Option.map_eq_some_iff.1 hverified
  have hended : conclusion ended = .ok result := by
    cases hcases : conclusion ended with
    | error error =>
      rw [hcases] at hresult
      cases hresult
    | ok result' =>
      rw [hcases] at hresult
      exact congrArg Except.ok (Option.some.inj hresult)
  exact ⟨result, hended, hfalse, (mac_confirmed {} 1 (Bytes.zero 32).toList device).2.1 result hended⟩

end Device

end SecureElement
