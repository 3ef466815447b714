/-
# `SmallModbus.Initialisation` — sequences of `modbus_init` on one context.

`modbus_init` sets the defaults, then the core, then the port, and may refuse at each stage. A context is
usable once its magic and its port are set; the core is not looked at. `InitsConsistent` says of a sequence
of calls that a usable context always has the core and the port of the last call that was accepted, and that
no refused call changes either. `inits_consistent_iff` says which sequences do: those in which no usable
context is offered another core together with a port of unknown type.
-/
import SmallModbus.Wire

namespace SmallModbus

variable {σ : Type}

/-! ## §1 — `modbus_init`. -/

/-- `MODBUS_CORE_RTU`. -/
def modbusCoreRtu : UInt8 := 1
/-- `MODBUS_CORE_TCP`. -/
def modbusCoreTcp : UInt8 := 2
/-- `MODBUS_PORT_DEVICE`. -/
def modbusPortDevice : UInt32 := 1
/-- `MODBUS_PORT_SOCKET`. -/
def modbusPortSocket : UInt32 := 2

/-- The object behind the port pointer: its type and its functions. -/
structure PortObject (σ : Type) where
  type : UInt32
  port : Port σ

/-- `modbus_init`, on a context that is not `NULL`. -/
def modbusInitPort (smb : Smb σ) (coreType : UInt8) (port : Option (PortObject σ)) : Int × Smb σ :=
  match port with
  | none => (0, smb)
  | some smbPort =>
      if coreType ≠ 0 then
        let smb := modbusInit smb
        if coreType = modbusCoreRtu ∨ coreType = modbusCoreTcp then
          let smb := if coreType = modbusCoreRtu then { smb with core := some .rtu } else smb
          let smb := if coreType = modbusCoreTcp then { smb with core := some .tcp } else smb
          if smbPort.type = modbusPortDevice ∨ smbPort.type = modbusPortSocket then
            (1, { smb with port := some smbPort.port })
          else (0, smb)
        else (0, smb)
      else (0, smb)

/-! ## §2 — what one call does. -/

/-- The arguments of a call. -/
structure InitCall (σ : Type) where
  coreType : UInt8
  port : Option (PortObject σ)

namespace InitCall

/-- The core a core type names. -/
def core (c : InitCall σ) : Option Core :=
  if c.coreType = modbusCoreRtu then some .rtu else if c.coreType = modbusCoreTcp then some .tcp else none

/-- The port, if its type is known. -/
def knownPort (c : InitCall σ) : Option (Port σ) :=
  match c.port with
  | some p => if p.type = modbusPortDevice ∨ p.type = modbusPortSocket then some p.port else none
  | none => none

/-- The call on a context. -/
def apply (c : InitCall σ) (smb : Smb σ) : Int × Smb σ := modbusInitPort smb c.coreType c.port

/-- **One call**: it is accepted and sets core and port; it is refused for its port, of unknown type, and
sets the core; or it is refused and sets neither. -/
theorem apply_cases (c : InitCall σ) (smb : Smb σ) :
    (∃ core port, c.core = some core ∧ c.knownPort = some port ∧ (c.apply smb).1 = 1 ∧
      (c.apply smb).2.core = some core ∧ (c.apply smb).2.port = some port ∧
      (c.apply smb).2.modbusMagic = modbusMagicWord) ∨
    (∃ core, c.core = some core ∧ c.port.isSome ∧ c.knownPort = none ∧ (c.apply smb).1 = 0 ∧
      (c.apply smb).2.core = some core ∧ (c.apply smb).2.port = smb.port ∧
      (c.apply smb).2.modbusMagic = modbusMagicWord) ∨
    ((c.core = none ∨ c.port = none) ∧ (c.apply smb).1 = 0 ∧ (c.apply smb).2.core = smb.core ∧
      (c.apply smb).2.port = smb.port ∧
      ((c.apply smb).2.modbusMagic = smb.modbusMagic ∨ (c.apply smb).2.modbusMagic = modbusMagicWord)) := by
  obtain ⟨coreType, port⟩ := c
  cases port with
  | none => exact Or.inr (Or.inr ⟨Or.inr rfl, rfl, rfl, rfl, Or.inl rfl⟩)
  | some p =>
    unfold core knownPort apply modbusInitPort
    dsimp only
    by_cases hrtu : coreType = modbusCoreRtu
    · subst hrtu
      by_cases hp : p.type = modbusPortDevice ∨ p.type = modbusPortSocket
      · left
        rw [if_pos hp, if_pos hp]
        exact ⟨.rtu, p.port, rfl, rfl, rfl, rfl, rfl, rfl⟩
      · right; left
        rw [if_neg hp, if_neg hp]
        exact ⟨.rtu, rfl, rfl, rfl, rfl, rfl, rfl, rfl⟩
    · by_cases htcp : coreType = modbusCoreTcp
      · subst htcp
        by_cases hp : p.type = modbusPortDevice ∨ p.type = modbusPortSocket
        · left
          rw [if_pos hp, if_pos hp]
          exact ⟨.tcp, p.port, rfl, rfl, rfl, rfl, rfl, rfl⟩
        · right; left
          rw [if_neg hp, if_neg hp]
          exact ⟨.tcp, rfl, rfl, rfl, rfl, rfl, rfl, rfl⟩
      · right; right
        rw [if_neg hrtu, if_neg htcp, if_neg (not_or.mpr ⟨hrtu, htcp⟩)]
        by_cases h0 : coreType ≠ 0
        · rw [if_pos h0]
          exact ⟨Or.inl rfl, rfl, rfl, rfl, Or.inr rfl⟩
        · rw [if_neg h0]
          exact ⟨Or.inl rfl, rfl, rfl, rfl, Or.inl rfl⟩

end InitCall

/-! ## §3 — sequences of calls. -/

/-- The pair of core and port that counts after the call: its own when it returned 1. -/
def acceptedPair (last : Option (Core × Port σ)) (c : InitCall σ) (smb : Smb σ) : Option (Core × Port σ) :=
  if (c.apply smb).1 = 1 then c.core.bind fun core => c.port.map fun p => (core, p.port) else last

/-- A usable context has the core and the port of the last call that was accepted. -/
def HasAccepted (smb : Smb σ) (last : Option (Core × Port σ)) : Prop :=
  modbusContextCheck smb = modbusOk → ∃ core port, last = some (core, port) ∧ smb.core = some core ∧
    smb.port = some port

/-- A call that returns 0 leaves core and port of a usable context as they were. -/
def KeepsIfRefused (smb : Smb σ) (c : InitCall σ) : Prop :=
  modbusContextCheck smb = modbusOk → (c.apply smb).1 = 0 →
    (c.apply smb).2.core = smb.core ∧ (c.apply smb).2.port = smb.port

/-- The context is consistent in every state of the sequence. -/
def InitsConsistent : Smb σ → Option (Core × Port σ) → List (InitCall σ) → Prop
  | smb, last, [] => HasAccepted smb last
  | smb, last, c :: calls =>
      HasAccepted smb last ∧ KeepsIfRefused smb c ∧
        InitsConsistent (c.apply smb).2 (acceptedPair last c smb) calls

/-- Every call meets the condition in the state before it. -/
def AllCalls (cond : Smb σ → InitCall σ → Prop) : Smb σ → List (InitCall σ) → Prop
  | _, [] => True
  | smb, c :: calls => cond smb c ∧ AllCalls cond (c.apply smb).2 calls

/-- Not this: a usable context, a core it does not have, and a port of unknown type. -/
def NoCoreSwap (smb : Smb σ) (c : InitCall σ) : Prop :=
  ¬ (modbusContextCheck smb = modbusOk ∧ (∃ core, c.core = some core ∧ smb.core ≠ some core) ∧
    c.port.isSome ∧ c.knownPort = none)

/-- What every call keeps: before the first accepted call there is no port, after it the context is the
pair of the last one. -/
def InitInv (smb : Smb σ) : Option (Core × Port σ) → Prop
  | none => smb.port = none
  | some (core, port) => smb.modbusMagic = modbusMagicWord ∧ smb.core = some core ∧ smb.port = some port

theorem contextCheck_portless {smb : Smb σ} (h : smb.port = none) : modbusContextCheck smb ≠ modbusOk := by
  rw [modbusContextCheck, h]
  exact (by decide : modbusErrorContext ≠ modbusOk)

namespace InitInv

variable {smb : Smb σ} {last : Option (Core × Port σ)} {c : InitCall σ}

theorem hasAccepted (h : InitInv smb last) : HasAccepted smb last := by
  intro hok
  cases last with
  | none => exact absurd hok (contextCheck_portless h)
  | some pair =>
    obtain ⟨core, port⟩ := pair
    exact ⟨core, port, rfl, h.2.1, h.2.2⟩

theorem ready {core : Core} {port : Port σ} (h : InitInv smb (some (core, port))) : Ready smb core port :=
  ⟨h.1, h.2.1, h.2.2⟩

/-- **The step.** -/
theorem apply (h : InitInv smb last) (hc : NoCoreSwap smb c) :
    KeepsIfRefused smb c ∧ InitInv (c.apply smb).2 (acceptedPair last c smb) := by
  rcases c.apply_cases smb with ⟨core, port, hcore, hport, hret, hcore', hport', hmagic⟩ |
    ⟨core, hcore, hsome, hknown, hret, hcore', hport', hmagic⟩ | ⟨-, hret, hcore', hport', hmagic⟩
  · -- accepted
    refine ⟨fun _ h0 => ?_, ?_⟩
    · rw [hret] at h0
      exact absurd h0 (by decide)
    · obtain ⟨p, hp, rfl⟩ : ∃ p, c.port = some p ∧ p.port = port := by
        unfold InitCall.knownPort at hport
        split at hport
        · rename_i p hp
          split at hport
          · exact ⟨p, hp, Option.some.inj hport⟩
          · cases hport
        · cases hport
      rw [acceptedPair, if_pos hret, hcore, hp]
      exact ⟨hmagic, hcore', hport'⟩
  · -- refused for its port, the core set: it is the core the context has, or the context has no port
    have hlast : acceptedPair last c smb = last := if_neg (by rw [hret]; decide)
    rw [hlast]
    cases last with
    | none =>
      have hnone : smb.port = none := h
      exact ⟨fun hok => absurd hok (contextCheck_portless hnone), hport'.trans hnone⟩
    | some pair =>
      obtain ⟨core₀, port₀⟩ := pair
      have hsame : smb.core = some core := by
        by_contra hne
        exact hc ⟨(ready h).contextCheck, ⟨core, hcore, hne⟩, hsome, hknown⟩
      exact ⟨fun _ _ => ⟨hcore'.trans hsame.symm, hport'⟩, hmagic, hcore'.trans (hsame.symm.trans h.2.1),
        hport'.trans h.2.2⟩
  · -- refused, neither set
    have hlast : acceptedPair last c smb = last := if_neg (by rw [hret]; decide)
    rw [hlast]
    refine ⟨fun _ _ => ⟨hcore', hport'⟩, ?_⟩
    cases last with
    | none => exact hport'.trans h
    | some pair =>
      obtain ⟨core₀, port₀⟩ := pair
      exact ⟨hmagic.elim (fun he => he.trans h.1) id, hcore'.trans h.2.1, hport'.trans h.2.2⟩

end InitInv

/-- A call that breaks the condition changes the core of a usable context and returns 0. -/
theorem noCoreSwap_of_keeps {smb : Smb σ} {c : InitCall σ} (h : KeepsIfRefused smb c) : NoCoreSwap smb c := by
  rintro ⟨hok, ⟨core, hcore, hne⟩, hsome, hknown⟩
  rcases c.apply_cases smb with ⟨_, port, -, hport, -⟩ | ⟨core', hcore', -, -, hret, hset, -⟩ | ⟨hnone, -⟩
  · rw [hknown] at hport
    cases hport
  · obtain rfl := Option.some.inj (hcore.symm.trans hcore')
    exact hne ((h hok hret).1.symm.trans hset)
  · rcases hnone with hnone | hnone
    · rw [hcore] at hnone
      cases hnone
    · rw [hnone] at hsome
      cases hsome

/-- The induction on the calls; `InitInv` carries it. -/
theorem InitInv.consistent_iff {smb : Smb σ} {last : Option (Core × Port σ)} (h : InitInv smb last)
    (calls : List (InitCall σ)) : InitsConsistent smb last calls ↔ AllCalls NoCoreSwap smb calls := by
  induction calls generalizing smb last with
  | nil => exact ⟨fun _ => trivial, fun _ => h.hasAccepted⟩
  | cons c calls ih =>
    constructor
    · rintro ⟨-, hkeeps, hrest⟩
      have hc := noCoreSwap_of_keeps hkeeps
      exact ⟨hc, (ih (h.apply hc).2).mp hrest⟩
    · rintro ⟨hc, hrest⟩
      exact ⟨h.hasAccepted, (h.apply hc).1, (ih (h.apply hc).2).mpr hrest⟩

/-- A context of zero bytes. -/
def zeroContext (σ : Type) : Smb σ where
  modbusMagic := 0
  deviceMode := 0
  slaveAddr := 0
  debugLevel := 0
  transferId := 0
  protocolId := 0
  status := 0
  errorCode := 0
  timeoutFrame := 0
  timeoutByte := 0
  readBuff := Lib.Buffer.replicate _ 0
  writeBuff := Lib.Buffer.replicate _ 0
  core := none
  port := none

/-- **Sequences of `modbus_init`** keep a context consistent if and only if no call offers a usable context
another core together with a port of unknown type. -/
theorem inits_consistent_iff (calls : List (InitCall σ)) :
    InitsConsistent (zeroContext σ) none calls ↔ AllCalls NoCoreSwap (zeroContext σ) calls :=
  InitInv.consistent_iff (show InitInv (zeroContext σ) none from rfl) calls

/-- A TCP context on a socket, then a call with the RTU core and a port of type 0: it returns 0, and the
context is usable with the new core and the old port. -/
theorem inits_core_swapped :
    ¬ InitsConsistent (zeroContext Wire) none
      [⟨modbusCoreTcp, some ⟨modbusPortSocket, Wire.port⟩⟩, ⟨modbusCoreRtu, some ⟨0, Wire.port⟩⟩] := by
  rintro ⟨-, -, -, hkeeps, -⟩
  have hcore := (hkeeps rfl rfl).1
  cases hcore

end SmallModbus
