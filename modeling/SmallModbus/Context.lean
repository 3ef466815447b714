/-
# `SmallModbus.Context` — what the calls of the library do to the context.

A context holds a configuration (magic, device mode, addresses, levels, timeouts, core, port) and what the
traffic leaves in it: the two buffers and the transaction id. `configured` says of any run of calls, on any
port, that the configuration is what the initialisations and the setters make of it; no operation and no
frame that is received changes it.
-/
import SmallModbus.Lib.Refine
import SmallModbus.Confirm
import SmallModbus.Initialisation
import SmallModbus.Slave

namespace SmallModbus

open SmallModbus.Lib

variable {σ κ : Type} {n : Nat}

/-! ## §1 — the configuration and the calls. -/

/-- The fields of a context that no traffic is to change. -/
structure Config (σ : Type) where
  modbusMagic : UInt32
  deviceMode : UInt16
  slaveAddr : UInt8
  debugLevel : UInt8
  protocolId : UInt16
  status : Int
  errorCode : Int
  timeoutFrame : UInt32
  timeoutByte : UInt32
  core : Option Core
  port : Option (Port σ)

/-- The configuration of a context. -/
def Smb.config (smb : Smb σ) : Config σ where
  modbusMagic := smb.modbusMagic
  deviceMode := smb.deviceMode
  slaveAddr := smb.slaveAddr
  debugLevel := smb.debugLevel
  protocolId := smb.protocolId
  status := smb.status
  errorCode := smb.errorCode
  timeoutFrame := smb.timeoutFrame
  timeoutByte := smb.timeoutByte
  core := smb.core
  port := smb.port

/-- The context can be used. -/
def Config.Usable (c : Config σ) : Prop := c.modbusMagic = modbusMagicWord ∧ c.port.isSome

instance (c : Config σ) : Decidable c.Usable := inferInstanceAs (Decidable (_ ∧ _))

theorem contextCheck_iff (smb : Smb σ) : modbusContextCheck smb = modbusOk ↔ smb.config.Usable := by
  unfold modbusContextCheck Config.Usable Smb.config
  cases smb.port with
  | none => simp
  | some port =>
    by_cases h : smb.modbusMagic = modbusMagicWord
    · simp [h]
    · simp [h, Ne.symm h]

/-- The calls on a context, with a callback for the slave. -/
inductive ApiCall (σ : Type)
  | init (call : InitCall σ)
  | connect
  | disconnect
  | read (length : UInt16)
  | write (data : List UInt8)
  | flush
  | wait (timeout : Int)
  | errorRecovery
  | errorExit (code : Int)
  | setFrameTimeout (timeoutMs : Int)
  | setByteTimeout (timeoutMs : Int)
  | setSlave (slave : Int)
  | setDebug (level : Int)
  | readOp (op : ReadOp) (addr num : Int) (n : Nat) (readData : Buffer UInt8 n)
  | writeOp (op : WriteOp)
  | slaveWaitHandle (waitTime : Int)

namespace ApiCall

/-- The call on the context, the device and the application. -/
def step (host : Host) (cb : Option (SlaveCallback κ)) (fuel : Nat) :
    ApiCall σ → Smb σ × σ × κ → Exec (Int × (Smb σ × σ × κ))
  | .init call, (smb, w, app) => .ok ((call.apply smb).1, (call.apply smb).2, w, app)
  | .connect, (smb, w, app) => .ok ((modbusConnect smb w).1, smb, (modbusConnect smb w).2, app)
  | .disconnect, (smb, w, app) => .ok ((modbusDisconnect smb w).1, smb, (modbusDisconnect smb w).2, app)
  | .read length, (smb, w, app) => .ok ((modbusRead smb w length).1, smb, (modbusRead smb w length).2.2, app)
  | .write data, (smb, w, app) => .ok ((modbusWrite smb w data).1, smb, (modbusWrite smb w data).2, app)
  | .flush, (smb, w, app) => .ok ((modbusFlush smb w).1, smb, (modbusFlush smb w).2, app)
  | .wait timeout, (smb, w, app) => .ok ((modbusWait smb w timeout).1, smb, (modbusWait smb w timeout).2, app)
  | .errorRecovery, (smb, w, app) => .ok ((modbusErrorRecovery smb w).1, smb, (modbusErrorRecovery smb w).2, app)
  | .errorExit code, (smb, w, app) => .ok ((modbusErrorExit smb code).1, (modbusErrorExit smb code).2, w, app)
  | .setFrameTimeout t, (smb, w, app) =>
      .ok ((modbusSetFrameTimeout smb t).1, (modbusSetFrameTimeout smb t).2, w, app)
  | .setByteTimeout t, (smb, w, app) => .ok ((modbusSetByteTimeout smb t).1, (modbusSetByteTimeout smb t).2, w, app)
  | .setSlave slave, (smb, w, app) => .ok ((modbusSetSlave smb slave).1, (modbusSetSlave smb slave).2, w, app)
  | .setDebug level, (smb, w, app) => .ok ((modbusSetDebug smb level).1, (modbusSetDebug smb level).2, w, app)
  | .readOp op addr num _ readData, (smb, w, app) => do
      let (ret, smb, w, _) ← op.run fuel smb w addr num readData
      return (ret, smb, w, app)
  | .writeOp op, (smb, w, app) => do
      let (ret, smb, w, _) ← op.run host fuel smb w
      return (ret, smb, w, app)
  | .slaveWaitHandle waitTime, (smb, w, app) => do
      let (ret, smb, w, app) ← modbusSlaveWaitHandle fuel smb w cb app waitTime
      return (ret, smb, w, app)

/-- What a call makes of the configuration: an initialisation sets the defaults, then the core it names, then
a port of known type; a setter sets its field on a usable context. -/
def configure (c : Config σ) : ApiCall σ → Config σ
  | .init call =>
      if call.port.isSome ∧ call.coreType ≠ 0 then
        { c with
          modbusMagic := modbusMagicWord
          deviceMode := modbusDeviceSlave
          protocolId := 0
          debugLevel := 2
          timeoutFrame := if c.timeoutFrame = 0 then 100 else c.timeoutFrame
          timeoutByte := if c.timeoutByte = 0 then 10 else c.timeoutByte
          core := call.core <|> c.core
          port := if call.core.isSome then call.knownPort <|> c.port else c.port }
      else c
  | .errorExit code => if c.Usable then { c with errorCode := code } else c
  | .setFrameTimeout t => if c.Usable then { c with timeoutFrame := toU32 t } else c
  | .setByteTimeout t => if c.Usable then { c with timeoutByte := toU32 t } else c
  | .setSlave slave => if c.Usable ∧ 0 < slave ∧ slave < 247 then { c with slaveAddr := toU8 slave } else c
  | .setDebug level => if c.Usable then { c with debugLevel := toU8 level } else c
  | _ => c

end ApiCall

/-! ## §2 — the operations leave the configuration. -/

theorem Core.config_of_buildRequestHeader {core : Core} {smb smb' : Smb σ} {buff buff' : Buffer UInt8 n}
    {slave function reg num : Int} {len : Nat}
    (h : core.buildRequestHeader smb buff slave function reg num = .ok (len, smb', buff')) :
    smb'.config = smb.config := by
  cases core with
  | rtu =>
    change rtuBuildRequestHeader smb buff slave function reg num = _ at h
    unfold rtuBuildRequestHeader at h
    repeat obtain ⟨_, -, h⟩ := bind_eq_ok.mp h
    cases h
    rfl
  | tcp =>
    change tcpBuildRequestHeader smb buff slave function reg num = _ at h
    unfold tcpBuildRequestHeader at h
    repeat obtain ⟨_, -, h⟩ := bind_eq_ok.mp h
    cases h
    rfl

theorem Core.config_of_checkWaitRequest {core : Core} {smb smb' : Smb σ} {buff : Buffer UInt8 n} {length ret : Int}
    (h : core.checkWaitRequest smb buff length = .ok (ret, smb')) : smb'.config = smb.config := by
  cases core with
  | rtu =>
    change rtuCheckWaitRequest smb buff length = _ at h
    unfold rtuCheckWaitRequest at h
    obtain ⟨_, -, h⟩ := bind_eq_ok.mp h
    cases h
    rfl
  | tcp =>
    change tcpCheckWaitRequest smb buff length = _ at h
    unfold tcpCheckWaitRequest at h
    repeat obtain ⟨_, -, h⟩ := bind_eq_ok.mp h
    -- only an accepted request changes the context, and then the transaction id
    split_ifs at h
    · repeat obtain ⟨_, -, h⟩ := bind_eq_ok.mp h
      cases h
      rfl
    all_goals
      cases h
      rfl

theorem modbusStartRequest_config {smb smb' : Smb σ} {w w' : σ} {request request' : Buffer UInt8 n}
    {function addr num ret : Int} {writeData : List UInt8}
    (h : modbusStartRequest smb w request function addr num writeData = .ok (ret, smb', w', request')) :
    smb'.config = smb.config := by
  unfold modbusStartRequest at h
  dsimp only at h
  split_ifs at h
  · cases h
    rfl
  · obtain ⟨core, -, h⟩ := bind_eq_ok.mp h
    obtain ⟨⟨len, smb₁, request₁⟩, hbuild, h⟩ := bind_eq_ok.mp h
    obtain ⟨⟨len', request₂⟩, -, h⟩ := bind_eq_ok.mp h
    obtain ⟨⟨ret', request₃⟩, -, h⟩ := bind_eq_ok.mp h
    have hconfig := Core.config_of_buildRequestHeader hbuild
    dsimp only at h
    split_ifs at h
    · obtain ⟨frame, -, h⟩ := bind_eq_ok.mp h
      cases h
      exact hconfig
    · cases h
      exact hconfig
  · cases h
    rfl

/-- **A master operation** leaves the configuration, whatever comes back. -/
theorem masterOperation_config {fuel : Nat} {smb smb' : Smb σ} {w w' : σ} {function addr num ret : Int}
    {writeData : List UInt8} {readData out : Buffer UInt8 n}
    (h : masterOperation fuel smb w function addr num writeData readData = .ok (ret, smb', w', out)) :
    smb'.config = smb.config := by
  unfold masterOperation at h
  dsimp only at h
  split_ifs at h
  · cases h
    rfl
  · obtain ⟨⟨ret₁, smb₁, w₁, request⟩, hstart, h⟩ := bind_eq_ok.mp h
    have hconfig := modbusStartRequest_config hstart
    dsimp only at h
    split_ifs at h
    · cases h
      exact hconfig
    · obtain ⟨⟨ret₂, w₂, response⟩, -, h⟩ := bind_eq_ok.mp h
      dsimp only at h
      split_ifs at h
      · cases h
        exact hconfig
      · obtain ⟨⟨ret₃, readData'⟩, -, h⟩ := bind_eq_ok.mp h
        cases h
        exact hconfig

theorem modbusSlaveWait_config {fuel : Nat} {smb smb' : Smb σ} {w w' : σ} {request request' : Buffer UInt8 n}
    {waitTime ret : Int} (h : modbusSlaveWait fuel smb w request waitTime = .ok (ret, smb', w', request')) :
    smb'.config = smb.config := by
  unfold modbusSlaveWait at h
  dsimp only at h
  split_ifs at h
  · cases h
    rfl
  · obtain ⟨core, -, h⟩ := bind_eq_ok.mp h
    obtain ⟨⟨exit, w₁, request₁⟩, -, h⟩ := bind_eq_ok.mp h
    cases exit with
    | error code =>
      cases h
      rfl
    | ok readLength =>
      obtain ⟨⟨ret', smb₁⟩, hcheck, h⟩ := bind_eq_ok.mp h
      cases h
      exact Core.config_of_checkWaitRequest hcheck

/-! ## §3 — what the slave does to the application. -/

/-- The application is left alone, or the callback is called once. -/
def Called (cb : Option (SlaveCallback κ)) (app app' : κ) : Prop :=
  app' = app ∨ ∃ cb' f addr num data, cb = some cb' ∧ app' = (cb'.call app f addr num data).2.2

theorem callSlave_calls {cb : Option (SlaveCallback κ)} {app app' : κ} {function addr num ret : Int}
    {buff buff' : Buffer UInt8 n} {off : Nat}
    (h : callSlave cb app function addr num buff off = .ok (ret, buff', app')) : Called cb app app' := by
  cases cb with
  | none =>
    cases h
    exact Or.inl rfl
  | some cb =>
    unfold callSlave at h
    obtain ⟨buff₁, -, h⟩ := bind_eq_ok.mp h
    cases h
    exact Or.inr ⟨cb, _, _, _, _, rfl, rfl⟩

section Dispatch

variable {smb : Smb σ} {core : Core} {queryFunction : UInt8} {request : Buffer UInt8 n}
  {cb : Option (SlaveCallback κ)} {app : κ} {d : Handling κ n}

theorem handleRead_calls {h2m : Buffer UInt8 modbusMaxAduLength → Nat → Buffer.Source UInt8 → Int →
      Exec (Buffer UInt8 modbusMaxAduLength)} {bytesOf : Int → Int}
    (h : handleRead h2m bytesOf smb core queryFunction request cb app = .ok d) : Called cb app d.app := by
  unfold handleRead at h
  obtain ⟨address, -, h⟩ := bind_eq_ok.mp h
  obtain ⟨num, -, h⟩ := bind_eq_ok.mp h
  split_ifs at h
  · obtain ⟨⟨len, response⟩, -, h⟩ := bind_eq_ok.mp h
    obtain ⟨⟨dataLen, response₁, app'⟩, hcall, h⟩ := bind_eq_ok.mp h
    have hcalled := callSlave_calls hcall
    dsimp only at h
    split_ifs at h
    · obtain ⟨response₂, -, h⟩ := bind_eq_ok.mp h
      obtain ⟨response₃, -, h⟩ := bind_eq_ok.mp h
      cases h
      exact hcalled
    · cases h
      exact hcalled
  · cases h
    exact Or.inl rfl

/-- Whichever of two computations comes first, what follows has returned. -/
theorem exists_of_ite {α β : Type} {c : Prop} [Decidable c] {x y : Exec α} {f : α → Exec β} {b : β}
    (h : (if c then x >>= f else y >>= f) = .ok b) : ∃ a, f a = .ok b := by
  split at h
  · obtain ⟨a, -, h⟩ := bind_eq_ok.mp h
    exact ⟨a, h⟩
  · obtain ⟨a, -, h⟩ := bind_eq_ok.mp h
    exact ⟨a, h⟩

theorem handleWriteSingle_calls {m2h : Buffer UInt8 n → Nat → Buffer.Source UInt8 → Int → Exec (Buffer UInt8 n)}
    (h : handleWriteSingle m2h smb core queryFunction request cb app = .ok d) : Called cb app d.app := by
  unfold handleWriteSingle at h
  obtain ⟨address, -, h⟩ := bind_eq_ok.mp h
  obtain ⟨num, -, h⟩ := bind_eq_ok.mp h
  obtain ⟨⟨len, response⟩, -, h⟩ := bind_eq_ok.mp h
  obtain ⟨request₁, h⟩ := exists_of_ite h
  obtain ⟨⟨dataLen, request₂, app'⟩, hcall, h⟩ := bind_eq_ok.mp h
  have hcalled := callSlave_calls hcall
  dsimp only at h
  split_ifs at h
  · obtain ⟨response₁, -, h⟩ := bind_eq_ok.mp h
    cases h
    exact hcalled
  · cases h
    exact hcalled

theorem handleWriteMultiple_calls {m2h : Buffer UInt8 n → Nat → Buffer.Source UInt8 → Int → Exec (Buffer UInt8 n)}
    (h : handleWriteMultiple m2h smb core queryFunction request cb app = .ok d) : Called cb app d.app := by
  unfold handleWriteMultiple at h
  obtain ⟨address, -, h⟩ := bind_eq_ok.mp h
  obtain ⟨num, -, h⟩ := bind_eq_ok.mp h
  split at h
  · obtain ⟨⟨len, response⟩, -, h⟩ := bind_eq_ok.mp h
    obtain ⟨request₁, h⟩ := exists_of_ite h
    obtain ⟨⟨dataLen, request₂, app'⟩, hcall, h⟩ := bind_eq_ok.mp h
    have hcalled := callSlave_calls hcall
    dsimp only at h
    split_ifs at h
    · obtain ⟨response₁, -, h⟩ := bind_eq_ok.mp h
      cases h
      exact hcalled
    · cases h
      exact hcalled
  · cases h
    exact Or.inl rfl

/-- One case for each branch of the switch. -/
theorem slaveDispatch_calls (h : slaveDispatch smb core queryFunction request cb app = .ok d) :
    Called cb app d.app := by
  unfold slaveDispatch at h
  dsimp only at h
  split_ifs at h
  · exact handleRead_calls h
  · exact handleRead_calls h
  · exact handleWriteSingle_calls h
  · exact handleWriteSingle_calls h
  · exact handleWriteMultiple_calls h
  · exact handleWriteMultiple_calls h
  · unfold handleReportSlaveId at h
    repeat obtain ⟨_, -, h⟩ := bind_eq_ok.mp h
    cases h
    exact Or.inl rfl
  · cases h
    exact Or.inl rfl

end Dispatch

theorem modbusSlaveHandle_keeps {smb smb' : Smb σ} {w w' : σ} {request request' : Buffer UInt8 n}
    {requestLen : UInt16} {cb : Option (SlaveCallback κ)} {app app' : κ} {ret : Int}
    (h : modbusSlaveHandle smb w request requestLen cb app = .ok (ret, smb', w', request', app')) :
    smb'.config = smb.config ∧ Called cb app app' := by
  unfold modbusSlaveHandle at h
  obtain ⟨core, -, h⟩ := bind_eq_ok.mp h
  obtain ⟨queryFunction, -, h⟩ := bind_eq_ok.mp h
  dsimp only at h
  split_ifs at h
  · cases h
    exact ⟨rfl, Or.inl rfl⟩
  · obtain ⟨d, hdispatch, h⟩ := bind_eq_ok.mp h
    have hcalled := slaveDispatch_calls hdispatch
    obtain ⟨⟨responseLen, response⟩, -, h⟩ := bind_eq_ok.mp h
    dsimp only at h
    split_ifs at h
    · obtain ⟨⟨ret₁, response₁⟩, -, h⟩ := bind_eq_ok.mp h
      dsimp only at h
      split_ifs at h
      · obtain ⟨frame, -, h⟩ := bind_eq_ok.mp h
        cases h
        exact ⟨rfl, hcalled⟩
      · cases h
        exact ⟨rfl, hcalled⟩
    · cases h
      exact ⟨rfl, hcalled⟩

/-- **The slave** leaves the configuration, and calls the application at most once. -/
theorem modbusSlaveWaitHandle_keeps {fuel : Nat} {smb smb' : Smb σ} {w w' : σ} {cb : Option (SlaveCallback κ)}
    {app app' : κ} {waitTime ret : Int}
    (h : modbusSlaveWaitHandle fuel smb w cb app waitTime = .ok (ret, smb', w', app')) :
    smb'.config = smb.config ∧ Called cb app app' := by
  unfold modbusSlaveWaitHandle at h
  dsimp only at h
  split_ifs at h
  · cases h
    exact ⟨rfl, Or.inl rfl⟩
  · obtain ⟨⟨ret₁, smb₁, w₁, request⟩, hwait, h⟩ := bind_eq_ok.mp h
    have hconfig := modbusSlaveWait_config hwait
    dsimp only at h
    split_ifs at h
    · cases h
      exact ⟨hconfig, Or.inl rfl⟩
    · obtain ⟨⟨ret₂, smb₂, w₂, request₂, app₂⟩, hhandle, h⟩ := bind_eq_ok.mp h
      obtain ⟨hconfig₂, hcalled⟩ := modbusSlaveHandle_keeps hhandle
      cases h
      exact ⟨hconfig₂.trans hconfig, hcalled⟩

/-! ## §4 — runs of calls. -/

namespace ApiCall

/-- An initialisation. -/
theorem init_config (call : InitCall σ) (smb : Smb σ) :
    (call.apply smb).2.config = configure smb.config (.init call) := by
  obtain ⟨coreType, port⟩ := call
  cases port with
  | none => rfl
  | some p =>
    by_cases h0 : coreType = 0
    · subst h0
      rfl
    · have hset : (some p).isSome = true ∧ coreType ≠ 0 := ⟨rfl, h0⟩
      unfold InitCall.apply modbusInitPort configure InitCall.core InitCall.knownPort
      dsimp only
      rw [if_pos hset]
      by_cases hrtu : coreType = modbusCoreRtu
      · subst hrtu
        by_cases hp : p.type = modbusPortDevice ∨ p.type = modbusPortSocket
        · rw [if_pos hp, if_pos hp]
          rfl
        · rw [if_neg hp, if_neg hp]
          rfl
      · by_cases htcp : coreType = modbusCoreTcp
        · subst htcp
          by_cases hp : p.type = modbusPortDevice ∨ p.type = modbusPortSocket
          · rw [if_pos hp, if_pos hp]
            rfl
          · rw [if_neg hp, if_neg hp]
            rfl
        · rw [if_pos h0, if_neg (not_or.mpr ⟨hrtu, htcp⟩), if_neg hrtu, if_neg htcp]
          rfl

/-- A setter sets its field on a usable context. -/
theorem setter_config (smb smb' : Smb σ) {c : Config σ} (hset : smb'.config = c) :
    (if modbusOk = modbusContextCheck smb then (modbusContextCheck smb, smb')
      else (modbusContextCheck smb, smb)).2.config = if smb.config.Usable then c else smb.config := by
  by_cases h : smb.config.Usable
  · rw [if_pos h, if_pos ((contextCheck_iff smb).mpr h).symm]
    exact hset
  · rw [if_neg h, if_neg (mt (fun hcheck => (contextCheck_iff smb).mp hcheck.symm) h)]

/-- The address is checked after the context. -/
theorem setSlave_config (smb : Smb σ) (slave : Int) :
    (modbusSetSlave smb slave).2.config = configure smb.config (.setSlave slave) := by
  unfold modbusSetSlave configure
  dsimp only
  by_cases h : smb.config.Usable
  · rw [if_pos ((contextCheck_iff smb).mpr h).symm]
    by_cases hslave : 0 < slave ∧ 247 > slave
    · rw [if_pos hslave, if_pos ⟨h, hslave⟩]
      rfl
    · rw [if_neg hslave, if_neg (fun hboth => hslave hboth.2)]
  · rw [if_neg (mt (fun hcheck => (contextCheck_iff smb).mp hcheck.symm) h), if_neg (fun hboth => h hboth.1)]

/-- **One call** acts on the configuration as it says, and on the application through the callback. -/
theorem step_config {host : Host} {cb : Option (SlaveCallback κ)} {fuel : Nat} {call : ApiCall σ}
    {s : Smb σ × σ × κ} {x : Int × (Smb σ × σ × κ)} (h : call.step host cb fuel s = .ok x) :
    x.2.1.config = call.configure s.1.config ∧ Called cb s.2.2 x.2.2.2 := by
  obtain ⟨smb, w, app⟩ := s
  cases call with
  | init call =>
    cases h
    exact ⟨init_config call smb, Or.inl rfl⟩
  | errorExit code =>
    cases h
    have hset := setter_config smb { smb with errorCode := code } rfl
    exact ⟨hset, Or.inl rfl⟩
  | setFrameTimeout t =>
    cases h
    have hset := setter_config smb { smb with timeoutFrame := toU32 t } rfl
    exact ⟨hset, Or.inl rfl⟩
  | setByteTimeout t =>
    cases h
    have hset := setter_config smb { smb with timeoutByte := toU32 t } rfl
    exact ⟨hset, Or.inl rfl⟩
  | setDebug level =>
    cases h
    have hset := setter_config smb { smb with debugLevel := toU8 level } rfl
    exact ⟨hset, Or.inl rfl⟩
  | setSlave slave =>
    cases h
    exact ⟨setSlave_config smb slave, Or.inl rfl⟩
  | readOp op addr num n readData =>
    obtain ⟨⟨ret, smb', w', out⟩, hrun, h⟩ := bind_eq_ok.mp h
    cases h
    rw [op.run_eq] at hrun
    exact ⟨masterOperation_config hrun, Or.inl rfl⟩
  | writeOp op =>
    obtain ⟨⟨ret, smb', w', out⟩, hrun, h⟩ := bind_eq_ok.mp h
    cases h
    rw [op.run_eq] at hrun
    exact ⟨masterOperation_config hrun, Or.inl rfl⟩
  | slaveWaitHandle waitTime =>
    obtain ⟨⟨ret, smb', w', app'⟩, hrun, h⟩ := bind_eq_ok.mp h
    cases h
    exact modbusSlaveWaitHandle_keeps hrun
  | _ =>
    -- the functions of the port have no access to the context
    cases h
    exact ⟨rfl, Or.inl rfl⟩

end ApiCall

section Runs

variable (host : Host) (cb : Option (SlaveCallback κ)) (fuel : Nat) {calls : List (ApiCall σ)} {smb : Smb σ} {w : σ}
  {app : κ} {trace : List (Int × (Smb σ × σ × κ))}
  (hrun : runAll (ApiCall.step host cb fuel) calls (smb, w, app) = .ok trace)

include hrun

/-- What every call of the callback keeps is kept in every run. -/
theorem apps_kept {keeps : κ → Prop}
    (hcb : ∀ cb', cb = some cb' → ∀ app f addr num data, keeps app → keeps (cb'.call app f addr num data).2.2)
    (happ : keeps app) : ∀ x ∈ trace, keeps x.2.2.2 := by
  have hstep : ∀ (call : ApiCall σ) (s : Smb σ × σ × κ) x, keeps s.2.2 → ApiCall.step host cb fuel call s = .ok x →
      keeps x.2.2.2 ∧ True := by
    intro call s x hkeeps hcall
    obtain ⟨-, hcalled⟩ := ApiCall.step_config hcall
    rcases hcalled with happ' | ⟨cb', f, addr, num, data, hcb', happ'⟩
    · exact ⟨happ' ▸ hkeeps, trivial⟩
    · exact ⟨happ' ▸ hcb cb' hcb' _ _ _ _ _ hkeeps, trivial⟩
  have hexplains : Explains (fun _ : Smb σ × σ × κ => ()) (fun _ _ _ _ => True) () calls trace ∧
      ∀ x ∈ trace, keeps x.2.2.2 := Explains.of_run (fun s => keeps s.2.2) hstep happ hrun
  exact hexplains.2

/-- **The configuration of a context** is what the initialisations and the setters make of it: in every run
of calls of the library that return, on any port and with any callback that leaves the context alone, no
operation, no frame and no error changes it. -/
theorem configured : (trace.map fun x => x.2.1.config) =
    (List.range calls.length).map fun i => (calls.take (i + 1)).foldl ApiCall.configure smb.config := by
  have hexplains : Explains (fun s : Smb σ × σ × κ => s.1.config) (fun c call _ c' => c' = ApiCall.configure c call)
      smb.config calls trace ∧ ∀ x ∈ trace, True :=
    Explains.of_run (fun _ => True) (fun _ _ _ _ hcall => ⟨trivial, (ApiCall.step_config hcall).1⟩) trivial hrun
  exact hexplains.1.foldl

end Runs

/-- A context from its first call on: an address is set and one that is reserved refused, a read times out, a
request is answered, a port of unknown type is refused and leaves the core of its call. -/
theorem configured_calls :
    ∃ trace, runAll (ApiCall.step (κ := Unit) .littleEndian none 600)
        [.setSlave 17, .init ⟨modbusCoreRtu, some ⟨modbusPortDevice, Wire.port⟩⟩, .setSlave 17, .setSlave 247,
          .setFrameTimeout 5, .slaveWaitHandle (-1), .readOp .bits 0 1 1 (Buffer.replicate 1 0),
          .init ⟨modbusCoreTcp, some ⟨0, Wire.port⟩⟩]
        (zeroContext Wire, ⟨[17, 17, 205, 236], [], []⟩, ()) = .ok trace ∧
      (trace.map fun x => x.2.1.config) = (List.range 8).map fun i =>
        (List.take (i + 1) [.setSlave 17, .init ⟨modbusCoreRtu, some ⟨modbusPortDevice, Wire.port⟩⟩, .setSlave 17,
          .setSlave 247, .setFrameTimeout 5, .slaveWaitHandle (-1), .readOp .bits 0 1 1 (Buffer.replicate 1 0),
          .init ⟨modbusCoreTcp, some ⟨0, Wire.port⟩⟩]).foldl ApiCall.configure (zeroContext Wire).config := by
  obtain ⟨trace, hrun, -⟩ := map_eq_ok.mp (show (runAll (ApiCall.step (κ := Unit) .littleEndian none 600)
    [.setSlave 17, .init ⟨modbusCoreRtu, some ⟨modbusPortDevice, Wire.port⟩⟩, .setSlave 17, .setSlave 247,
      .setFrameTimeout 5, .slaveWaitHandle (-1), .readOp .bits 0 1 1 (Buffer.replicate 1 0),
      .init ⟨modbusCoreTcp, some ⟨0, Wire.port⟩⟩]
    (zeroContext Wire, ⟨[17, 17, 205, 236], [], []⟩, ())).map (fun trace => trace.map Prod.fst) =
      .ok [-10, 1, 0, -1, 0, 14, -2, 0] by decide +kernel)
  exact ⟨trace, hrun, configured .littleEndian none 600 hrun⟩

end SmallModbus
