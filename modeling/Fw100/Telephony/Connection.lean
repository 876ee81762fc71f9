import Fw100.Library.Traced
import Fw100.Telephony.Apn

/-!
# The data connection tracker

`GsmDataConnectionTracker`: the list of access points, the setup of a connection and the
handlers of the messages that start it. The phone, the connection, the retry manager and the
content provider are outside; what they answer is read from `Phone` and what is asked of them
is an effect. Log messages are left out, except that making one can fail.
-/
namespace Fw100.Telephony
open Library

inductive State where
  | idle
  | initing
  | connecting
  | scanning
  | connected
  | disconnecting
  | failed
deriving DecidableEq, Repr

inductive Reason where
  | gprsAttached
  | simLoaded
  | apnFailed
  | named (name : String)
deriving DecidableEq, Repr

/-- What is read from outside while a message is handled. -/
structure Phone where
  simulatedRadio : Bool
  gprsInService : Bool
  phoneIdle : Bool
  roaming : Bool
  anyDataEnabled : Bool
  dataOnRoamingEnabled : Bool
  masterDataEnabled : Bool
  desiredPowerState : Bool
  simOperatorNumeric : Option String
  networkOperator : String
  /-- The rows for the operator, or a null cursor. -/
  carriers : Option (List CarrierRow)
  /-- The ids in the table of the preferred access point, or a null cursor. -/
  preferApn : Option (List ℤ)
  /-- What `fetchDunApn` finds. -/
  dunApn : Option ApnSetting
  canHandleType : ApnSetting → String → Bool
  /-- `isInactive` of the one connection in the pool. -/
  connInactive : Bool
  /-- `isRetryNeeded` of the retry manager. -/
  retryNeeded : Bool
  /-- `isApnTypeActive` for the default type. -/
  defaultTypeActive : Bool

structure Tracker where
  state : State
  allApns : Option (List ApnSetting)
  waitingApns : Option (List ApnSetting)
  waitingApnsPermanentFailureCountDown : ℤ
  preferredApn : Option ApnSetting
  activeApn : Option ApnSetting
  canSetPreferApn : Bool
  defaultApnIsReady : Bool
  noAutoAttach : Bool
  requestedApnType : String
  isPsRestricted : Bool
  reregisterOnReconnectFailure : Bool
  /-- `mReconnectIntent` is not null. -/
  reconnectIntent : Bool
  pingTestActive : Bool
  netStatPollEnabled : Bool
  /-- The connection was reset while this message was handled. -/
  connReset : Bool
deriving DecidableEq, Repr

def Tracker.created : Tracker :=
  ⟨.idle, none, none, 0, none, none, false, false, false, apnTypeDefault, false, false, false, false,
    false, false⟩

/-- A phone without a SIM that is ready for data, with a carrier database and a stored choice. -/
def Phone.simless (network : String) (carriers : Option (List CarrierRow))
    (preferApn : Option (List ℤ)) : Phone where
  simulatedRadio := false
  gprsInService := true
  phoneIdle := true
  roaming := false
  anyDataEnabled := true
  dataOnRoamingEnabled := false
  masterDataEnabled := true
  desiredPowerState := true
  simOperatorNumeric := none
  networkOperator := network
  carriers := carriers
  preferApn := preferApn
  dunApn := none
  canHandleType := fun apn type => apn.types.contains type || apn.types.contains apnTypeAll
  connInactive := true
  retryNeeded := true
  defaultTypeActive := true

inductive Effect where
  | notifyDataConnection (reason : Option Reason)
  | connect (apn : ApnSetting) (reason : Option Reason)
  | resetSynchronously
  | cancelAlarm
  | setAlarm (reason : Option Reason)
  | resetRetryCount
  | increaseRetryCount
  | retryForever
  | reRegisterNetwork
  | disableApn (type : String)
  | queryCarriers (operator : String)
  | queryPreferApn
  | deletePreferApn
  | insertPreferApn (pos : ℤ)
  /-- EVENT_TRY_SETUP_DATA, sent at once or after `APN_DELAY_MILLIS`. -/
  | sendTrySetup (reason : Option Reason) (delayed : Bool)
  | startPoll
  | stopPoll
  | setDefaultPdpActive (active : Bool)
deriving DecidableEq, Repr

inductive Fault where
  | nullPointer
  | indexOutOfBounds
deriving DecidableEq, Repr

/-- The fail causes of a connection: whether it is permanent and whether it is `UNKNOWN`. -/
structure FailCause where
  isPermanentFail : Bool
  isUnknown : Bool
deriving DecidableEq, Repr

abbrev Handler (α : Type) := Traced Phone Effect Fault Tracker α

open Traced (emit environment current update fault)

def setState (s : State) : Handler Unit :=
  update (fun t =>
    { t with state := s,
             waitingApns := if s = .failed then t.waitingApns.map (fun _ => []) else t.waitingApns })

def Phone.isDataAllowed (phone : Phone) : Bool :=
  phone.anyDataEnabled && (!phone.roaming || phone.dataOnRoamingEnabled) && phone.masterDataEnabled

/-! ### The list of access points -/

def createApnFromOperator (operator : String) : Handler (List ApnSetting) := do
  update (fun t => { t with defaultApnIsReady := true })
  pure [operatorApn operator]

def setPreferredApn (pos : ℤ) : Handler Unit := do
  let t ← current
  if t.canSetPreferApn then
    emit .deletePreferApn
    if 0 ≤ pos then emit (.insertPreferApn pos) else pure ()
  else pure ()

/-- The first access point with the stored id that can handle the requested type. -/
def Phone.storedApn (phone : Phone) (apns : List ApnSetting) (type : String) : Option ApnSetting :=
  (phone.preferApn.bind List.head?).bind (fun pos =>
    apns.find? (fun p => p.id = pos ∧ phone.canHandleType p type = true))

def getPreferredApn : Handler (Option ApnSetting) := do
  let phone ← environment
  let t ← current
  match t.allApns with
  | none => fault .nullPointer
  | some apns =>
    if apns.isEmpty then pure none
    else
      emit .queryPreferApn
      update (fun t => { t with canSetPreferApn := phone.preferApn.isSome })
      pure (phone.storedApn apns t.requestedApnType)

/-- The operator of `createAllApnList`, which is that of the network without a SIM. -/
def Phone.operator (phone : Phone) : String := phone.simOperatorNumeric.getD phone.networkOperator

/-- The first part of `createAllApnList`: the rows of the operator or a made-up access point. -/
def queryApns (operator : String) : Handler (List ApnSetting) := do
  let phone ← environment
  emit (.queryCarriers operator)
  let rows := createApnList (phone.carriers.getD [])
  if rows.isEmpty then createApnFromOperator operator else pure rows

/-- The last part: the preferred access point is forgotten if it is not one of the operator. -/
def dropForeign (operator : String) : Option ApnSetting → Handler Unit
  | none => pure ()
  | some apn =>
    if apn.numeric = operator then pure ()
    else do
      update (fun t => { t with preferredApn := none })
      setPreferredApn (-1)

def createAllApnList : Handler Unit := do
  let phone ← environment
  let operator := phone.operator
  let apns ← queryApns operator
  update (fun t => { t with allApns := some apns })
  let preferred ← getPreferredApn
  update (fun t => { t with preferredApn := preferred })
  dropForeign operator preferred

/-- Every access point is added, whether it can handle the requested type or not. -/
def addApns (phone : Phone) (type : String) : List ApnSetting → List ApnSetting
  | [] => []
  | apn :: apns =>
    if phone.canHandleType apn type then apn :: addApns phone type apns
    else apn :: addApns phone type apns

def buildFromAll : Handler (List ApnSetting) := do
  let phone ← environment
  let t ← current
  match t.allApns with
  | none => pure []
  | some apns => pure (addApns phone t.requestedApnType apns)

def buildWaitingApns : Handler (List ApnSetting) := do
  let phone ← environment
  let t ← current
  if t.requestedApnType = apnTypeDun then pure phone.dunApn.toList
  else if t.requestedApnType = apnTypeDefault ∧ t.canSetPreferApn = true then
    match t.preferredApn with
    | none => buildFromAll
    | some preferred =>
      if some preferred.numeric = phone.simOperatorNumeric then pure [preferred]
      else do
        setPreferredApn (-1)
        update (fun t => { t with preferredApn := none })
        buildFromAll
  else buildFromAll

/-! ### Setup -/

/-- `notifyNoData`, which does not look at the cause. -/
def notifyNoData : Handler Unit := setState .failed

def getNextApn : Handler (Option ApnSetting) := do
  let t ← current
  pure (t.waitingApns.bind List.head?)

def findFreePdp : Handler Bool := do
  let phone ← environment
  let t ← current
  pure (phone.connInactive || t.connReset)

/-- The part of `setupData` with an access point and a free connection. -/
def connectApn (apn : ApnSetting) (reason : Option Reason) : Handler Bool := do
  update (fun t => { t with activeApn := some apn })
  emit (.connect apn reason)
  setState .initing
  emit (.notifyDataConnection reason)
  pure true

def setupData (reason : Option Reason) : Handler Bool := do
  match ← getNextApn with
  | none => pure false
  | some apn => if ← findFreePdp then connectApn apn reason else pure false

/-- The tests of `trySetupData` that do not depend on the connection. -/
def Phone.isReady (phone : Phone) (t : Tracker) : Bool :=
  (phone.gprsInService || t.noAutoAttach) && phone.phoneIdle && phone.isDataAllowed &&
    !t.isPsRestricted && phone.desiredPowerState

/-- The message that lists the waiting access points fails without a list. -/
def setupWaiting (reason : Option Reason) : Handler Bool := do
  let t ← current
  if t.waitingApns.isNone then fault .nullPointer else setupData reason

/-- The part of `trySetupData` for an idle tracker. The message that lists all access points
fails without a list. -/
def setupFirst (reason : Option Reason) : Handler Bool := do
  let t ← current
  let waiting ← buildWaitingApns
  update (fun t => { t with waitingApns := some waiting,
                            waitingApnsPermanentFailureCountDown := waiting.length })
  if waiting.isEmpty then
    notifyNoData
    pure false
  else if t.allApns.isNone then fault .nullPointer
  else setupWaiting reason

def trySetupData (reason : Option Reason) : Handler Bool := do
  let phone ← environment
  let t ← current
  if phone.simulatedRadio then
    setState .connected
    emit (.notifyDataConnection reason)
    pure true
  else if (t.state = .idle ∨ t.state = .scanning) ∧ phone.isReady t = true then
    if t.state = .idle then setupFirst reason else setupWaiting reason
  else pure false

def startNetStatPoll : Handler Unit := do
  let t ← current
  if t.state = .connected ∧ t.pingTestActive = false ∧ t.netStatPollEnabled = false then
    update (fun t => { t with netStatPollEnabled := true })
    emit .startPoll
  else pure ()

def stopNetStatPoll : Handler Unit := do
  update (fun t => { t with netStatPollEnabled := false })
  emit .stopPoll

def gotoIdleAndNotifyDataConnection (reason : Option Reason) : Handler Unit := do
  setState .idle
  emit (.notifyDataConnection reason)
  update (fun t => { t with activeApn := none })

/-- `cleanUpConnection` without tear-down. -/
def cleanUpConnection (reason : Option Reason) : Handler Unit := do
  let t ← current
  if t.reconnectIntent then
    emit .cancelAlarm
    update (fun t => { t with reconnectIntent := false })
  else pure ()
  setState .disconnecting
  emit .resetSynchronously
  update (fun t => { t with connReset := true })
  stopNetStatPoll
  gotoIdleAndNotifyDataConnection reason

def scheduleReconnect (cause : FailCause) (reason : Option Reason) : Handler Unit := do
  update (fun t => { t with reconnectIntent := true })
  emit (.setAlarm reason)
  emit .increaseRetryCount
  if cause.isUnknown then pure () else notifyNoData

def reconnectAfterFail (cause : FailCause) (reason : Option Reason) : Handler Unit := do
  let phone ← environment
  let t ← current
  if t.state = .failed then
    if phone.retryNeeded then scheduleReconnect cause reason
    else if t.requestedApnType ≠ apnTypeDefault then
      emit (.notifyDataConnection (some .apnFailed))
      emit (.disableApn t.requestedApnType)
    else if t.reregisterOnReconnectFailure then
      emit .retryForever
      scheduleReconnect cause reason
    else
      update (fun t => { t with reregisterOnReconnectFailure := true })
      emit .reRegisterNetwork
      emit .resetRetryCount
  else pure ()

def startDelayedRetry (cause : FailCause) (reason : Option Reason) : Handler Unit := do
  notifyNoData
  reconnectAfterFail cause reason

def removeFirstWaiting : Handler Unit := do
  let t ← current
  match t.waitingApns with
  | none => fault .nullPointer
  | some [] => fault .indexOutOfBounds
  | some (_ :: waiting) => update (fun t => { t with waitingApns := some waiting })

def Tracker.countDown (t : Tracker) (cause : FailCause) : Tracker :=
  { t with waitingApnsPermanentFailureCountDown :=
      t.waitingApnsPermanentFailureCountDown - if cause.isPermanentFail then 1 else 0 }

/-- What follows when the access point that failed is off the list. -/
def tryNextApn (cause : FailCause) (reason : Option Reason) : Handler Unit := do
  let t ← current
  if t.waitingApns = some [] then
    if t.waitingApnsPermanentFailureCountDown = 0 then
      notifyNoData
      emit (.notifyDataConnection (some .apnFailed))
    else startDelayedRetry cause reason
  else
    setState .scanning
    emit (.sendTrySetup reason true)

def onDataSetupFailed (cause : FailCause) (reason : Option Reason) : Handler Unit := do
  update (fun t => t.countDown cause)
  removeFirstWaiting
  tryNextApn cause reason

def notifyDefaultData (reason : Option Reason) : Handler Unit := do
  setState .connected
  emit (.notifyDataConnection reason)
  startNetStatPoll
  emit .resetRetryCount
  update (fun t => { t with reregisterOnReconnectFailure := false })

/-- The access point that worked becomes the preferred one, if there is none. -/
def preferActiveApn : Handler Unit := do
  let t ← current
  if t.canSetPreferApn = true ∧ t.preferredApn = none then
    update (fun t => { t with preferredApn := t.activeApn })
    match t.activeApn with
    | none => fault .nullPointer
    | some apn => setPreferredApn apn.id
  else pure ()

def onDataSetupDone (reason : Option Reason) : Handler Unit := do
  let phone ← environment
  emit (.setDefaultPdpActive phone.defaultTypeActive)
  if phone.defaultTypeActive then preferActiveApn else pure ()
  notifyDefaultData reason

/-- `onDataSetupComplete`, with the cause if the setup failed. -/
def onDataSetupComplete (cause : Option FailCause) (reason : Option Reason) : Handler Unit :=
  match cause with
  | none => onDataSetupDone reason
  | some cause => onDataSetupFailed cause reason

/-! ### Messages -/

def onRecordsLoaded : Handler Unit := do
  createAllApnList
  let t ← current
  if t.state = .failed then cleanUpConnection none else pure ()
  emit (.sendTrySetup (some .simLoaded) false)

def onGprsAttached : Handler Unit := do
  let t ← current
  if t.state = .connected then
    startNetStatPoll
    emit (.notifyDataConnection (some .gprsAttached))
  else
    if t.state = .failed then
      cleanUpConnection (some .gprsAttached)
      emit .resetRetryCount
    else pure ()
    let _ ← trySetupData (some .gprsAttached)
    pure ()

inductive Message where
  | recordsLoaded
  | gprsAttached
  | trySetupData (reason : Option Reason)
  | dataSetupComplete (cause : Option FailCause) (reason : Option Reason)
deriving DecidableEq, Repr

/-- `handleMessage` of the phone that is active; the others drop their messages. Behind the
`switch`, `connectivityCheck` only writes to the log. -/
def handleMessage : Message → Handler Unit
  | .recordsLoaded => onRecordsLoaded
  | .gprsAttached => do
    let t ← current
    if t.defaultApnIsReady = false then onRecordsLoaded else pure ()
    onGprsAttached
  | .trySetupData reason => do
    let _ ← trySetupData reason
    pure ()
  | .dataSetupComplete cause reason => onDataSetupComplete cause reason

def Tracker.woken (t : Tracker) : Tracker := { t with connReset := false }

def receive (message : Message) : Handler Unit := do
  update Tracker.woken
  handleMessage message

theorem receive_eq (message : Message) (phone : Phone) (t : Tracker) :
    receive message phone t = handleMessage message phone t.woken := Traced.update_bind

end Fw100.Telephony
