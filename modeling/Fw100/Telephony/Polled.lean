import Fw100.Library.Within
import Fw100.Telephony.Connection

/-!
# The tracker with its polls

All handlers of `GsmDataConnectionTracker`: those that set up a connection, those that tear it
down, and those that start and stop the poll of the packet counters. A poll that sees packets go
out and none come in asks for the list of contexts a few times and then starts a thread that
sends a ping; the thread answers with a message. The queue of the handler is modelled as far as
the tracker puts polls into it, and so are the threads.
-/
namespace Fw100.Telephony.Polled
open Library
open Traced (emit environment current update fault)

inductive Activity where
  | none
  | dataIn
  | dataOut
  | dataInAndOut
deriving DecidableEq, Repr

structure DataCallState where
  cid : ℤ
  active : ℤ
deriving DecidableEq, Repr

/-- What the handlers read from outside, with the settings of the watchdog. -/
structure Device extends Phone where
  isTheCurrentActivePhone : Bool
  isConcurrentVoiceAndData : Bool
  cidActive : ℤ
  /-- `getNetworkInfo` knows the two networks. -/
  wifiInfo : Bool
  mobileInfo : Bool
  mobileTxPackets : ℤ
  mobileRxPackets : ℤ
  /-- `PDP_WATCHDOG_TRIGGER_PACKET_COUNT` -/
  watchdogTrigger : ℤ
  /-- `PDP_WATCHDOG_ERROR_POLL_COUNT` -/
  noRecvPollLimit : ℤ
  /-- `PDP_WATCHDOG_ERROR_POLL_INTERVAL_MS` -/
  errorPollInterval : ℤ
  /-- `PDP_WATCHDOG_POLL_INTERVAL_MS` -/
  pollInterval : ℤ
  /-- `PDP_WATCHDOG_LONG_POLL_INTERVAL_MS` -/
  longPollInterval : ℤ
  /-- `PDP_WATCHDOG_MAX_PDP_RESET_FAIL_COUNT` -/
  maxPdpReset : ℤ
  /-- The constant `POLL_NETSTAT_MILLIS`. -/
  pollNetstatMillis : ℤ

structure PollStats where
  txPkts : ℤ
  rxPkts : ℤ
  sentSinceLastRecv : ℤ
  netStatPollPeriod : ℤ
  noRecvPollCount : ℤ
  pdpResetCount : ℤ
  activity : Activity
  isScreenOn : Bool
deriving DecidableEq, Repr

structure PolledTracker extends Tracker where
  stats : PollStats
  /-- How often `mPollNetStat` is in the queue. -/
  polls : ℕ
  /-- Threads that wait for the answer to a ping. -/
  pings : ℕ
  /-- Threads with an answer that have set `mPdpResetCount` and not yet sent their message. -/
  answered : ℕ
  /-- EVENT_START_NETSTAT_POLL messages in the queue. -/
  startPolls : ℕ
  /-- EVENT_START_RECOVERY messages in the queue. -/
  startRecoveries : ℕ
deriving DecidableEq, Repr

/-- The tracker as it is created; what the superclass sets is in `stats`. -/
def PolledTracker.created (noAutoAttach : Bool) (stats : PollStats) : PolledTracker :=
  { Tracker.created with
    noAutoAttach := noAutoAttach, stats := { stats with pdpResetCount := 0, isScreenOn := true },
    polls := 0, pings := 0, answered := 0, startPolls := 0, startRecoveries := 0 }

inductive Output where
  | base (e : Effect)
  | disconnect (reason : Option Reason)
  | getPDPContextList
  | getDataCallList
  | notifyDataActivity (activity : Activity)
  | postPoll (period : ℤ)
  | startPing
  | useRetryManager (secondary : Bool)
  | sendPollPdp
  | sendCleanUp (reason : Option Reason)
  /-- The event log for a reset and for a registration by `doRecovery`. -/
  | pdpRadioReset
  | pdpReregisterNetwork
  /-- `mPdpResetCount` is set to zero by a poll or by a thread with an answer. -/
  | clearPdpReset
deriving DecidableEq, Repr

abbrev Handler (α : Type) := Traced Device Output Fault PolledTracker α

def trackerPart : Part Device Output PolledTracker Phone Effect Tracker where
  view d := d.toPhone
  tell := .base
  get s := s.toTracker
  put s t := { s with toTracker := t }
  get_put _ _ := rfl

/-- A handler that has nothing to do with the poll. -/
def base {α : Type} (m : Telephony.Handler α) : Handler α := Traced.within trackerPart m

def notify (reason : Option Reason) : Handler Unit := emit (.base (.notifyDataConnection reason))

def updateStats (f : PollStats → PollStats) : Handler Unit :=
  update (fun s => { s with stats := f s.stats })

/-! ### The poll -/

/-- What the numbers of packets since the last poll do, and the activity that they show. -/
def PollStats.counted (stats : PollStats) (phoneIdle : Bool) (sent received : ℤ) :
    PollStats × Activity :=
  if 0 < sent ∧ 0 < received then
    ({ stats with sentSinceLastRecv := 0, pdpResetCount := 0 }, .dataInAndOut)
  else if 0 < sent ∧ received = 0 then
    ({ stats with sentSinceLastRecv := if phoneIdle then stats.sentSinceLastRecv + sent else 0 },
      .dataOut)
  else if sent = 0 ∧ 0 < received then
    ({ stats with sentSinceLastRecv := 0, pdpResetCount := 0 }, .dataIn)
  else if sent = 0 ∧ received = 0 then (stats, .none)
  else ({ stats with sentSinceLastRecv := 0 }, .none)

def countPackets (sent received : ℤ) : Handler Unit := do
  let d ← environment
  let s ← current
  let (stats, newActivity) := s.stats.counted d.phoneIdle sent received
  updateStats (fun _ => stats)
  if newActivity = .dataIn ∨ newActivity = .dataInAndOut then emit .clearPdpReset else pure ()
  if stats.activity ≠ newActivity ∧ stats.isScreenOn = true then
    updateStats (fun stats => { stats with activity := newActivity })
    emit (.notifyDataActivity newActivity)
  else pure ()

def readPackets : Handler Unit := do
  let d ← environment
  let s ← current
  updateStats (fun stats =>
    { stats with txPkts := d.mobileTxPackets, rxPkts := d.mobileRxPackets })
  if s.netStatPollEnabled = true ∧ (0 < s.stats.txPkts ∨ 0 < s.stats.rxPkts) then
    countPackets (d.mobileTxPackets - s.stats.txPkts) (d.mobileRxPackets - s.stats.rxPkts)
  else pure ()

/-- `removeCallbacks` takes every poll out of the queue. -/
def stopNetStatPoll : Handler Unit := do
  base Telephony.stopNetStatPoll
  update (fun s => { s with polls := 0 })

/-- The second part, which looks for packets that are not answered. -/
def watchPackets : Handler Unit := do
  let d ← environment
  let s ← current
  if d.watchdogTrigger ≤ s.stats.sentSinceLastRecv then
    if s.stats.noRecvPollCount < d.noRecvPollLimit then
      emit .getDataCallList
      updateStats (fun stats => { stats with
        noRecvPollCount := stats.noRecvPollCount + 1, netStatPollPeriod := d.errorPollInterval })
    else
      stopNetStatPoll
      update (fun s => { s with pingTestActive := true, pings := s.pings + 1 })
      emit .startPing
  else
    updateStats (fun stats => { stats with
      noRecvPollCount := 0,
      netStatPollPeriod := if stats.isScreenOn then d.pollInterval else d.longPollInterval })

def postPoll : Handler Unit := do
  let s ← current
  if s.netStatPollEnabled then
    emit (.postPoll s.stats.netStatPollPeriod)
    update (fun s => { s with polls := s.polls + 1 })
  else pure ()

def pollNetStat : Handler Unit := do
  readPackets
  watchPackets
  postPoll

def resetPollStats : Handler Unit := do
  let d ← environment
  updateStats (fun stats => { stats with
    txPkts := -1, rxPkts := -1, sentSinceLastRecv := 0, netStatPollPeriod := d.pollNetstatMillis,
    noRecvPollCount := 0 })

def startNetStatPoll : Handler Unit := do
  let s ← current
  if s.state = .connected ∧ s.pingTestActive = false ∧ s.netStatPollEnabled = false then
    resetPollStats
    update (fun s => { s with netStatPollEnabled := true })
    pollNetStat
  else pure ()

/-! ### Tearing down -/

def clearReconnectAlarm : Handler Unit := do
  let s ← current
  if s.reconnectIntent then
    emit (.base .cancelAlarm)
    update (fun s => { s with reconnectIntent := false })
  else pure ()

/-- The body of the loop over the one connection of the pool. -/
def release (tearDown : Bool) (reason : Option Reason) : Handler Unit :=
  if tearDown then emit (.disconnect reason)
  else do
    emit (.base .resetSynchronously)
    update (fun s => { s with connReset := true })

/-- The notification is deferred if the connection is torn down. -/
def cleanUpConnection (tearDown : Bool) (reason : Option Reason) : Handler Unit := do
  clearReconnectAlarm
  base (setState .disconnecting)
  release tearDown reason
  stopNetStatPoll
  if tearDown then pure () else base (gotoIdleAndNotifyDataConnection reason)

def reasonGprsDetached : Reason := .named "REASON_GPRS_DETACHED"

def reasonRadioTurnedOff : Reason := .named "REASON_RADIO_TURNED_OFF"

def reasonApnSwitched : Reason := .named "REASON_APN_SWITCHED"

def reasonRoamingOn : Reason := .named "REASON_ROAMING_ON"

def reasonRoamingOff : Reason := .named "REASON_ROAMING_OFF"

def reasonPdpReset : Reason := .named "REASON_PDP_RESET"

def reasonPsRestrictEnabled : Reason := .named "REASON_PS_RESTRICT_ENABLED"

def reasonVoiceCallStarted : Reason := .named "REASON_VOICE_CALL_STARTED"

def reasonVoiceCallEnded : Reason := .named "REASON_VOICE_CALL_ENDED"

def trySetupData (reason : Option Reason) : Handler Unit := do
  let _ ← base (Telephony.trySetupData reason)
  pure ()

def resetRetryCount : Handler Unit := emit (.base .resetRetryCount)

/-- `mReregisterOnReconnectFailure` is forgotten when the retry manager starts anew. -/
def resetRetries : Handler Unit := do
  resetRetryCount
  update (fun s => { s with reregisterOnReconnectFailure := false })

/-! ### The handlers -/

def onGprsDetached : Handler Unit := do
  stopNetStatPoll
  notify (some reasonGprsDetached)

def onGprsAttached : Handler Unit := do
  let s ← current
  if s.state = .connected then
    startNetStatPoll
    notify (some .gprsAttached)
  else
    if s.state = .failed then
      cleanUpConnection false (some .gprsAttached)
      resetRetryCount
    else pure ()
    trySetupData (some .gprsAttached)

def onRecordsLoaded : Handler Unit := do
  base createAllApnList
  let s ← current
  if s.state = .failed then cleanUpConnection false none else pure ()
  emit (.base (.sendTrySetup (some .simLoaded) false))

def pdpStatesHasCID (states : List DataCallState) (cid : ℤ) : Bool :=
  states.any (fun state => state.cid = cid)

def pdpStatesHasActiveCID (states : List DataCallState) (cid : ℤ) : Bool :=
  states.any (fun state => state.cid = cid ∧ state.active ≠ 0)

def onPdpStateChanged (pdpStates : Option (List DataCallState)) (explicitPoll : Bool) :
    Handler Unit := do
  let d ← environment
  let s ← current
  match pdpStates with
  | none => pure ()
  | some states =>
    if s.state = .connected then
      if pdpStatesHasCID states d.cidActive = false then cleanUpConnection true none
      else if pdpStatesHasActiveCID states d.cidActive = false then
        if explicitPoll then cleanUpConnection true none else emit .getPDPContextList
      else pure ()
    else pure ()

def doRecovery : Handler Unit := do
  let d ← environment
  let s ← current
  if s.state = .connected then
    if s.stats.pdpResetCount < d.maxPdpReset then
      updateStats (fun stats => { stats with pdpResetCount := stats.pdpResetCount + 1 })
      emit .pdpRadioReset
      cleanUpConnection true (some reasonPdpReset)
    else
      updateStats (fun stats => { stats with pdpResetCount := 0 })
      emit .pdpReregisterNetwork
      emit (.base .reRegisterNetwork)
  else pure ()

def onEnableNewApn (type : String) : Handler Unit := do
  update (fun s => { s with requestedApnType := type })
  emit (.useRetryManager (type ≠ apnTypeDefault))
  resetRetryCount
  cleanUpConnection true (some reasonApnSwitched)

def onRoamingOff : Handler Unit := trySetupData (some reasonRoamingOff)

def onRoamingOn : Handler Unit := do
  let d ← environment
  if d.dataOnRoamingEnabled then trySetupData (some reasonRoamingOn)
  else cleanUpConnection true (some reasonRoamingOn)

def onRadioAvailable : Handler Unit := do
  let d ← environment
  if d.simulatedRadio then
    base (setState .connected)
    notify none
  else pure ()
  let s ← current
  if s.state ≠ .idle then cleanUpConnection true none else pure ()

def onRadioOffOrNotAvailable : Handler Unit := do
  let d ← environment
  resetRetries
  if d.simulatedRadio then pure ()
  else cleanUpConnection false (some reasonRadioTurnedOff)

def notifyDefaultData (reason : Option Reason) : Handler Unit := do
  base (setState .connected)
  notify reason
  startNetStatPoll
  resetRetries

def isDefaultActive (d : Device) (s : PolledTracker) : Bool :=
  s.activeApn.any (fun apn => d.canHandleType apn apnTypeDefault)

def onDataSetupComplete (cause : Option FailCause) (reason : Option Reason) : Handler Unit := do
  let d ← environment
  let s ← current
  match cause with
  | none =>
    emit (.base (.setDefaultPdpActive (isDefaultActive d s)))
    if isDefaultActive d s then base preferActiveApn else pure ()
    notifyDefaultData reason
  | some cause => base (onDataSetupFailed cause reason)

def retryAfterDisconnected (reason : Option Reason) : Bool := reason ≠ some reasonRadioTurnedOff

def onDisconnectDone (reason : Option Reason) : Handler Unit := do
  base (gotoIdleAndNotifyDataConnection reason)
  if retryAfterDisconnected reason then trySetupData reason else pure ()

def onResetDone (reason : Option Reason) : Handler Unit :=
  base (gotoIdleAndNotifyDataConnection reason)

def onPollPdp : Handler Unit := do
  let s ← current
  if s.state = .connected then
    emit .getPDPContextList
    emit .sendPollPdp
  else pure ()

def onVoiceCallStarted : Handler Unit := do
  let d ← environment
  let s ← current
  if s.state = .connected ∧ d.isConcurrentVoiceAndData = false then
    stopNetStatPoll
    notify (some reasonVoiceCallStarted)
  else pure ()

def onVoiceCallEnded : Handler Unit := do
  let d ← environment
  let s ← current
  if s.state = .connected then
    if d.isConcurrentVoiceAndData then resetPollStats
    else
      startNetStatPoll
      notify (some reasonVoiceCallEnded)
  else
    resetRetries
    trySetupData (some reasonVoiceCallEnded)

def onPsRestrictEnabled : Handler Unit := do
  stopNetStatPoll
  update (fun s => { s with isPsRestricted := true })

def onPsRestrictDisabled : Handler Unit := do
  update (fun s => { s with isPsRestricted := false })
  let s ← current
  if s.state = .connected then startNetStatPoll
  else
    if s.state = .failed then
      cleanUpConnection false (some reasonPsRestrictEnabled)
      resetRetries
    else pure ()
    trySetupData (some reasonPsRestrictEnabled)

/-! ### Events -/

/-- The messages, those that the superclass takes apart among them. -/
inductive Message where
  | recordsLoaded
  | gprsDetached
  | gprsAttached
  | dataStateChanged (pdpStates : Option (List DataCallState))
  | getPdpListComplete (pdpStates : Option (List DataCallState))
  | pollPdp
  | startNetstatPoll
  | startRecovery
  | apnChanged
  | psRestrictEnabled
  | psRestrictDisabled
  | trySetupData (reason : Option Reason)
  | cleanUpConnection (tearDown : Bool) (reason : Option Reason)
  | enableNewApn (type : String)
  | roamingOn
  | roamingOff
  | radioAvailable
  | radioOffOrNotAvailable
  | dataSetupComplete (cause : Option FailCause) (reason : Option Reason)
  | disconnectDone (reason : Option Reason)
  | resetDone (reason : Option Reason)
  | voiceCallStarted
  | voiceCallEnded
deriving DecidableEq, Repr

def handleMessage : Message → Handler Unit
  | .recordsLoaded => onRecordsLoaded
  | .gprsDetached => onGprsDetached
  | .gprsAttached => do
    let s ← current
    if s.defaultApnIsReady = false then onRecordsLoaded else pure ()
    onGprsAttached
  | .dataStateChanged pdpStates => onPdpStateChanged pdpStates false
  | .getPdpListComplete pdpStates => onPdpStateChanged pdpStates true
  | .pollPdp => onPollPdp
  | .startNetstatPoll => do
    update (fun s => { s with pingTestActive := false })
    startNetStatPoll
  | .startRecovery => do
    update (fun s => { s with pingTestActive := false })
    doRecovery
  | .apnChanged => pure ()
  | .psRestrictEnabled => onPsRestrictEnabled
  | .psRestrictDisabled => onPsRestrictDisabled
  | .trySetupData reason => trySetupData reason
  | .cleanUpConnection tearDown reason => cleanUpConnection tearDown reason
  | .enableNewApn type => onEnableNewApn type
  | .roamingOn => onRoamingOn
  | .roamingOff => onRoamingOff
  | .radioAvailable => onRadioAvailable
  | .radioOffOrNotAvailable => onRadioOffOrNotAvailable
  | .dataSetupComplete cause reason => onDataSetupComplete cause reason
  | .disconnectDone reason => onDisconnectDone reason
  | .resetDone reason => onResetDone reason
  | .voiceCallStarted => onVoiceCallStarted
  | .voiceCallEnded => onVoiceCallEnded

/-- The messages behind which the networks are looked at. -/
def Message.isChecked : Message → Bool
  | .dataStateChanged _ | .dataSetupComplete _ _ => true
  | _ => false

/-- The log messages about the networks fail without one of them. -/
def connectivityCheck (event : Message) : Handler Unit :=
  if event.isChecked then do
    let d ← environment
    if d.wifiInfo && d.mobileInfo then pure () else fault .nullPointer
  else pure ()

/-- The whole `handleMessage`. Messages to a phone that is not active are dropped. -/
def deliver (message : Message) : Handler Unit := do
  let d ← environment
  if d.isTheCurrentActivePhone then
    handleMessage message
    connectivityCheck message
  else pure ()

inductive Intent where
  | screen (isOn : Bool)
  | reconnectAlarm (reason : Option Reason)
deriving DecidableEq, Repr

def onReceive : Intent → Handler Unit
  | .screen isOn => do
    updateStats (fun stats => { stats with isScreenOn := isOn })
    stopNetStatPoll
    startNetStatPoll
  | .reconnectAlarm reason => do
    let s ← current
    if s.state = .failed then emit (.sendCleanUp reason) else pure ()
    emit (.base (.sendTrySetup none false))

/-- The end of a ping: the answer is there, or there is none. -/
def endPing (ok : Bool) : Handler Unit := do
  let s ← current
  if 0 < s.pings then
    update (fun s => { s with pings := s.pings - 1 })
    if ok then
      updateStats (fun stats => { stats with pdpResetCount := 0 })
      emit .clearPdpReset
      update (fun s => { s with answered := s.answered + 1 })
    else update (fun s => { s with startRecoveries := s.startRecoveries + 1 })
  else pure ()

/-- The thread sends its message behind an answer. -/
def reportPing : Handler Unit := do
  let s ← current
  if 0 < s.answered then
    update (fun s => { s with answered := s.answered - 1, startPolls := s.startPolls + 1 })
  else pure ()

/-- A message that is not from a ping may come at any time. -/
def receiveMessage : Message → Handler Unit
  | .startNetstatPoll => do
    let s ← current
    if 0 < s.startPolls then
      update (fun s => { s with startPolls := s.startPolls - 1 })
      deliver .startNetstatPoll
    else pure ()
  | .startRecovery => do
    let s ← current
    if 0 < s.startRecoveries then
      update (fun s => { s with startRecoveries := s.startRecoveries - 1 })
      deliver .startRecovery
    else pure ()
  | message => deliver message

def duePoll : Handler Unit := do
  let s ← current
  if 0 < s.polls then
    update (fun s => { s with polls := s.polls - 1 })
    pollNetStat
  else pure ()

inductive Event where
  | message (m : Message)
  | intent (i : Intent)
  | poll
  | pingEnds (ok : Bool)
  | pingReports
deriving DecidableEq, Repr

def handle : Event → Handler Unit
  | .message m => receiveMessage m
  | .intent i => onReceive i
  | .poll => duePoll
  | .pingEnds ok => endPing ok
  | .pingReports => reportPing

/-- Each event finds the connection as the phone has it. -/
def react (e : Event) : Handler Unit := do
  update (fun s => { s with toTracker := s.woken })
  handle e

def step (s : PolledTracker) (e : Device × Event) : PolledTracker × List Output :=
  let r := react e.2 e.1 s
  (r.state, r.events)

end Fw100.Telephony.Polled
