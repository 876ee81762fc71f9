import Fw100.Library.Overwrite
import Fw100.Request.Contract

/-!
# Packet data

Setting up and tearing down the data call and what is reported about it.
-/
namespace Fw100.Request
open Library Text Channel Session

variable {env : Environment}

/-- The tries of `poll_ppp_linkstate`: the first one that finds the interface up. -/
def linkAddress (env : Environment) (maxRetry : ℕ) : Option UInt32 :=
  (List.range maxRetry).findSome? (fun i =>
    (env.ifcInfo i).bind (fun info => if info.2.2 &&& 1 ≠ 0 then some info.1 else none))

/-- The address and the gateway of the link, or `none` for the return value -1. -/
def pollPppLinkstate (env : Environment) (maxRetry : ℕ) : Option (UInt32 × UInt32) :=
  if env.ifcInitFails then none
  else (linkAddress env maxRetry).map (fun addr => (addr, env.defaultRoute))

/-- `inet_ntop` for an IPv4 address, whose first octet is the first byte in memory. -/
def inetNtop (addr : UInt32) : CString :=
  decimal (addr &&& 255).toNat ++ ascii "." ++ decimal (addr >>> 8 &&& 255).toNat ++ ascii "." ++
    decimal (addr >>> 16 &&& 255).toNat ++ ascii "." ++ decimal (addr >>> 24).toNat

def writeText {n : ℕ} (s : CString) (array : CharArray n) : CharArray n :=
  ⟨overwrite 0 (s ++ [0]) array.1, by simp [array.2]⟩

def pppdText (devname : Option CString) : CString :=
  ascii "/system/bin/pppd call " ++ printString devname

def dnsListText (env : Environment) : CString := env.dns1 ++ ascii " " ++ env.dns2

def requestSetupDataCallEVDO (t : Token) : RilM Unit := do
  let env ← Traced.environment
  let ctx ← getCtx
  storeString .pppdCommand 128 (pppdText ctx.dataDevname)
  Traced.emit (.system (pppdText ctx.dataDevname))
  if env.systemResult < 0 then complete t .genericFailure .null
  else
    match pollPppLinkstate env 30 with
    | none => complete t .genericFailure .null
    | some (addr, gway) => do
      modifyCtx (fun ctx =>
        { ctx with
          inDataCall := true
          dataCallLocalIP := writeText (inetNtop addr) ctx.dataCallLocalIP
          dataCallGateway := writeText (inetNtop gway) ctx.dataCallGateway })
      storeString .dns 64 env.dns1
      storeString .dns 64 env.dns2
      storeString .dnsList 128 (dnsListText env)
      let ctx ← getCtx
      complete t .success (.strings [some (ascii "1"), some (ascii "ppp0"),
        some ctx.dataCallLocalIP.text, some (dnsListText env), some ctx.dataCallGateway.text])

def SetupFits (env : Environment) (ctx : SessionCtx) : Prop :=
  (pppdText ctx.dataDevname).length < 128 ∧
    (0 ≤ env.systemResult → (pollPppLinkstate env 30).isSome = true →
      env.dns1.length < 64 ∧ env.dns2.length < 64)

theorem dnsListText_length (h1 : env.dns1.length < 64) (h2 : env.dns2.length < 64) :
    (dnsListText env).length < 128 := by
  have hspace : (ascii " ").length = 1 := rfl
  simp only [dnsListText, List.length_append, hspace]
  omega

theorem showsAt_requestSetupDataCallEVDO_iff {s : RequestState} (t : Token) :
    ShowsAt env s [.completed t] (requestSetupDataCallEVDO t) (fun _ _ => True) ↔
      SetupFits env s.ctx := by
  unfold requestSetupDataCallEVDO SetupFits
  rw [ShowsAt.environment_bind, ShowsAt.getCtx_bind, ShowsAt.store_bind]
  refine and_congr_right (fun _ => ?_)
  rw [ShowsAt.emit_bind rfl]
  by_cases hsys : env.systemResult < 0
  · rw [if_pos hsys]
    exact iff_of_true (completes_complete _ _ _ s) (fun h => by omega)
  · rw [if_neg hsys]
    cases hpoll : pollPppLinkstate env 30 with
    | none => exact iff_of_true (completes_complete _ _ _ s) (by simp)
    | some link =>
      rcases link with ⟨addr, gway⟩
      dsimp only
      rw [ShowsAt.modifyCtx_bind, ShowsAt.store_bind, ShowsAt.store_bind, ShowsAt.store_bind,
        ShowsAt.getCtx_bind]
      have hdone : ∀ s data, ShowsAt env s [.completed t] (complete t .success data)
          (fun _ _ => True) := fun s data => completes_complete t .success data s
      simp only [hdone, and_true, Option.isSome_some, forall_const]
      constructor
      · exact fun h _ => ⟨h.1, h.2.1⟩
      · intro h
        rcases h (by omega) with ⟨h1, h2⟩
        exact ⟨h1, h2, dnsListText_length h1 h2⟩

def killPppd : RilM Unit := do
  let env ← Traced.environment
  if 0 < env.pppdPid then Traced.emit (.killed env.pppdPid) else pure ()

/-- Without a context id the source only logs. -/
def requestDeactivateDataCallEVDO (t : Token) : RilM Unit := do
  let _ ← atSendCommandNull (ascii "ATH")
  killPppd
  modifyCtx (fun ctx => { ctx with inDataCall := false })
  complete t .success .null
  notify .networkStateChanged

theorem completes_requestDeactivateDataCallEVDO (t : Token) :
    Completes env t (requestDeactivateDataCallEVDO t) := by
  have hkill : Quiet env killPppd :=
    .silent_bind .environment (fun _ _ =>
      .ite (fun _ => .emit_silent rfl) (fun _ => .pure trivial))
  refine .silent_bind (quiet_atSendCommandNull _) (fun _ _ => ?_)
  refine .silent_bind hkill (fun _ _ => ?_)
  refine .silent_bind (quiet_modifyCtx _) (fun _ _ => ?_)
  exact .bind_silent (completes_complete _ _ _) (fun _ _ => quiet_notify _)

def pdpFailErrorUnspecified : ℤ := 0xffff

def requestDataCallFailCause (t : Token) : RilM Unit :=
  complete t .success (.int pdpFailErrorUnspecified)

def dataCallResponse (ctx : SessionCtx) : DataCallResponse :=
  if ctx.inDataCall then
    ⟨1, 2, some (ascii "PPP"), some (ascii "internet"), some ctx.dataCallLocalIP.text⟩
  else ⟨1, 0, none, none, none⟩

/-- The completion with success is followed by the one at the error label. -/
def requestDataCallList (t : Token) : RilM Unit := do
  let ctx ← getCtx
  complete t .success (.dataCall (dataCallResponse ctx))
  complete t .genericFailure .null

theorem shows_requestDataCallList (t : Token) :
    Shows env [.completed t, .completed t] (requestDataCallList t) (fun _ => True) :=
  .silent_bind quiet_getCtx (fun _ _ =>
    (completes_complete t _ _).bind (fun _ _ => completes_complete t _ _))

theorem not_showsAt_requestDataCallList {s : RequestState} (t : Token) :
    ¬ ShowsAt env s [.completed t] (requestDataCallList t) (fun _ _ => True) := by
  intro honce
  have hsame := ((shows_requestDataCallList t).ends_iff s).mp (honce.mono (fun _ _ _ h => h.1))
  simp at hsame

end Fw100.Request
