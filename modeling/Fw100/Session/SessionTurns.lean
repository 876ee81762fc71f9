import Fw100.Session.MainLoop

/-!
# One session after the other

Whatever the threads do, the ports are opened one at a time, each is read by the reader of its own
session alone and is closed by it, once, before the next one is opened.
-/
namespace Fw100.Session
open Library Text Channel

/-- An observer of the ports: how many sessions are over, and whether the next one is on. -/
inductive Turn where
  | between (n : ℕ)
  | session (n : ℕ)
deriving DecidableEq, Repr

def Turn.next : Turn → LifeOutput → Option Turn
  | .between n, .opened k => if k = n then some (.session n) else none
  | .session n, .read k file => if k = n ∧ file = some n then some (.session n) else none
  | .session n, .closed k file => if k = n ∧ file = some n then some (.between (n + 1)) else none
  | _, _ => none

def MainPosition.Works (p : MainPosition) : Prop := p = .work ∨ p = .testClosed

theorem MainPosition.Works.ne {p : MainPosition} (h : p.Works) :
    p ≠ .openPort ∧ p ≠ .createReader := by
  rcases h with rfl | rfl <;> decide

namespace Lifecycle
variable {τ : Type*}

/-! ### What commands leave alone -/

def ends (ch : AtChannel) : Bool × Bool := (ch.fdOpen, ch.readerClosed)

theorem beginCommand_ends (ch : AtChannel) (call : Call) (ws : List WriteResult) :
    ends (beginCommand ch call ws).2.1 = ends ch := by
  unfold beginCommand
  split
  · rfl
  · dsimp only
    split <;> rfl

theorem startAttempt_ends (ch : AtChannel) (left : ℕ) (ws : List WriteResult) :
    ends (startAttempt ch left ws).2.2 = ends ch := by
  induction left generalizing ch ws with
  | zero => exact beginCommand_ends ch handshakeCall ws
  | succ left ih =>
    have hbegin := beginCommand_ends ch handshakeCall ws
    rw [startAttempt]
    rcases hrun : beginCommand ch handshakeCall ws with ⟨progress, ch', ws'⟩
    rw [hrun] at hbegin
    cases progress with
    | waiting => exact hbegin
    | returned err out => exact (ih ch' ws').trans hbegin
    | crashed => exact hbegin

theorem nextAttempt_ends (ch : AtChannel) (err : ℤ) (out : OutParam) (ws : List WriteResult)
    (left : ℕ) : ends (nextAttempt ch err out ws left).2.2 = ends ch := by
  cases left with
  | zero => rfl
  | succ left =>
    rw [nextAttempt]
    split
    · rfl
    · exact startAttempt_ends ch left ws

theorem resume_ends (ch : AtChannel) (call : Call) : ends (resume ch call).2 = ends ch := by
  unfold resume
  split
  · rfl
  · split <;> rfl

theorem settle_ends [DecidableEq τ] {s : System τ} {t : τ} {id : ℕ} {job : Job} {progress : Progress}
    {ch : AtChannel} (h : ends ch = ends s.channel) :
    ends (s.settle t id job progress ch).1.channel = ends s.channel := by
  cases progress with
  | waiting => exact h
  | returned err out => exact h
  | crashed => rfl

theorem finish_ends [DecidableEq τ] {s : System τ} {t : τ} {w : Wait} {err : ℤ} {out : OutParam} {ch : AtChannel}
    {ws : List WriteResult} (h : ends ch = ends s.channel) :
    ends (s.finish t w err out ch ws).1.channel = ends s.channel := by
  unfold System.finish
  split
  · exact settle_ends h
  · exact settle_ends ((nextAttempt_ends _ _ _ _ _).trans h)

/-- No critical section but the reader's last one touches these fields. -/
theorem system_step_ends [DecidableEq τ] (s : System τ) {e : Event τ} (he : e ≠ .readerClosed) :
    ends (System.step s e).1.channel = ends s.channel := by
  unfold System.step
  split
  · rfl
  · cases e with
    | sendCommand t call ws =>
      dsimp only
      split
      · rfl
      · exact settle_ends (beginCommand_ends s.channel call ws)
    | handshake t ws =>
      dsimp only
      split
      · rfl
      · exact settle_ends (startAttempt_ends s.channel _ ws)
    | wake t ws =>
      dsimp only
      split
      · rfl
      · next w hw =>
        have hresume := resume_ends s.channel w.job.call
        rcases hrun : resume s.channel w.job.call with ⟨progress, ch⟩
        rw [hrun] at hresume
        cases progress with
        | waiting => rfl
        | returned err out => exact finish_ends hresume
        | crashed => rfl
    | timeout t ws =>
      dsimp only
      split
      · rfl
      · split
        · exact finish_ends rfl
        · rfl
    | line l =>
      exact Prod.ext (processLine_fdOpen s.channel l) (processLine_readerClosed s.channel l)
    | readerClosed => exact absurd rfl he

/-! ### The stages of a session -/

def Past (position : Option ReaderPosition) : Prop := position = none ∨ position = some .behind

/-- The port of the session is open under this descriptor and known to the channel. -/
structure Open (s : Lifecycle τ) (n : ℕ) : Prop where
  fdOpen : s.system.channel.fdOpen = true
  files : s.files = Function.update (fun _ => none) s.fd (some n)
  opened : s.opened = n + 1
  others : ∀ k, k ≠ n → Past (s.reader k)

/-- From one port to the next. -/
inductive Stage (s : Lifecycle τ) : Turn → Prop where
  | between (hmain : s.main = .openPort) (hfiles : s.files = fun _ => none)
      (hreaders : ∀ k, Past (s.reader k)) : Stage s (.between s.opened)
  | opens (n fd : ℕ) (hmain : s.main = .storeOpen fd ∨ s.main = .storeFd fd ∧ s.closed = false)
      (hfiles : s.files = Function.update (fun _ => none) fd (some n)) (hopened : s.opened = n + 1)
      (hreaders : ∀ k, Past (s.reader k)) : Stage s (.session n)
  | starts (n : ℕ) (hopen : s.Open n) (hclosed : s.closed = false) (hreader : Past (s.reader n))
      (hmain : s.main = .storeReaderClosed ∨
        (s.main = .clearCommand ∨ s.main = .createReader) ∧
          s.system.channel.readerClosed = false) : Stage s (.session n)
  | unread (n : ℕ) (hopen : s.Open n) (hclosed : s.closed = false) (hreader : Past (s.reader n))
      (hmain : s.main.Works) : Stage s (.session n)
  | reads (n : ℕ) (hopen : s.Open n) (hclosed : s.closed = false) (hmain : s.main.Works)
      (hreader : s.reader n = some .readerLoop ∨ s.reader n = some .testReaderClosed)
      (hread : s.system.channel.readerClosed = false) : Stage s (.session n)
  | leaves (n : ℕ) (hopen : s.Open n) (hclosed : s.closed = false) (hmain : s.main.Works)
      (hreader : s.reader n = some .storeReaderClosed ∨ s.reader n = some .testFd ∨
        s.reader n = some .closeFd) : Stage s (.session n)
  | left (n : ℕ) (hclosed : s.closed = false) (hmain : s.main.Works)
      (hfiles : s.files = fun _ => none) (hopened : s.opened = n + 1)
      (hothers : ∀ k, k ≠ n → Past (s.reader k))
      (hreader : s.reader n = some .forgetFd ∨ s.reader n = some .markClosed ∨
        s.reader n = some .storeClosed) : Stage s (.between (n + 1))
  | done (hmain : s.main.Works) (hclosed : s.closed = true) (hfiles : s.files = fun _ => none)
      (hreaders : ∀ k, Past (s.reader k)) : Stage s (.between s.opened)

section Steps
variable {s : Lifecycle τ} {t : Turn} {n : ℕ}

def Follows (t : Turn) (r : Lifecycle τ × List LifeOutput) : Prop :=
  ∃ t', observe Turn.next t r.2 = some t' ∧ Stage r.1 t'

theorem Follows.quiet (h : Stage s t) : Follows t (s, []) := ⟨t, rfl, h⟩

theorem Open.frame (h : s.Open n) {system : System (Option τ)}
    (hends : ends system.channel = ends s.system.channel) : Open { s with system := system } n :=
  ⟨(congrArg Prod.fst hends).trans h.fdOpen, h.files, h.opened, h.others⟩

theorem Stage.frame (h : Stage s t) {system : System (Option τ)}
    (hends : ends system.channel = ends s.system.channel) : Stage { s with system := system } t := by
  have hread : system.channel.readerClosed = s.system.channel.readerClosed := congrArg Prod.snd hends
  cases h with
  | between hmain hfiles hreaders =>
    exact .between (s := { s with system := system }) hmain hfiles hreaders
  | opens n fd hmain hfiles hopened hreaders => exact .opens n fd hmain hfiles hopened hreaders
  | starts n hopen hclosed hreader hmain =>
    exact .starts n (hopen.frame hends) hclosed hreader
      (hmain.imp_right (fun hmain => ⟨hmain.1, hread.trans hmain.2⟩))
  | unread n hopen hclosed hreader hmain =>
    exact .unread n (hopen.frame hends) hclosed hreader hmain
  | reads n hopen hclosed hmain hreader hnot =>
    exact .reads n (hopen.frame hends) hclosed hmain hreader (hread.trans hnot)
  | leaves n hopen hclosed hmain hreader =>
    exact .leaves n (hopen.frame hends) hclosed hmain hreader
  | left n hclosed hmain hfiles hopened hothers hreader =>
    exact .left n hclosed hmain hfiles hopened hothers hreader
  | done hmain hclosed hfiles hreaders =>
    exact .done (s := { s with system := system }) hmain hclosed hfiles hreaders

/-- A port is opened between two sessions only. -/
theorem takePort_follows (h : Stage s t) (fd : ℕ) : Follows t (s.takePort fd) := by
  unfold takePort
  split
  · next hport =>
    obtain ⟨hmain, -⟩ := hport
    cases h with
    | between _ hfiles hreaders =>
      refine ⟨.session s.opened, by simp [Turn.next], ?_⟩
      exact .opens s.opened fd (.inl rfl) (by rw [hfiles]) rfl hreaders
    | opens n fd hmain' => rcases hmain' with h' | h' <;> simp [hmain] at h'
    | starts n hopen hclosed hreader hmain' => simp [hmain] at hmain'
    | unread n hopen hclosed hreader hmain' => simp [hmain, MainPosition.Works] at hmain'
    | reads n hopen hclosed hmain' => simp [hmain, MainPosition.Works] at hmain'
    | leaves n hopen hclosed hmain' => simp [hmain, MainPosition.Works] at hmain'
    | left n hclosed hmain' => simp [hmain, MainPosition.Works] at hmain'
    | done hmain' => simp [hmain, MainPosition.Works] at hmain'
  · exact .quiet h

theorem createReader_follows (h : Stage s t) (ok : Bool) : Follows t (s.createReader ok, []) := by
  unfold createReader
  split
  · next hmain =>
    cases h with
    | between hmain' => simp [hmain] at hmain'
    | opens n fd hmain' => rcases hmain' with h' | h' <;> simp [hmain] at h'
    | starts n hopen hclosed hreader hmain' =>
      have hread : s.system.channel.readerClosed = false := by simpa [hmain] using hmain'
      cases ok with
      | false =>
        exact .quiet (.unread n ⟨hopen.fdOpen, hopen.files, hopen.opened, hopen.others⟩ hclosed
          hreader (.inl rfl))
      | true =>
        have hlast : s.opened - 1 = n := by rw [hopen.opened, Nat.add_sub_cancel]
        refine .quiet (.reads n ⟨hopen.fdOpen, hopen.files, hopen.opened, ?_⟩ hclosed (.inl rfl)
          (.inl ?_) hread)
        · intro k hk
          simpa [moveReader, hlast, hk] using hopen.others k hk
        · simp [moveReader, hlast]
    | unread n hopen hclosed hreader hmain' => exact absurd hmain hmain'.ne.2
    | reads n hopen hclosed hmain' => exact absurd hmain hmain'.ne.2
    | leaves n hopen hclosed hmain' => exact absurd hmain hmain'.ne.2
    | left n hclosed hmain' => exact absurd hmain hmain'.ne.2
    | done hmain' => exact absurd hmain hmain'.ne.2
  · exact .quiet h

/-- A look at `s_closed` while the channel is open or being closed. -/
theorem mainStep_works (hmain : s.main.Works) (hclosed : s.closed = false) :
    ∃ p, p.Works ∧ s.mainStep = { s with main := p } := by
  rcases hmain with hmain | hmain
  · simp only [mainStep, hmain]
    split
    · exact ⟨.work, .inl rfl, by rw [← hmain]⟩
    · exact ⟨.testClosed, .inr rfl, rfl⟩
  · exact ⟨.work, .inl rfl, by simp [mainStep, hmain, hclosed]⟩

theorem mainStep_follows (h : Stage s t) : Follows t (s.mainStep, []) := by
  cases h with
  | between hmain hfiles hreaders =>
    have hsame : s.mainStep = s := by simp [mainStep, hmain]
    rw [hsame]
    exact .quiet (.between hmain hfiles hreaders)
  | opens n fd hmain hfiles hopened hreaders =>
    rcases hmain with hmain | ⟨hmain, hclosed⟩
    · simp only [mainStep, hmain]
      exact .quiet (.opens n fd (.inr ⟨rfl, rfl⟩) hfiles hopened hreaders)
    · simp only [mainStep, hmain]
      exact .quiet (.starts n ⟨rfl, hfiles, hopened, fun k _ => hreaders k⟩ hclosed (hreaders n)
        (.inl rfl))
  | starts n hopen hclosed hreader hmain =>
    rcases hmain with hmain | ⟨hmain | hmain, hread⟩
    · simp only [mainStep, hmain]
      exact .quiet (.starts n ⟨hopen.fdOpen, hopen.files, hopen.opened, hopen.others⟩ hclosed hreader
        (.inr ⟨.inl rfl, rfl⟩))
    · simp only [mainStep, hmain]
      exact .quiet (.starts n ⟨hopen.fdOpen, hopen.files, hopen.opened, hopen.others⟩ hclosed hreader
        (.inr ⟨.inr rfl, hread⟩))
    · simp only [mainStep, hmain]
      exact .quiet (.starts n hopen hclosed hreader (.inr ⟨.inr hmain, hread⟩))
  | unread n hopen hclosed hreader hmain =>
    obtain ⟨p, hp, hrun⟩ := mainStep_works hmain hclosed
    rw [hrun]
    exact .quiet (.unread n ⟨hopen.fdOpen, hopen.files, hopen.opened, hopen.others⟩ hclosed hreader hp)
  | reads n hopen hclosed hmain hreader hread =>
    obtain ⟨p, hp, hrun⟩ := mainStep_works hmain hclosed
    rw [hrun]
    exact .quiet (.reads n ⟨hopen.fdOpen, hopen.files, hopen.opened, hopen.others⟩ hclosed hp hreader
      hread)
  | leaves n hopen hclosed hmain hreader =>
    obtain ⟨p, hp, hrun⟩ := mainStep_works hmain hclosed
    rw [hrun]
    exact .quiet (.leaves n ⟨hopen.fdOpen, hopen.files, hopen.opened, hopen.others⟩ hclosed hp hreader)
  | left n hclosed hmain hfiles hopened hothers hreader =>
    obtain ⟨p, hp, hrun⟩ := mainStep_works hmain hclosed
    rw [hrun]
    exact .quiet (.left n hclosed hp hfiles hopened hothers hreader)
  | done hmain hclosed hfiles hreaders =>
    rcases hmain with hmain | hmain
    · simp only [mainStep, hmain]
      split
      · exact .quiet (.done (.inl hmain) hclosed hfiles hreaders)
      · exact .quiet (.done (s := { s with main := .testClosed }) (.inr rfl) hclosed hfiles hreaders)
    · have hback : s.mainStep = { s with main := .openPort } := by simp [mainStep, hmain, hclosed]
      rw [hback]
      exact .quiet (.between (s := { s with main := .openPort }) rfl hfiles hreaders)

/-- The session of a reader that is still at work. -/
theorem Open.session {k : ℕ} (h : s.Open n) (hk : ¬ Past (s.reader k)) : k = n := by
  by_contra hne
  exact hk (h.others k hne)

theorem Open.current (h : s.Open n) : s.current = some n := by
  rw [Lifecycle.current, if_pos h.fdOpen, h.files, Function.update_self]

theorem Open.moveReader (h : s.Open n) (p : ReaderPosition) : (s.moveReader n p).Open n :=
  ⟨h.fdOpen, h.files, h.opened, fun k hk => by
    simpa [Lifecycle.moveReader, hk] using h.others k hk⟩

theorem not_past {k : ℕ} {p : ReaderPosition} (hp : s.reader k = some p) (hbehind : p ≠ .behind) :
    ¬ Past (s.reader k) := by
  rintro (h | h)
  · simp [hp] at h
  · exact hbehind (Option.some.inj (hp.symm.trans h))

/-- Only the reader of the session reads, and what it reads is the port of the session. -/
theorem readStep_follows (h : Stage s t) (k : ℕ) (ok : Bool) : Follows t (s.readStep k ok) := by
  unfold readStep
  split
  · next hk =>
    have hactive := not_past hk (by decide)
    cases h with
    | between hmain hfiles hreaders => exact absurd (hreaders k) hactive
    | opens n fd hmain hfiles hopened hreaders => exact absurd (hreaders k) hactive
    | starts n hopen hclosed hreader =>
      obtain rfl := hopen.session hactive
      exact absurd hreader hactive
    | unread n hopen hclosed hreader =>
      obtain rfl := hopen.session hactive
      exact absurd hreader hactive
    | reads n hopen hclosed hmain hreader hread =>
      obtain rfl := hopen.session hactive
      refine ⟨.session k, by simp [Turn.next, hopen.current], ?_⟩
      split
      · exact .reads k hopen hclosed hmain hreader hread
      · exact .reads k (hopen.moveReader _) hclosed hmain
          (.inr (Function.update_self _ _ _)) hread
    | leaves n hopen hclosed hmain hreader =>
      obtain rfl := hopen.session hactive
      simp [hk] at hreader
    | left n hclosed hmain hfiles hopened hothers hreader =>
      by_cases hkn : k = n
      · subst hkn
        simp [hk] at hreader
      · exact absurd (hothers k hkn) hactive
    | done hmain hclosed hfiles hreaders => exact absurd (hreaders k) hactive
  · exact .quiet h

/-- The port is closed by the reader of the session. -/
theorem leaveStep_follows (h : Stage s t) (k : ℕ) : Follows t (s.leaveStep k) := by
  by_cases hpast : Past (s.reader k)
  · have hsame : s.leaveStep k = (s, []) := by
      rcases hpast with hk | hk <;> simp [leaveStep, hk]
    rw [hsame]
    exact .quiet h
  · cases h with
    | between hmain hfiles hreaders => exact absurd (hreaders k) hpast
    | opens n fd hmain hfiles hopened hreaders => exact absurd (hreaders k) hpast
    | starts n hopen hclosed hreader =>
      obtain rfl := hopen.session hpast
      exact absurd hreader hpast
    | unread n hopen hclosed hreader =>
      obtain rfl := hopen.session hpast
      exact absurd hreader hpast
    | reads n hopen hclosed hmain hreader hread =>
      obtain rfl := hopen.session hpast
      rcases hreader with hk | hk
      · simp only [leaveStep, hk]
        exact .quiet (.reads k hopen hclosed hmain (.inl hk) hread)
      · simp only [leaveStep, hk, hread]
        exact .quiet (.leaves k (hopen.moveReader _) hclosed hmain
          (.inl (Function.update_self _ _ _)))
    | leaves n hopen hclosed hmain hreader =>
      obtain rfl := hopen.session hpast
      have hmoved (p : ReaderPosition) := hopen.moveReader p
      rcases hreader with hk | hk | hk
      · simp only [leaveStep, hk]
        exact .quiet (.leaves k ⟨hopen.fdOpen, hopen.files, hopen.opened, (hmoved .testFd).others⟩
          hclosed hmain (.inr (.inl (Function.update_self _ _ _))))
      · simp only [leaveStep, hk, hopen.fdOpen, if_true]
        exact .quiet (.leaves k (hmoved _) hclosed hmain (.inr (.inr (Function.update_self _ _ _))))
      · simp only [leaveStep, hk, hopen.fdOpen, if_true]
        refine ⟨.between (k + 1), by simp [Turn.next, hopen.current], ?_⟩
        refine .left k hclosed hmain ?_ hopen.opened (hmoved .forgetFd).others
          (.inl (Function.update_self _ _ _))
        simp only [hopen.files, Function.update_idem, Function.update_eq_self_iff]
    | left n hclosed hmain hfiles hopened hothers hreader =>
      have hkn : k = n := by
        by_contra hne
        exact hpast (hothers k hne)
      subst hkn
      have hothers' (p : ReaderPosition) : ∀ j, j ≠ k → Past ((s.moveReader k p).reader j) := by
        intro j hj
        simpa [moveReader, hj] using hothers j hj
      rcases hreader with hk | hk | hk
      · simp only [leaveStep, hk]
        exact .quiet (.left k hclosed hmain hfiles hopened (hothers' _)
          (.inr (.inl (Function.update_self _ _ _))))
      · simp only [leaveStep, hk]
        exact .quiet (.left k hclosed hmain hfiles hopened (hothers' _)
          (.inr (.inr (Function.update_self _ _ _))))
      · simp only [leaveStep, hk]
        rw [← hopened]
        refine .quiet (.done (s := { s.moveReader k .behind with closed := true }) hmain rfl hfiles ?_)
        intro j
        by_cases hj : j = k
        · exact .inr (by simp [moveReader, hj])
        · exact hothers' _ j hj
    | done hmain hclosed hfiles hreaders => exact absurd (hreaders k) hpast

theorem Stage.files (h : Stage s t) {fd m : ℕ} (hfd : s.files fd = some m) : t = .session m := by
  have hnone (hfiles : s.files = fun _ => none) : False := by simp [hfiles] at hfd
  have hsingle {fd' n : ℕ} (hfiles : s.files = Function.update (fun _ => none) fd' (some n)) :
      n = m := by
    rw [hfiles, Function.update_apply] at hfd
    split_ifs at hfd
    exact Option.some.inj hfd
  cases h with
  | between hmain hfiles => exact (hnone hfiles).elim
  | opens n fd hmain hfiles => rw [hsingle hfiles]
  | starts n hopen => rw [hsingle hopen.files]
  | unread n hopen => rw [hsingle hopen.files]
  | reads n hopen => rw [hsingle hopen.files]
  | leaves n hopen => rw [hsingle hopen.files]
  | left n hclosed hmain hfiles => exact (hnone hfiles).elim
  | done hmain hclosed hfiles => exact (hnone hfiles).elim

theorem stage_loaded : Stage (loaded : Lifecycle τ) (.between 0) :=
  .between (s := loaded) rfl rfl (fun _ => .inl rfl)

variable [DecidableEq τ]

theorem commandStep_follows (h : Stage s t) (e : Event (Option τ)) :
    Follows t (s.commandStep e, []) := by
  unfold commandStep
  split
  · next hsends =>
    exact .quiet (h.frame (system_step_ends s.system
      (fun he => by simp [he, sends, sender] at hsends)))
  · exact .quiet h

theorem lineStep_follows (h : Stage s t) (k : ℕ) (l : CString) : Follows t (s.lineStep k l, []) := by
  unfold lineStep
  split
  · exact .quiet (h.frame (system_step_ends s.system (by simp)))
  · exact .quiet h

theorem step_crashed (h : s.system.crashed = true) (e : LifeEvent τ) : step s e = (s, []) := if_pos h

theorem step_follows (h : Stage s t) (e : LifeEvent τ) : Follows t (step s e) := by
  unfold step
  split
  · exact .quiet h
  · cases e with
    | port fd => exact takePort_follows h fd
    | main => exact mainStep_follows h
    | createReader ok => exact createReader_follows h ok
    | read k ok => exact readStep_follows h k ok
    | line k l => exact lineStep_follows h k l
    | leave k => exact leaveStep_follows h k
    | command e => exact commandStep_follows h e

theorem stage_run (es : List (LifeEvent τ)) :
    ∃ t, observe Turn.next (.between 0) (run step (loaded : Lifecycle τ) es).2.flatten = some t ∧
      Stage (run step loaded es).1 t :=
  observe_every_run (fun _ _ e hs => step_follows hs e) es stage_loaded

/-- **One session after the other.** In every interleaving the ports are opened one at a time, and
each is read by the reader of its session alone, which closes it once. No other port is open. -/
theorem sessions_in_turn (es : List (LifeEvent τ)) :
    ∃ t, observe Turn.next (.between 0) (run step (loaded : Lifecycle τ) es).2.flatten = some t ∧
      ∀ fd n, (run step (loaded : Lifecycle τ) es).1.files fd = some n → t = .session n := by
  obtain ⟨t, hobs, hstage⟩ := stage_run es
  exact ⟨t, hobs, fun fd n hfd => hstage.files hfd⟩

/-! ### A session without a reader -/

def Unread (s : Lifecycle τ) : Prop :=
  s.system.crashed = true ∨ s.main.Works ∧ s.closed = false ∧ ∀ k, Past (s.reader k)

theorem Unread.step (h : Unread s) (e : LifeEvent τ) : Unread (step s e).1 ∧ (step s e).2 = [] := by
  by_cases hcrashed : s.system.crashed = true
  · rw [step_crashed hcrashed]
    exact ⟨h, rfl⟩
  · obtain ⟨hmain, hclosed, hreaders⟩ := h.resolve_left hcrashed
    have hloop (k : ℕ) : s.reader k ≠ some .readerLoop := fun hk =>
      not_past hk (by decide) (hreaders k)
    unfold Lifecycle.step
    rw [if_neg hcrashed]
    cases e with
    | port fd =>
      dsimp only
      rw [takePort, if_neg (fun hport => hmain.ne.1 hport.1)]
      exact ⟨h, rfl⟩
    | main =>
      obtain ⟨p, hp, hrun⟩ := mainStep_works hmain hclosed
      dsimp only
      rw [hrun]
      exact ⟨.inr ⟨hp, hclosed, hreaders⟩, rfl⟩
    | createReader ok =>
      dsimp only
      rw [createReader, if_neg hmain.ne.2]
      exact ⟨h, rfl⟩
    | read k ok =>
      dsimp only
      rw [readStep, if_neg (hloop k)]
      exact ⟨h, rfl⟩
    | line k l =>
      dsimp only
      rw [lineStep, if_neg (fun hline => hloop k hline.1)]
      exact ⟨h, rfl⟩
    | leave k =>
      have hsame : s.leaveStep k = (s, []) := by
        rcases hreaders k with hk | hk <;> simp [leaveStep, hk]
      dsimp only
      rw [hsame]
      exact ⟨h, rfl⟩
    | command e =>
      refine ⟨.inr ?_, rfl⟩
      dsimp only
      unfold commandStep
      split <;> exact ⟨hmain, hclosed, hreaders⟩

theorem Unread.run (h : Unread s) (es : List (LifeEvent τ)) :
    (run Lifecycle.step s es).2.flatten = [] := by
  induction es generalizing s with
  | nil => rfl
  | cons e es ih =>
    obtain ⟨hstep, hquiet⟩ := h.step e
    rw [run_cons, List.flatten_cons, hquiet, ih hstep]
    rfl

theorem createReader_fails (h : Stage s t) (hmain : s.main = .createReader) :
    Unread (step s (.createReader false)).1 := by
  by_cases hcrashed : s.system.crashed = true
  · rw [step_crashed hcrashed]
    exact .inl hcrashed
  · refine .inr ?_
    have hrun : (step s (.createReader false)).1 = { s with main := .work } := by
      simp [step, hcrashed, createReader, hmain]
    rw [hrun]
    cases h with
    | starts n hopen hclosed hreader =>
      refine ⟨.inl rfl, hclosed, fun k => ?_⟩
      by_cases hk : k = n
      · rw [hk]
        exact hreader
      · exact hopen.others k hk
    | between hmain' => simp [hmain] at hmain'
    | opens n fd hmain' => rcases hmain' with h' | h' <;> simp [hmain] at h'
    | unread n hopen hclosed hreader hmain' => exact absurd hmain hmain'.ne.2
    | reads n hopen hclosed hmain' => exact absurd hmain hmain'.ne.2
    | leaves n hopen hclosed hmain' => exact absurd hmain hmain'.ne.2
    | left n hclosed hmain' => exact absurd hmain hmain'.ne.2
    | done hmain' => exact absurd hmain hmain'.ne.2

/-- If the reader thread cannot be created the port is never read, and nothing ever closes it or
opens another one, whatever the threads do. -/
theorem unread_session_stays (es later : List (LifeEvent τ))
    (hmain : (run step (loaded : Lifecycle τ) es).1.main = .createReader) :
    (run step (step (run step (loaded : Lifecycle τ) es).1 (.createReader false)).1 later).2.flatten =
      [] := by
  obtain ⟨t, -, hstage⟩ := stage_run es
  exact (createReader_fails hstage hmain).run later

/-- The first port, of which nobody reads while a command is sent. -/
theorem unread_session_stays_first :
    let es : List (LifeEvent Unit) := [.port 3, .main, .main, .main, .main]
    let later : List (LifeEvent Unit) :=
      [.command (.sendCommand (some ()) (.plain (ascii "AT") false) []), .read 0 true, .main, .main,
        .port 4]
    (run step (loaded : Lifecycle Unit) es).1.main = .createReader ∧
      (run step (step (run step (loaded : Lifecycle Unit) es).1 (.createReader false)).1
        later).2.flatten = [] := by
  intro es later
  have hmain : (run step (loaded : Lifecycle Unit) es).1.main = .createReader := by decide
  exact ⟨hmain, unread_session_stays es later hmain⟩

end Steps

end Lifecycle

end Fw100.Session
