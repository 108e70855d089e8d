import X11rbAsync.WriteBuffer

/-!
# 接続の書き込み側

`RustConnection` のうち request を書く操作を、await の間を一歩とする並行な系として書く。

## 状態

`Conn` は write buffer の mutex が守る `WriteBufferInner`、その guard を持つ task
（`holder`）、stream が受け取ったもの（`Wire`）、task ごとの位置（`Pc`）を持つ。
protocol core（`x11rb_protocol::connection::Connection`）はこの file に無いので、
sequence number を出すか拒むかは環境が選ぶ。`issued` は core が sequence number を出した
request の byte 列を出した順に並べたもので、core の `last_sequence_written` はその長さであり、
`send_request` はそれを一つ進めて返す。

`drops` は guard を `unlock()` せずに落とした task と、その終わり方である。code には無く、
性質を述べるためだけに記す。

## 一歩

task は次の await まで一度に進む。lock を取った task は、stream の答えか core の答えを待つまで
同じ一歩の中で flush や buffer への追記を済ませる。環境が選ぶのは次のものである。

* 新しい呼び出し（`send_request`、`flush`、`wait_for_reply*`、`check_for_raw_error`）
* mutex が空いたとき、lock を待つ task のどれが取るか
* core の答え（sequence number を出すか拒むか、`prepare_check_for_reply_or_error`）
* stream の答え（`WriteResult`）
* await で止まっている task の破棄

`compute_length_field` が読む `maximum_request_bytes` は `MaxRequestBytes` で扱い、
ここでは呼び出しが持ってくる値とする。`send_request` の `kind` は core に渡すだけなので持たない。
-/

namespace X11rbAsync

/-- 系の外から決まるもの。`getInputFocusRequest` は `x11rb_protocol` の
`GET_INPUT_FOCUS_REQUEST` で、この file には無い。 -/
structure Config where
  platform : Platform
  getInputFocusRequest : UInt8
  deriving DecidableEq, Repr

/-- `for_connected_stream` が write buffer に取る容量 `Vec::with_capacity(16384)`。 -/
def writeBufferCapacity : Nat := 16384

/-- 容量は、どの platform の `usize::MAX` も越えない（`usize` は 16 bit 以上ある）。 -/
theorem capacity_le_usizeMax (p : Platform) : writeBufferCapacity ≤ p.usizeMax :=
  le_trans (by decide) p.usizeMax_ge

/-- `send_sync` が書く `[GET_INPUT_FOCUS_REQUEST, 0, length[0], length[1]]`。
`length` は `1u16.to_ne_bytes()` である。 -/
def Config.syncRequest (cfg : Config) : Bytes :=
  [cfg.getInputFocusRequest, 0] ++ cfg.platform.endian.u16ToBytes 1

/-- `WriteBuffer::lock` が corrupted を見たときの誤り。 -/
def writeBufferCorrupted : ConnectionError := .ioError ⟨.other, some "The write buffer was corrupted"⟩

/-! ## task の位置 -/

/-- `shared.wait_for_incoming` に着く呼び出し。 -/
inductive WaitCall where
  | waitForReply
  | waitForReplyOrRawError
  | waitForReplyWithFdsRaw
  | checkForRawError
  deriving DecidableEq, Repr

/-- flush して unlock した後に続くところ。 -/
inductive AfterFlush where
  /-- `wait_for_incoming` に進む。 -/
  | incoming (call : WaitCall) (seq : Nat)
  /-- `flush()` が `Ok(())` を返す。 -/
  | returned
  deriving DecidableEq, Repr

/-- `write_all_vectored` が返った後に続くところ。 -/
inductive WriteCont where
  /-- `send_request` の `Some(seq)` の枝。unlock して `Ok(seq)` を返す。 -/
  | sendDone (seq : Nat)
  /-- `send_request` の loop の `send_sync` から戻り、もう一度 core に尋ねる。 -/
  | retrySend (bufs : List Bytes) (fds : List Fd)
  /-- `check_for_raw_error` の `send_sync` から戻り、`assert!` に進む。 -/
  | checkAfterSync (seq : Nat)
  deriving DecidableEq, Repr

/-- 機械（`write_all_vectored` か `flush_impl`）が返った後。 -/
inductive Cont where
  | write (k : WriteCont)
  | flush (next : AfterFlush)
  deriving DecidableEq, Repr

/-- `write_buffer.lock().await` を待つ呼び出しと、取れた後にすること。 -/
inductive LockThen where
  /-- `send_request`。core に sequence number を尋ねる。 -/
  | send (bufs : List Bytes) (fds : List Fd)
  /-- `flush`、`wait_for_reply*`、`check_for_raw_error`。flush する。 -/
  | flush (next : AfterFlush)
  /-- `check_for_raw_error` で prepare が真だった枝。`send_sync` する。 -/
  | sync (seq : Nat)
  deriving DecidableEq, Repr

/-- task の終わり方。`returned` は `Ok` で、`send_request` なら sequence number を持つ。 -/
inductive Ending where
  | returned (seq : Option Nat)
  | failed (e : ConnectionError)
  | panicked
  | abandoned
  deriving DecidableEq, Repr

/-- guard を `unlock()` せずに落とす task の終わり方。誤りか panic で終わるか、破棄される。 -/
def Ending.DropsGuard (e : Ending) : Prop :=
  (∃ err, e = .failed err) ∨ e = .panicked ∨ e = .abandoned

/-- task の位置。`sendIssue` から `checkAssert` までは guard を持っている。 -/
inductive Pc where
  | locking (k : LockThen)
  /-- `send_request` の loop の頭。core に sequence number を尋ねる。 -/
  | sendIssue (bufs : List Bytes) (fds : List Fd)
  /-- `send_sync` の `send_request(ReplyWithoutFDs).expect(..)`。 -/
  | syncIssue (k : WriteCont)
  /-- stream の答えを待つ。`suspended` は `writable().await` にいること。 -/
  | writing (m : Writing) (suspended : Bool) (k : Cont)
  /-- `check_for_raw_error` の `assert!(!prepare_check_for_reply_or_error(seq))`。 -/
  | checkAssert (seq : Nat)
  | incoming (call : WaitCall) (seq : Nat)
  | finished (e : Ending)
  deriving DecidableEq, Repr

/-- 機械が返った後にまた core に尋ねる request（`send_sync` から戻る `send_request` の loop）。 -/
def Cont.unissued : Cont → Option Bytes
  | .write (.retrySend bufs _) => some bufs.flatten
  | _ => none

/-- task がまだ core に尋ねていない request。 -/
def Pc.unissued : Pc → Option Bytes
  | .locking (.send bufs _) | .sendIssue bufs _ => some bufs.flatten
  | .syncIssue k => (Cont.write k).unissued
  | .writing _ _ k => k.unissued
  | _ => none

/-- 接続の書き込み側の状態。 -/
structure Conn where
  writeBuffer : WriteBufferInner
  holder : Option Nat
  wire : Wire
  tasks : List Pc
  issued : List Bytes
  /-- 観測: guard を `unlock()` せずに落とした task と、その終わり方。 -/
  drops : List (Nat × Ending)
  deriving DecidableEq, Repr

/-- 環境が選ぶ一歩。 -/
inductive Event where
  /-- `send_request(bufs, fds, kind)` を呼ぶ。`maxBytes` は `maximum_request_bytes` の値。 -/
  | sendRequest (request : List Bytes) (fds : List Fd) (maxBytes : Nat)
  | flush
  /-- `call(seq)` を呼ぶ。`prepare` は `check_for_raw_error` が最初に尋ねる
  `prepare_check_for_reply_or_error(seq)` の答えで、ほかの呼び出しは読まない。 -/
  | wait (call : WaitCall) (seq : Nat) (prepare : Bool)
  /-- mutex が空いていて、task `t` が取る。 -/
  | lock (t : Nat)
  /-- core が task `t` に sequence number を出す（`granted`）か拒む。 -/
  | issue (t : Nat) (granted : Bool)
  /-- stream が task `t` の write に答える。 -/
  | answer (t : Nat) (r : WriteResult)
  /-- `assert!` のための二度目の `prepare_check_for_reply_or_error(seq)` の答え。 -/
  | assertCheck (t : Nat) (prepare : Bool)
  /-- await で止まっている task `t` を破棄する。 -/
  | abandon (t : Nat)
  deriving DecidableEq, Repr

/-! ## 状態の更新 -/

namespace Conn

def init : Conn := ⟨⟨[], [], false⟩, none, ⟨[], []⟩, [], [], []⟩

def setPc (s : Conn) (t : Nat) (pc : Pc) : Conn := { s with tasks := s.tasks.set t pc }

def spawn (s : Conn) (pc : Pc) : Conn := { s with tasks := s.tasks ++ [pc] }

/-- 機械が動かした buffer と stream を置く。 -/
def withIo (s : Conn) (inner : WriteBufferInner) (wire : Wire) : Conn :=
  { s with writeBuffer := inner, wire }

/-- core が request `bytes` に sequence number `issued.length + 1` を出す。 -/
def issue (s : Conn) (bytes : Bytes) : Conn := { s with issued := s.issued ++ [bytes] }

/-- `WriteBuffer::lock` が mutex を取り、corrupted を立てる。 -/
def lockedBy (s : Conn) (t : Nat) : Conn :=
  { s with writeBuffer := { s.writeBuffer with corrupted := true }, holder := some t }

/-- `WriteBufferGuard::unlock`。corrupted を下ろして mutex を放す。 -/
def unlock (s : Conn) : Conn :=
  { s with writeBuffer := { s.writeBuffer with corrupted := false }, holder := none }

/-- task `t` が guard を `unlock()` せずに落として終わる。corrupted は立ったまま残る。 -/
def dropGuard (s : Conn) (t : Nat) (e : Ending) : Conn :=
  { s.setPc t (.finished e) with holder := none, drops := s.drops ++ [(t, e)] }

@[simp] theorem setPc_writeBuffer (s : Conn) (t : Nat) (pc : Pc) :
    (s.setPc t pc).writeBuffer = s.writeBuffer := rfl
@[simp] theorem setPc_holder (s : Conn) (t : Nat) (pc : Pc) : (s.setPc t pc).holder = s.holder := rfl
@[simp] theorem setPc_wire (s : Conn) (t : Nat) (pc : Pc) : (s.setPc t pc).wire = s.wire := rfl
@[simp] theorem setPc_tasks (s : Conn) (t : Nat) (pc : Pc) :
    (s.setPc t pc).tasks = s.tasks.set t pc := rfl
@[simp] theorem setPc_issued (s : Conn) (t : Nat) (pc : Pc) : (s.setPc t pc).issued = s.issued := rfl
@[simp] theorem setPc_drops (s : Conn) (t : Nat) (pc : Pc) : (s.setPc t pc).drops = s.drops := rfl

@[simp] theorem spawn_writeBuffer (s : Conn) (pc : Pc) : (s.spawn pc).writeBuffer = s.writeBuffer := rfl
@[simp] theorem spawn_holder (s : Conn) (pc : Pc) : (s.spawn pc).holder = s.holder := rfl
@[simp] theorem spawn_wire (s : Conn) (pc : Pc) : (s.spawn pc).wire = s.wire := rfl
@[simp] theorem spawn_tasks (s : Conn) (pc : Pc) : (s.spawn pc).tasks = s.tasks ++ [pc] := rfl
@[simp] theorem spawn_issued (s : Conn) (pc : Pc) : (s.spawn pc).issued = s.issued := rfl
@[simp] theorem spawn_drops (s : Conn) (pc : Pc) : (s.spawn pc).drops = s.drops := rfl

@[simp] theorem withIo_writeBuffer (s : Conn) (inner : WriteBufferInner) (wire : Wire) :
    (s.withIo inner wire).writeBuffer = inner := rfl
@[simp] theorem withIo_holder (s : Conn) (inner : WriteBufferInner) (wire : Wire) :
    (s.withIo inner wire).holder = s.holder := rfl
@[simp] theorem withIo_wire (s : Conn) (inner : WriteBufferInner) (wire : Wire) :
    (s.withIo inner wire).wire = wire := rfl
@[simp] theorem withIo_tasks (s : Conn) (inner : WriteBufferInner) (wire : Wire) :
    (s.withIo inner wire).tasks = s.tasks := rfl
@[simp] theorem withIo_issued (s : Conn) (inner : WriteBufferInner) (wire : Wire) :
    (s.withIo inner wire).issued = s.issued := rfl
@[simp] theorem withIo_drops (s : Conn) (inner : WriteBufferInner) (wire : Wire) :
    (s.withIo inner wire).drops = s.drops := rfl

@[simp] theorem issue_writeBuffer (s : Conn) (b : Bytes) : (s.issue b).writeBuffer = s.writeBuffer := rfl
@[simp] theorem issue_holder (s : Conn) (b : Bytes) : (s.issue b).holder = s.holder := rfl
@[simp] theorem issue_wire (s : Conn) (b : Bytes) : (s.issue b).wire = s.wire := rfl
@[simp] theorem issue_tasks (s : Conn) (b : Bytes) : (s.issue b).tasks = s.tasks := rfl
@[simp] theorem issue_issued (s : Conn) (b : Bytes) : (s.issue b).issued = s.issued ++ [b] := rfl
@[simp] theorem issue_drops (s : Conn) (b : Bytes) : (s.issue b).drops = s.drops := rfl

@[simp] theorem lockedBy_writeBuffer (s : Conn) (t : Nat) :
    (s.lockedBy t).writeBuffer = { s.writeBuffer with corrupted := true } := rfl
@[simp] theorem lockedBy_holder (s : Conn) (t : Nat) : (s.lockedBy t).holder = some t := rfl
@[simp] theorem lockedBy_wire (s : Conn) (t : Nat) : (s.lockedBy t).wire = s.wire := rfl
@[simp] theorem lockedBy_tasks (s : Conn) (t : Nat) : (s.lockedBy t).tasks = s.tasks := rfl
@[simp] theorem lockedBy_issued (s : Conn) (t : Nat) : (s.lockedBy t).issued = s.issued := rfl
@[simp] theorem lockedBy_drops (s : Conn) (t : Nat) : (s.lockedBy t).drops = s.drops := rfl

@[simp] theorem unlock_writeBuffer (s : Conn) :
    s.unlock.writeBuffer = { s.writeBuffer with corrupted := false } := rfl
@[simp] theorem unlock_holder (s : Conn) : s.unlock.holder = none := rfl
@[simp] theorem unlock_wire (s : Conn) : s.unlock.wire = s.wire := rfl
@[simp] theorem unlock_tasks (s : Conn) : s.unlock.tasks = s.tasks := rfl
@[simp] theorem unlock_issued (s : Conn) : s.unlock.issued = s.issued := rfl
@[simp] theorem unlock_drops (s : Conn) : s.unlock.drops = s.drops := rfl

@[simp] theorem dropGuard_writeBuffer (s : Conn) (t : Nat) (e : Ending) :
    (s.dropGuard t e).writeBuffer = s.writeBuffer := rfl
@[simp] theorem dropGuard_holder (s : Conn) (t : Nat) (e : Ending) : (s.dropGuard t e).holder = none := rfl
@[simp] theorem dropGuard_wire (s : Conn) (t : Nat) (e : Ending) : (s.dropGuard t e).wire = s.wire := rfl
@[simp] theorem dropGuard_tasks (s : Conn) (t : Nat) (e : Ending) :
    (s.dropGuard t e).tasks = s.tasks.set t (.finished e) := rfl
@[simp] theorem dropGuard_issued (s : Conn) (t : Nat) (e : Ending) :
    (s.dropGuard t e).issued = s.issued := rfl
@[simp] theorem dropGuard_drops (s : Conn) (t : Nat) (e : Ending) :
    (s.dropGuard t e).drops = s.drops ++ [(t, e)] := rfl

end Conn

/-! ## 一歩 -/

namespace Conn

/-- 機械が `Ok` で返った後、task `t` が次の await まで進む。 -/
def resume (s : Conn) (t : Nat) : Cont → Conn
  | .write (.sendDone seq) => s.unlock.setPc t (.finished (.returned (some seq)))
  | .write (.retrySend bufs fds) => s.setPc t (.sendIssue bufs fds)
  | .write (.checkAfterSync seq) => s.setPc t (.checkAssert seq)
  | .flush (.incoming call seq) => s.unlock.setPc t (.incoming call seq)
  | .flush .returned => s.unlock.setPc t (.finished (.returned none))

/-- 機械の様子を task `t` に映す。誤りと panic では guard が `unlock()` されずに落ちる。
`done` が持つ残りの fd は、呼び出し元の `Vec` ごと捨てられる。 -/
def settle (s : Conn) (t : Nat) (k : Cont) (suspended : Bool) : WStatus → Conn
  | .running m => s.setPc t (.writing m suspended k)
  | .done _ => s.resume t k
  | .failed e => s.dropGuard t (.failed e)
  | .panicked => s.dropGuard t .panicked

/-- guard を持つ task `t` が `write_all_vectored(guard, bufs, &mut fds)` を始める。 -/
def startWrite (s : Conn) (p : Platform) (t : Nat) (bufs : List Bytes) (fds : List Fd)
    (k : WriteCont) : Conn :=
  let x := writeAllVectoredStart p writeBufferCapacity s.writeBuffer bufs fds
  (s.withIo x.1 s.wire).settle t (.write k) false x.2

/-- guard を持つ task `t` が `flush_impl(guard)` を始める。 -/
def startFlush (s : Conn) (p : Platform) (t : Nat) (next : AfterFlush) : Conn :=
  let x := flushImplStart p writeBufferCapacity s.writeBuffer .ret
  (s.withIo x.1 s.wire).settle t (.flush next) false x.2

/-- lock を取った task `t` が次の await まで進む。 -/
def acquired (s : Conn) (p : Platform) (t : Nat) : LockThen → Conn
  | .send bufs fds => s.setPc t (.sendIssue bufs fds)
  | .flush next => s.startFlush p t next
  | .sync seq => s.setPc t (.syncIssue (.checkAfterSync seq))

end Conn

section Step

variable (cfg : Config)

/-- 系の一歩。起こりえない一歩は `none`。 -/
def step (s : Conn) : Event → Option Conn
  | .sendRequest request fds maxBytes =>
    some <| match computeLengthField cfg.platform maxBytes request with
      | .ok bufs => s.spawn (.locking (.send bufs fds))
      | .err e => s.spawn (.finished (.failed e))
      | .panic => s.spawn (.finished .panicked)
  | .flush => some (s.spawn (.locking (.flush .returned)))
  | .wait call seq prepare =>
    some (s.spawn (.locking
      (if call = .checkForRawError ∧ prepare then .sync seq else .flush (.incoming call seq))))
  | .lock t =>
    match s.holder, s.tasks[t]? with
    | none, some (.locking k) =>
      some (if s.writeBuffer.corrupted then s.setPc t (.finished (.failed writeBufferCorrupted))
        else (s.lockedBy t).acquired cfg.platform t k)
    | _, _ => none
  | .issue t granted =>
    match s.tasks[t]? with
    | some (.sendIssue bufs fds) =>
      some (if granted then
          (s.issue bufs.flatten).startWrite cfg.platform t bufs fds (.sendDone (s.issued.length + 1))
        else s.setPc t (.syncIssue (.retrySend bufs fds)))
    | some (.syncIssue k) =>
      some (if granted then (s.issue cfg.syncRequest).startWrite cfg.platform t [cfg.syncRequest] [] k
        else s.dropGuard t .panicked)
    | _ => none
  | .answer t r =>
    match s.tasks[t]? with
    | some (.writing m _ k) =>
      let x := feed cfg.platform writeBufferCapacity s.writeBuffer s.wire m r
      some ((s.withIo x.1 x.2.1).settle t k (r = .wouldBlock) x.2.2)
    | _ => none
  | .assertCheck t prepare =>
    match s.tasks[t]? with
    | some (.checkAssert seq) =>
      some (if prepare then s.dropGuard t .panicked
        else s.startFlush cfg.platform t (.incoming .checkForRawError seq))
    | _ => none
  | .abandon t =>
    match s.tasks[t]? with
    | some (.locking _) | some (.incoming _ _) => some (s.setPc t (.finished .abandoned))
    | some (.writing _ true _) => some (s.dropGuard t .abandoned)
    | _ => none

/-- 事象の列で系を走らせる。 -/
def run (s : Conn) : List Event → Option Conn
  | [] => some s
  | e :: es => (step cfg s e).bind fun s' => run s' es

/-- 初めの状態から届く状態。 -/
inductive Reachable : Conn → Prop
  | init : Reachable Conn.init
  | step {s s' : Conn} (e : Event) : Reachable s → step cfg s e = some s' → Reachable s'

variable {cfg}

@[simp] theorem run_nil (s : Conn) : run cfg s [] = some s := rfl

theorem run_cons_of_step {s s' : Conn} {e : Event} (h : step cfg s e = some s') (es : List Event) :
    run cfg s (e :: es) = run cfg s' es := by
  simp [run, h]

theorem run_cons_some {s s'' : Conn} {e : Event} {es : List Event}
    (h : run cfg s (e :: es) = some s'') : ∃ s', step cfg s e = some s' ∧ run cfg s' es = some s'' := by
  simp only [run, Option.bind_eq_some] at h
  exact h

theorem run_append (s : Conn) (es es' : List Event) :
    run cfg s (es ++ es') = (run cfg s es).bind fun s' => run cfg s' es' := by
  induction es generalizing s with
  | nil => rfl
  | cons e es ih => simp only [List.cons_append, run, List.append_eq, ih, Option.bind_assoc]

theorem Reachable.run {s s' : Conn} (hs : Reachable cfg s) :
    ∀ (es : List Event), X11rbAsync.run cfg s es = some s' → Reachable cfg s'
  | [], h => by cases h; exact hs
  | _ :: es, h =>
    let ⟨_, h1, h2⟩ := run_cons_some h
    Reachable.run (.step _ hs h1) es h2

end Step

/-! ## 一歩の形

一歩の行き先を、`step` の枝ごとに `Moves` に並べる（`step_moves`）。不変条件はどれもこの形から
導く。guard と並びの不変条件には、それを粗くまとめた形で足りる（`step_cases`）。新しい task を
足すか、lock を待つ task が mutex を取ろうとするか、guard を持つ task が進むか（`HolderMove`）、
guard を持たない task が破棄されるかである。
-/

/-- guard を持つ位置。 -/
def Pc.holdsGuard : Pc → Bool
  | .sendIssue .. | .syncIssue _ | .writing .. | .checkAssert _ => true
  | _ => false

/-- 呼び出しが始まる位置。lock を待つか、lock の前に `compute_length_field` の誤りか panic で
終わる。`send_request` が lock を待つ request は空でない（長さの欄を読んだから）。 -/
def Pc.Fresh : Pc → Prop
  | .locking (.send bufs _) => bufs.flatten ≠ []
  | .locking _ | .finished (.failed _) | .finished .panicked => True
  | _ => False

theorem Pc.holdsGuard_of_fresh {pc : Pc} (h : pc.Fresh) : pc.holdsGuard = false := by
  cases pc <;> first | rfl | cases h

/-- task が動かしている machine。 -/
def Pc.machine : Pc → Option Writing
  | .writing m _ _ => some m
  | _ => none

/-- guard を持つ task `t` が一歩で行き着く状態。machine を始めるのも、machine を動かさずに
位置を移すのも、machine を動かしていないときに限る。 -/
inductive HolderMove (p : Platform) (s : Conn) (t : Nat) : Conn → Prop
  /-- machine を動かさずに、guard を持つ別の位置へ移る。 -/
  | setPc (pc : Pc) (hpc : pc.holdsGuard = true) (hm : pc.machine = none)
      (hidle : s.tasks[t]?.bind Pc.machine = none) : HolderMove p s t (s.setPc t pc)
  /-- 誤りか panic で終わるか、破棄されて、guard を落とす。 -/
  | dropGuard (e : Ending) (he : e.DropsGuard) : HolderMove p s t (s.dropGuard t e)
  /-- core が request `b` に sequence number を出し、`write_all_vectored` を始める。 -/
  | startWrite (b : Bytes) (bufs : List Bytes) (fds : List Fd) (k : WriteCont)
      (hb : b = bufs.flatten) (hidle : s.tasks[t]?.bind Pc.machine = none) :
      HolderMove p s t ((s.issue b).startWrite p t bufs fds k)
  | startFlush (next : AfterFlush) (hidle : s.tasks[t]?.bind Pc.machine = none) :
      HolderMove p s t (s.startFlush p t next)
  /-- stream の答えを machine に渡す。 -/
  | feed (m : Writing) (suspended : Bool) (k : Cont) (r : WriteResult)
      (h₀ : s.tasks[t]? = some (.writing m suspended k)) :
      HolderMove p s t ((s.withIo (feed p writeBufferCapacity s.writeBuffer s.wire m r).1
        (feed p writeBufferCapacity s.writeBuffer s.wire m r).2.1).settle t k (r = .wouldBlock)
        (feed p writeBufferCapacity s.writeBuffer s.wire m r).2.2)

theorem HolderMove.acquired {p : Platform} {s : Conn} {t : Nat} {k : LockThen}
    (ht : s.tasks[t]? = some (.locking k)) :
    HolderMove p (s.lockedBy t) t ((s.lockedBy t).acquired p t k) := by
  have hidle : (s.lockedBy t).tasks[t]?.bind Pc.machine = none := by simp [ht, Pc.machine]
  cases k with
  | send bufs fds => exact .setPc _ rfl rfl hidle
  | flush next => exact .startFlush next hidle
  | sync seq => exact .setPc _ rfl rfl hidle

/-- 一歩が行き着く状態を、事象を忘れて場合ごとに並べたもの。`step` の枝と一つずつ対応する
（`step_moves`）。 -/
inductive Moves (cfg : Config) (s : Conn) : Conn → Prop
  /-- `send_request`、`flush`、`wait_for_reply*`、`check_for_raw_error` を呼ぶ。 -/
  | spawn (pc : Pc) (hpc : pc.Fresh) : Moves cfg s (s.spawn pc)
  /-- mutex を取ったが corrupted が立っていて、`lock()` が誤りを返す。 -/
  | lockFailed (t : Nat) (k : LockThen) (hh : s.holder = none) (ht : s.tasks[t]? = some (.locking k))
      (hc : s.writeBuffer.corrupted = true) :
      Moves cfg s (s.setPc t (.finished (.failed writeBufferCorrupted)))
  | lock (t : Nat) (k : LockThen) (hh : s.holder = none) (ht : s.tasks[t]? = some (.locking k))
      (hc : s.writeBuffer.corrupted = false) : Moves cfg s ((s.lockedBy t).acquired cfg.platform t k)
  /-- core が `send_request` に数を出し、`write_all_vectored` を始める。 -/
  | issueSend (t : Nat) (bufs : List Bytes) (fds : List Fd)
      (ht : s.tasks[t]? = some (.sendIssue bufs fds)) :
      Moves cfg s ((s.issue bufs.flatten).startWrite cfg.platform t bufs fds
        (.sendDone (s.issued.length + 1)))
  /-- core が数を拒み、`send_sync` に進む。 -/
  | refuseSend (t : Nat) (bufs : List Bytes) (fds : List Fd)
      (ht : s.tasks[t]? = some (.sendIssue bufs fds)) :
      Moves cfg s (s.setPc t (.syncIssue (.retrySend bufs fds)))
  /-- core が sync の request に数を出し、`write_all_vectored` を始める。 -/
  | issueSync (t : Nat) (k : WriteCont) (ht : s.tasks[t]? = some (.syncIssue k)) :
      Moves cfg s ((s.issue cfg.syncRequest).startWrite cfg.platform t [cfg.syncRequest] [] k)
  /-- sync の request が拒まれ、`expect` が panic する。 -/
  | refuseSync (t : Nat) (k : WriteCont) (ht : s.tasks[t]? = some (.syncIssue k)) :
      Moves cfg s (s.dropGuard t .panicked)
  | answer (t : Nat) (m : Writing) (suspended : Bool) (k : Cont) (r : WriteResult)
      (ht : s.tasks[t]? = some (.writing m suspended k)) :
      Moves cfg s ((s.withIo (feed cfg.platform writeBufferCapacity s.writeBuffer s.wire m r).1
        (feed cfg.platform writeBufferCapacity s.writeBuffer s.wire m r).2.1).settle t k
        (r = .wouldBlock) (feed cfg.platform writeBufferCapacity s.writeBuffer s.wire m r).2.2)
  /-- `assert!` が偽を見て panic する。 -/
  | assertFails (t seq : Nat) (ht : s.tasks[t]? = some (.checkAssert seq)) :
      Moves cfg s (s.dropGuard t .panicked)
  | assertHolds (t seq : Nat) (ht : s.tasks[t]? = some (.checkAssert seq)) :
      Moves cfg s (s.startFlush cfg.platform t (.incoming .checkForRawError seq))
  | abandonLocking (t : Nat) (k : LockThen) (ht : s.tasks[t]? = some (.locking k)) :
      Moves cfg s (s.setPc t (.finished .abandoned))
  | abandonIncoming (t : Nat) (call : WaitCall) (seq : Nat)
      (ht : s.tasks[t]? = some (.incoming call seq)) : Moves cfg s (s.setPc t (.finished .abandoned))
  /-- `writable().await` で破棄され、guard が落ちる。 -/
  | abandonSuspended (t : Nat) (m : Writing) (k : Cont) (ht : s.tasks[t]? = some (.writing m true k)) :
      Moves cfg s (s.dropGuard t .abandoned)

section Step

variable {cfg : Config}

/-- mutex を取る一歩。corrupted が立っていれば `lock()` は誤りを返し、task はそこで終わる。 -/
theorem step_lock {s s' : Conn} {t : Nat} (h : step cfg s (.lock t) = some s') :
    ∃ k, s.holder = none ∧ s.tasks[t]? = some (.locking k) ∧
      s' = if s.writeBuffer.corrupted then s.setPc t (.finished (.failed writeBufferCorrupted))
        else (s.lockedBy t).acquired cfg.platform t k := by
  simp only [step] at h
  split at h
  · next k hh ht => cases h; exact ⟨k, hh, ht, rfl⟩
  · cases h

/-- **一歩が何をするか。** `step` を一度だけ開き、枝ごとに `Moves` の場合に移す。 -/
theorem step_moves {s s' : Conn} {e : Event} (h : step cfg s e = some s') : Moves cfg s s' := by
  cases e with
  | sendRequest request fds maxBytes =>
    simp only [step, Option.some.injEq] at h
    subst h
    split
    · next bufs hc => exact .spawn _ (computeLengthField_ok_ne_nil hc)
    · exact .spawn _ trivial
    · exact .spawn _ trivial
  | flush => cases h; exact .spawn _ trivial
  | wait call seq prepare => cases h; exact .spawn _ (by split <;> trivial)
  | lock t =>
    obtain ⟨k, hh, ht, rfl⟩ := step_lock h
    split
    · exact .lockFailed t k hh ht ‹_›
    · exact .lock t k hh ht (Bool.eq_false_iff.mpr ‹_›)
  | issue t granted =>
    simp only [step] at h
    split at h
    · next bufs fds ht =>
      cases h
      split
      · exact .issueSend t bufs fds ht
      · exact .refuseSend t bufs fds ht
    · next k ht =>
      cases h
      split
      · exact .issueSync t k ht
      · exact .refuseSync t k ht
    · cases h
  | answer t r =>
    simp only [step] at h
    split at h
    · next m suspended k ht => cases h; exact .answer t m suspended k r ht
    · cases h
  | assertCheck t prepare =>
    simp only [step] at h
    split at h
    · next seq ht =>
      cases h
      split
      · exact .assertFails t seq ht
      · exact .assertHolds t seq ht
    · cases h
  | abandon t =>
    simp only [step] at h
    split at h
    · next k ht => cases h; exact .abandonLocking t k ht
    · next call seq ht => cases h; exact .abandonIncoming t call seq ht
    · next m k ht => cases h; exact .abandonSuspended t m k ht
    · cases h

/-- 一歩を、呼び出しの始まり、mutex を取る一歩、guard を持つ task の一歩（`HolderMove`）、
guard を持たない task の破棄にまとめる。guard と並びの不変条件はこの形から導く。 -/
theorem step_cases {s s' : Conn} {e : Event} (h : step cfg s e = some s') :
    (∃ pc, pc.Fresh ∧ s' = s.spawn pc) ∨
    (∃ t k, s.holder = none ∧ s.tasks[t]? = some (.locking k) ∧
      ((s.writeBuffer.corrupted = true ∧
          s' = s.setPc t (.finished (.failed writeBufferCorrupted))) ∨
        (s.writeBuffer.corrupted = false ∧ s' = (s.lockedBy t).acquired cfg.platform t k))) ∨
    (∃ t pc, s.tasks[t]? = some pc ∧ pc.holdsGuard = true ∧ HolderMove cfg.platform s t s') ∨
    (∃ t pc, s.tasks[t]? = some pc ∧ pc.holdsGuard = false ∧
      s' = s.setPc t (.finished .abandoned)) := by
  have hidle : ∀ {t : Nat} {pc : Pc}, s.tasks[t]? = some pc → pc.machine = none →
      s.tasks[t]?.bind Pc.machine = none := fun ht hm => by simp [ht, hm]
  cases step_moves h with
  | spawn pc hpc => exact .inl ⟨pc, hpc, rfl⟩
  | lockFailed t k hh ht hc => exact .inr (.inl ⟨t, k, hh, ht, .inl ⟨hc, rfl⟩⟩)
  | lock t k hh ht hc => exact .inr (.inl ⟨t, k, hh, ht, .inr ⟨hc, rfl⟩⟩)
  | issueSend t bufs fds ht =>
    exact .inr (.inr (.inl ⟨t, _, ht, rfl, .startWrite _ _ _ _ rfl (hidle ht rfl)⟩))
  | refuseSend t bufs fds ht =>
    exact .inr (.inr (.inl ⟨t, _, ht, rfl, .setPc _ rfl rfl (hidle ht rfl)⟩))
  | issueSync t k ht =>
    exact .inr (.inr (.inl ⟨t, _, ht, rfl, .startWrite _ _ _ _ (by simp) (hidle ht rfl)⟩))
  | refuseSync t k ht => exact .inr (.inr (.inl ⟨t, _, ht, rfl, .dropGuard _ (.inr (.inl rfl))⟩))
  | answer t m suspended k r ht => exact .inr (.inr (.inl ⟨t, _, ht, rfl, .feed m suspended k r ht⟩))
  | assertFails t seq ht => exact .inr (.inr (.inl ⟨t, _, ht, rfl, .dropGuard _ (.inr (.inl rfl))⟩))
  | assertHolds t seq ht => exact .inr (.inr (.inl ⟨t, _, ht, rfl, .startFlush _ (hidle ht rfl)⟩))
  | abandonLocking t k ht => exact .inr (.inr (.inr ⟨t, _, ht, rfl, rfl⟩))
  | abandonIncoming t call seq ht => exact .inr (.inr (.inr ⟨t, _, ht, rfl, rfl⟩))
  | abandonSuspended t m k ht =>
    exact .inr (.inr (.inl ⟨t, _, ht, rfl, .dropGuard _ (.inr (.inr rfl))⟩))

end Step

end X11rbAsync
