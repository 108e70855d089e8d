import X11rbAsync.Corruption

/-!
# 誤りの無い環境では、どの呼び出しも書き込み側を抜ける

空いた mutex が取られ、core が sequence number を出し、stream が 1 byte 以上を受け取り、
`check_for_raw_error` の `assert!` の前の `prepare_check_for_reply_or_error` が偽を返す一歩を
協力的と呼ぶ（`Event.Cooperative`）。guard が落とされておらず、まだ書かれていない request が
どれも `usize` の `+` を溢れさせない（`RequestsFit`：request の長さに buffer の容量を足しても
`usize::MAX` 以下）届く状態からは、協力的な一歩だけの run で、どの task も `send_request` や
`flush` から返るか `wait_for_incoming` に着くかして（`Pc.settled`）、mutex が空き、guard は
一度も落とされない（`write_side_completes`）。

その途中で `write_all_vectored` の flush の判定の `+` の溢れ、`debug_assert!`、`flush_impl` の
"failed to write all fds"、直接書き込みの loop の panic のどれも起きないことを、不変条件
`LiveInv` で示す。buffer の fd は byte と共にあり、buffer は容量を越えず、走っている machine は
書き終えていない flush の loop であり（直接書き込みの loop は回らない）、書こうとしている request は
fd を持つなら byte も持つ。request が空でないのは `compute_length_field` が長さの欄を読むからで
ある（`computeLengthField_ok_ne_nil`）。

guard を持つ task は、協力的な一歩ごとに mutex を放すか、順位（`Pc.rank`）の小さい位置に移る
（`holder_step`）。順位は mutex を放すまでに要る一歩の数の上界である。
-/

namespace X11rbAsync

/-! ## machine が誤りなく進むための条件 -/

/-- buffer が fd を持つなら byte も持つ。 -/
def WriteBufferInner.FdsWithBytes (inner : WriteBufferInner) : Prop :=
  inner.fds ≠ [] → inner.buffer ≠ []

/-- 書こうとしている request は、fd を持つなら byte も持つ。 -/
def PendingOk (bufs : List Bytes) (fds : List Fd) : Prop := fds ≠ [] → bufs.flatten ≠ []

def FlushThen.LiveOk : FlushThen → Prop
  | .write bufs fds => PendingOk bufs fds
  | .ret => True

/-- 走っている machine は flush の loop で、まだ書き終えていない。 -/
def Writing.LiveOk (inner : WriteBufferInner) : Writing → Prop
  | .flush position k => position < inner.buffer.length ∧ k.LiveOk
  | .direct _ => False

/-- machine の様子が保つこと。buffer は容量を越えない。 -/
structure MachineLive (cap : Nat) (inner : WriteBufferInner) (st : WStatus) : Prop where
  fds : inner.FdsWithBytes
  bounded : inner.buffer.length ≤ cap
  running : ∀ m, st = .running m → m.LiveOk inner

section Machine

variable {p : Platform} (cap : Nat) {inner : WriteBufferInner}

/-- payload を積むのは、積んでも容量を越えないときである。 -/
theorem finishWrite_live (h : inner.FdsWithBytes) {bufs : List Bytes} {fds : List Fd}
    (hp : PendingOk bufs fds) (hb : inner.buffer.length ≤ cap)
    (hfits : p.saturatingTotalLen bufs < cap → inner.buffer.length + totalLen bufs ≤ cap) :
    MachineLive cap (finishWrite p cap inner bufs fds).1 (finishWrite p cap inner bufs fds).2 := by
  rw [finishWrite_eq]
  split
  · next hs =>
    refine ⟨fun hf => ?_, ?_, fun _ hm => by cases hm⟩
    · simp only [ne_eq, List.append_eq_nil, not_and_or] at hf ⊢
      exact hf.imp h hp
    · rw [List.length_append, ← totalLen_eq_length_flatten]
      exact hfits hs
  · split <;> exact ⟨h, hb, fun _ hm => by cases hm⟩

/-- flush の後半は、空にした buffer から続ける。 -/
theorem finishFlush_live (hcap : cap ≤ p.usizeMax) (h : inner.FdsWithBytes) (hb : inner.buffer = [])
    {k : FlushThen} (hk : k.LiveOk) :
    MachineLive cap (finishFlush p cap inner k).1 (finishFlush p cap inner k).2 := by
  cases k with
  | write bufs fds =>
    refine finishWrite_live cap h hk (by simp [hb]) fun hs => ?_
    rw [hb, List.length_nil, Nat.zero_add]
    exact ((p.saturatingTotalLen_lt_iff hcap bufs).mp hs).le
  | ret => exact ⟨h, by simp [finishFlush, hb], fun _ hm => by cases hm⟩

theorem flushLoopHead_live (hcap : cap ≤ p.usizeMax) (h : inner.FdsWithBytes)
    (hb : inner.buffer.length ≤ cap) (position : Nat) {k : FlushThen} (hk : k.LiveOk) :
    MachineLive cap (flushLoopHead p cap inner position k).1
      (flushLoopHead p cap inner position k).2 := by
  unfold flushLoopHead
  split
  · next hp => exact ⟨h, hb, fun _ hm => by cases hm; exact ⟨hp, hk⟩⟩
  · split
    · next he =>
      have hf : ({ inner with buffer := [] } : WriteBufferInner).FdsWithBytes := fun hf =>
        absurd (List.isEmpty_iff.mp he) hf
      exact finishFlush_live cap hcap hf rfl hk
    · exact ⟨h, hb, fun _ hm => by cases hm⟩

theorem flushImplStart_live (hcap : cap ≤ p.usizeMax) (h : inner.FdsWithBytes)
    (hb : inner.buffer.length ≤ cap) {k : FlushThen} (hk : k.LiveOk) :
    MachineLive cap (flushImplStart p cap inner k).1 (flushImplStart p cap inner k).2 := by
  unfold flushImplStart
  split
  · next he =>
    simp only [Bool.and_eq_true, List.isEmpty_iff] at he
    exact finishFlush_live cap hcap h he.1 hk
  · exact flushLoopHead_live cap hcap h hb 0 hk

/-- `write_all_vectored` の入口。容量の 2 倍が `usize` に収まれば、buffer に積む payload は、
`buffer.len() + total_len` を溢れずに容量と比べてある。 -/
theorem writeAllVectoredStart_live (hcap : cap + cap ≤ p.usizeMax) (h : inner.FdsWithBytes)
    (hb : inner.buffer.length ≤ cap) {bufs : List Bytes} {fds : List Fd} (hp : PendingOk bufs fds) :
    MachineLive cap (writeAllVectoredStart p cap inner bufs fds).1
      (writeAllVectoredStart p cap inner bufs fds).2 := by
  cases hn : p.add inner.buffer.length (p.saturatingTotalLen bufs) with
  | none =>
    rw [writeAllVectoredStart_of_add_none cap fds hn]
    exact ⟨h, hb, fun _ hm => by cases hm⟩
  | some n =>
    rw [writeAllVectoredStart_of_add_some cap fds hn]
    split
    · exact flushImplStart_live cap (by omega) h hb hp
    · next hle =>
      refine finishWrite_live cap h hp hb fun hs => ?_
      have hsat := p.saturatingTotalLen_eq bufs
      have := p.eq_of_add_eq_some hn (by omega)
      omega

/-- stream の答えを受けても保たれる。1 byte 以上書けば fd は全部 stream に渡る。 -/
theorem feed_live (hcap : cap ≤ p.usizeMax) (h : inner.FdsWithBytes) (hb : inner.buffer.length ≤ cap)
    {m : Writing} (hm : m.LiveOk inner) (wire : Wire) (r : WriteResult) :
    MachineLive cap (feed p cap inner wire m r).1 (feed p cap inner wire m r).2.2 := by
  cases m with
  | direct d => exact hm.elim
  | flush position k =>
    cases r with
    | accept n =>
      rw [feed_flush_accept]
      split
      · exact ⟨h, hb, fun _ h' => by cases h'⟩
      · next hne =>
        refine flushLoopHead_live cap hcap (fun hf => ?_) ?_ _ hm.2
        · rcases Wire.write_cases wire (inner.buffer.drop position) inner.fds n with ⟨-, hw⟩ | ⟨-, hw⟩
          · rw [hw] at hne; exact absurd rfl hne
          · rw [hw] at hf; exact absurd rfl hf
        · exact hb
    | wouldBlock => exact ⟨h, hb, fun _ h' => by cases h'; exact hm⟩
    | fail kind => exact ⟨h, hb, fun _ h' => by cases h'⟩

/-! ### 誤りなく進むこと -/

/-- buffer が空なら、flush の後半は答えを待たず `Ok` で返る。 -/
theorem finishFlush_done (hb : inner.buffer = []) (k : FlushThen) :
    ∃ fds, (finishFlush p cap inner k).2 = .done fds := by
  cases k with
  | ret => exact ⟨_, rfl⟩
  | write bufs fds =>
    simp only [finishFlush, finishWrite_of_empty cap hb]
    split <;> exact ⟨_, rfl⟩

/-- fd が byte と共にあれば、`flush_impl` の入口は `Ok` で返るか、位置 0 から答えを待つ。 -/
theorem flushImplStart_ok (h : inner.FdsWithBytes) (k : FlushThen) :
    (∃ fds, (flushImplStart p cap inner k).2 = .done fds) ∨
      ∃ m, (flushImplStart p cap inner k).2 = .running m := by
  cases hb : inner.buffer with
  | nil =>
    have hf : inner.fds = [] := by
      by_contra hf
      exact h hf hb
    rw [flushImplStart_empty cap hb hf]
    exact .inl (finishFlush_done cap hb k)
  | cons b bs =>
    rw [flushImplStart_nonempty cap (by simp [hb])]
    exact .inr ⟨_, rfl⟩

/-- `write_all_vectored` の入口も、`buffer.len() + total_len` が溢れなければ同じ。容量以上の
payload が `debug_assert!` に当たるのは buffer が空でないときだけで、そのときは先に flush して
いる。 -/
theorem writeAllVectoredStart_ok (h : inner.FdsWithBytes) {bufs : List Bytes} (fds : List Fd)
    (hfit : inner.buffer.length + totalLen bufs ≤ p.usizeMax) :
    (∃ fds', (writeAllVectoredStart p cap inner bufs fds).2 = .done fds') ∨
      ∃ m, (writeAllVectoredStart p cap inner bufs fds).2 = .running m := by
  rw [writeAllVectoredStart_of_le cap fds hfit]
  split
  · exact flushImplStart_ok cap h _
  · next hle =>
    rw [finishWrite_eq]
    split
    · exact .inl ⟨_, rfl⟩
    · next hbig =>
      rw [p.saturatingTotalLen_of_le (by omega)] at hbig
      have hb : inner.buffer = [] := List.length_eq_zero.mp (by omega)
      rw [if_pos (by simp [hb])]
      exact .inl ⟨_, rfl⟩

/-- 書き終えていない flush の loop に、stream が残りを全部受け取ると答えれば、machine は `Ok` で
返る。 -/
theorem feed_accept_rest_done {position : Nat} (hp : position < inner.buffer.length) (wire : Wire)
    (k : FlushThen) :
    ∃ fds, (feed p cap inner wire (.flush position k)
      (.accept (inner.buffer.length - position))).2.2 = .done fds := by
  have hmin : min (inner.buffer.length - position) (inner.buffer.drop position).length =
      inner.buffer.length - position := by simp
  rcases Wire.write_cases wire (inner.buffer.drop position) inner.fds
      (inner.buffer.length - position) with ⟨h0, -⟩ | ⟨-, hw⟩
  · omega
  · rw [feed_flush_accept, hw]
    simp only [hmin, flushLoopHead, List.isEmpty_nil, if_true]
    rw [if_neg (by omega), if_neg (by omega)]
    exact finishFlush_done cap (show ({ inner with buffer := [], fds := [] } : WriteBufferInner).buffer = []
      from rfl) k

end Machine

/-- 接続の容量は、どの platform でもその 2 倍が `usize` に収まる。 -/
theorem capacity_add_capacity_le (p : Platform) :
    writeBufferCapacity + writeBufferCapacity ≤ p.usizeMax :=
  le_trans (by decide) p.usizeMax_ge

/-! ## 系の上の不変条件 -/

def WriteCont.LiveOk : WriteCont → Prop
  | .retrySend bufs fds => PendingOk bufs fds
  | _ => True

def Cont.LiveOk : Cont → Prop
  | .write k => k.LiveOk
  | .flush _ => True

/-- task の位置が保つこと。`inner` は write buffer で、走っている machine はそれを書いている。 -/
def Pc.LiveOk (inner : WriteBufferInner) : Pc → Prop
  | .locking (.send bufs fds) | .sendIssue bufs fds => PendingOk bufs fds
  | .syncIssue k => k.LiveOk
  | .writing m _ k => m.LiveOk inner ∧ k.LiveOk
  | _ => True

/-- guard を持たない位置は、write buffer に依らない。 -/
theorem Pc.liveOk_congr {pc : Pc} (hpc : pc.holdsGuard = false) {inner inner' : WriteBufferInner}
    (h : pc.LiveOk inner) : pc.LiveOk inner' := by
  cases pc with
  | locking k => cases k <;> exact h
  | writing => cases hpc
  | _ => exact h

structure LiveInv (s : Conn) : Prop where
  fds : s.writeBuffer.FdsWithBytes
  /-- buffer は容量を越えない（`Vec` は再確保しない）。 -/
  bounded : s.writeBuffer.buffer.length ≤ writeBufferCapacity
  tasks : ∀ (t : Nat) (pc : Pc), s.tasks[t]? = some pc → pc.LiveOk s.writeBuffer

namespace LiveInv

variable {s : Conn}

theorem init : LiveInv Conn.init :=
  ⟨fun h => absurd rfl h, Nat.zero_le _, fun _ _ h => by simp [Conn.init] at h⟩

/-- write buffer を変えずに位置を置き換える。 -/
theorem setPc (hl : LiveInv s) (t : Nat) {pc : Pc} (hpc : pc.LiveOk s.writeBuffer) :
    LiveInv (s.setPc t pc) :=
  ⟨hl.fds, hl.bounded, forall_getElem?_set (fun u x _ hx => hl.tasks u x hx) hpc⟩

theorem dropGuard (hl : LiveInv s) (t : Nat) (e : Ending) : LiveInv (s.dropGuard t e) :=
  ⟨hl.fds, hl.bounded, (hl.setPc t (show (Pc.finished e).LiveOk s.writeBuffer from trivial)).tasks⟩

/-- machine の様子を task `t` に映す。ほかの task は guard を持たないから、write buffer が
変わっても条件は残る。 -/
theorem settle (hl : LiveInv s) {t : Nat}
    (hothers : ∀ (u : Nat) (pc : Pc), u ≠ t → s.tasks[u]? = some pc → pc.holdsGuard = false)
    {k : Cont} (hk : k.LiveOk) (suspended : Bool) {inner : WriteBufferInner} {wire : Wire}
    {st : WStatus} (hm : MachineLive writeBufferCapacity inner st) :
    LiveInv ((s.withIo inner wire).settle t k suspended st) := by
  have key : ∀ {inner' : WriteBufferInner} {pc : Pc}, pc.LiveOk inner' →
      ∀ (u : Nat) (x : Pc), (s.tasks.set t pc)[u]? = some x → x.LiveOk inner' := fun hpc =>
    forall_getElem?_set (fun u x hu hx => Pc.liveOk_congr (hothers u x hu hx) (hl.tasks u x hx)) hpc
  cases st with
  | running m => exact ⟨hm.fds, hm.bounded, key ⟨hm.running m rfl, hk⟩⟩
  | done fds =>
    rcases k with (_ | _ | _) | (_ | _) <;> exact ⟨hm.fds, hm.bounded, key hk⟩
  | failed e => exact ⟨hm.fds, hm.bounded, key trivial⟩
  | panicked => exact ⟨hm.fds, hm.bounded, key trivial⟩

end LiveInv

section Step

variable {cfg : Config}

/-- 呼び出しが始まる位置は条件を満たす。`send_request` の request は空でない。 -/
theorem Pc.liveOk_of_fresh {pc : Pc} (h : pc.Fresh) (inner : WriteBufferInner) : pc.LiveOk inner := by
  rcases pc with (_ | _ | _) | _ | _ | _ | _ | _ | _
  · exact fun _ => h
  all_goals trivial

theorem LiveInv.of_step {s s' : Conn} (hg : GuardInv s) (hl : LiveInv s) {e : Event}
    (he : step cfg s e = some s') : LiveInv s' := by
  have hcap2 := capacity_add_capacity_le cfg.platform
  have hcap : writeBufferCapacity < cfg.platform.usizeMax := by
    have : 0 < writeBufferCapacity := by decide
    omega
  cases step_moves he with
  | spawn pc hpc =>
    exact ⟨hl.fds, hl.bounded,
      forall_getElem?_concat (fun u x hx => hl.tasks u x hx) (Pc.liveOk_of_fresh hpc _)⟩
  | lock t k hh ht _ =>
    have hl' : LiveInv (s.lockedBy t) := ⟨hl.fds, hl.bounded, hl.tasks⟩
    cases k with
    | send bufs fds => exact hl'.setPc t (hl.tasks t _ ht)
    | flush next =>
      exact hl'.settle (k := .flush next) (fun u x _ hx => hg.not_holds hh u x hx) trivial false
        (flushImplStart_live (k := .ret) _ hcap.le hl'.fds hl'.bounded trivial)
    | sync seq => exact hl'.setPc t trivial
  | issueSend t bufs fds ht =>
    exact LiveInv.settle (s := s.issue bufs.flatten) (k := .write (.sendDone _))
      ⟨hl.fds, hl.bounded, hl.tasks⟩ (hg.heldBy ht rfl).others trivial false
      (writeAllVectoredStart_live _ hcap2 hl.fds hl.bounded (hl.tasks t _ ht))
  | refuseSend t bufs fds ht => exact hl.setPc t (show PendingOk bufs fds from hl.tasks t _ ht)
  | issueSync t k ht =>
    exact LiveInv.settle (s := s.issue cfg.syncRequest) (k := .write k) ⟨hl.fds, hl.bounded, hl.tasks⟩
      (hg.heldBy ht rfl).others (hl.tasks t _ ht) false
      (writeAllVectoredStart_live _ hcap2 hl.fds hl.bounded fun h => absurd rfl h)
  | answer t m suspended k r ht =>
    have hpc : (Pc.writing m suspended k).LiveOk s.writeBuffer := hl.tasks t _ ht
    exact hl.settle (hg.heldBy ht rfl).others hpc.2 _
      (feed_live _ hcap.le hl.fds hl.bounded hpc.1 s.wire r)
  | assertHolds t seq ht =>
    exact hl.settle (k := .flush (.incoming .checkForRawError seq)) (hg.heldBy ht rfl).others
      trivial false (flushImplStart_live (k := .ret) _ hcap.le hl.fds hl.bounded trivial)
  | lockFailed t _ _ _ _ | abandonLocking t _ _ | abandonIncoming t _ _ _ => exact hl.setPc t trivial
  | refuseSync t _ _ | assertFails t _ _ | abandonSuspended t _ _ _ => exact hl.dropGuard t _

theorem Reachable.liveInv {s : Conn} (hs : Reachable cfg s) : LiveInv s := by
  induction hs with
  | init => exact LiveInv.init
  | step _ hs h ih => exact ih.of_step hs.guardInv h

end Step

/-! ## 協力的な環境での進み方 -/

/-- 環境が誤りを起こさない一歩。空いた mutex は取られ、core は数を出し、stream は 1 byte 以上を
受け取り、`assert!` の前の `prepare_check_for_reply_or_error` は偽を返す。新しい呼び出しと
破棄は含まない。 -/
def Event.Cooperative : Event → Prop
  | .lock _ => True
  | .issue _ granted => granted = true
  | .answer _ (.accept n) => 0 < n
  | .assertCheck _ prepare => prepare = false
  | _ => False

/-- 書き込み側を抜けた位置。呼び出しから返ったか、`wait_for_incoming` にいる。 -/
def Pc.settled : Pc → Bool
  | .finished _ | .incoming _ _ => true
  | _ => false

def WriteCont.rank : WriteCont → Nat
  | .sendDone _ => 0
  | .retrySend _ _ | .checkAfterSync _ => 2

def Cont.rank : Cont → Nat
  | .write k => k.rank
  | .flush _ => 0

/-- guard を持つ位置から、協力的な一歩で mutex を放すまでの一歩の数の上界。 -/
def Pc.rank : Pc → Nat
  | .sendIssue _ _ | .checkAssert _ => 2
  | .syncIssue k => k.rank + 2
  | .writing _ _ k => k.rank + 1
  | _ => 0

/-! ## まだ尋ねていない request の長さ -/

/-- task がまだ core に尋ねていない request は、容量いっぱいの buffer に足しても `usize` を
溢れない。 -/
def RequestsFit (p : Platform) (s : Conn) : Prop :=
  ∀ pc ∈ s.tasks, ∀ b, pc.unissued = some b → b.length + writeBufferCapacity ≤ p.usizeMax

/-- `settle` は task `t` の位置だけを置き換える。新しい位置がまだ尋ねていない request は、
続き `k` のものだけである。 -/
theorem Conn.settle_unissued (s : Conn) (t : Nat) (k : Cont) (suspended : Bool) (st : WStatus) :
    ∃ pc, (s.settle t k suspended st).tasks = s.tasks.set t pc ∧
      (pc.unissued = none ∨ pc.unissued = k.unissued) := by
  cases st with
  | running m => exact ⟨_, rfl, .inr rfl⟩
  | done fds =>
    rcases k with (_ | _ | _) | (_ | _) <;> exact ⟨_, rfl, by simp [Pc.unissued, Cont.unissued]⟩
  | failed e => exact ⟨_, rfl, .inl rfl⟩
  | panicked => exact ⟨_, rfl, .inl rfl⟩

/-- 一つの task の位置を、まだ尋ねていない request を増やさずに置き換える。 -/
theorem RequestsFit.set {p : Platform} {s s' : Conn} (hf : RequestsFit p s) {t : Nat} {pc pc' : Pc}
    (ht : s.tasks[t]? = some pc) (htasks : s'.tasks = s.tasks.set t pc')
    (hpc : pc'.unissued = none ∨ pc'.unissued = pc.unissued) : RequestsFit p s' := by
  intro x hx b hb
  rw [htasks] at hx
  rcases List.mem_or_eq_of_mem_set hx with hx | rfl
  · exact hf x hx b hb
  · rcases hpc with h | h
    · rw [h] at hb; cases hb
    · exact hf pc (List.getElem?_mem ht) b (h ▸ hb)

section Step

variable {cfg : Config}

/-- 協力的な一歩は新しい呼び出しを始めないので、まだ尋ねていない request は増えない。 -/
theorem RequestsFit.of_cooperative {s s' : Conn} (hf : RequestsFit cfg.platform s) {e : Event}
    (he : e.Cooperative) (h : step cfg s e = some s') : RequestsFit cfg.platform s' := by
  have hsettle : ∀ {t : Nat} {pc : Pc} {k : Cont}, s.tasks[t]? = some pc →
      (k.unissued = none ∨ k.unissued = pc.unissued) → ∀ s₁ : Conn, s₁.tasks = s.tasks →
      ∀ inner wire suspended st,
        RequestsFit cfg.platform ((s₁.withIo inner wire).settle t k suspended st) := by
    intro t pc k ht hk s₁ h₀ inner wire suspended st
    obtain ⟨pc', htasks, hpc'⟩ := Conn.settle_unissued (s₁.withIo inner wire) t k suspended st
    refine hf.set ht (htasks.trans (by rw [Conn.withIo_tasks, h₀])) ?_
    rcases hpc' with h | h
    · exact .inl h
    · rw [h]; exact hk
  cases e with
  | lock t =>
    obtain ⟨k, -, ht, rfl⟩ := step_lock h
    split
    · exact hf.set ht rfl (.inl rfl)
    · cases k with
      | send bufs fds => exact hf.set ht rfl (.inr rfl)
      | flush next => exact hsettle (k := .flush next) ht (.inl rfl) (s.lockedBy t) rfl _ _ _ _
      | sync seq => exact hf.set ht rfl (.inl rfl)
  | issue t granted =>
    obtain rfl : granted = true := he
    simp only [step, if_true] at h
    split at h
    · next bufs fds ht =>
      cases h
      exact hsettle (k := .write (.sendDone _)) ht (.inl rfl) (s.issue bufs.flatten) rfl _ _ _ _
    · next k ht =>
      cases h
      exact hsettle (k := .write k) ht (.inr rfl) (s.issue cfg.syncRequest) rfl _ _ _ _
    · cases h
  | answer t r =>
    simp only [step] at h
    split at h
    · next m suspended k ht => cases h; exact hsettle (k := k) ht (.inr rfl) s rfl _ _ _ _
    · cases h
  | assertCheck t prepare =>
    obtain rfl : prepare = false := he
    simp only [step, Bool.false_eq_true, if_false] at h
    split at h
    · next seq ht =>
      cases h
      exact hsettle (k := .flush (.incoming .checkForRawError seq)) ht (.inl rfl) s rfl _ _ _ _
    · cases h
  | sendRequest | flush | wait | abandon => exact he.elim

theorem RequestsFit.run {s : Conn} (hf : RequestsFit cfg.platform s) :
    ∀ {es : List Event} {s' : Conn}, (∀ e ∈ es, e.Cooperative) → run cfg s es = some s' →
      RequestsFit cfg.platform s'
  | [], _, _, h => by cases h; exact hf
  | _ :: _, _, hes, h =>
    let ⟨_, h1, h2⟩ := run_cons_some h
    (hf.of_cooperative (hes _ (List.mem_cons_self _ _)) h1).run
      (fun e he => hes e (List.mem_cons_of_mem _ he)) h2

end Step

/-- task `t` の一歩の後。落とされた guard は増えず、変わったのは `t` の位置だけで、`t` は mutex を
放して書き込み側を抜けたか、mutex を持ったまま順位 `r` より下の位置にいる。 -/
structure Advanced (s : Conn) (t r : Nat) (s' : Conn) : Prop where
  drops : s'.drops = s.drops
  moved : ∃ pc, s'.tasks = s.tasks.set t pc ∧
    ((s'.holder = none ∧ pc.settled = true) ∨
      (s'.holder = s.holder ∧ pc.holdsGuard = true ∧ pc.rank < r))

/-- 一歩の前の状態を、drops、tasks、holder が同じ状態に取り替える。 -/
theorem Advanced.congr {s₀ s s' : Conn} {t r : Nat} (h : Advanced s₀ t r s')
    (hd : s₀.drops = s.drops) (ht : s₀.tasks = s.tasks) (hh : s₀.holder = s.holder) :
    Advanced s t r s' :=
  ⟨h.drops.trans hd, ht ▸ hh ▸ h.moved⟩

/-- machine が `Ok` で返れば、続きに応じて mutex を放すか、続きの順位の位置に移る。 -/
theorem settle_done_advanced (s : Conn) (t : Nat) {k : Cont} {r : Nat} (hr : k.rank < r)
    (suspended : Bool) (inner : WriteBufferInner) (wire : Wire) (fds : List Fd) :
    Advanced s t r ((s.withIo inner wire).settle t k suspended (.done fds)) := by
  rcases k with (_ | _ | _) | (_ | _)
  · exact ⟨rfl, _, rfl, .inl ⟨rfl, rfl⟩⟩
  · exact ⟨rfl, _, rfl, .inr ⟨rfl, rfl, hr⟩⟩
  · exact ⟨rfl, _, rfl, .inr ⟨rfl, rfl, hr⟩⟩
  · exact ⟨rfl, _, rfl, .inl ⟨rfl, rfl⟩⟩
  · exact ⟨rfl, _, rfl, .inl ⟨rfl, rfl⟩⟩

/-- machine が `Ok` で返るか答えを待てば、続きの順位より一つ上の位置までに収まる。 -/
theorem settle_ok_advanced (s : Conn) (t : Nat) {k : Cont} {r : Nat} (hr : k.rank + 1 < r)
    (suspended : Bool) (inner : WriteBufferInner) (wire : Wire) {st : WStatus}
    (hst : (∃ fds, st = .done fds) ∨ ∃ m, st = .running m) :
    Advanced s t r ((s.withIo inner wire).settle t k suspended st) := by
  rcases hst with ⟨fds, rfl⟩ | ⟨m, rfl⟩
  · exact settle_done_advanced s t (by omega) suspended inner wire fds
  · exact ⟨rfl, _, rfl, .inr ⟨rfl, rfl, hr⟩⟩

section Step

variable {cfg : Config}

/-- `send_sync` の request は 4 byte である。 -/
theorem Config.syncRequest_length (cfg : Config) : cfg.syncRequest.length = 4 := by
  unfold Config.syncRequest
  cases cfg.platform.endian <;> rfl

/-- **guard を持つ task には、mutex を放すか順位を下げる協力的な一歩がある。** 書こうとしている
request が buffer に足して `usize` を溢れなければ、`write_all_vectored` は panic しない。 -/
theorem holder_step {s : Conn} (hs : Reachable cfg s) (hf : RequestsFit cfg.platform s) {t : Nat}
    (hh : s.holder = some t) {pc : Pc} (ht : s.tasks[t]? = some pc) :
    ∃ e s', e.Cooperative ∧ step cfg s e = some s' ∧ Advanced s t pc.rank s' := by
  have hl := hs.liveInv
  have hpc : pc.holdsGuard = true :=
    Bool.eq_true_of_not_eq_false fun h => hs.guardInv.ne_of_holder ht h hh rfl
  have hb := hl.bounded
  have hcap := capacity_add_capacity_le cfg.platform
  cases pc with
  | sendIssue bufs fds =>
    have hfit : s.writeBuffer.buffer.length + totalLen bufs ≤ cfg.platform.usizeMax := by
      have := hf _ (List.getElem?_mem ht) bufs.flatten rfl
      rw [totalLen_eq_length_flatten]
      omega
    refine ⟨.issue t true, _, rfl, by simp only [step, ht, if_true]; rfl, ?_⟩
    exact (settle_ok_advanced (s.issue bufs.flatten) t (by simp [Pc.rank, Cont.rank, WriteCont.rank])
      false _ _ (writeAllVectoredStart_ok _ hl.fds fds hfit)).congr rfl rfl rfl
  | syncIssue k =>
    have hfit : s.writeBuffer.buffer.length + totalLen [cfg.syncRequest] ≤ cfg.platform.usizeMax := by
      simp only [totalLen_cons, totalLen_nil, Config.syncRequest_length]
      have : 4 ≤ writeBufferCapacity := by decide
      omega
    refine ⟨.issue t true, _, rfl, by simp only [step, ht, if_true]; rfl, ?_⟩
    exact (settle_ok_advanced (s.issue cfg.syncRequest) t (k := .write k) (by simp [Pc.rank, Cont.rank])
      false _ _ (writeAllVectoredStart_ok _ hl.fds _ hfit)).congr rfl rfl rfl
  | writing m suspended k =>
    have hlive : (Pc.writing m suspended k).LiveOk s.writeBuffer := hl.tasks t _ ht
    cases m with
    | direct d => exact hlive.1.elim
    | flush position k' =>
      obtain ⟨fds, hx⟩ := feed_accept_rest_done writeBufferCapacity hlive.1.1 s.wire k'
      refine ⟨.answer t (.accept (s.writeBuffer.buffer.length - position)), _,
        show 0 < s.writeBuffer.buffer.length - position by have := hlive.1.1; omega,
        by simp only [step, ht]; rfl, ?_⟩
      rw [hx]
      exact settle_done_advanced s t (Nat.lt_succ_self _) _ _ _ fds
  | checkAssert seq =>
    refine ⟨.assertCheck t false, _, rfl, by simp only [step, ht, Bool.false_eq_true, if_false]; rfl, ?_⟩
    exact settle_ok_advanced s t (k := .flush (.incoming .checkForRawError seq))
      (by simp [Pc.rank, Cont.rank]) false _ _
      (flushImplStart_ok _ hl.fds .ret)
  | _ => cases hpc

/-- guard を持つ task は、自分の協力的な一歩だけで mutex を放して書き込み側を抜ける。 -/
theorem holder_release (r : Nat) :
    ∀ {s : Conn}, Reachable cfg s → RequestsFit cfg.platform s → s.drops = [] →
      ∀ {t : Nat} {pc : Pc}, s.holder = some t → s.tasks[t]? = some pc → pc.rank < r →
      ∃ es s', (∀ e ∈ es, e.Cooperative) ∧ run cfg s es = some s' ∧ s'.drops = [] ∧ s'.holder = none ∧
        ∃ pc', s'.tasks = s.tasks.set t pc' ∧ pc'.settled = true := by
  induction r with
  | zero => intro _ _ _ _ _ _ _ _ hr; omega
  | succ r ih =>
    intro s hs hf hd t pc hh ht hr
    obtain ⟨e, s₁, he, h₁, ⟨hd₁, pc₁, htasks, hmove⟩⟩ := holder_step hs hf hh ht
    rcases hmove with ⟨hh₁, hset⟩ | ⟨hh₁, -, hrank⟩
    · refine ⟨[e], s₁, by simpa using he, by simp [run, h₁], hd₁.trans hd, hh₁,
        pc₁, htasks, hset⟩
    · have ht₁ : s₁.tasks[t]? = some pc₁ := by
        rw [htasks]
        exact getElem?_set_of_some ht
      obtain ⟨es, s', hes, hrun, hd', hh', pc', htasks', hset⟩ :=
        ih (.step e hs h₁) (hf.of_cooperative he h₁) (hd₁.trans hd) (hh₁.trans hh) ht₁ (by omega)
      refine ⟨e :: es, s', List.forall_mem_cons.mpr ⟨he, hes⟩,
        by rw [run_cons_of_step h₁]; exact hrun, hd', hh', pc', ?_, hset⟩
      rw [htasks', htasks, List.set_set]

/-- 空いた mutex を取った task は、そのまま書き込み側を抜けるか、guard を持つ位置に移る。 -/
theorem lock_advanced {s : Conn} (hs : Reachable cfg s) (hh : s.holder = none) (hd : s.drops = [])
    {t : Nat} {k : LockThen} (ht : s.tasks[t]? = some (.locking k)) :
    step cfg s (.lock t) = some ((s.lockedBy t).acquired cfg.platform t k) ∧
      Advanced (s.lockedBy t) t 5 ((s.lockedBy t).acquired cfg.platform t k) := by
  have hc : s.writeBuffer.corrupted = false :=
    Bool.eq_false_iff.mpr fun hc => (hs.guardInv.free hh).mp hc hd
  refine ⟨by simp [step, hh, ht, hc], ?_⟩
  cases k with
  | send bufs fds => exact ⟨rfl, _, rfl, .inr ⟨rfl, rfl, by simp [Pc.rank]⟩⟩
  | flush next =>
    exact settle_ok_advanced (s.lockedBy t) t (k := .flush next) (by simp [Cont.rank]) false _ _
      (flushImplStart_ok _ (show (s.lockedBy t).writeBuffer.FdsWithBytes from hs.liveInv.fds) .ret)
  | sync seq => exact ⟨rfl, _, rfl, .inr ⟨rfl, rfl, by simp [Pc.rank, WriteCont.rank]⟩⟩

end Step

/-! ## どの呼び出しも書き込み側を抜ける -/

/-- 書き込み側に残っている task の数。 -/
def Conn.pending (s : Conn) : Nat := s.tasks.countP fun pc => !pc.settled

theorem Pc.settled_of_holdsGuard {pc : Pc} (h : pc.holdsGuard = true) : pc.settled = false := by
  cases pc <;> first | rfl | cases h

/-- guard を持たず書き込み側に残っている task は、mutex を待っている。 -/
theorem Pc.locking_of_free {pc : Pc} (hs : pc.settled = false) (hg : pc.holdsGuard = false) :
    ∃ k, pc = .locking k := by
  cases pc with
  | locking k => exact ⟨k, rfl⟩
  | _ => simp [Pc.settled, Pc.holdsGuard] at hs hg

theorem Conn.pending_pos {s : Conn} {t : Nat} {pc : Pc} (ht : s.tasks[t]? = some pc)
    (hpc : pc.settled = false) : 0 < s.pending :=
  List.countP_pos_iff.mpr ⟨pc, List.mem_iff_getElem?.mpr ⟨t, ht⟩, by simp [hpc]⟩

/-- 残っている task が一つ抜ければ、残りは一つ減る。 -/
theorem Conn.pending_set {s s' : Conn} {t : Nat} {pc pc' : Pc} (ht : s.tasks[t]? = some pc)
    (hpc : pc.settled = false) (htasks : s'.tasks = s.tasks.set t pc') (hpc' : pc'.settled = true) :
    s'.pending + 1 = s.pending := by
  obtain ⟨hlt, hget⟩ := List.getElem?_eq_some_iff.mp ht
  have hpos := Conn.pending_pos ht hpc
  unfold Conn.pending at hpos ⊢
  rw [htasks, List.countP_set _ _ _ _ hlt, hget]
  simp only [hpc, hpc', Bool.not_false, Bool.not_true, if_true, Bool.false_eq_true, if_false]
  omega

/-- 残りが無ければ、mutex も空いている。 -/
theorem Conn.settled_of_pending_zero {s : Conn} (hp : s.pending = 0) :
    ∀ (t : Nat) (pc : Pc), s.tasks[t]? = some pc → pc.settled = true := fun _ _ ht =>
  Bool.eq_true_of_not_eq_false fun hpc => absurd hp (Conn.pending_pos ht hpc).ne'

section Step

variable {cfg : Config}

/-- 残りがあれば、協力的な run でそのうち一つが書き込み側を抜ける。 -/
theorem one_settles {s : Conn} (hs : Reachable cfg s) (hf : RequestsFit cfg.platform s)
    (hd : s.drops = []) (hp : s.pending ≠ 0) :
    ∃ es s', (∀ e ∈ es, e.Cooperative) ∧ run cfg s es = some s' ∧ s'.drops = [] ∧
      s'.pending + 1 = s.pending := by
  have hg := hs.guardInv
  cases hh : s.holder with
  | some t =>
    obtain ⟨pc, ht, hpc⟩ := hg.holds_of_holder t hh
    obtain ⟨es, s', hes, hrun, hd', -, pc', htasks, hset⟩ :=
      holder_release _ hs hf hd hh ht (Nat.lt_succ_self _)
    exact ⟨es, s', hes, hrun, hd', Conn.pending_set ht (Pc.settled_of_holdsGuard hpc) htasks hset⟩
  | none =>
    obtain ⟨pc, hmem, hpc⟩ := List.countP_pos_iff.mp (Nat.pos_of_ne_zero hp)
    obtain ⟨t, ht⟩ := List.mem_iff_getElem?.mp hmem
    have hpc : pc.settled = false := by simpa using hpc
    obtain ⟨k, rfl⟩ := Pc.locking_of_free hpc (hg.not_holds hh t pc ht)
    obtain ⟨hstep, hd₁, pc₁, htasks₁, hmove⟩ := lock_advanced hs hh hd ht
    rcases hmove with ⟨-, hset⟩ | ⟨hh₁, -, -⟩
    · exact ⟨[.lock t], _, by simp [Event.Cooperative], by simp [run, hstep], hd₁.trans hd,
        Conn.pending_set ht hpc htasks₁ hset⟩
    · have ht₁ : ((s.lockedBy t).acquired cfg.platform t k).tasks[t]? = some pc₁ := by
        rw [htasks₁]
        exact getElem?_set_of_some ht
      obtain ⟨es, s', hes, hrun, hd', -, pc', htasks, hset⟩ :=
        holder_release _ (.step _ hs hstep) (hf.of_cooperative (e := .lock t) trivial hstep) (hd₁.trans hd) hh₁ ht₁
          (Nat.lt_succ_self _)
      refine ⟨.lock t :: es, s', List.forall_mem_cons.mpr ⟨trivial, hes⟩,
        by rw [run_cons_of_step hstep]; exact hrun, hd', Conn.pending_set ht hpc ?_ hset⟩
      rw [htasks, htasks₁, Conn.lockedBy_tasks, List.set_set]

/--
**誤りの無い環境では、どの呼び出しも書き込み側を抜ける。**

guard が落とされていない届く状態で、task がまだ core に尋ねていない request がどれも、容量
いっぱいの buffer に足して `usize` を溢れないなら、協力的な一歩（mutex を取る、core が数を出す、
stream が 1 byte 以上を受け取る、`assert!` の前の問いが偽を返す）だけの run で、どの task も
呼び出しから返るか `wait_for_incoming` に着き、mutex は空き、guard は一度も落とされない。
-/
theorem write_side_completes {s : Conn} (hs : Reachable cfg s) (hf : RequestsFit cfg.platform s)
    (hd : s.drops = []) :
    ∃ es s', (∀ e ∈ es, e.Cooperative) ∧ run cfg s es = some s' ∧ s'.drops = [] ∧
      s'.holder = none ∧ ∀ (t : Nat) (pc : Pc), s'.tasks[t]? = some pc → pc.settled = true := by
  obtain ⟨n, hn⟩ : ∃ n, s.pending = n := ⟨_, rfl⟩
  induction n generalizing s with
  | zero =>
    refine ⟨[], s, by simp, rfl, hd, ?_, Conn.settled_of_pending_zero hn⟩
    cases hh : s.holder with
    | none => rfl
    | some t =>
      obtain ⟨pc, ht, hpc⟩ := hs.guardInv.holds_of_holder t hh
      cases (Conn.settled_of_pending_zero hn t pc ht).symm.trans (Pc.settled_of_holdsGuard hpc)
  | succ n ih =>
    obtain ⟨es, s₁, hes, hrun, hd₁, hp₁⟩ := one_settles hs hf hd (by omega)
    obtain ⟨es', s', hes', hrun', hd', hh', hset⟩ := ih (hs.run es hrun) (hf.run hes hrun) hd₁ (by omega)
    exact ⟨es ++ es', s', List.forall_mem_append.mpr ⟨hes, hes'⟩,
      by rw [run_append, hrun]; exact hrun', hd', hh', hset⟩

end Step

/-- NoOperation を送る呼び出し、それを待つ `wait_for_reply`、sync を送る `check_for_raw_error` が
mutex を待つ状態。 -/
theorem write_side_completes_threeCalls :
    let s : Conn := ⟨⟨[], [], false⟩, none, ⟨[], []⟩,
      [.locking (.send [[127, 0, 1, 0]] []), .locking (.flush (.incoming .waitForReply 1)),
        .locking (.sync 1)], [], []⟩
    RequestsFit Platform.x86_64 s ∧ s.drops = [] ∧
      ∃ es s', (∀ e ∈ es, e.Cooperative) ∧ run ⟨.x86_64, 43⟩ s es = some s' ∧
        s'.drops = [] ∧ s'.holder = none ∧
        ∀ (t : Nat) (pc : Pc), s'.tasks[t]? = some pc → pc.settled = true := by
  intro s
  have hf : RequestsFit Platform.x86_64 s := by
    intro pc hpc b hb
    simp only [s, List.mem_cons, List.mem_singleton, List.not_mem_nil, or_false] at hpc
    rcases hpc with rfl | rfl | rfl <;> simp only [Pc.unissued, Option.some.injEq, reduceCtorEq] at hb
    subst hb
    decide
  exact ⟨hf, rfl, @write_side_completes ⟨.x86_64, 43⟩ _ (Reachable.init.run
    [.sendRequest [[127, 0, 1, 0]] [] 262140, .wait .waitForReply 1 false,
      .wait .checkForRawError 1 true] rfl) hf rfl⟩

end X11rbAsync
