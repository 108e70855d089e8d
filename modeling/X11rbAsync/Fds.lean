import X11rbAsync.Ordering

/-!
# stream に届く fd

`send_request(bufs, fds)` の fd は、容量より小さい request なら `write_all_vectored` が byte と同じ
ときに buffer の fd の列へ積む（`write_buffer.0.fds.append(fds)`）。容量以上なら積まれず、
呼び出し元の `Vec` ごと捨てられる。flush の write は buffer の残りと buffer の fd を差し出し、
stream は 1 byte 以上受け取るとき fd を全部受け取る（`Wire.write`）。

## 観測

core が数を出した request ごとの fd は状態に残らないので、run に沿って記録する（`runFds`）。
数を出すのは guard を持つ task で、`send_request` ならその呼び出しの fd、`send_sync` の
GetInputFocus なら空である（`issuedFds`）。

## 不変条件

`FdInv` は次を言う。stream が受け取った fd は、ある `m` について先頭 `m` 個の request の fd
ちょうどで、stream の byte はその `m` 個の byte を越えない。guard が落とされていなければ、
stream と buffer の fd を繋ぐと、容量より小さい request の fd を数の順に繋いだもの（`shortFds`）に
なる。ただし flush の後に request を積む機械が走っている間は、その request の fd を除く。

ここから、stream が受け取る fd は `shortFds` の先頭であり
（`fds_prefix_of_short_requests`）、fd がその request の byte より後に届くことは無い
（`fds_sent_with_request`）。
-/

namespace X11rbAsync

/-! ## 機械の上の fd -/

section Machine

variable (cap : Nat)

/-- `write_all_vectored` が buffer の fd の列に積む fd。payload が容量以上なら積まれない。 -/
def keptFds (bytes : Bytes) (fds : List Fd) : List Fd := if bytes.length < cap then fds else []

/-- flush の後に buffer に積む fd。 -/
def FlushThen.pendingFds : FlushThen → List Fd
  | .write bufs fds => keptFds cap bufs.flatten fds
  | .ret => []

/-- 機械の様子ごとの fd の行き先。`before` はこの機械の request より前の request の fd、`k` は
flush の後にすることである。走っている flush は同じ `k` を持ち、stream と buffer の fd は
`before` である。返れば `k` の fd が足される。 -/
def MachineFds (before : List Fd) (k : FlushThen) (inner : WriteBufferInner) (wire : Wire) :
    WStatus → Prop
  | .running (.flush _ k') => k' = k ∧ wire.fds ++ inner.fds = before
  | .running (.direct _) => False
  | .done _ => wire.fds ++ inner.fds = before ++ k.pendingFds cap
  | .failed _ | .panicked => True

variable {p : Platform} {cap} {before : List Fd} {inner : WriteBufferInner} {wire : Wire}

theorem finishWrite_fds (hcap : cap ≤ p.usizeMax) (h : wire.fds ++ inner.fds = before) (bufs : List Bytes) (fds : List Fd) :
    MachineFds cap before (.write bufs fds) (finishWrite p cap inner bufs fds).1 wire
      (finishWrite p cap inner bufs fds).2 := by
  rw [finishWrite_eq_of_le cap hcap]
  have hlen := totalLen_eq_length_flatten bufs
  by_cases hs : totalLen bufs < cap
  · simp only [hs, if_true, MachineFds, FlushThen.pendingFds, keptFds, ← hlen, ← h,
      List.append_assoc]
  · simp only [hs, if_false]
    split
    · simp only [MachineFds, FlushThen.pendingFds, keptFds, ← hlen, hs, if_false, List.append_nil, h]
    · trivial

theorem finishFlush_fds (hcap : cap ≤ p.usizeMax) (h : wire.fds ++ inner.fds = before) :
    ∀ k : FlushThen, MachineFds cap before k (finishFlush p cap inner k).1 wire (finishFlush p cap inner k).2
  | .ret => by simpa [finishFlush, MachineFds, FlushThen.pendingFds] using h
  | .write bufs fds => finishWrite_fds hcap h bufs fds

theorem flushLoopHead_fds (hcap : cap ≤ p.usizeMax) (h : wire.fds ++ inner.fds = before) (position : Nat) (k : FlushThen) :
    MachineFds cap before k (flushLoopHead p cap inner position k).1 wire
      (flushLoopHead p cap inner position k).2 := by
  unfold flushLoopHead
  split
  · exact ⟨rfl, h⟩
  · split
    · exact finishFlush_fds hcap (show wire.fds ++ ({ inner with buffer := [] } : WriteBufferInner).fds = before
        from h) k
    · trivial

theorem flushImplStart_fds (hcap : cap ≤ p.usizeMax) (h : wire.fds ++ inner.fds = before) (k : FlushThen) :
    MachineFds cap before k (flushImplStart p cap inner k).1 wire (flushImplStart p cap inner k).2 := by
  unfold flushImplStart
  split
  · exact finishFlush_fds hcap h k
  · exact flushLoopHead_fds hcap h 0 k

theorem writeAllVectoredStart_fds (hcap : cap ≤ p.usizeMax) (h : wire.fds ++ inner.fds = before) (bufs : List Bytes)
    (fds : List Fd) :
    MachineFds cap before (.write bufs fds) (writeAllVectoredStart p cap inner bufs fds).1 wire
      (writeAllVectoredStart p cap inner bufs fds).2 := by
  rcases writeAllVectoredStart_cases cap inner bufs fds with heq | heq | heq <;> rw [heq]
  · trivial
  · exact flushImplStart_fds hcap h _
  · exact finishWrite_fds hcap h bufs fds

/-- flush の loop の一回で、stream は何も受け取らないか、buffer の残りの先頭と buffer の fd を
全部受け取る。 -/
theorem feed_wire (position : Nat) (k : FlushThen) (r : WriteResult) :
    (feed p cap inner wire (.flush position k) r).2.1 = wire ∨
      ∃ n, (feed p cap inner wire (.flush position k) r).2.1 =
        ⟨wire.bytes ++ (inner.buffer.drop position).take n, wire.fds ++ inner.fds⟩ := by
  cases r with
  | wouldBlock | fail => exact .inl rfl
  | accept n =>
    rw [feed_flush_accept]
    rcases Wire.write_cases wire (inner.buffer.drop position) inner.fds n with
      ⟨-, heq⟩ | ⟨hpos, heq⟩ <;> rw [heq]
    · exact .inl rfl
    · simp only [Nat.pos_iff_ne_zero.mp hpos, if_false]
      exact .inr ⟨_, rfl⟩

/-- stream の答えを受けても保たれる。1 byte 以上書けば buffer の fd は全部 stream に移る。 -/
theorem feed_fds (hcap : cap ≤ p.usizeMax) (h : wire.fds ++ inner.fds = before) (position : Nat) (k : FlushThen)
    (r : WriteResult) :
    MachineFds cap before k (feed p cap inner wire (.flush position k) r).1
      (feed p cap inner wire (.flush position k) r).2.1 (feed p cap inner wire (.flush position k) r).2.2 := by
  cases r with
  | wouldBlock => exact ⟨rfl, h⟩
  | fail kind => trivial
  | accept n =>
    rw [feed_flush_accept]
    rcases Wire.write_cases wire (inner.buffer.drop position) inner.fds n with
      ⟨-, heq⟩ | ⟨hpos, heq⟩ <;> rw [heq]
    · trivial
    · simp only [Nat.pos_iff_ne_zero.mp hpos, if_false]
      exact flushLoopHead_fds hcap (by simpa using h) _ k

end Machine

/-! ## request ごとの fd -/

/-- 容量より小さい request の fd を、sequence number の順に繋いだもの。 -/
def shortFds (issued : List Bytes) (fdss : List (List Fd)) : List Fd :=
  (List.zipWith (keptFds writeBufferCapacity) issued fdss).flatten

@[simp] theorem shortFds_nil : shortFds [] [] = [] := rfl

theorem shortFds_append {issued : List Bytes} {fdss : List (List Fd)}
    (hl : fdss.length = issued.length) (b : Bytes) (fds : List Fd) :
    shortFds (issued ++ [b]) (fdss ++ [fds]) = shortFds issued fdss ++ keptFds writeBufferCapacity b fds := by
  simp [shortFds, List.zipWith_append _ _ _ _ _ hl.symm]

/-- 先頭 `m` 個の request の fd は、全部の fd の先頭である。 -/
theorem shortFds_take_mono (issued : List Bytes) (fdss : List (List Fd)) (m : Nat) :
    shortFds (issued.take m) (fdss.take m) <+: shortFds issued fdss := by
  unfold shortFds
  rw [← List.take_zipWith]
  conv_rhs => rw [← List.take_append_drop m (List.zipWith _ issued fdss), List.flatten_append]
  exact List.prefix_append _ _

theorem shortRequests_mono {a b : List Bytes} (h : a <+: b) : shortRequests a <+: shortRequests b := by
  obtain ⟨c, rfl⟩ := h
  simp only [shortRequests, List.map_append, List.flatten_append]
  exact List.prefix_append _ _

theorem take_prefix_take {α : Type} (l : List α) {m n : Nat} (h : m ≤ n) : l.take m <+: l.take n := by
  have := List.take_prefix m (l.take n)
  rwa [List.take_take, inf_of_le_left h] at this

/-- flush の後に積む request の置き場所。`write` なら、それは最後に数を出した request で、
`issued'` と `fdss'` はそれより前の request とその fd である。 -/
def FlushThen.Last (issued : List Bytes) (fdss : List (List Fd)) (issued' : List Bytes)
    (fdss' : List (List Fd)) : FlushThen → Prop
  | .write bufs fds => issued = issued' ++ [bufs.flatten] ∧ fdss = fdss' ++ [fds]
  | .ret => issued = issued' ∧ fdss = fdss'

/-- 最後の request を分けると、byte も fd も、それより前のものの後にその request のものが続く。 -/
theorem FlushThen.Last.split {k : FlushThen} {issued issued' : List Bytes}
    {fdss fdss' : List (List Fd)} (h : k.Last issued fdss issued' fdss')
    (hl : fdss.length = issued.length) :
    fdss'.length = issued'.length ∧
      shortRequests issued = shortRequests issued' ++ k.pending writeBufferCapacity ∧
      shortFds issued fdss = shortFds issued' fdss' ++ k.pendingFds writeBufferCapacity := by
  cases k with
  | write bufs fds =>
    obtain ⟨rfl, rfl⟩ := h
    have hl' : fdss'.length = issued'.length := by simpa using hl
    exact ⟨hl', shortRequests_append _ _, shortFds_append hl' _ _⟩
  | ret =>
    obtain ⟨rfl, rfl⟩ := h
    exact ⟨hl, by simp [FlushThen.pending], by simp [FlushThen.pendingFds]⟩

/-- stream は先頭 `m` 個の request の fd をちょうど受け取り、byte はその `m` 個の byte を越えて
受け取っていない。 -/
def SentUpTo (issued : List Bytes) (fdss : List (List Fd)) (wire : Wire) (m : Nat) : Prop :=
  wire.fds = shortFds (issued.take m) (fdss.take m) ∧
    wire.bytes.length ≤ (shortRequests (issued.take m)).length

/-- 数を出した request を後ろに足しても、先頭 `m` 個は変わらない。 -/
theorem SentUpTo.append {issued : List Bytes} {fdss : List (List Fd)} {wire : Wire} {m : Nat}
    (h : SentUpTo issued fdss wire m) (hm : m ≤ issued.length) (hl : fdss.length = issued.length)
    (x : List Bytes) (y : List (List Fd)) : SentUpTo (issued ++ x) (fdss ++ y) wire m := by
  rwa [SentUpTo, List.take_append_of_le_length hm, List.take_append_of_le_length (hl ▸ hm)]

/-- flush の write が 1 byte 以上受け取った後、stream は machine の request より前の request の fd を
ちょうど受け取っていて、byte はそれらを越えない。 -/
theorem FlushThen.Last.sentUpTo {k : FlushThen} {issued issued' : List Bytes}
    {fdss fdss' : List (List Fd)} (h : k.Last issued fdss issued' fdss')
    (hl : fdss.length = issued.length) {wire : Wire} (hf : wire.fds = shortFds issued' fdss')
    (hb : wire.bytes.length ≤ (shortRequests issued').length) :
    ∃ m ≤ issued.length, SentUpTo issued fdss wire m := by
  have hl' := (h.split hl).1
  cases k with
  | write bufs fds =>
    obtain ⟨rfl, rfl⟩ := h
    refine ⟨issued'.length, by simp, ?_⟩
    rw [SentUpTo, List.take_left' rfl, List.take_left' hl']
    exact ⟨hf, hb⟩
  | ret =>
    obtain ⟨rfl, rfl⟩ := h
    refine ⟨issued.length, le_rfl, ?_⟩
    rw [SentUpTo, List.take_length, ← hl, List.take_length]
    exact ⟨hf, hb⟩

/-! ## 観測 -/

/-- 観測: 一歩 `s → s'` で core が数を出した request の fd。数を出すのは guard を持つ task で、
`send_request` の request ならその呼び出しの fd、`send_sync` の GetInputFocus なら空である。 -/
def issuedFds (s s' : Conn) : List (List Fd) :=
  if s.issued.length < s'.issued.length then
    match s.holder.bind fun t => s.tasks[t]? with
    | some (.sendIssue _ fds) => [fds]
    | _ => [[]]
  else []

section Record

variable (cfg : Config)

/-- 観測: run の中で core が数を出した request の fd を、数の順に並べたもの。 -/
def runFds (s : Conn) : List Event → List (List Fd)
  | [] => []
  | e :: es =>
    match step cfg s e with
    | some s' => issuedFds s s' ++ runFds s' es
    | none => []

variable {cfg}

@[simp] theorem runFds_nil (s : Conn) : runFds cfg s [] = [] := rfl

theorem runFds_cons_of_step {s s' : Conn} {e : Event} (h : step cfg s e = some s') (es : List Event) :
    runFds cfg s (e :: es) = issuedFds s s' ++ runFds cfg s' es := by
  simp [runFds, h]

end Record

theorem issuedFds_of_issued_eq {s s' : Conn} (h : s'.issued = s.issued) : issuedFds s s' = [] := by
  simp [issuedFds, h]

/-- `send_request` の request に数を出した一歩は、その呼び出しの fd を記録する。 -/
theorem issuedFds_of_sendIssue {s s' : Conn} {t : Nat} {bufs : List Bytes} {fds : List Fd}
    (hh : s.holder = some t) (ht : s.tasks[t]? = some (.sendIssue bufs fds))
    (hs : s'.issued = s.issued ++ [bufs.flatten]) : issuedFds s s' = [fds] := by
  simp [issuedFds, hs, hh, ht]

/-- `send_sync` の request に数を出した一歩は、空の fd を記録する。 -/
theorem issuedFds_of_syncIssue {s s' : Conn} {t : Nat} {k : WriteCont} {b : Bytes}
    (hh : s.holder = some t) (ht : s.tasks[t]? = some (.syncIssue k))
    (hs : s'.issued = s.issued ++ [b]) : issuedFds s s' = [[]] := by
  simp [issuedFds, hs, hh, ht]

/-! ## 機械を動かす一歩と core -/

namespace Conn

@[simp] theorem resume_issued (s : Conn) (t : Nat) (k : Cont) : (s.resume t k).issued = s.issued := by
  rcases k with (_ | _ | _) | (_ | _) <;> rfl

@[simp] theorem settle_issued (s : Conn) (t : Nat) (k : Cont) (suspended : Bool) (st : WStatus) :
    (s.settle t k suspended st).issued = s.issued := by
  cases st <;> simp [settle]

@[simp] theorem resume_wire (s : Conn) (t : Nat) (k : Cont) : (s.resume t k).wire = s.wire := by
  rcases k with (_ | _ | _) | (_ | _) <;> rfl

@[simp] theorem settle_wire (s : Conn) (t : Nat) (k : Cont) (suspended : Bool) (st : WStatus) :
    (s.settle t k suspended st).wire = s.wire := by
  cases st <;> simp [settle]

end Conn

/-! ## 系の上の fd -/

/-- guard を持つ task の位置に応じた fd の並び。flush の機械を動かしていれば、stream と buffer の
fd は、flush の後に積む request より前の request の fd である。 -/
def Pc.FdsOk (issued : List Bytes) (fdss : List (List Fd)) (inner : WriteBufferInner) (wire : Wire) :
    Pc → Prop
  | .writing (.flush _ k) _ _ => ∃ issued' fdss', k.Last issued fdss issued' fdss' ∧
      wire.fds ++ inner.fds = shortFds issued' fdss'
  | _ => wire.fds ++ inner.fds = shortFds issued fdss

/-- machine を動かしていない位置では、stream と buffer の fd が `shortFds` になる。 -/
theorem Pc.fdsOk_of_machine {issued : List Bytes} {fdss : List (List Fd)} {inner : WriteBufferInner}
    {wire : Wire} {pc : Pc} (hm : pc.machine = none) :
    pc.FdsOk issued fdss inner wire ↔ wire.fds ++ inner.fds = shortFds issued fdss := by
  cases pc <;> first | rfl | cases hm

/-- 系の上の fd の並び。`fdss` は数を出した request ごとの fd である。 -/
structure FdInv (s : Conn) (fdss : List (List Fd)) : Prop where
  length : fdss.length = s.issued.length
  /-- stream が受け取った fd は先頭 `m` 個の request の fd で、byte はその `m` 個を越えない。 -/
  sent : ∃ m ≤ s.issued.length, SentUpTo s.issued fdss s.wire m
  /-- guard が落とされていなければ、guard を持つ task の位置が fd の並びを決める。 -/
  held : s.drops = [] → ∀ t pc, s.holder = some t → s.tasks[t]? = some pc →
    pc.FdsOk s.issued fdss s.writeBuffer s.wire
  /-- guard が落とされておらず mutex が空いていれば、stream と buffer の fd を繋ぐと
  `shortFds` になる。 -/
  free : s.drops = [] → s.holder = none →
    s.wire.fds ++ s.writeBuffer.fds = shortFds s.issued fdss

namespace FdInv

variable {s : Conn} {fdss : List (List Fd)}

theorem init : FdInv Conn.init [] :=
  ⟨rfl, ⟨0, le_rfl, by simp [SentUpTo, Conn.init]⟩, by simp [Conn.init], by simp [Conn.init]⟩

/-- guard が落とされた後は、数の記録と stream の fd だけが残る。 -/
theorem of_dropped (hl : fdss.length = s.issued.length)
    (hs : ∃ m ≤ s.issued.length, SentUpTo s.issued fdss s.wire m) (hd : s.drops ≠ []) :
    FdInv s fdss :=
  ⟨hl, hs, fun h => absurd h hd, fun h => absurd h hd⟩

/-- 書かない一歩の後。stream は同じで、数は後ろに足されるだけである。 -/
theorem sent_of_wire (hf : FdInv s fdss) (s' : Conn) (hw : s'.wire = s.wire) {x : List Bytes}
    {y : List (List Fd)} (hi : s'.issued = s.issued ++ x) :
    ∃ m ≤ s'.issued.length, SentUpTo s'.issued (fdss ++ y) s'.wire m := by
  obtain ⟨m, hm, hsent⟩ := hf.sent
  refine ⟨m, by rw [hi, List.length_append]; omega, ?_⟩
  rw [hi, hw]
  exact hsent.append hm hf.length x y

theorem spawn (hf : FdInv s fdss) (hg : GuardInv s) (pc : Pc) : FdInv (s.spawn pc) fdss where
  length := hf.length
  sent := by simpa using hf.sent_of_wire (s.spawn pc) rfl (x := []) (y := []) (by simp)
  held hd t x ht hx := by
    obtain ⟨pc₀, h₀, -⟩ := hg.holds_of_holder t ht
    rw [Conn.spawn_tasks, getElem?_append_of_some h₀] at hx
    cases hx
    exact hf.held hd t _ ht h₀
  free := hf.free

/-- guard を持たない task の位置を置き換える。 -/
theorem setPc_free (hf : FdInv s fdss) (hg : GuardInv s) {t : Nat} {pc₀ : Pc}
    (ht : s.tasks[t]? = some pc₀) (h₀ : pc₀.holdsGuard = false) (pc : Pc) :
    FdInv (s.setPc t pc) fdss where
  length := hf.length
  sent := hf.sent
  held hd u x hu hx := by
    rw [Conn.setPc_tasks, List.getElem?_set_ne (hg.ne_of_holder ht h₀ hu)] at hx
    exact hf.held hd u x hu hx
  free := hf.free

/-- 空いた mutex を task `t` が取る。 -/
theorem lockedBy (hf : FdInv s fdss) (hd : s.drops = []) (hh : s.holder = none) {t : Nat}
    {k : LockThen} (ht : s.tasks[t]? = some (.locking k)) : FdInv (s.lockedBy t) fdss where
  length := hf.length
  sent := hf.sent
  held _ u x hu hx := by
    rw [Conn.lockedBy_holder] at hu
    cases hu
    rw [Conn.lockedBy_tasks, ht] at hx
    cases hx
    exact hf.free hd hh
  free _ h := by cases h

/-- guard を持つ task が位置 `pc` に移り、その位置の fd の並びが成り立つ。 -/
theorem setPc_holder (hl : fdss.length = s.issued.length)
    (hs : ∃ m ≤ s.issued.length, SentUpTo s.issued fdss s.wire m) {t : Nat} (hh : s.holder = some t)
    {pc : Pc} (hp : pc.FdsOk s.issued fdss s.writeBuffer s.wire) : FdInv (s.setPc t pc) fdss where
  length := hl
  sent := hs
  held _ u x hu hx := by
    rw [Conn.setPc_holder, hh] at hu
    cases hu
    rw [Conn.setPc_tasks] at hx
    exact eq_of_getElem?_set_self hx ▸ hp
  free _ hh' := by rw [Conn.setPc_holder, hh] at hh'; cases hh'

/-- mutex を放して位置を移す。 -/
theorem unlock_setPc (hl : fdss.length = s.issued.length)
    (hs : ∃ m ≤ s.issued.length, SentUpTo s.issued fdss s.wire m)
    (hw : s.wire.fds ++ s.writeBuffer.fds = shortFds s.issued fdss) (t : Nat) (pc : Pc) :
    FdInv (s.unlock.setPc t pc) fdss where
  length := hl
  sent := hs
  held _ _ _ h := by cases h
  free _ _ := hw

end FdInv

namespace HeldBy

variable {s : Conn} {t : Nat} {fdss : List (List Fd)}

/-- machine を動かしていない guard の持ち主の下では、stream と buffer の fd を繋ぐと `shortFds` になる。 -/
theorem fds_idle (h : HeldBy s t) (hf : FdInv s fdss) (hidle : s.tasks[t]?.bind Pc.machine = none) :
    s.wire.fds ++ s.writeBuffer.fds = shortFds s.issued fdss := by
  obtain ⟨pc, ht⟩ : ∃ pc, s.tasks[t]? = some pc := ⟨_, List.getElem?_eq_getElem h.lt⟩
  rw [ht] at hidle
  exact (Pc.fdsOk_of_machine hidle).mp (hf.held h.drops t pc h.holder ht)

/-- guard を持ったまま、machine を動かさない位置に移る。 -/
theorem fds_setPc (h : HeldBy s t) (hf : FdInv s fdss) {pc : Pc} (hm : pc.machine = none)
    (hidle : s.tasks[t]?.bind Pc.machine = none) : FdInv (s.setPc t pc) fdss :=
  FdInv.setPc_holder hf.length hf.sent h.holder ((Pc.fdsOk_of_machine hm).mpr (h.fds_idle hf hidle))

/-- machine の様子を task `t` に映す。`inner` と `wire` は machine が動かした buffer と stream で、
machine の request より前の request は `issued'` と `fdss'` である。 -/
theorem fds_settle (h : HeldBy s t) {issued' : List Bytes} {fdss' : List (List Fd)} {k : FlushThen}
    (hk : k.Last s.issued fdss issued' fdss') (hl : fdss.length = s.issued.length)
    {inner : WriteBufferInner} {wire : Wire}
    (hs : ∃ m ≤ s.issued.length, SentUpTo s.issued fdss wire m) {st : WStatus}
    (hm : MachineFds writeBufferCapacity (shortFds issued' fdss') k inner wire st) (c : Cont)
    (suspended : Bool) : FdInv ((s.withIo inner wire).settle t c suspended st) fdss := by
  cases st with
  | running m =>
    cases m with
    | flush position k' =>
      obtain ⟨rfl, hw⟩ := hm
      exact FdInv.setPc_holder (s := s.withIo inner wire) hl hs h.holder ⟨issued', fdss', hk, hw⟩
    | direct d => exact hm.elim
  | done fds =>
    have hw : wire.fds ++ inner.fds = shortFds s.issued fdss := by
      rw [(hk.split hl).2.2]
      exact hm
    rcases c with (_ | _ | _) | (_ | _)
    · exact FdInv.unlock_setPc (s := s.withIo inner wire) hl hs hw _ _
    · exact FdInv.setPc_holder (s := s.withIo inner wire) hl hs h.holder hw
    · exact FdInv.setPc_holder (s := s.withIo inner wire) hl hs h.holder hw
    · exact FdInv.unlock_setPc (s := s.withIo inner wire) hl hs hw _ _
    · exact FdInv.unlock_setPc (s := s.withIo inner wire) hl hs hw _ _
  | failed e => exact FdInv.of_dropped hl hs (by simp [Conn.settle])
  | panicked => exact FdInv.of_dropped hl hs (by simp [Conn.settle])

/-- guard の持ち主が `flush_impl` を始める。 -/
theorem fds_startFlush {p : Platform} (h : HeldBy s t) (hf : FdInv s fdss)
    (hidle : s.tasks[t]?.bind Pc.machine = none) (next : AfterFlush) :
    FdInv (s.startFlush p t next) fdss :=
  h.fds_settle (k := .ret) ⟨rfl, rfl⟩ hf.length hf.sent
    (flushImplStart_fds (capacity_le_usizeMax p) (h.fds_idle hf hidle) _) _ _

/-- core が request `b` に数を出し、guard の持ち主がその `write_all_vectored` を始める。記録には
その呼び出しの fd が足される。 -/
theorem fds_startWrite {p : Platform} (h : HeldBy s t) (hf : FdInv s fdss)
    (hidle : s.tasks[t]?.bind Pc.machine = none) {b : Bytes} {bufs : List Bytes} (hb : b = bufs.flatten)
    (fds : List Fd) (k : WriteCont) : FdInv ((s.issue b).startWrite p t bufs fds k) (fdss ++ [fds]) :=
  (h.issue b).fds_settle (k := .write bufs fds) ⟨by rw [hb]; rfl, rfl⟩ (by simp [hf.length])
    (hf.sent_of_wire (s.issue b) rfl rfl)
    (writeAllVectoredStart_fds (capacity_le_usizeMax p) (h.fds_idle hf hidle) bufs fds) _ _

end HeldBy

section Step

variable {cfg : Config}

/-- 一歩は fd の並びを保つ。core が数を出す一歩では、その request の fd が記録に足される。 -/
theorem FdInv.of_step {s s' : Conn} (hg : GuardInv s) (ho : OrderInv s) {fdss : List (List Fd)}
    (hf : FdInv s fdss) {e : Event} (h : step cfg s e = some s') :
    FdInv s' (fdss ++ issuedFds s s') := by
  have same : s'.issued = s.issued → FdInv s' fdss → FdInv s' (fdss ++ issuedFds s s') :=
    fun hi hf' => by rwa [issuedFds_of_issued_eq hi, List.append_nil]
  by_cases hd : s.drops = []
  · have hidle : ∀ {t : Nat} {pc : Pc}, s.tasks[t]? = some pc → pc.machine = none →
        s.tasks[t]?.bind Pc.machine = none := fun ht hm => by simp [ht, hm]
    have dropped : ∀ (t : Nat) (e : Ending), FdInv (s.dropGuard t e) fdss := fun t e =>
      FdInv.of_dropped hf.length hf.sent (by simp)
    cases step_moves h with
    | spawn pc _ => exact same rfl (hf.spawn hg pc)
    | lockFailed t k _ ht _ => exact same rfl (hf.setPc_free hg ht rfl _)
    | lock t k hh ht hc =>
      have hb := hg.lockedBy hh hc ht
      have hf' := hf.lockedBy hd hh ht
      have hidle' : (s.lockedBy t).tasks[t]?.bind Pc.machine = none := hidle ht rfl
      cases k with
      | send bufs fds => exact same rfl (hb.fds_setPc hf' rfl hidle')
      | flush next =>
        exact same (by simp [Conn.acquired, Conn.startFlush]) (hb.fds_startFlush hf' hidle' next)
      | sync seq => exact same rfl (hb.fds_setPc hf' rfl hidle')
    | issueSend t bufs fds ht =>
      have hb := hg.heldBy ht rfl
      rw [issuedFds_of_sendIssue hb.holder ht (by simp [Conn.startWrite])]
      exact hb.fds_startWrite hf (hidle ht rfl) rfl fds _
    | refuseSend t bufs fds ht => exact same rfl ((hg.heldBy ht rfl).fds_setPc hf rfl (hidle ht rfl))
    | issueSync t k ht =>
      have hb := hg.heldBy ht rfl
      rw [issuedFds_of_syncIssue hb.holder ht (b := cfg.syncRequest) (by simp [Conn.startWrite])]
      exact hb.fds_startWrite hf (hidle ht rfl) (by simp) [] k
    | refuseSync t _ _ => exact same rfl (dropped t _)
    | answer t m suspended k r ht =>
      have hb := hg.heldBy ht rfl
      refine same (by simp) ?_
      have hp := ho.held hd t _ hb.holder ht
      cases m with
      | direct d => exact hp.elim
      | flush position k' =>
        obtain ⟨issued', fdss', hk, hw⟩ := hf.held hd t _ hb.holder ht
        refine hb.fds_settle hk hf.length ?_
          (feed_fds (capacity_le_usizeMax cfg.platform) hw position k' r) k _
        rcases feed_wire position k' r with heq | ⟨n, heq⟩ <;> rw [heq]
        · exact hf.sent
        · obtain ⟨w, hw₁, hw₂⟩ := hp.sent
          have hcut : w ++ s.writeBuffer.buffer = shortRequests issued' := by
            rw [(hk.split hf.length).2.1] at hw₂
            exact List.append_cancel_right hw₂
          refine hk.sentUpTo hf.length hw ?_
          have := hp.position_le
          rw [← hcut]
          simp only [hw₁, List.length_append, List.length_take, List.length_drop]
          omega
    | assertFails t _ _ => exact same rfl (dropped t _)
    | assertHolds t seq ht =>
      exact same (by simp [Conn.startFlush]) ((hg.heldBy ht rfl).fds_startFlush hf (hidle ht rfl) _)
    | abandonLocking t _ ht => exact same rfl (hf.setPc_free hg ht rfl _)
    | abandonIncoming t _ _ ht => exact same rfl (hf.setPc_free hg ht rfl _)
    | abandonSuspended t _ _ _ => exact same rfl (dropped t _)
  · obtain ⟨hiss, hw, hd'⟩ := hg.step_of_dropped hd h
    exact same hiss (FdInv.of_dropped (by rw [hiss]; exact hf.length) (by rw [hiss, hw]; exact hf.sent) hd')

/-- 届く状態から走らせても fd の並びは保たれ、記録には run の中で数を出した request の fd が
足される。 -/
theorem FdInv.run {s : Conn} (hs : Reachable cfg s) {fdss : List (List Fd)} (hf : FdInv s fdss) :
    ∀ {es : List Event} {s' : Conn}, X11rbAsync.run cfg s es = some s' →
      FdInv s' (fdss ++ runFds cfg s es)
  | [], _, h => by cases h; simpa using hf
  | e :: es, _, h => by
    obtain ⟨s₁, h1, h2⟩ := run_cons_some h
    have ho := hs.orderInv
    rw [runFds_cons_of_step h1, ← List.append_assoc]
    exact FdInv.run (.step e hs h1) (hf.of_step ho.1 ho.2 h1) h2

theorem FdInv.of_run {es : List Event} {s : Conn} (h : X11rbAsync.run cfg Conn.init es = some s) :
    FdInv s (runFds cfg Conn.init es) := by
  simpa using FdInv.init.run Reachable.init h

/--
**stream が受け取る fd は、容量より小さい request の fd を数の順に並べたものの先頭である。**

初めの状態からのどの run でも、core が数を出した request ごとの fd を数の順に並べると
（`send_request` ならその呼び出しの fd、`send_sync` なら空）、stream が受け取った fd は、
そのうち 16384 byte より小さい request の fd を繋いだものの先頭である。guard が落とされておらず
mutex が空いていれば、stream の fd の後に buffer の fd を繋ぐと、ちょうどそれになる。
16384 byte 以上の request の fd は、どこにも現れない。
-/
theorem fds_prefix_of_short_requests {es : List Event} {s : Conn}
    (h : X11rbAsync.run cfg Conn.init es = some s) :
    (runFds cfg Conn.init es).length = s.issued.length ∧
      s.wire.fds <+: shortFds s.issued (runFds cfg Conn.init es) ∧
      (s.drops = [] → s.holder = none →
        s.wire.fds ++ s.writeBuffer.fds = shortFds s.issued (runFds cfg Conn.init es)) := by
  have hf := FdInv.of_run h
  obtain ⟨m, -, hfds, -⟩ := hf.sent
  exact ⟨hf.length, hfds ▸ shortFds_take_mono _ _ m, hf.free⟩

/--
**fd は、その request の byte より後に stream に届かない。**

初めの状態からのどの run でも、stream が先頭 `n` 個の request（数の順。容量以上のものは byte を
持たない）の byte より多くを受け取っていれば、先頭 `n + 1` 個の request の fd は全部 stream に
届いている。request の最初の byte が届くときには、その request の fd はもう届いている。
-/
theorem fds_sent_with_request {es : List Event} {s : Conn}
    (h : X11rbAsync.run cfg Conn.init es = some s) (n : Nat)
    (hn : (shortRequests (s.issued.take n)).length < s.wire.bytes.length) :
    shortFds (s.issued.take (n + 1)) ((runFds cfg Conn.init es).take (n + 1)) <+: s.wire.fds := by
  obtain ⟨m, -, hfds, hbytes⟩ := (FdInv.of_run h).sent
  have hnm : n + 1 ≤ m := by
    by_contra hlt
    have := (shortRequests_mono (take_prefix_take s.issued (show m ≤ n by omega))).length_le
    omega
  have := shortFds_take_mono (s.issued.take m) ((runFds cfg Conn.init es).take m) (n + 1)
  rwa [List.take_take, List.take_take, inf_of_le_left hnm, ← hfds] at this

end Step

/-- fd 3 を持つ NoOperation を送って flush すると、stream は 4 byte と fd 3 を受け取る。 -/
theorem fds_prefix_of_short_requests_withFd :
    let es : List Event := [.sendRequest [[127, 0, 1, 0]] [3] 262140, .lock 0, .issue 0 true, .flush,
      .lock 1, .answer 1 (.accept 4)]
    let s : Conn := ⟨⟨[], [], false⟩, none, ⟨[127, 0, 1, 0], [3]⟩,
      [.finished (.returned (some 1)), .finished (.returned none)], [[127, 0, 1, 0]], []⟩
    run ⟨.x86_64, 43⟩ Conn.init es = some s ∧
      ((runFds ⟨.x86_64, 43⟩ Conn.init es).length = s.issued.length ∧
        s.wire.fds <+: shortFds s.issued (runFds ⟨.x86_64, 43⟩ Conn.init es) ∧
        (s.drops = [] → s.holder = none →
          s.wire.fds ++ s.writeBuffer.fds = shortFds s.issued (runFds ⟨.x86_64, 43⟩ Conn.init es))) :=
  ⟨rfl, fds_prefix_of_short_requests rfl⟩

/-- 同じ run で、stream が最初の request の byte を受け取ったとき、その fd 3 も受け取っている。 -/
theorem fds_sent_with_request_withFd :
    let es : List Event := [.sendRequest [[127, 0, 1, 0]] [3] 262140, .lock 0, .issue 0 true, .flush,
      .lock 1, .answer 1 (.accept 4)]
    let s : Conn := ⟨⟨[], [], false⟩, none, ⟨[127, 0, 1, 0], [3]⟩,
      [.finished (.returned (some 1)), .finished (.returned none)], [[127, 0, 1, 0]], []⟩
    run ⟨.x86_64, 43⟩ Conn.init es = some s ∧
      (shortRequests (s.issued.take 0)).length < s.wire.bytes.length ∧
      shortFds (s.issued.take 1) ((runFds ⟨.x86_64, 43⟩ Conn.init es).take 1) <+: s.wire.fds :=
  ⟨rfl, by decide, @fds_sent_with_request ⟨.x86_64, 43⟩ [.sendRequest [[127, 0, 1, 0]] [3] 262140,
    .lock 0, .issue 0 true, .flush, .lock 1, .answer 1 (.accept 4)] _ rfl 0 (by decide)⟩

end X11rbAsync
