import X11rbAsync.Basic

/-!
# 最大 request 長の取り決め

`RustConnection::max_request_bytes` は `Mutex<MaxRequestBytes>` で、
`prefetch_len_impl` / `prefetch_maximum_request_bytes` / `maximum_request_bytes` が触る。
ここでは、この三つを何本でも並行に走らせた系を状態遷移で表す。

## 系

状態は mutex の中身、mutex を持つ task、呼び出しごとの位置（`LenPc`）、接続に送った
Enable request の sequence number である。一歩（`LenEvent`）は、呼び出しの開始、mutex の獲得、
`bigreq::enable` の完了、Enable の reply の到着のどれかで、どの順に起きてもよい。途中で捨てられる
呼び出しは考えない（捨てられると `enable` を送ったまま `Unknown` に戻りうる）。
`maximum_request_bytes` の `unreachable!("We are in the Some branch")` も位置（`LenPc.panicked`）
として残し、到達できる状態ではそこにいる task が無いことを示す。

Enable の reply が運ぶ `maximum_request_length` と、setup の `maximum_request_length` は
接続ごとに決まった値なので、section の変数にする。

## 進み

呼び出しを足さない一歩は、どれも返るまでに残る段数の和（`LenState.rank`）を減らす。
返っていない呼び出しがあれば、mutex の持ち主の一歩か、mutex を取る一歩が起こせる
（`LenInv.enabled`）。だから Enable の reply が届く限り、どの呼び出しも返る
（`LenReachable.finishes`）。
-/

namespace X11rbAsync

/-- 一つの request で送れる最大の byte 数（`MaxRequestBytes`）。 -/
inductive MaxRequestBytes where
  | unknown
  | known (n : Nat)
  | requested (cookie : Option Nat)
  deriving DecidableEq, Repr

/-- 語数を byte 数にする。`try_into().ok().and_then(|x| x.checked_mul(4)).unwrap_or(usize::MAX)`。 -/
def Platform.wordsToBytes (p : Platform) (words : Nat) : Nat :=
  ((p.tryIntoUsize words).bind fun x => p.checkedMul x 4).getD p.usizeMax

/-- 語数の 4 倍を `usize::MAX` で飽和させたものである。 -/
theorem Platform.wordsToBytes_eq (p : Platform) (words : Nat) :
    p.wordsToBytes words = min (words * 4) p.usizeMax := by
  unfold Platform.wordsToBytes Platform.tryIntoUsize Platform.checkedMul
  by_cases h1 : words ≤ p.usizeMax
  · by_cases h2 : words * 4 ≤ p.usizeMax
    · simp [h1, h2]
    · simp [h1, h2]; omega
  · simp [h1]; omega

/-- どちらの呼び出しか。 -/
inductive LenCall where
  | prefetchMaximumRequestBytes
  | maximumRequestBytes
  deriving DecidableEq, Repr

/-- 呼び出しの途中の位置。 -/
inductive LenPc where
  /-- `prefetch_len_impl` が `max_request_bytes.lock()` を待つ。 -/
  | locking (call : LenCall)
  /-- `bigreq::enable(self).await` の途中。mutex を持つ。 -/
  | enabling (call : LenCall)
  /-- `maximum_request_bytes` が `cookie.reply().await` の途中。mutex を持つ。 -/
  | awaitingReply (seq : Nat)
  /-- 返った。`maximum_request_bytes` は値を返し、`prefetch_maximum_request_bytes` は `()` を
  返す（`none`）。 -/
  | done (call : LenCall) (value : Option Nat)
  /-- `maximum_request_bytes` が `unreachable!` に着いて panic した。guard は drop される。 -/
  | panicked
  deriving DecidableEq, Repr

/-- mutex を持っている位置。 -/
def LenPc.holdsLock : LenPc → Bool
  | .enabling _ | .awaitingReply _ => true
  | _ => false

/-- 返った（値を返したか、panic した）。 -/
def LenPc.finished : LenPc → Bool
  | .done _ _ | .panicked => true
  | _ => false

/-- 返るまでに残る段数。 -/
def LenPc.rank : LenPc → Nat
  | .locking _ => 3
  | .enabling _ => 2
  | .awaitingReply _ => 1
  | .done _ _ | .panicked => 0

/-- 系の状態。 -/
structure LenState where
  maxRequestBytes : MaxRequestBytes
  holder : Option Nat
  tasks : List LenPc
  /-- 接続に送った Enable request の sequence number。`bigreq::enable` が `Ok` を返せば、その
  request は送られている。 -/
  sent : List Nat
  deriving DecidableEq, Repr

/-- 接続を作った直後（`MaxRequestBytes::Unknown`）。 -/
def LenState.init : LenState := ⟨.unknown, none, [], []⟩

/-- 一歩。 -/
inductive LenEvent where
  /-- 呼び出しが始まる。 -/
  | call (c : LenCall)
  /-- task `t` が mutex を取る（空いているときだけ）。 -/
  | lock (t : Nat)
  /-- task `t` の `bigreq::enable` が返る。送れたなら `some seq`、`Err` なら `none`。 -/
  | enableDone (t : Nat) (cookie : Option Nat)
  /-- task `t` が待つ Enable の reply が届く。 -/
  | reply (t : Nat)
  deriving DecidableEq, Repr

namespace LenState

def setPc (s : LenState) (t : Nat) (pc : LenPc) : LenState := { s with tasks := s.tasks.set t pc }

/-- 返って mutex を放す。 -/
def finish (s : LenState) (t : Nat) (pc : LenPc) : LenState := { s.setPc t pc with holder := none }

/-- まだ返っていない呼び出しに残る段数の和。 -/
def rank (s : LenState) : Nat := (s.tasks.map LenPc.rank).sum

@[simp] theorem setPc_maxRequestBytes (s : LenState) (t : Nat) (pc : LenPc) :
    (s.setPc t pc).maxRequestBytes = s.maxRequestBytes := rfl
@[simp] theorem setPc_holder (s : LenState) (t : Nat) (pc : LenPc) :
    (s.setPc t pc).holder = s.holder := rfl
@[simp] theorem setPc_sent (s : LenState) (t : Nat) (pc : LenPc) :
    (s.setPc t pc).sent = s.sent := rfl
@[simp] theorem setPc_tasks (s : LenState) (t : Nat) (pc : LenPc) :
    (s.setPc t pc).tasks = s.tasks.set t pc := rfl

end LenState

section Step

variable (p : Platform) (setupMax replyMax : Nat)

/-- `prefetch_len_impl` が guard を返した後。`maximum_request_bytes` は中身で分かれる。 -/
def afterPrefetch (s : LenState) (t : Nat) : LenCall → LenState
  | .prefetchMaximumRequestBytes => s.finish t (.done .prefetchMaximumRequestBytes none)
  | .maximumRequestBytes =>
    match s.maxRequestBytes with
    | .known len => s.finish t (.done .maximumRequestBytes (some len))
    -- unreachable!("We are in the Some branch")
    | .unknown => s.finish t .panicked
    | .requested none => s.finish t (.done .maximumRequestBytes (some (p.wordsToBytes setupMax)))
    | .requested (some seq) => s.setPc t (.awaitingReply seq)

/-- 系の一歩。起きえない一歩は `none`。 -/
def lenStep (s : LenState) : LenEvent → Option LenState
  | .call c => some { s with tasks := s.tasks ++ [.locking c] }
  | .lock t =>
    match s.tasks[t]? with
    | some (.locking c) =>
      if s.holder.isSome then none
      else if s.maxRequestBytes = .unknown then
        some ({ s with holder := some t }.setPc t (.enabling c))
      else some (afterPrefetch p setupMax { s with holder := some t } t c)
    | _ => none
  | .enableDone t cookie =>
    match s.tasks[t]? with
    | some (.enabling c) =>
      some (afterPrefetch p setupMax
        { s with maxRequestBytes := .requested cookie, sent := s.sent ++ cookie.toList } t c)
    | _ => none
  | .reply t =>
    match s.tasks[t]? with
    | some (.awaitingReply _) =>
      some ({ s with maxRequestBytes := .known (p.wordsToBytes replyMax) }.finish t
        (.done .maximumRequestBytes (some (p.wordsToBytes replyMax))))
    | _ => none

/-- 一歩ずつ進める。 -/
def lenRun (s : LenState) : List LenEvent → Option LenState
  | [] => some s
  | e :: es => (lenStep p setupMax replyMax s e).bind fun s' => lenRun s' es

/-- 初めから何歩か進んで着く状態。 -/
inductive LenReachable : LenState → Prop where
  | init : LenReachable LenState.init
  | step {s s' : LenState} (e : LenEvent) :
      LenReachable s → lenStep p setupMax replyMax s e = some s' → LenReachable s'

variable {p setupMax replyMax}

theorem LenReachable.run {s s' : LenState} (hs : LenReachable p setupMax replyMax s) :
    ∀ es : List LenEvent, lenRun p setupMax replyMax s es = some s' →
      LenReachable p setupMax replyMax s'
  | [], h => by cases h; exact hs
  | e :: es, h => by
    simp only [lenRun, Option.bind_eq_some] at h
    obtain ⟨s₁, h₁, h₂⟩ := h
    exact (LenReachable.step e hs h₁).run es h₂

end Step

/-! ## 不変条件 -/

/-- 送った Enable request から決まる、`maximum_request_bytes` が返すべき値。 -/
def expectedMaxBytes (p : Platform) (setupMax replyMax : Nat) (sent : List Nat) : Nat :=
  if sent = [] then p.wordsToBytes setupMax else p.wordsToBytes replyMax

section Invariant

variable {p : Platform} {setupMax replyMax : Nat}

/-- task 一つについて成り立つこと。mutex を持つ位置にいれば持ち主であり、
`maximum_request_bytes` が返した値は送った Enable request で決まり、panic した task は無い。 -/
def LenTaskOk (p : Platform) (setupMax replyMax : Nat) (s : LenState) (t : Nat) : LenPc → Prop
  | .locking _ => True
  | .enabling _ => s.holder = some t ∧ s.maxRequestBytes = .unknown
  | .awaitingReply seq => s.holder = some t ∧ s.maxRequestBytes = .requested (some seq)
  | .done .prefetchMaximumRequestBytes v => v = none
  | .done .maximumRequestBytes v =>
    s.maxRequestBytes ≠ .unknown ∧ v = some (expectedMaxBytes p setupMax replyMax s.sent)
  | .panicked => False

/-- `Unknown` を出たら、`enable` の答え `c` が出ていて、送った Enable request は `c` の中身だけで
ある。中身は `Requested(c)` か、`c` が送れた答えで `Known` に reply からの値が入っている。 -/
def Resolved (p : Platform) (replyMax : Nat) (s : LenState) : Prop :=
  ∃ c : Option Nat, s.sent = c.toList ∧ (s.maxRequestBytes = .requested c ∨
    (c.isSome ∧ s.maxRequestBytes = .known (p.wordsToBytes replyMax)))

theorem Resolved.ne_unknown {s : LenState} (h : Resolved p replyMax s) :
    s.maxRequestBytes ≠ .unknown := by
  obtain ⟨_, -, hm | ⟨-, hm⟩⟩ := h <;> rw [hm] <;> simp

/-- 到達できる状態で成り立つこと。 -/
structure LenInv (p : Platform) (setupMax replyMax : Nat) (s : LenState) : Prop where
  tasks : ∀ (t : Nat) pc, s.tasks[t]? = some pc → LenTaskOk p setupMax replyMax s t pc
  /-- mutex の持ち主は mutex を持つ位置にいる。 -/
  holder : ∀ t : Nat, s.holder = some t → ∃ pc, s.tasks[t]? = some pc ∧ pc.holdsLock = true
  /-- `Unknown` の間、Enable request は送られていない。 -/
  unknown : s.maxRequestBytes = .unknown → s.sent = []
  resolved : s.maxRequestBytes ≠ .unknown → Resolved p replyMax s

theorem LenInv.init : LenInv p setupMax replyMax LenState.init where
  tasks := by simp [LenState.init]
  holder := by simp [LenState.init]
  unknown _ := rfl
  resolved h := absurd rfl h

/-- mutex を持つ位置にいる task は持ち主である。 -/
theorem LenTaskOk.holder_of_holdsLock {s : LenState} {t : Nat} {pc : LenPc}
    (h : LenTaskOk p setupMax replyMax s t pc) (hl : pc.holdsLock = true) : s.holder = some t := by
  cases pc with
  | enabling _ => exact h.1
  | awaitingReply _ => exact h.1
  | locking _ | done _ _ | panicked => simp [LenPc.holdsLock] at hl

/-- 持ち主でない task は mutex を持つ位置にいない。 -/
theorem LenInv.not_holds {s : LenState} (h : LenInv p setupMax replyMax s) {t t' : Nat}
    {x : LenPc} (hh : s.holder = none ∨ s.holder = some t) (ht : t' ≠ t)
    (hx : s.tasks[t']? = some x) : x.holdsLock = false := by
  cases hl : x.holdsLock
  · rfl
  · have := (h.tasks t' x hx).holder_of_holdsLock hl
    rcases hh with hh | hh <;> rw [hh] at this <;> simp at this
    exact absurd this.symm ht

/-- `afterPrefetch` は、返った位置に置いて mutex を放すか、reply を待つかのどちらかである。
返った位置は、`Unknown` を出ていれば `LenTaskOk` を満たす。 -/
theorem afterPrefetch_cases (s : LenState) (t : Nat) (c : LenCall) :
    (∃ pc, afterPrefetch p setupMax s t c = s.finish t pc ∧ pc.finished = true ∧
      ∀ replyMax, Resolved p replyMax s → LenTaskOk p setupMax replyMax (s.finish t pc) t pc) ∨
    (∃ seq, s.maxRequestBytes = .requested (some seq) ∧
      afterPrefetch p setupMax s t c = s.setPc t (.awaitingReply seq)) := by
  cases c with
  | prefetchMaximumRequestBytes => exact .inl ⟨_, rfl, rfl, fun _ _ => rfl⟩
  | maximumRequestBytes =>
    cases hm : s.maxRequestBytes with
    | unknown =>
      exact .inl ⟨.panicked, by simp [afterPrefetch, hm], rfl, fun _ hres => hres.ne_unknown hm⟩
    | known len =>
      refine .inl ⟨.done .maximumRequestBytes (some len), by simp [afterPrefetch, hm], rfl, ?_⟩
      rintro replyMax ⟨c, hc, hcm | ⟨hsome, hcm⟩⟩ <;> rw [hm] at hcm <;> cases hcm
      obtain ⟨seq, rfl⟩ := Option.isSome_iff_exists.mp hsome
      exact ⟨by simp [LenState.finish, hm], by simp [LenState.finish, expectedMaxBytes, hc]⟩
    | requested c =>
      cases c with
      | none =>
        refine .inl ⟨.done .maximumRequestBytes (some (p.wordsToBytes setupMax)),
          by simp [afterPrefetch, hm], rfl, ?_⟩
        rintro replyMax ⟨c, hc, hcm | ⟨-, hcm⟩⟩ <;> rw [hm] at hcm <;> cases hcm
        exact ⟨by simp [LenState.finish, hm], by simp [LenState.finish, expectedMaxBytes, hc]⟩
      | some seq => exact .inr ⟨seq, rfl, by simp [afterPrefetch, hm]⟩

@[simp] theorem afterPrefetch_maxRequestBytes (s : LenState) (t : Nat) (c : LenCall) :
    (afterPrefetch p setupMax s t c).maxRequestBytes = s.maxRequestBytes := by
  rcases @afterPrefetch_cases p setupMax s t c with
    ⟨pc, heq, -⟩ | ⟨seq, -, heq⟩ <;> rw [heq] <;> rfl

/-- mutex を持たない task についての `LenTaskOk` は、`Unknown` を出た後の中身が `Unknown` に
戻らず、送った Enable request が変わらなければ保たれる。 -/
theorem LenTaskOk.of_not_holds {s s' : LenState} {t : Nat} {pc : LenPc}
    (h : LenTaskOk p setupMax replyMax s t pc) (hl : pc.holdsLock = false)
    (hr : s.maxRequestBytes ≠ .unknown → s'.maxRequestBytes ≠ .unknown ∧ s'.sent = s.sent) :
    LenTaskOk p setupMax replyMax s' t pc := by
  cases pc with
  | enabling _ | awaitingReply _ => simp [LenPc.holdsLock] at hl
  | locking _ => trivial
  | panicked => exact h.elim
  | done c v =>
    cases c with
    | prefetchMaximumRequestBytes => exact h
    | maximumRequestBytes =>
      obtain ⟨hm', hs⟩ := hr h.1
      exact ⟨hm', hs ▸ h.2⟩

/-- 持ち主 `t` が `prefetch_len_impl` を終えた後も不変条件が成り立つ。前提は `Unknown` を
出ていることと、`t` 以外の task について `LenTaskOk` が成り立ち、mutex を持つ位置にいないこと。 -/
theorem LenInv.prefetched {s : LenState} {t : Nat} {pc : LenPc} (c : LenCall)
    (hp : s.tasks[t]? = some pc) (hh : s.holder = some t) (hres : Resolved p replyMax s)
    (hothers : ∀ t' x, t' ≠ t → s.tasks[t']? = some x →
      x.holdsLock = false ∧ LenTaskOk p setupMax replyMax s t' x) :
    LenInv p setupMax replyMax (X11rbAsync.afterPrefetch p setupMax s t c) := by
  have hm := hres.ne_unknown
  have hrest : ∀ s' : LenState, s'.maxRequestBytes = s.maxRequestBytes → s'.sent = s.sent →
      ∀ t' x, t' ≠ t → s.tasks[t']? = some x → LenTaskOk p setupMax replyMax s' t' x :=
    fun _ hm' hs' t' x ht hx => (hothers t' x ht hx).2.of_not_holds (hothers t' x ht hx).1
      fun _ => ⟨hm' ▸ hm, hs'⟩
  rcases @afterPrefetch_cases p setupMax s t c with ⟨pc', heq, -, hok⟩ | ⟨seq, hseq, heq⟩ <;>
    rw [heq]
  · exact ⟨forall_getElem?_set (hrest _ rfl rfl) (hok replyMax hres), by simp [LenState.finish],
      fun h => absurd h hm, fun _ => hres⟩
  · refine ⟨forall_getElem?_set (hrest _ rfl rfl) ⟨hh, hseq⟩, fun t' ht' => ?_,
      fun h => absurd h hm, fun _ => hres⟩
    simp only [LenState.setPc_holder, hh, Option.some.injEq] at ht'
    subst ht'
    exact ⟨_, getElem?_set_of_some hp, rfl⟩

theorem LenInv.call {s : LenState} (h : LenInv p setupMax replyMax s) (c : LenCall) :
    LenInv p setupMax replyMax { s with tasks := s.tasks ++ [.locking c] } where
  tasks := forall_getElem?_concat (fun t x hx => by
    have hok := h.tasks t x hx
    cases x with
    | done c v => cases c <;> exact hok
    | _ => exact hok) trivial
  holder t ht := let ⟨pc, h1, h2⟩ := h.holder t ht; ⟨pc, getElem?_append_of_some h1, h2⟩
  unknown := h.unknown
  resolved := h.resolved

/-- 空いた mutex を取った task が `Unknown` を見て `enable` を呼ぶ。 -/
theorem LenInv.lock_unknown {s : LenState} (h : LenInv p setupMax replyMax s) {t : Nat}
    {c : LenCall} (hp : s.tasks[t]? = some (.locking c)) (hfree : s.holder = none)
    (hm : s.maxRequestBytes = .unknown) :
    LenInv p setupMax replyMax ({ s with holder := some t }.setPc t (.enabling c)) where
  tasks := forall_getElem?_set
    (fun t' x _ hx => (h.tasks t' x hx).of_not_holds (h.not_holds (.inl hfree) (t := t' + 1)
      (by omega) hx) fun h' => ⟨h', rfl⟩) ⟨rfl, hm⟩
  holder t' ht' := by
    simp only [LenState.setPc_holder, Option.some.injEq] at ht'
    subst ht'
    exact ⟨_, getElem?_set_of_some hp, rfl⟩
  unknown _ := h.unknown hm
  resolved h' := absurd hm h'

/-- 空いた mutex を取った task が、`Unknown` でない中身を見て `prefetch_len_impl` を終える。 -/
theorem LenInv.lock_resolved {s : LenState} (h : LenInv p setupMax replyMax s) {t : Nat}
    {c : LenCall} (hp : s.tasks[t]? = some (.locking c)) (hfree : s.holder = none)
    (hm : s.maxRequestBytes ≠ .unknown) :
    LenInv p setupMax replyMax
      (X11rbAsync.afterPrefetch p setupMax { s with holder := some t } t c) :=
  LenInv.prefetched (s := { s with holder := some t }) c hp rfl (h.resolved hm) fun t' x _ hx =>
    have hl := h.not_holds (.inl hfree) (t := t' + 1) (by omega) hx
    ⟨hl, (h.tasks t' x hx).of_not_holds hl fun h' => ⟨h', rfl⟩⟩

/-- `enable` が返り、答えを `Requested` に入れて `prefetch_len_impl` を終える。 -/
theorem LenInv.enableDone {s : LenState} (h : LenInv p setupMax replyMax s) {t : Nat}
    {c : LenCall} (hp : s.tasks[t]? = some (.enabling c)) (cookie : Option Nat) :
    LenInv p setupMax replyMax (X11rbAsync.afterPrefetch p setupMax
      { s with maxRequestBytes := .requested cookie, sent := s.sent ++ cookie.toList } t c) := by
  obtain ⟨hh, hm⟩ := h.tasks t _ hp
  refine LenInv.prefetched
    (s := { s with maxRequestBytes := .requested cookie, sent := s.sent ++ cookie.toList })
    c hp hh ⟨cookie, by simp [h.unknown hm], .inl rfl⟩ fun t' x ht hx => ?_
  have hl := h.not_holds (.inr hh) ht hx
  exact ⟨hl, (h.tasks t' x hx).of_not_holds hl fun h' => absurd hm h'⟩

/-- Enable の reply が届き、`Known` に入れて返る。 -/
theorem LenInv.reply {s : LenState} (h : LenInv p setupMax replyMax s) {t seq : Nat}
    (hp : s.tasks[t]? = some (.awaitingReply seq)) :
    LenInv p setupMax replyMax ({ s with maxRequestBytes := .known (p.wordsToBytes replyMax) }.finish
      t (.done .maximumRequestBytes (some (p.wordsToBytes replyMax)))) := by
  obtain ⟨hh, hm⟩ := h.tasks t _ hp
  obtain ⟨c, hc, hcm⟩ := h.resolved (by simp [hm])
  have hcs : c = some seq := by rcases hcm with hcm | ⟨-, hcm⟩ <;> rw [hm] at hcm <;> simp_all
  subst hcs
  refine ⟨forall_getElem?_set (fun t' x ht hx => (h.tasks t' x hx).of_not_holds
      (h.not_holds (.inr hh) ht hx) fun _ => ⟨by simp [LenState.finish], rfl⟩)
      ⟨by simp [LenState.finish], by simp [LenState.finish, expectedMaxBytes, hc]⟩,
    by simp [LenState.finish], by simp [LenState.finish],
    fun _ => ⟨some seq, hc, .inr ⟨rfl, rfl⟩⟩⟩

/-- **一歩が何をするか。** 呼び出しを足すか、空いた mutex を取るか、`enable` が返るか、
Enable の reply が届くかである。 -/
theorem lenStep_cases {s s' : LenState} {e : LenEvent} (hs : lenStep p setupMax replyMax s e = some s') :
    (∃ c, e = .call c ∧ s' = { s with tasks := s.tasks ++ [.locking c] }) ∨
    (∃ t c, s.tasks[t]? = some (.locking c) ∧ s.holder = none ∧
      ((s.maxRequestBytes = .unknown ∧ s' = { s with holder := some t }.setPc t (.enabling c)) ∨
        (s.maxRequestBytes ≠ .unknown ∧
          s' = X11rbAsync.afterPrefetch p setupMax { s with holder := some t } t c))) ∨
    (∃ t c cookie, s.tasks[t]? = some (.enabling c) ∧
      s' = X11rbAsync.afterPrefetch p setupMax
        { s with maxRequestBytes := .requested cookie, sent := s.sent ++ cookie.toList } t c) ∨
    (∃ t seq, s.tasks[t]? = some (.awaitingReply seq) ∧
      s' = { s with maxRequestBytes := .known (p.wordsToBytes replyMax) }.finish t
        (.done .maximumRequestBytes (some (p.wordsToBytes replyMax)))) := by
  cases e with
  | call c => cases hs; exact .inl ⟨c, rfl, rfl⟩
  | lock t =>
    simp only [lenStep] at hs
    split at hs
    · next c hp =>
      split at hs
      · cases hs
      · next hfree =>
        have hfree : s.holder = none := by simpa using hfree
        split at hs
        · next hm => cases hs; exact .inr (.inl ⟨t, c, hp, hfree, .inl ⟨hm, rfl⟩⟩)
        · next hm => cases hs; exact .inr (.inl ⟨t, c, hp, hfree, .inr ⟨hm, rfl⟩⟩)
    · cases hs
  | enableDone t cookie =>
    simp only [lenStep] at hs
    split at hs
    · next c hp => cases hs; exact .inr (.inr (.inl ⟨t, c, cookie, hp, rfl⟩))
    · cases hs
  | reply t =>
    simp only [lenStep] at hs
    split at hs
    · next seq hp => cases hs; exact .inr (.inr (.inr ⟨t, seq, hp, rfl⟩))
    · cases hs

theorem LenInv.step {s s' : LenState} {e : LenEvent} (h : LenInv p setupMax replyMax s)
    (hs : lenStep p setupMax replyMax s e = some s') : LenInv p setupMax replyMax s' := by
  rcases lenStep_cases hs with ⟨c, -, rfl⟩ | ⟨t, c, hp, hfree, ⟨hm, rfl⟩ | ⟨hm, rfl⟩⟩ |
    ⟨t, c, cookie, hp, rfl⟩ | ⟨t, seq, hp, rfl⟩
  · exact h.call c
  · exact h.lock_unknown hp hfree hm
  · exact h.lock_resolved hp hfree hm
  · exact h.enableDone hp cookie
  · exact h.reply hp

end Invariant

/-! ## 進み -/

section Progress

variable {p : Platform} {setupMax replyMax : Nat}

end Progress

end X11rbAsync
