import X11rbAsync.Connection

/-!
# `send_request` が返す sequence number

`send_request` は core の `send_request(kind)` が返した `Some(seq)` を持ったまま request を書き、
`unlock()` した後に `Ok(seq)` として返す。core は数を出すたびに一つ進めるので、model では
`issued.length + 1` である（`step` の `issue`）。`send_sync` も core から数を取るが、それは
`discard_reply` に渡して捨て、呼び出し元には返さない。

task が抱える数（`Pc.sentSeq`: 書いている途中の `WriteCont.sendDone seq` と、返した
`Ending.returned (some seq)`）は、どれも `1` から `issued.length` までにあり、二つの task が同じ
数を抱えることは無い（`SeqOk`）。したがって `send_request` が返した数を、ほかの呼び出しが
返すことも抱えることも無い（`send_request_seq_unique`）。

`HolderMove` は guard を持つ task の行き先を粗くまとめたもので、数を抱える位置へも移れる。
ここでは一歩を事象ごとに見る。
-/

namespace X11rbAsync

/-! ## task が抱える数 -/

/-- `write_all_vectored` が返った後に `Ok` で返す数。 -/
def WriteCont.sentSeq : WriteCont → Option Nat
  | .sendDone seq => some seq
  | _ => none

def Cont.sentSeq : Cont → Option Nat
  | .write k => k.sentSeq
  | .flush _ => none

/-- task が抱える、`send_request` が返す（あるいは返した）sequence number。 -/
def Pc.sentSeq : Pc → Option Nat
  | .syncIssue k => k.sentSeq
  | .writing _ _ k => k.sentSeq
  | .finished (.returned seq) => seq
  | _ => none

/-- 位置 `t` に数 `m` を置いてよい。`m` は `1` から `n` までにあり、ほかの位置は `m` を抱えない。 -/
def SeqFree (tasks : List Pc) (n t m : Nat) : Prop :=
  (1 ≤ m ∧ m ≤ n) ∧ ∀ (u : Nat) (pc : Pc), u ≠ t → tasks[u]? = some pc → pc.sentSeq ≠ some m

/-- task が抱える数は `1` から `n` までにあり、二つの task が同じ数を抱えることは無い。 -/
structure SeqOk (tasks : List Pc) (n : Nat) : Prop where
  bound : ∀ (t : Nat) (pc : Pc) (m : Nat), tasks[t]? = some pc → pc.sentSeq = some m →
    1 ≤ m ∧ m ≤ n
  unique : ∀ (t u : Nat) (pc pc' : Pc) (m : Nat), tasks[t]? = some pc → tasks[u]? = some pc' →
    pc.sentSeq = some m → pc'.sentSeq = some m → t = u

namespace SeqOk

variable {tasks : List Pc} {n : Nat}

theorem nil : SeqOk [] 0 :=
  ⟨fun _ _ _ h => by simp at h, fun _ _ _ _ _ h => by simp at h⟩

/-- 位置 `t` が抱えている数は、`t` に置き直してよい。 -/
theorem free_own (h : SeqOk tasks n) {n' t m : Nat} {pc : Pc} (hn : n ≤ n')
    (ht : tasks[t]? = some pc) (hm : pc.sentSeq = some m) : SeqFree tasks n' t m :=
  ⟨(h.bound t pc m ht hm).imp_right fun hm' => hm'.trans hn,
    fun u _ hu hu' hm' => hu (h.unique u t _ pc m hu' ht hm' hm)⟩

/-- core が次に出す数 `n + 1` は、どの位置も抱えていない。 -/
theorem free_fresh (h : SeqOk tasks n) (t : Nat) : SeqFree tasks (n + 1) t (n + 1) :=
  ⟨⟨Nat.le_add_left 1 n, le_rfl⟩, fun u pc _ hu hm => by
    have := (h.bound u pc _ hu hm).2
    omega⟩

/-- 位置 `t` を置き換える。新しい位置が抱える数は、置いてよいものに限る。 -/
theorem set (h : SeqOk tasks n) {n' : Nat} (hn : n ≤ n') {t : Nat} {pc : Pc}
    (hpc : ∀ m, pc.sentSeq = some m → SeqFree tasks n' t m) : SeqOk (tasks.set t pc) n' where
  bound u x m hx hm := by
    rcases getElem?_set_cases hx with ⟨-, rfl⟩ | ⟨-, hx⟩
    · exact (hpc m hm).1
    · exact (h.bound u x m hx hm).imp_right fun hm' => hm'.trans hn
  unique u v x y m hx hy hmx hmy := by
    rcases getElem?_set_cases hx with ⟨rfl, rfl⟩ | ⟨hu, hx'⟩ <;>
      rcases getElem?_set_cases hy with ⟨rfl, rfl⟩ | ⟨hv, hy'⟩
    · rfl
    · exact absurd hmy ((hpc m hmx).2 v y hv hy')
    · exact absurd hmx ((hpc m hmy).2 u x hu hx')
    · exact h.unique u v x y m hx' hy' hmx hmy

theorem set_none (h : SeqOk tasks n) (t : Nat) {pc : Pc} (hpc : pc.sentSeq = none) :
    SeqOk (tasks.set t pc) n :=
  h.set le_rfl fun m hm => by rw [hpc] at hm; cases hm

/-- 数を抱えない task を足す。 -/
theorem concat_none (h : SeqOk tasks n) {pc : Pc} (hpc : pc.sentSeq = none) :
    SeqOk (tasks ++ [pc]) n where
  bound t x m hx hm := by
    rcases getElem?_concat_cases hx with hx | ⟨-, rfl⟩
    · exact h.bound t x m hx hm
    · rw [hpc] at hm; cases hm
  unique t u x y m hx hy hmx hmy := by
    rcases getElem?_concat_cases hx with hx | ⟨-, rfl⟩
    · rcases getElem?_concat_cases hy with hy | ⟨-, rfl⟩
      · exact h.unique t u x y m hx hy hmx hmy
      · rw [hpc] at hmy; cases hmy
    · rw [hpc] at hmx; cases hmx

end SeqOk

/-! ## 一歩 -/

/-- machine の様子を task `t` に映すと、`t` の新しい位置が抱える数は、無いか続き `k` の数であり、
core が出した数は変わらない。 -/
theorem settle_sentSeq (s : Conn) (t : Nat) (k : Cont) (suspended : Bool) (inner : WriteBufferInner)
    (wire : Wire) (st : WStatus) :
    ∃ pc, ((s.withIo inner wire).settle t k suspended st).tasks = s.tasks.set t pc ∧
      ((s.withIo inner wire).settle t k suspended st).issued = s.issued ∧
      ∀ m, pc.sentSeq = some m → k.sentSeq = some m := by
  cases st with
  | running _ => exact ⟨_, rfl, rfl, fun _ => id⟩
  | done _ =>
    rcases k with (_ | _ | _) | (_ | _) <;> exact ⟨_, rfl, rfl, fun _ => id⟩
  | failed _ | panicked => exact ⟨_, rfl, rfl, fun _ h => by cases h⟩

theorem SeqOk.settle {s : Conn} {n : Nat} (h : SeqOk s.tasks n) (hn : n ≤ s.issued.length)
    (t : Nat) {k : Cont} {suspended : Bool} {inner : WriteBufferInner} {wire : Wire} {st : WStatus}
    (hk : ∀ m, k.sentSeq = some m → SeqFree s.tasks s.issued.length t m) :
    SeqOk ((s.withIo inner wire).settle t k suspended st).tasks
      ((s.withIo inner wire).settle t k suspended st).issued.length := by
  obtain ⟨pc, htasks, hissued, hpc⟩ := settle_sentSeq s t k suspended inner wire st
  rw [htasks, hissued]
  exact h.set hn fun m hm => hk m (hpc m hm)

section Step

variable {cfg : Config}

theorem Pc.sentSeq_of_fresh {pc : Pc} (h : pc.Fresh) : pc.sentSeq = none := by
  rcases pc with _ | _ | _ | _ | _ | _ | ((_ | _) | _ | _ | _) <;> first | rfl | cases h

/-- 一歩は `SeqOk` を保つ。数を抱える位置に移るのは、core が数を出した task（新しい数）と、
すでに数を抱えている task（同じ数）に限る。 -/
theorem SeqOk.of_step {s s' : Conn} (h : SeqOk s.tasks s.issued.length) {e : Event}
    (he : step cfg s e = some s') : SeqOk s'.tasks s'.issued.length := by
  cases step_moves he with
  | spawn pc hpc => exact h.concat_none (Pc.sentSeq_of_fresh hpc)
  | lock t k _ _ _ =>
    cases k with
    | flush next => exact SeqOk.settle (s := s.lockedBy t) h le_rfl t fun _ hm => by cases hm
    | send bufs fds => exact h.set_none t rfl
    | sync seq => exact h.set_none t rfl
  | issueSend t bufs fds _ =>
    refine SeqOk.settle (s := s.issue bufs.flatten) h (by simp) t fun _ hm => ?_
    cases hm
    simpa using h.free_fresh t
  | issueSync t k ht =>
    exact SeqOk.settle (s := s.issue cfg.syncRequest) h (by simp) t
      fun _ hm => h.free_own (by simp) ht hm
  | answer t _ _ _ _ ht => exact h.settle le_rfl t fun _ hm => h.free_own le_rfl ht hm
  | assertHolds t _ _ => exact h.settle le_rfl t fun _ hm => by cases hm
  | lockFailed t _ _ _ _ | refuseSend t _ _ _ | refuseSync t _ _ | assertFails t _ _
    | abandonLocking t _ _ | abandonIncoming t _ _ _ | abandonSuspended t _ _ _ =>
    exact h.set_none t rfl

theorem Reachable.seqOk {s : Conn} (hs : Reachable cfg s) : SeqOk s.tasks s.issued.length := by
  induction hs with
  | init => exact SeqOk.nil
  | step _ _ h ih => exact ih.of_step h

/--
**`send_request` が返した sequence number は core が出した数の範囲にあり、ほかの task はそれを
返すことも抱えることも無い。**

届く状態で task `t` が `send_request` から `Ok(n)` で返っているなら、`1 ≤ n ≤ issued.length`
であり、数 `n` を抱える task（書いている途中のものも、返したものも）は `t` だけである。
-/
theorem send_request_seq_unique {s : Conn} (hs : Reachable cfg s) {t u n : Nat} {pc : Pc}
    (ht : s.tasks[t]? = some (.finished (.returned (some n))))
    (hu : s.tasks[u]? = some pc) (hpc : pc.sentSeq = some n) :
    t = u ∧ 1 ≤ n ∧ n ≤ s.issued.length :=
  ⟨hs.seqOk.unique t u _ pc n ht hu rfl hpc, hs.seqOk.bound t _ n ht rfl⟩

end Step

end X11rbAsync
