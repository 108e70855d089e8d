import Mathlib

/-!
# 基本の型

x11rb-async の `rust_connection/mod.rs` を写すのに使う型と小道具。

* byte 列は `List UInt8`、fd は番号（`RawFdContainer` の中身）で表す。
* `usize` の幅と byte 順は実行環境が決めるので、`Platform` として外から与える。
  `checked_*` と `try_into` はその幅で失敗する。
* stream は外部の部品である。write 一回の答えを `WriteResult` とし、
  stream がそれまでに受け取ったものを `Wire` に貯める。
-/

namespace X11rbAsync

/-- byte 列。 -/
abbrev Bytes := List UInt8

/-- 送る file descriptor（`RawFdContainer`）。番号だけを見る。 -/
abbrev Fd := Nat

/-- slice の列の長さの和（`bufs.iter().map(|b| b.len()).sum()`）。 -/
def totalLen (bufs : List Bytes) : Nat := (bufs.map List.length).sum

@[simp] theorem totalLen_nil : totalLen [] = 0 := rfl

@[simp] theorem totalLen_cons (b : Bytes) (bufs : List Bytes) :
    totalLen (b :: bufs) = b.length + totalLen bufs := rfl

@[simp] theorem totalLen_replicate (n : Nat) (b : Bytes) :
    totalLen (List.replicate n b) = n * b.length := by
  simp [totalLen, List.map_replicate, List.sum_replicate]

theorem totalLen_eq_length_flatten (bufs : List Bytes) :
    totalLen bufs = bufs.flatten.length := by
  induction bufs with
  | nil => rfl
  | cons b bufs ih => simp [ih]

/-! ## byte 順 -/

/-- 実行環境の byte 順。`to_ne_bytes` / `from_ne_bytes` はこれに従う。 -/
inductive Endian where
  | little
  | big
  deriving DecidableEq, Repr

/-- `n` の下から `i` 番目の byte。 -/
def byteAt (n i : Nat) : UInt8 := UInt8.ofNat (n / 256 ^ i % 256)

theorem byteAt_toNat (n i : Nat) : (byteAt n i).toNat = n / 256 ^ i % 256 :=
  UInt8.toNat_ofNat_of_lt (Nat.mod_lt _ (by decide))

/-- `u16::from_ne_bytes([b0, b1])`。 -/
def Endian.u16FromBytes : Endian → UInt8 → UInt8 → Nat
  | .little, b0, b1 => b0.toNat + 256 * b1.toNat
  | .big, b0, b1 => 256 * b0.toNat + b1.toNat

/-- `u16::to_ne_bytes`。 -/
def Endian.u16ToBytes : Endian → Nat → Bytes
  | .little, n => [byteAt n 0, byteAt n 1]
  | .big, n => [byteAt n 1, byteAt n 0]

/-- `u32::to_ne_bytes`。 -/
def Endian.u32ToBytes : Endian → Nat → Bytes
  | .little, n => [byteAt n 0, byteAt n 1, byteAt n 2, byteAt n 3]
  | .big, n => [byteAt n 3, byteAt n 2, byteAt n 1, byteAt n 0]

/-- `u32::from_ne_bytes([b0, b1, b2, b3])`。server が BIG-REQUESTS の長さを読むのに使う。 -/
def Endian.u32FromBytes : Endian → UInt8 → UInt8 → UInt8 → UInt8 → Nat
  | .little, b0, b1, b2, b3 =>
    b0.toNat + 256 * b1.toNat + 65536 * b2.toNat + 16777216 * b3.toNat
  | .big, b0, b1, b2, b3 =>
    16777216 * b0.toNat + 65536 * b1.toNat + 256 * b2.toNat + b3.toNat

@[simp] theorem Endian.length_u32ToBytes (e : Endian) (n : Nat) : (e.u32ToBytes n).length = 4 := by
  cases e <;> rfl

/-- 4 byte に分けて読み戻すと元の値になる（`n < 2^32`）。 -/
theorem Endian.u32ToBytes_eq (e : Endian) {n : Nat} (hn : n < 2 ^ 32) :
    ∃ b0 b1 b2 b3, e.u32ToBytes n = [b0, b1, b2, b3] ∧ e.u32FromBytes b0 b1 b2 b3 = n := by
  have h : n % 256 + 256 * (n / 256 % 256) + 65536 * (n / 65536 % 256)
      + 16777216 * (n / 16777216 % 256) = n := by omega
  cases e with
  | little =>
    refine ⟨_, _, _, _, rfl, ?_⟩
    simp only [Endian.u32FromBytes, byteAt_toNat]
    simpa using h
  | big =>
    refine ⟨_, _, _, _, rfl, ?_⟩
    simp only [Endian.u32FromBytes, byteAt_toNat]
    simp only [pow_zero, Nat.div_one, pow_one] at h ⊢
    norm_num at h ⊢
    omega

/-! ## 実行環境 -/

/-- 実行環境。byte 順、`usize` の bit 幅（Rust は 16 bit 以上を約束する）、build の二つの検査。
`overflowChecks` の build では `usize` の `+` が溢れると panic し、無い build（release）では
`2 ^ usizeBits` を法として回る。`debugAssertions` の build だけが `debug_assert!` を評価する。 -/
structure Platform where
  endian : Endian
  usizeBits : Nat
  overflowChecks : Bool
  debugAssertions : Bool
  usizeBits_ge : 16 ≤ usizeBits
  deriving DecidableEq, Repr

/-- `usize::MAX`。 -/
def Platform.usizeMax (p : Platform) : Nat := 2 ^ p.usizeBits - 1

/-- `usize::try_from(n)`（`u32` からの `try_into`）。 -/
def Platform.tryIntoUsize (p : Platform) (n : Nat) : Option Nat :=
  if n ≤ p.usizeMax then some n else none

/-- `usize::checked_mul`。 -/
def Platform.checkedMul (p : Platform) (a b : Nat) : Option Nat :=
  if a * b ≤ p.usizeMax then some (a * b) else none

/-- `usize::checked_add`。 -/
def Platform.checkedAdd (p : Platform) (a b : Nat) : Option Nat :=
  if a + b ≤ p.usizeMax then some (a + b) else none

/-- `usize` の `a + b`。溢れると、`overflowChecks` の build では panic し（`none`）、そうでなければ
回る。 -/
def Platform.add (p : Platform) (a b : Nat) : Option Nat :=
  if a + b ≤ p.usizeMax then some (a + b)
  else if p.overflowChecks then none
  else some ((a + b) % 2 ^ p.usizeBits)

/-- `usize::saturating_add`。 -/
def Platform.saturatingAdd (p : Platform) (a b : Nat) : Nat := min (a + b) p.usizeMax

/-- `bufs.iter().map(|b| b.len()).sum::<usize>()`。左から `usize` の `+` で足す。 -/
def Platform.sumLengths (p : Platform) (bufs : List Bytes) : Option Nat :=
  bufs.foldl (fun sum buf => sum.bind fun n => p.add n buf.length) (some 0)

/-- `bufs.iter().fold(0usize, |sum, buf| sum.saturating_add(buf.len()))`。 -/
def Platform.saturatingTotalLen (p : Platform) (bufs : List Bytes) : Nat :=
  bufs.foldl (fun sum buf => p.saturatingAdd sum buf.length) 0

/-- x86-64 の debug build（`cargo build` の既定の profile）。 -/
def Platform.x86_64 : Platform := ⟨.little, 64, true, true, by decide⟩

/-- 32 bit の little endian（i686）の debug build。 -/
def Platform.i686 : Platform := ⟨.little, 32, true, true, by decide⟩

/-- 32 bit の little endian の release build。overflow checks も debug assertions も無い。 -/
def Platform.i686Release : Platform := ⟨.little, 32, false, false, by decide⟩

namespace Platform

variable (p : Platform)

theorem usizeMax_ge : 65535 ≤ p.usizeMax := by
  have := Nat.pow_le_pow_right (show 0 < 2 by decide) p.usizeBits_ge
  unfold usizeMax
  omega

theorem add_of_le {a b : Nat} (h : a + b ≤ p.usizeMax) : p.add a b = some (a + b) := if_pos h

/-- overflow checks のある build では、溢れる `+` は panic する。 -/
theorem add_eq_none {a b : Nat} (hc : p.overflowChecks = true) (h : p.usizeMax < a + b) :
    p.add a b = none := by
  simp [add, hc, Nat.not_le.mpr h]

/-- release build の `+` は、溢れても溢れなくても `2 ^ usizeBits` を法とした和である。 -/
theorem add_of_release (hc : p.overflowChecks = false) (a b : Nat) :
    p.add a b = some ((a + b) % 2 ^ p.usizeBits) := by
  unfold add usizeMax
  split
  · have := Nat.one_le_two_pow (n := p.usizeBits)
    rw [Nat.mod_eq_of_lt (by omega)]
  · simp [hc]

/-- 足していく途中で一度溢れれば、和はもう得られない。 -/
theorem foldl_bind_none (bufs : List Bytes) :
    bufs.foldl (fun sum buf => sum.bind fun n => p.add n buf.length) none = none := by
  induction bufs with
  | nil => rfl
  | cons _ _ ih => exact ih

/-- **`sum()` は、長さの和を一度の `usize` の `+` で足したのと同じ。** 和が `usize::MAX` を越えると、
overflow checks のある build では panic し、無い build では回った値を返す。 -/
theorem sumLengths_eq (bufs : List Bytes) : p.sumLengths bufs = p.add 0 (totalLen bufs) := by
  suffices h : ∀ x, x ≤ p.usizeMax →
      bufs.foldl (fun sum buf => sum.bind fun n => p.add n buf.length) (some x) =
        p.add x (totalLen bufs) from h 0 (Nat.zero_le _)
  induction bufs with
  | nil => intro x hx; simp [add_of_le p (show x + 0 ≤ p.usizeMax by omega)]
  | cons b bs ih =>
    intro x hx
    cases hc : p.overflowChecks
    · rw [List.foldl_cons, Option.some_bind, add_of_release p hc, ih _ (by
        have := Nat.mod_lt (x + b.length) (Nat.two_pow_pos p.usizeBits); unfold usizeMax; omega),
        add_of_release p hc, add_of_release p hc, Nat.mod_add_mod, totalLen_cons, Nat.add_assoc]
    · by_cases hb : x + b.length ≤ p.usizeMax
      · rw [List.foldl_cons, Option.some_bind, add_of_le p hb, ih _ hb, totalLen_cons]
        simp only [add, Nat.add_assoc]
      · rw [List.foldl_cons, Option.some_bind, add_eq_none p hc (by omega), foldl_bind_none,
          add_eq_none p hc (by simp only [totalLen_cons]; omega)]

/-- 長さの和が `usize` に収まれば、`sum()` はそれを返す。 -/
theorem sumLengths_of_le {bufs : List Bytes} (h : totalLen bufs ≤ p.usizeMax) :
    p.sumLengths bufs = some (totalLen bufs) := by
  rw [sumLengths_eq, add_of_le p (by omega), Nat.zero_add]

/-- 飽和させた和は、長さの和と `usize::MAX` の小さい方である。 -/
theorem saturatingTotalLen_eq (bufs : List Bytes) :
    p.saturatingTotalLen bufs = min (totalLen bufs) p.usizeMax := by
  suffices h : ∀ x, x ≤ p.usizeMax →
      bufs.foldl (fun sum buf => p.saturatingAdd sum buf.length) x = min (x + totalLen bufs) p.usizeMax
    from by simpa using h 0 (Nat.zero_le _)
  induction bufs with
  | nil => intro x hx; simp [hx]
  | cons b bs ih =>
    intro x _
    rw [List.foldl_cons, ih (p.saturatingAdd x b.length) (min_le_right _ _), saturatingAdd, totalLen_cons]
    omega

/-- 容量が `usize::MAX` 以下なら、`total_len < capacity` は長さの和が容量より小さいことである。 -/
theorem saturatingTotalLen_lt_iff {cap : Nat} (hcap : cap ≤ p.usizeMax) (bufs : List Bytes) :
    p.saturatingTotalLen bufs < cap ↔ totalLen bufs < cap := by
  rw [saturatingTotalLen_eq]
  omega

/-- 長さの和が `usize` に収まれば、飽和させても変わらない。 -/
theorem saturatingTotalLen_of_le {bufs : List Bytes} (h : totalLen bufs ≤ p.usizeMax) :
    p.saturatingTotalLen bufs = totalLen bufs := by
  rw [saturatingTotalLen_eq]
  omega

/-- 溢れない `+` の値は和である。 -/
theorem eq_of_add_eq_some {a b n : Nat} (h : p.add a b = some n) (hle : a + b ≤ p.usizeMax) :
    n = a + b := by
  rw [add_of_le p hle] at h
  exact (Option.some.inj h).symm

/-- `+` が panic するのは溢れるときである。 -/
theorem lt_of_add_eq_none {a b : Nat} (h : p.add a b = none) : p.usizeMax < a + b := by
  by_contra hle
  rw [add_of_le p (by omega)] at h
  cases h

end Platform

/-! ## task の表 -/

theorem getElem?_append_of_some {α : Type} {l m : List α} {t : Nat} {x : α}
    (h : l[t]? = some x) : (l ++ m)[t]? = some x :=
  (List.getElem?_append_left (List.getElem?_eq_some_iff.mp h).1).trans h

theorem getElem?_set_of_some {α : Type} {l : List α} {t : Nat} {x a : α}
    (h : l[t]? = some x) : (l.set t a)[t]? = some a :=
  List.getElem?_set_self (List.getElem?_eq_some_iff.mp h).1

/-- `set` で置いた位置から読めるのは、置いた要素である。 -/
theorem eq_of_getElem?_set_self {α : Type} {l : List α} {t : Nat} {x a : α}
    (h : (l.set t a)[t]? = some x) : x = a := by
  simp [List.getElem?_set] at h
  exact h.2.symm

/-- `set` の後に読める要素は、置いた要素か、元からそこにあった要素である。 -/
theorem getElem?_set_cases {α : Type} {l : List α} {u t : Nat} {a x : α}
    (h : (l.set u a)[t]? = some x) : (t = u ∧ x = a) ∨ (t ≠ u ∧ l[t]? = some x) := by
  by_cases htu : t = u
  · subst htu
    exact .inl ⟨rfl, eq_of_getElem?_set_self h⟩
  · rw [List.getElem?_set_ne (Ne.symm htu)] at h
    exact .inr ⟨htu, h⟩

/-- `set` の前には無かった要素が読めるなら、それは置いた要素である。 -/
theorem eq_of_getElem?_set_of_ne {α : Type} {l : List α} {u t : Nat} {a x : α}
    (hbefore : l[t]? ≠ some x) (h : (l.set u a)[t]? = some x) : x = a :=
  (getElem?_set_cases h).elim And.right fun h' => absurd h'.2 hbefore

/-- 末尾に足した後に読める要素は、元の要素か、末尾に足した要素である。 -/
theorem getElem?_concat_cases {α : Type} {l : List α} {t : Nat} {a x : α}
    (h : (l ++ [a])[t]? = some x) : l[t]? = some x ∨ (t = l.length ∧ x = a) := by
  rw [List.getElem?_append] at h
  split at h
  · exact .inl h
  · have ht : t - l.length < 1 := by simpa using (List.getElem?_eq_some_iff.mp h).1
    rw [show t - l.length = 0 by omega] at h
    exact .inr ⟨by omega, (Option.some.inj h).symm⟩

/-- task の表の各要素についての性質は、`set` で置いた要素と、それ以外の元の要素について
言えば保たれる。 -/
theorem forall_getElem?_set {α : Type} {P : Nat → α → Prop} {l : List α} {i : Nat} {a : α}
    (h : ∀ t x, t ≠ i → l[t]? = some x → P t x) (ha : P i a) :
    ∀ t x, (l.set i a)[t]? = some x → P t x := by
  intro t x hx
  rcases getElem?_set_cases hx with ⟨rfl, rfl⟩ | ⟨ht, hx⟩
  · exact ha
  · exact h t x ht hx

/-- 末尾に足した要素についても同じ。 -/
theorem forall_getElem?_concat {α : Type} {P : Nat → α → Prop} {l : List α} {a : α}
    (h : ∀ t x, l[t]? = some x → P t x) (ha : P l.length a) :
    ∀ t x, (l ++ [a])[t]? = some x → P t x := by
  intro t x hx
  rcases getElem?_concat_cases hx with hx | ⟨rfl, rfl⟩
  · exact h t x hx
  · exact ha

/-! ## 誤り -/

/-- `io::ErrorKind` のうち model が区別するもの。WouldBlock は `WriteResult` の側で扱う。 -/
inductive ErrorKind where
  | writeZero
  | unexpectedEof
  | other
  deriving DecidableEq, Repr

/-- `io::Error`。`io::Error::new(kind, msg)` は文言を持ち、`io::Error::from(kind)` は持たない。 -/
structure IoError where
  kind : ErrorKind
  msg : Option String
  deriving DecidableEq, Repr

/-- `ConnectionError` のうち、この file が返すもの。 -/
inductive ConnectionError where
  | ioError (e : IoError)
  | maximumRequestLengthExceeded
  deriving DecidableEq, Repr

/-! ## stream -/

/-- stream の `write` / `write_vectored` 一回の答え。`accept n` は先頭の `n` byte まで受け取る
（差し出された分より多くは受け取れない）。`wouldBlock` の後、呼び出し側は `writable()` を待って
やり直す。`writable()` の失敗も `fail` で表す（どちらも同じ `Err` になる）。 -/
inductive WriteResult where
  | accept (n : Nat)
  | wouldBlock
  | fail (kind : ErrorKind)
  deriving DecidableEq, Repr

/-- stream がこれまでに受け取った byte と fd。 -/
structure Wire where
  bytes : Bytes
  fds : List Fd
  deriving DecidableEq, Repr

/--
`stream.write(buf, fds)` が `n` byte を受け取ると答えたときの結果。

受け取るのは先頭の `min n buf.length` byte で、1 byte 以上受け取ったときは
`fds` も全部受け取って空にする。返すのは（新しい stream、残った fd、受け取った byte 数）。
-/
def Wire.write (w : Wire) (buf : Bytes) (fds : List Fd) (n : Nat) : Wire × List Fd × Nat :=
  let k := min n buf.length
  if k = 0 then (w, fds, 0) else (⟨w.bytes ++ buf.take k, w.fds ++ fds⟩, [], k)

/-- `Wire.write` の答えは二通りである。何も受け取らないか、先頭の `min n buf.length` byte と
fd を全部受け取るか。 -/
theorem Wire.write_cases (w : Wire) (buf : Bytes) (fds : List Fd) (n : Nat) :
    (min n buf.length = 0 ∧ w.write buf fds n = (w, fds, 0)) ∨
    (0 < min n buf.length ∧ w.write buf fds n =
      (⟨w.bytes ++ buf.take (min n buf.length), w.fds ++ fds⟩, [], min n buf.length)) := by
  by_cases h : min n buf.length = 0
  · exact .inl ⟨h, by simp [Wire.write, h]⟩
  · exact .inr ⟨Nat.pos_of_ne_zero h, by simp [Wire.write, h]⟩

end X11rbAsync
