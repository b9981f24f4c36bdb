import VirtioNetSwitch.Request

/-!
# The resumable transfer

The pending-transfer variant of `Virtio_net_transfer`, resumable when the receive queue
runs dry.  Its loop is modelled round by round and run on fuel above a variant, and it
appends to the used ring only when it returns `true`.
-/

namespace VirtioNetSwitch

/-- `Virtio_net_transfer`: the request `_request` with its own copy `_src_req_proc` of
the request processor, the destination port `_dst_dev` (its address), the destination
chain `_dst_head` being filled and its processor `_dst_req_proc`, whether the virtio-net
header has been written (`_dst_header` set), the cursors `_src` and `_dst`, the bytes
`_total` copied into the current chain, the chains `_consumed` filled before it, the
count `_num_merged` of chains taken and the mangle.  The receive queue `_dst_queue` is
the destination port's and is passed alongside. -/
structure VirtioNetTransfer where
  request : VirtioNetRequest
  srcReqProc : List Desc
  dst : Nat
  dstHead : Option Nat
  dstReqProc : List Desc
  dstHeader : Bool
  src : Buffer
  dstBuf : Buffer
  total : Nat
  consumed : List (Option Nat × Nat)
  numMerged : Nat
  mangle : VirtioVlanMangle
  deriving DecidableEq, Repr

/-- How a round of the loop of `transfer()` ends: with another round, or by leaving
`transfer()` with its result or an exception. -/
inductive Round where
  | next
  | done (r : Except Exc Bool)
  deriving Repr

namespace VirtioNetTransfer

/-- The constructor: the source cursor stands where classification left the request. -/
def new (request : VirtioNetRequest) (dst : Nat) (mangle : VirtioVlanMangle) :
    VirtioNetTransfer :=
  ⟨request, request.reqProc, dst, none, [], false, request.pkt, ⟨[]⟩, 0, [], 0, mangle⟩

/-- The loop condition `!_src.done() || next_src_buffer()`: the transfer with a source
buffer to copy from, or `none` when the source chain is exhausted. -/
def srcNext (t : VirtioNetTransfer) : Except Exc (Option VirtioNetTransfer) :=
  if !t.src.done then .ok (some t)
  else
    match next t.srcReqProc with
    | .ok (some (b, rest)) => .ok (some { t with src := b, srcReqProc := rest })
    | .ok none => .ok none
    | .error e => .error e

/-- The block `if (!_dst_head)`: take the next chain of the receive queue, and before
the first chain's payload write the virtio-net header, which must fit into its first
descriptor.  `false` is the `return false` on a queue that is not ready or empty. -/
def takeDst (t : VirtioNetTransfer) (q : Virtqueue) :
    Except Exc Bool × VirtioNetTransfer × Virtqueue :=
  match t.dstHead with
  | some _ => (.ok true, t, q)
  | none =>
      if !q.ready then (.ok false, t, q)
      else
        match q.nextAvail with
        | (none, q') => (.ok false, t, q')
        | (some head, q') =>
            match start (q'.chain head) with
            | .error e => (.error e, t, q')
            | .ok (b, rest) =>
                let t := { t with dstHead := some head, dstReqProc := rest, dstBuf := b }
                if !t.dstHeader then
                  if b.left < hdrSize then (.error .runtimeError, t, q')
                  else
                    let t := { t with dstHeader := true, total := hdrSize }
                    (.ok true,
                      { t with dstBuf := (b.skip hdrSize).1, numMerged := t.numMerged + 1 }, q')
                else (.ok true, { t with numMerged := t.numMerged + 1 }, q')

def copy (t : VirtioNetTransfer) : VirtioNetTransfer :=
  let r := t.mangle.copyPkt t.dstBuf t.src
  { t with mangle := r.1, dstBuf := r.2.1, src := r.2.2.1, total := t.total + r.2.2.2.length }

/-- The block after it: copy while the destination chain has room, else put the chain
aside in `_consumed` and drop the head, so that the next round takes a new chain. -/
def advance (t : VirtioNetTransfer) : Except Exc VirtioNetTransfer :=
  if !t.dstBuf.done then .ok t.copy
  else
    match next t.dstReqProc with
    | .ok (some (b, rest)) => .ok { t with dstBuf := b, dstReqProc := rest }.copy
    | .ok none =>
        let t := { t with consumed := t.consumed ++ [(t.dstHead, t.total)] }
        .ok { t with total := 0, dstHead := none }
    | .error e => .error e

/-- `finish_transfer()`: publish the copied chains on the destination's receive queue,
one chain by itself or the chains of `_consumed` and the current one together, once
the header has been written.  The source's `assert(_dst_head)` is not part of a
release build; an empty head is `none`. -/
def finishTransfer (t : VirtioNetTransfer) (q : Virtqueue) : VirtioNetTransfer × Virtqueue :=
  if !t.dstHeader then (t, q)
  else if t.consumed = [] then ({ t with dstHeader := false }, q.finish t.dstHead t.total)
  else ({ t with dstHeader := false }, q.finishAll (t.consumed ++ [(t.dstHead, t.total)]))

/-- One round of the loop of `transfer()`; leaving the loop at the end of the source
chain finishes the transfer and returns `true`. -/
def round (t : VirtioNetTransfer) (q : Virtqueue) : Round × VirtioNetTransfer × Virtqueue :=
  match t.srcNext with
  | .error e => (.done (.error e), t, q)
  | .ok none =>
      let r := t.finishTransfer q
      (.done (.ok true), r.1, r.2)
  | .ok (some t) =>
      match t.takeDst q with
      | (.ok true, t, q) =>
          match t.advance with
          | .ok t => (.next, t, q)
          | .error e => (.done (.error e), t, q)
      | (r, t, q) => (.done r, t, q)

/-- The loop on fuel; the fuel is never the reason it stops when it exceeds `measure`. -/
def transferLoop : Nat → VirtioNetTransfer → Virtqueue →
    Except Exc Bool × VirtioNetTransfer × Virtqueue
  | 0, t, q => (.ok false, t, q)
  | n + 1, t, q =>
      match t.round q with
      | (.next, t, q) => transferLoop n t q
      | (.done r, t, q) => (r, t, q)

def descsMeasure (ds : List Desc) : Nat :=
  (ds.map fun
    | .buf data => data.length + 1
    | .bad => 1).sum

/-- The chains of a queue not yet taken, each counted with its descriptors and bytes. -/
def availMeasure (q : Virtqueue) : Nat :=
  ((q.avail.drop q.current).map fun c => descsMeasure c + 2).sum

def srcMeasure (t : VirtioNetTransfer) : Nat := t.src.left + descsMeasure t.srcReqProc

/-- What is left to fill of the current chain, and the chains the queue still holds. -/
def dstMeasure (t : VirtioNetTransfer) (q : Virtqueue) : Nat :=
  (if t.dstHead.isSome then 1 else 0) + t.dstBuf.left + descsMeasure t.dstReqProc + availMeasure q

def measure (t : VirtioNetTransfer) (q : Virtqueue) : Nat := srcMeasure t + dstMeasure t q

/-- `transfer()`: `true` when the frame has been delivered and finished, `false` when
the receive queue ran out, or an exception. -/
def transfer (t : VirtioNetTransfer) (q : Virtqueue) :
    Except Exc Bool × VirtioNetTransfer × Virtqueue :=
  transferLoop (measure t q + 1) t q

/-! ## The destination is fixed -/

theorem srcNext_dst {t t' : VirtioNetTransfer} (h : t.srcNext = .ok (some t')) : t'.dst = t.dst := by
  unfold srcNext at h
  split at h
  · cases h
    rfl
  · split at h <;> cases h
    rfl

theorem takeDst_dst (t : VirtioNetTransfer) (q : Virtqueue) : (t.takeDst q).2.1.dst = t.dst := by
  unfold takeDst
  dsimp only
  repeat' split
  all_goals rfl

theorem advance_dst {t t' : VirtioNetTransfer} (h : t.advance = .ok t') : t'.dst = t.dst := by
  unfold advance at h
  split at h
  · cases h
    rfl
  · split at h <;> cases h <;> rfl

theorem finishTransfer_dst (t : VirtioNetTransfer) (q : Virtqueue) :
    (t.finishTransfer q).1.dst = t.dst := by
  unfold finishTransfer
  repeat' split
  all_goals rfl

theorem round_dst (t : VirtioNetTransfer) (q : Virtqueue) : (t.round q).2.1.dst = t.dst := by
  unfold round
  split
  · rfl
  · exact finishTransfer_dst t q
  · next t₁ hsrc =>
      have h₂ := takeDst_dst t₁ q
      split <;> rename_i htake <;> rw [htake] at h₂
      · split
        · next t₃ hadv => exact (advance_dst hadv).trans (h₂.trans (srcNext_dst hsrc))
        · exact h₂.trans (srcNext_dst hsrc)
      · exact h₂.trans (srcNext_dst hsrc)

theorem transferLoop_dst (n : Nat) (t : VirtioNetTransfer) (q : Virtqueue) :
    (transferLoop n t q).2.1.dst = t.dst := by
  induction n generalizing t q with
  | zero => rfl
  | succ n ih =>
      simp only [transferLoop]
      have hr := round_dst t q
      split
      · rename_i t' q' hround
        rw [hround] at hr
        exact (ih t' q').trans hr
      · rename_i r t' q' hround
        rw [hround] at hr
        exact hr

@[simp] theorem transfer_dst (t : VirtioNetTransfer) (q : Virtqueue) :
    (t.transfer q).2.1.dst = t.dst :=
  transferLoop_dst _ t q

/-! ## The loop terminates -/

@[simp] theorem descsMeasure_nil : descsMeasure [] = 0 := rfl

@[simp] theorem descsMeasure_cons_buf (data : List UInt8) (rest : List Desc) :
    descsMeasure (.buf data :: rest) = data.length + 1 + descsMeasure rest := by
  simp [descsMeasure]

theorem availMeasure_take {q : Virtqueue} (h : q.current < q.avail.length) :
    availMeasure q = descsMeasure (q.chain q.current) + 2 +
      availMeasure { q with current := q.current + 1 } := by
  unfold availMeasure Virtqueue.chain
  rw [List.drop_eq_getElem_cons h, List.map_cons, List.sum_cons, List.getD_eq_getElem?_getD,
    List.getElem?_eq_getElem h, Option.getD_some]

theorem srcNext_measure {t t' : VirtioNetTransfer} (h : t.srcNext = .ok (some t'))
    (q : Virtqueue) :
    (t'.src.done = false ∧ measure t' q ≤ measure t q) ∨ measure t' q < measure t q := by
  unfold srcNext at h
  split at h
  · rename_i hs
    cases h
    exact .inl ⟨by simpa using hs, le_rfl⟩
  · rename_i hs
    split at h
    · rename_i b rest hn
      cases h
      have hsrc : t.src.data = [] := by simpa using hs
      right
      simp [measure, srcMeasure, dstMeasure, next_eq_some hn, hsrc, Buffer.left]
    · cases h
    · cases h

theorem takeDst_measure {t t' : VirtioNetTransfer} {q q' : Virtqueue}
    (h : t.takeDst q = (.ok true, t', q')) :
    measure t' q' ≤ measure t q ∧ t'.dstHead.isSome ∧ t'.src = t.src := by
  unfold takeDst at h
  split at h
  · rename_i head hhead
    cases h
    simp [hhead]
  · rename_i hnone
    split at h
    · cases h
    · split at h
      · cases h
      · rename_i head q₁ hnext
        obtain ⟨rfl, hlt, rfl⟩ := Virtqueue.nextAvail_some hnext
        have havail := availMeasure_take hlt
        split at h
        · cases h
        · rename_i b rest hstart
          rw [show q.chain q.current = .buf b.data :: rest from start_eq_ok hstart,
            descsMeasure_cons_buf] at havail
          dsimp only at h
          split at h
          · split at h
            · cases h
            · simp only [Prod.mk.injEq, Except.ok.injEq] at h
              obtain ⟨-, rfl, rfl⟩ := h
              refine ⟨?_, rfl, rfl⟩
              simp only [measure, srcMeasure, dstMeasure, hnone, Buffer.skip, Buffer.left,
                List.length_drop, Option.isSome_none, Option.isSome_some, if_true,
                Bool.false_eq_true, if_false] at havail ⊢
              omega
          · simp only [Prod.mk.injEq, Except.ok.injEq] at h
            obtain ⟨-, rfl, rfl⟩ := h
            refine ⟨?_, rfl, rfl⟩
            simp only [measure, srcMeasure, dstMeasure, hnone, Buffer.left, Option.isSome_none,
              Option.isSome_some, if_true, Bool.false_eq_true, if_false] at havail ⊢
            omega

theorem copy_measure (t : VirtioNetTransfer) (q : Virtqueue) :
    measure t.copy q ≤ measure t q ∧
      (t.dstBuf.done = false → t.src.done = false → measure t.copy q < measure t q) := by
  obtain ⟨h1, h2⟩ := VirtioVlanMangle.copyPkt_left_le t.mangle t.dstBuf t.src
  refine ⟨?_, fun hd hs => ?_⟩
  · simp only [measure, srcMeasure, dstMeasure, copy]
    omega
  · have hlt := VirtioVlanMangle.copyPkt_left_lt t.mangle hd hs
    simp only [measure, srcMeasure, dstMeasure, copy]
    omega

theorem advance_measure {t t' : VirtioNetTransfer} (hhead : t.dstHead.isSome = true)
    (h : t.advance = .ok t') (q : Virtqueue) :
    measure t' q ≤ measure t q ∧ (t.src.done = false → measure t' q < measure t q) := by
  unfold advance at h
  split at h
  · rename_i hd
    cases h
    obtain ⟨hle, hlt⟩ := copy_measure t q
    exact ⟨hle, hlt (by simpa using hd)⟩
  · rename_i hd
    have hdst : t.dstBuf.data = [] := by simpa using hd
    split at h
    · rename_i b rest hn
      cases h
      have hpop : measure { t with dstBuf := b, dstReqProc := rest } q < measure t q := by
        simp only [measure, srcMeasure, dstMeasure, next_eq_some hn, hdst, Buffer.left,
          descsMeasure_cons_buf, List.length_nil]
        omega
      have hle := (copy_measure { t with dstBuf := b, dstReqProc := rest } q).1
      exact ⟨(hle.trans_lt hpop).le, fun _ => hle.trans_lt hpop⟩
    · cases h
      refine ⟨?_, fun _ => ?_⟩ <;> simp [measure, srcMeasure, dstMeasure, hhead]
    · cases h

theorem round_measure {t t' : VirtioNetTransfer} {q q' : Virtqueue}
    (h : t.round q = (.next, t', q')) : measure t' q' < measure t q := by
  unfold round at h
  split at h
  · cases h
  · cases h
  · rename_i t₁ hsrc
    split at h
    · rename_i t₂ q₂ htake
      split at h
      · rename_i t₃ hadv
        simp only [Prod.mk.injEq] at h
        obtain ⟨-, rfl, rfl⟩ := h
        obtain ⟨hle₂, hhead, hsrc₂⟩ := takeDst_measure htake
        obtain ⟨hle₃, hlt₃⟩ := advance_measure hhead hadv q₂
        rcases srcNext_measure hsrc q with ⟨hdone, hle₁⟩ | hlt₁
        · have := hlt₃ (by rw [hsrc₂]; exact hdone)
          omega
        · omega
      · cases h
    · cases h

theorem transferLoop_congr {n m : Nat} {t : VirtioNetTransfer} {q : Virtqueue}
    (hn : measure t q < n) (hm : measure t q < m) :
    transferLoop n t q = transferLoop m t q := by
  induction n generalizing m t q with
  | zero => omega
  | succ n ih =>
      obtain ⟨m, rfl⟩ : ∃ m', m = m' + 1 := ⟨m - 1, by omega⟩
      simp only [transferLoop]
      split
      · rename_i t' q' hround
        have hlt := round_measure hround
        exact ih (by omega) (by omega)
      · rfl

theorem takeDst_false {t t' : VirtioNetTransfer} {q q' : Virtqueue}
    (h : t.takeDst q = (.ok false, t', q')) : q'.ready = false ∨ q'.descAvail = false := by
  unfold takeDst at h
  split at h
  · cases h
  · split at h
    · next hr =>
        cases h
        exact .inl (by simpa using hr)
    · split at h
      · next q₁ hnext =>
          cases h
          obtain ⟨rfl, hd⟩ := Virtqueue.nextAvail_none hnext
          exact .inr hd
      · dsimp only at h
        repeat' split at h
        all_goals cases h

theorem round_false {t t' : VirtioNetTransfer} {q q' : Virtqueue}
    (h : t.round q = (.done (.ok false), t', q')) : q'.ready = false ∨ q'.descAvail = false := by
  unfold round at h
  split at h
  · cases h
  · cases h
  · split at h
    · split at h <;> cases h
    · next r t₂ q₂ _ htake =>
        simp only [Prod.mk.injEq, Round.done.injEq] at h
        obtain ⟨rfl, -, rfl⟩ := h
        exact takeDst_false htake

theorem transfer_false {t t' : VirtioNetTransfer} {q q' : Virtqueue}
    (h : t.transfer q = (.ok false, t', q')) : q'.ready = false ∨ q'.descAvail = false := by
  suffices ∀ n t q, measure t q < n → transferLoop n t q = (.ok false, t', q') →
      q'.ready = false ∨ q'.descAvail = false from this _ t q (Nat.lt_succ_self _) h
  intro n
  induction n with
  | zero => exact fun _ _ hn => absurd hn (Nat.not_lt_zero _)
  | succ n ih =>
      intro t q hn hl
      simp only [transferLoop] at hl
      split at hl
      · next t₁ q₁ hround => exact ih t₁ q₁ (by have := round_measure hround; omega) hl
      · next r t₁ q₁ hround =>
          simp only [Prod.mk.injEq] at hl
          obtain ⟨rfl, rfl, rfl⟩ := hl
          exact round_false hround

/-! ## Only a finished transfer publishes -/

theorem takeDst_used (t : VirtioNetTransfer) (q : Virtqueue) : (t.takeDst q).2.2.used = q.used := by
  unfold takeDst
  split
  · rfl
  · split
    · rfl
    · split
      · next q₁ hn => exact congrArg Virtqueue.used (Virtqueue.nextAvail_none hn).1
      · next head q₁ hn =>
          obtain ⟨-, -, rfl⟩ := Virtqueue.nextAvail_some hn
          dsimp only
          split
          · rfl
          · split
            · split <;> rfl
            · rfl

theorem finishTransfer_used (t : VirtioNetTransfer) (q : Virtqueue) :
    ∃ es, (t.finishTransfer q).2.used = q.used ++ es := by
  unfold finishTransfer
  split
  · exact ⟨[], (List.append_nil _).symm⟩
  · split
    · exact ⟨_, rfl⟩
    · exact ⟨_, rfl⟩

theorem round_used (t : VirtioNetTransfer) (q : Virtqueue) :
    ∃ es, (t.round q).2.2.used = q.used ++ es ∧ ((t.round q).1 = .done (.ok true) ∨ es = []) := by
  unfold round
  split
  · exact ⟨[], (List.append_nil _).symm, .inr rfl⟩
  · obtain ⟨es, hes⟩ := finishTransfer_used t q
    exact ⟨es, hes, .inl rfl⟩
  · next t₁ _ =>
      have hused := takeDst_used t₁ q
      split
      · next t₂ q₂ htake =>
          rw [htake] at hused
          split <;> exact ⟨[], by rw [List.append_nil]; exact hused, .inr rfl⟩
      · next r t₂ q₂ _ htake =>
          rw [htake] at hused
          exact ⟨[], by rw [List.append_nil]; exact hused, .inr rfl⟩

theorem transferLoop_used (n : Nat) (t : VirtioNetTransfer) (q : Virtqueue) :
    ∃ es, (transferLoop n t q).2.2.used = q.used ++ es ∧
      ((transferLoop n t q).1 = .ok true ∨ es = []) := by
  induction n generalizing t q with
  | zero => exact ⟨[], (List.append_nil _).symm, .inr rfl⟩
  | succ n ih =>
      obtain ⟨es, hes, hdone⟩ := round_used t q
      simp only [transferLoop]
      split
      · next t₁ q₁ hround =>
          rw [hround] at hes hdone
          obtain ⟨es', hes', hdone'⟩ := ih t₁ q₁
          have hnil : es = [] := hdone.resolve_left nofun
          subst hnil
          exact ⟨es', by rw [hes', hes, List.append_nil], hdone'⟩
      · next r t₁ q₁ hround =>
          rw [hround] at hes hdone
          exact ⟨es, hes, hdone.imp_left fun h => by cases h; rfl⟩

theorem transfer_used (t : VirtioNetTransfer) (q : Virtqueue) :
    ∃ es, (t.transfer q).2.2.used = q.used ++ es ∧ ((t.transfer q).1 = .ok true ∨ es = []) :=
  transferLoop_used _ t q

/-! ## Resuming is not one call

A stopped transfer keeps `_dst_head` empty once its chain is put aside, and the next
call leaves the loop when the source runs out before it takes another chain.  One call
on a queue that already holds the next chain takes it first, so the two publish
different chains. -/

theorem retried_transfer_differs :
    let request : VirtioNetRequest :=
      ⟨0, 0, [0, 1, 2, 3, 4, 5, 6, 7, 8, 9, 0, 0], ⟨[1, 2, 3, 4]⟩, [.buf [], .buf []]⟩
    let c₀ : List Desc := [.buf (List.replicate 16 0)]
    let c₁ : List Desc := [.buf (List.replicate 16 0)]
    let t := new request 1 .none
    let r₁ := t.transfer ⟨true, [c₀], 0, []⟩
    let r₂ := r₁.2.1.transfer (r₁.2.2.post c₁)
    let s := t.transfer ⟨true, [c₀, c₁], 0, []⟩
    r₁.1 = .ok false ∧ r₂.1 = .ok true ∧ r₂.2.2.used = [(some 0, 16), (none, 0)] ∧
      s.1 = .ok true ∧ s.2.2.used = [(some 0, 16), (some 1, 0)] := by
  decide

end VirtioNetTransfer

end VirtioNetSwitch
