import VirtioNetSwitch.Transfer.Pending

/-!
# The inline transfer

`Virtio_net_transfer::transfer` of `transfer.h`, modelled round by round for any `copy_pkt`
and run on fuel that a variant shows it never exhausts.  Every exit but delivery leaves the
used ring as it was.
-/

namespace VirtioNetSwitch

namespace InlineTransfer

open VirtioNetTransfer (descsMeasure availMeasure descsMeasure_nil descsMeasure_cons_buf
  availMeasure_take)

inductive Result where
  | delivered
  | exception
  | dropped
  deriving DecidableEq, Repr

/-- The locals of `transfer`: the source processor and buffer, the destination buffer
`dst` with `dstAt`, the descriptor of its chain and the offset in it that `dst.pos` points
to, `total`, `num_merged`, `consumed`, the chain `dst_head` being filled with its
processor, the chain whose first buffer holds the header `dst_header` points to, and the
mangle. -/
structure State where
  srcReqProc : List Desc
  src : Buffer
  dst : Buffer
  dstAt : Nat × Nat
  total : Nat
  numMerged : Nat
  consumed : List (Option Nat × Nat)
  dstHead : Option Nat
  dstReqProc : List Desc
  dstHeader : Option Nat
  mangle : VirtioVlanMangle
  deriving DecidableEq, Repr

/-- The locals before the first round: the source where classification left the request,
nothing taken from the destination. -/
def State.init (request : VirtioNetRequest) (mangle : VirtioVlanMangle) : State :=
  ⟨request.reqProc, request.pkt, ⟨[]⟩, (0, 0), 0, 0, [], none, [], none, mangle⟩

/-- A `copy_pkt(dst, src)`: the mangle, both buffers after the copy and the bytes written
at the destination. -/
abbrev CopyPkt :=
  VirtioVlanMangle → Buffer → Buffer → VirtioVlanMangle × Buffer × Buffer × List UInt8

/-- How a round ends: with another round, or by leaving `transfer` with its result or an
exception. -/
inductive Step where
  | next
  | done (r : Except Exc Result)

/-- `num_buffers` as the two little-endian bytes of the `l4_uint16_t` field. -/
def le16 (n : Nat) : List UInt8 := [UInt8.ofNat n, UInt8.ofNat (n / 256)]

/-- `dst_queue->rewind_avail(head)`; the transfer only rewinds to heads it holds. -/
def rewindTo (q : Virtqueue) : Option Nat → Virtqueue
  | some head => q.rewindAvail head
  | none => q

def writeAt (q : Virtqueue) : Option Nat → Nat × Nat → List UInt8 → Virtqueue
  | some head, (idx, off), bytes => q.write head idx off bytes
  | none, _, _ => q

/-- The loop head `if (src.done() && !src_req_proc.next(&src)) break;`: the state with
a source buffer, or `none` to leave the loop. -/
def srcNext (st : State) : Except Exc (Option State) :=
  if !st.src.done then .ok (some st)
  else
    match next st.srcReqProc with
    | .ok (some (b, rest)) => .ok (some { st with src := b, srcReqProc := rest })
    | .ok none => .ok none
    | .error e => .error e

/-- The handler of `Bad_descriptor` on the source: rewind to the first chain taken,
the front of `consumed` or else the current head. -/
def rewindTaken (st : State) (q : Virtqueue) : Virtqueue :=
  match st.consumed with
  | (head, _) :: _ => rewindTo q head
  | [] => rewindTo q st.dstHead

/-- The block `if (!dst_head)`: take a chain, and in the first one write the header
`header` (`rewrite_hdr` is a no-op) and skip it.  `some r` leaves `transfer` with `r`. -/
def takeDst (header : List UInt8) (st : State) (q : Virtqueue) :
    Option (Except Exc Result) × State × Virtqueue :=
  match st.dstHead with
  | some _ => (none, st, q)
  | none =>
      if !q.ready then (some (.ok .dropped), st, q)
      else
        match q.nextAvail with
        | (none, q) =>
            match st.consumed with
            | (head, _) :: _ => (some (.ok .dropped), st, rewindTo q head)
            | [] => (some (.ok .dropped), st, q)
        | (some head, q) =>
            match start (q.chain head) with
            | .error _ => (some (.ok .exception), st, q)
            | .ok (b, rest) =>
                let st := { st with dstHead := some head, dstReqProc := rest, dst := b,
                                    dstAt := (0, 0) }
                if st.dstHeader.isNone then
                  if b.left < hdrSize then (some (.error .runtimeError), st, q)
                  else
                    (none, { st with dstHeader := some head, total := hdrSize,
                                     dst := (b.skip hdrSize).1, dstAt := (0, hdrSize),
                                     numMerged := st.numMerged + 1 },
                      q.write head 0 0 header)
                else (none, { st with numMerged := st.numMerged + 1 }, q)

/-- `has_next_dst_buffer = dst_req_proc.next(&dst)`, then copy if the current buffer has
room or a next buffer was loaded, else put the chain aside. -/
def advance (cp : CopyPkt) (st : State) (q : Virtqueue) :
    Option (Except Exc Result) × State × Virtqueue :=
  match next st.dstReqProc with
  | .error _ => (some (.ok .exception), st, q)
  | .ok r =>
      let (st, hasNext) : State × Bool :=
        match r with
        | some (b, rest) => ({ st with dst := b, dstReqProc := rest, dstAt := (st.dstAt.1 + 1, 0) },
            true)
        | none => (st, false)
      if !st.dst.done || hasNext then
        let c := cp st.mangle st.dst st.src
        (none, { st with mangle := c.1, dst := c.2.1, src := c.2.2.1,
                         total := st.total + c.2.2.2.length,
                         dstAt := (st.dstAt.1, st.dstAt.2 + (st.dst.left - c.2.1.left)) },
          writeAt q st.dstHead st.dstAt c.2.2.2)
      else
        (none, { st with consumed := st.consumed ++ [(st.dstHead, st.total)], total := 0,
                         dstHead := none }, q)

/-- After the loop: drop a frame that never got a header, else write `num_buffers` and
publish one chain by itself or the chains of `consumed` with the current one.  The
`assert`s are not part of a release build; an empty head is `none`. -/
def finalize (st : State) (q : Virtqueue) : Except Exc Result × Virtqueue :=
  match st.dstHeader with
  | none => (.ok .dropped, q)
  | some hdr =>
      if st.consumed = [] then
        (.ok .delivered, (q.write hdr 0 10 (le16 1)).finish st.dstHead st.total)
      else
        (.ok .delivered, (q.write hdr 0 10 (le16 st.numMerged)).finishAll
          (st.consumed ++ [(st.dstHead, st.total)]))

def round (cp : CopyPkt) (header : List UInt8) (st : State) (q : Virtqueue) :
    Step × State × Virtqueue :=
  match srcNext st with
  | .error e => (.done (.error e), st, rewindTaken st q)
  | .ok none =>
      let r := finalize st q
      (.done r.1, st, r.2)
  | .ok (some st) =>
      match takeDst header st q with
      | (some r, st, q) => (.done r, st, q)
      | (none, st, q) =>
          match advance cp st q with
          | (some r, st, q) => (.done r, st, q)
          | (none, st, q) => (.next, st, q)

/-- The loop on fuel, `none` when the fuel runs out. -/
def transferLoop (cp : CopyPkt) (header : List UInt8) :
    Nat → State → Virtqueue → Option (Except Exc Result × Virtqueue)
  | 0, _, _ => none
  | n + 1, st, q =>
      match round cp header st q with
      | (.next, st, q) => transferLoop cp header n st q
      | (.done r, _, q) => some (r, q)

/-- A variant of the loop: the bytes and descriptors left on the source, the current
chain and what is left of it, and the chains the queue still holds. -/
def measure (st : State) (q : Virtqueue) : Nat :=
  st.src.left + descsMeasure st.srcReqProc + (if st.dstHead.isSome then 1 else 0) +
    st.dst.left + descsMeasure st.dstReqProc + availMeasure q

/-- `Virtio_net_transfer::transfer(request, dst_dev, dst_queue, mangle)`: the result or
exception and the destination queue afterwards, with fuel the loop never exhausts
(`transfer_isSome`). -/
def transfer (request : VirtioNetRequest) (q : Virtqueue) (mangle : VirtioVlanMangle) :
    Option (Except Exc Result × Virtqueue) :=
  transferLoop VirtioVlanMangle.copyPkt request.header
    (measure (State.init request mangle) q + 1) (State.init request mangle) q

/-! ## Writes keep the variant -/

theorem descsMeasure_cons (d : Desc) (l : List Desc) :
    descsMeasure (d :: l) = descsMeasure [d] + descsMeasure l := by
  simp [descsMeasure]

theorem descsMeasure_set_write (c : List Desc) (idx off : Nat) (bytes : List UInt8) :
    descsMeasure (c.set idx ((c.getD idx .bad).write off bytes)) = descsMeasure c := by
  induction c generalizing idx with
  | nil => rfl
  | cons d c ih =>
      cases idx with
      | zero =>
          cases d with
          | buf data =>
              simp only [List.set_cons_zero, List.getD_cons_zero, Desc.write, descsMeasure_cons_buf,
                List.length_take, List.length_append, List.length_drop]
              omega
          | bad => rfl
      | succ idx =>
          rw [List.set_cons_succ, List.getD_cons_succ, descsMeasure_cons, ih, ← descsMeasure_cons]

@[simp] theorem availMeasure_write (q : Virtqueue) (head idx off : Nat) (bytes : List UInt8) :
    availMeasure (q.write head idx off bytes) = availMeasure q := by
  have hmap : (q.write head idx off bytes).avail.map (fun c => descsMeasure c + 2) =
      q.avail.map (fun c => descsMeasure c + 2) := by
    refine List.ext_getElem? fun i => ?_
    simp only [Virtqueue.write, List.getElem?_map]
    by_cases hi : i = head
    · subst hi
      by_cases hlt : i < q.avail.length
      · rw [List.getElem?_set_self hlt, List.getElem?_eq_getElem hlt, Option.map_some',
          Option.map_some', Virtqueue.chain, List.getD_eq_getElem _ _ hlt, descsMeasure_set_write]
      · rw [List.set_eq_of_length_le (not_lt.mp hlt)]
    · rw [List.getElem?_set_ne (Ne.symm hi)]
  unfold availMeasure
  rw [Virtqueue.write_current, List.map_drop, List.map_drop, hmap]

@[simp] theorem availMeasure_writeAt (q : Virtqueue) (head : Option Nat) (at_ : Nat × Nat)
    (bytes : List UInt8) : availMeasure (writeAt q head at_ bytes) = availMeasure q := by
  obtain ⟨idx, off⟩ := at_
  cases head <;> simp [writeAt]

theorem next_eq_none {ds : List Desc} (h : next ds = .ok none) : ds = [] := by
  match ds, h with
  | [], _ => rfl

/-! ## The loop terminates -/

/-- What `copy_pkt` has to do for the loop to end: never move a cursor back, and move one
forward whenever both buffers hold bytes. -/
structure CopyProgress (cp : CopyPkt) : Prop where
  left_le : ∀ m dst src, (cp m dst src).2.1.left ≤ dst.left ∧ (cp m dst src).2.2.1.left ≤ src.left
  left_lt : ∀ m dst src, dst.done = false → src.done = false →
    (cp m dst src).2.1.left + (cp m dst src).2.2.1.left < dst.left + src.left

theorem copyProgress_copyPkt : CopyProgress VirtioVlanMangle.copyPkt :=
  ⟨VirtioVlanMangle.copyPkt_left_le, fun m _ _ hd hs => VirtioVlanMangle.copyPkt_left_lt m hd hs⟩

theorem srcNext_measure {st st' : State} (h : srcNext st = .ok (some st')) (q : Virtqueue) :
    (st'.src.done = false ∧ measure st' q ≤ measure st q) ∨ measure st' q < measure st q := by
  unfold srcNext at h
  split at h
  · next hs =>
      cases h
      exact .inl ⟨by simpa using hs, le_rfl⟩
  · next hs =>
      split at h
      · next b rest hn =>
          cases h
          have hsrc : st.src.data = [] := by simpa using hs
          right
          simp only [measure, next_eq_some hn, descsMeasure_cons_buf, Buffer.left, hsrc,
            List.length_nil]
          omega
      · cases h
      · cases h

theorem takeDst_measure {header : List UInt8} {st st' : State} {q q' : Virtqueue}
    (h : takeDst header st q = (none, st', q')) :
    measure st' q' ≤ measure st q ∧ st'.dstHead.isSome ∧ st'.src = st.src := by
  unfold takeDst at h
  split at h
  · next head hhead =>
      cases h
      exact ⟨le_rfl, by simp [hhead], rfl⟩
  · next hnone =>
      split at h
      · cases h
      · split at h
        · split at h <;> cases h
        · next head q₁ hnext =>
            obtain ⟨rfl, hlt, rfl⟩ := Virtqueue.nextAvail_some hnext
            have havail := availMeasure_take hlt
            split at h
            · cases h
            · next b rest hstart =>
                rw [show q.chain q.current = .buf b.data :: rest from start_eq_ok hstart,
                  descsMeasure_cons_buf] at havail
                dsimp only at h
                split at h
                · split at h
                  · cases h
                  · simp only [Prod.mk.injEq] at h
                    obtain ⟨-, rfl, rfl⟩ := h
                    refine ⟨?_, rfl, rfl⟩
                    simp only [measure, hnone, availMeasure_write, Buffer.skip, Buffer.left,
                      List.length_drop, Option.isSome_none, Option.isSome_some, if_true,
                      Bool.false_eq_true, if_false] at havail ⊢
                    omega
                · simp only [Prod.mk.injEq] at h
                  obtain ⟨-, rfl, rfl⟩ := h
                  refine ⟨?_, rfl, rfl⟩
                  simp only [measure, hnone, Buffer.left, Option.isSome_none, Option.isSome_some,
                    if_true, Bool.false_eq_true, if_false] at havail ⊢
                  omega

section Progress

variable {cp : CopyPkt} (hcp : CopyProgress cp)
include hcp

theorem advance_measure {st st' : State} {q q' : Virtqueue} (hhead : st.dstHead.isSome = true)
    (h : advance cp st q = (none, st', q')) :
    measure st' q' ≤ measure st q ∧ (st.src.done = false → measure st' q' < measure st q) := by
  unfold advance at h
  split at h
  · cases h
  · next r hn =>
      rcases r with _ | ⟨b, rest⟩
      · dsimp only at h
        split at h
        · next hroom =>
            simp only [Prod.mk.injEq] at h
            obtain ⟨-, rfl, rfl⟩ := h
            have hd : st.dst.done = false := by simpa using hroom
            have hle := hcp.left_le st.mangle st.dst st.src
            have hlt := hcp.left_lt st.mangle st.dst st.src hd
            simp only [measure, availMeasure_writeAt]
            exact ⟨by omega, fun hs => by have := hlt hs; omega⟩
        · simp only [Prod.mk.injEq] at h
          obtain ⟨-, rfl, rfl⟩ := h
          simp only [measure, hhead, if_true, Option.isSome_none, Bool.false_eq_true, if_false]
          omega
      · have hds := next_eq_some hn
        dsimp only at h
        rw [if_pos (by simp)] at h
        simp only [Prod.mk.injEq] at h
        obtain ⟨-, rfl, rfl⟩ := h
        have hle := hcp.left_le st.mangle b st.src
        simp only [measure, availMeasure_writeAt, hds, descsMeasure_cons_buf, Buffer.left] at hle ⊢
        omega

theorem round_measure {header : List UInt8} {st st' : State} {q q' : Virtqueue}
    (h : round cp header st q = (.next, st', q')) : measure st' q' < measure st q := by
  unfold round at h
  split at h
  · cases h
  · cases h
  · next st₁ hsrc =>
      split at h
      · cases h
      · next st₂ q₂ htake =>
          split at h
          · cases h
          · next st₃ q₃ hadv =>
              simp only [Prod.mk.injEq] at h
              obtain ⟨-, rfl, rfl⟩ := h
              obtain ⟨hle₂, hhead, hsrc₂⟩ := takeDst_measure htake
              obtain ⟨hle₃, hlt₃⟩ := advance_measure hcp hhead hadv
              rcases srcNext_measure hsrc q with ⟨hdone, hle₁⟩ | hlt₁
              · have := hlt₃ (by rw [hsrc₂]; exact hdone)
                omega
              · omega

theorem transferLoop_isSome (header : List UInt8) :
    ∀ (n : Nat) (st : State) (q : Virtqueue), measure st q < n →
      (transferLoop cp header n st q).isSome
  | 0, _, _, hn => absurd hn (Nat.not_lt_zero _)
  | n + 1, st, q, hn => by
      simp only [transferLoop]
      split
      · next st' q' hround =>
          exact transferLoop_isSome header n st' q' (by have := round_measure hcp hround; omega)
      · rfl

theorem transferLoop_congr (header : List UInt8) :
    ∀ {n m : Nat} {st : State} {q : Virtqueue}, measure st q < n → measure st q < m →
      transferLoop cp header n st q = transferLoop cp header m st q
  | 0, _, _, _, hn, _ => absurd hn (Nat.not_lt_zero _)
  | _, 0, _, _, _, hm => absurd hm (Nat.not_lt_zero _)
  | n + 1, m + 1, st, q, hn, hm => by
      simp only [transferLoop]
      split
      · next st' q' hround =>
          have := round_measure hcp hround
          exact transferLoop_congr header (by omega) (by omega)
      · rfl

end Progress

theorem inline_transfer_terminates (cp : CopyPkt) (hcp : CopyProgress cp) (header : List UInt8)
    (st : State) (q : Virtqueue) :
    ∃ r, ∀ n, measure st q < n → transferLoop cp header n st q = some r := by
  obtain ⟨r, hr⟩ := Option.isSome_iff_exists.mp
    (transferLoop_isSome hcp header (measure st q + 1) st q (Nat.lt_succ_self _))
  exact ⟨r, fun n hn => (transferLoop_congr hcp header hn (Nat.lt_succ_self _)).trans hr⟩

theorem inline_transfer_terminates_with_copyPkt :
    CopyProgress VirtioVlanMangle.copyPkt ∧
      ∃ r, ∀ n, measure (State.init ⟨0, 0, [], ⟨[1]⟩, []⟩ .none) ⟨true, [[.buf [0]]], 0, []⟩ < n →
        transferLoop VirtioVlanMangle.copyPkt [] n (State.init ⟨0, 0, [], ⟨[1]⟩, []⟩ .none)
          ⟨true, [[.buf [0]]], 0, []⟩ = some r :=
  ⟨copyProgress_copyPkt, inline_transfer_terminates _ copyProgress_copyPkt _ _ _⟩

/-- `transfer` always comes back with a result or an exception. -/
theorem transfer_isSome (request : VirtioNetRequest) (q : Virtqueue) (mangle : VirtioVlanMangle) :
    (transfer request q mangle).isSome :=
  transferLoop_isSome copyProgress_copyPkt _ _ _ _ (Nat.lt_succ_self _)

/-! ## Only a delivered frame is published -/

/-- What an exit of `transfer` with result `r` may have done to the used ring: appended
the entries of one frame if it delivered, nothing otherwise. -/
def Publishes : Except Exc Result → Virtqueue → Virtqueue → Prop
  | .ok .delivered, q, q' => ∃ es, es ≠ [] ∧ q'.used = q.used ++ es
  | _, q, q' => q'.used = q.used

theorem publishes_of_ne {r : Except Exc Result} {q q' : Virtqueue} (hr : r ≠ .ok .delivered)
    (h : q'.used = q.used) : Publishes r q q' := by
  rcases r with e | _ | _ | _
  exacts [h, (hr rfl).elim, h, h]

theorem Publishes.of_used_eq {r : Except Exc Result} {q₀ q q' : Virtqueue}
    (h : Publishes r q q') (h₀ : q.used = q₀.used) : Publishes r q₀ q' := by
  rcases r with e | _ | _ | _ <;> simp only [Publishes, h₀] at h ⊢ <;> exact h

@[simp] theorem rewindTo_used (q : Virtqueue) (head : Option Nat) :
    (rewindTo q head).used = q.used := by
  cases head <;> rfl

@[simp] theorem writeAt_used (q : Virtqueue) (head : Option Nat) (at_ : Nat × Nat)
    (bytes : List UInt8) : (writeAt q head at_ bytes).used = q.used := by
  obtain ⟨idx, off⟩ := at_
  cases head <;> rfl

theorem rewindTaken_used (st : State) (q : Virtqueue) : (rewindTaken st q).used = q.used := by
  unfold rewindTaken
  split <;> simp

theorem takeDst_used (header : List UInt8) (st : State) (q : Virtqueue) :
    (takeDst header st q).1 ≠ some (.ok .delivered) ∧ (takeDst header st q).2.2.used = q.used := by
  unfold takeDst
  split
  · exact ⟨nofun, rfl⟩
  · split
    · exact ⟨by simp, rfl⟩
    · split
      · next q₁ hn =>
          obtain ⟨rfl, -⟩ := Virtqueue.nextAvail_none hn
          split <;> simp
      · next head q₁ hn =>
          obtain ⟨-, -, rfl⟩ := Virtqueue.nextAvail_some hn
          split
          · exact ⟨by simp, rfl⟩
          · dsimp only
            split
            · split
              · exact ⟨by simp, rfl⟩
              · exact ⟨nofun, rfl⟩
            · exact ⟨nofun, rfl⟩

theorem advance_used (cp : CopyPkt) (st : State) (q : Virtqueue) :
    (advance cp st q).1 ≠ some (.ok .delivered) ∧ (advance cp st q).2.2.used = q.used := by
  unfold advance
  split
  · exact ⟨by simp, rfl⟩
  · dsimp only
    split
    · exact ⟨nofun, writeAt_used _ _ _ _⟩
    · exact ⟨nofun, rfl⟩

theorem finalize_publishes (st : State) (q : Virtqueue) :
    Publishes (finalize st q).1 q (finalize st q).2 := by
  unfold finalize
  split
  · rfl
  · split
    · exact ⟨[(st.dstHead, st.total)], List.cons_ne_nil _ _, rfl⟩
    · exact ⟨st.consumed ++ [(st.dstHead, st.total)], by simp, rfl⟩

theorem round_publishes (cp : CopyPkt) (header : List UInt8) (st : State) (q : Virtqueue) :
    ((round cp header st q).1 = .next → (round cp header st q).2.2.used = q.used) ∧
      ∀ r, (round cp header st q).1 = .done r → Publishes r q (round cp header st q).2.2 := by
  unfold round
  split
  · exact ⟨nofun, fun r hr => by cases hr; exact publishes_of_ne nofun (rewindTaken_used st q)⟩
  · exact ⟨nofun, fun r hr => by cases hr; exact finalize_publishes st q⟩
  · next st₁ _ =>
      obtain ⟨htake_ne, htake_used⟩ := takeDst_used header st₁ q
      split
      · next r₁ st₂ q₂ htake =>
          rw [htake] at htake_ne htake_used
          exact ⟨nofun, fun r hr => by
            cases hr; exact publishes_of_ne (fun h => htake_ne (congrArg some h)) htake_used⟩
      · next st₂ q₂ htake =>
          rw [htake] at htake_used
          obtain ⟨hadv_ne, hadv_used⟩ := advance_used cp st₂ q₂
          split
          · next r₁ st₃ q₃ hadv =>
              rw [hadv] at hadv_ne hadv_used
              exact ⟨nofun, fun r hr => by
                cases hr
                exact publishes_of_ne (fun h => hadv_ne (congrArg some h))
                  (hadv_used.trans htake_used)⟩
          · next st₃ q₃ hadv =>
              rw [hadv] at hadv_used
              exact ⟨fun _ => hadv_used.trans htake_used, nofun⟩

theorem transferLoop_publishes (cp : CopyPkt) (header : List UInt8) :
    ∀ (n : Nat) (st : State) (q : Virtqueue) {r : Except Exc Result} {q' : Virtqueue},
      transferLoop cp header n st q = some (r, q') → Publishes r q q'
  | 0, _, _, _, _, h => nomatch h
  | n + 1, st, q, r, q', h => by
      have hround := round_publishes cp header st q
      simp only [transferLoop] at h
      split at h
      · next st₁ q₁ heq =>
          rw [heq] at hround
          exact (transferLoop_publishes cp header n st₁ q₁ h).of_used_eq (hround.1 rfl)
      · next r₁ st₁ q₁ heq =>
          rw [heq] at hround
          cases h
          exact hround.2 r rfl

theorem transfer_publishes (request : VirtioNetRequest) (q : Virtqueue)
    (mangle : VirtioVlanMangle) {r : Except Exc Result} {q' : Virtqueue}
    (h : transfer request q mangle = some (r, q')) : Publishes r q q' :=
  transferLoop_publishes _ _ _ _ _ h

theorem transfer_publishes_one_chain :
    let request : VirtioNetRequest := ⟨0, 0, List.replicate 12 0, ⟨[1, 2, 3, 4]⟩, []⟩
    let q : Virtqueue := ⟨true, [[.buf (List.replicate 16 0)]], 0, []⟩
    let q' : Virtqueue :=
      ⟨true, [[.buf [0, 0, 0, 0, 0, 0, 0, 0, 0, 0, 1, 0, 1, 2, 3, 4]]], 1, [(some 0, 16)]⟩
    transfer request q .none = some (.ok .delivered, q') ∧ Publishes (.ok .delivered) q q' := by
  intro request q q'
  have h : transfer request q .none = some (.ok .delivered, q') := by decide
  exact ⟨h, transfer_publishes request q _ h⟩

/-! ## The main path -/

theorem srcNext_of_not_done {st : State} (h : st.src.done = false) :
    srcNext st = .ok (some st) := by
  simp [srcNext, h]

theorem takeDst_first (header : List UInt8) {st : State} {q : Virtqueue} {d : List UInt8}
    {rest : List Desc} (hhead : st.dstHead = none) (hhdr : st.dstHeader = none)
    (hready : q.ready = true) (hcur : q.current < q.avail.length)
    (hchain : q.chain q.current = .buf d :: rest) (hroom : hdrSize ≤ d.length) :
    takeDst header st q = (none,
      { st with dstHead := some q.current, dstReqProc := rest, dst := ⟨d.drop hdrSize⟩,
                dstAt := (0, hdrSize), dstHeader := some q.current, total := hdrSize,
                numMerged := st.numMerged + 1 },
      ({ q with current := q.current + 1 } : Virtqueue).write q.current 0 0 header) := by
  have hnext : q.nextAvail = (some q.current, { q with current := q.current + 1 }) := by
    simp [Virtqueue.nextAvail, hcur]
  have hchain' : q.avail.getD q.current [] = .buf d :: rest := hchain
  simp only [takeDst, hhead, hready, Bool.not_true, Bool.false_eq_true, if_false, hnext,
    Virtqueue.chain, hchain', start, hhdr, Option.isNone_none, if_true, Buffer.left_mk,
    if_neg (not_lt.mpr hroom), Buffer.skip]

theorem advance_last (cp : CopyPkt) {st : State} (q : Virtqueue) (hn : st.dstReqProc = [])
    (hroom : st.dst.done = false) :
    advance cp st q =
      (none, { st with mangle := (cp st.mangle st.dst st.src).1,
                       dst := (cp st.mangle st.dst st.src).2.1,
                       src := (cp st.mangle st.dst st.src).2.2.1,
                       total := st.total + (cp st.mangle st.dst st.src).2.2.2.length,
                       dstAt := (st.dstAt.1,
                         st.dstAt.2 + (st.dst.left - (cp st.mangle st.dst st.src).2.1.left)) },
        writeAt q st.dstHead st.dstAt (cp st.mangle st.dst st.src).2.2.2) := by
  simp [advance, hn, next, hroom]

theorem chainBytes_header_payload {q : Virtqueue} {head : Nat} {header p d : List UInt8}
    (hh : head < q.avail.length) (hc : q.chain head = [.buf d]) (hhdr : header.length = hdrSize)
    (hroom : hdrSize + p.length ≤ d.length) :
    ((((q.write head 0 0 header).write head 0 hdrSize p).write head 0 10 (le16 1)).chainBytes
      head).take (hdrSize + p.length) = header.take 10 ++ le16 1 ++ p := by
  have h12 : hdrSize = 12 := rfl
  have c1 : (q.write head 0 0 header).chain head = [.buf (header ++ d.drop hdrSize)] := by
    rw [Virtqueue.chain_write_single hh hc (by omega : 0 + header.length ≤ d.length)]
    simp [hhdr]
  have c2 : ((q.write head 0 0 header).write head 0 hdrSize p).chain head =
      [.buf (header ++ (p ++ d.drop (hdrSize + p.length)))] := by
    rw [Virtqueue.chain_write_single (by rwa [Virtqueue.length_avail_write]) c1
      (by simp only [List.length_append, List.length_drop]; omega :
        hdrSize + p.length ≤ (header ++ d.drop hdrSize).length),
      List.take_left' hhdr, ← hhdr, List.drop_append, List.drop_drop, List.append_assoc, hhdr]
  have c3 : (((q.write head 0 0 header).write head 0 hdrSize p).write head 0 10 (le16 1)).chain
      head = [.buf (header.take 10 ++ le16 1 ++ (p ++ d.drop (hdrSize + p.length)))] := by
    rw [Virtqueue.chain_write_single (by rwa [Virtqueue.length_avail_write,
      Virtqueue.length_avail_write]) c2
      (by simp only [le16, List.length_append, List.length_drop, List.length_cons,
          List.length_nil]; omega :
        10 + (le16 1).length ≤ (header ++ (p ++ d.drop (hdrSize + p.length))).length),
      List.take_append_of_le_length (by omega), List.drop_left' (by simp [le16, hhdr, h12])]
  simp only [Virtqueue.chainBytes, c3, List.flatMap_cons, List.flatMap_nil, Desc.bytes,
    List.append_nil]
  rw [← List.append_assoc, List.take_left' (by simp [le16, hhdr]; omega)]

theorem transfer_one_buffer_run (request : VirtioNetRequest) (q : Virtqueue) {d : List UInt8}
    (hpkt : request.pkt.data ≠ []) (hproc : request.reqProc = []) (hready : q.ready = true)
    (hcur : q.current < q.avail.length) (hchain : q.chain q.current = [.buf d])
    (hroom : hdrSize + request.pkt.left ≤ d.length) :
    transfer request q .none = some (.ok .delivered,
      (((({ q with current := q.current + 1 } : Virtqueue).write q.current 0 0 request.header).write
        q.current 0 hdrSize request.pkt.data).write q.current 0 10 (le16 1)).finish
          (some q.current) (hdrSize + request.pkt.left)) := by
  obtain ⟨dev, head, header, ⟨p⟩, reqProc⟩ := request
  dsimp only at hpkt hproc hroom ⊢
  subst hproc
  simp only [Buffer.left_mk] at hroom ⊢
  have hp := List.length_pos.mpr hpkt
  -- two rounds of fuel at least: the variant counts the payload's bytes
  obtain ⟨k, hk⟩ : ∃ k, measure (State.init ⟨dev, head, header, ⟨p⟩, []⟩ .none) q + 1 = k + 2 :=
    ⟨measure (State.init ⟨dev, head, header, ⟨p⟩, []⟩ .none) q - 1, by
      simp only [measure, State.init, Buffer.left_mk]
      omega⟩
  unfold transfer
  rw [hk]
  simp only [transferLoop, round,
    @srcNext_of_not_done (State.init ⟨dev, head, header, ⟨p⟩, []⟩ .none)
      (by simpa [State.init, Buffer.done] using hpkt)]
  rw [takeDst_first header rfl rfl hready hcur hchain (by omega)]
  simp only [State.init]
  rw [advance_last]
  · dsimp only
    rw [VirtioVlanMangle.copyPkt_none]
    simp only [Buffer.left_mk, List.length_drop]
    rw [min_eq_right (by omega), List.drop_length, List.take_length]
    simp only [srcNext, Buffer.done, List.isEmpty_nil, Bool.not_true, next, Bool.false_eq_true,
      if_false, finalize, if_true, writeAt]
  · rfl
  · simp only [Buffer.done, Bool.eq_false_iff, ne_eq, List.isEmpty_iff, List.drop_eq_nil_iff]
    omega

/-- The main path delivers: the chain is taken and published with the header and the
payload behind it, `num_buffers` one. -/
theorem transfer_one_buffer (request : VirtioNetRequest) (q : Virtqueue) {d : List UInt8}
    (hhdr : request.header.length = hdrSize) (hpkt : request.pkt.data ≠ [])
    (hproc : request.reqProc = []) (hready : q.ready = true)
    (hcur : q.current < q.avail.length) (hchain : q.chain q.current = [.buf d])
    (hroom : hdrSize + request.pkt.left ≤ d.length) :
    ∃ q', transfer request q .none = some (.ok .delivered, q') ∧
      q'.current = q.current + 1 ∧
      q'.used = q.used ++ [(some q.current, hdrSize + request.pkt.left)] ∧
      (q'.chainBytes q.current).take (hdrSize + request.pkt.left) =
        request.header.take 10 ++ le16 1 ++ request.pkt.data :=
  ⟨_, transfer_one_buffer_run request q hpkt hproc hready hcur hchain hroom, rfl, rfl,
    chainBytes_header_payload (q := { q with current := q.current + 1 }) hcur hchain hhdr hroom⟩

theorem transfer_one_buffer_four_bytes :
    let request : VirtioNetRequest := ⟨0, 0, List.replicate 12 0, ⟨[1, 2, 3, 4]⟩, []⟩
    let q : Virtqueue := ⟨true, [[.buf (List.replicate 16 0)]], 0, []⟩
    request.header.length = hdrSize ∧ request.pkt.data ≠ [] ∧ request.reqProc = [] ∧
      q.ready = true ∧ q.current < q.avail.length ∧
      q.chain q.current = [.buf (List.replicate 16 0)] ∧
      hdrSize + request.pkt.left ≤ (List.replicate 16 (0 : UInt8)).length ∧
      ∃ q', transfer request q .none = some (.ok .delivered, q') ∧
        q'.current = q.current + 1 ∧
        q'.used = q.used ++ [(some q.current, hdrSize + request.pkt.left)] ∧
        (q'.chainBytes q.current).take (hdrSize + request.pkt.left) =
          request.header.take 10 ++ le16 1 ++ request.pkt.data := by
  intro request q
  have hpkt : request.pkt.data ≠ [] := by decide
  have hcur : q.current < q.avail.length := by decide
  have hroom : hdrSize + request.pkt.left ≤ (List.replicate 16 (0 : UInt8)).length := by decide
  exact ⟨rfl, hpkt, rfl, rfl, hcur, rfl, hroom,
    transfer_one_buffer request q rfl hpkt rfl rfl hcur rfl hroom⟩

/-! ## Where the inline transfer goes wrong -/

theorem inline_transfer_leaves_hole :
    let request : VirtioNetRequest :=
      ⟨0, 0, [0, 1, 2, 3, 4, 5, 6, 7, 8, 9, 0, 0], ⟨[1, 2, 3, 4]⟩, []⟩
    let q : Virtqueue :=
      ⟨true, [[.buf (List.replicate 16 0xee), .buf (List.replicate 16 0xee)]], 0, []⟩
    (transfer request q .none).map (fun r => (r.1, r.2.used, (r.2.chainBytes 0).take 20)) =
      some (.ok .delivered, [(some 0, 16)],
        [0, 1, 2, 3, 4, 5, 6, 7, 8, 9, 1, 0, 0xee, 0xee, 0xee, 0xee, 1, 2, 3, 4]) := by
  decide

theorem inline_transfer_finishes_empty_head :
    let request : VirtioNetRequest :=
      ⟨0, 0, [0, 1, 2, 3, 4, 5, 6, 7, 8, 9, 0, 0], ⟨[1, 2, 3, 4]⟩, [.buf []]⟩
    let q : Virtqueue := ⟨true, [[.buf (List.replicate 16 0)]], 0, []⟩
    (transfer request q .none).map (fun r => (r.1, r.2.used, ((r.2.chainBytes 0).drop 10).take 2)) =
      some (.ok .delivered, [(some 0, 16), (none, 0)], [1, 0]) := by
  decide

theorem inline_transfer_small_header_keeps_chain :
    let request : VirtioNetRequest :=
      ⟨0, 0, [0, 1, 2, 3, 4, 5, 6, 7, 8, 9, 0, 0], ⟨[1, 2, 3, 4]⟩, []⟩
    let q : Virtqueue := ⟨true, [[.buf (List.replicate 8 0)]], 0, []⟩
    (transfer request q .none).map (fun r => (r.1, r.2.current, r.2.used)) =
      some (.error .runtimeError, 1, []) := by
  decide

end InlineTransfer

end VirtioNetSwitch
