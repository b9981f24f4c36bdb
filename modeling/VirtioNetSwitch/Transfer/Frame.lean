import VirtioNetSwitch.Transfer.Inline

/-!
# What a delivered frame holds

When every chain `transfer` may take is a single buffer, a delivered frame reads back as
the header with `num_buffers` set, then the payload as the mangle rewrites it.  The proof
follows the loop through the states `Idle` and `Filling`.
-/

namespace VirtioNetSwitch

/-- A request's payload: the bytes of `_pkt` and of the descriptors after it. -/
def VirtioNetRequest.payload (r : VirtioNetRequest) : List UInt8 :=
  r.pkt.data ++ r.reqProc.flatMap Desc.bytes

namespace InlineTransfer

open VirtioVlanMangle (CopyStep TagBounded)

/-! ## Reading a frame back -/

/-- The bytes the driver reads back for one used entry: the first `len` bytes of the
chain; an empty head has none. -/
def usedBytes (q : Virtqueue) : Option Nat × Nat → List UInt8
  | (some head, len) => (q.chainBytes head).take len
  | (none, _) => []

def frameBytes (q : Virtqueue) (es : List (Option Nat × Nat)) : List UInt8 :=
  es.flatMap (usedBytes q)

@[simp] theorem frameBytes_append (q : Virtqueue) (es es' : List (Option Nat × Nat)) :
    frameBytes q (es ++ es') = frameBytes q es ++ frameBytes q es' :=
  List.flatMap_append _ _ _

@[simp] theorem frameBytes_cons (q : Virtqueue) (e : Option Nat × Nat)
    (es : List (Option Nat × Nat)) : frameBytes q (e :: es) = usedBytes q e ++ frameBytes q es :=
  List.flatMap_cons _ _ _

@[simp] theorem frameBytes_nil (q : Virtqueue) : frameBytes q [] = [] := rfl

theorem frameBytes_current (q : Virtqueue) (c : Nat) (es : List (Option Nat × Nat)) :
    frameBytes ({ q with current := c } : Virtqueue) es = frameBytes q es := rfl

theorem chainBytes_single {q : Virtqueue} {head : Nat} {d : List UInt8}
    (hc : q.chain head = [.buf d]) : q.chainBytes head = d := by
  simp [Virtqueue.chainBytes, hc, Desc.bytes]

theorem frameBytes_write_ne {q : Virtqueue} {head : Nat} (idx off : Nat) (bytes : List UInt8) :
    ∀ {es : List (Option Nat × Nat)}, (∀ e ∈ es, e.1 ≠ some head) →
      frameBytes (q.write head idx off bytes) es = frameBytes q es
  | [], _ => rfl
  | (h, len) :: es, hes => by
      rw [frameBytes_cons, frameBytes_cons,
        frameBytes_write_ne idx off bytes fun e he => hes e (.tail _ he)]
      cases h with
      | none => rfl
      | some h =>
          have hne : h ≠ head := fun e => hes _ (.head _) (by rw [e])
          simp only [usedBytes, Virtqueue.chainBytes, Virtqueue.chain_write_ne q hne]

theorem usedBytes_write_extend {q : Virtqueue} {head off : Nat} {d bytes : List UInt8}
    (hc : q.chain head = [.buf d]) (hfit : off + bytes.length ≤ d.length) :
    usedBytes (q.write head 0 off bytes) (some head, off + bytes.length) =
      usedBytes q (some head, off) ++ bytes := by
  have hh : head < q.avail.length := Virtqueue.lt_length_of_chain_ne_nil (by simp [hc])
  simp only [usedBytes, chainBytes_single (Virtqueue.chain_write_single hh hc hfit),
    chainBytes_single hc]
  exact List.take_left' (by simp; omega)

theorem frameBytes_write_header {q : Virtqueue} {head len : Nat} {d bytes : List UInt8}
    {es : List (Option Nat × Nat)} (hc : q.chain head = [.buf d]) (hlen : hdrSize ≤ len)
    (hd : len ≤ d.length) (hes : ∀ e ∈ es, e.1 ≠ some head) (hb : bytes.length = 2) :
    frameBytes (q.write head 0 10 bytes) ((some head, len) :: es) =
      (frameBytes q ((some head, len) :: es)).take 10 ++ bytes ++
        (frameBytes q ((some head, len) :: es)).drop 12 := by
  have h12 : hdrSize = 12 := rfl
  have hh : head < q.avail.length := Virtqueue.lt_length_of_chain_ne_nil (by simp [hc])
  have hfit : 10 + bytes.length ≤ d.length := by omega
  have hpre : (d.take 10 ++ bytes).length = 12 := by simp [hb]; omega
  have e1 : (d.take 10 ++ bytes ++ d.drop (10 + bytes.length)).take len =
      d.take 10 ++ bytes ++ (d.drop 12).take (len - 12) := by
    rw [List.take_append_eq_append_take, List.take_of_length_le (by omega), hpre, hb]
  have e2 : (d.take len ++ frameBytes q es).take 10 = d.take 10 := by
    rw [List.take_append_of_le_length (by simp; omega), List.take_take, min_eq_left (by omega)]
  have e3 : (d.take len ++ frameBytes q es).drop 12 = (d.drop 12).take (len - 12) ++ frameBytes q es := by
    rw [List.drop_append_of_le_length (by simp; omega), List.drop_take]
  rw [frameBytes_cons, frameBytes_cons, frameBytes_write_ne 0 10 bytes hes]
  simp only [usedBytes, chainBytes_single (Virtqueue.chain_write_single hh hc hfit),
    chainBytes_single hc]
  rw [e1, e2, e3]
  simp only [List.append_assoc]

/-! ## The queue and the copy -/

def isSingleBuffer : List Desc → Bool
  | [.buf _] => true
  | _ => false

theorem isSingleBuffer_iff (c : List Desc) : isSingleBuffer c = true ↔ ∃ d, c = [.buf d] := by
  match c with
  | [.buf d] => exact iff_of_true rfl ⟨d, rfl⟩
  | [] | [.bad] | _ :: _ :: _ => simp [isSingleBuffer]

def SingleBuffers (q : Virtqueue) : Prop := ∀ c ∈ q.avail.drop q.current, isSingleBuffer c = true

instance (q : Virtqueue) : Decidable (SingleBuffers q) :=
  inferInstanceAs (Decidable (∀ c ∈ q.avail.drop q.current, _))

theorem SingleBuffers.chain {q : Virtqueue} (hq : SingleBuffers q) {i : Nat} (h₁ : q.current ≤ i)
    (h₂ : i < q.avail.length) : ∃ d, q.chain i = [.buf d] := by
  have hmem : q.avail[i] ∈ q.avail.drop q.current := by
    rw [List.mem_iff_getElem?]
    exact ⟨i - q.current, by rw [List.getElem?_drop, Nat.add_sub_cancel' h₁,
      List.getElem?_eq_getElem h₂]⟩
  rw [Virtqueue.chain, List.getD_eq_getElem _ _ h₂]
  exact (isSingleBuffer_iff _).mp (hq _ hmem)

/-- What the transfer needs of `copy_pkt`: every call is a step of the mangle's output. -/
def CopyOutput (cp : CopyPkt) : Prop :=
  ∀ m dst src, TagBounded m → CopyStep m dst src (cp m dst src)

theorem copyOutput_copyPkt : CopyOutput VirtioVlanMangle.copyPkt :=
  fun _ dst src hm => VirtioVlanMangle.copyPkt_copyStep hm dst src

/-! ## The invariant of the loop -/

/-- What is left of the payload on the source: the current buffer and the descriptors
after it. -/
def State.rest (st : State) : List UInt8 := st.src.data ++ st.srcReqProc.flatMap Desc.bytes

/-- The used entries the loop would publish now: the chains put aside and the current
one. -/
def State.entries (st : State) : List (Option Nat × Nat) := st.consumed ++ [(st.dstHead, st.total)]

theorem srcNext_some {st st' : State} (h : srcNext st = .ok (some st')) :
    ∃ src rp, st' = { st with src := src, srcReqProc := rp } ∧ st'.rest = st.rest := by
  unfold srcNext at h
  split at h
  · cases h
    exact ⟨_, _, rfl, rfl⟩
  · next hs =>
    split at h
    · next b rest hn =>
      cases h
      refine ⟨_, _, rfl, ?_⟩
      have hsrc : st.src.data = [] := by simpa using hs
      simp [State.rest, hsrc, next_eq_some hn, Desc.bytes]
    · cases h
    · cases h

theorem srcNext_none {st : State} (h : srcNext st = .ok none) : st.rest = [] := by
  unfold srcNext at h
  split at h
  · cases h
  · next hs =>
    split at h
    · cases h
    · next hn =>
      have hsrc : st.src.data = [] := by simpa using hs
      simp [State.rest, hsrc, next_eq_none hn]
    · cases h

section Delivery

variable (header : List UInt8) (m₀ : VirtioVlanMangle) (frame : List UInt8) (q₀ : Virtqueue)

/-- Before the first chain is taken: nothing is written, and the source has only moved
past empty buffers. -/
structure Idle (st : State) (q : Virtqueue) : Prop where
  header_none : st.dstHeader = none
  head_none : st.dstHead = none
  consumed_nil : st.consumed = []
  merged : st.numMerged = 0
  mangle : st.mangle = m₀
  rest : st.rest = frame
  queue : q = q₀

/-- Once the first chain is taken, `q₀` the queue before the transfer: the entries to
publish are the chains taken since `q₀.current`, the first holding the header; they read
as the header and the bytes copied so far, and those followed by what the mangle makes of
the rest of the source are the whole rewritten payload.  The current chain is a single
buffer whose cursor stands behind what it holds, and the chains not yet taken are as
they were. -/
structure Filling (st : State) (q : Virtqueue) : Prop where
  bounded : TagBounded st.mangle
  written : ∃ out, out ++ st.mangle.output st.rest = m₀.output frame ∧
    frameBytes q st.entries = header ++ out
  heads : st.entries.filterMap Prod.fst = List.range' q₀.current (q.current - q₀.current)
  header_at : st.dstHeader = some q₀.current
  merged : st.numMerged = q.current - q₀.current
  first : ∃ len es d, st.entries = (some q₀.current, len) :: es ∧ hdrSize ≤ len ∧
    q.chain q₀.current = [.buf d] ∧ len ≤ d.length
  current : ∀ h, st.dstHead = some h → ∃ d, q.chain h = [.buf d] ∧
    st.dst.left + st.total = d.length ∧ st.dstAt = (0, st.total) ∧ st.dstReqProc = []
  idle : st.dstHead = none → st.total = 0
  ahead : ∀ i, q.current ≤ i → q.chain i = q₀.chain i
  length : q.avail.length = q₀.avail.length
  used : q.used = q₀.used

variable {header m₀ frame q₀}

theorem Filling.started {st : State} {q : Virtqueue} (h : Filling header m₀ frame q₀ st q) :
    q₀.current < q.current := by
  obtain ⟨len, es, d, he, -⟩ := h.first
  have hlen := congrArg List.length h.heads
  rw [he, List.filterMap_cons_some (f := Prod.fst) rfl, List.length_cons, List.length_range'] at hlen
  omega

theorem Filling.heads_nodup {st : State} {q : Virtqueue} (h : Filling header m₀ frame q₀ st q) :
    (st.entries.filterMap Prod.fst).Nodup := by
  rw [h.heads]
  exact List.nodup_range' _ _

theorem Filling.consumed_ne {st : State} {q : Virtqueue} (h : Filling header m₀ frame q₀ st q)
    {head : Nat} (hhead : st.dstHead = some head) : ∀ e ∈ st.consumed, e.1 ≠ some head := by
  intro e he hfst
  have hnd := h.heads_nodup
  rw [State.entries, List.filterMap_append, hhead, List.filterMap_cons_some (f := Prod.fst) rfl,
    List.filterMap_nil, List.nodup_append] at hnd
  exact hnd.2.2 (List.mem_filterMap.mpr ⟨e, he, hfst⟩) (List.mem_singleton_self head)

theorem Filling.rest_ne {st : State} {q : Virtqueue} (h : Filling header m₀ frame q₀ st q)
    {len : Nat} {es : List (Option Nat × Nat)} (he : st.entries = (some q₀.current, len) :: es) :
    ∀ e ∈ es, e.1 ≠ some q₀.current := by
  intro e hmem hfst
  have hnd := h.heads_nodup
  rw [he, List.filterMap_cons_some (f := Prod.fst) rfl, List.nodup_cons] at hnd
  exact hnd.1 (List.mem_filterMap.mpr ⟨e, hmem, hfst⟩)

theorem Idle.srcNext {st st' : State} {q : Virtqueue} (h : Idle m₀ frame q₀ st q)
    (hs : srcNext st = .ok (some st')) : Idle m₀ frame q₀ st' q := by
  obtain ⟨src, rp, rfl, hrest⟩ := srcNext_some hs
  exact { h with rest := hrest.trans h.rest }

theorem Filling.srcNext {st st' : State} {q : Virtqueue} (h : Filling header m₀ frame q₀ st q)
    (hs : srcNext st = .ok (some st')) : Filling header m₀ frame q₀ st' q := by
  obtain ⟨src, rp, rfl, hrest⟩ := srcNext_some hs
  exact { h with written := by rw [hrest]; exact h.written }

/-! ## One round -/

theorem Idle.takeFirst (hhdr : header.length = hdrSize) (hm₀ : TagBounded m₀) {st : State}
    {q : Virtqueue} (h : Idle m₀ frame q₀ st q) {d : List UInt8}
    (hc : q.chain q.current = [.buf d]) (hroom : hdrSize ≤ d.length) :
    Filling header m₀ frame q₀
      { st with dstHead := some q.current, dstReqProc := [], dst := ⟨d.drop hdrSize⟩,
                dstAt := (0, hdrSize), dstHeader := some q.current, total := hdrSize,
                numMerged := st.numMerged + 1 }
      (({ q with current := q.current + 1 } : Virtqueue).write q.current 0 0 header) := by
  obtain ⟨-, -, hcons, hmerged, hmangle, hrest, rfl⟩ := h
  have hh : q.current < q.avail.length := Virtqueue.lt_length_of_chain_ne_nil (by simp [hc])
  have hfit : 0 + header.length ≤ d.length := by omega
  have hc' := Virtqueue.chain_write_single (q := ({ q with current := q.current + 1 } : Virtqueue))
    hh hc hfit
  simp only [List.take_zero, List.nil_append, zero_add, hhdr] at hc'
  have hentries : State.entries
      ({ st with dstHead := some q.current, dstReqProc := [], dst := ⟨d.drop hdrSize⟩,
                 dstAt := (0, hdrSize), dstHeader := some q.current, total := hdrSize,
                 numMerged := st.numMerged + 1 } : State) = [(some q.current, hdrSize)] := by
    simp [State.entries, hcons]
  refine ⟨hmangle ▸ hm₀, ⟨[], ?_, ?_⟩, ?_, rfl, ?_, ⟨hdrSize, [], _, hentries, le_rfl, hc', ?_⟩,
    ?_, nofun, ?_, Virtqueue.length_avail_write _ _ _ _ _, rfl⟩
  · simp only [List.nil_append, hmangle]
    exact congrArg _ hrest
  · rw [hentries, frameBytes_cons, frameBytes_nil, usedBytes, chainBytes_single hc']
    simp only [List.append_nil]
    exact List.take_left' hhdr
  · rw [hentries]
    simp
  · simp [hmerged]
  · simp [hhdr]
  · rintro _ ⟨⟩
    refine ⟨_, hc', ?_, rfl, rfl⟩
    simp only [Buffer.left, List.length_drop, List.length_append, hhdr]
    omega
  · intro i hi
    rw [Virtqueue.chain_write_ne _ (by simp at hi; omega)]
    rfl

theorem Filling.takeNext {st : State} {q : Virtqueue} (h : Filling header m₀ frame q₀ st q)
    (hhead : st.dstHead = none) {d : List UInt8} (hc : q.chain q.current = [.buf d]) :
    Filling header m₀ frame q₀
      { st with dstHead := some q.current, dstReqProc := [], dst := ⟨d⟩, dstAt := (0, 0),
                numMerged := st.numMerged + 1 }
      ({ q with current := q.current + 1 } : Virtqueue) := by
  have htotal := h.idle hhead
  have hentries : State.entries
      ({ st with dstHead := some q.current, dstReqProc := [], dst := ⟨d⟩, dstAt := (0, 0),
                 numMerged := st.numMerged + 1 } : State) =
      st.consumed ++ [(some q.current, 0)] := by
    simp [State.entries, htotal]
  have hold : st.entries = st.consumed ++ [(none, 0)] := by simp [State.entries, hhead, htotal]
  have hstarted := h.started
  obtain ⟨len, es, d₀, hfirst, hlen, hc₀, hd₀⟩ := h.first
  -- the first entry is one put aside, as the current head is empty
  obtain ⟨es', hes'⟩ : ∃ es', st.consumed = (some q₀.current, len) :: es' := by
    cases hcons : st.consumed with
    | nil => simp [hold, hcons] at hfirst
    | cons e es' =>
        rw [hold, hcons, List.cons_append, List.cons.injEq] at hfirst
        exact ⟨es', by rw [hfirst.1]⟩
  refine ⟨h.bounded, ?_, ?_, h.header_at, ?_, ⟨len, es' ++ [(some q.current, 0)], d₀, ?_, hlen, hc₀,
    hd₀⟩, ?_, nofun, fun i hi => h.ahead i (by simp at hi; omega), h.length, h.used⟩
  · obtain ⟨out, hout, hbytes⟩ := h.written
    refine ⟨out, hout, ?_⟩
    rw [hentries, frameBytes_current, ← hbytes, hold, frameBytes_append, frameBytes_append]
    simp [usedBytes]
  · have hconsumed : st.consumed.filterMap Prod.fst =
        List.range' q₀.current (q.current - q₀.current) := by
      rw [← h.heads, hold, List.filterMap_append]
      simp
    rw [hentries, List.filterMap_append, hconsumed]
    show _ = List.range' q₀.current (q.current + 1 - q₀.current)
    rw [show q.current + 1 - q₀.current = q.current - q₀.current + 1 by omega, List.range'_concat]
    simp [Nat.add_sub_cancel' hstarted.le]
  · simp only [h.merged]
    omega
  · rw [hentries, hes', List.cons_append]
  · rintro _ ⟨⟩
    exact ⟨d, hc, by simp [htotal], by simp [htotal], rfl⟩

theorem takeDst_filling (hhdr : header.length = hdrSize) (hm₀ : TagBounded m₀)
    (hq₀ : SingleBuffers q₀) {st st' : State} {q q' : Virtqueue}
    (hinv : Idle m₀ frame q₀ st q ∨ Filling header m₀ frame q₀ st q)
    (h : takeDst header st q = (none, st', q')) :
    Filling header m₀ frame q₀ st' q' ∧ st'.dstHead.isSome := by
  -- the chain at the cursor is one of those not yet taken
  have hsingle : q.current < q.avail.length → ∃ d, q.chain q.current = [.buf d] := by
    intro hlt
    rcases hinv with hi | hf
    · rw [hi.queue] at hlt ⊢
      exact hq₀.chain le_rfl hlt
    · rw [hf.ahead _ le_rfl]
      exact hq₀.chain hf.started.le (hf.length ▸ hlt)
  unfold takeDst at h
  split at h
  · next head hhead =>
    cases h
    refine ⟨hinv.resolve_left fun hi => ?_, by simp [hhead]⟩
    simp [hi.head_none] at hhead
  · next hnone =>
    split at h
    · cases h
    · split at h
      · split at h <;> cases h
      · next head q₁ hnext =>
        obtain ⟨rfl, hlt, rfl⟩ := Virtqueue.nextAvail_some hnext
        obtain ⟨d, hd⟩ := hsingle hlt
        have hd' : ({ q with current := q.current + 1 } : Virtqueue).chain q.current =
            [.buf d] := hd
        simp only [hd', start] at h
        split at h
        · next hhdr₀ =>
          split at h
          · cases h
          · next hroom =>
            simp only [Prod.mk.injEq] at h
            obtain ⟨-, rfl, rfl⟩ := h
            have hi : Idle m₀ frame q₀ st q := hinv.resolve_right fun hf => by
              simp [hf.header_at] at hhdr₀
            exact ⟨hi.takeFirst hhdr hm₀ hd (by simpa using hroom), rfl⟩
        · next hhdr₀ =>
          simp only [Prod.mk.injEq] at h
          obtain ⟨-, rfl, rfl⟩ := h
          have hf : Filling header m₀ frame q₀ st q := hinv.resolve_left fun hi => by
            simp [hi.header_none] at hhdr₀
          exact ⟨hf.takeNext hnone hd, rfl⟩

theorem Filling.copy {cp : CopyPkt} (hcp : CopyOutput cp) {st : State} {q : Virtqueue}
    (h : Filling header m₀ frame q₀ st q) {head : Nat} (hhead : st.dstHead = some head) :
    let c := cp st.mangle st.dst st.src
    Filling header m₀ frame q₀
      { st with mangle := c.1, dst := c.2.1, src := c.2.2.1, total := st.total + c.2.2.2.length,
                dstAt := (st.dstAt.1, st.dstAt.2 + (st.dst.left - c.2.1.left)) }
      (writeAt q st.dstHead st.dstAt c.2.2.2) := by
  intro c
  obtain ⟨d, hc, hleft, hat, hproc⟩ := h.current head hhead
  obtain ⟨hbounded, hmoved, hout⟩ : CopyStep st.mangle st.dst st.src c :=
    hcp st.mangle st.dst st.src h.bounded
  have hfit : st.total + c.2.2.2.length ≤ d.length := by omega
  have hh : head < q.avail.length := Virtqueue.lt_length_of_chain_ne_nil (by simp [hc])
  have hc' := Virtqueue.chain_write_single hh hc hfit
  have hne := h.consumed_ne hhead
  simp only [hhead, hat, writeAt]
  refine ⟨hbounded, ?_, ?_, h.header_at, h.merged, ?_, ?_, nofun, fun i hi => ?_,
    (Virtqueue.length_avail_write _ _ _ _ _).trans h.length, h.used⟩
  · obtain ⟨out, hrest, hbytes⟩ := h.written
    refine ⟨out ++ c.2.2.2, ?_, ?_⟩
    · rw [List.append_assoc]
      exact (congrArg (out ++ ·) (hout _)).trans hrest
    · simp only [State.entries, hhead] at hbytes ⊢
      rw [frameBytes_append, frameBytes_write_ne 0 st.total _ hne, frameBytes_cons,
        frameBytes_nil, List.append_nil, usedBytes_write_extend hc hfit, ← List.append_assoc,
        ← List.append_assoc]
      rw [frameBytes_append, frameBytes_cons, frameBytes_nil, List.append_nil] at hbytes
      rw [hbytes]
  · rw [Virtqueue.write_current, ← h.heads]
    simp [State.entries, hhead]
  · obtain ⟨len, es, d₀, hfirst, hlen, hc₀, hd₀⟩ := h.first
    simp only [State.entries, hhead] at hfirst ⊢
    cases hcons : st.consumed with
    | nil =>
        rw [hcons, List.nil_append, List.cons.injEq, Prod.mk.injEq, Option.some.injEq] at hfirst
        obtain ⟨⟨rfl, rfl⟩, rfl⟩ := hfirst
        exact ⟨_, [], _, rfl, by omega, hc',
          by simp only [List.length_append, List.length_take, List.length_drop]; omega⟩
    | cons e es' =>
        rw [hcons, List.cons_append, List.cons.injEq] at hfirst
        obtain ⟨rfl, -⟩ := hfirst
        refine ⟨len, _, d₀, List.cons_append _ _ _, hlen, ?_, hd₀⟩
        rw [Virtqueue.chain_write_ne _ (fun e => hne _ (hcons ▸ List.mem_cons_self _ _)
          (by rw [e]))]
        exact hc₀
  · rintro _ ⟨⟩
    refine ⟨_, hc', ?_, ?_, hproc⟩
    · simp only [List.length_append, List.length_take, List.length_drop]
      omega
    · simp only [Prod.mk.injEq, true_and]
      omega
  · have hlt : head < q.current := by
      have hmem : head ∈ st.entries.filterMap Prod.fst :=
        List.mem_filterMap.mpr ⟨(some head, st.total), by simp [State.entries, hhead], rfl⟩
      rw [h.heads] at hmem
      obtain ⟨k, hk, hkeq⟩ := List.mem_range'.mp hmem
      omega
    rw [Virtqueue.write_current] at hi
    rw [Virtqueue.chain_write_ne _ (by omega)]
    exact h.ahead i hi

theorem Filling.putAside {st : State} {q : Virtqueue} (h : Filling header m₀ frame q₀ st q) :
    Filling header m₀ frame q₀
      { st with consumed := st.consumed ++ [(st.dstHead, st.total)], total := 0, dstHead := none } q := by
  have hentries : State.entries
      ({ st with consumed := st.consumed ++ [(st.dstHead, st.total)], total := 0,
                 dstHead := none } : State) = st.entries ++ [(none, 0)] := by
    simp [State.entries]
  obtain ⟨len, es, d₀, hfirst, hfirst'⟩ := h.first
  refine ⟨h.bounded, ?_, ?_, h.header_at, h.merged, ⟨len, es ++ [(none, 0)], d₀, ?_, hfirst'⟩,
    nofun, fun _ => rfl, h.ahead, h.length, h.used⟩
  · obtain ⟨out, hrest, hbytes⟩ := h.written
    exact ⟨out, hrest, by rw [hentries, frameBytes_append, hbytes]; simp [usedBytes]⟩
  · rw [hentries, List.filterMap_append, h.heads]
    simp
  · rw [hentries, hfirst, List.cons_append]

theorem advance_filling {cp : CopyPkt} (hcp : CopyOutput cp) {st st' : State}
    {q q' : Virtqueue} (h : Filling header m₀ frame q₀ st q) (hhead : st.dstHead.isSome)
    (hadv : advance cp st q = (none, st', q')) : Filling header m₀ frame q₀ st' q' := by
  obtain ⟨head, hhead⟩ := Option.isSome_iff_exists.mp hhead
  have hnext : next st.dstReqProc = .ok none := by rw [(h.current head hhead).choose_spec.2.2.2]; rfl
  unfold advance at hadv
  simp only [hnext] at hadv
  split at hadv
  · simp only [Prod.mk.injEq] at hadv
    obtain ⟨-, rfl, rfl⟩ := hadv
    exact h.copy hcp hhead
  · simp only [Prod.mk.injEq] at hadv
    obtain ⟨-, rfl, rfl⟩ := hadv
    exact h.putAside

theorem round_filling {cp : CopyPkt} (hcp : CopyOutput cp) (hhdr : header.length = hdrSize)
    (hm₀ : TagBounded m₀) (hq₀ : SingleBuffers q₀) {st st' : State} {q q' : Virtqueue}
    (hinv : Idle m₀ frame q₀ st q ∨ Filling header m₀ frame q₀ st q)
    (h : round cp header st q = (.next, st', q')) : Filling header m₀ frame q₀ st' q' := by
  unfold round at h
  split at h
  · cases h
  · cases h
  · next st₁ hsrc =>
    have hinv₁ := hinv.imp (·.srcNext hsrc) (·.srcNext hsrc)
    split at h
    · cases h
    · next st₂ q₂ htake =>
      obtain ⟨hf₂, hhead⟩ := takeDst_filling hhdr hm₀ hq₀ hinv₁ htake
      split at h
      · cases h
      · next st₃ q₃ hadv =>
        cases h
        exact advance_filling hcp hf₂ hhead hadv

/-! ## Leaving the loop -/

variable (header m₀ frame q₀) in
/-- What a delivered frame holds, `q₀` the queue before the transfer and `q'` after it:
the entries appended to the used ring are the chains taken, in ring order, and they read
back as the header with `num_buffers` their number, then the rewritten payload. -/
def Delivers (q' : Virtqueue) : Prop :=
  ∃ es, q'.used = q₀.used ++ es ∧
    es.filterMap Prod.fst = List.range' q₀.current (q'.current - q₀.current) ∧
    frameBytes q' es = header.take 10 ++ le16 (q'.current - q₀.current) ++ m₀.output frame

theorem finalize_delivered (hhdr : header.length = hdrSize) {st : State} {q q' : Virtqueue}
    (hinv : Idle m₀ frame q₀ st q ∨ Filling header m₀ frame q₀ st q) (hsrc : srcNext st = .ok none)
    (h : finalize st q = (.ok .delivered, q')) : Delivers header m₀ frame q₀ q' := by
  have h12 : hdrSize = 12 := rfl
  unfold finalize at h
  split at h
  · cases h
  · next hdr hhdr₀ =>
    have hf : Filling header m₀ frame q₀ st q := hinv.resolve_left fun hi => by
      simp [hi.header_none] at hhdr₀
    rw [hf.header_at, Option.some.injEq] at hhdr₀
    subst hhdr₀
    obtain ⟨out, hout, hbytes⟩ := hf.written
    rw [srcNext_none hsrc, VirtioVlanMangle.output_nil, List.append_nil] at hout
    subst hout
    obtain ⟨len, es, d, hfirst, hlen, hc, hd⟩ := hf.first
    -- `num_buffers` lands on bytes 10 and 11 of the header
    have hheader : ∀ n, frameBytes (q.write q₀.current 0 10 (le16 n)) st.entries =
        header.take 10 ++ le16 n ++ m₀.output frame := fun n => by
      rw [hfirst, frameBytes_write_header hc hlen hd (hf.rest_ne hfirst)
        (show (le16 n).length = 2 from rfl), ← hfirst, hbytes,
        List.take_append_of_le_length (by omega), List.drop_left' (hhdr.trans h12)]
    split at h
    · next hcons =>
      cases h
      have hone : q.current - q₀.current = 1 := by
        have hlen := congrArg List.length hf.heads
        rw [List.length_range', State.entries, hcons, List.nil_append] at hlen
        have hstarted := hf.started
        cases hh : st.dstHead <;> simp [hh] at hlen <;> omega
      refine ⟨st.entries, by simp [Virtqueue.finish, hf.used, State.entries, hcons], hf.heads, ?_⟩
      simpa [hone, Virtqueue.finish] using hheader 1
    · cases h
      refine ⟨st.entries, by simp [Virtqueue.finishAll, hf.used, State.entries], hf.heads, ?_⟩
      simpa [← hf.merged, Virtqueue.finishAll] using hheader st.numMerged

theorem round_delivered (hhdr : header.length = hdrSize) {cp : CopyPkt} {st st' : State}
    {q q' : Virtqueue} (hinv : Idle m₀ frame q₀ st q ∨ Filling header m₀ frame q₀ st q)
    (h : round cp header st q = (.done (.ok .delivered), st', q')) :
    Delivers header m₀ frame q₀ q' := by
  unfold round at h
  split at h
  · cases h
  · next hsrc =>
    simp only [Prod.mk.injEq, Step.done.injEq] at h
    obtain ⟨h₁, -, rfl⟩ := h
    exact finalize_delivered hhdr hinv hsrc (Prod.ext h₁ rfl)
  · next st₁ hsrc =>
    split at h
    · next r st₂ q₂ htake =>
      simp only [Prod.mk.injEq, Step.done.injEq] at h
      obtain ⟨rfl, -, -⟩ := h
      have := (takeDst_used header st₁ q).1
      rw [htake] at this
      exact absurd rfl this
    · next st₂ q₂ htake =>
      split at h
      · next r st₃ q₃ hadv =>
        simp only [Prod.mk.injEq, Step.done.injEq] at h
        obtain ⟨rfl, -, -⟩ := h
        have := (advance_used cp st₂ q₂).1
        rw [hadv] at this
        exact absurd rfl this
      · cases h

theorem transferLoop_delivered {cp : CopyPkt} (hcp : CopyOutput cp)
    (hhdr : header.length = hdrSize) (hm₀ : TagBounded m₀) (hq₀ : SingleBuffers q₀) :
    ∀ (n : Nat) (st : State) (q : Virtqueue) {q' : Virtqueue},
      (Idle m₀ frame q₀ st q ∨ Filling header m₀ frame q₀ st q) →
      transferLoop cp header n st q = some (.ok .delivered, q') → Delivers header m₀ frame q₀ q'
  | 0, _, _, _, _, h => nomatch h
  | n + 1, st, q, q', hinv, h => by
      simp only [transferLoop] at h
      split at h
      · next st₁ q₁ hround =>
        exact transferLoop_delivered hcp hhdr hm₀ hq₀ n st₁ q₁
          (.inr (round_filling hcp hhdr hm₀ hq₀ hinv hround)) h
      · next r st₁ q₁ hround =>
        simp only [Option.some.injEq, Prod.mk.injEq] at h
        obtain ⟨rfl, rfl⟩ := h
        exact round_delivered hhdr hinv hround

end Delivery

/-- Whenever `transfer` delivers into a queue whose chains are single buffers, the entries
it appends to the used ring are the chains it took, in ring order, and they read back as
the request's header with `num_buffers` set to their number, followed by the payload as
the mangle rewrites it. -/
theorem transfer_delivers_frame (request : VirtioNetRequest) (q : Virtqueue)
    (mangle : VirtioVlanMangle) (hhdr : request.header.length = hdrSize)
    (hm : mangle.TagBounded) (hq : SingleBuffers q) {q' : Virtqueue}
    (h : transfer request q mangle = some (.ok .delivered, q')) :
    ∃ es, q'.used = q.used ++ es ∧
      es.filterMap Prod.fst = List.range' q.current (q'.current - q.current) ∧
      frameBytes q' es =
        request.header.take 10 ++ le16 (q'.current - q.current) ++ mangle.output request.payload :=
  transferLoop_delivered copyOutput_copyPkt hhdr hm hq _ (State.init request mangle) q
    (.inl ⟨rfl, rfl, rfl, rfl, rfl, rfl, rfl⟩) h

theorem transfer_delivers_frame_tagged :
    let request : VirtioNetRequest := ⟨0, 0, List.replicate 12 0, ⟨(List.range 14).map UInt8.ofNat⟩,
      [.buf ((List.range 6).map fun i => UInt8.ofNat (i + 14))]⟩
    let q : Virtqueue := ⟨true, [[.buf (List.replicate 20 0)], [.buf (List.replicate 20 0)]], 0, []⟩
    let q' : Virtqueue := ⟨true,
      [[.buf [0, 0, 0, 0, 0, 0, 0, 0, 0, 0, 2, 0, 0, 1, 2, 3, 4, 5, 6, 7]],
       [.buf [8, 9, 10, 11, 129, 0, 0, 5, 12, 13, 14, 15, 16, 17, 18, 19, 0, 0, 0, 0]]],
      2, [(some 0, 20), (some 1, 16)]⟩
    transfer request q (.add 5) = some (.ok .delivered, q') ∧
      ∃ es, q'.used = q.used ++ es ∧
        es.filterMap Prod.fst = List.range' q.current (q'.current - q.current) ∧
        frameBytes q' es = request.header.take 10 ++ le16 (q'.current - q.current) ++
          (VirtioVlanMangle.add 5).output request.payload := by
  intro request q q'
  have h : transfer request q (.add 5) = some (.ok .delivered, q') := by decide
  exact ⟨h, transfer_delivers_frame request q _ rfl (VirtioVlanMangle.tagBounded_add 5)
    (by decide) h⟩

end InlineTransfer

end VirtioNetSwitch
