import Mathlib.Algebra.Order.Ring.Nat
import Mathlib.Data.List.GetD
import Mathlib.Data.List.Nodup
import Mathlib.Data.List.Perm.Subperm
import Mathlib.Data.List.Rotate

/-!
# Split virtqueues, descriptor chains and buffers

The `L4virtio` server library is not among the sources.  A virtqueue is modelled from the
spec as a split ring of untrusted chains: every descriptor is a buffer the device may
access or one it rejects with `Bad_descriptor`, and a chain's head is its position in the
available ring, so `rewind_avail` to a head restores the position it was taken from.
-/

namespace VirtioNetSwitch

/-- The exceptions that leave the switch's code: `L4virtio::Svr::Bad_descriptor`,
raised on a malformed descriptor, and `L4::Runtime_error`. -/
inductive Exc where
  | badDescriptor
  | runtimeError
  deriving DecidableEq, Repr

instance instDecidableEqExcept {ε α : Type} [DecidableEq ε] [DecidableEq α] :
    DecidableEq (Except ε α)
  | .error a, .error b =>
    if h : a = b then isTrue (h ▸ rfl) else isFalse fun e => by cases e; exact h rfl
  | .ok a, .ok b =>
    if h : a = b then isTrue (h ▸ rfl) else isFalse fun e => by cases e; exact h rfl
  | .error _, .ok _ => isFalse nofun
  | .ok _, .error _ => isFalse nofun

/-- Modelled from the spec: one descriptor of a chain, a buffer with its bytes or a
descriptor the device rejects. -/
inductive Desc where
  | buf (data : List UInt8)
  | bad
  deriving DecidableEq, Repr

/-- `Buffer` of `virtio_net_buffer.h`: the bytes from `pos` to the end of the current
descriptor, so `left` is their number. -/
structure Buffer where
  data : List UInt8
  deriving DecidableEq, Repr

namespace Buffer

def left (b : Buffer) : Nat := b.data.length

def done (b : Buffer) : Bool := b.data.isEmpty

def skip (b : Buffer) (n : Nat) : Buffer × Nat := (⟨b.data.drop n⟩, min n b.left)

@[simp] theorem done_iff (b : Buffer) : b.done = true ↔ b.data = [] := by
  simp [done]

@[simp] theorem left_mk (d : List UInt8) : left ⟨d⟩ = d.length := rfl

end Buffer

/-- Modelled from the spec: `Request_processor::start`, which loads the head
descriptor of a chain and keeps the rest of the chain for `next`. -/
def start : List Desc → Except Exc (Buffer × List Desc)
  | .buf data :: rest => .ok (⟨data⟩, rest)
  | _ => .error .badDescriptor

/-- Modelled from the spec: `Request_processor::next`, `none` at the end of the chain. -/
def next : List Desc → Except Exc (Option (Buffer × List Desc))
  | [] => .ok none
  | .buf data :: rest => .ok (some (⟨data⟩, rest))
  | .bad :: _ => .error .badDescriptor

theorem start_eq_ok {ds : List Desc} {b : Buffer} {rest : List Desc}
    (h : start ds = .ok (b, rest)) : ds = .buf b.data :: rest := by
  match ds, h with
  | .buf data :: rest', h =>
      simp only [start, Except.ok.injEq, Prod.mk.injEq] at h
      obtain ⟨rfl, rfl⟩ := h
      rfl

theorem next_eq_some {ds : List Desc} {b : Buffer} {rest : List Desc}
    (h : next ds = .ok (some (b, rest))) : ds = .buf b.data :: rest := by
  match ds, h with
  | .buf data :: rest', h =>
      simp only [next, Except.ok.injEq, Option.some.injEq, Prod.mk.injEq] at h
      obtain ⟨rfl, rfl⟩ := h
      rfl

/-- Modelled from the spec: the device side of a split virtqueue.  `avail` holds every
chain the driver made available, `current` how many of them the device has taken,
and `used` the `(head, length)` pairs published by `finish`; an empty `Head_desc`
is `none`. -/
structure Virtqueue where
  ready : Bool
  avail : List (List Desc)
  current : Nat
  used : List (Option Nat × Nat)
  deriving DecidableEq, Repr

namespace Virtqueue

def descAvail (q : Virtqueue) : Bool := q.current < q.avail.length

def nextAvail (q : Virtqueue) : Option Nat × Virtqueue :=
  if q.current < q.avail.length then (some q.current, { q with current := q.current + 1 })
  else (none, q)

def chain (q : Virtqueue) (head : Nat) : List Desc := q.avail.getD head []

def rewindAvail (q : Virtqueue) (head : Nat) : Virtqueue := { q with current := head }

def finish (q : Virtqueue) (head : Option Nat) (len : Nat) : Virtqueue :=
  { q with used := q.used ++ [(head, len)] }

/-- `finish(begin, end, dev)`: publish a run of chains as one frame. -/
def finishAll (q : Virtqueue) (entries : List (Option Nat × Nat)) : Virtqueue :=
  { q with used := q.used ++ entries }

def post (q : Virtqueue) (c : List Desc) : Virtqueue := { q with avail := q.avail ++ [c] }

theorem nextAvail_some {q q' : Virtqueue} {h : Nat} (e : q.nextAvail = (some h, q')) :
    h = q.current ∧ q.current < q.avail.length ∧ q' = { q with current := q.current + 1 } := by
  unfold nextAvail at e
  split at e <;> simp_all [eq_comm]

theorem nextAvail_none {q q' : Virtqueue} (e : q.nextAvail = (none, q')) :
    q' = q ∧ q.descAvail = false := by
  unfold nextAvail at e
  split at e <;> simp_all [descAvail]

/-! ## The driver's side of a queue

The ring of available chains, the device's cursor in it and readiness are what decides
whether a queue has work; publishing on the used ring leaves them alone. -/

/-- `q'` has the readiness, chains and cursor of `q`; at most its used ring differs. -/
def SameAvail (q q' : Virtqueue) : Prop :=
  q'.ready = q.ready ∧ q'.avail = q.avail ∧ q'.current = q.current

theorem SameAvail.refl (q : Virtqueue) : SameAvail q q := ⟨rfl, rfl, rfl⟩

theorem SameAvail.trans {q₁ q₂ q₃ : Virtqueue} (h₁ : SameAvail q₁ q₂) (h₂ : SameAvail q₂ q₃) :
    SameAvail q₁ q₃ :=
  ⟨h₂.1.trans h₁.1, h₂.2.1.trans h₁.2.1, h₂.2.2.trans h₁.2.2⟩

theorem sameAvail_finish (q : Virtqueue) (head : Option Nat) (len : Nat) :
    SameAvail q (q.finish head len) :=
  ⟨rfl, rfl, rfl⟩

theorem SameAvail.descAvail_eq {q q' : Virtqueue} (h : SameAvail q q') : q'.descAvail = q.descAvail := by
  simp only [descAvail, h.2.1, h.2.2]

end Virtqueue

/-! ## Guest memory

The buffers of the chains are guest memory the device writes into.  A write never
changes a buffer's length, so it changes nothing the queue's bookkeeping reads. -/

/-- The device writes `bytes` at offset `off` of a descriptor's buffer, cut at the
buffer's end; a rejected descriptor is not written. -/
def Desc.write (off : Nat) (bytes : List UInt8) : Desc → Desc
  | .buf data => .buf ((data.take off ++ bytes ++ data.drop (off + bytes.length)).take data.length)
  | .bad => .bad

def Desc.bytes : Desc → List UInt8
  | .buf data => data
  | .bad => []

namespace Virtqueue

/-- Write `bytes` at offset `off` of descriptor `idx` of the chain with head `head`. -/
def write (q : Virtqueue) (head idx off : Nat) (bytes : List UInt8) : Virtqueue :=
  { q with avail := q.avail.set head ((q.chain head).set idx (((q.chain head).getD idx .bad).write
      off bytes)) }

/-- The bytes of a chain in descriptor order, as the driver reads a received frame. -/
def chainBytes (q : Virtqueue) (head : Nat) : List UInt8 := (q.chain head).flatMap Desc.bytes

@[simp] theorem write_ready (q : Virtqueue) (head idx off : Nat) (bytes : List UInt8) :
    (q.write head idx off bytes).ready = q.ready := rfl

@[simp] theorem write_current (q : Virtqueue) (head idx off : Nat) (bytes : List UInt8) :
    (q.write head idx off bytes).current = q.current := rfl

@[simp] theorem write_used (q : Virtqueue) (head idx off : Nat) (bytes : List UInt8) :
    (q.write head idx off bytes).used = q.used := rfl

theorem length_avail_write (q : Virtqueue) (head idx off : Nat) (bytes : List UInt8) :
    (q.write head idx off bytes).avail.length = q.avail.length := by
  simp [write]

theorem chain_write_self {q : Virtqueue} {head : Nat} (h : head < q.avail.length)
    (idx off : Nat) (bytes : List UInt8) :
    (q.write head idx off bytes).chain head =
      (q.chain head).set idx (((q.chain head).getD idx .bad).write off bytes) := by
  simp only [chain, write, List.getD_eq_getElem?_getD, List.getElem?_set_self h, Option.getD_some]

theorem chain_write_ne (q : Virtqueue) {head h : Nat} (hne : h ≠ head) (idx off : Nat)
    (bytes : List UInt8) : (q.write head idx off bytes).chain h = q.chain h := by
  simp only [chain, write, List.getD_eq_getElem?_getD, List.getElem?_set_ne (Ne.symm hne)]

theorem lt_length_of_chain_ne_nil {q : Virtqueue} {head : Nat} (h : q.chain head ≠ []) :
    head < q.avail.length := by
  by_contra hge
  exact h (by simp [chain, List.getD_eq_getElem?_getD, List.getElem?_eq_none (not_lt.mp hge)])

end Virtqueue

theorem Desc.write_buf_of_le {data bytes : List UInt8} {off : Nat}
    (h : off + bytes.length ≤ data.length) :
    (Desc.buf data).write off bytes =
      .buf (data.take off ++ bytes ++ data.drop (off + bytes.length)) := by
  simp only [Desc.write]
  congr 1
  apply List.take_of_length_le
  simp only [List.length_append, List.length_take, List.length_drop]
  omega

theorem Virtqueue.chain_write_single {q : Virtqueue} {head off : Nat} {bytes d : List UInt8}
    (hh : head < q.avail.length) (hc : q.chain head = [.buf d])
    (hfit : off + bytes.length ≤ d.length) :
    (q.write head 0 off bytes).chain head =
      [.buf (d.take off ++ bytes ++ d.drop (off + bytes.length))] := by
  rw [Virtqueue.chain_write_self hh, hc, List.getD_cons_zero, Desc.write_buf_of_le hfit,
    List.set_cons_zero]

end VirtioNetSwitch
