import VirtioNetSwitch.Factory.OptArg

/-!
# The statistics block

`Switch_statistics` of the switch's `stats.h` and its reader `Monitor`/`Port_monitor` of
`lib/include/stats.h`.  The allocation loop's 32-bit counter is modelled: past `2^32` slots
it never returns (`none`).
-/

namespace VirtioNetSwitch

/-- The six counters of `Port_statistics`, each an `l4_uint64_t`. -/
structure Counters where
  txNum : Nat
  txDropped : Nat
  txBytes : Nat
  rxNum : Nat
  rxDropped : Nat
  rxBytes : Nat
  deriving DecidableEq, Repr

/-- `Port_statistics`: the counters, the port's MAC address, the 20 bytes of `name`, and
`in_use`. -/
structure PortStatistics where
  counters : Counters
  mac : List UInt8
  name : List Char
  inUse : UInt8
  deriving DecidableEq, Repr

namespace PortStatistics

def zero : PortStatistics :=
  ⟨⟨0, 0, 0, 0, 0, 0⟩, List.replicate 6 0, List.replicate 20 '\x00', 0⟩

/-- The bytes `allocate_port_statistics` leaves in `name`: `min(strlen(name), 19)` characters
of the name, then NUL to the buffer's end (the terminator and the `memset` before). -/
def allocName (name : List Char) : List Char :=
  let len := min (cstr name).length 19
  name.take len ++ List.replicate (20 - len) '\x00'

def allocated (name : List Char) : PortStatistics :=
  { zero with name := allocName name, inUse := 1 }

end PortStatistics

/-- `Statistics`, the block at the start of the shared memory: `age` (an `l4_uint64_t`) and
the slots, as many as the `max_ports` that `initialize` stores. -/
structure Statistics where
  age : Nat
  portStats : List PortStatistics
  deriving DecidableEq, Repr

namespace Statistics

/-- `Switch_statistics::initialize(num_max_ports)`: a zeroed block of `num_max_ports` slots. -/
def init (numMaxPorts : UInt64) : Statistics :=
  ⟨0, List.replicate numMaxPorts.toNat .zero⟩

/-- `Switch_statistics::allocate_port_statistics(name)`: the first slot not in use, zeroed,
marked in use and named, with the age advanced, or `nullptr` (`none`) when every slot is in
use.  The loop counter is an `unsigned`: with the first `2^32` slots in use and `max_ports`
at `2^32` or more it wraps to 0 and the call never returns (the outer `none`). -/
def allocatePortStatistics (s : Statistics) (name : List Char) :
    Option (Option Nat × Statistics) :=
  match s.portStats.findIdx? (fun p => p.inUse == 0) with
  | some i =>
      if i < 2 ^ 32 then some (some i, ⟨(s.age + 1) % 2 ^ 64, s.portStats.set i (.allocated name)⟩)
      else none
  | none => if s.portStats.length < 2 ^ 32 then some (none, s) else none

/-- The search of `Monitor::get_port_stats` and `Monitor::get_port_mac`: the first slot in
use whose name `strncmp` finds equal to `name` over `n` characters. -/
def portIndex (n : Nat) (s : Statistics) (name : List Char) : Option Nat :=
  s.portStats.findIdx? fun p => p.inUse != 0 && strncmpEq n p.name name

/-- `Monitor::get_port_stats(name)`, comparing `sizeof(name)` characters; the index of the
slot stands for the pointer to it. -/
def getPortStats (s : Statistics) (name : List Char) : Option Nat :=
  portIndex 20 s name

/-- `Monitor::get_port_mac(name, mac)`: the MAC address of the slot found comparing 20
characters. -/
def getPortMac (s : Statistics) (name : List Char) : Option (List UInt8) :=
  (portIndex 20 s name).map fun i => (s.portStats.getD i .zero).mac

/-- The switch's allocations in order, one per port it creates; `none` once one of them never
returns. -/
def allocateAll (s : Statistics) : List (List Char) → Option Statistics
  | [] => some s
  | name :: names => (s.allocatePortStatistics name).bind fun r => r.2.allocateAll names

end Statistics

/-- `Port_monitor`: its name buffer `_name`, the age `_age` at which it last looked its port
up, and the slot `_stats` it found then (`none` for `nullptr`). -/
structure PortMonitor where
  name : List Char
  age : Nat
  slot : Option Nat
  deriving DecidableEq, Repr

namespace PortMonitor

/-- The bytes of `_name`: `strncpy` of at most 19 characters, padded with NUL, and the
final NUL. -/
def monitorName (name : List Char) : List Char :=
  let t := (cstr name).take 19
  t ++ List.replicate (20 - t.length) '\x00'

/-- The constructor: the name, then the age, then the lookup. -/
def new (s : Statistics) (name : List Char) : PortMonitor :=
  ⟨monitorName name, s.age, s.getPortStats (monitorName name)⟩

/-- `Port_monitor::stats(...)` with the caller's six variables `out`: the lookup is redone
when the age has changed, and the counters of the slot found are copied out.  With no slot
the six assignments reset the pointer parameters, so `out` stays as it was. -/
def stats (pm : PortMonitor) (s : Statistics) (out : Counters) : PortMonitor × Counters :=
  let pm := if pm.age ≠ s.age then { pm with slot := s.getPortStats pm.name, age := s.age }
    else pm
  match pm.slot with
  | none => (pm, out)
  | some i => (pm, (s.portStats.getD i .zero).counters)

end PortMonitor

/-! ## Names -/

/-- A name as both sides keep it: its first 19 characters, up to a NUL. -/
def truncName (name : List Char) : List Char := (cstr name).take 19

theorem nul_not_mem_truncName (name : List Char) : ∀ c ∈ truncName name, c ≠ '\x00' := by
  intro c hc
  simpa using List.mem_takeWhile_imp (List.mem_of_mem_take hc)

theorem length_truncName_le (name : List Char) : (truncName name).length ≤ 19 := by
  simp [truncName]

theorem allocName_eq (name : List Char) :
    PortStatistics.allocName name =
      truncName name ++ List.replicate (20 - (truncName name).length) '\x00' := by
  have hlen : (truncName name).length = min (cstr name).length 19 := by
    simp [truncName, Nat.min_comm]
  have htake : name.take (min (cstr name).length 19) = truncName name :=
    calc name.take (min (cstr name).length 19)
        = (cstr name ++ name.dropWhile (· != '\x00')).take (min (cstr name).length 19) := by
          rw [cstr, List.takeWhile_append_dropWhile]
      _ = (cstr name).take (min (cstr name).length 19) :=
          List.take_append_of_le_length (Nat.min_le_left _ _)
      _ = truncName name := by
          rcases le_total (cstr name).length 19 with h | h
          · rw [Nat.min_eq_left h, List.take_length, truncName, List.take_of_length_le h]
          · rw [Nat.min_eq_right h, truncName]
  simp only [PortStatistics.allocName, htake, hlen]

theorem cstr_append_nul {t : List Char} (ht : ∀ c ∈ t, c ≠ '\x00') (k : Nat) :
    cstr (t ++ List.replicate k '\x00') = t := by
  rw [cstr, List.takeWhile_append_of_pos (by simpa using ht), List.takeWhile_replicate]
  simp

theorem strncmpEq_append_nul {t : List Char} (ht : ∀ c ∈ t, c ≠ '\x00') {n : Nat}
    (hlen : t.length < n) (k : Nat) (q : List Char) :
    strncmpEq n (t ++ List.replicate k '\x00') q = decide (cstr q = t) := by
  induction t generalizing n q with
  | nil =>
      cases n with
      | zero => exact absurd hlen (Nat.not_lt_zero _)
      | succ n =>
          have hhead : (List.replicate k '\x00').headD '\x00' = '\x00' := by cases k <;> rfl
          simp only [strncmpEq, List.nil_append, hhead, beq_self_eq_true, Bool.true_or,
            Bool.and_true]
          cases q with
          | nil => rfl
          | cons d q =>
              by_cases hd : d = '\x00'
              · simp [cstr, hd]
              · simp [cstr, hd, Ne.symm hd]
  | cons c t ih =>
      cases n with
      | zero => exact absurd hlen (Nat.not_lt_zero _)
      | succ n =>
          have hc : c ≠ '\x00' := ht c (List.mem_cons_self _ _)
          have ih' := ih (fun d hd => ht d (List.mem_cons_of_mem _ hd))
            (Nat.lt_of_succ_lt_succ hlen)
          cases q with
          | nil => simp [strncmpEq, cstr, hc]
          | cons d q =>
              by_cases hd : d = '\x00'
              · subst hd
                simp [strncmpEq, cstr, hc]
              · have hcstr : cstr (d :: q) = d :: cstr q := by simp [cstr, hd]
                simp only [strncmpEq, List.cons_append, List.headD_cons, List.tail_cons, ih',
                  hcstr, List.cons.injEq, hc, beq_iff_eq]
                by_cases hcd : c = d
                · subst hcd
                  simp [hc]
                · simp [hcd, Ne.symm hcd]

theorem strncmpEq_allocName (name q : List Char) :
    strncmpEq 20 (PortStatistics.allocName name) q = decide (cstr q = truncName name) := by
  rw [allocName_eq, strncmpEq_append_nul (nul_not_mem_truncName name)
    (by have := length_truncName_le name; omega)]

theorem cstr_monitorName (name : List Char) :
    cstr (PortMonitor.monitorName name) = truncName name :=
  cstr_append_nul (nul_not_mem_truncName name) _

/-! ## The block after a run of allocations -/

namespace PortStatistics

@[simp] theorem inUse_zero : zero.inUse = 0 := rfl

@[simp] theorem inUse_allocated (name : List Char) : (allocated name).inUse = 1 := rfl

@[simp] theorem name_allocated (name : List Char) : (allocated name).name = allocName name := rfl

end PortStatistics

theorem findIdx?_append_cons_of_first {α : Type} {p : α → Bool} {pre post : List α} {a : α}
    (hpre : ∀ b ∈ pre, p b = false) (ha : p a = true) :
    (pre ++ a :: post).findIdx? p = some pre.length := by
  rw [List.findIdx?_append, List.findIdx?_eq_none_iff.mpr hpre, Option.none_or,
    List.findIdx?_cons, if_pos ha]
  simp

theorem take_append_cons_of_lt {α : Type} {pre post : List α} {a : α} {n : Nat}
    (h : pre.length < n) :
    (pre ++ a :: post).take n = pre ++ a :: post.take (n - pre.length - 1) := by
  obtain ⟨k, hk⟩ : ∃ k, n - pre.length = k + 1 := ⟨n - pre.length - 1, by omega⟩
  rw [List.take_append_eq_append_take, List.take_of_length_le h.le, hk, List.take_succ_cons,
    Nat.add_sub_cancel]

namespace Statistics

/-- The block after `initialize(m)` and the allocations of `names` in order: the first `m`
names in the first slots, the other slots free, and as age the number of slots taken. -/
def table (m : UInt64) (names : List (List Char)) : Statistics :=
  ⟨min names.length m.toNat,
    (names.take m.toNat).map .allocated ++ List.replicate (m.toNat - names.length) .zero⟩

theorem init_eq_table (m : UInt64) : init m = table m [] := by
  simp [init, table]

@[simp] theorem age_table (m : UInt64) (names : List (List Char)) :
    (table m names).age = min names.length m.toNat := rfl

theorem table_append_of_full {m : UInt64} {names : List (List Char)}
    (h : m.toNat ≤ names.length) (name : List Char) :
    table m (names ++ [name]) = table m names := by
  simp only [table, List.length_append, List.length_singleton,
    List.take_append_of_le_length h, Statistics.mk.injEq]
  exact ⟨by omega, by rw [show m.toNat - (names.length + 1) = m.toNat - names.length by omega]⟩

theorem findIdx_free_table (m : UInt64) (names : List (List Char)) :
    (table m names).portStats.findIdx? (fun p => p.inUse == 0) =
      if names.length < m.toNat then some names.length else none := by
  have htaken : (names.take m.toNat).findIdx?
      ((fun p : PortStatistics => p.inUse == 0) ∘ PortStatistics.allocated) = none :=
    List.findIdx?_eq_none_iff.mpr fun _ _ => rfl
  simp only [table, List.findIdx?_append, List.findIdx?_map, htaken, Option.none_or,
    List.findIdx?_replicate, PortStatistics.inUse_zero, beq_self_eq_true, and_true,
    List.length_take, List.length_map]
  by_cases h : names.length < m.toNat
  · simp only [h, if_true, Nat.sub_pos_of_lt h, Option.map_some']
    congr 1
    omega
  · simp only [h, if_false]
    simp [show m.toNat - names.length = 0 by omega]

theorem length_table (m : UInt64) (names : List (List Char)) :
    (table m names).portStats.length = m.toNat := by
  simp only [table, List.length_append, List.length_map, List.length_take, List.length_replicate]
  omega

theorem set_table {m : UInt64} {names : List (List Char)} (h : names.length < m.toNat)
    (name : List Char) :
    (table m names).portStats.set names.length (.allocated name) =
      (table m (names ++ [name])).portStats := by
  obtain ⟨k, hk⟩ : ∃ k, m.toNat - names.length = k + 1 :=
    ⟨_, (Nat.sub_one_add_one (by omega)).symm⟩
  have hlen : (names ++ [name]).length ≤ m.toNat := by
    simp only [List.length_append, List.length_singleton]
    omega
  simp only [table, List.take_of_length_le h.le, List.take_of_length_le hlen, hk,
    List.replicate_succ, List.map_append, List.map_cons, List.map_nil, List.append_assoc,
    List.singleton_append, List.length_append, List.length_singleton,
    show m.toNat - (names.length + 1) = k by omega]
  rw [List.set_append_right _ _ (by simp), List.length_map, Nat.sub_self, List.set_cons_zero]

theorem allocate_table {m : UInt64} (hm : m.toNat < 2 ^ 32) (names : List (List Char))
    (name : List Char) :
    (table m names).allocatePortStatistics name =
      some (if names.length < m.toNat then some names.length else none,
        table m (names ++ [name])) := by
  unfold allocatePortStatistics
  rw [findIdx_free_table]
  by_cases h : names.length < m.toNat
  · have hage : ((table m names).age + 1) % 2 ^ 64 = (table m (names ++ [name])).age := by
      simp only [age_table, List.length_append, List.length_singleton]
      omega
    simp only [if_pos h, if_pos (show names.length < 2 ^ 32 by omega), set_table h, hage]
  · rw [if_neg h]
    dsimp only
    rw [if_pos (by rw [length_table]; omega), table_append_of_full (by omega)]

theorem allocateAll_table {m : UInt64} (hm : m.toNat < 2 ^ 32) (pre names : List (List Char)) :
    (table m pre).allocateAll names = some (table m (pre ++ names)) := by
  induction names generalizing pre with
  | nil => simp [allocateAll]
  | cons name names ih =>
      simp only [allocateAll, allocate_table hm, Option.some_bind]
      rw [ih, List.append_assoc, List.singleton_append]

theorem allocateAll_init {m : UInt64} (hm : m.toNat < 2 ^ 32) (names : List (List Char)) :
    (init m).allocateAll names = some (table m names) := by
  rw [init_eq_table, allocateAll_table hm, List.nil_append]

theorem getPortStats_table (m : UInt64) (names : List (List Char)) (q : List Char) :
    (table m names).getPortStats q =
      (names.take m.toNat).findIdx? fun a => decide (cstr q = truncName a) := by
  have hfree : (List.replicate (m.toNat - names.length) PortStatistics.zero).findIdx?
      (fun p => p.inUse != 0 && strncmpEq 20 p.name q) = none := by
    rw [List.findIdx?_replicate]
    simp
  simp only [getPortStats, portIndex, table, List.findIdx?_append, hfree, Option.map_none',
    Option.or_none, List.findIdx?_map]
  congr 1
  funext a
  simp only [Function.comp, PortStatistics.inUse_allocated, PortStatistics.name_allocated,
    strncmpEq_allocName]
  rfl

end Statistics

/-! ## Finding a port by name -/

namespace Statistics

theorem getPortStats_monitorName_table_none {m : UInt64} {names : List (List Char)}
    {name : List Char} (habsent : ∀ b ∈ names, truncName b ≠ truncName name) :
    (table m names).getPortStats (PortMonitor.monitorName name) = none := by
  rw [getPortStats_table, cstr_monitorName, List.findIdx?_eq_none_iff]
  intro b hb
  simpa [eq_comm] using habsent b (List.mem_of_mem_take hb)

/-- A port whose name has 20 or more characters: `allocate_port_statistics` keeps only its
first 19, so neither `get_port_stats` nor `get_port_mac` finds it by that name, while a
`Port_monitor` of that name, which cuts it the same way, finds its slot. -/
theorem long_name_found_only_by_port_monitor (m : UInt64) (hm : m.toNat < 2 ^ 32)
    (pre post : List (List Char)) (name : List Char) (hslot : pre.length < m.toNat)
    (hfirst : ∀ b ∈ pre, truncName b ≠ truncName name) (hlong : 20 ≤ (cstr name).length) :
    ∃ s, (init m).allocateAll (pre ++ name :: post) = some s ∧
      s.getPortStats name = none ∧ s.getPortMac name = none ∧
      (PortMonitor.new s name).slot = some pre.length := by
  refine ⟨_, allocateAll_init hm _, ?_⟩
  have hnone : (table m (pre ++ name :: post)).getPortStats name = none := by
    rw [getPortStats_table, List.findIdx?_eq_none_iff]
    intro b _
    simp only [decide_eq_false_iff_not]
    intro h
    have := congrArg List.length h
    have := length_truncName_le b
    omega
  have hmac : (table m (pre ++ name :: post)).getPortMac name = none := by
    show Option.map _ ((table m (pre ++ name :: post)).getPortStats name) = none
    rw [hnone]
    rfl
  refine ⟨hnone, hmac, ?_⟩
  show (table m (pre ++ name :: post)).getPortStats (PortMonitor.monitorName name) =
    some pre.length
  rw [getPortStats_table, cstr_monitorName, take_append_cons_of_lt hslot]
  exact findIdx?_append_cons_of_first (fun b hb => by simpa [eq_comm] using hfirst b hb)
    (by simp)

theorem long_name_found_only_by_port_monitor_second_slot :
    ((2 : UInt64).toNat < 2 ^ 32 ∧ ["eth0".toList].length < (2 : UInt64).toNat ∧
      (∀ b ∈ ["eth0".toList], truncName b ≠ truncName "virtio-net-guest-port".toList) ∧
      20 ≤ (cstr "virtio-net-guest-port".toList).length) ∧
    ∃ s, (init 2).allocateAll (["eth0".toList] ++ "virtio-net-guest-port".toList :: []) = some s ∧
      s.getPortStats "virtio-net-guest-port".toList = none ∧
      s.getPortMac "virtio-net-guest-port".toList = none ∧
      (PortMonitor.new s "virtio-net-guest-port".toList).slot = some ["eth0".toList].length := by
  have h₀ : (2 : UInt64).toNat < 2 ^ 32 := by decide
  have h₁ : ["eth0".toList].length < (2 : UInt64).toNat := by decide
  have h₂ : ∀ b ∈ ["eth0".toList],
      truncName b ≠ truncName "virtio-net-guest-port".toList := by decide
  have h₃ : 20 ≤ (cstr "virtio-net-guest-port".toList).length := by decide
  exact ⟨⟨h₀, h₁, h₂, h₃⟩, long_name_found_only_by_port_monitor 2 h₀ ["eth0".toList] []
    "virtio-net-guest-port".toList h₁ h₂ h₃⟩

/-- A port whose name shares its first 19 characters with an earlier port's is found by no
lookup under any name: every lookup stops at the earlier slot first. -/
theorem shadowed_port_never_found (m : UInt64) (hm : m.toNat < 2 ^ 32)
    (pre post : List (List Char)) (name b : List Char) (hb : b ∈ pre)
    (hshared : truncName b = truncName name) :
    ∃ s, (init m).allocateAll (pre ++ name :: post) = some s ∧
      ∀ q, s.getPortStats q ≠ some pre.length := by
  refine ⟨_, allocateAll_init hm _, fun q hfound => ?_⟩
  rw [getPortStats_table] at hfound
  set p : List Char → Bool := fun a => decide (cstr q = truncName a)
  by_cases hlt : pre.length < m.toNat
  · rw [take_append_cons_of_lt hlt, List.findIdx?_append] at hfound
    cases hpre : pre.findIdx? p with
    | some j =>
        rw [hpre] at hfound
        -- the search stops inside `pre`, before the shadowed slot
        obtain ⟨hj, -⟩ := List.findIdx?_eq_some_iff_getElem.mp hpre
        exact absurd (Option.some.inj hfound) (by omega)
    | none =>
        -- no earlier slot matches, so neither does the shadowed one, whose name cuts alike
        have hname : p name = false := by
          simpa [p, hshared] using List.findIdx?_eq_none_iff.mp hpre b hb
        rw [hpre, Option.none_or, List.findIdx?_cons, hname, if_neg Bool.false_ne_true,
          List.findIdx?_succ] at hfound
        cases hrest : (post.take (m.toNat - pre.length - 1)).findIdx? p with
        | none =>
            rw [hrest] at hfound
            exact Option.noConfusion hfound
        | some k =>
            rw [hrest] at hfound
            have hk : k + 1 + pre.length = pre.length := Option.some.inj hfound
            omega
  · obtain ⟨hi, -⟩ := List.findIdx?_eq_some_iff_getElem.mp hfound
    rw [List.length_take] at hi
    omega

theorem shadowed_port_never_found_alike_names :
    ((2 : UInt64).toNat < 2 ^ 32 ∧
      "vm-guest-network-port-a".toList ∈ ["vm-guest-network-port-a".toList] ∧
      truncName "vm-guest-network-port-a".toList = truncName "vm-guest-network-port-b".toList) ∧
    ∃ s, (init 2).allocateAll (["vm-guest-network-port-a".toList] ++
        "vm-guest-network-port-b".toList :: []) = some s ∧
      ∀ q, s.getPortStats q ≠ some ["vm-guest-network-port-a".toList].length := by
  have h₀ : (2 : UInt64).toNat < 2 ^ 32 := by decide
  have hb : "vm-guest-network-port-a".toList ∈ ["vm-guest-network-port-a".toList] :=
    List.mem_singleton_self _
  have hshared : truncName "vm-guest-network-port-a".toList =
      truncName "vm-guest-network-port-b".toList := by decide
  exact ⟨⟨h₀, hb, hshared⟩, shadowed_port_never_found 2 h₀ _ [] _ _ hb hshared⟩

end Statistics

/-! ## The cached reader -/

/-- What happens to the block between the client's reads: the switch allocates a slot for a
new port, or the client reads its port's statistics. -/
inductive StatsEvent
  | allocate (name : List Char)
  | read
  deriving DecidableEq, Repr

def StatsEvent.allocations : List StatsEvent → List (List Char)
  | [] => []
  | .allocate name :: es => name :: allocations es
  | .read :: es => allocations es

/-- What a read hands the caller when it looks the port up in the block as it is. -/
def Statistics.readCounters (s : Statistics) (name : List Char) (out : Counters) : Counters :=
  match s.getPortStats name with
  | none => out
  | some i => (s.portStats.getD i .zero).counters

/-- The reader without a cache: every read looks its port up again, the caller's six
variables starting as `out`.  A run ends at an allocation that never returns. -/
def lookupRun (name : List Char) (s : Statistics) (out : Counters) :
    List StatsEvent → List Counters
  | [] => []
  | .allocate n :: es =>
      match s.allocatePortStatistics n with
      | some (_, s') => lookupRun name s' out es
      | none => []
  | .read :: es => s.readCounters name out :: lookupRun name s (s.readCounters name out) es

namespace PortMonitor

/-- What a `Port_monitor` hands its caller at each read of a run, the caller's six variables
starting as `out`. -/
def run (pm : PortMonitor) (s : Statistics) (out : Counters) : List StatsEvent → List Counters
  | [] => []
  | .allocate name :: es =>
      match s.allocatePortStatistics name with
      | some (_, s') => pm.run s' out es
      | none => []
  | .read :: es => (pm.stats s out).2 :: (pm.stats s out).1.run s (pm.stats s out).2 es

/-- The cache is not ahead of the block, and is right when its age is the block's. -/
structure Fresh (pm : PortMonitor) (s : Statistics) : Prop where
  age_le : pm.age ≤ s.age
  slot_eq : pm.age = s.age → pm.slot = s.getPortStats pm.name

theorem fresh_new (s : Statistics) (name : List Char) : (new s name).Fresh s :=
  ⟨le_rfl, fun _ => rfl⟩

theorem Fresh.stats_eq {pm : PortMonitor} {s : Statistics} (h : pm.Fresh s) (out : Counters) :
    pm.stats s out =
      (⟨pm.name, s.age, s.getPortStats pm.name⟩, s.readCounters pm.name out) := by
  have hpm : (if pm.age ≠ s.age then { pm with slot := s.getPortStats pm.name, age := s.age }
      else pm) = ⟨pm.name, s.age, s.getPortStats pm.name⟩ := by
    by_cases hage : pm.age = s.age
    · rw [if_neg (not_not.mpr hage), ← hage, ← h.slot_eq hage]
    · rw [if_pos hage]
  unfold stats Statistics.readCounters
  rw [hpm]
  cases s.getPortStats pm.name <;> rfl

theorem Fresh.allocate {pm : PortMonitor} {m : UInt64} {names : List (List Char)}
    (h : pm.Fresh (Statistics.table m names)) (name : List Char) :
    pm.Fresh (Statistics.table m (names ++ [name])) := by
  by_cases hfull : m.toNat ≤ names.length
  · rwa [Statistics.table_append_of_full hfull]
  · have hle := h.age_le
    have hage :
        (Statistics.table m (names ++ [name])).age = (Statistics.table m names).age + 1 := by
      simp only [Statistics.age_table, List.length_append, List.length_singleton]
      omega
    exact ⟨by omega, fun heq => absurd heq (by omega)⟩

theorem run_table {m : UInt64} (hm : m.toNat < 2 ^ 32) (es : List StatsEvent) :
    ∀ (pm : PortMonitor) (names : List (List Char)) (out : Counters),
      pm.Fresh (Statistics.table m names) →
        pm.run (Statistics.table m names) out es =
          lookupRun pm.name (Statistics.table m names) out es := by
  induction es with
  | nil => intros; rfl
  | cons e es ih =>
      intro pm names out h
      cases e with
      | allocate name =>
          simp only [run, lookupRun, Statistics.allocate_table hm]
          exact ih pm _ out (h.allocate name)
      | read =>
          simp only [run, lookupRun, h.stats_eq]
          congr 1
          exact ih _ names _ ⟨le_rfl, fun _ => rfl⟩

end PortMonitor

/-- `Port_monitor`'s cache cannot be told from a lookup at every read: in any interleaving of
the switch's allocations and the client's reads, after any run of allocations from
`initialize` with fewer than `2^32` slots, a `Port_monitor` hands its caller what looking its
port up in the block as it then is would. -/
theorem portMonitor_refines_lookup (m : UInt64) (hm : m.toNat < 2 ^ 32)
    (names : List (List Char)) (name : List Char) (out : Counters) (es : List StatsEvent) :
    ∃ s, (Statistics.init m).allocateAll names = some s ∧
      (PortMonitor.new s name).run s out es = lookupRun (PortMonitor.monitorName name) s out es :=
  ⟨_, Statistics.allocateAll_init hm names,
    PortMonitor.run_table hm es _ names out (PortMonitor.fresh_new _ _)⟩

theorem portMonitor_refines_lookup_read_allocate_read :
    (2 : UInt64).toNat < 2 ^ 32 ∧
      ∃ s, (Statistics.init 2).allocateAll [] = some s ∧
        (PortMonitor.new s "eth0".toList).run s ⟨1, 0, 0, 0, 0, 0⟩
            [.read, .allocate "eth0".toList, .read] =
          lookupRun (PortMonitor.monitorName "eth0".toList) s ⟨1, 0, 0, 0, 0, 0⟩
            [.read, .allocate "eth0".toList, .read] :=
  ⟨by decide, portMonitor_refines_lookup 2 (by decide) [] _ _ _⟩

theorem lookupRun_absent {m : UInt64} (hm : m.toNat < 2 ^ 32) (name : List Char)
    (es : List StatsEvent) :
    ∀ (names : List (List Char)) (out : Counters),
      (∀ b ∈ names ++ StatsEvent.allocations es, truncName b ≠ truncName name) →
        ∀ c ∈ lookupRun (PortMonitor.monitorName name) (Statistics.table m names) out es,
          c = out := by
  induction es with
  | nil => intros; contradiction
  | cons e es ih =>
      intro names out habsent
      cases e with
      | allocate n =>
          simp only [lookupRun, Statistics.allocate_table hm]
          exact ih _ out fun b hb => habsent b (by simpa [StatsEvent.allocations] using hb)
      | read =>
          have hout : (Statistics.table m names).readCounters (PortMonitor.monitorName name) out =
              out := by
            rw [Statistics.readCounters, Statistics.getPortStats_monitorName_table_none
              fun b hb => habsent b (List.mem_append_left _ hb)]
          simp only [lookupRun, hout, List.mem_cons, forall_eq_or_imp, true_and]
          exact ih names out (by simpa [StatsEvent.allocations] using habsent)

/-- While no slot has the port's name, every read of a `Port_monitor` hands the caller its
six variables as they were, whatever they held, and not the zeros that the `no port found`
branch of `stats` means to report. -/
theorem stats_without_port_keeps_outputs (m : UInt64) (hm : m.toNat < 2 ^ 32)
    (names : List (List Char)) (name : List Char) (es : List StatsEvent)
    (habsent : ∀ b ∈ names ++ StatsEvent.allocations es, truncName b ≠ truncName name)
    (out : Counters) :
    ∃ s, (Statistics.init m).allocateAll names = some s ∧
      ∀ c ∈ (PortMonitor.new s name).run s out es, c = out := by
  refine ⟨_, Statistics.allocateAll_init hm names, ?_⟩
  rw [PortMonitor.run_table hm es _ names out (PortMonitor.fresh_new _ _)]
  exact lookupRun_absent hm name es names out habsent

theorem stats_without_port_keeps_seven :
    ((2 : UInt64).toNat < 2 ^ 32 ∧
      ∀ b ∈ [] ++ StatsEvent.allocations [.allocate "eth0".toList, .read],
        truncName b ≠ truncName "eth1".toList) ∧
    ∃ s, (Statistics.init 2).allocateAll [] = some s ∧
      ∀ c ∈ (PortMonitor.new s "eth1".toList).run s ⟨7, 0, 0, 0, 0, 0⟩
          [.allocate "eth0".toList, .read], c = ⟨7, 0, 0, 0, 0, 0⟩ := by
  have h₀ : (2 : UInt64).toNat < 2 ^ 32 := by decide
  have habsent : ∀ b ∈ [] ++ StatsEvent.allocations [.allocate "eth0".toList, .read],
      truncName b ≠ truncName "eth1".toList := by decide
  exact ⟨⟨h₀, habsent⟩, stats_without_port_keeps_outputs 2 h₀ [] _ _ habsent _⟩

end VirtioNetSwitch
