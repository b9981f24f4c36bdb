import VirtioNetSwitch.MacTable
import VirtioNetSwitch.Port

/-!
# The switch and its port array

`Virtio_switch`: the slots of the port array, the monitor, `_max_used` and the MAC table,
with `add_port`, `add_monitor_port` and `check_ports`.  Whether a client is gone is the
kernel's decision; it is a parameter `dead` here.
-/

namespace VirtioNetSwitch

/-- `Mac_table<>`: the switch's learning table has the default 1024 entries. -/
def macTableSize : Nat := 1024

/-- `Virtio_switch`: `_ports`, `_monitor`, `_max_ports`, `_max_used` and `_mac_table`. -/
structure VirtioSwitch where
  ports : List (Option VirtioPort)
  monitor : Option VirtioPort
  maxPorts : Nat
  maxUsed : Nat
  macTable : MacTable VirtioPort macTableSize
  ports_length : ports.length = maxPorts

namespace VirtioSwitch

/-- The constructor `Virtio_switch(max_ports)`: all slots empty.  The source leaves
`_monitor` uninitialised; the model starts it empty, as every later use assumes. -/
def new (maxPorts : Nat) : VirtioSwitch :=
  ⟨List.replicate maxPorts none, none, maxPorts, 0, .empty, List.length_replicate _ _⟩

theorem getD_new_ports (maxPorts idx : Nat) : (new maxPorts).ports.getD idx none = none := by
  simp only [new, List.getD_eq_getElem?_getD, List.getElem?_replicate]
  split <;> rfl

/-- `lookup_free_slot()`: the lowest empty slot, `-1` (`none`) if all are taken. -/
def lookupFreeSlot (sw : VirtioSwitch) : Option Nat := sw.ports.findIdx? Option.isNone

/-- `port_available(monitor)`: slot 0 for a monitor while there is none, else the lowest
free slot of the array; `-1` is `none`. -/
def portAvailable (sw : VirtioSwitch) (monitor : Bool) : Option Nat :=
  if monitor then (if sw.monitor.isNone then some 0 else none) else sw.lookupFreeSlot

/-- The duplicate check of `add_port`: some port in the array has the MAC address. -/
def macTaken (sw : VirtioSwitch) (mac : MacAddr) : Bool :=
  sw.ports.any fun slot => slot.any (·.mac == mac)

def addPort (sw : VirtioSwitch) (port : VirtioPort) : Bool × VirtioSwitch :=
  if !port.mac.isUnknown && sw.macTaken port.mac then
    (false, sw)
  else
    match sw.lookupFreeSlot with
    | none => (false, sw)
    | some idx =>
        (true,
          { sw with
            ports := sw.ports.set idx (some port)
            maxUsed := if sw.maxUsed = idx then sw.maxUsed + 1 else sw.maxUsed
            ports_length := by rw [List.length_set, sw.ports_length] })

def addMonitorPort (sw : VirtioSwitch) (port : VirtioPort) : Bool × VirtioSwitch :=
  match sw.monitor with
  | none => (true, { sw with monitor := some port })
  | some _ => (false, sw)

/-- The port the loop of `check_ports()` deletes at slot `idx`: the one stored there,
if the slot is still below `_max_used` and the port's client has gone. -/
def deletedAt (dead : VirtioPort → Bool) (sw : VirtioSwitch) (idx : Nat) : Option VirtioPort :=
  if idx < sw.maxUsed then
    match sw.ports.getD idx none with
    | some port => if dead port then some port else none
    | none => none
  else none

/-- One round of the loop of `check_ports()`, at slot `idx`: a dead port is taken out
of its slot and flushed from the MAC table, and `_max_used` drops if it was in the
last used slot. -/
def checkPortsStep (dead : VirtioPort → Bool) (sw : VirtioSwitch) (idx : Nat) : VirtioSwitch :=
  match sw.deletedAt dead idx with
  | some port =>
      { sw with
        ports := sw.ports.set idx none
        maxUsed := if idx = sw.maxUsed - 1 then sw.maxUsed - 1 else sw.maxUsed
        macTable := sw.macTable.flush port
        ports_length := by rw [List.length_set, sw.ports_length] }
  | none => sw

/-- `check_ports()`.  The loop runs while `idx < _max_used`; as `_max_used` only
shrinks, that is the rounds over the indices below its value at the start, each
guarded by the loop condition.  Then a dead monitor is deleted. -/
def checkPorts (sw : VirtioSwitch) (dead : VirtioPort → Bool) : VirtioSwitch :=
  let sw' := (List.range sw.maxUsed).foldl (checkPortsStep dead) sw
  match sw'.monitor with
  | some m => if dead m then { sw' with monitor := none } else sw'
  | none => sw'

/-- The ports in the array and the monitor: the ports registered with the switch. -/
def Registered (sw : VirtioSwitch) (p : VirtioPort) : Prop := some p ∈ sw.ports ∨ sw.monitor = some p

/-- A port object new to the switch: its address is that of no registered port. -/
def Fresh (sw : VirtioSwitch) (p : VirtioPort) : Prop := ∀ q, sw.Registered q → q.id ≠ p.id

theorem fresh_of_eq {sw : VirtioSwitch} {p : VirtioPort} {l : List (Option VirtioPort)}
    {m : Option VirtioPort} (hports : sw.ports = l) (hmon : sw.monitor = m)
    (hl : ∀ q, some q ∈ l → q.id ≠ p.id) (hm : ∀ q, m = some q → q.id ≠ p.id) : sw.Fresh p := by
  rintro q (hq | hq)
  · exact hl q (hports ▸ hq)
  · exact hm q (hmon ▸ hq)

theorem mem_of_getD_eq_some {l : List (Option VirtioPort)} {j : Nat} {q : VirtioPort}
    (h : l.getD j none = some q) : some q ∈ l := by
  rw [List.getD_eq_getElem?_getD] at h
  cases hj : l[j]? with
  | none => simp [hj] at h
  | some x =>
      simp only [hj, Option.getD_some] at h
      exact h ▸ List.mem_iff_getElem?.mpr ⟨j, hj⟩

/-! ## What each operation does -/

theorem lookupFreeSlot_eq_some {sw : VirtioSwitch} {idx : Nat} (h : sw.lookupFreeSlot = some idx) :
    idx < sw.maxPorts ∧ sw.ports.getD idx none = none ∧
      ∀ j < idx, (sw.ports.getD j none).isSome := by
  obtain ⟨hlt, hfree, hbelow⟩ := List.findIdx?_eq_some_iff_getElem.mp h
  refine ⟨sw.ports_length ▸ hlt, by simpa [List.getElem?_eq_getElem hlt] using hfree, ?_⟩
  intro j hj
  have := hbelow j hj
  simp only [Option.isNone_iff_eq_none] at this
  simpa [List.getElem?_eq_getElem (Nat.lt_trans hj hlt), Option.isSome_iff_ne_none] using this

theorem macTaken_iff (sw : VirtioSwitch) (mac : MacAddr) :
    sw.macTaken mac = true ↔ ∃ q, some q ∈ sw.ports ∧ q.mac = mac := by
  simp only [macTaken, List.any_eq_true]
  constructor
  · rintro ⟨slot, hslot, hq⟩
    cases slot with
    | none => simp at hq
    | some q => exact ⟨q, hslot, by simpa using hq⟩
  · rintro ⟨q, hq, rfl⟩
    exact ⟨some q, hq, by simp⟩

theorem addPort_spec (sw : VirtioSwitch) (port : VirtioPort) :
    ((sw.addPort port).1 = false ↔
      (port.mac ≠ MacAddr.addrUnknown ∧ ∃ q, some q ∈ sw.ports ∧ q.mac = port.mac) ∨
        sw.lookupFreeSlot = none) ∧
    ((sw.addPort port).1 = false → (sw.addPort port).2 = sw) ∧
    ((sw.addPort port).1 = true → ∃ idx, sw.lookupFreeSlot = some idx ∧
      (sw.addPort port).2.ports = sw.ports.set idx (some port) ∧
      (sw.addPort port).2.maxUsed = (if sw.maxUsed = idx then sw.maxUsed + 1 else sw.maxUsed) ∧
      (sw.addPort port).2.monitor = sw.monitor ∧ (sw.addPort port).2.macTable = sw.macTable) := by
  have htaken := macTaken_iff sw port.mac
  unfold addPort
  split
  · rename_i hdup
    simp only [Bool.and_eq_true, Bool.not_eq_true', MacAddr.isUnknown, beq_eq_false_iff_ne] at hdup
    exact ⟨iff_of_true rfl (.inl ⟨hdup.1, htaken.mp hdup.2⟩), fun _ => rfl,
      fun h => Bool.noConfusion h⟩
  · rename_i hnodup
    simp only [Bool.and_eq_true, Bool.not_eq_true', MacAddr.isUnknown, beq_eq_false_iff_ne,
      not_and] at hnodup
    have hnone : ¬(port.mac ≠ MacAddr.addrUnknown ∧ ∃ q, some q ∈ sw.ports ∧ q.mac = port.mac) :=
      fun ⟨hknown, hq⟩ => hnodup hknown (htaken.mpr hq)
    split
    · rename_i hfree
      simp [hfree]
    · rename_i idx hidx
      exact ⟨iff_of_false Bool.noConfusion fun h => h.elim hnone (by simp [hidx]),
        fun h => Bool.noConfusion h, fun _ => ⟨idx, hidx, rfl, rfl, rfl, rfl⟩⟩

end VirtioSwitch

end VirtioNetSwitch
