import VirtioNetSwitch.Switch.Forward

/-!
# Reachable switch states

The states the switch reaches by adding ports, `check_ports` and forwarding, and the
invariants of the port array and the MAC table along every run.
-/

namespace VirtioNetSwitch

namespace VirtioSwitch

variable (K : PseudoVlanIds) (filterRequest : VirtioNetRequest → Bool)

/-- One operation of the event loop on the switch: a factory-made port or monitor
added, `check_ports` with any set of dead clients, or one request of a port of the
array forwarded. -/
inductive Step : VirtioSwitch → VirtioSwitch → Prop
  | addPort {sw : VirtioSwitch} (p : VirtioPort) (hp : IsSwitchPort K p) (hfresh : sw.Fresh p) :
      Step sw (sw.addPort p).2
  | addMonitorPort {sw : VirtioSwitch} (p : VirtioPort) (hp : IsMonitorPort K p)
      (hfresh : sw.Fresh p) : Step sw (sw.addMonitorPort p).2
  | checkPorts {sw : VirtioSwitch} (dead : VirtioPort → Bool) : Step sw (sw.checkPorts dead)
  | handleTxQueue {sw : VirtioSwitch} (port : VirtioPort) (hport : some port ∈ sw.ports)
      (r : VirtioNetRequest) : Step sw (sw.handleTxQueue K filterRequest port r).1

inductive Reachable : VirtioSwitch → Prop
  | init (maxPorts : Nat) : Reachable (new maxPorts)
  | step {sw sw' : VirtioSwitch} : Reachable sw → Step K filterRequest sw sw' → Reachable sw'

/-! ## Lemmas on the port array -/

private theorem mem_set_of_free {l : List (Option VirtioPort)} {q : VirtioPort} {idx : Nat}
    (x : Option VirtioPort) (hq : some q ∈ l) (hfree : l.getD idx none = none) :
    some q ∈ l.set idx x := by
  obtain ⟨i, hi, hqi⟩ := List.mem_iff_getElem.mp hq
  have hne : idx ≠ i := by
    rintro rfl
    simp [List.getElem?_eq_getElem hi, hqi] at hfree
  exact List.mem_iff_getElem.mpr ⟨i, by simpa using hi, by simp [List.getElem_set, hne, hqi]⟩

private theorem mem_set_none {l : List (Option VirtioPort)} {q p : VirtioPort} {idx : Nat}
    (hq : some q ∈ l) (hp : l.getD idx none = some p) (hne : q ≠ p) :
    some q ∈ l.set idx none := by
  obtain ⟨i, hi, hqi⟩ := List.mem_iff_getElem.mp hq
  have hidx : idx ≠ i := by
    rintro rfl
    simp [List.getElem?_eq_getElem hi, hqi] at hp
    exact hne hp
  exact List.mem_iff_getElem.mpr ⟨i, by simpa using hi, by simp [List.getElem_set, hidx, hqi]⟩

theorem getD_set_ne {l : List (Option VirtioPort)} {idx j : Nat} (x : Option VirtioPort)
    (h : idx ≠ j) : (l.set idx x).getD j none = l.getD j none := by
  simp [List.getElem?_set, h]

private theorem foldl_inv {α : Type} (P : VirtioSwitch → Prop) (f : VirtioSwitch → α → VirtioSwitch)
    (hf : ∀ sw a, P sw → P (f sw a)) (l : List α) {sw : VirtioSwitch} (h : P sw) :
    P (l.foldl f sw) := by
  induction l generalizing sw with
  | nil => exact h
  | cons a l ih => exact ih (hf sw a h)

theorem checkPorts_inv (P : VirtioSwitch → Prop) (dead : VirtioPort → Bool)
    (hstep : ∀ sw idx, P sw → P (sw.checkPortsStep dead idx))
    (hmon : ∀ sw, P sw → P { sw with monitor := none }) {sw : VirtioSwitch} (h : P sw) :
    P (sw.checkPorts dead) := by
  have hfold := foldl_inv P (checkPortsStep dead) hstep (List.range sw.maxUsed) h
  unfold checkPorts
  dsimp only
  split
  · split
    · exact hmon _ hfold
    · exact hfold
  · exact hfold

theorem deletedAt_eq_some {dead : VirtioPort → Bool} {sw : VirtioSwitch} {idx : Nat}
    {port : VirtioPort} (h : sw.deletedAt dead idx = some port) :
    idx < sw.maxUsed ∧ sw.ports.getD idx none = some port ∧ dead port = true := by
  unfold deletedAt at h
  split at h
  · split at h
    · split at h
      · cases h
        exact ⟨‹_›, ‹_›, ‹_›⟩
      · cases h
    · cases h
  · cases h

theorem checkPortsStep_cases (dead : VirtioPort → Bool) (sw : VirtioSwitch) (idx : Nat) :
    sw.checkPortsStep dead idx = sw ∨
      ∃ port, idx < sw.maxUsed ∧ sw.ports.getD idx none = some port ∧
        (sw.checkPortsStep dead idx).ports = sw.ports.set idx none ∧
        (sw.checkPortsStep dead idx).maxUsed =
          (if idx = sw.maxUsed - 1 then sw.maxUsed - 1 else sw.maxUsed) ∧
        (sw.checkPortsStep dead idx).macTable = sw.macTable.flush port ∧
        (sw.checkPortsStep dead idx).monitor = sw.monitor := by
  unfold checkPortsStep
  split
  · rename_i port hdel
    obtain ⟨hlt, hport, -⟩ := deletedAt_eq_some hdel
    exact .inr ⟨port, hlt, hport, rfl, rfl, rfl, rfl⟩
  · exact .inl rfl

/-! ## Registered ports -/

theorem registered_addPort {sw : VirtioSwitch} {p q : VirtioPort} :
    (sw.addPort p).2.Registered q → sw.Registered q ∨ q = p := by
  obtain ⟨-, hfalse, htrue⟩ := addPort_spec sw p
  cases hres : (sw.addPort p).1
  · rw [hfalse hres]
    exact .inl
  · obtain ⟨idx, -, hports, -, hmon, -⟩ := htrue hres
    rintro (hq | hq)
    · rw [hports] at hq
      rcases List.mem_or_eq_of_mem_set hq with hq | hq
      · exact .inl (.inl hq)
      · exact .inr (Option.some.inj hq)
    · exact .inl (.inr (hmon ▸ hq))

theorem registered_addPort_of_registered {sw : VirtioSwitch} {q : VirtioPort} (p : VirtioPort)
    (h : sw.Registered q) : (sw.addPort p).2.Registered q := by
  obtain ⟨-, hfalse, htrue⟩ := addPort_spec sw p
  cases hres : (sw.addPort p).1
  · rwa [hfalse hres]
  · obtain ⟨idx, hidx, hports, -, hmon, -⟩ := htrue hres
    rcases h with hq | hq
    · exact .inl (hports ▸ mem_set_of_free _ hq (lookupFreeSlot_eq_some hidx).2.1)
    · exact .inr (hmon ▸ hq)

theorem registered_addMonitorPort {sw : VirtioSwitch} {p q : VirtioPort} :
    (sw.addMonitorPort p).2.Registered q ↔ sw.Registered q ∨ ((sw.addMonitorPort p).1 = true ∧ q = p) := by
  unfold addMonitorPort
  split <;> simp_all [Registered, eq_comm]

theorem registered_handleTxQueue {sw : VirtioSwitch} {port q : VirtioPort} {r : VirtioNetRequest} :
    (sw.handleTxQueue K filterRequest port r).1.Registered q ↔ sw.Registered q := by
  simp only [handleTxQueue_fst, Registered]

theorem registered_checkPortsStep {dead : VirtioPort → Bool} {sw : VirtioSwitch} {idx : Nat}
    {q : VirtioPort} : (sw.checkPortsStep dead idx).Registered q → sw.Registered q := by
  rcases checkPortsStep_cases dead sw idx with h | ⟨-, -, -, hports, -, -, hmon⟩
  · intro hq
    rwa [h] at hq
  · rintro (hq | hq)
    · rw [hports] at hq
      rcases List.mem_or_eq_of_mem_set hq with hq | hq
      · exact .inl hq
      · cases hq
    · exact .inr (hmon ▸ hq)

theorem registered_checkPortsStep_of_ne {dead : VirtioPort → Bool} {sw : VirtioSwitch} {idx : Nat}
    {p q : VirtioPort} (hdel : sw.deletedAt dead idx = some p) (h : sw.Registered q) (hne : q ≠ p) :
    (sw.checkPortsStep dead idx).Registered q := by
  have hport := (deletedAt_eq_some hdel).2.1
  unfold checkPortsStep
  rw [hdel]
  rcases h with hq | hq
  · exact .inl (mem_set_none hq hport hne)
  · exact .inr hq

theorem registered_checkPorts {dead : VirtioPort → Bool} {sw : VirtioSwitch} {q : VirtioPort}
    (h : (sw.checkPorts dead).Registered q) : sw.Registered q :=
  checkPorts_inv (fun sw' => ∀ q, sw'.Registered q → sw.Registered q) dead
    (fun _ _ hsw q hq => hsw q (registered_checkPortsStep hq))
    (fun _ hsw q hq => hsw q (hq.imp_right fun h => by cases h)) (fun _ => id) q h

/-! ## The port-array invariant -/

/-- No slot at or above `_max_used` is in use, and `_max_used` is within the array. -/
def PortsInv (sw : VirtioSwitch) : Prop :=
  sw.maxUsed ≤ sw.maxPorts ∧ ∀ idx, sw.maxUsed ≤ idx → sw.ports.getD idx none = none

theorem portsInv_new (maxPorts : Nat) : PortsInv (new maxPorts) :=
  ⟨Nat.zero_le _, fun idx _ => getD_new_ports maxPorts idx⟩

theorem lookupFreeSlot_le_maxUsed {sw : VirtioSwitch} (hinv : PortsInv sw) {idx : Nat}
    (h : sw.lookupFreeSlot = some idx) : idx ≤ sw.maxUsed := by
  obtain ⟨-, -, hbelow⟩ := lookupFreeSlot_eq_some h
  by_contra hlt
  have hused := hbelow sw.maxUsed (by omega)
  rw [hinv.2 sw.maxUsed le_rfl] at hused
  exact absurd hused (by decide)

theorem portsInv_addPort {sw : VirtioSwitch} (hinv : PortsInv sw) (p : VirtioPort) :
    PortsInv (sw.addPort p).2 := by
  obtain ⟨-, hfalse, htrue⟩ := addPort_spec sw p
  cases hres : (sw.addPort p).1
  · rw [hfalse hres]
    exact hinv
  · obtain ⟨idx, hidx, hports, hused, -, -⟩ := htrue hres
    have hle := lookupFreeSlot_le_maxUsed hinv hidx
    have hlt := (lookupFreeSlot_eq_some hidx).1
    have hlen : (sw.addPort p).2.maxPorts = sw.maxPorts := by
      rw [← (sw.addPort p).2.ports_length, hports, List.length_set, sw.ports_length]
    have hbounds : sw.maxUsed ≤ (sw.addPort p).2.maxUsed ∧ idx < (sw.addPort p).2.maxUsed ∧
        (sw.addPort p).2.maxUsed ≤ sw.maxPorts := by
      rw [hused]
      have := hinv.1
      split <;> omega
    refine ⟨by omega, fun j hj => ?_⟩
    rw [hports, getD_set_ne _ (by omega)]
    exact hinv.2 j (by omega)

theorem portsInv_checkPortsStep (dead : VirtioPort → Bool) {sw : VirtioSwitch}
    (hinv : PortsInv sw) (idx : Nat) : PortsInv (sw.checkPortsStep dead idx) := by
  rcases checkPortsStep_cases dead sw idx with h | ⟨port, hlt, -, hports, hused, -, -⟩
  · rw [h]
    exact hinv
  · have hlen : (sw.checkPortsStep dead idx).maxPorts = sw.maxPorts := by
      rw [← (sw.checkPortsStep dead idx).ports_length, hports, List.length_set, sw.ports_length]
    have hbounds : (sw.checkPortsStep dead idx).maxUsed = sw.maxUsed ∨
        (idx = sw.maxUsed - 1 ∧ (sw.checkPortsStep dead idx).maxUsed = sw.maxUsed - 1) := by
      rw [hused]
      split <;> simp_all
    have := hinv.1
    refine ⟨by omega, fun j hj => ?_⟩
    rw [hports]
    by_cases hij : idx = j
    · subst hij
      simp [List.getElem?_set, show idx < sw.ports.length by rw [sw.ports_length]; omega]
    · rw [getD_set_ne _ hij]
      exact hinv.2 j (by omega)

theorem portsInv_step {sw sw' : VirtioSwitch} (hinv : PortsInv sw)
    (h : Step K filterRequest sw sw') : PortsInv sw' := by
  cases h with
  | addPort p _ _ => exact portsInv_addPort hinv p
  | addMonitorPort p _ _ =>
      unfold addMonitorPort
      split <;> exact hinv
  | checkPorts dead =>
      exact checkPorts_inv PortsInv dead (fun _ idx h => portsInv_checkPortsStep dead h idx)
        (fun _ h => h) hinv
  | handleTxQueue port _ r => exact hinv

theorem Reachable.portsInv {sw : VirtioSwitch} (h : Reachable K filterRequest sw) : PortsInv sw := by
  induction h with
  | init maxPorts => exact portsInv_new maxPorts
  | step _ hstep ih => exact portsInv_step K filterRequest ih hstep

/-- The port-array invariant holds in every reachable state, and there `add_port` puts
the port into the lowest empty slot, at most `_max_used`, fails exactly on a taken
known MAC address or a full array, and changes nothing when it fails. -/
theorem port_array_invariant {sw : VirtioSwitch} (h : Reachable K filterRequest sw) (p : VirtioPort) :
    (sw.maxUsed ≤ sw.maxPorts ∧ ∀ idx, sw.maxUsed ≤ idx → sw.ports.getD idx none = none) ∧
    ((sw.addPort p).1 = true → ∃ idx, idx ≤ sw.maxUsed ∧ sw.ports.getD idx none = none ∧
        (∀ j < idx, (sw.ports.getD j none).isSome) ∧
        (sw.addPort p).2.ports = sw.ports.set idx (some p)) ∧
    ((sw.addPort p).1 = false ↔
      (p.mac ≠ MacAddr.addrUnknown ∧ ∃ q, some q ∈ sw.ports ∧ q.mac = p.mac) ∨
        ∀ slot ∈ sw.ports, slot.isSome) ∧
    ((sw.addPort p).1 = false → (sw.addPort p).2 = sw) := by
  have hinv := h.portsInv
  obtain ⟨hiff, hfalse, htrue⟩ := addPort_spec sw p
  have hfull : sw.lookupFreeSlot = none ↔ ∀ slot ∈ sw.ports, slot.isSome := by
    simp [lookupFreeSlot, List.findIdx?_eq_none_iff]
  refine ⟨hinv, fun hres => ?_, hiff.trans (or_congr_right hfull), hfalse⟩
  obtain ⟨idx, hidx, hports, -⟩ := htrue hres
  obtain ⟨-, hfree, hbelow⟩ := lookupFreeSlot_eq_some hidx
  exact ⟨idx, lookupFreeSlot_le_maxUsed hinv hidx, hfree, hbelow, hports⟩

theorem port_array_invariant_two_ports :
    let K : PseudoVlanIds := PseudoVlanIds.sample
    let mac : MacAddr := ⟨[0x02, 0, 0, 0, 0, 0x07], rfl⟩
    let sw := ((new 2).addPort (VirtioPort.new K 1 mac)).2
    let p := VirtioPort.new K 2 mac
    Reachable K (fun _ => false) sw ∧
    (sw.maxUsed ≤ sw.maxPorts ∧ ∀ idx, sw.maxUsed ≤ idx → sw.ports.getD idx none = none) ∧
    ((sw.addPort p).1 = true → ∃ idx, idx ≤ sw.maxUsed ∧ sw.ports.getD idx none = none ∧
        (∀ j < idx, (sw.ports.getD j none).isSome) ∧
        (sw.addPort p).2.ports = sw.ports.set idx (some p)) ∧
    ((sw.addPort p).1 = false ↔
      (p.mac ≠ MacAddr.addrUnknown ∧ ∃ q, some q ∈ sw.ports ∧ q.mac = p.mac) ∨
        ∀ slot ∈ sw.ports, slot.isSome) ∧
    ((sw.addPort p).1 = false → (sw.addPort p).2 = sw) :=
  have h : Reachable PseudoVlanIds.sample (fun _ => false)
      ((new 2).addPort (VirtioPort.new PseudoVlanIds.sample 1 ⟨[0x02, 0, 0, 0, 0, 0x07], rfl⟩)).2 :=
    .step (.init 2) (.addPort _ (.native 1 _) (fresh_of_eq (l := [none, none]) (m := none) rfl rfl
      (by simp) (by simp)))
  ⟨h, port_array_invariant _ _ h _⟩

/-! ## The MAC table points into the port array -/

def MacInv (sw : VirtioSwitch) : Prop :=
  ∀ m p, sw.macTable.lookup m = some p → some p ∈ sw.ports

theorem macInv_addPort {sw : VirtioSwitch} (hinv : MacInv sw) (p : VirtioPort) :
    MacInv (sw.addPort p).2 := by
  obtain ⟨-, hfalse, htrue⟩ := addPort_spec sw p
  cases hres : (sw.addPort p).1
  · rw [hfalse hres]
    exact hinv
  · obtain ⟨idx, hidx, hports, -, -, hmac⟩ := htrue hres
    intro m q hq
    rw [hmac] at hq
    rw [hports]
    exact mem_set_of_free _ (hinv m q hq) (lookupFreeSlot_eq_some hidx).2.1

theorem macInv_checkPortsStep (dead : VirtioPort → Bool) {sw : VirtioSwitch}
    (hinv : MacInv sw) (idx : Nat) : MacInv (sw.checkPortsStep dead idx) := by
  rcases checkPortsStep_cases dead sw idx with h | ⟨port, -, hport, hports, -, hmac, -⟩
  · rw [h]
    exact hinv
  · intro m q hq
    rw [hmac] at hq
    obtain ⟨hne, hold⟩ := MacTable.lookup_flush _ _ hq
    rw [hports]
    exact mem_set_none (hinv m q hold) hport hne

theorem macInv_handleTxQueue {sw : VirtioSwitch} (hinv : MacInv sw) {port : VirtioPort}
    (hport : some port ∈ sw.ports) (r : VirtioNetRequest) :
    MacInv (sw.handleTxQueue K filterRequest port r).1 := by
  intro m q hq
  rcases MacTable.lookup_learn_cases _ _ _ hq with rfl | hold
  · exact hport
  · exact hinv m q hold

theorem macInv_step {sw sw' : VirtioSwitch} (hinv : MacInv sw)
    (h : Step K filterRequest sw sw') : MacInv sw' := by
  cases h with
  | addPort p _ _ => exact macInv_addPort hinv p
  | addMonitorPort p _ _ =>
      unfold addMonitorPort
      split <;> exact hinv
  | checkPorts dead =>
      exact checkPorts_inv MacInv dead (fun _ idx h => macInv_checkPortsStep dead h idx)
        (fun _ h => h) hinv
  | handleTxQueue port hport r => exact macInv_handleTxQueue K filterRequest hinv hport r

theorem Reachable.macInv {sw : VirtioSwitch} (h : Reachable K filterRequest sw) : MacInv sw := by
  induction h with
  | init maxPorts => intro m p hp; simp [new] at hp
  | step _ hstep ih => exact macInv_step K filterRequest ih hstep

theorem mem_handleTxQueue {sw : VirtioSwitch} (hinv : MacInv sw) {s : VirtioPort}
    (hs : some s ∈ sw.ports) (r : VirtioNetRequest) {t : VirtioPort}
    (ht : t ∈ (sw.handleTxQueue K filterRequest s r).2) :
    sw.monitor = some t ∨
      (t.id ≠ s.id ∧ t.matchVlan (txVlan K s r) = true ∧ some t ∈ sw.ports) := by
  have hinv' := macInv_handleTxQueue K filterRequest hinv hs r
  rw [handleTxQueue_snd] at ht
  rcases mem_txTargets K filterRequest ht with hmon | ⟨hne, hm, hmem | hlookup⟩
  · exact .inl hmon
  · exact .inr ⟨hne, hm, hmem⟩
  · exact .inr ⟨hne, hm, hinv' _ _ hlookup⟩

/-- In every reachable state the MAC table returns only ports of the array, so
forwarding hands a request only to ports of the array and to the monitor. -/
theorem macTable_points_to_ports {sw : VirtioSwitch} (h : Reachable K filterRequest sw) :
    (∀ m p, sw.macTable.lookup m = some p → some p ∈ sw.ports) ∧
    ∀ s r t, some s ∈ sw.ports → t ∈ (sw.handleTxQueue K filterRequest s r).2 →
      some t ∈ sw.ports ∨ sw.monitor = some t := by
  refine ⟨h.macInv, fun s r t hs ht => ?_⟩
  rcases mem_handleTxQueue K filterRequest h.macInv hs r ht with hmon | ⟨-, -, hmem⟩
  · exact .inr hmon
  · exact .inl hmem

theorem macTable_points_to_ports_after_learning :
    let K : PseudoVlanIds := PseudoVlanIds.sample
    let a : MacAddr := ⟨[0x02, 0, 0, 0, 0, 0x01], rfl⟩
    let b : MacAddr := ⟨[0x02, 0, 0, 0, 0, 0x02], rfl⟩
    let p0 := VirtioPort.new K 0 a
    let sw₀ := (((new 2).addPort p0).2.addPort (VirtioPort.new K 1 b)).2
    let r : VirtioNetRequest := ⟨0, 0, List.replicate 12 0,
      ⟨[0x02, 0, 0, 0, 0, 0x02, 0x02, 0, 0, 0, 0, 0x01, 0x08, 0x00]⟩, []⟩
    let sw := (sw₀.handleTxQueue K (fun _ => false) p0 r).1
    Reachable K (fun _ => false) sw ∧
    (∀ m p, sw.macTable.lookup m = some p → some p ∈ sw.ports) ∧
    ∀ s r t, some s ∈ sw.ports → t ∈ (sw.handleTxQueue K (fun _ => false) s r).2 →
      some t ∈ sw.ports ∨ sw.monitor = some t :=
  have h : Reachable PseudoVlanIds.sample (fun _ => false)
      ((((new 2).addPort (VirtioPort.new PseudoVlanIds.sample 0 ⟨[0x02, 0, 0, 0, 0, 0x01], rfl⟩)).2.addPort
        (VirtioPort.new PseudoVlanIds.sample 1 ⟨[0x02, 0, 0, 0, 0, 0x02], rfl⟩)).2.handleTxQueue
        PseudoVlanIds.sample (fun _ => false)
        (VirtioPort.new PseudoVlanIds.sample 0 ⟨[0x02, 0, 0, 0, 0, 0x01], rfl⟩)
        ⟨0, 0, List.replicate 12 0,
          ⟨[0x02, 0, 0, 0, 0, 0x02, 0x02, 0, 0, 0, 0, 0x01, 0x08, 0x00]⟩, []⟩).1 :=
    .step (.step (.step (.init 2) (.addPort _ (.native 0 ⟨[0x02, 0, 0, 0, 0, 0x01], rfl⟩)
      (fresh_of_eq (l := [none, none]) (m := none) rfl rfl (by simp) (by simp))))
      (.addPort _ (.native 1 ⟨[0x02, 0, 0, 0, 0, 0x02], rfl⟩) (fresh_of_eq
        (l := [some (VirtioPort.new PseudoVlanIds.sample 0 ⟨[0x02, 0, 0, 0, 0, 0x01], rfl⟩), none])
        (m := none) rfl rfl (by simp) (by simp))))
      (.handleTxQueue _ (by decide) _)
  ⟨h, macTable_points_to_ports _ _ h⟩

/-! ## Known MAC addresses in the array are unique -/

/-- Two slots of the array holding ports with one known MAC address are one slot. -/
def MacsUnique (sw : VirtioSwitch) : Prop :=
  ∀ i j p q, sw.ports.getD i none = some p → sw.ports.getD j none = some q →
    p.mac = q.mac → p.mac ≠ MacAddr.addrUnknown → i = j

theorem getD_set_some_cases {l : List (Option VirtioPort)} {idx i : Nat} {x p : VirtioPort}
    (h : (l.set idx (some x)).getD i none = some p) : (i = idx ∧ p = x) ∨ (i ≠ idx ∧ l.getD i none = some p) := by
  by_cases hi : idx = i
  · subst hi
    by_cases hlt : idx < l.length
    · simp_all [List.getElem?_set]
    · simp_all [List.getElem?_set]
  · exact .inr ⟨Ne.symm hi, by rwa [getD_set_ne _ hi] at h⟩

theorem macsUnique_addPort {sw : VirtioSwitch} (hinv : MacsUnique sw) (p : VirtioPort) :
    MacsUnique (sw.addPort p).2 := by
  obtain ⟨hiff, hfalse, htrue⟩ := addPort_spec sw p
  cases hres : (sw.addPort p).1
  · rw [hfalse hres]
    exact hinv
  · obtain ⟨idx, -, hports, -⟩ := htrue hres
    have hnew : ∀ j q, j ≠ idx → sw.ports.getD j none = some q → q.mac = p.mac →
        p.mac = MacAddr.addrUnknown := by
      intro j q _ hq hmac
      by_contra hknown
      have : (sw.addPort p).1 = false :=
        hiff.mpr (.inl ⟨hknown, q, mem_of_getD_eq_some hq, hmac⟩)
      simp [hres] at this
    intro i j a b ha hb hab hknown
    rw [hports] at ha hb
    rcases getD_set_some_cases ha with ⟨rfl, rfl⟩ | ⟨hi, ha'⟩ <;>
      rcases getD_set_some_cases hb with ⟨rfl, rfl⟩ | ⟨hj, hb'⟩
    · rfl
    · exact absurd (hnew j b hj hb' hab.symm) hknown
    · exact absurd (hnew i a hi ha' hab) (hab ▸ hknown)
    · exact hinv i j a b ha' hb' hab hknown

theorem macsUnique_checkPortsStep (dead : VirtioPort → Bool) {sw : VirtioSwitch}
    (hinv : MacsUnique sw) (idx : Nat) : MacsUnique (sw.checkPortsStep dead idx) := by
  rcases checkPortsStep_cases dead sw idx with h | ⟨-, -, -, hports, -, -, -⟩
  · rw [h]
    exact hinv
  · intro i j a b ha hb
    rw [hports] at ha hb
    have hkeep : ∀ k c, (sw.ports.set idx none).getD k none = some c → sw.ports.getD k none = some c := by
      intro k c hk
      by_cases hik : idx = k
      · subst hik
        by_cases hlt : idx < sw.ports.length <;> simp_all [List.getElem?_set]
      · rwa [getD_set_ne _ hik] at hk
    exact hinv i j a b (hkeep i a ha) (hkeep j b hb)

theorem Reachable.macsUnique {sw : VirtioSwitch} (h : Reachable K filterRequest sw) :
    MacsUnique sw := by
  induction h with
  | init maxPorts =>
      intro i j p q hp
      rw [getD_new_ports] at hp
      cases hp
  | step _ hstep ih =>
      cases hstep with
      | addPort p _ _ => exact macsUnique_addPort ih p
      | addMonitorPort p _ _ =>
          unfold addMonitorPort
          split <;> exact ih
      | checkPorts dead =>
          exact checkPorts_inv MacsUnique dead
            (fun _ idx h => macsUnique_checkPortsStep dead h idx) (fun _ h => h) ih
      | handleTxQueue port _ r => exact ih

theorem macsUnique_default_addrs :
    let p0 := VirtioPort.new PseudoVlanIds.sample 0 ⟨[0x02, 0x08, 0x0f, 0x2a, 0, 0], rfl⟩
    let p1 := VirtioPort.new PseudoVlanIds.sample 1 ⟨[0x02, 0x08, 0x0f, 0x2a, 0, 1], rfl⟩
    Reachable PseudoVlanIds.sample (fun _ => false) (((new 2).addPort p0).2.addPort p1).2 ∧
      MacsUnique (((new 2).addPort p0).2.addPort p1).2 :=
  have h : Reachable PseudoVlanIds.sample (fun _ => false)
      (((new 2).addPort (VirtioPort.new PseudoVlanIds.sample 0 ⟨[0x02, 0x08, 0x0f, 0x2a, 0, 0], rfl⟩)).2.addPort
        (VirtioPort.new PseudoVlanIds.sample 1 ⟨[0x02, 0x08, 0x0f, 0x2a, 0, 1], rfl⟩)).2 :=
    .step (.step (.init 2) (.addPort _ (.native 0 _)
        (fresh_of_eq (l := [none, none]) (m := none) rfl rfl (by simp) (by simp))))
      (.addPort _ (.native 1 _) (fresh_of_eq (l := [some (VirtioPort.new PseudoVlanIds.sample 0
        ⟨[0x02, 0x08, 0x0f, 0x2a, 0, 0], rfl⟩), none]) (m := none) rfl rfl (by simp) (by simp)))
  ⟨h, Reachable.macsUnique PseudoVlanIds.sample (fun _ => false) h⟩

/-- `add_monitor_port` compares the monitor's MAC address with nothing, and `add_port`
compares only with the array: a monitor and a port added after it may share a known
address. -/
theorem monitor_mac_not_checked :
    let mac : MacAddr := ⟨[0x02, 0, 0, 0, 0, 0x05], rfl⟩
    let m := (VirtioPort.new K 1 mac).setMonitor K
    let p := VirtioPort.new K 2 mac
    let sw := (((new 2).addMonitorPort m).2.addPort p).2
    ((new 2).addMonitorPort m).1 = true ∧ (((new 2).addMonitorPort m).2.addPort p).1 = true ∧
      Reachable K filterRequest sw ∧ sw.monitor = some m ∧ some p ∈ sw.ports ∧ m ≠ p ∧
      m.mac = p.mac ∧ p.mac ≠ MacAddr.addrUnknown := by
  intro mac m p sw
  have hports : sw.ports = [some p, none] := rfl
  refine ⟨rfl, rfl, .step (.step (.init 2) (.addMonitorPort m ⟨1, mac, rfl⟩ ?_))
    (.addPort p (.native 2 mac) ?_), rfl, by simp [hports], fun h => ?_, rfl,
    (by decide : (⟨[0x02, 0, 0, 0, 0, 0x05], rfl⟩ : MacAddr) ≠ MacAddr.addrUnknown)⟩
  · exact fresh_of_eq (l := [none, none]) (m := none) rfl rfl (by simp) (by simp)
  · refine fresh_of_eq (l := [none, none]) (m := some m) rfl rfl (by simp) fun q hq => ?_
    cases hq
    exact (by decide : (1 : Nat) ≠ 2)
  · exact absurd (congrArg VirtioPort.id h) (by decide : (1 : Nat) ≠ 2)

end VirtioSwitch

end VirtioNetSwitch
