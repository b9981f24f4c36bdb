import VirtioNetSwitch.MacTable

/-!
# The MAC table's representation invariant

`_mac_table` and `_entries` describe one association twice.  `learn` and `flush` keep
their agreement from `Mac_table()` on, provided `Size` is positive, and on such states
`flush(port)` removes exactly the associations with `port`.
-/

namespace VirtioNetSwitch

namespace MacTable

variable {P : Type} {Size : Nat}

section Reachable

variable [DecidableEq P]

inductive Reachable : MacTable P Size → Prop
  | empty : Reachable empty
  | learn {t : MacTable P Size} (h : Reachable t) (src : MacAddr) (port : P) :
      Reachable (t.learn src port)
  | flush {t : MacTable P Size} (h : Reachable t) (port : P) : Reachable (t.flush port)

end Reachable

/-- `_mac_table` and `_entries` agree, and `_rr_index` names an entry. -/
structure Inv (t : MacTable P Size) : Prop where
  key_entry : ∀ k i, (k, i) ∈ t.macTable →
    i < Size ∧ (t.entries.getD i .empty).addr = k ∧ (t.entries.getD i .empty).port ≠ none
  entry_key : ∀ i, (t.entries.getD i .empty).port ≠ none →
    ((t.entries.getD i .empty).addr, i) ∈ t.macTable
  rr_lt : t.rrIndex < Size

/-! ## Lists of entries -/

theorem getD_set_entry (es : List (Entry P)) (i j : Nat) (e : Entry P) :
    (es.set i e).getD j .empty = if i = j ∧ i < es.length then e else es.getD j .empty := by
  simp only [List.getD_eq_getElem?_getD, List.getElem?_set]
  by_cases hij : i = j
  · subst hij
    by_cases hi : i < es.length
    · simp [hi]
    · simp [hi, List.getElem?_eq_none (not_lt.mp hi)]
  · simp [hij]

theorem getD_entries_of_size_zero (t : MacTable P Size) (h : Size = 0) (i : Nat) :
    t.entries.getD i .empty = .empty := by
  have : t.entries = [] := List.eq_nil_of_length_eq_zero (t.entries_length.trans h)
  simp [this]

theorem mem_eraseKey {m : List (MacAddr × Nat)} {a k : MacAddr} {i : Nat} :
    (k, i) ∈ eraseKey m a ↔ (k, i) ∈ m ∧ k ≠ a := by
  simp [eraseKey]

theorem index_eq_of_mem {m : List (MacAddr × Nat)} (hnd : (m.map Prod.fst).Nodup) {k : MacAddr}
    {i j : Nat} (hi : (k, i) ∈ m) (hj : (k, j) ∈ m) : i = j :=
  Option.some.inj ((lookup_eq_some_of_mem hnd hi).symm.trans (lookup_eq_some_of_mem hnd hj))

/-! ## `learn` and `flush` keep the invariant -/

theorem getD_replicate_empty (n i : Nat) :
    (List.replicate n (Entry.empty : Entry P)).getD i .empty = .empty := by
  simp only [List.getD_eq_getElem?_getD, List.getElem?_replicate]
  split <;> rfl

theorem inv_empty (h : 0 < Size) : Inv (empty : MacTable P Size) where
  key_entry _ _ hk := by simp [empty] at hk
  entry_key i hi := (hi (by simp only [empty, getD_replicate_empty, Entry.empty_port])).elim
  rr_lt := h

theorem Inv.learn {t : MacTable P Size} (h : Inv t) (src : MacAddr) (port : P) :
    Inv (t.learn src port) := by
  have hlen := t.entries_length
  unfold MacTable.learn
  split
  · next i hsrc =>
      have hsrc_mem := mem_of_lookup_eq_some hsrc
      obtain ⟨hi, hai, -⟩ := h.key_entry src i hsrc_mem
      refine ⟨fun k j hk => ?_, fun j hj => ?_, h.rr_lt⟩
      · obtain ⟨hj, haj, hpj⟩ := h.key_entry k j hk
        simp only [getD_set_entry]
        split
        · next hij =>
            obtain ⟨rfl, -⟩ := hij
            exact ⟨hj, haj, by simp⟩
        · exact ⟨hj, haj, hpj⟩
      · simp only [getD_set_entry] at hj ⊢
        split
        · next hij =>
            obtain ⟨rfl, -⟩ := hij
            show ((t.entries.getD i .empty).addr, i) ∈ t.macTable
            rw [hai]
            exact hsrc_mem
        · simp only [if_neg ‹_›] at hj
          exact h.entry_key j hj
  · next hsrc =>
      dsimp only
      have hnew : ∀ i, (src, i) ∉ t.macTable := fun i hi => by
        simp [lookup_eq_some_of_mem t.keys_nodup hi] at hsrc
      have hrr : t.rrIndex < t.entries.length := by rw [hlen]; exact h.rr_lt
      -- the entry `_rr_index` names, which the new address takes
      have hold : (t.entries.getD t.rrIndex .empty).port ≠ none →
          (t.entries.getD t.rrIndex .empty).addr ≠ src := fun ho ha =>
        hnew t.rrIndex (by rw [← ha]; exact h.entry_key _ ho)
      have hmap : ∀ k j, (k, j) ∈ (if (t.entries.getD t.rrIndex .empty).port.isSome then
            eraseKey (t.macTable ++ [(src, t.rrIndex)]) (t.entries.getD t.rrIndex .empty).addr
          else t.macTable ++ [(src, t.rrIndex)]) ↔
          ((k, j) ∈ t.macTable ∨ (k = src ∧ j = t.rrIndex)) ∧
            ((t.entries.getD t.rrIndex .empty).port ≠ none →
              k ≠ (t.entries.getD t.rrIndex .empty).addr) := by
        intro k j
        by_cases ho : (t.entries.getD t.rrIndex .empty).port = none
        · simp only [ho, Option.isSome_none, Bool.false_eq_true, if_false, List.mem_append,
            List.mem_singleton, Prod.mk.injEq, ne_eq, not_true_eq_false, false_implies, and_true]
        · simp only [Option.ne_none_iff_isSome.mp ho, if_true, mem_eraseKey, List.mem_append,
            List.mem_singleton, Prod.mk.injEq, ne_eq, ho, not_false_eq_true, true_implies]
      refine ⟨fun k j hk => ?_, fun j hj => ?_, Nat.mod_lt _ (Nat.zero_lt_of_lt h.rr_lt)⟩
      · simp only [getD_set_entry]
        obtain ⟨hk | ⟨rfl, rfl⟩, hka⟩ := (hmap k j).mp hk
        · obtain ⟨hj, haj, hpj⟩ := h.key_entry k j hk
          have hjr : t.rrIndex ≠ j := by
            rintro rfl
            exact hka hpj haj.symm
          simp only [hjr, false_and, if_false]
          exact ⟨hj, haj, hpj⟩
        · simp [hrr, h.rr_lt]
      · simp only [getD_set_entry] at hj ⊢
        refine (hmap _ _).mpr ?_
        split
        · next hij =>
            obtain ⟨rfl, -⟩ := hij
            exact ⟨.inr ⟨rfl, rfl⟩, fun ho ha => hold ho ha.symm⟩
        · next hij =>
            simp only [if_neg hij] at hj
            have hmem := h.entry_key j hj
            have hjr : j ≠ t.rrIndex := fun hjr => hij ⟨hjr.symm, hrr⟩
            refine ⟨.inl hmem, fun ho ha => hjr ?_⟩
            exact index_eq_of_mem t.keys_nodup hmem (ha ▸ h.entry_key _ ho)

def clearIf [DecidableEq P] (port : P) (e : Entry P) : Entry P :=
  if e.port = some port then .empty else e

section Flush

variable [DecidableEq P]

theorem map_clearIf_of_not_mem (port : P) {es : List (Entry P)}
    (h : ∀ j, (es.getD j .empty).port ≠ some port) : es.map (clearIf port) = es := by
  refine (List.map_congr_left fun e he => ?_).trans (List.map_id es)
  obtain ⟨j, hj, rfl⟩ := List.getElem_of_mem he
  have := h j
  simp only [List.getD_eq_getElem?_getD, List.getElem?_eq_getElem hj, Option.getD_some] at this
  simp [clearIf, this]

theorem map_clearIf_set_empty (port : P) {es : List (Entry P)} {i : Nat}
    (hit : (es.getD i .empty).port = some port) :
    (es.set i .empty).map (clearIf port) = es.map (clearIf port) := by
  refine List.ext_getElem (by simp) fun j _ h₂ => ?_
  simp only [List.getElem_map, List.getElem_set]
  split
  · next hij =>
      subst hij
      rw [List.getD_eq_getElem _ _ (by simpa using h₂)] at hit
      simp [clearIf, hit, Entry.empty]
  · rfl

theorem flushFrom_eq (port : P) : ∀ (m : List (MacAddr × Nat)) (es : List (Entry P)),
    (m.map Prod.fst).Nodup →
    (∀ k k' i, (k, i) ∈ m → (k', i) ∈ m → (es.getD i .empty).port = some port → k = k') →
    (∀ j, (es.getD j .empty).port = some port → j ∈ m.map Prod.snd) →
    flushFrom port m es =
      (m.filter fun e => (es.getD e.2 .empty).port != some port, es.map (clearIf port))
  | [], es, _, _, hcov => by
      simp only [flushFrom, List.filter_nil, Prod.mk.injEq, true_and]
      exact (map_clearIf_of_not_mem port fun j hj => by simpa using hcov j hj).symm
  | (a, i) :: rest, es, hnd, hown, hcov => by
      simp only [List.map_cons, List.nodup_cons, List.mem_map] at hnd
      simp only [flushFrom]
      split
      · next hit =>
          have hi : i < es.length := by
            by_contra hi
            simp [List.getD_eq_getElem?_getD, List.getElem?_eq_none (not_lt.mp hi)] at hit
          have hrest : ∀ k j, (k, j) ∈ rest → j ≠ i := by
            rintro k j hk rfl
            have := hown a k j (List.mem_cons_self _ _) (List.mem_cons_of_mem _ hk) hit
            exact hnd.1 ⟨(k, j), hk, this.symm⟩
          have hset : ∀ j, j ≠ i → (es.set i .empty).getD j .empty = es.getD j .empty := by
            intro j hj
            simp [getD_set_entry, Ne.symm hj]
          rw [flushFrom_eq port rest (es.set i .empty) hnd.2
            (fun k k' j hk hk' hp => by
              rw [hset j (hrest k j hk)] at hp
              exact hown k k' j (List.mem_cons_of_mem _ hk) (List.mem_cons_of_mem _ hk') hp)
            (fun j hj => by
              have hji : j ≠ i := fun hji => by simp [hji, getD_set_entry, hi] at hj
              rw [hset j hji] at hj
              rcases List.mem_cons.mp (hcov j hj) with h | h
              · exact absurd h hji
              · exact h)]
          simp only [List.filter_cons, hit, bne_self_eq_false, Bool.false_eq_true, if_false,
            Prod.mk.injEq]
          exact ⟨List.filter_congr fun e he => by rw [hset e.2 (hrest e.1 e.2 he)],
            map_clearIf_set_empty port hit⟩
      · next hmiss =>
          rw [flushFrom_eq port rest es hnd.2
            (fun k k' j hk hk' =>
              hown k k' j (List.mem_cons_of_mem _ hk) (List.mem_cons_of_mem _ hk'))
            (fun j hj => (List.mem_cons.mp (hcov j hj)).resolve_left fun hji => by
              subst hji
              exact hmiss hj)]
          rw [List.filter_cons_of_pos (by simpa using hmiss)]

theorem Inv.flushFrom_eq {t : MacTable P Size} (h : Inv t) (port : P) :
    flushFrom port t.macTable t.entries =
      (t.macTable.filter fun e => (t.entries.getD e.2 .empty).port != some port,
        t.entries.map (clearIf port)) := by
  refine MacTable.flushFrom_eq port _ _ t.keys_nodup (fun k k' i hk hk' _ => ?_) fun j hj => ?_
  · exact (h.key_entry k i hk).2.1.symm.trans (h.key_entry k' i hk').2.1
  · exact List.mem_map.mpr ⟨_, h.entry_key j (by rw [hj]; simp), rfl⟩

theorem getD_map_clearIf (port : P) (es : List (Entry P)) (j : Nat) :
    (es.map (clearIf port)).getD j .empty = clearIf port (es.getD j .empty) := by
  have : clearIf port (.empty : Entry P) = .empty := by simp [clearIf, Entry.empty]
  simp only [List.getD_eq_getElem?_getD, List.getElem?_map]
  cases es[j]? <;> simp [this]

theorem Inv.flush {t : MacTable P Size} (h : Inv t) (port : P) : Inv (t.flush port) := by
  have heq := h.flushFrom_eq port
  refine ⟨fun k j hk => ?_, fun j hj => ?_, h.rr_lt⟩
  · simp only [MacTable.flush, heq, List.mem_filter, bne_iff_ne, ne_eq] at hk ⊢
    obtain ⟨hj, haj, hpj⟩ := h.key_entry k j hk.1
    simp only [getD_map_clearIf, clearIf, if_neg hk.2]
    exact ⟨hj, haj, hpj⟩
  · simp only [MacTable.flush, heq, getD_map_clearIf, List.mem_filter, bne_iff_ne, ne_eq] at hj ⊢
    unfold clearIf at hj ⊢
    split at hj
    · simp [Entry.empty] at hj
    · next hp =>
        simp only [if_neg hp]
        exact ⟨h.entry_key j hj, hp⟩

theorem Reachable.inv {t : MacTable P Size} (ht : Reachable t) (hS : 0 < Size) : Inv t := by
  induction ht with
  | empty => exact inv_empty hS
  | learn _ src port ih => exact ih.learn src port
  | flush _ port ih => exact ih.flush port

end Flush

/-! ## What the invariant gives -/

section Consequences

variable {t : MacTable P Size}

theorem Inv.find_entry (h : Inv t) {k : MacAddr} {i : Nat} (hk : t.macTable.lookup k = some i) :
    i < Size ∧ (t.entries.getD i .empty).addr = k ∧ (t.entries.getD i .empty).port ≠ none :=
  h.key_entry k i (mem_of_lookup_eq_some hk)

theorem Inv.find_addr (h : Inv t) {i : Nat} (hi : (t.entries.getD i .empty).port ≠ none) :
    t.macTable.lookup (t.entries.getD i .empty).addr = some i :=
  lookup_eq_some_of_mem t.keys_nodup (h.entry_key i hi)

theorem Inv.key_eq_of_mem (h : Inv t) {k k' : MacAddr} {i : Nat} (hk : (k, i) ∈ t.macTable)
    (hk' : (k', i) ∈ t.macTable) : k = k' :=
  (h.key_entry k i hk).2.1.symm.trans (h.key_entry k' i hk').2.1

theorem Inv.index_eq_of_addr_eq (h : Inv t) {i j : Nat} (hi : (t.entries.getD i .empty).port ≠ none)
    (hj : (t.entries.getD j .empty).port ≠ none)
    (haddr : (t.entries.getD i .empty).addr = (t.entries.getD j .empty).addr) : i = j :=
  index_eq_of_mem t.keys_nodup (h.entry_key i hi) (haddr ▸ h.entry_key j hj)

theorem Inv.length_le (h : Inv t) : t.macTable.length ≤ Size := by
  have hnd : (t.macTable.map Prod.snd).Nodup :=
    (t.keys_nodup.of_map Prod.fst).map_on fun ⟨_, _⟩ hx ⟨_, _⟩ hy (hxy : _ = _) => by
      subst hxy
      exact Prod.ext (h.key_eq_of_mem hx hy) rfl
  have hsub : t.macTable.map Prod.snd ⊆ List.range Size := fun i hi => by
    obtain ⟨⟨k, i⟩, hm, rfl⟩ := List.mem_map.mp hi
    exact List.mem_range.mpr (h.key_entry k i hm).1
  calc t.macTable.length = (t.macTable.map Prod.snd).length := (List.length_map _ _).symm
    _ ≤ (List.range Size).length := (hnd.subperm hsub).length_le
    _ = Size := List.length_range Size

end Consequences

/-! ## Reachable tables: the invariant and what `flush` removes -/

section ReachableTables

variable [DecidableEq P]

theorem mac_table_invariant {t : MacTable P Size} (ht : Reachable t) (hS : 0 < Size) :
    (∀ k i, t.macTable.lookup k = some i → i < Size ∧
      (t.entries.getD i .empty).addr = k ∧ (t.entries.getD i .empty).port ≠ none) ∧
    (∀ i, (t.entries.getD i .empty).port ≠ none →
      t.macTable.lookup (t.entries.getD i .empty).addr = some i) ∧
    t.rrIndex < Size ∧
    (∀ k k' i, t.macTable.lookup k = some i → t.macTable.lookup k' = some i → k = k') ∧
    (∀ i j, (t.entries.getD i .empty).port ≠ none → (t.entries.getD j .empty).port ≠ none →
      (t.entries.getD i .empty).addr = (t.entries.getD j .empty).addr → i = j) ∧
    t.macTable.length ≤ Size := by
  have h := ht.inv hS
  exact ⟨fun _ _ => h.find_entry, fun _ => h.find_addr, h.rr_lt,
    fun _ _ _ hk hk' => h.key_eq_of_mem (mem_of_lookup_eq_some hk) (mem_of_lookup_eq_some hk'),
    fun _ _ => h.index_eq_of_addr_eq, h.length_le⟩

theorem mac_table_invariant_after_learning :
    let a : MacAddr := ⟨[0x02, 0, 0, 0, 0, 0x01], rfl⟩
    let t := (empty : MacTable Nat 2).learn a 7
    (Reachable t ∧ 0 < 2) ∧
    (∀ k i, t.macTable.lookup k = some i → i < 2 ∧
      (t.entries.getD i .empty).addr = k ∧ (t.entries.getD i .empty).port ≠ none) ∧
    (∀ i, (t.entries.getD i .empty).port ≠ none →
      t.macTable.lookup (t.entries.getD i .empty).addr = some i) ∧
    t.rrIndex < 2 ∧
    (∀ k k' i, t.macTable.lookup k = some i → t.macTable.lookup k' = some i → k = k') ∧
    (∀ i j, (t.entries.getD i .empty).port ≠ none → (t.entries.getD j .empty).port ≠ none →
      (t.entries.getD i .empty).addr = (t.entries.getD j .empty).addr → i = j) ∧
    t.macTable.length ≤ 2 :=
  ⟨⟨.learn .empty _ 7, by decide⟩, mac_table_invariant (.learn .empty _ 7) (by decide)⟩

/-- `Mac_table<0>()` already has no entry for `_rr_index` to name. -/
theorem mac_table_size_zero_rr_index :
    Reachable (empty : MacTable Nat 0) ∧ ¬ (empty : MacTable Nat 0).rrIndex < 0 :=
  ⟨.empty, Nat.lt_irrefl 0⟩

theorem Reachable.flushFrom_eq {t : MacTable P Size} (ht : Reachable t) (port : P) :
    flushFrom port t.macTable t.entries =
      (t.macTable.filter fun e => (t.entries.getD e.2 .empty).port != some port,
        t.entries.map (clearIf port)) := by
  rcases Nat.eq_zero_or_pos Size with hS | hS
  · refine MacTable.flushFrom_eq port _ _ t.keys_nodup (fun _ _ i _ _ hp => ?_) fun j hj => ?_
    · rw [getD_entries_of_size_zero t hS] at hp
      cases hp
    · rw [getD_entries_of_size_zero t hS] at hj
      cases hj
  · exact (ht.inv hS).flushFrom_eq port

theorem Reachable.flush_macTable {t : MacTable P Size} (ht : Reachable t) (p : P) :
    (t.flush p).macTable =
      t.macTable.filter fun e => (t.entries.getD e.2 .empty).port != some p :=
  congrArg Prod.fst (ht.flushFrom_eq p)

theorem Reachable.flush_entries {t : MacTable P Size} (ht : Reachable t) (p : P) :
    (t.flush p).entries = t.entries.map (clearIf p) :=
  congrArg Prod.snd (ht.flushFrom_eq p)

theorem Reachable.lookup_flush_of_ne {t : MacTable P Size} (ht : Reachable t) {p : P}
    {m : MacAddr} (hm : t.lookup m ≠ some p) : (t.flush p).lookup m = t.lookup m := by
  cases hq : t.lookup m with
  | none =>
      cases hq' : (t.flush p).lookup m with
      | none => rfl
      | some q => simp [(lookup_flush t p hq').2] at hq
  | some q =>
      obtain ⟨i, hi, hiq⟩ := Option.bind_eq_some.mp hq
      have hkeep : (t.entries.getD i .empty).port ≠ some p := by
        rw [hiq]
        exact fun h => hm (hq.trans h)
      refine Option.bind_eq_some.mpr ⟨i, lookup_eq_some_of_mem (t.flush p).keys_nodup ?_, ?_⟩
      · rw [ht.flush_macTable]
        exact List.mem_filter.mpr ⟨mem_of_lookup_eq_some hi, bne_iff_ne.mpr hkeep⟩
      · rw [ht.flush_entries, getD_map_clearIf, clearIf, if_neg hkeep, hiq]

theorem flush_removes_exactly {t : MacTable P Size} (ht : Reachable t) (p : P) :
    (t.flush p).macTable =
        t.macTable.filter (fun e => (t.entries.getD e.2 .empty).port != some p) ∧
      (t.flush p).entries = t.entries.map (clearIf p) ∧
      (t.flush p).rrIndex = t.rrIndex ∧
      (∀ m, (t.flush p).lookup m ≠ some p) ∧
      (∀ m, t.lookup m ≠ some p → (t.flush p).lookup m = t.lookup m) :=
  ⟨ht.flush_macTable p, ht.flush_entries p, rfl, fun _ hm => (lookup_flush t p hm).1 rfl,
    fun _ => ht.lookup_flush_of_ne⟩

theorem flush_removes_exactly_after_learning :
    let a : MacAddr := ⟨[0x02, 0, 0, 0, 0, 0x01], rfl⟩
    let t := (empty : MacTable Nat 2).learn a 7
    Reachable t ∧
      ((t.flush 7).macTable =
          t.macTable.filter (fun e => (t.entries.getD e.2 .empty).port != some 7) ∧
        (t.flush 7).entries = t.entries.map (clearIf 7) ∧
        (t.flush 7).rrIndex = t.rrIndex ∧
        (∀ m, (t.flush 7).lookup m ≠ some 7) ∧
        (∀ m, t.lookup m ≠ some 7 → (t.flush 7).lookup m = t.lookup m)) :=
  ⟨.learn .empty _ 7, flush_removes_exactly (.learn .empty _ 7) 7⟩

end ReachableTables

end MacTable

end VirtioNetSwitch
