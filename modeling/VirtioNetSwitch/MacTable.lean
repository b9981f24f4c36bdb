import VirtioNetSwitch.Foundation.MacAddr

/-!
# The MAC learning table

`Mac_table<Size>`: the `std::map` is an association list with distinct keys, an entry
pointer is the entry's index, and `none` is `nullptr`.  Learning and flushing only ever
write `port` or `nullptr` into an entry.
-/

namespace VirtioNetSwitch

structure Entry (P : Type) where
  port : Option P
  addr : MacAddr
  deriving DecidableEq, Repr

def Entry.empty {P : Type} : Entry P := ⟨none, MacAddr.addrUnknown⟩

@[simp] theorem Entry.empty_port {P : Type} : (Entry.empty : Entry P).port = none := rfl

/-- `Mac_table<Size>`: `_mac_table`, `_entries` and `_rr_index`. -/
structure MacTable (P : Type) (Size : Nat) where
  macTable : List (MacAddr × Nat)
  entries : List (Entry P)
  rrIndex : Nat
  keys_nodup : (macTable.map Prod.fst).Nodup
  entries_length : entries.length = Size

def eraseKey (m : List (MacAddr × Nat)) (k : MacAddr) : List (MacAddr × Nat) :=
  m.filter fun e => e.1 != k

theorem lookup_cons_ite (b k : MacAddr) (i : Nat) (m : List (MacAddr × Nat)) :
    ((b, i) :: m).lookup k = if k = b then some i else m.lookup k := by
  rw [List.lookup_cons]
  by_cases h : k = b
  · simp [h]
  · simp [beq_eq_false_iff_ne.mpr h, h]

theorem lookup_eraseKey (m : List (MacAddr × Nat)) (k a : MacAddr) :
    (eraseKey m a).lookup k = if k = a then none else m.lookup k := by
  induction m with
  | nil => simp [eraseKey]
  | cons e m ih =>
      obtain ⟨b, i⟩ := e
      simp only [eraseKey] at ih ⊢
      rw [List.filter_cons]
      by_cases hb : b = a
      · subst hb
        simp only [bne_self_eq_false, Bool.false_eq_true, if_false, ih, lookup_cons_ite]
        by_cases hk : k = b <;> simp [hk]
      · simp only [bne_iff_ne.mpr hb, if_true, lookup_cons_ite, ih]
        by_cases hk : k = b
        · subst hk
          simp [hb]
        · simp [hk]

theorem lookup_eq_some_of_mem {m : List (MacAddr × Nat)} (hnd : (m.map Prod.fst).Nodup)
    {k : MacAddr} {i : Nat} (h : (k, i) ∈ m) : m.lookup k = some i := by
  induction m with
  | nil => simp at h
  | cons e m ih =>
      obtain ⟨b, j⟩ := e
      simp only [List.map_cons, List.nodup_cons, List.mem_map] at hnd
      rcases List.mem_cons.mp h with he | hm
      · simp_all
      · have hkb : (k == b) = false :=
          beq_eq_false_iff_ne.mpr fun hkb => hnd.1 ⟨(k, i), hm, hkb⟩
        simp [List.lookup_cons, hkb, ih hnd.2 hm]

theorem mem_of_lookup_eq_some {m : List (MacAddr × Nat)} {k : MacAddr} {i : Nat}
    (h : m.lookup k = some i) : (k, i) ∈ m := by
  obtain ⟨l₁, l₂, rfl, -⟩ := List.lookup_eq_some_iff.mp h
  simp

variable {P : Type} {Size : Nat}

namespace MacTable

def empty : MacTable P Size :=
  ⟨[], List.replicate Size .empty, 0, List.nodup_nil, List.length_replicate _ _⟩

/-- `lookup(dst)`: the port of the entry `dst` maps to, `nullptr` for an unknown address. -/
def lookup (t : MacTable P Size) (dst : MacAddr) : Option P :=
  (t.macTable.lookup dst).bind fun i => (t.entries.getD i .empty).port

private theorem keys_nodup_append {m : List (MacAddr × Nat)} (hnd : (m.map Prod.fst).Nodup)
    {src : MacAddr} (h : m.lookup src = none) (i : Nat) :
    ((m ++ [(src, i)]).map Prod.fst).Nodup := by
  simp only [List.map_append, List.map_cons, List.map_nil]
  refine hnd.append (List.nodup_singleton _) ?_
  simp only [List.lookup_eq_none_iff, bne_iff_ne] at h
  simp only [List.disjoint_singleton, List.mem_map, not_exists, not_and]
  exact fun e he hsrc => h e he hsrc.symm

private theorem keys_nodup_eraseKey {m : List (MacAddr × Nat)} (hnd : (m.map Prod.fst).Nodup)
    (k : MacAddr) : ((eraseKey m k).map Prod.fst).Nodup :=
  hnd.sublist ((List.filter_sublist _).map _)

/-- `learn(src, port)`.  `emplace` inserts `src` with the entry at `_rr_index` if
`src` is new; that entry's previous address is then erased from the map and the
round-robin index advances.  A known `src` only has its entry's port updated. -/
def learn (t : MacTable P Size) (src : MacAddr) (port : P) : MacTable P Size :=
  match h : t.macTable.lookup src with
  | some i =>
      { t with
        entries := t.entries.set i { t.entries.getD i .empty with port := some port }
        entries_length := by rw [List.length_set, t.entries_length] }
  | none =>
      let old := t.entries.getD t.rrIndex .empty
      let map := t.macTable ++ [(src, t.rrIndex)]
      { macTable := if old.port.isSome then eraseKey map old.addr else map
        entries := t.entries.set t.rrIndex ⟨some port, src⟩
        rrIndex := (t.rrIndex + 1) % Size
        keys_nodup := by
          have hmap := keys_nodup_append t.keys_nodup h t.rrIndex
          split
          · exact keys_nodup_eraseKey hmap _
          · exact hmap
        entries_length := by rw [List.length_set, t.entries_length] }

private theorem port_set_cases {es : List (Entry P)} {r j : Nat} {e : Entry P} {q : P}
    (h : ((es.set r e).getD j .empty).port = some q) :
    e.port = some q ∨ (es.getD j .empty).port = some q := by
  simp only [List.getD_eq_getElem?_getD, List.getElem?_set] at h ⊢
  split_ifs at h <;> simp_all

private theorem port_set_self {es : List (Entry P)} {r : Nat} {e : Entry P} {q : P}
    (h : ((es.set r e).getD r .empty).port = some q) : e.port = some q := by
  by_cases hr : r < es.length <;> simp_all [List.getElem?_set]

theorem lookup_learn_cases (t : MacTable P Size) (src : MacAddr) (port : P) {m : MacAddr}
    {q : P} (h : (t.learn src port).lookup m = some q) : q = port ∨ t.lookup m = some q := by
  unfold learn at h
  split at h
  · simp only [lookup, Option.bind_eq_some] at h ⊢
    obtain ⟨j, hj, hq⟩ := h
    exact (port_set_cases hq).imp (fun h => (Option.some.inj h).symm) fun h => ⟨j, hj, h⟩
  · simp only [lookup, Option.bind_eq_some] at h ⊢
    obtain ⟨j, hj, hq⟩ := h
    have hj' : (t.macTable ++ [(src, t.rrIndex)]).lookup m = some j := by
      split at hj
      · rw [lookup_eraseKey] at hj
        split at hj
        · cases hj
        · exact hj
      · exact hj
    rw [List.lookup_append] at hj'
    cases hl : t.macTable.lookup m with
    | none =>
        simp only [hl, Option.none_or, lookup_cons_ite, List.lookup_nil] at hj'
        split at hj'
        · cases hj'
          exact .inl (Option.some.inj (port_set_self hq)).symm
        · cases hj'
    | some l =>
        simp only [hl, Option.or_some, Option.some.injEq] at hj'
        subst hj'
        exact (port_set_cases hq).imp (fun h => (Option.some.inj h).symm) fun h => ⟨l, rfl, h⟩

section Flush

variable [DecidableEq P]

/-- The `find_if`/`erase` loop of `flush(port)`, from the key `iter` stands at: a key
whose entry holds `port` is erased and its entry cleared, every other key is kept. -/
def flushFrom (port : P) : List (MacAddr × Nat) → List (Entry P) →
    List (MacAddr × Nat) × List (Entry P)
  | [], entries => ([], entries)
  | (addr, i) :: rest, entries =>
      if (entries.getD i .empty).port = some port then
        flushFrom port rest (entries.set i .empty)
      else
        let r := flushFrom port rest entries
        ((addr, i) :: r.1, r.2)

theorem flushFrom_sublist (port : P) (m : List (MacAddr × Nat)) (es : List (Entry P)) :
    List.Sublist (flushFrom port m es).1 m := by
  induction m generalizing es with
  | nil => simp [flushFrom]
  | cons e m ih =>
      obtain ⟨a, i⟩ := e
      simp only [flushFrom]
      split
      · exact (ih _).cons _
      · exact (ih es).cons₂ _

theorem flushFrom_length (port : P) (m : List (MacAddr × Nat)) (es : List (Entry P)) :
    (flushFrom port m es).2.length = es.length := by
  induction m generalizing es with
  | nil => simp [flushFrom]
  | cons e m ih =>
      obtain ⟨a, i⟩ := e
      simp only [flushFrom]
      split
      · rw [ih, List.length_set]
      · exact ih es

theorem flushFrom_entry (port : P) (m : List (MacAddr × Nat)) (es : List (Entry P)) (i : Nat) :
    ((flushFrom port m es).2.getD i .empty).port = (es.getD i .empty).port ∨
      ((flushFrom port m es).2.getD i .empty).port = none := by
  induction m generalizing es with
  | nil => simp [flushFrom]
  | cons e m ih =>
      obtain ⟨a, j⟩ := e
      simp only [flushFrom]
      split
      · rcases ih (es.set j .empty) with h | h
        · rw [h]
          by_cases hij : j = i
          · subst hij
            by_cases hj : j < es.length <;> simp [List.getElem?_set, hj, Entry.empty]
          · simp [List.getElem?_set, hij]
        · exact .inr h
      · exact ih es

theorem flushFrom_kept (port : P) (m : List (MacAddr × Nat)) (es : List (Entry P))
    {k : MacAddr} {i : Nat} (h : (k, i) ∈ (flushFrom port m es).1) :
    ((flushFrom port m es).2.getD i .empty).port ≠ some port := by
  induction m generalizing es with
  | nil => simp [flushFrom] at h
  | cons e m ih =>
      obtain ⟨a, j⟩ := e
      simp only [flushFrom] at h ⊢
      split at h
      · simp only [*, if_true] at h ⊢
        exact ih _ h
      · rename_i hj
        simp only [hj, if_false] at h ⊢
        rcases List.mem_cons.mp h with he | hm
        · cases he
          rcases flushFrom_entry port m es i with h' | h' <;> rw [h']
          exacts [hj, (Option.some_ne_none port).symm]
        · exact ih es hm

def flush (t : MacTable P Size) (port : P) : MacTable P Size :=
  let r := flushFrom port t.macTable t.entries
  { macTable := r.1
    entries := r.2
    rrIndex := t.rrIndex
    keys_nodup := t.keys_nodup.sublist ((flushFrom_sublist port _ _).map _)
    entries_length := by rw [flushFrom_length, t.entries_length] }

theorem lookup_flush (t : MacTable P Size) (port : P) {m : MacAddr} {q : P}
    (h : (t.flush port).lookup m = some q) : q ≠ port ∧ t.lookup m = some q := by
  simp only [flush, lookup, Option.bind_eq_some] at h
  obtain ⟨i, hi, hq⟩ := h
  have hmem := mem_of_lookup_eq_some hi
  have hkept := flushFrom_kept port t.macTable t.entries hmem
  refine ⟨fun hqp => hkept (hqp ▸ hq), ?_⟩
  simp only [lookup, Option.bind_eq_some]
  refine ⟨i, lookup_eq_some_of_mem t.keys_nodup ((flushFrom_sublist port _ _).subset hmem), ?_⟩
  rcases flushFrom_entry port t.macTable t.entries i with he | he
  · rwa [← he]
  · rw [he] at hq
    cases hq

end Flush

@[simp] theorem lookup_empty (m : MacAddr) : (empty : MacTable P Size).lookup m = none := rfl

end MacTable

end VirtioNetSwitch
