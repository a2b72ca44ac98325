import Mathlib.Data.List.AList

/-!
# String maps

A Go `map[string]string` is an association list with distinct keys; the order of its entries is
the order one `range` over it happens to use, so a fact about every `StringMap` covers every
iteration order. `Sub` is "every entry of the first map is in the second", the relation that label
selectors test.
-/

/-- A `map[string]string` together with one iteration order. -/
abbrev StringMap : Type := AList fun _ : String => String

namespace StringMap
variable {m m' base extra : StringMap} {k v : String}

/-- The map with the given entries; later entries lose against earlier ones. -/
def ofList (l : List (String × String)) : StringMap :=
  (l.map fun e => (⟨e.1, e.2⟩ : Sigma fun _ => String)).toAList

/-- `for k, v := range extra { if _, reserved := out[k]; reserved { continue }; out[k] = v }` -/
def addMissing (out extra : StringMap) : StringMap :=
  extra.entries.foldl (fun out e => if e.1 ∈ out then out else out.insert e.1 e.2) out

/-- Every entry of `m` is an entry of `m'`. -/
def Sub (m m' : StringMap) : Prop := ∀ k v, m.lookup k = some v → m'.lookup k = some v

/-- The loop `for k, v := range m { if m'[k] != v { return false } }; return true`. -/
def subB (m m' : StringMap) : Bool := m.entries.all fun e => m'.lookup e.1 == some e.2

theorem mem_entries_iff : (⟨k, v⟩ : Sigma fun _ : String => String) ∈ m.entries ↔
    m.lookup k = some v :=
  AList.mem_lookup_iff.symm

theorem isEmpty_entries_of_lookup (h : m.lookup k = some v) : m.entries.isEmpty = false := by
  rw [List.isEmpty_eq_false_iff]
  exact List.ne_nil_of_mem (mem_entries_iff.2 h)

theorem subB_iff : subB m m' = true ↔ Sub m m' := by
  simp only [subB, List.all_eq_true, beq_iff_eq]
  constructor
  · intro h k v hkv
    exact h ⟨k, v⟩ (mem_entries_iff.2 hkv)
  · rintro h ⟨k, v⟩ he
    exact h k v (mem_entries_iff.1 he)

instance : Decidable (Sub m m') := decidable_of_iff _ subB_iff

/-- `maps.Equal` -/
def eqB (m m' : StringMap) : Bool := m.subB m' && m'.subB m

theorem Sub.refl (m : StringMap) : Sub m m := fun _ _ h => h

theorem Sub.trans {m'' : StringMap} (h : Sub m m') (h' : Sub m' m'') : Sub m m'' :=
  fun k v hk => h' k v (h k v hk)

theorem Sub.of_lookup (h : ∀ k, m.lookup k = m'.lookup k) : Sub m m' :=
  fun k v hk => by rw [← h k, hk]

theorem Sub.congr_left {m'' : StringMap} (h : ∀ k, m.lookup k = m'.lookup k) :
    Sub m m'' ↔ Sub m' m'' :=
  ⟨fun hs => (Sub.of_lookup fun k => (h k).symm).trans hs, fun hs => (Sub.of_lookup h).trans hs⟩

theorem eqB_iff : eqB m m' = true ↔ m.lookup = m'.lookup := by
  rw [eqB, Bool.and_eq_true, subB_iff, subB_iff]
  constructor
  · rintro ⟨h, h'⟩
    funext k
    rcases hk : m'.lookup k with _ | v
    · exact Option.eq_none_iff_forall_ne_some.2 fun v hv => by rw [h k v hv] at hk; cases hk
    · exact h' k v hk
  · intro h
    exact ⟨.of_lookup fun k => congrFun h k, .of_lookup fun k => (congrFun h k).symm⟩

theorem Sub.insert_left (h : Sub m m') (hk : m'.lookup k = some v) : Sub (m.insert k v) m' := by
  intro k' v' hl
  by_cases hkk : k' = k
  · subst hkk
    rw [AList.lookup_insert, Option.some.injEq] at hl
    rwa [← hl]
  · rw [AList.lookup_insert_ne hkk] at hl
    exact h k' v' hl

/-- A new key adds one condition. -/
theorem Sub.insert_left_iff (hk : k ∉ m) :
    Sub (m.insert k v) m' ↔ Sub m m' ∧ m'.lookup k = some v := by
  constructor
  · intro h
    refine ⟨fun k' v' hk' => h k' v' ?_, h k v (AList.lookup_insert m)⟩
    have hne : k' ≠ k := fun heq => hk (AList.lookup_isSome.1 (by rw [← heq, hk']; rfl))
    rw [AList.lookup_insert_ne hne, hk']
  · rintro ⟨h, hv⟩
    exact h.insert_left hv

/-- The same entry written to both maps. -/
theorem Sub.insert (h : Sub m m') (k v : String) : Sub (m.insert k v) (m'.insert k v) := by
  intro k' v' hl
  by_cases hkk : k' = k
  · subst hkk
    rw [AList.lookup_insert] at hl ⊢
    exact hl
  · rw [AList.lookup_insert_ne hkk] at hl ⊢
    exact h k' v' hl

/-- The fold behind `addMissing`, over any list of entries. -/
theorem lookup_foldl_addMissing (l : List (Sigma fun _ : String => String)) (out : StringMap)
    (k : String) :
    (l.foldl (fun out e => if e.1 ∈ out then out else out.insert e.1 e.2) out).lookup k =
      (out.lookup k).or (l.dlookup k) := by
  induction l generalizing out with
  | nil => simp
  | cons e l ih =>
    obtain ⟨k', v'⟩ := e
    have hne : k ≠ k' → List.dlookup k (⟨k', v'⟩ :: l) = List.dlookup k l := fun hk =>
      List.dlookup_cons_ne l (⟨k', v'⟩ : Sigma fun _ : String => String) hk
    rw [List.foldl_cons, ih]
    by_cases hmem : k' ∈ out
    · rw [if_pos hmem]
      by_cases hk : k = k'
      · subst hk
        obtain ⟨w, hw⟩ := Option.isSome_iff_exists.1 (AList.lookup_isSome.2 hmem)
        simp [hw]
      · rw [hne hk]
    · rw [if_neg hmem]
      by_cases hk : k = k'
      · subst hk
        rw [AList.lookup_insert, AList.lookup_eq_none.2 hmem, List.dlookup_cons_eq]
        simp
      · rw [AList.lookup_insert_ne hk, hne hk]

/-- The reserved keys win; every other key is taken from `extra`. -/
theorem lookup_addMissing (base extra : StringMap) (k : String) :
    (addMissing base extra).lookup k = (base.lookup k).or (extra.lookup k) :=
  lookup_foldl_addMissing extra.entries base k

theorem Sub.addMissing : Sub base (addMissing base extra) := fun k v h => by
  rw [lookup_addMissing, h, Option.some_or]

/-- What has to be in `m` for the whole map to be: the base, and of `extra` what is not reserved. -/
theorem addMissing_sub_iff : Sub (addMissing base extra) m ↔
    Sub base m ∧ ∀ k v, base.lookup k = none → extra.lookup k = some v → m.lookup k = some v := by
  constructor
  · intro h
    refine ⟨Sub.addMissing.trans h, fun k v hnone hk => h k v ?_⟩
    rw [lookup_addMissing, hnone, hk, Option.none_or]
  · rintro ⟨hbase, hextra⟩ k v hk
    rw [lookup_addMissing] at hk
    cases hb : base.lookup k with
    | some w =>
      rw [hb, Option.some_or] at hk
      exact hbase k v (by rw [hb, hk])
    | none =>
      rw [hb, Option.none_or] at hk
      exact hextra k v hb hk

theorem lookup_addMissing_reserved (h : base.lookup k = some v) :
    (addMissing base extra).lookup k = some v :=
  Sub.addMissing k v h

end StringMap
