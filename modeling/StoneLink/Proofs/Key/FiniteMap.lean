import Mathlib
import StoneLink.Key.Store

/-!
# The sphere store is a finite map

A store keeps its spheres in a list sorted by identifier. Looked up by identifier, it is a finite
map from identifiers to spheres: `put` inserts or replaces, `remove` deletes and fails exactly
for an identifier it does not hold, and lookups read the map. Sortedness is what makes the
identifiers a strictly increasing list and the number of spheres the size of the map; the
lookups need no invariant at all.

A cached store also keeps the RC5 subkeys it has expanded. Its invariant is that every kept
expansion is the one the store would compute now, from the localization key of the sphere it
holds under that identifier. Putting or removing a sphere drops the subkeys kept for its
identifier, so the invariant survives every operation, and the cache is never seen: the subkeys
a cached store answers are those of the key of the sphere in the map.

The main statement runs any sequence of operations from the empty store beside the finite map
that the puts and removes describe.
-/

namespace StoneLink

namespace ByteText

theorem lt_irrefl (a : ByteText) : ¬a < a := List.lt_irrefl a.bytes

theorem lt_trans {a b c : ByteText} (hab : a < b) (hbc : b < c) : a < c :=
  List.lt_trans (show a.bytes < b.bytes from hab) hbc

/-- Two different byte texts are ordered one way or the other. -/
theorem lt_or_gt_of_ne {a b : ByteText} (h : a ≠ b) : a < b ∨ b < a := by
  by_cases hab : a < b
  · exact .inl hab
  · have hle : b.bytes ≤ a.bytes := List.not_lt.mp hab
    have hne : b.bytes ≠ a.bytes := fun heq => h (by cases a; cases b; simp_all)
    exact .inr ((List.le_iff_lt_or_eq.mp hle).resolve_right hne)

end ByteText

namespace Store

/-! ## Lookups -/

/-- Putting a sphere changes the lookup of its identifier only, whether or not the list is
sorted. -/
theorem find?_insert (sp : Sphere) (l : List Sphere) (id : ByteText) :
    (insert sp l).find? (·.id == id) = if sp.id = id then some sp else l.find? (·.id == id) := by
  induction l with
  | nil => by_cases h : sp.id = id <;> simp [insert, h]
  | cons x xs ih =>
    by_cases hsame : sp.id = x.id
    · -- the sphere takes the place of `x`, which has its identifier
      simp only [insert, if_pos hsame]
      by_cases h : sp.id = id
      · rw [if_pos h, List.find?_cons_of_pos (by simp [h])]
      · rw [if_neg h, List.find?_cons_of_neg (by simp [h]),
          List.find?_cons_of_neg (by simp [← hsame, h])]
    · by_cases hlt : sp.id < x.id
      · simp only [insert, if_neg hsame, if_pos hlt]
        by_cases h : sp.id = id
        · rw [if_pos h, List.find?_cons_of_pos (by simp [h])]
        · rw [if_neg h, List.find?_cons_of_neg (by simp [h])]
      · -- the sphere goes further down, past `x`, whose identifier is another
        simp only [insert, if_neg hsame, if_neg hlt]
        by_cases hx : x.id = id
        · have h : sp.id ≠ id := hx ▸ hsame
          rw [if_neg h, List.find?_cons_of_pos (by simp [hx]), List.find?_cons_of_pos (by simp [hx])]
        · rw [List.find?_cons_of_neg (by simp [hx]), ih, List.find?_cons_of_neg (by simp [hx])]

@[simp] theorem get?_put (s : Store) (sp : Sphere) (id : ByteText) :
    (s.put sp).get? id = if sp.id = id then some sp else s.get? id :=
  find?_insert sp s.spheres id

/-- Looking a key up after filtering out another key finds what it found before; the key
filtered out is found nowhere. -/
theorem find?_filter_key {α : Type} (key : α → ByteText) (l : List α) (id x : ByteText) :
    (l.filter (key · != id)).find? (key · == x) = if id = x then none else l.find? (key · == x) := by
  rw [List.find?_filter]
  by_cases hx : id = x
  · subst hx
    simp
  · rw [if_neg hx]
    congr 1
    funext y
    by_cases hy : key y = x
    · simp [hy, Ne.symm hx]
    · simp [hy]

theorem get?_remove {s s' : Store} {id : ByteText} (h : s.remove id = .ok s') (x : ByteText) :
    s'.get? x = if id = x then none else s.get? x := by
  unfold remove at h
  split at h
  · cases h
    exact find?_filter_key Sphere.id s.spheres id x
  · cases h

theorem get?_of_remove_error {s : Store} {id : ByteText} {f : Fault} (h : s.remove id = .error f) :
    s.get? id = none := by
  unfold remove at h
  split at h
  · cases h
  · assumption

/-- Removing fails, with `sphereNotFound`, exactly for an identifier the store does not hold. -/
theorem remove_eq_error_iff (s : Store) (id : ByteText) :
    s.remove id = .error (.because .sphereNotFound) ↔ s.get? id = none := by
  unfold remove
  split <;> simp_all

theorem mem_ids_iff (s : Store) (id : ByteText) : id ∈ s.ids ↔ (s.get? id).isSome := by
  simp [ids, get?, List.find?_isSome]

/-! ## Sortedness -/

/-- The spheres are in strictly increasing order of identifier. -/
def Sorted (s : Store) : Prop := s.spheres.Pairwise (·.id < ·.id)

/-- Every sphere after putting one is the one put or one that was there. -/
theorem mem_insert {sp y : Sphere} {l : List Sphere} (h : y ∈ insert sp l) : y = sp ∨ y ∈ l := by
  induction l with
  | nil => simpa [insert] using h
  | cons x xs ih =>
    by_cases hsame : sp.id = x.id
    · simp only [insert, if_pos hsame, List.mem_cons] at h
      rcases h with rfl | htail
      · exact .inl rfl
      · exact .inr (List.mem_cons_of_mem x htail)
    · by_cases hlt : sp.id < x.id
      · simpa [insert, hsame, hlt] using h
      · simp only [insert, if_neg hsame, if_neg hlt, List.mem_cons] at h
        rcases h with rfl | htail
        · exact .inr List.mem_cons_self
        · rcases ih htail with rfl | hold
          · exact .inl rfl
          · exact .inr (List.mem_cons_of_mem x hold)

theorem pairwise_insert (sp : Sphere) {l : List Sphere} (h : l.Pairwise (·.id < ·.id)) :
    (insert sp l).Pairwise (·.id < ·.id) := by
  induction l with
  | nil => simp [insert]
  | cons x xs ih =>
    obtain ⟨hx, hxs⟩ := List.pairwise_cons.mp h
    by_cases hsame : sp.id = x.id
    · simp only [insert, if_pos hsame]
      exact List.pairwise_cons.mpr ⟨fun y hy => hsame ▸ hx y hy, hxs⟩
    · by_cases hlt : sp.id < x.id
      · have hall : ∀ y ∈ x :: xs, sp.id < y.id := by
          intro y hy
          rcases List.mem_cons.mp hy with rfl | htail
          · exact hlt
          · exact ByteText.lt_trans hlt (hx y htail)
        simp only [insert, if_neg hsame, if_pos hlt]
        exact List.pairwise_cons.mpr ⟨hall, h⟩
      · -- `x` stays in front: its identifier is below the one put
        have hgt : x.id < sp.id := (ByteText.lt_or_gt_of_ne hsame).resolve_left hlt
        have hall : ∀ y ∈ insert sp xs, x.id < y.id := by
          intro y hy
          rcases mem_insert hy with rfl | hold
          · exact hgt
          · exact hx y hold
        simp only [insert, if_neg hsame, if_neg hlt]
        exact List.pairwise_cons.mpr ⟨hall, ih hxs⟩

theorem Sorted.put {s : Store} (h : s.Sorted) (sp : Sphere) : (s.put sp).Sorted :=
  pairwise_insert sp h

theorem Sorted.remove {s s' : Store} {id : ByteText} (h : s.Sorted) (hr : s.remove id = .ok s') :
    s'.Sorted := by
  unfold Store.remove at hr
  split at hr
  · cases hr
    exact h.sublist List.filter_sublist
  · cases hr

theorem Sorted.ids {s : Store} (h : s.Sorted) : s.ids.Pairwise (· < ·) :=
  List.pairwise_map.mpr h

/-- In a sorted store the number of spheres is the number of identifiers it holds. -/
theorem Sorted.size_eq_ncard {s : Store} (h : s.Sorted) :
    s.size = {id | (s.get? id).isSome}.ncard := by
  have hnodup : s.ids.Nodup := by
    apply h.ids.imp
    intro a b hab heq
    subst heq
    exact ByteText.lt_irrefl a hab
  have hset : {id | (s.get? id).isSome} = ↑s.ids.toFinset := by
    ext id
    simp [mem_ids_iff]
  rw [hset, Set.ncard_coe_finset, List.toFinset_card_of_nodup hnodup]
  simp [size, Store.ids]

/-- The uncached subkeys of an identifier depend only on the sphere it looks up. -/
theorem rc5Subkeys_congr {s t : Store} {id : ByteText} (h : s.get? id = t.get? id) :
    s.rc5Subkeys id = t.rc5Subkeys id := by
  simp only [rc5Subkeys, h]

end Store

namespace CachedStore

/-! ## The cache -/

@[simp] theorem cached?_put (c : CachedStore) (sp : Sphere) (id : ByteText) :
    (c.put sp).cached? id = if sp.id = id then none else c.cached? id := by
  simp only [cached?, CachedStore.put, Store.find?_filter_key Prod.fst]
  split <;> rfl

/-- A removal that succeeds is the removal from the spheres, and drops the subkeys kept for the
identifier removed. -/
theorem remove_eq_ok {c c' : CachedStore} {id : ByteText} (h : c.remove id = .ok c') :
    c.store.remove id = .ok c'.store ∧
      ∀ x, c'.cached? x = if id = x then none else c.cached? x := by
  unfold CachedStore.remove at h
  split at h
  · next s hs =>
    cases h
    refine ⟨hs, fun x => ?_⟩
    simp only [cached?, Store.find?_filter_key Prod.fst]
    split <;> rfl
  · cases h

theorem remove_error_iff (c : CachedStore) (id : ByteText) (f : Fault) :
    c.remove id = .error f ↔ c.store.remove id = .error f := by
  unfold CachedStore.remove
  split <;> simp_all

/-- What asking for subkeys does to the store: nothing, or it keeps the expansion of the
localization key of the sphere it finds. -/
theorem rc5Key_snd (c : CachedStore) (id : ByteText) :
    (c.rc5Key id).2 = c ∨
      ∃ sp k, c.store.get? id = some sp ∧ sp.keys.localization = some k ∧
        (c.rc5Key id).2 = { c with subkeys := (id, Cipher.Rc5.expand k.bytes) :: c.subkeys } := by
  unfold CachedStore.rc5Key
  split
  · exact .inl rfl
  · next sp hget =>
    split
    · exact .inl rfl
    · split
      · exact .inl rfl
      · next k hloc => exact .inr ⟨sp, k, hget, hloc, rfl⟩

/-- Every kept expansion is what the store computes now for its identifier. -/
def Coherent (c : CachedStore) : Prop :=
  ∀ id ks, c.cached? id = some ks → c.store.rc5Subkeys id = .ok ks

/-- With a coherent cache, the cached answer is the one computed afresh. -/
theorem rc5Key_fst {c : CachedStore} (hc : c.Coherent) (id : ByteText) :
    (c.rc5Key id).1 = c.store.rc5Subkeys id := by
  unfold rc5Key
  split
  · next hget => simp [Store.rc5Subkeys, hget]
  · next sp hget =>
    split
    · next ks hks => exact (hc id ks hks).symm
    · split
      · next hloc => simp [Store.rc5Subkeys, hget, hloc]
      · next k hloc => simp [Store.rc5Subkeys, hget, hloc]

theorem Coherent.put {c : CachedStore} (hc : c.Coherent) (sp : Sphere) : (c.put sp).Coherent := by
  intro id ks hks
  rw [cached?_put] at hks
  split at hks
  · cases hks
  · next hne =>
    rw [← hc id ks hks]
    apply Store.rc5Subkeys_congr
    simp [CachedStore.put, hne]

theorem Coherent.remove {c c' : CachedStore} (hc : c.Coherent) {id : ByteText}
    (hr : c.remove id = .ok c') : c'.Coherent := by
  obtain ⟨hs, hcached⟩ := remove_eq_ok hr
  intro x ks hks
  rw [hcached] at hks
  split at hks
  · cases hks
  · next hne =>
    rw [← hc x ks hks]
    apply Store.rc5Subkeys_congr
    simp [Store.get?_remove hs x, hne]

theorem Coherent.rc5Key {c : CachedStore} (hc : c.Coherent) (id : ByteText) :
    (c.rc5Key id).2.Coherent := by
  rcases rc5Key_snd c id with h | ⟨sp, k, hget, hloc, h⟩
  · rw [h]
    exact hc
  · -- the one new expansion is the one computed from the key found
    rw [h]
    intro x ks hks
    simp only [cached?, List.find?_cons] at hks
    by_cases hx : id = x
    · subst hx
      simp only [beq_self_eq_true, Option.map_some, Option.some.injEq] at hks
      subst hks
      simp [Store.rc5Subkeys, hget, hloc]
    · have hne : (id == x) = false := by simpa using hx
      simp only [hne] at hks
      exact hc x ks hks

/-! ## Runs of operations -/

/-- An operation on a store, made one at a time. -/
inductive Op where
  /-- Adds or replaces a sphere. -/
  | put (sp : Sphere)
  /-- Looks up a sphere. -/
  | get (id : ByteText)
  /-- Looks up the key set of a sphere. -/
  | keySet (id : ByteText)
  /-- Removes a sphere. -/
  | remove (id : ByteText)
  /-- Lists the identifiers. -/
  | ids
  /-- Counts the spheres. -/
  | size
  /-- Asks for the RC5 subkeys of a sphere. -/
  | rc5Key (id : ByteText)

/-- The store after an operation; a removal that fails leaves it as it was. -/
def Op.apply : Op → CachedStore → CachedStore
  | .put sp, c => c.put sp
  | .remove id, c =>
    match c.remove id with
    | .ok c' => c'
    | .error _ => c
  | .rc5Key id, c => (c.rc5Key id).2
  | .get _, c | .keySet _, c | .ids, c | .size, c => c

/-- The finite map after an operation: a put inserts or replaces, a removal deletes. -/
def Op.onMap : Op → (ByteText → Option Sphere) → ByteText → Option Sphere
  | .put sp, m => Function.update m sp.id (some sp)
  | .remove id, m => Function.update m id none
  | _, m => m

/-- The store after a sequence of operations. -/
def run (c : CachedStore) (ops : List Op) : CachedStore := ops.foldl (fun c o => o.apply c) c

/-- The finite map after a sequence of operations. -/
def Op.runMap (m : ByteText → Option Sphere) (ops : List Op) : ByteText → Option Sphere :=
  ops.foldl (fun m o => o.onMap m) m

/-- A cached store stands for a finite map: it looks up what the map holds, its spheres are
sorted, and its cache is coherent. -/
structure Refines (c : CachedStore) (m : ByteText → Option Sphere) : Prop where
  get? : ∀ id, c.store.get? id = m id
  sorted : c.store.Sorted
  coherent : c.Coherent

theorem Refines.apply {c : CachedStore} {m : ByteText → Option Sphere} (h : c.Refines m)
    (o : Op) : (o.apply c).Refines (o.onMap m) := by
  cases o with
  | put sp =>
    refine ⟨fun id => ?_, h.sorted.put sp, h.coherent.put sp⟩
    simp only [Op.apply, Op.onMap, CachedStore.put, Store.get?_put, Function.update_apply, h.get?]
    by_cases hid : sp.id = id
    · simp [hid]
    · simp [hid, Ne.symm hid]
  | remove id =>
    simp only [Op.apply, Op.onMap]
    split
    · next c' hr =>
      have hs := (remove_eq_ok hr).1
      refine ⟨fun x => ?_, h.sorted.remove hs, h.coherent.remove hr⟩
      rw [Store.get?_remove hs, Function.update_apply, h.get?]
      by_cases hx : id = x
      · simp [hx]
      · simp [hx, Ne.symm hx]
    · next f hr =>
      -- a failed removal means the identifier is absent, so deleting it changes nothing
      have hs : c.store.get? id = none :=
        Store.get?_of_remove_error ((remove_error_iff c id f).mp hr)
      refine ⟨fun x => ?_, h.sorted, h.coherent⟩
      rw [Function.update_apply, h.get?]
      by_cases hx : x = id
      · subst hx
        rw [if_pos rfl, ← h.get?, hs]
      · rw [if_neg hx]
  | rc5Key id =>
    have hstore : (c.rc5Key id).2.store = c.store := by
      rcases rc5Key_snd c id with hs | ⟨sp, k, -, -, hs⟩ <;> rw [hs]
    refine ⟨fun x => ?_, ?_, h.coherent.rc5Key id⟩
    · simp only [Op.apply, Op.onMap, hstore, h.get?]
    · simp only [Op.apply, hstore]
      exact h.sorted
  | get id => exact h
  | keySet id => exact h
  | ids => exact h
  | size => exact h

theorem Refines.run {c : CachedStore} {m : ByteText → Option Sphere} (h : c.Refines m)
    (ops : List Op) : (run c ops).Refines (Op.runMap m ops) := by
  induction ops generalizing c m with
  | nil => exact h
  | cons o ops ih => exact ih (h.apply o)

theorem refines_empty : ({} : CachedStore).Refines fun _ => none where
  get? _ := rfl
  sorted := List.Pairwise.nil
  coherent _ _ h := by cases h

/-- **The store is a finite map with a coherent RC5 cache.** Run any sequence of operations,
one at a time, from the empty store, beside the finite map `M` that starts empty and that puts
update and removals delete from. Then a lookup of the sphere or of its key set gives `M`'s
entry or `sphereNotFound`; a removal fails, with `sphereNotFound`, exactly for an identifier
that `M` does not hold; the identifiers are the keys of `M` in strictly increasing order, and
the number of spheres is the size of `M`; and the RC5 subkeys of an identifier are
`sphereNotFound` outside `M`, `noKeyAvailable` for a sphere without a localization key, and
otherwise the expansion of the localization key of the sphere `M` holds now, never one kept
for a sphere a later put replaced. -/
theorem store_refines_finite_map (ops : List Op) :
    let c := run {} ops
    let M := Op.runMap (fun _ => none) ops
    (∀ id, c.store.get? id = M id) ∧
    (∀ id, c.store.keySet id =
      match M id with
      | some sp => .ok sp.keys
      | none => .error (.because .sphereNotFound)) ∧
    (∀ id, c.remove id = .error (.because .sphereNotFound) ↔ M id = none) ∧
    c.store.ids.Pairwise (· < ·) ∧ (∀ id, id ∈ c.store.ids ↔ (M id).isSome) ∧
    c.store.size = {id | (M id).isSome}.ncard ∧
    (∀ id, (c.rc5Key id).1 =
      match M id with
      | none => .error (.because .sphereNotFound)
      | some sp =>
        match sp.keys.localization with
        | none => .error (.because .noKeyAvailable)
        | some k => .ok (Cipher.Rc5.expand k.bytes)) := by
  intro c M
  have h : c.Refines M := refines_empty.run ops
  have hM : ∀ id, M id = c.store.get? id := fun id => (h.get? id).symm
  refine ⟨h.get?, fun id => ?_, fun id => ?_, h.sorted.ids, fun id => ?_, ?_, fun id => ?_⟩
  · rw [hM]
    unfold Store.keySet
    cases c.store.get? id <;> rfl
  · rw [hM, ← Store.remove_eq_error_iff, remove_error_iff]
  · rw [hM, Store.mem_ids_iff]
  · simp only [hM]
    exact h.sorted.size_eq_ncard
  · rw [rc5Key_fst h.coherent, hM]
    unfold Store.rc5Subkeys
    cases c.store.get? id with
    | none => rfl
    | some sp =>
      dsimp only
      cases sp.keys.localization <;> rfl

end CachedStore

end StoneLink
