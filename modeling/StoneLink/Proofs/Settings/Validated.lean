import StoneLink.Settings
import StoneLink.Proofs.Key.Hex
import StoneLink.Proofs.Key.FiniteMap
import StoneLink.Proofs.Broadcast.Window

/-!
# What validated settings build

Validation is the only check between a settings file and the parts built from it: the key store,
the background of every broadcast and the length of a broadcast window. This module shows what
each of them can rely on once the settings pass.

The key store is built without failing and without one sphere replacing another: the sphere ids
are distinct, so the store holds every configured sphere, with its short id and the keys its
texts stand for, and lists the ids in increasing order. The short ids are distinct too. The
background fits its bits, so it packs, and a sender built on it never refuses a command for a
field out of range. Writing a key set as texts and reading them back gives the key set.

The window length is different. Validation asks for a positive number of milliseconds, but the
length in nanoseconds is a signed 64-bit product that wraps around. It is the configured length
exactly when that stays below `2 ^ 63` ns, about 106 days; for 9223372036855 ms it comes out
negative.
-/

namespace StoneLink

/-- A computation that succeeds after a bind succeeded in its first step. -/
theorem bind_eq_ok {α β : Type} {x : Except Fault α} {g : α → Except Fault β} {b : β}
    (h : (x >>= g) = .ok b) : ∃ a, x = .ok a ∧ g a = .ok b := by
  cases x with
  | error e => cases h
  | ok a => exact ⟨a, rfl, h⟩

namespace Settings

/-! ## What validation checks -/

/-- Validated settings have a positive interval, retries not below zero, and a background that
fits its bits; their spheres pass the checks of `checkSpheres`. -/
theorem validate_eq_ok {c : Settings} (h : c.validate = .ok ()) :
    checkSpheres 0 [] [] c.spheres = .ok () ∧ 0 < c.broadcast.intervalMs ∧
      0 ≤ c.broadcast.retries ∧ c.broadcast.background.Fits := by
  unfold validate at h
  rcases hl : LogLevel.parse c.logLevel with f | l
  · simp [hl, bind, Except.bind] at h
  rcases hs : checkSpheres 0 [] [] c.spheres with f | u
  · simp [hl, hs, bind, Except.bind] at h
  simp only [hl, hs, bind, Except.bind] at h
  -- each check that fails throws, so each passes
  by_cases hi : c.broadcast.intervalMs ≤ 0
  · simp [hi, throw, throwThe, MonadExceptOf.throw] at h
  by_cases hr : c.broadcast.retries < 0
  · simp [hi, hr, throw, throwThe, MonadExceptOf.throw] at h
  by_cases hloc : c.broadcast.locationId.toNat > Broadcast.maxLocationId
  · simp [hi, hr, hloc, throw, throwThe, MonadExceptOf.throw] at h
  by_cases hprof : c.broadcast.profileId.toNat > Broadcast.maxProfileId
  · simp [hi, hr, hloc, hprof, throw, throwThe, MonadExceptOf.throw] at h
  exact ⟨rfl, by omega, by omega, Nat.le_of_not_lt hloc, Nat.le_of_not_lt hprof⟩

/-- Spheres that pass the checks have distinct ids, distinct short ids and keys that read, and
none of them reuses an id or a short id seen before them. -/
theorem checkSpheres_eq_ok {i : Nat} {ids : List ByteText} {shorts : List (UInt8 × ByteText)}
    {l : List SphereEntry} (h : checkSpheres i ids shorts l = .ok ()) :
    (l.map (·.id)).Nodup ∧ (l.map (·.shortId)).Nodup ∧
      ∀ s ∈ l, s.id ∉ ids ∧ shorts.lookup s.shortId = none ∧ ∃ ks, s.keySet = .ok ks := by
  induction l generalizing i ids shorts with
  | nil => simp
  | cons s rest ih =>
    by_cases hempty : s.id.isEmpty = true
    · simp [checkSpheres, hempty] at h
    by_cases hdup : s.id ∈ ids
    · simp [checkSpheres, hempty, hdup] at h
    rcases hshort : shorts.lookup s.shortId with _ | other
    swap
    · simp [checkSpheres, hempty, hdup, hshort] at h
    rcases hks : s.keySet with f | ks
    · simp [checkSpheres, hempty, hdup, hshort, hks] at h
    simp only [checkSpheres, hempty, List.contains_iff_mem, hdup, hshort, hks, Bool.false_eq_true,
      if_false] at h
    -- the rest is checked against this sphere's id and short id too
    obtain ⟨hids, hshorts, hrest⟩ := ih h
    refine ⟨List.nodup_cons.mpr ⟨fun hmem => ?_, hids⟩,
      List.nodup_cons.mpr ⟨fun hmem => ?_, hshorts⟩, fun t ht => ?_⟩
    · obtain ⟨t, ht, hteq⟩ := List.mem_map.mp hmem
      exact (hrest t ht).1 (by simp [hteq])
    · obtain ⟨t, ht, hteq⟩ := List.mem_map.mp hmem
      have := (hrest t ht).2.1
      simp [hteq] at this
    · rcases List.mem_cons.mp ht with rfl | ht
      · exact ⟨hdup, hshort, ks, hks⟩
      · obtain ⟨hid, hsh, hk⟩ := hrest t ht
        refine ⟨fun hmem => hid (List.mem_cons_of_mem _ hmem), ?_, hk⟩
        simp only [List.lookup_cons] at hsh
        split at hsh
        · cases hsh
        · exact hsh

/-! ## Key texts -/

/-- A key text stands for a key slot: the empty text for no key, any other text for the key it
reads as. -/
def KeyRead (text : String) (k : Option Key) : Prop :=
  (text = "" ∧ k = none) ∨ (text ≠ "" ∧ ∃ key, Key.parse text = .ok key ∧ k = some key)

/-- The key texts of a sphere stand for the keys of a key set, role by role. -/
def KeyTexts.Reads (t : KeyTexts) (ks : KeySet) : Prop :=
  KeyRead t.admin ks.admin ∧ KeyRead t.member ks.member ∧ KeyRead t.guest ks.guest ∧
    KeyRead t.serviceData ks.serviceData ∧ KeyRead t.localization ks.localization

theorem keyRead_of_readKey {role text : String} {k : Option Key} (h : readKey role text = .ok k) :
    KeyRead text k := by
  unfold readKey at h
  by_cases he : text = ""
  · subst he
    exact .inl ⟨rfl, (Except.ok.inj h).symm⟩
  rw [if_neg (by simpa [String.isEmpty_iff] using he)] at h
  split at h
  · next key hkey => exact .inr ⟨he, key, hkey, (Except.ok.inj h).symm⟩
  · cases h

/-- The keys read from a sphere's texts are the keys the texts stand for. -/
theorem reads_of_keySet {s : SphereEntry} {ks : KeySet} (h : s.keySet = .ok ks) :
    s.keys.Reads ks := by
  unfold SphereEntry.keySet at h
  obtain ⟨admin, ha, h⟩ := bind_eq_ok h
  obtain ⟨member, hm, h⟩ := bind_eq_ok h
  obtain ⟨guest, hg, h⟩ := bind_eq_ok h
  obtain ⟨serviceData, hs, h⟩ := bind_eq_ok h
  obtain ⟨localization, hl, h⟩ := bind_eq_ok h
  cases Except.ok.inj h
  exact ⟨keyRead_of_readKey ha, keyRead_of_readKey hm, keyRead_of_readKey hg,
    keyRead_of_readKey hs, keyRead_of_readKey hl⟩

/-- A key slot written as text reads back as the slot. -/
theorem readKey_toHex (role : String) (k : Option Key) :
    readKey role ((k.map Key.toHex).getD "") = .ok k := by
  cases k with
  | none => rfl
  | some key =>
    simp only [Option.map_some, Option.getD_some, readKey,
      String.isEmpty_eq_false_iff.mpr key.toHex_ne_empty, Key.parse_toHex]
    rfl

/-- A key set written as the texts of a sphere reads back as the key set. -/
theorem keySet_ofKeySet (id : String) (shortId : UInt8) (ks : KeySet) :
    (SphereEntry.ofKeySet id shortId ks).keySet = .ok ks := by
  simp only [SphereEntry.keySet, SphereEntry.ofKeySet, readKey_toHex]
  rfl

/-! ## The key store -/

/-- One step of `store`: the next sphere put, with its keys read. -/
def storeStep (st : Store) (s : SphereEntry) : Except Fault Store :=
  match s.keySet with
  | .ok ks => .ok (st.put ⟨s.id, s.shortId, ks⟩)
  | .error f => .error (.within ("sphere " ++ s.id.quote) f)

theorem store_eq (c : Settings) : c.store = c.spheres.foldlM storeStep {} := rfl

/-- The sphere a settings entry stands for: its id, its short id and the keys its texts read as. -/
def Stands (s : SphereEntry) (sp : Sphere) : Prop :=
  sp.id = s.id ∧ sp.shortId = s.shortId ∧ s.keySet = .ok sp.keys

/-- Entries whose keys read put, in order, the spheres they stand for. -/
theorem foldlM_storeStep {l : List SphereEntry} (hks : ∀ s ∈ l, ∃ ks, s.keySet = .ok ks)
    (st : Store) :
    ∃ sps, List.Forall₂ Stands l sps ∧ l.foldlM storeStep st = .ok (sps.foldl Store.put st) := by
  induction l generalizing st with
  | nil => exact ⟨[], .nil, rfl⟩
  | cons s rest ih =>
    obtain ⟨ks, hs⟩ := hks s List.mem_cons_self
    obtain ⟨sps, hall, hfold⟩ :=
      ih (fun t ht => hks t (List.mem_cons_of_mem s ht)) (st.put ⟨s.id, s.shortId, ks⟩)
    refine ⟨⟨s.id, s.shortId, ks⟩ :: sps, .cons ⟨rfl, rfl, hs⟩ hall, ?_⟩
    have hstep : storeStep st s = .ok (st.put ⟨s.id, s.shortId, ks⟩) := by
      simp only [storeStep, hs]
    rw [List.foldlM_cons, hstep]
    exact hfold

/-- The spheres that entries stand for share their ids and short ids, and each entry has its
sphere among them. -/
theorem Stands.forall₂ {l : List SphereEntry} {sps : List Sphere} (h : List.Forall₂ Stands l sps) :
    sps.map (·.id) = l.map (·.id) ∧ sps.map (·.shortId) = l.map (·.shortId) ∧
      ∀ s ∈ l, ∃ sp ∈ sps, Stands s sp := by
  induction h with
  | nil => simp
  | @cons s sp l sps hs _ ih =>
    obtain ⟨ihid, ihsh, ihmem⟩ := ih
    refine ⟨by simp [hs.1, ihid], by simp [hs.2.1, ihsh], fun t ht => ?_⟩
    rcases List.mem_cons.mp ht with rfl | ht
    · exact ⟨sp, List.mem_cons_self, hs⟩
    · obtain ⟨sp', hsp', hst⟩ := ihmem t ht
      exact ⟨sp', List.mem_cons_of_mem _ hsp', hst⟩

end Settings

namespace Store

/-- Putting a sphere whose id the list does not hold adds it. -/
theorem insert_perm (sp : Sphere) {l : List Sphere} (h : ∀ y ∈ l, y.id ≠ sp.id) :
    (insert sp l).Perm (sp :: l) := by
  induction l with
  | nil => simp [insert]
  | cons x xs ih =>
    have hx : sp.id ≠ x.id := fun he => h x List.mem_cons_self he.symm
    by_cases hlt : sp.id < x.id
    · simp [insert, hx, hlt]
    · -- the sphere goes past `x`
      simp only [insert, if_neg hx, if_neg hlt]
      exact ((ih fun y hy => h y (List.mem_cons_of_mem x hy)).cons x).trans (List.Perm.swap sp x xs)

/-- Putting spheres of distinct ids, none of them held before, adds them all. -/
theorem foldl_put_perm {sps : List Sphere} (hnd : (sps.map (·.id)).Nodup) {st : Store}
    (hfresh : ∀ sp ∈ sps, ∀ y ∈ st.spheres, y.id ≠ sp.id) :
    (sps.foldl put st).spheres.Perm (sps.reverse ++ st.spheres) := by
  induction sps generalizing st with
  | nil => simp
  | cons sp rest ih =>
    obtain ⟨hsp, hrest⟩ := List.nodup_cons.mp hnd
    have hput : (st.put sp).spheres.Perm (sp :: st.spheres) :=
      insert_perm sp (hfresh sp List.mem_cons_self)
    -- the spheres still to come are new to the store with `sp` put
    have hfresh' : ∀ t ∈ rest, ∀ y ∈ (st.put sp).spheres, y.id ≠ t.id := by
      intro t ht y hy
      rcases List.mem_cons.mp (hput.mem_iff.mp hy) with hsame | hy
      · rw [hsame]
        exact fun he => hsp (List.mem_map.mpr ⟨t, ht, he.symm⟩)
      · exact hfresh t (List.mem_cons_of_mem sp ht) y hy
    rw [List.foldl_cons]
    refine (ih hrest hfresh').trans ?_
    rw [List.reverse_cons, List.append_assoc, List.singleton_append]
    exact hput.append_left _

theorem Sorted.foldl_put {st : Store} (h : st.Sorted) (sps : List Sphere) :
    (sps.foldl Store.put st).Sorted := by
  induction sps generalizing st with
  | nil => exact h
  | cons sp rest ih => exact ih (h.put sp)

/-- In a list sorted by id, a sphere it holds is the first one with its id. -/
theorem find?_id_of_mem {l : List Sphere} (h : l.Pairwise (·.id < ·.id)) {sp : Sphere}
    (hsp : sp ∈ l) : l.find? (·.id == sp.id) = some sp := by
  induction l with
  | nil => cases hsp
  | cons x xs ih =>
    obtain ⟨hx, hxs⟩ := List.pairwise_cons.mp h
    rcases List.mem_cons.mp hsp with rfl | hsp
    · exact List.find?_cons_of_pos (by simp)
    · -- `x` comes before `sp`, so its id is smaller and not `sp`'s
      have hne : x.id ≠ sp.id := fun he => ByteText.lt_irrefl sp.id (he ▸ hx sp hsp)
      rw [List.find?_cons_of_neg (by simpa using hne)]
      exact ih hxs hsp

/-- In a sorted store, a sphere it holds is what its id looks up. -/
theorem Sorted.get?_of_mem {st : Store} (h : st.Sorted) {sp : Sphere} (hsp : sp ∈ st.spheres) :
    st.get? sp.id = some sp :=
  find?_id_of_mem h hsp

end Store

namespace Settings

/-! ## Validated settings -/

/-- **Validated settings build consistent parts.** For settings that pass validation, the key
store is built: it lists the configured sphere ids in increasing order, so none was replaced, the
short ids of its spheres are distinct, and every configured sphere is in it with its short id and
a key set that holds exactly the keys whose texts are not empty, as they read. The background
packs, so a sender built on it, with any store, token and time, never refuses a command for a
field out of range. Whatever the settings, a key set written as a sphere's texts reads back as
the key set. -/
theorem validated_settings_build_components (c : Settings) (hv : c.validate = .ok ()) :
    (∃ st, c.store = .ok st ∧ st.ids.Pairwise (· < ·) ∧ st.ids.Perm (c.spheres.map (·.id)) ∧
      st.size = c.spheres.length ∧ (st.spheres.map (·.shortId)).Nodup ∧
      ∀ s ∈ c.spheres, ∃ ks, st.get? s.id = some ⟨s.id, s.shortId, ks⟩ ∧ s.keys.Reads ks) ∧
    (∃ w, c.broadcast.background.pack = .ok w) ∧
    (∀ (store : Option Store) (token : UInt8) (now : Int) (sphereId : String)
        (type : Broadcast.CommandType) (payload : Bytes) (f : Fault),
      (Broadcast.Encoder.mk store token c.broadcast.background now).encode sphereId type payload =
          .error f → f.cause? ≠ some .fieldRange) ∧
    (∀ (ks : KeySet) (id : String) (shortId : UInt8),
      (SphereEntry.ofKeySet id shortId ks).keySet = .ok ks) := by
  obtain ⟨hcheck, -, -, hfits⟩ := validate_eq_ok hv
  obtain ⟨hids, hshorts, hspheres⟩ := checkSpheres_eq_ok hcheck
  obtain ⟨sps, hstands, hfold⟩ := foldlM_storeStep (fun s hs => (hspheres s hs).2.2) {}
  obtain ⟨hmapId, hmapShort, hmem⟩ := Stands.forall₂ hstands
  -- the store starts empty and the ids put are distinct, so it holds every sphere put
  have hperm : (sps.foldl Store.put {}).spheres.Perm sps := by
    have hempty : ∀ sp ∈ sps, ∀ y ∈ ({} : Store).spheres, y.id ≠ sp.id :=
      fun _ _ _ hy => by cases hy
    have h := Store.foldl_put_perm (by rw [hmapId]; exact hids) hempty
    rw [show ({} : Store).spheres = [] from rfl, List.append_nil] at h
    exact h.trans (List.reverse_perm sps)
  have hsorted : (sps.foldl Store.put {}).Sorted := Store.Sorted.foldl_put List.Pairwise.nil sps
  refine ⟨⟨sps.foldl Store.put {}, by rw [store_eq, hfold], hsorted.ids, ?_, ?_, ?_, ?_⟩,
    (Broadcast.Background.pack_eq_ok_iff _).mpr hfits,
    fun _ _ _ _ _ _ _ h hf => Broadcast.Encoder.unfit_of_fieldRange h hf hfits,
    fun ks id shortId => keySet_ofKeySet id shortId ks⟩
  · rw [Store.ids, ← hmapId]
    exact hperm.map _
  · rw [Store.size, hperm.length_eq]
    exact hstands.length_eq.symm
  · exact (hperm.map _).nodup_iff.mpr (hmapShort ▸ hshorts)
  · -- each entry's sphere is in the sorted store, so its id finds it
    intro s hs
    obtain ⟨sp, hsp, hid, hsh, hks⟩ := hmem s hs
    refine ⟨sp.keys, ?_, reads_of_keySet hks⟩
    rw [← hid, hsorted.get?_of_mem (hperm.mem_iff.mpr hsp), ← hsh]

/-- Two spheres with no keys yet pass validation, and the store holds both. -/
theorem validated_settings_build_components_two_spheres :
    (Settings.validate { spheres := [{ id := ⟨[104]⟩, shortId := 1 }, { id := ⟨[99]⟩, shortId := 2 }] }
        = .ok ()) ∧
      ∃ st, Settings.store
          { spheres := [{ id := ⟨[104]⟩, shortId := 1 }, { id := ⟨[99]⟩, shortId := 2 }] } = .ok st ∧
        st.size = 2 := by
  have hv : Settings.validate
      { spheres := [{ id := ⟨[104]⟩, shortId := 1 }, { id := ⟨[99]⟩, shortId := 2 }] } = .ok () := by
    decide
  have h := validated_settings_build_components _ hv
  obtain ⟨st, hst, -, -, hsize, -⟩ := h.1
  exact ⟨hv, st, hst, hsize⟩

/-! ## The window length -/

/-- The window length in nanoseconds is the product in milliseconds wrapped to 64 signed bits. -/
theorem BroadcastSection.intervalNanos_eq_bmod (b : BroadcastSection) :
    b.intervalNanos = (b.intervalMs * 1000000).bmod (2 ^ 64) :=
  Int64.toInt_ofInt

/-- **The window length is honoured up to `2 ^ 63` ns.** Validated settings have a positive
window length in milliseconds. The length in nanoseconds is positive and equal to it exactly when
it is at most 9223372036854 ms; a longer one wraps around to another number. -/
theorem validated_interval_nanos (c : Settings) (hv : c.validate = .ok ()) :
    0 < c.broadcast.intervalMs ∧
      (0 < c.broadcast.intervalNanos ∧ c.broadcast.intervalNanos = c.broadcast.intervalMs * 1000000 ↔
        c.broadcast.intervalMs ≤ 9223372036854) := by
  obtain ⟨-, hpos, -, -⟩ := validate_eq_ok hv
  rw [BroadcastSection.intervalNanos_eq_bmod]
  refine ⟨hpos, ⟨?_, fun hle => ?_⟩⟩
  · -- a wrapped value stays below `2 ^ 63`, so a product that equals it does too
    rintro ⟨-, heq⟩
    have hlt := @Int.bmod_lt (c.broadcast.intervalMs * 1000000) (2 ^ 64) (by norm_num)
    rw [heq] at hlt
    push_cast at hlt
    omega
  · have heq : (c.broadcast.intervalMs * 1000000).bmod (2 ^ 64) = c.broadcast.intervalMs * 1000000 :=
      Int.bmod_eq_of_le (by push_cast; omega) (by push_cast; omega)
    rw [heq]
    omega

/-- The default settings pass, and their half-second window is honoured. -/
theorem validated_interval_nanos_default :
    (({} : Settings).validate = .ok ()) ∧ 0 < ({} : Settings).broadcast.intervalMs ∧
      (0 < ({} : Settings).broadcast.intervalNanos ∧
          ({} : Settings).broadcast.intervalNanos = ({} : Settings).broadcast.intervalMs * 1000000 ↔
        ({} : Settings).broadcast.intervalMs ≤ 9223372036854) := by
  have hv : ({} : Settings).validate = .ok () := by decide
  exact ⟨hv, validated_interval_nanos {} hv⟩

/-- A window of 9223372036855 ms passes validation, and its length in nanoseconds comes out
negative. -/
theorem interval_wraps_negative :
    ({ broadcast := { intervalMs := 9223372036855 } } : Settings).validate = .ok () ∧
      ({ broadcast := { intervalMs := 9223372036855 } } : Settings).broadcast.intervalNanos =
        -9223372036854551616 :=
  ⟨by decide, by decide⟩

end Settings

end StoneLink
