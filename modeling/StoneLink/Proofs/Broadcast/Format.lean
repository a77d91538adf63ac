import StoneLink.Proofs.Broadcast.Codec

/-!
# The broadcast format, read exactly

The round trip of the broadcast codecs says that what a sender writes is read back. This module
says what the readers accept, over all their inputs.

Header words: four words with pairwise distinct tags are read whatever their order, and writing
the header read from them gives them back sorted by tag; words that repeat a tag are refused, and
no other failure occurs. Together with the round trip this makes the words a bijection between the
headers whose small fields fit their bits and the tag-distinct quadruples of words.

Service UUIDs: a list is read exactly when it has five entries, at least four of them base UUIDs,
and the first four base UUIDs carry distinct tags. The block is the one UUID not taken as a word,
and when exactly four entries are base UUIDs the result does not depend on the order of the list.

The words are placed into slots by a fold that stops at the first repeated tag. The fold is
described once, on success and on failure; the order of the words matters to neither, because two
words with distinct tags are placed in different slots.
-/

namespace StoneLink.Broadcast

open Bits

namespace Header

/-! ## Placing words by their tags -/

theorem tag_eq (w : UInt16) : tag w = w.toNat / 2 ^ 14 := by
  simp only [tag, UInt16.toNat_shiftRight, UInt16.reduceToNat, Nat.reduceMod,
    Nat.shiftRight_eq_div_pow]

theorem tag_lt (w : UInt16) : tag w < 4 := by
  have := w.toNat_lt
  rw [tag_eq]
  omega

/-- Words whose tags repeat, or meet a tag seen before, are refused. -/
theorem foldlM_orderStep_of_repeat (l : List UInt16) (slots : List UInt16) (seen : List Nat)
    (h : ¬ ((l.map tag).Nodup ∧ ∀ w ∈ l, tag w ∉ seen)) :
    l.foldlM orderStep (slots, seen) = .error (.because .badSequence) := by
  induction l generalizing slots seen with
  | nil => simp at h
  | cons w l ih =>
    rw [List.foldlM_cons]
    by_cases hw : tag w ∈ seen
    · rw [orderStep_of_mem hw]
      rfl
    · rw [orderStep_of_not_mem hw]
      -- the repetition lies in the rest, against the rest or against this word's tag
      refine ih _ _ fun ⟨hnd, hfresh⟩ => h ⟨List.nodup_cons.mpr ⟨?_, hnd⟩, ?_⟩
      · intro hmem
        obtain ⟨v, hv, hvw⟩ := List.mem_map.mp hmem
        exact hfresh v hv (hvw ▸ List.mem_cons_self)
      · intro v hv
        rcases List.mem_cons.mp hv with rfl | hv
        · exact hw
        · exact fun hs => hfresh v hv (List.mem_cons_of_mem _ hs)

theorem order_of_nodup {l : List UInt16} (hnd : (l.map tag).Nodup) :
    order l = .ok (l.foldl place [0, 0, 0, 0]) := by
  rw [order_eq, foldlM_orderStep l _ _ hnd (by simp)]
  rfl

theorem order_of_not_nodup {l : List UInt16} (hnd : ¬ (l.map tag).Nodup) :
    order l = .error (.because .badSequence) := by
  rw [order_eq, foldlM_orderStep_of_repeat l _ _ (by simpa using hnd)]
  rfl

/-- The header read from words does not depend on their order. -/
theorem decode_perm {l l' : List UInt16} (hl : l.Perm l') : decode l = decode l' := by
  by_cases hnd : (l.map tag).Nodup
  · have hnd' : (l'.map tag).Nodup := (hl.map tag).nodup_iff.mp hnd
    rw [decode_eq, decode_eq, order_of_nodup hnd, order_of_nodup hnd', foldl_place_perm hnd hl]
  · have hnd' : ¬ (l'.map tag).Nodup := fun h => hnd ((hl.map tag).nodup_iff.mpr h)
    rw [decode_eq, decode_eq, order_of_not_nodup hnd, order_of_not_nodup hnd']

theorem decode_of_not_nodup {l : List UInt16} (hnd : ¬ (l.map tag).Nodup) :
    decode l = .error (.because .badSequence) := by
  rw [decode_eq, order_of_not_nodup hnd]
  rfl

theorem nodup_of_decode {l : List UInt16} {h : Header} (hd : decode l = .ok h) :
    (l.map tag).Nodup := by
  by_contra hnd
  rw [decode_of_not_nodup hnd] at hd
  cases hd

/-! ## Sorting words by their tags -/

/-- Four words with distinct tags, sorted by tag, carry the tags 0 to 3 in order. -/
theorem map_tag_mergeSort {ws : List UInt16} (hlen : ws.length = 4) (hnd : (ws.map tag).Nodup) :
    (ws.mergeSort fun a b => tag a ≤ tag b).map tag = [0, 1, 2, 3] := by
  have hperm := List.mergeSort_perm ws fun a b => tag a ≤ tag b
  have hsorted : (ws.mergeSort fun a b => tag a ≤ tag b).Pairwise fun a b => tag a ≤ tag b := by
    have h : (ws.mergeSort fun a b => tag a ≤ tag b).Pairwise
        fun a b => decide (tag a ≤ tag b) = true :=
      List.pairwise_mergeSort (fun a b c hab hbc => by simp only [decide_eq_true_eq] at *; omega)
        (fun a b => by simp only [Bool.or_eq_true, decide_eq_true_eq]; omega) ws
    exact h.imp fun h => by simpa using h
  have hnds := (hperm.map tag).nodup_iff.mpr hnd
  obtain ⟨a, b, c, d, hs⟩ : ∃ a b c d, (ws.mergeSort fun a b => tag a ≤ tag b) = [a, b, c, d] := by
    match hm : ws.mergeSort fun a b => tag a ≤ tag b, (List.length_mergeSort ws).trans hlen with
    | [a, b, c, d], _ => exact ⟨a, b, c, d, rfl⟩
  rw [hs] at hsorted hnds ⊢
  -- four distinct tags below four, in increasing order, are 0, 1, 2 and 3
  have := tag_lt d
  simp only [List.pairwise_cons, List.mem_cons, List.not_mem_nil, forall_eq_or_imp,
    List.map_cons, List.map_nil, List.nodup_cons] at hsorted hnds ⊢
  simp only [List.cons.injEq, and_true]
  omega

/-- The header of the slots of four words tagged 0 to 3 writes the words back. -/
theorem words_ofSlots {a b c d : UInt16} (htags : [a, b, c, d].map tag = [0, 1, 2, 3]) :
    (ofSlots ([a, b, c, d].map (· &&& fieldMask))).words = .ok [a, b, c, d] := by
  simp only [List.map_cons, List.map_nil, List.cons.injEq, and_true, tag_eq] at htags ⊢
  obtain ⟨ta, tb, tc, td⟩ := htags
  have := b.toNat_lt
  have := c.toNat_lt
  have := d.toNat_lt
  -- the slots are the words below their tags, as numbers
  have ma := toNat_and_fieldMask a
  have mb := toNat_and_fieldMask b
  have mc := toNat_and_fieldMask c
  have md := toNat_and_fieldMask d
  have hp := toNat_protocol_ofSlots (a &&& fieldMask) (b &&& fieldMask) (c &&& fieldMask)
    (d &&& fieldMask)
  have hs := toNat_sphereShortId_ofSlots (a &&& fieldMask) (b &&& fieldMask) (c &&& fieldMask)
    (d &&& fieldMask)
  have hl := toNat_accessLevel_ofSlots (a &&& fieldMask) (b &&& fieldMask) (c &&& fieldMask)
    (d &&& fieldMask)
  have hr := toNat_reserved_ofSlots (a &&& fieldMask) (b &&& fieldMask) (c &&& fieldMask)
    (d &&& fieldMask)
  have ht := toNat_deviceToken_ofSlots (a &&& fieldMask) (b &&& fieldMask) (c &&& fieldMask)
    (d &&& fieldMask)
  have hbg := toNat_encryptedBackground_ofSlots (a &&& fieldMask) (b &&& fieldMask)
    (c &&& fieldMask) (d &&& fieldMask) (by omega) (by omega)
  generalize ofSlots [a &&& fieldMask, b &&& fieldMask, c &&& fieldMask, d &&& fieldMask] = h
    at hp hs hl hr ht hbg
  have hf : h.Fits := ⟨UInt8.le_iff_toNat_le.mpr (by simp; omega),
    UInt8.le_iff_toNat_le.mpr (by simp; omega), UInt8.le_iff_toNat_le.mpr (by simp; omega)⟩
  rw [words_eq_ok hf]
  simp only [Except.ok.injEq, List.cons.injEq, and_true, ← UInt16.toNat_inj]
  refine ⟨?_, ?_, ?_, ?_⟩
  · rw [toNat_word0 hf]
    omega
  · rw [toNat_word1 hf]
    omega
  · rw [toNat_word2]
    omega
  · rw [toNat_word3]
    omega

/-- Four words with distinct tags are read, and the header read from them writes them back sorted
by tag. -/
theorem words_decode {ws : List UInt16} (hlen : ws.length = 4) (hnd : (ws.map tag).Nodup) :
    ∃ h, decode ws = .ok h ∧ h.words = .ok (ws.mergeSort fun a b => tag a ≤ tag b) := by
  have htags := map_tag_mergeSort hlen hnd
  have hperm := List.mergeSort_perm ws fun a b => tag a ≤ tag b
  generalize ws.mergeSort (fun a b => tag a ≤ tag b) = s at htags hperm ⊢
  obtain ⟨a, b, c, d, rfl⟩ : ∃ a b c d, s = [a, b, c, d] := by
    match s, congrArg List.length htags with
    | [a, b, c, d], _ => exact ⟨a, b, c, d, rfl⟩
  rw [decode_eq, order_of_perm htags hperm.symm]
  exact ⟨_, rfl, words_ofSlots htags⟩

/-! ## Writing the words and the bytes -/

/-- Writing fails exactly when a field is too large for its bits, as a field out of range. -/
theorem words_eq_error_iff (h : Header) :
    (∃ f, h.words = .error f ∧ f.cause? = some .fieldRange) ↔
      ¬ (h.protocol ≤ 7 ∧ h.accessLevel ≤ 7 ∧ h.reserved ≤ 3) := by
  simp only [words]
  by_cases hc : h.protocol > 7 ∨ h.accessLevel > 7 ∨ h.reserved > 3
  · rw [if_pos hc]
    refine ⟨fun _ hle => ?_, fun _ => ⟨_, rfl, rfl⟩⟩
    obtain ⟨hp, hl, hr⟩ := hle
    simp only [gt_iff_lt, ← UInt8.not_le] at hc
    tauto
  · rw [if_neg hc]
    simp only [reduceCtorEq, false_and, exists_false, false_iff, not_not]
    simp only [not_or, UInt8.not_lt] at hc
    exact hc

theorem bytes_eq (h : Header) : h.bytes = (fun ws => ws.flatMap Bytes.ofUInt16) <$> h.words := by
  rcases hw : h.words with f | ws <;> simp only [bytes, hw] <;> rfl

theorem length_flatMap_ofUInt16 (ws : List UInt16) :
    (ws.flatMap Bytes.ofUInt16).length = 2 * ws.length := by
  induction ws with
  | nil => rfl
  | cons w ws ih =>
    simp only [List.flatMap_cons, List.length_append, Bytes.length_ofUInt16, ih, List.length_cons]
    omega

/-- The bytes of words, each low byte first, give back at offset `2 i` the word at `i`. -/
theorem toUInt16_drop_flatMap (ws : List UInt16) (i : Nat) :
    Bytes.toUInt16 ((ws.flatMap Bytes.ofUInt16).drop (2 * i)) = ws.getD i 0 := by
  induction ws generalizing i with
  | nil => simp only [List.flatMap_nil, List.drop_nil, List.getD_nil]; rfl
  | cons w ws ih =>
    cases i with
    | zero => simp
    | succ i =>
      rw [List.flatMap_cons, show 2 * (i + 1) = 2 + 2 * i by omega, ← List.drop_drop,
        List.drop_left' (Bytes.length_ofUInt16 w), ih, List.getD_cons_succ]

end Header

/-- **The header words are a bijection with the headers whose fields fit.** A header whose
protocol, access level and reserved fields fit their bits is written as four words, and the words
in any order read back as the header. Any four words are read exactly when their tags are pairwise
distinct, and refused as a bad sequence otherwise; the header read from them writes them back
sorted by tag. Writing fails exactly when a field is too large, as a field out of range, and the
header bytes are the words, each low byte first. -/
theorem header_words_bijection :
    (∀ h : Header, h.protocol ≤ 7 → h.accessLevel ≤ 7 → h.reserved ≤ 3 →
      ∃ ws, h.words = .ok ws ∧ ∀ l, l.Perm ws → Header.decode l = .ok h) ∧
    (∀ w0 w1 w2 w3 : UInt16,
      (Header.decode [w0, w1, w2, w3] = .error (.because .badSequence) ↔
        ¬ ([w0, w1, w2, w3].map Header.tag).Nodup) ∧
      (([w0, w1, w2, w3].map Header.tag).Nodup → ∃ h, Header.decode [w0, w1, w2, w3] = .ok h ∧
        h.words = .ok ([w0, w1, w2, w3].mergeSort fun a b => Header.tag a ≤ Header.tag b))) ∧
    (∀ h : Header, (∃ f, h.words = .error f ∧ f.cause? = some .fieldRange) ↔
      ¬ (h.protocol ≤ 7 ∧ h.accessLevel ≤ 7 ∧ h.reserved ≤ 3)) ∧
    (∀ h : Header, (∀ f, h.words = .error f → h.bytes = .error f) ∧
      ∀ ws, h.words = .ok ws → ∃ b, h.bytes = .ok b ∧ b.length = 2 * ws.length ∧
        ∀ i, Bytes.toUInt16 (b.drop (2 * i)) = ws.getD i 0) := by
  refine ⟨?_, ?_, Header.words_eq_error_iff, ?_⟩
  · intro h hp hl hr
    exact ⟨_, Header.words_eq_ok ⟨hp, hl, hr⟩, fun l hperm => Header.decode_of_perm ⟨hp, hl, hr⟩ hperm⟩
  · intro w0 w1 w2 w3
    refine ⟨⟨fun hd hnd => ?_, Header.decode_of_not_nodup⟩, Header.words_decode rfl⟩
    -- words with distinct tags are read, so a refusal means a repeated tag
    obtain ⟨h, hok, -⟩ := Header.words_decode rfl hnd
    rw [hd] at hok
    cases hok
  · intro h
    refine ⟨fun f hf => by rw [Header.bytes_eq, hf]; rfl, fun ws hws => ?_⟩
    refine ⟨_, by rw [Header.bytes_eq, hws]; rfl, Header.length_flatMap_ofUInt16 ws,
      Header.toUInt16_drop_flatMap ws⟩

/-! ## Service UUIDs -/

namespace Uuid

/-- The word of a UUID is recognised exactly on the base UUIDs, and it is the word they carry. -/
theorem word_eq_iff (u : Uuid) (w : UInt16) : u.word = (w, true) ↔ u = ofWord w := by
  constructor
  · intro h
    simp only [word, Prod.mk.injEq, beq_iff_eq] at h
    obtain ⟨rfl, h⟩ := h
    exact h.symm
  · rintro rfl
    exact word_ofWord w

theorem word_of_isWord {u : Uuid} (h : u.isWord = true) : u.word = (u.word.1, true) :=
  Prod.ext rfl h

end Uuid

section Sorting

variable {uuids : List Uuid}

/-- Five UUIDs of which at least four are base UUIDs are sorted into the words of the first four
base UUIDs and the one UUID left over. -/
theorem sortUuids_of_five (hlen : uuids.length = 5) (hbase : 4 ≤ (uuids.filter (·.isWord)).length) :
    ∃ c, uuids.filter (!·.isWord) ++ (uuids.filter (·.isWord)).drop 4 = [c] ∧
      sortUuids uuids = (((uuids.filter (·.isWord)).take 4).map (·.word.1), c.bytes, 1) := by
  have hsplit := List.length_eq_length_filter_add (l := uuids) (·.isWord)
  rcases Nat.lt_or_ge (uuids.filter (·.isWord)).length 5 with h4 | h5
  · -- four base UUIDs and one other, which is the block
    have h4 : (uuids.filter (·.isWord)).length = 4 := by omega
    obtain ⟨c, hc⟩ : ∃ c, uuids.filter (!·.isWord) = [c] := List.length_eq_one_iff.mp (by omega)
    refine ⟨c, by rw [hc, List.drop_eq_nil_of_le h4.le, List.append_nil], ?_⟩
    rw [sortUuids_eq, foldl_sortStep uuids [] _ 0 (by rw [List.length_nil, Nat.zero_add]; exact h4.le), hc,
      List.take_of_length_le h4.le]
    simp
  · -- five base UUIDs: the first four are words and the fifth is the block
    have hall : ∀ u ∈ uuids, u.isWord = true := List.length_filter_eq_length_iff.mp
      (show (uuids.filter (·.isWord)).length = uuids.length by omega)
    obtain ⟨c, hc⟩ : ∃ c, uuids.drop 4 = [c] := List.length_eq_one_iff.mp (by simp [hlen])
    obtain ⟨w, hw⟩ : ∃ w, c.word = (w, true) :=
      ⟨_, Uuid.word_of_isWord (hall c (List.mem_of_mem_drop (hc ▸ List.mem_singleton_self c)))⟩
    have htake : (uuids.take 4).filter (·.isWord) = uuids.take 4 :=
      List.filter_eq_self.mpr fun u hu => hall u (List.mem_of_mem_take hu)
    have hnone : (uuids.take 4).filter (!·.isWord) = [] :=
      List.filter_eq_nil_iff.mpr fun u hu => by simp [hall u (List.mem_of_mem_take hu)]
    refine ⟨c, ?_, ?_⟩
    · rw [List.filter_eq_self.mpr hall, List.filter_eq_nil_iff.mpr (fun u hu => by simp [hall u hu]),
        hc, List.nil_append]
    · have hfour : (uuids.take 4).length = 4 := by simp [hlen]
      rw [List.filter_eq_self.mpr hall, sortUuids_eq, ← List.take_append_drop 4 uuids, hc,
        List.foldl_append, foldl_sortStep _ [] _ 0 (by rw [htake, List.length_nil, hfour]), htake,
        hnone, List.take_left' hfour]
      simp [sortStep, hw, hlen]

/-- Fewer than four base UUIDs give fewer than four words. -/
theorem length_sortUuids_of_few (hbase : (uuids.filter (·.isWord)).length < 4) :
    (sortUuids uuids).1.length < 4 := by
  rw [sortUuids_eq, foldl_sortStep uuids [] _ 0 (by simp; omega)]
  simpa using hbase

end Sorting

section Parse

variable {uuids : List Uuid}

theorem parse_of_length (hlen : uuids.length ≠ advertisementUuids) :
    parse uuids = .error (.noted .badSequence (toString uuids.length ++ " service UUIDs")) := by
  rw [parse, if_pos hlen]
  rfl

theorem parse_of_few (hbase : (uuids.filter (·.isWord)).length < 4) : ∃ f, parse uuids = .error f := by
  by_cases hlen : uuids.length = advertisementUuids
  · have hwords : (sortUuids uuids).1.length ≠ 4 := by
      have := length_sortUuids_of_few hbase
      omega
    rcases hs : sortUuids uuids with ⟨words, cipher, n⟩
    rw [hs] at hwords
    refine ⟨.because .badSequence, ?_⟩
    simp only [parse, hlen, hs, ne_eq, not_true_eq_false, if_false]
    rw [if_pos (Or.inl hwords)]
    rfl
  · exact ⟨_, parse_of_length hlen⟩

/-- Five UUIDs of which at least four are base UUIDs are read as the header of the first four base
UUIDs' words and the one UUID left over. -/
theorem parse_of_five (hlen : uuids.length = 5) (hbase : 4 ≤ (uuids.filter (·.isWord)).length) :
    ∃ c, uuids.filter (!·.isWord) ++ (uuids.filter (·.isWord)).drop 4 = [c] ∧
      parse uuids = (Header.decode (((uuids.filter (·.isWord)).take 4).map (·.word.1)) >>=
        fun h => pure ⟨h, c.bytes⟩) := by
  obtain ⟨c, hc, hsort⟩ := sortUuids_of_five hlen hbase
  have hwords : (((uuids.filter (·.isWord)).take 4).map (·.word.1)).length = 4 := by
    simp only [List.length_map, List.length_take]
    omega
  refine ⟨c, hc, ?_⟩
  simp only [parse, advertisementUuids, hlen, hsort, hwords, ne_eq, not_true_eq_false, if_false,
    or_self]

/-- A list that is read has five entries, at least four of them base UUIDs. -/
theorem shape_of_parse {p : Parsed} (hp : parse uuids = .ok p) :
    uuids.length = 5 ∧ 4 ≤ (uuids.filter (·.isWord)).length := by
  by_cases hlen : uuids.length = 5
  · refine ⟨hlen, Nat.le_of_not_lt fun hbase => ?_⟩
    obtain ⟨f, hf⟩ := parse_of_few hbase
    rw [hf] at hp
    cases hp
  · rw [parse_of_length hlen] at hp
    cases hp

theorem bind_eq_ok_iff {x : Except Fault Header} {c : Bytes} {p : Parsed} :
    (x >>= fun h => pure ⟨h, c⟩) = .ok p ↔ x = .ok p.header ∧ p.ciphertext = c := by
  cases x with
  | error f => simp [bind, Except.bind]
  | ok h =>
    obtain ⟨h', c'⟩ := p
    simp [bind, Except.bind, pure, Except.pure, eq_comm]

end Parse

/-- **A list of service UUIDs is read exactly when it has the broadcast format.** The word of a
UUID is recognised exactly on the base UUIDs. A list is read exactly when it has five entries, at
least four of them base UUIDs, and the words of the first four base UUIDs carry distinct tags; the
header is then the one those four words stand for, and the block is the one UUID not taken as a
word: the UUID that is no base UUID, or the fifth base UUID. When exactly four entries are base
UUIDs, the result, success or failure, does not depend on the order of the list. -/
theorem parse_accepts_exactly_its_format (uuids : List Uuid) :
    (∀ u w, u.word = (w, true) ↔ u = Uuid.ofWord w) ∧
    ((∃ p, parse uuids = .ok p) ↔ uuids.length = 5 ∧ 4 ≤ (uuids.filter (·.isWord)).length ∧
      ((((uuids.filter (·.isWord)).take 4).map (·.word.1)).map Header.tag).Nodup) ∧
    (∀ p, parse uuids = .ok p →
      Header.decode (((uuids.filter (·.isWord)).take 4).map (·.word.1)) = .ok p.header ∧
      (uuids.filter (!·.isWord) ++ (uuids.filter (·.isWord)).drop 4).map (·.bytes) =
        [p.ciphertext]) ∧
    ((uuids.filter (·.isWord)).length = 4 → ∀ l, l.Perm uuids → parse l = parse uuids) := by
  refine ⟨Uuid.word_eq_iff, ⟨?_, ?_⟩, ?_, ?_⟩
  · rintro ⟨p, hp⟩
    obtain ⟨hlen, hbase⟩ := shape_of_parse hp
    obtain ⟨c, -, hparse⟩ := parse_of_five hlen hbase
    rw [hparse, bind_eq_ok_iff] at hp
    exact ⟨hlen, hbase, Header.nodup_of_decode hp.1⟩
  · rintro ⟨hlen, hbase, hnd⟩
    obtain ⟨c, -, hparse⟩ := parse_of_five hlen hbase
    obtain ⟨h, hd, -⟩ := Header.words_decode (by simp; omega) hnd
    exact ⟨⟨h, c.bytes⟩, by rw [hparse, bind_eq_ok_iff]; exact ⟨hd, rfl⟩⟩
  · intro p hp
    obtain ⟨hlen, hbase⟩ := shape_of_parse hp
    obtain ⟨c, hc, hparse⟩ := parse_of_five hlen hbase
    rw [hparse, bind_eq_ok_iff] at hp
    rw [hc, List.map_singleton, hp.2]
    exact ⟨hp.1, rfl⟩
  · intro h4 l hl
    by_cases hlen : uuids.length = 5
    · -- the base UUIDs and the one other UUID are the same in both orders
      have hbase := (hl.filter (·.isWord)).length_eq.trans h4
      obtain ⟨c, hc, hparse⟩ := parse_of_five hlen h4.ge
      obtain ⟨c', hc', hparse'⟩ := parse_of_five (hl.length_eq.trans hlen) hbase.ge
      rw [List.drop_eq_nil_of_le h4.le, List.append_nil] at hc
      rw [List.drop_eq_nil_of_le hbase.le, List.append_nil] at hc'
      have hcc : [c'] = [c] := by
        have hother := hl.filter fun u => !u.isWord
        rw [hc, hc'] at hother
        exact List.perm_singleton.mp hother
      have hwords : (((l.filter (·.isWord)).take 4).map (·.word.1)).Perm
          (((uuids.filter (·.isWord)).take 4).map (·.word.1)) := by
        rw [List.take_of_length_le hbase.le, List.take_of_length_le h4.le]
        exact (hl.filter _).map _
      rw [hparse, hparse', Header.decode_perm hwords, List.singleton_inj.mp hcc]
    · rw [parse_of_length hlen, parse_of_length (hl.length_eq ▸ hlen), hl.length_eq]

/-- Four base UUIDs and a block are read alike in reverse order. -/
theorem parse_accepts_exactly_its_format_reversed :
    let uuids : List Uuid := [Uuid.ofWord 0x0001, Uuid.ofWord 0x4002, ⟨List.replicate 16 7⟩,
      Uuid.ofWord 0x8003, Uuid.ofWord 0xC004]
    (uuids.filter (·.isWord)).length = 4 ∧ uuids.reverse.Perm uuids ∧
      parse uuids.reverse = parse uuids := by
  intro uuids
  have h4 : (uuids.filter (·.isWord)).length = 4 := by decide
  have hrev := (parse_accepts_exactly_its_format uuids).2.2.2 h4 _ (List.reverse_perm uuids)
  exact ⟨h4, List.reverse_perm uuids, hrev⟩

/-- A header of protocol 1 with every field in use is read back from its words in reverse. -/
theorem header_words_bijection_reversed :
    let h : Header := ⟨1, 42, 2, 3, 7, 0xDEADBEEF⟩
    (h.protocol ≤ 7 ∧ h.accessLevel ≤ 7 ∧ h.reserved ≤ 3) ∧
      ∃ ws, h.words = .ok ws ∧ ∀ l, l.Perm ws → Header.decode l = .ok h := by
  intro h
  have hw := header_words_bijection.1 h (by decide) (by decide) (by decide)
  exact ⟨by decide, hw⟩

end StoneLink.Broadcast
