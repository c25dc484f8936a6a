import RetroShare.Util.RsMemCache

/-!
# The eviction of cached data

`RsMemCache.InStep` says that the two maps and the count of a cache are in step, and
`Watched.DiscardsLeastRecent` what a `resize` may drop.  They hold along runs in which no call uses
the time stamp `0`, which `ref` gives to the entries that it adds.
-/

universe u v

namespace Util

variable {κ : Type u} {ν : Type v} [LinearOrder κ]

namespace RsMemCache

variable (cache : RsMemCache κ ν)

/-- The time stamps of the data, with the keys. -/
def stamps (m : OrdMap κ (CacheData ν)) : List (Int × κ) :=
  m.toList.map fun e => (e.2.ts, e.1)

/-- The least recently used entries are those of the data, once each, and the count is the size of
both maps. -/
structure InStep : Prop where
  lru : cache.mLruMap.toList.Perm (stamps cache.mDataMap)
  data_count : cache.mDataCount.toNat = cache.mDataMap.toList.length
  lru_count : cache.mDataCount.toNat = cache.mLruMap.toList.length

/-- There is an entry of the key with the time stamp `0`. -/
def Unstamped (key : κ) : Prop := (cache.mDataMap.get? key).any fun e => e.ts = 0

/-- The call uses the time stamp `0` of an entry. -/
def UsesUnstamped : Input κ ν → Prop
  | .fetch key _ => cache.Unstamped key
  | .erase key => cache.Unstamped key
  | .ref key _ => cache.Unstamped key
  | .store key _ _ => cache.Unstamped key
  | .resize => cache.mMaxSize < cache.mDataCount ∧ ∃ e ∈ cache.mDataMap.toList, e.2.ts = 0

/-- The entries can be counted by an `int`. -/
def Countable : Prop := cache.mDataMap.toList.length < 2 ^ 31

instance decidableUsesUnstamped : ∀ input : Input κ ν, Decidable (cache.UsesUnstamped input)
  | .fetch key _ => inferInstanceAs (Decidable ((cache.mDataMap.get? key).any _ = true))
  | .erase key => inferInstanceAs (Decidable ((cache.mDataMap.get? key).any _ = true))
  | .ref key _ => inferInstanceAs (Decidable ((cache.mDataMap.get? key).any _ = true))
  | .store key _ _ => inferInstanceAs (Decidable ((cache.mDataMap.get? key).any _ = true))
  | .resize =>
      inferInstanceAs
        (Decidable (cache.mMaxSize < cache.mDataCount ∧ ∃ e ∈ cache.mDataMap.toList, e.2.ts = 0))

instance decidableCountable : Decidable cache.Countable :=
  inferInstanceAs (Decidable (cache.mDataMap.toList.length < 2 ^ 31))

variable {cache} {key : κ} {rest : List (Int × κ)} {old_ts : Int}

theorem ts_ne_zero {e : CacheData ν} (h : ¬cache.Unstamped key)
    (hget : cache.mDataMap.get? key = some e) :
  e.ts ≠ 0
  := by
  intro hzero
  apply h
  rw [Unstamped, hget]
  exact decide_eq_true hzero

section Stamps

variable {m : OrdMap κ (CacheData ν)} {key : κ}

theorem stamps_insert_perm (m : OrdMap κ (CacheData ν)) (key : κ) (e : CacheData ν) :
  (stamps (m.insert key e)).Perm ((e.ts, key) :: stamps (m.erase key))
  := (OrdMap.toList_insert_perm key e).map _

theorem stamps_perm {e : CacheData ν} (h : m.get? key = some e) :
  (stamps m).Perm ((e.ts, key) :: stamps (m.erase key))
  := (OrdMap.toList_perm_of_get?_eq_some h).map _

theorem mem_stamps {ts : Int} :
  (ts, key) ∈ stamps m ↔ ∃ e, m.get? key = some e ∧ e.ts = ts
  := by
  rw [stamps, List.mem_map]
  constructor
  · rintro ⟨⟨key', e⟩, he, heq⟩
    cases heq
    exact ⟨e, OrdMap.mem_toList.1 he, rfl⟩
  · rintro ⟨e, he, rfl⟩
    exact ⟨(key, e), OrdMap.mem_toList.2 he, rfl⟩

theorem length_stamps (m : OrdMap κ (CacheData ν)) :
  (stamps m).length = m.toList.length
  := List.length_map _

end Stamps

/-! ### `update_lrumap` -/

@[simp]
theorem updateLruMap_mDataMap (key : κ) (old_ts new_ts : Int) :
  (cache.updateLruMap key old_ts new_ts).mDataMap = cache.mDataMap
  := by
  simp only [updateLruMap]
  split
  · rfl
  · split
    · split <;> rfl
    · rfl

@[simp]
theorem updateLruMap_mDataCount (key : κ) (old_ts new_ts : Int) :
  (cache.updateLruMap key old_ts new_ts).mDataCount = cache.mDataCount
  := by
  simp only [updateLruMap]
  split
  · rfl
  · split
    · split <;> rfl
    · rfl

theorem updateLruMap_new (key : κ) (new_ts : Int) :
  (cache.updateLruMap key 0 new_ts).mLruMap.toList.Perm ((new_ts, key) :: cache.mLruMap.toList)
  := by
  rw [updateLruMap, if_pos rfl]
  apply MultiMap.toList_insert_perm

theorem updateLruMap_move {new_ts : Int} (hlru : cache.mLruMap.toList.Perm ((old_ts, key) :: rest))
    (hold : old_ts ≠ 0) (hnew : new_ts ≠ 0) :
  (cache.updateLruMap key old_ts new_ts).mLruMap.toList.Perm ((new_ts, key) :: rest)
  := by
  have hmem : (old_ts, key) ∈ cache.mLruMap.toList := hlru.symm.subset List.mem_cons_self
  rw [updateLruMap, if_neg hold, if_pos hmem]
  simp only [if_neg hnew]
  apply (MultiMap.toList_insert_perm new_ts key).trans
  apply List.Perm.cons
  apply ((List.perm_cons_erase hmem).symm.trans hlru).cons_inv

theorem updateLruMap_remove (hlru : cache.mLruMap.toList.Perm ((old_ts, key) :: rest))
    (hold : old_ts ≠ 0) :
  (cache.updateLruMap key old_ts 0).mLruMap.toList.Perm rest
  := by
  have hmem : (old_ts, key) ∈ cache.mLruMap.toList := hlru.symm.subset List.mem_cons_self
  rw [updateLruMap, if_neg hold, if_pos hmem]
  simp only [if_true]
  apply ((List.perm_cons_erase hmem).symm.trans hlru).cons_inv

/-! ### Calls -/

namespace InStep

theorem mk' (hlru : cache.mLruMap.toList.Perm (stamps cache.mDataMap))
    (hcount : cache.mDataCount.toNat = cache.mDataMap.toList.length) :
  cache.InStep
  := by
  refine ⟨hlru, hcount, ?_⟩
  rw [hcount, hlru.length_eq, length_stamps]

variable {e : CacheData ν}

/-- The time stamp of an entry changes. -/
theorem move (h : cache.InStep) {e' : CacheData ν} (hget : cache.mDataMap.get? key = some e)
    (hold : e.ts ≠ 0) (hnew : e'.ts ≠ 0) :
  ({ cache with mDataMap := cache.mDataMap.insert key e' }.updateLruMap key e.ts e'.ts).InStep
  := by
  apply mk'
  · rw [updateLruMap_mDataMap]
    apply List.Perm.trans _ (stamps_insert_perm cache.mDataMap key e').symm
    apply updateLruMap_move _ hold hnew
    exact h.lru.trans (stamps_perm hget)
  · rw [updateLruMap_mDataCount, updateLruMap_mDataMap, h.data_count,
      (OrdMap.toList_perm_of_get?_eq_some hget).length_eq,
      (OrdMap.toList_insert_perm key e').length_eq]
    rfl

theorem add (h : cache.InStep) (e : CacheData ν) (hget : cache.mDataMap.get? key = none)
    (hcountable : cache.Countable) :
  ({ cache with
      mDataMap := cache.mDataMap.insert key e
      mDataCount := cache.mDataCount + 1 }.updateLruMap key 0 e.ts).InStep
  := by
  have hinsert := OrdMap.erase_of_get?_eq_none hget
  apply mk'
  · rw [updateLruMap_mDataMap]
    apply (updateLruMap_new key e.ts).trans
    apply (h.lru.cons _).trans
    have hstamps := (stamps_insert_perm cache.mDataMap key e).symm
    rw [hinsert] at hstamps
    exact hstamps
  · have hlength := (OrdMap.toList_insert_perm (m := cache.mDataMap) key e).length_eq
    rw [hinsert] at hlength
    rw [updateLruMap_mDataCount, updateLruMap_mDataMap, hlength, UInt32.toNat_add, h.data_count]
    rw [Countable] at hcountable
    apply Nat.mod_eq_of_lt
    rw [UInt32.toNat_one]
    omega

theorem remove (h : cache.InStep) (hget : cache.mDataMap.get? key = some e)
    {cache' : RsMemCache κ ν} (hmap : cache'.mDataMap = cache.mDataMap.erase key)
    (hcount : cache'.mDataCount = cache.mDataCount - 1)
    (hlru : cache'.mLruMap.toList.Perm (stamps (cache.mDataMap.erase key))) :
  cache'.InStep
  := by
  have hlength := (OrdMap.toList_perm_of_get?_eq_some hget).length_eq
  rw [List.length_cons, ← h.data_count] at hlength
  rw [← hmap] at hlru
  apply mk' hlru
  have hpos : 1 ≤ cache.mDataCount := by
    rw [UInt32.le_iff_toNat_le, hlength]
    apply Nat.le_add_left
  rw [hcount, hmap, UInt32.toNat_sub_of_le _ _ hpos, hlength]
  rfl

end InStep

/-! ### `discard_LRU` -/

/-- What discarding the first `n` of the least recently used entries leaves. -/
structure Discards (cache cache' : RsMemCache κ ν) (n : Nat) : Prop where
  in_step : cache'.InStep
  lru : cache'.mLruMap.toList = cache.mLruMap.toList.drop n
  max_size : cache'.mMaxSize = cache.mMaxSize
  keeps : ∀ key e, cache'.mDataMap.get? key = some e → cache.mDataMap.get? key = some e

theorem InStep.discardLru (h : cache.InStep) {n : Nat} (hn : n ≤ cache.mLruMap.toList.length) :
  Discards cache (RsMemCache.discardLru n cache) n
  := by
  induction n generalizing cache with
  | zero => exact ⟨h, rfl, rfl, fun _ _ hget => hget⟩
  | succ n ih =>
    rw [RsMemCache.discardLru]
    cases hlist : cache.mLruMap.toList with
    | nil =>
      rw [hlist] at hn
      cases hn
    | cons e rest =>
      obtain ⟨ts, key⟩ := e
      have hmem : (ts, key) ∈ stamps cache.mDataMap := by
        apply h.lru.subset
        rw [hlist]
        apply List.mem_cons_self
      obtain ⟨e, hget, rfl⟩ := mem_stamps.1 hmem
      simp only [hget]
      have htail : cache.mLruMap.tail.toList = rest := by
        change cache.mLruMap.toList.tail = rest
        rw [hlist, List.tail_cons]
      have hlru := h.lru.trans (stamps_perm hget)
      rw [hlist] at hlru
      have hstep : InStep
          { cache with
            mDataMap := cache.mDataMap.erase key
            mLruMap := cache.mLruMap.tail
            mDataCount := cache.mDataCount - 1 } := by
        apply h.remove hget rfl rfl
        rw [htail]
        exact hlru.cons_inv
      have hrest := ih hstep (by
        rw [hlist] at hn
        change n ≤ cache.mLruMap.tail.toList.length
        rw [htail]
        exact Nat.le_of_succ_le_succ hn)
      refine ⟨hrest.in_step, ?_, hrest.max_size, ?_⟩
      · rw [hrest.lru]
        change cache.mLruMap.tail.toList.drop n = _
        rw [htail, hlist, List.drop_succ_cons]
      · intro key' e' hget'
        exact OrdMap.get?_of_get?_erase (hrest.keeps key' e' hget')

theorem countToClear_toNat (h : cache.InStep) (hcountable : cache.Countable) :
  cache.countToClear.toNat = cache.mDataMap.toList.length - cache.mMaxSize.toNat
  := by
  rw [countToClear, ← h.data_count]
  rw [Countable, ← h.data_count] at hcountable
  split
  · rename_i hlt
    have hle := UInt32.le_of_lt hlt
    have hsub := UInt32.toNat_sub_of_le _ _ hle
    have hint : (cache.mDataCount - cache.mMaxSize).toInt32.toInt =
        (cache.mDataCount - cache.mMaxSize).toNat := by
      apply BitVec.toInt_eq_toNat_of_lt
      change 2 * (cache.mDataCount - cache.mMaxSize).toNat < 2 ^ 32
      omega
    rw [hint, Int.toNat_natCast, hsub]
  · rename_i hle
    rw [UInt32.lt_iff_toNat_lt, not_lt] at hle
    rw [Nat.sub_eq_zero_of_le hle]
    rfl

/-- What `resize` leaves, when the entries can be counted. -/
theorem InStep.resize (h : cache.InStep) (hcountable : cache.Countable) :
  Discards cache cache.resize (cache.mDataMap.toList.length - cache.mMaxSize.toNat)
  := by
  rw [RsMemCache.resize, countToClear_toNat h hcountable]
  apply h.discardLru
  rw [← h.lru_count, ← h.data_count]
  apply Nat.sub_le

namespace Discards

variable {cache' : RsMemCache κ ν} {n : Nat}

theorem length_le (h : Discards cache cache' n)
    (hn : n = cache.mDataMap.toList.length - cache.mMaxSize.toNat) (hcache : cache.InStep) :
  cache'.mDataMap.toList.length ≤ cache.mMaxSize.toNat
  := by
  have hlength := h.in_step.lru_count
  rw [h.in_step.data_count, h.lru, List.length_drop, ← hcache.lru_count,
    hcache.data_count] at hlength
  omega

/-- The time stamp of an entry that is dropped is not later than that of one that is kept. -/
theorem ts_le (h : Discards cache cache' n) (hcache : cache.InStep) {dropped kept : κ}
    {e e' : CacheData ν} (hbefore : cache.mDataMap.get? dropped = some e)
    (hafter : cache'.mDataMap.get? dropped = none) (hkept : cache'.mDataMap.get? kept = some e') :
  e.ts ≤ e'.ts
  := by
  have hin : (e.ts, dropped) ∈ cache.mLruMap.toList :=
    hcache.lru.symm.subset (mem_stamps.2 ⟨e, hbefore, rfl⟩)
  have hout : (e.ts, dropped) ∉ cache.mLruMap.toList.drop n := by
    intro hmem
    rw [← h.lru] at hmem
    obtain ⟨e'', hget, -⟩ := mem_stamps.1 (h.in_step.lru.subset hmem)
    rw [hafter] at hget
    cases hget
  have hrest : (e'.ts, kept) ∈ cache.mLruMap.toList.drop n := by
    rw [← h.lru]
    exact h.in_step.lru.symm.subset (mem_stamps.2 ⟨e', hkept, rfl⟩)
  have hsorted := cache.mLruMap.sorted
  rw [← List.take_append_drop n cache.mLruMap.toList] at hin hsorted
  have htake := (List.mem_append.1 hin).resolve_right hout
  exact (List.pairwise_append.1 hsorted).2.2 _ htake _ hrest

end Discards

end RsMemCache

namespace Watched

variable (w : Watched κ ν)

/-- A `resize` leaves at most `mMaxSize` entries, as they were, and drops only entries whose last
access is not later than that of any entry that it keeps. -/
def DiscardsLeastRecent : RsMemCache.Input κ ν → Prop
  | .resize =>
      w.cache.resize.mDataMap.toList.length ≤ w.cache.mMaxSize.toNat ∧
        (∀ key e, w.cache.resize.mDataMap.get? key = some e →
          w.cache.mDataMap.get? key = some e) ∧
        ∀ dropped kept, (w.cache.mDataMap.get? dropped).isSome →
          w.cache.resize.mDataMap.get? dropped = none →
          (w.cache.resize.mDataMap.get? kept).isSome →
          w.lastAccess dropped ≤ w.lastAccess kept
  | _ => True

/-- A call leaves the cache in step, and drops the least recent entries. -/
def Sound [Inhabited ν] (w : Watched κ ν) (input : RsMemCache.Input κ ν) : Prop :=
  (machine.next w input).cache.InStep ∧ w.DiscardsLeastRecent input

/-- The call uses no time stamp `0`, and the entries can be counted by an `int`. -/
def Stamped (input : RsMemCache.Input κ ν) : Prop :=
  ¬w.cache.UsesUnstamped input ∧ w.cache.Countable

instance decidableStamped (input : RsMemCache.Input κ ν) : Decidable (w.Stamped input) :=
  inferInstanceAs (Decidable (_ ∧ _))

/-- The clock is positive and does not go back. -/
structure Clocked (inputs : List (RsMemCache.Input κ ν)) : Prop where
  pos : ∀ input ∈ inputs, ∀ access ∈ input.access?, 0 < access.2
  mono : (inputs.filterMap RsMemCache.Input.access?).Pairwise fun a b => a.2 ≤ b.2

/-- The cache is in step, and the time stamps are those of the last accesses or `0`. -/
structure Kept : Prop where
  in_step : w.cache.InStep
  ts : ∀ key e, w.cache.mDataMap.get? key = some e → e.ts ≠ 0 → e.ts = w.lastAccess key

variable {w} {key : κ} {now : Int} {input : RsMemCache.Input κ ν}

theorem kept_new (max_size : UInt32) :
  (new max_size : Watched κ ν).Kept
  := by
  constructor
  · apply RsMemCache.InStep.mk'
    · apply List.Perm.nil
    · rfl
  · rintro key e ⟨⟩

/-- The key of a call gets an entry. -/
theorem Kept.insert (h : w.Kept) {cache' : RsMemCache κ ν} (e : CacheData ν) (hstep : cache'.InStep)
    (hmap : cache'.mDataMap = w.cache.mDataMap.insert key e) (he : e.ts ≠ 0 → e.ts = now) :
  Kept ⟨cache', Function.update w.lastAccess key now⟩
  := by
  refine ⟨hstep, ?_⟩
  intro key' e' hget hne
  change cache'.mDataMap.get? key' = some e' at hget
  rw [hmap, OrdMap.get?_insert] at hget
  by_cases hkey : key' = key
  · rw [if_pos hkey] at hget
    cases hget
    subst hkey
    rw [he hne]
    exact (Function.update_self key' now w.lastAccess).symm
  · rw [if_neg hkey] at hget
    rw [h.ts key' e' hget hne]
    exact (Function.update_of_ne hkey now w.lastAccess).symm

/-- A key without an entry is accessed. -/
theorem Kept.miss (h : w.Kept) (hget : w.cache.mDataMap.get? key = none) :
  Kept ⟨w.cache, Function.update w.lastAccess key now⟩
  := by
  refine ⟨h.in_step, ?_⟩
  intro key' e' hget' hne
  change w.cache.mDataMap.get? key' = some e' at hget'
  have hkey : key' ≠ key := by
    rintro rfl
    rw [hget] at hget'
    cases hget'
  rw [h.ts key' e' hget' hne]
  exact (Function.update_of_ne hkey now w.lastAccess).symm

theorem Kept.erase (h : w.Kept) {e : CacheData ν} (hget : w.cache.mDataMap.get? key = some e)
    (hne : e.ts ≠ 0) :
  Kept ⟨(w.cache.erase key).1, w.lastAccess⟩
  := by
  rw [RsMemCache.erase, hget]
  constructor
  · apply h.in_step.remove hget
    · apply RsMemCache.updateLruMap_mDataMap
    · simp only [RsMemCache.updateLruMap_mDataCount]
    · apply RsMemCache.updateLruMap_remove _ hne
      exact h.in_step.lru.trans (RsMemCache.stamps_perm hget)
  · intro key' e' hget'
    apply h.ts key' e'
    apply OrdMap.get?_of_get?_erase
    simpa using hget'

/-- A call that uses no time stamp `0` keeps the time stamps. -/
theorem Kept.next [Inhabited ν] (h : w.Kept) (hpos : ∀ access ∈ input.access?, 0 < access.2)
    (hstamped : w.Stamped input) :
  (machine.next w input).Kept
  := by
  obtain ⟨huses, hcountable⟩ := hstamped
  cases input with
  | fetch key now =>
    change Kept ⟨(w.cache.fetch key now).1, Function.update w.lastAccess key now⟩
    rw [RsMemCache.fetch]
    cases hget : w.cache.mDataMap.get? key with
    | none => exact h.miss hget
    | some e =>
      have hne : e.ts ≠ 0 := RsMemCache.ts_ne_zero huses hget
      have hnow : now ≠ 0 := (hpos (key, now) rfl).ne'
      exact h.insert { e with ts := now } (h.in_step.move hget hne hnow)
        (RsMemCache.updateLruMap_mDataMap key e.ts now) fun _ => rfl
  | erase key =>
    change Kept ⟨(w.cache.erase key).1, w.lastAccess⟩
    cases hget : w.cache.mDataMap.get? key with
    | none =>
      rw [RsMemCache.erase, hget]
      exact h
    | some e => exact h.erase hget (RsMemCache.ts_ne_zero huses hget)
  | ref key now =>
    change Kept ⟨(w.cache.ref key now).1, Function.update w.lastAccess key now⟩
    rw [RsMemCache.ref]
    cases hget : w.cache.mDataMap.get? key with
    | none =>
      exact h.insert ⟨default, 0⟩ (h.in_step.add _ hget hcountable)
        (RsMemCache.updateLruMap_mDataMap key 0 0) fun hne => absurd rfl hne
    | some e =>
      have hne : e.ts ≠ 0 := RsMemCache.ts_ne_zero huses hget
      have hnow : now ≠ 0 := (hpos (key, now) rfl).ne'
      exact h.insert { e with ts := now } (h.in_step.move hget hne hnow)
        (RsMemCache.updateLruMap_mDataMap key e.ts now) fun _ => rfl
  | store key data now =>
    change Kept ⟨w.cache.store key data now, Function.update w.lastAccess key now⟩
    rw [RsMemCache.store]
    cases hget : w.cache.mDataMap.get? key with
    | none =>
      exact h.insert ⟨data, now⟩ (h.in_step.add _ hget hcountable)
        (RsMemCache.updateLruMap_mDataMap key 0 now) fun _ => rfl
    | some e =>
      have hne : e.ts ≠ 0 := RsMemCache.ts_ne_zero huses hget
      have hnow : now ≠ 0 := (hpos (key, now) rfl).ne'
      exact h.insert ⟨data, now⟩ (h.in_step.move hget hne hnow)
        (RsMemCache.updateLruMap_mDataMap key e.ts now) fun _ => rfl
  | resize =>
    have hresize := h.in_step.resize hcountable
    exact ⟨hresize.in_step, fun key e hget => h.ts key e (hresize.keeps key e hget)⟩

theorem Kept.discardsLeastRecent (h : w.Kept) (hstamped : w.Stamped input) :
  w.DiscardsLeastRecent input
  := by
  cases input with
  | resize =>
    obtain ⟨huses, hcountable⟩ := hstamped
    have hresize := h.in_step.resize hcountable
    refine ⟨hresize.length_le rfl h.in_step, hresize.keeps, ?_⟩
    intro dropped kept hbefore hafter hkept
    obtain ⟨e, hbefore⟩ := Option.isSome_iff_exists.1 hbefore
    obtain ⟨e', hkept⟩ := Option.isSome_iff_exists.1 hkept
    have hmany : w.cache.mMaxSize < w.cache.mDataCount := by
      by_contra hfew
      have hsame : w.cache.resize = w.cache := by
        rw [RsMemCache.resize, RsMemCache.countToClear, if_neg hfew]
        rfl
      rw [hsame, hbefore] at hafter
      cases hafter
    have hstamp : ∀ key e, w.cache.mDataMap.get? key = some e → e.ts ≠ 0 := by
      intro key e hget hzero
      exact huses ⟨hmany, (key, e), OrdMap.mem_toList.2 hget, hzero⟩
    have hbefore' := hresize.keeps kept e' hkept
    rw [← h.ts dropped e hbefore (hstamp dropped e hbefore),
      ← h.ts kept e' hbefore' (hstamp kept e' hbefore')]
    exact hresize.ts_le h.in_step hbefore hafter hkept
  | _ => trivial

/-- In a run with a positive clock that uses no time stamp `0`, every call leaves the cache in step
and drops the least recent entries. -/
theorem sound_run [Inhabited ν] (max_size : UInt32) {inputs : List (RsMemCache.Input κ ν)}
    (hclock : Clocked inputs) (hstamped : machine.Along Stamped (new max_size) inputs) :
  machine.Along Sound (new max_size) inputs
  := by
  have hclocked := Machine.along_of_forall_mem (m := machine) hclock.pos (new max_size)
  have hboth := hclocked.and hstamped
  apply Machine.along_of_step _ (kept_new max_size) hboth
  rintro w input h ⟨hinput, hstamped⟩
  have hnext := h.next hinput hstamped
  exact ⟨⟨hnext.in_step, h.discardsLeastRecent hstamped⟩, hnext⟩

/-- Entries that `store` and `ref` add. -/
theorem sound_run_storeAndRef :
  machine.Along Sound (new 1)
    [RsMemCache.Input.store 1 () 5, .store 2 () 6, .resize, .ref 3 6, .erase 2, .resize]
  := by
  apply sound_run
  · constructor
    · simp [RsMemCache.Input.access?]
    · decide
  · decide

/-- An entry that `ref` adds is fetched. -/
theorem not_sound_fetchAfterRef :
  ¬∀ (max_size : UInt32) (inputs : List (RsMemCache.Input Nat Unit)),
    Clocked inputs → machine.Along Sound (new max_size) inputs
  := by
  intro h
  have hclock : Clocked [(.ref 1 5 : RsMemCache.Input Nat Unit), .fetch 1 6] := by
    constructor
    · simp [RsMemCache.Input.access?]
    · decide
  have hsound := h 100 [.ref 1 5, .fetch 1 6] hclock
  have hcount := hsound.2.1.1.lru_count
  revert hcount
  decide

end Watched

end Util
