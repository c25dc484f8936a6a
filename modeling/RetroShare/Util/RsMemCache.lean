import RetroShare.Lib.Machine
import RetroShare.Lib.MultiMap
import RetroShare.Lib.OrdMap

/-!
# Memory caches

`RsMemCache` of `rsmemcache.h`, without its statistics.  The time is an input of every call that
reads the clock.
-/

universe u v

namespace Util

/-- `cache_data`. -/
structure CacheData (ν : Type v) where
  data : ν
  ts : Int

/-- `RsMemCache`. -/
structure RsMemCache (κ : Type u) (ν : Type v) [LinearOrder κ] where
  mDataMap : OrdMap κ (CacheData ν)
  mLruMap : MultiMap Int κ
  mDataCount : UInt32
  mMaxSize : UInt32

namespace RsMemCache

variable {κ : Type u} {ν : Type v} [LinearOrder κ] (cache : RsMemCache κ ν)

/-- The constructor. -/
def new (max_size : UInt32) : RsMemCache κ ν where
  mDataMap := .empty
  mLruMap := .empty
  mDataCount := 0
  mMaxSize := max_size

/-- `update_lrumap`.  A time of `0` stands for no entry. -/
def updateLruMap (key : κ) (old_ts new_ts : Int) : RsMemCache κ ν :=
  if old_ts = 0 then { cache with mLruMap := cache.mLruMap.insert new_ts key }
  else if (old_ts, key) ∈ cache.mLruMap.toList then
    let mLruMap := cache.mLruMap.erase old_ts key
    if new_ts = 0 then { cache with mLruMap := mLruMap }
    else { cache with mLruMap := mLruMap.insert new_ts key }
  else cache

/-- `fetch`. -/
def fetch (key : κ) (now : Int) : RsMemCache κ ν × Option ν :=
  match cache.mDataMap.get? key with
  | none => (cache, none)
  | some e =>
      let cache := { cache with mDataMap := cache.mDataMap.insert key { e with ts := now } }
      (cache.updateLruMap key e.ts now, some e.data)

/-- `erase`. -/
def erase (key : κ) : RsMemCache κ ν × Bool :=
  match cache.mDataMap.get? key with
  | none => (cache, false)
  | some e =>
      let cache := { cache with mDataMap := cache.mDataMap.erase key }
      let cache := cache.updateLruMap key e.ts 0
      ({ cache with mDataCount := cache.mDataCount - 1 }, true)

/-- `ref`, with the data that the reference is to. -/
def ref [Inhabited ν] (key : κ) (now : Int) : RsMemCache κ ν × ν :=
  match cache.mDataMap.get? key with
  | none =>
      let cache :=
        { cache with
          mDataMap := cache.mDataMap.insert key ⟨default, 0⟩
          mDataCount := cache.mDataCount + 1 }
      (cache.updateLruMap key 0 0, default)
  | some e =>
      let cache := { cache with mDataMap := cache.mDataMap.insert key { e with ts := now } }
      (cache.updateLruMap key e.ts now, e.data)

/-- `store`. -/
def store (key : κ) (data : ν) (now : Int) : RsMemCache κ ν :=
  match cache.mDataMap.get? key with
  | none =>
      let cache :=
        { cache with
          mDataMap := cache.mDataMap.insert key ⟨data, now⟩
          mDataCount := cache.mDataCount + 1 }
      cache.updateLruMap key 0 now
  | some e =>
      let cache := { cache with mDataMap := cache.mDataMap.insert key ⟨data, now⟩ }
      cache.updateLruMap key e.ts now

/-- `discard_LRU`. -/
def discardLru : Nat → RsMemCache κ ν → RsMemCache κ ν
  | 0, cache => cache
  | count_to_clear + 1, cache =>
      match cache.mLruMap.toList with
      | [] => cache
      | (_, key) :: _ =>
          let cache := { cache with mLruMap := cache.mLruMap.tail }
          match cache.mDataMap.get? key with
          | none => cache
          | some _ =>
              discardLru count_to_clear
                { cache with
                  mDataMap := cache.mDataMap.erase key
                  mDataCount := cache.mDataCount - 1 }

/-- What `resize` clears, which is an `int`. -/
def countToClear : Int :=
  if cache.mMaxSize < cache.mDataCount then (cache.mDataCount - cache.mMaxSize).toInt32.toInt
  else 0

/-- `resize`. -/
def resize : RsMemCache κ ν := discardLru cache.countToClear.toNat cache

/-- A call. -/
inductive Input (κ : Type u) (ν : Type v) where
  | fetch (key : κ) (now : Int)
  | erase (key : κ)
  | ref (key : κ) (now : Int)
  | store (key : κ) (data : ν) (now : Int)
  | resize

/-- What a call leaves. -/
def apply [Inhabited ν] : Input κ ν → RsMemCache κ ν
  | .fetch key now => (cache.fetch key now).1
  | .erase key => (cache.erase key).1
  | .ref key now => (cache.ref key now).1
  | .store key data now => cache.store key data now
  | .resize => cache.resize

/-- The key that a call accesses, and when. -/
def Input.access? : Input κ ν → Option (κ × Int)
  | .fetch key now => some (key, now)
  | .ref key now => some (key, now)
  | .store key _ now => some (key, now)
  | _ => none

end RsMemCache

/-- A cache together with the times at which its keys were accessed last. -/
structure Watched (κ : Type u) (ν : Type v) [LinearOrder κ] where
  cache : RsMemCache κ ν
  lastAccess : κ → Int

namespace Watched

variable {κ : Type u} {ν : Type v} [LinearOrder κ]

/-- A new cache. -/
def new (max_size : UInt32) : Watched κ ν where
  cache := .new max_size
  lastAccess _ := 0

/-- The accesses after a call. -/
def accessed (w : Watched κ ν) (input : RsMemCache.Input κ ν) : κ → Int :=
  match input.access? with
  | none => w.lastAccess
  | some (key, now) => Function.update w.lastAccess key now

/-- The cache as a machine. -/
def machine [Inhabited ν] : Machine (Watched κ ν) (RsMemCache.Input κ ν) Empty where
  step w input := (⟨w.cache.apply input, w.accessed input⟩, [])

end Watched

end Util
