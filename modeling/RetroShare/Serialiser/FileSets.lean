import RetroShare.Serialiser.Containers

/-!
# File sets

The encoders of `rstlvfileitem.cc` and of `rstlvidset.h`.  A file set that `SetTlv` writes is read
back by `GetTlv`, whatever follows it, unless it ends so near the end of the 32-bit offsets that the
guard of a loop wraps around: `RsTlvFileSet.roundTrips_iff`.
-/

namespace Serialiser

open Decoder Encoder
open GRouter (setRaw HasBytes hasBytes_append)

/-! ### Encoders -/

/-- `t_RsTlvIdSet::TlvSize`, of ids of `n` bytes. -/
def IdSet.tlvSize (n : Nat) (ids : IdSet) : Nat := (n * ids.toList.length + tlvHeaderSize) % 2 ^ 32

/-- `t_RsTlvIdSet::SetTlv`. -/
def IdSet.setTlv (n type : Nat) (ids : IdSet) (size : Nat) : Encoder := fun data offset =>
  let tlvsize := ids.tlvSize n
  let tlvend := add32 offset tlvsize
  if size < tlvend then
    failed data offset
  else
    whileOk (setTlvBase tlvend type tlvsize ::
      ids.toList.map fun id => serialiseId tlvend id.2) data offset

/-- `RsTlvFileItem::TlvSize`. -/
def RsTlvFileItem.tlvSize (self : RsTlvFileItem) : Nat :=
  sum32 [
    tlvHeaderSize,
    8,
    sha1Size,
    if 0 < self.name.length then getTlvStringSize self.name else 0,
    if 0 < self.path.length then getTlvStringSize self.path else 0,
    if self.pop ≠ 0 then getTlvUInt32Size else 0,
    if self.age ≠ 0 then getTlvUInt32Size else 0,
    if self.piecesize ≠ 0 then getTlvUInt32Size else 0,
    if self.hashset.toList.length ≠ 0 then self.hashset.tlvSize sha1Size else 0]

/-- `RsTlvFileItem::SetTlv`. -/
def RsTlvFileItem.setTlv (self : RsTlvFileItem) (size : Nat) : Encoder :=
  Serialiser.setTlv size self.tlvSize tlvTypeFileitem fun tlvend => all [
    setRawUInt64 tlvend self.filesize,
    serialiseId tlvend self.hash,
    writeIf (0 < self.name.length) (setTlvString tlvend tlvTypeStrName self.name),
    writeIf (0 < self.path.length) (setTlvString tlvend tlvTypeStrPath self.path),
    writeIf (self.pop ≠ 0) (setTlvUInt32 tlvend tlvTypeUInt32Pop self.pop),
    writeIf (self.age ≠ 0) (setTlvUInt32 tlvend tlvTypeUInt32Age self.age),
    writeIf (self.piecesize ≠ 0) (setTlvUInt32 tlvend tlvTypeUInt32Size self.piecesize),
    writeIf (self.hashset.toList.length ≠ 0) (self.hashset.setTlv sha1Size tlvTypeHashset tlvend)]

/-- `RsTlvFileSet::TlvSize`. -/
def RsTlvFileSet.tlvSize (self : RsTlvFileSet) : Nat :=
  sum32 (tlvHeaderSize :: (self.items.map RsTlvFileItem.tlvSize ++ [
    if 0 < self.title.length then getTlvStringSize self.title else 0,
    if 0 < self.comment.length then getTlvStringSize self.comment else 0]))

/-- The loop of `RsTlvFileSet::SetTlv`: the items have room up to the end of the buffer, and the
first one that is not written ends the function. -/
def RsTlvFileSet.setItems (size : Nat) : Bool → List RsTlvFileItem → Encoder
  | ok, [], data, offset => ⟨ok, data, offset⟩
  | ok, item :: items, data, offset =>
      let r := item.setTlv size data offset
      if ok && r.ok then setItems size true items r.data r.offset
      else ⟨false, r.data, r.offset⟩

/-- `RsTlvFileSet::SetTlv`. -/
def RsTlvFileSet.setTlv (self : RsTlvFileSet) (size : Nat) : Encoder := fun data offset =>
  let tlvsize := self.tlvSize
  let tlvend := add32 offset tlvsize
  if size < tlvend then
    failed data offset
  else
    let base := setTlvBase tlvend tlvTypeFileset tlvsize data offset
    let r := setItems size base.ok self.items base.data base.offset
    if r.ok || self.items.isEmpty then
      let rest := all [
        writeIf (0 < self.title.length) (setTlvString tlvend tlvTypeStrTitle self.title),
        writeIf (0 < self.comment.length) (setTlvString tlvend tlvTypeStrComment self.comment)]
        r.data r.offset
      ⟨r.ok && rest.ok, rest.data, rest.offset⟩
    else
      r

/-! ### Values -/

/-- A set of ids of `n` bytes. -/
def IdSet.Valid (n : Nat) (ids : IdSet) : Prop :=
  ∀ id ∈ ids.toList, id.2.length = n ∧ idValue id.2 = id.1

/-- The values that a file item can have. -/
structure RsTlvFileItem.Valid (item : RsTlvFileItem) : Prop where
  filesize : item.filesize < 2 ^ 64
  hash : item.hash.length = sha1Size
  pop : item.pop < 2 ^ 32
  age : item.age < 2 ^ 32
  piecesize : item.piecesize < 2 ^ 32
  hashset : item.hashset.Valid sha1Size

/-- `GetTlvString` does not change the strings of a file item. -/
structure RsTlvFileItem.Unchanged (item : RsTlvFileItem) : Prop where
  name : sanitise tlvTypeStrName item.name = item.name
  path : sanitise tlvTypeStrPath item.path = item.path

/-- `GetTlvString` does not change the strings of a file set. -/
structure RsTlvFileSet.Unchanged (set : RsTlvFileSet) : Prop where
  title : sanitise tlvTypeStrTitle set.title = set.title
  comment : sanitise tlvTypeStrComment set.comment = set.comment
  items : ∀ item ∈ set.items, item.Unchanged

/-- The bytes of the ids of a set. -/
def IdSet.content (ids : IdSet) : List UInt8 := ids.toList.flatMap Prod.snd

variable {ids : IdSet} {n : Nat} {self : RsTlvFileItem}

theorem IdSet.Valid.length_content (h : ids.Valid n) :
  ids.content.length = n * ids.toList.length
  := by
  have hsum : ∀ l : List (Nat × List UInt8), (∀ id ∈ l, id.2.length = n) →
      (l.flatMap Prod.snd).length = n * l.length := by
    intro l
    induction l with
    | nil => simp
    | cons id l ih =>
      intro hl
      rw [List.forall_mem_cons] at hl
      rw [List.flatMap_cons, List.length_append, ih hl.2, hl.1, List.length_cons, Nat.mul_succ,
        Nat.add_comm]
  exact hsum ids.toList fun id hid => (h id hid).1

/-! ### What is written -/

theorem IdSet.writes_setTlv (h : ids.Valid n) (type size p : Nat)
    (hroom : p + (tlvBytes type ids.content).length ≤ size) (hsize : size < 2 ^ 32) :
  Writes (ids.setTlv n type size) p (tlvBytes type ids.content)
  := by
  have hlength := h.length_content
  rw [length_tlvBytes] at hroom
  have htlvsize : ids.tlvSize n = tlvHeaderSize + ids.content.length := by
    rw [tlvSize, ← hlength, Nat.add_comm, Nat.mod_eq_of_lt (by omega)]
  have hend : add32 p (tlvHeaderSize + ids.content.length) =
      p + (tlvHeaderSize + ids.content.length) := add32_eq_of_le hroom hsize
  have hbase : Writes (setTlvBase (p + (tlvHeaderSize + ids.content.length)) type
      (tlvHeaderSize + ids.content.length)) p
      (GRouter.setTlvBase type (tlvHeaderSize + ids.content.length)) := by
    apply writes_setBytes
    · rw [length_setTlvBase]
      omega
    · omega
  have hids : ∀ (l : List (Nat × List UInt8)) (q : Nat),
      q + (l.flatMap Prod.snd).length ≤ p + (tlvHeaderSize + ids.content.length) →
      Writes (whileOk (l.map fun id =>
        serialiseId (p + (tlvHeaderSize + ids.content.length)) id.2)) q (l.flatMap Prod.snd) := by
    intro l
    induction l with
    | nil =>
      intro q _
      apply writes_whileOk_nil
    | cons id l ih =>
      intro q hq
      rw [List.flatMap_cons, List.length_append] at hq
      apply Writes.cons_whileOk
      · apply writes_setBytes <;> omega
      · apply ih
        omega
  intro data
  rw [IdSet.setTlv]
  simp only [htlvsize, hend]
  rw [if_neg (by omega)]
  apply hbase.cons_whileOk
  apply hids
  rw [length_setTlvBase, IdSet.content]
  omega

/-- `t_RsTlvIdSet::SetTlv`, as a part. -/
def Part32.idSet (n type : Nat) (ids : IdSet) (h : ids.Valid n) : Part32 where
  bytes := tlvBytes type ids.content
  set := ids.setTlv n type
  writes := IdSet.writes_setTlv h type

/-- The content of a file item. -/
def RsTlvFileItem.parts (self : RsTlvFileItem) (h : self.Valid) : List Part32 := [
  .uInt64 self.filesize,
  .id self.hash,
  .writeIf (0 < self.name.length) (.string tlvTypeStrName self.name),
  .writeIf (0 < self.path.length) (.string tlvTypeStrPath self.path),
  .writeIf (self.pop ≠ 0) (.tlvUInt32 tlvTypeUInt32Pop self.pop),
  .writeIf (self.age ≠ 0) (.tlvUInt32 tlvTypeUInt32Age self.age),
  .writeIf (self.piecesize ≠ 0) (.tlvUInt32 tlvTypeUInt32Size self.piecesize),
  .writeIf (self.hashset.toList.length ≠ 0) (.idSet sha1Size tlvTypeHashset self.hashset h.hashset)]

theorem hasSize_idSet (h : ids.Valid n) (type : Nat) :
  (Part32.idSet n type ids h).HasSize (ids.tlvSize n)
  := by
  have hlength := h.length_content
  rw [Part32.HasSize, IdSet.tlvSize, ← hlength]
  simp only [Part32.idSet, length_tlvBytes]
  omega

theorem RsTlvFileItem.tlvSize_eq (h : self.Valid) :
  self.tlvSize = (tlvHeaderSize + (Component.bytesOf (self.parts h)).length) % 2 ^ 32
  := by
  apply sum32_eq_of_hasSize
  apply List.Forall₂.cons
  · rw [Part32.HasSize, Part32.bytes_uInt64, GRouter.length_setRaw]
  apply List.Forall₂.cons
  · rw [Part32.HasSize, Part32.bytes_id, h.hash]
  apply List.Forall₂.cons (hasSize_string _ _).writeIf
  apply List.Forall₂.cons (hasSize_string _ _).writeIf
  apply List.Forall₂.cons (hasSize_tlvUInt32 _ _).writeIf
  apply List.Forall₂.cons (hasSize_tlvUInt32 _ _).writeIf
  apply List.Forall₂.cons (hasSize_tlvUInt32 _ _).writeIf
  apply List.Forall₂.cons (hasSize_idSet h.hashset _).writeIf
  exact List.Forall₂.nil

theorem RsTlvFileItem.writes_setTlv (h : self.Valid) (size p : Nat)
    (hroom : p + (tlvBytes tlvTypeFileitem (Component.bytesOf (self.parts h))).length ≤ size)
    (hsize : size < 2 ^ 32) :
  Writes (self.setTlv size) p (tlvBytes tlvTypeFileitem (Component.bytesOf (self.parts h)))
  := by
  rw [length_tlvBytes] at hroom
  have htlvsize : self.tlvSize = tlvHeaderSize + (Component.bytesOf (self.parts h)).length := by
    rw [tlvSize_eq h, Nat.mod_eq_of_lt (by omega)]
  apply Serialiser.writes_setTlv htlvsize (by omega) hsize
  change Writes (Component.setAll (self.parts h) _) _ _
  apply Component.writes_parts (by omega)
  omega

/-! ### Entries -/

/-- The optional sub-items of a file item. -/
def RsTlvFileItem.entries (self : RsTlvFileItem) : List (Entry RsTlvFileItem) :=
  Entry.optional (0 < self.name.length)
    (.tlv tlvTypeStrName self.name (fun v => { v with name := self.name }) fun _ => True) ++
  (Entry.optional (0 < self.path.length)
    (.tlv tlvTypeStrPath self.path (fun v => { v with path := self.path }) fun _ => True) ++
  (Entry.optional (self.pop ≠ 0)
    (.tlv tlvTypeUInt32Pop (setRaw 4 self.pop) (fun v => { v with pop := self.pop })
      fun _ => True) ++
  (Entry.optional (self.age ≠ 0)
    (.tlv tlvTypeUInt32Age (setRaw 4 self.age) (fun v => { v with age := self.age })
      fun _ => True) ++
  (Entry.optional (self.piecesize ≠ 0)
    (.tlv tlvTypeUInt32Size (setRaw 4 self.piecesize)
      (fun v => { v with piecesize := self.piecesize }) fun _ => True) ++
  Entry.optional (self.hashset.toList.length ≠ 0)
    (.tlv tlvTypeHashset self.hashset.content (fun v => { v with hashset := self.hashset })
      fun q => q + sha1Size < 2 ^ 32)))))

/-- The content of a file item. -/
def RsTlvFileItem.content (self : RsTlvFileItem) : List UInt8 :=
  setRaw 8 self.filesize ++ (self.hash ++ Entry.bytesOf self.entries)

/-- A file item, as it is written. -/
def RsTlvFileItem.toBytes (self : RsTlvFileItem) : List UInt8 :=
  tlvBytes tlvTypeFileitem self.content

/-- The ends at which a file item can be read: the guards of its loop and of the loop over its
hashes do not wrap around. -/
def RsTlvFileItem.FitsAt (self : RsTlvFileItem) (q : Nat) : Prop :=
  q + 2 < 2 ^ 32 ∧ (self.hashset.toList.length ≠ 0 → q + sha1Size < 2 ^ 32)

theorem RsTlvFileItem.bytesOf_parts (h : self.Valid) :
  Component.bytesOf (self.parts h) = self.content
  := by
  simp only [parts, content, entries, Component.bytesOf_cons, Component.bytesOf_nil,
    Part32.bytes_uInt64, Part32.bytes_id, Part32.bytes_writeIf, Part32.bytes_string,
    Part32.bytes_tlvUInt32, Part32.idSet, Entry.bytesOf_append, Entry.bytesOf_optional, Entry.tlv,
    List.append_nil]

theorem RsTlvFileItem.fitFrom_entries (self : RsTlvFileItem) (p : Nat) :
  Entry.FitFrom p self.entries ↔ (self.hashset.toList.length ≠ 0 →
    p + (Entry.bytesOf self.entries).length + sha1Size < 2 ^ 32)
  := by
  simp only [entries, Entry.fitFrom_append, Entry.fitFrom_optional, Entry.tlv, implies_true,
    true_and, Entry.bytesOf_append, Entry.bytesOf_optional, List.length_append]
  apply imp_congr_right
  intro hne
  rw [if_pos hne]
  simp only [Nat.add_assoc]

/-- A file item, in a file set. -/
def RsTlvFileItem.entry (self : RsTlvFileItem) : Entry RsTlvFileSet :=
  .tlv tlvTypeFileitem self.content (fun v => { v with items := v.items ++ [self] }) self.FitsAt

/-- The sub-items of a file set. -/
def RsTlvFileSet.entries (self : RsTlvFileSet) : List (Entry RsTlvFileSet) :=
  self.items.map RsTlvFileItem.entry ++
  (Entry.optional (0 < self.title.length)
    (.tlv tlvTypeStrTitle self.title (fun v => { v with title := self.title }) fun _ => True) ++
  Entry.optional (0 < self.comment.length)
    (.tlv tlvTypeStrComment self.comment (fun v => { v with comment := self.comment })
      fun _ => True))

/-- A file set, as it is written. -/
def RsTlvFileSet.toBytes (self : RsTlvFileSet) : List UInt8 :=
  tlvBytes tlvTypeFileset (Entry.bytesOf self.entries)

/-! ### What is read -/

section Ids

variable {data : Memory} {n tlvend type size fuel : Nat}

/-- The loop reads ids up to the end of their container, where the guard does not wrap around. -/
theorem returns_ids (hn : 0 < n) (hlast : tlvend + n < 2 ^ 32) :
  ∀ (ids : List (List UInt8)) {fuel p : Nat} (v : IdSet), (∀ id ∈ ids, id.length = n) →
    HasBytes data p ids.flatten → p + ids.flatten.length = tlvend → ids.length ≤ fuel →
    Returns (loop (fun offset => add32 offset n ≤ tlvend) (.enter .idSet) (.leave .idSet)
      (IdSet.getId data n tlvend) fuel true (true, v)) p
      (true, (true, ids.foldl IdSet.add v)) tlvend
  | [], fuel, p, v, _, _, hend, _ => by
      obtain rfl : p = tlvend := hend
      apply returns_loop_done
      rw [decide_eq_true_eq, add32, Nat.mod_eq_of_lt hlast]
      omega
  | id :: ids, 0, p, v, _, _, _, hfuel => by cases hfuel
  | id :: ids, fuel + 1, p, v, hids, hbytes, hend, hfuel => by
      rw [List.forall_mem_cons] at hids
      rw [List.flatten_cons, hasBytes_append] at hbytes
      rw [List.flatten_cons, List.length_append, ← Nat.add_assoc] at hend
      have hroom : p + id.length ≤ tlvend := by omega
      have hguard : add32 p n ≤ tlvend := by
        rw [← hids.1, add32_eq_of_le hroom (by omega)]
        exact hroom
      have hid := reads_deserialiseId hids.1 (List.replicate n 0) data tlvend p hbytes.1 hroom
        (by omega)
      have hbody : Returns (IdSet.getId data n tlvend (true, v)) p (true, (true, v.add id))
          (p + id.length) := by
        rw [IdSet.getId, if_pos rfl]
        exact hid.bind (returns_pure _ _)
      apply returns_loop_next (decide_eq_true hguard) hbody
      apply returns_ids hn hlast ids (v.add id) hids.2 hbytes.2 hend
      exact Nat.le_of_succ_le_succ hfuel

theorem foldl_add_toList (h : ids.Valid n) :
  (ids.toList.map Prod.snd).foldl IdSet.add OrdMap.empty = ids
  := by
  have hfold : ∀ (l : List (Nat × List UInt8)) (v : IdSet), (∀ id ∈ l, idValue id.2 = id.1) →
      (l.map Prod.snd).foldl IdSet.add v = l.foldl (fun v id => v.insert id.1 id.2) v := by
    intro l
    induction l with
    | nil => exact fun v _ => rfl
    | cons id l ih =>
      intro v hl
      rw [List.forall_mem_cons] at hl
      rw [List.map_cons, List.foldl_cons, List.foldl_cons, ih _ hl.2, IdSet.add, hl.1]
  rw [hfold _ _ fun id hid => (h id hid).2]
  apply OrdMap.foldl_insert_toList

/-- A set of ids is read back where the guard of the loop does not wrap around. -/
theorem returns_idSet {p : Nat} (h : ids.Valid n) (hn : 0 < n) (htype : type < 2 ^ 16)
    (hbytes : HasBytes data p (tlvBytes type ids.content))
    (hroom : p + (tlvBytes type ids.content).length ≤ size) (hsize : size < 2 ^ 32)
    (hlast : p + (tlvBytes type ids.content).length + n < 2 ^ 32) (hfuel : ids.toList.length ≤ fuel)
    (old : IdSet) :
  Returns (rsTlvIdSetGetTlv data n type fuel size old) p (true, ids)
    (p + (tlvBytes type ids.content).length)
  := by
  have hcontent : ids.content = (ids.toList.map Prod.snd).flatten := List.flatMap_def
  have hread := @returns_ids data n _ hn hlast (ids.toList.map Prod.snd) fuel
    (p + tlvHeaderSize) OrdMap.empty
    (by simpa [List.forall_mem_map] using fun id k hid => (h (k, id) hid).1)
    (by rw [← hcontent]; exact hasBytes_content hbytes)
    (by rw [← hcontent, length_tlvBytes, Nat.add_assoc]) (by rwa [List.length_map])
  rw [foldl_add_toList h] at hread
  rw [rsTlvIdSetGetTlv, returns_withTlv_iff htype hbytes hroom hsize]
  apply hread.bind
  apply (returns_here _).bind
  rw [beq_self_eq_true]
  apply returns_pure

/-- A set of ids that is read ends where the guard of the loop does not wrap around. -/
theorem add_lt_of_returns_idSet {p q : Nat} {content : List UInt8} {old w : IdSet}
    (htype : type < 2 ^ 16) (hbytes : HasBytes data p (tlvBytes type content))
    (hroom : p + (tlvBytes type content).length ≤ size) (hsize : size < 2 ^ 32) (hn : n < 2 ^ 32)
    (h : Returns (rsTlvIdSetGetTlv data n type fuel size old) p (true, w) q) :
  p + (tlvBytes type content).length + n < 2 ^ 32
  := by
  rw [rsTlvIdSetGetTlv, returns_withTlv_iff htype hbytes hroom hsize, returns_bind_iff] at h
  obtain ⟨r, q', hloop, hrest⟩ := h
  rw [returns_bind_iff_of_returns (returns_here q'), returns_pure_iff] at hrest
  have hend : q' = p + (tlvBytes type content).length := by
    simpa using (Prod.mk.inj hrest.1).1
  have hbody : ∀ v q, Post (IdSet.getId data n (p + (tlvBytes type content).length) v) q
      fun r _ => r.1 = true := by
    intro v q
    rw [IdSet.getId]
    split
    · rw [post_bind]
      exact (post_true _ q).mono fun _ _ _ => (post_pure _ _).mpr rfl
    · exact (post_pure _ _).mpr rfl
  have hguard := post_loop_not_guard hbody fuel (true, OrdMap.empty) _ r hloop.1
  rw [hloop.2, hend, decide_eq_true_eq, add32] at hguard
  omega

end Ids

section Item

variable {data : Memory} {fuel tlvend size q : Nat} {type p : Nat} {item : RsTlvFileItem}
  {r : Bool × RsTlvFileItem}

theorem Entry.readBy_fill {α β : Type} {content : List UInt8} {body : α → Dec (Bool × α)}
    (get : α → Memory → Nat → Dec (Bool × β)) (set : α → β → α) {b : β} (htype : type < 2 ^ 16)
    (hlim : tlvend < 2 ^ 32) (hreads : ∀ v, Reads (get v) (tlvBytes type content) b)
    (hbody : ∀ v p, data.be16 p = type → ∀ r q, Returns (fill (get v data tlvend) (set v)) p r q →
      Returns (body v) p r q) :
  (Entry.tlv type content (fun v => set v b) fun _ => True).ReadBy data tlvend body
  where
  reads p v hbytes hroom _ := by
    obtain ⟨haccepted, -⟩ := header_of_hasBytes htype hbytes hroom hlim
    apply hbody v p haccepted.2
    exact returns_fill_iff.mpr ⟨b, hreads v data tlvend p hbytes hroom hlim, rfl⟩
  fits _ _ _ _ _ _ _ _ := trivial

theorem Entry.readBy_string {α : Type} {s : List UInt8} {body : α → Dec (Bool × α)}
    (htype : type < 2 ^ 16) (hs : sanitise type s = s) (hlim : tlvend < 2 ^ 32)
    (old : α → List UInt8) (set : α → List UInt8 → α)
    (hbody : ∀ v p, data.be16 p = type → ∀ r q, Returns (fill (getTlvString data tlvend type (old
      v)) (set v)) p r q → Returns (body v) p r q) :
  (Entry.tlv type s (fun v => set v s) fun _ => True).ReadBy data tlvend body
  := by
  apply Entry.readBy_fill (fun v data size => getTlvString data size type (old v)) set htype hlim
  · intro v
    have hread := reads_getTlvString htype s (old v)
    rwa [hs] at hread
  · exact hbody

theorem RsTlvFileItem.returns_getOptional_iff {v : RsTlvFileItem} (htype : data.be16 p = type) :
  Returns (RsTlvFileItem.getOptional data fuel tlvend v) p r q ↔
    Returns (if type = tlvTypeStrName then
      fill (getTlvString data tlvend tlvTypeStrName v.name) fun w => { v with name := w }
    else if type = tlvTypeStrPath then
      fill (getTlvString data tlvend tlvTypeStrPath v.path) fun w => { v with path := w }
    else if type = tlvTypeUInt32Pop then
      fill (getTlvUInt32 data tlvend tlvTypeUInt32Pop v.pop) fun w => { v with pop := w }
    else if type = tlvTypeUInt32Age then
      fill (getTlvUInt32 data tlvend tlvTypeUInt32Age v.age) fun w => { v with age := w }
    else if type = tlvTypeUInt32Size then
      fill (getTlvUInt32 data tlvend tlvTypeUInt32Size v.piecesize)
        fun w => { v with piecesize := w }
    else if type = tlvTypeHashset then
      fill (rsTlvIdSetGetTlv data sha1Size tlvTypeHashset fuel tlvend v.hashset)
        fun w => { v with hashset := w }
    else
      skip data tlvend v) p r q
  := by
  subst htype
  rw [RsTlvFileItem.getOptional, returns_bind_iff_of_returns (returns_here p),
    returns_bind_iff_of_returns (GRouter.returns_getTlvType data p p)]

theorem RsTlvFileItem.readBy_tlvUInt32 {value : Nat} (htype : type < 2 ^ 16)
    (hvalue : value < 2 ^ 32) (hlim : tlvend < 2 ^ 32) (old : RsTlvFileItem → Nat)
    (set : RsTlvFileItem → Nat → RsTlvFileItem)
    (hbody : ∀ v p, data.be16 p = type → ∀ r q, Returns (fill (getTlvUInt32 data tlvend type (old
      v)) (set v)) p r q → Returns (RsTlvFileItem.getOptional data fuel tlvend v) p r q) :
  (Entry.tlv type (setRaw 4 value) (fun v => set v value) fun _ => True).ReadBy data tlvend
    (RsTlvFileItem.getOptional data fuel tlvend)
  := Entry.readBy_fill (fun v data size => getTlvUInt32 data size type (old v)) set htype hlim
    (fun v => reads_getTlvUInt32 htype hvalue (old v)) hbody

theorem RsTlvFileItem.readBy_entries (h : item.Valid) (hsame : item.Unchanged)
    (hlim : tlvend < 2 ^ 32) (hfuel : tlvend ≤ fuel) :
  ∀ e ∈ item.entries, e.ReadBy data tlvend (RsTlvFileItem.getOptional data fuel tlvend)
  := by
  intro e he
  simp only [entries, List.mem_append] at he
  rcases he with he | he | he | he | he | he <;> rw [Entry.eq_of_mem_optional he]
  case inl =>
    apply Entry.readBy_string (by decide) hsame.name hlim name fun v w => { v with name := w }
    intro v p htype r q hr
    rwa [returns_getOptional_iff htype]
  case inr.inl =>
    apply Entry.readBy_string (by decide) hsame.path hlim path fun v w => { v with path := w }
    intro v p htype r q hr
    rwa [returns_getOptional_iff htype]
  case inr.inr.inl =>
    apply readBy_tlvUInt32 (by decide) h.pop hlim pop fun v w => { v with pop := w }
    intro v p htype r q hr
    rwa [returns_getOptional_iff htype]
  case inr.inr.inr.inl =>
    apply readBy_tlvUInt32 (by decide) h.age hlim age fun v w => { v with age := w }
    intro v p htype r q hr
    rwa [returns_getOptional_iff htype]
  case inr.inr.inr.inr.inl =>
    apply readBy_tlvUInt32 (by decide) h.piecesize hlim piecesize
      fun v w => { v with piecesize := w }
    intro v p htype r q hr
    rwa [returns_getOptional_iff htype]
  case inr.inr.inr.inr.inr =>
    have hlength := h.hashset.length_content
    constructor
    case reads =>
      intro p v hbytes hroom hfits
      obtain ⟨haccepted, -⟩ := header_of_hasBytes (by decide) hbytes hroom hlim
      rw [returns_getOptional_iff haccepted.2]
      apply returns_fill_iff.mpr
      refine ⟨item.hashset, ?_, rfl⟩
      apply returns_idSet h.hashset (by decide) (by decide) hbytes hroom hlim hfits
      simp only [Entry.tlv, length_tlvBytes, hlength, sha1Size] at hroom
      omega
    case fits =>
      intro p v w q hbytes hroom _ hr
      obtain ⟨haccepted, -⟩ := header_of_hasBytes (by decide) hbytes hroom hlim
      rw [returns_getOptional_iff haccepted.2] at hr
      obtain ⟨ids, hids, -⟩ := returns_fill_iff.mp hr
      exact add_lt_of_returns_idSet (by decide) hbytes hroom hlim (by decide) hids

theorem RsTlvFileItem.returns_getOptional_of_zero (hlim : tlvend < 2 ^ 32)
    (hwrap : 2 ^ 32 ≤ tlvend + 2) (hzero : ∀ a, tlvend ≤ a → data a = 0) (v : RsTlvFileItem) :
  Returns (RsTlvFileItem.getOptional data fuel tlvend v) tlvend (true, v) tlvend
  := by
  have htype : data.be16 tlvend = 0 := by
    simp [Memory.be16, hzero]
  rw [returns_getOptional_iff htype]
  exact returns_skip_of_zero hlim hwrap hzero v

theorem RsTlvFileItem.updateAll_entries (item : RsTlvFileItem) :
  Entry.updateAll item.entries { cleared with filesize := item.filesize, hash := item.hash } = item
  := by
  obtain ⟨filesize, hash, name, path, pop, age, piecesize, hashset⟩ := item
  have hname : ¬ 0 < name.length → name = [] := by simp
  have hpath : ¬ 0 < path.length → path = [] := by simp
  have hhashset : ¬ hashset.toList.length ≠ 0 → hashset = OrdMap.empty := by
    obtain ⟨l, hl⟩ := hashset
    intro hzero
    simp only [ne_eq, not_not, List.length_eq_zero_iff] at hzero
    subst hzero
    rfl
  rw [entries]
  rw [Entry.updateAll_optional_append (w := { cleared with filesize, hash, name }) rfl]
  rw [Entry.updateAll_optional_append (w := { cleared with filesize, hash, name, path }) rfl]
  rw [Entry.updateAll_optional_append (w := { cleared with filesize, hash, name, path, pop }) rfl]
  rw [Entry.updateAll_optional_append
    (w := { cleared with filesize, hash, name, path, pop, age }) rfl]
  rw [Entry.updateAll_optional_append
    (w := { cleared with filesize, hash, name, path, pop, age, piecesize }) rfl]
  · apply Entry.updateAll_optional rfl
    intro hc
    rw [hhashset hc]
    rfl
  · intro hc
    obtain rfl : piecesize = 0 := not_not.mp hc
    rfl
  · intro hc
    obtain rfl : age = 0 := not_not.mp hc
    rfl
  · intro hc
    obtain rfl : pop = 0 := not_not.mp hc
    rfl
  · intro hc
    rw [hpath hc]
    rfl
  · intro hc
    rw [hname hc]
    rfl

theorem RsTlvFileItem.returns_getTlv_iff (h : item.Valid) (hbytes : HasBytes data p item.toBytes)
    (hroom : p + item.toBytes.length ≤ size) (hsize : size < 2 ^ 32) (old : RsTlvFileItem) :
  Returns (RsTlvFileItem.getTlv data fuel size old) p r q ↔
    q = p + item.toBytes.length ∧
      ∃ q', Returns (contentLoop .fileItem 2 (p + item.toBytes.length)
        (RsTlvFileItem.getOptional data fuel (p + item.toBytes.length)) fuel true
        { cleared with filesize := item.filesize, hash := item.hash })
        (p + item.toBytes.length - (Entry.bytesOf item.entries).length) r q'
  := by
  have hcontent := hasBytes_content hbytes
  rw [content, hasBytes_append, hasBytes_append, GRouter.length_setRaw] at hcontent
  obtain ⟨hfilesize, hhash, -⟩ := hcontent
  have hlength : item.toBytes.length =
      tlvHeaderSize + (8 + (item.hash.length + (Entry.bytesOf item.entries).length)) := by
    simp only [toBytes, content, length_tlvBytes, List.length_append, GRouter.length_setRaw]
  have hfirst := reads_getRawUInt64 h.filesize 0 data (p + item.toBytes.length) _ hfilesize
    (by rw [GRouter.length_setRaw, hlength]; omega) (by omega)
  have hsecond := reads_deserialiseId h.hash cleared.hash data (p + item.toBytes.length) _ hhash
    (by rw [hlength]; omega) (by omega)
  rw [GRouter.length_setRaw] at hfirst
  dsimp only at hfirst hsecond
  have hstart : p + tlvHeaderSize + 8 + item.hash.length =
      p + item.toBytes.length - (Entry.bytesOf item.entries).length := by
    omega
  rw [getTlv, toBytes, returns_withTlvHeader_iff (by decide) hbytes hroom hsize,
    returns_closeTlv_iff, ← toBytes]
  simp only [returns_bind_iff_of_returns hfirst, returns_bind_iff_of_returns hsecond, hstart,
    Bool.and_self]

theorem RsTlvFileItem.hasBytes_entries (hbytes : HasBytes data p item.toBytes) :
  HasBytes data (p + item.toBytes.length - (Entry.bytesOf item.entries).length)
    (Entry.bytesOf item.entries)
  := by
  have hcontent := hasBytes_content hbytes
  rw [content, ← List.append_assoc, hasBytes_append] at hcontent
  have hstart : p + tlvHeaderSize + (setRaw 8 item.filesize ++ item.hash).length =
      p + item.toBytes.length - (Entry.bytesOf item.entries).length := by
    simp only [toBytes, content, length_tlvBytes, List.length_append]
    omega
  rw [← hstart]
  exact hcontent.2

theorem RsTlvFileItem.length_entries_le (item : RsTlvFileItem) :
  (Entry.bytesOf item.entries).length ≤ item.toBytes.length
  := by
  simp only [toBytes, content, length_tlvBytes, List.length_append]
  omega

theorem RsTlvFileItem.returns_getTlv (h : item.Valid) (hsame : item.Unchanged)
    (hbytes : HasBytes data p item.toBytes) (hroom : p + item.toBytes.length ≤ size)
    (hsize : size < 2 ^ 32) (hfuel : size ≤ fuel) (hfits : item.FitsAt (p + item.toBytes.length))
    (old : RsTlvFileItem) :
  Returns (RsTlvFileItem.getTlv data fuel size old) p (true, item) (p + item.toBytes.length)
  := by
  have hle := item.length_entries_le
  have hcount := Entry.length_le item.entries
  have hloop := @Entry.returns_contentLoop _ data _ _ .fileItem hfits.1 item.entries fuel _
    { cleared with filesize := item.filesize, hash := item.hash }
    (fun e he => (readBy_entries h hsame (by omega) (hroom.trans hfuel) e he).reads)
    (hasBytes_entries hbytes) (by omega)
    (by rw [fitFrom_entries, Nat.sub_add_cancel (by omega)]; exact hfits.2) (by omega)
  rw [updateAll_entries] at hloop
  exact (returns_getTlv_iff h hbytes hroom hsize old).mpr ⟨rfl, _, hloop⟩

theorem RsTlvFileItem.fitsAt_of_returns_getTlv (h : item.Valid) (hsame : item.Unchanged)
    (hbytes : HasBytes data p item.toBytes) (hroom : p + item.toBytes.length ≤ size)
    (hsize : size < 2 ^ 32) (hfuel : size ≤ fuel)
    (hzero : 2 ^ 32 ≤ p + item.toBytes.length + 2 → ∀ a, p + item.toBytes.length ≤ a → data a = 0)
    {old w : RsTlvFileItem} (hr : Returns (RsTlvFileItem.getTlv data fuel size old) p (true, w) q) :
  item.FitsAt (p + item.toBytes.length)
  := by
  have hle := item.length_entries_le
  obtain ⟨-, q', hloop⟩ := (returns_getTlv_iff h hbytes hroom hsize old).mp hr
  obtain ⟨hlast, hfit⟩ := Entry.fits_of_returns_contentLoop (by omega) hzero
    (fun hwrap v => returns_getOptional_of_zero (by omega) hwrap (hzero hwrap) v) item.entries
    (readBy_entries h hsame (by omega) (by omega)) (hasBytes_entries hbytes) (by omega) hloop
  rw [fitFrom_entries, Nat.sub_add_cancel (by omega)] at hfit
  exact ⟨hlast, hfit⟩

end Item

/-! ### File sets -/

namespace RsTlvFileSet

/-- The items of the set can be read from `p` on: the guard of the loop over the hashes of an item
does not wrap around. -/
def ItemsFit : Nat → List RsTlvFileItem → Prop
  | _, [] => True
  | p, item :: items =>
      (item.hashset.toList.length ≠ 0 → p + item.toBytes.length + sha1Size < 2 ^ 32) ∧
        ItemsFit (p + item.toBytes.length) items

/-- The guards of the loops do not wrap around when the set lies at `p`. -/
def FitsAt (self : RsTlvFileSet) (p : Nat) : Prop :=
  p + self.toBytes.length + 2 < 2 ^ 32 ∧ ItemsFit (p + tlvHeaderSize) self.items

/-- `SetTlv` writes exactly `TlvSize()` bytes at `p` into a buffer of `size` bytes, and `GetTlv`
reads the set back from these bytes, and moves behind them, whatever else is in the buffer. -/
def RoundTrips (self : RsTlvFileSet) (size p : Nat) : Prop :=
  self.toBytes.length = self.tlvSize ∧ Writes (self.setTlv size) p self.toBytes ∧
    ∀ (data : Memory) (n : Nat) (old : RsTlvFileSet), HasBytes data p self.toBytes →
      p + self.tlvSize ≤ n → n < 2 ^ 32 →
      ∃ enough, ∀ fuel ≥ enough,
        Returns (RsTlvFileSet.getTlv data fuel n old) p (true, self) (p + self.tlvSize)

/-! ### What is written -/

variable {self : RsTlvFileSet} {size p fuel : Nat} {data : Memory}

theorem tlvSize_eq (h : ∀ item ∈ self.items, item.Valid) :
  self.tlvSize = self.toBytes.length % 2 ^ 32
  := by
  have hitems : ∀ items : List RsTlvFileItem, (∀ item ∈ items, item.Valid) →
      (items.map RsTlvFileItem.tlvSize).sum % 2 ^ 32 =
        (Entry.bytesOf (items.map RsTlvFileItem.entry)).length % 2 ^ 32 := by
    intro items
    induction items with
    | nil => exact fun _ => rfl
    | cons item items ih =>
      intro hvalid
      rw [List.forall_mem_cons] at hvalid
      have hrest := ih hvalid.2
      have hitem := RsTlvFileItem.tlvSize_eq hvalid.1
      rw [RsTlvFileItem.bytesOf_parts] at hitem
      simp only [List.map_cons, List.sum_cons, Entry.bytesOf_cons, List.length_append,
        RsTlvFileItem.entry, Entry.tlv, length_tlvBytes]
      omega
  have hstring : ∀ (type : Nat) (s : List UInt8) (update : RsTlvFileSet → RsTlvFileSet),
      (if 0 < s.length then getTlvStringSize s else 0) % 2 ^ 32 =
        (Entry.bytesOf (Entry.optional (0 < s.length)
          (Entry.tlv type s update fun _ => True))).length % 2 ^ 32 := by
    intro type s update
    rw [Entry.bytesOf_optional]
    exact (hasSize_string type s).writeIf
  have htitle := hstring tlvTypeStrTitle self.title fun v => { v with title := self.title }
  have hcomment := hstring tlvTypeStrComment self.comment
    fun v => { v with comment := self.comment }
  have hsum := hitems self.items h
  rw [tlvSize, sum32_eq, List.sum_cons, List.sum_append, toBytes, length_tlvBytes, entries,
    Entry.bytesOf_append, Entry.bytesOf_append, List.length_append, List.length_append,
    List.sum_cons, List.sum_cons, List.sum_nil]
  omega

theorem writes_setItems (hsize : size < 2 ^ 32) :
  ∀ (items : List RsTlvFileItem) (p : Nat), (∀ item ∈ items, item.Valid) →
    p + (Entry.bytesOf (items.map RsTlvFileItem.entry)).length ≤ size →
    Writes (setItems size true items) p (Entry.bytesOf (items.map RsTlvFileItem.entry))
  | [], p, _, _ => by
      intro data
      simp [setItems]
  | item :: items, p, h, hroom => by
      rw [List.forall_mem_cons] at h
      rw [List.map_cons, Entry.bytesOf_cons, List.length_append] at hroom
      have hbytes : item.entry.bytes =
          tlvBytes tlvTypeFileitem (Component.bytesOf (item.parts h.1)) := by
        rw [RsTlvFileItem.bytesOf_parts]
        rfl
      have hitem : Writes (item.setTlv size) p item.entry.bytes := by
        rw [hbytes] at hroom ⊢
        apply RsTlvFileItem.writes_setTlv h.1 size p (by omega) hsize
      have hrest := writes_setItems hsize items (p + item.entry.bytes.length) h.2 (by omega)
      intro data
      simp only [setItems, hitem data, Bool.and_self, if_true, hrest _]
      rw [List.map_cons, Entry.bytesOf_cons, Memory.store_append, List.length_append,
        Nat.add_assoc]

/-- The strings of a file set. -/
def strings (self : RsTlvFileSet) : List Part32 := [
  .writeIf (0 < self.title.length) (.string tlvTypeStrTitle self.title),
  .writeIf (0 < self.comment.length) (.string tlvTypeStrComment self.comment)]

theorem bytesOf_entries (self : RsTlvFileSet) :
  Entry.bytesOf self.entries =
    Entry.bytesOf (self.items.map RsTlvFileItem.entry) ++ Component.bytesOf self.strings
  := by
  simp only [entries, strings, Entry.bytesOf_append, Entry.bytesOf_optional, Entry.tlv,
    Component.bytesOf_cons, Component.bytesOf_nil, Part32.bytes_writeIf, Part32.bytes_string,
    List.append_nil]

theorem writes_setTlv (h : ∀ item ∈ self.items, item.Valid) (hroom : p + self.toBytes.length ≤ size)
    (hsize : size < 2 ^ 32) :
  Writes (self.setTlv size) p self.toBytes
  := by
  have hlength : self.toBytes.length = tlvHeaderSize +
      ((Entry.bytesOf (self.items.map RsTlvFileItem.entry)).length +
        (Component.bytesOf self.strings).length) := by
    rw [toBytes, length_tlvBytes, bytesOf_entries, List.length_append]
  have htlvsize : self.tlvSize = self.toBytes.length := by
    rw [tlvSize_eq h, Nat.mod_eq_of_lt (by omega)]
  have hend : add32 p self.toBytes.length = p + self.toBytes.length :=
    add32_eq_of_le hroom hsize
  have hbase : Writes (setTlvBase (p + self.toBytes.length) tlvTypeFileset self.toBytes.length) p
      (GRouter.setTlvBase tlvTypeFileset self.toBytes.length) := by
    apply writes_setBytes
    · rw [length_setTlvBase]
      omega
    · omega
  have hitems := writes_setItems hsize self.items (p + tlvHeaderSize) h (by omega)
  have hstrings : Writes (all [
      writeIf (0 < self.title.length)
        (setTlvString (p + self.toBytes.length) tlvTypeStrTitle self.title),
      writeIf (0 < self.comment.length)
        (setTlvString (p + self.toBytes.length) tlvTypeStrComment self.comment)])
      (p + tlvHeaderSize + (Entry.bytesOf (self.items.map RsTlvFileItem.entry)).length)
      (Component.bytesOf self.strings) :=
    Component.writes_parts (hroom.trans_lt hsize) self.strings _ (by omega)
  intro data
  have hbytes : self.toBytes = GRouter.setTlvBase tlvTypeFileset self.toBytes.length ++
      (Entry.bytesOf (self.items.map RsTlvFileItem.entry) ++ Component.bytesOf self.strings) := by
    rw [← bytesOf_entries, toBytes, length_tlvBytes, tlvBytes]
  simp only [setTlv, htlvsize, hend]
  rw [if_neg (by omega)]
  simp only [hbase data, length_setTlvBase, hitems _, Bool.true_or, if_true, hstrings _,
    Bool.and_self]
  generalize self.toBytes.length = len at hbytes hlength ⊢
  rw [hbytes, Memory.store_append, Memory.store_append, length_setTlvBase, hlength]
  simp only [Nat.add_assoc]

/-! ### What is read -/

section Read

variable {data : Memory} {fuel size tlvend : Nat} {r : Bool × RsTlvFileSet} {type : Nat}

theorem returns_getSub_iff {v : RsTlvFileSet} {q : Nat} (htype : data.be16 p = type) :
  Returns (RsTlvFileSet.getSub data fuel size tlvend v) p r q ↔
    Returns (if type = tlvTypeFileitem then do
      let newitem ← RsTlvFileItem.getTlv data fuel size RsTlvFileItem.cleared
      if newitem.1 then
        pure (true, { v with items := v.items ++ [newitem.2] })
      else
        pure (false, v)
    else if type = tlvTypeStrTitle then
      fill (getTlvString data tlvend tlvTypeStrTitle v.title) fun w => { v with title := w }
    else if type = tlvTypeStrComment then
      fill (getTlvString data tlvend tlvTypeStrComment v.comment)
        fun w => { v with comment := w }
    else
      skip data tlvend v) p r q
  := by
  subst htype
  rw [RsTlvFileSet.getSub, returns_bind_iff_of_returns (returns_here p),
    returns_bind_iff_of_returns (GRouter.returns_getTlvType data p p)]

theorem readBy_item {item : RsTlvFileItem} (h : item.Valid) (hsame : item.Unchanged)
    (hend : tlvend ≤ size) (hsize : size < 2 ^ 32) (hfuel : size ≤ fuel) :
  item.entry.ReadBy data tlvend (RsTlvFileSet.getSub data fuel size tlvend)
  where
  reads p v hbytes hroom hfits := by
    obtain ⟨haccepted, -⟩ := header_of_hasBytes (by decide) hbytes hroom (by omega)
    rw [returns_getSub_iff haccepted.2, if_pos rfl]
    apply (RsTlvFileItem.returns_getTlv h hsame hbytes (hroom.trans hend) hsize hfuel hfits
      _).bind
    apply returns_pure
  fits p v w q hbytes hroom hzero hr := by
    obtain ⟨haccepted, -⟩ := header_of_hasBytes (by decide) hbytes hroom (by omega)
    rw [returns_getSub_iff haccepted.2, if_pos rfl, returns_bind_iff] at hr
    obtain ⟨⟨ok, newitem⟩, q', hitem, hrest⟩ := hr
    cases ok with
    | false =>
      rw [if_neg Bool.false_ne_true, returns_pure_iff] at hrest
      cases hrest.1
    | true =>
      exact RsTlvFileItem.fitsAt_of_returns_getTlv h hsame hbytes (hroom.trans hend) hsize hfuel
        hzero hitem

theorem readBy_entries (h : ∀ item ∈ self.items, item.Valid) (hsame : self.Unchanged)
    (hend : tlvend ≤ size) (hsize : size < 2 ^ 32) (hfuel : size ≤ fuel) :
  ∀ e ∈ self.entries, e.ReadBy data tlvend (RsTlvFileSet.getSub data fuel size tlvend)
  := by
  intro e he
  simp only [entries, List.mem_append, List.mem_map] at he
  rcases he with ⟨item, hitem, rfl⟩ | he | he
  · exact readBy_item (h item hitem) (hsame.items item hitem) hend hsize hfuel
  · rw [Entry.eq_of_mem_optional he]
    apply Entry.readBy_string (by decide) hsame.title (by omega) title
      fun v w => { v with title := w }
    intro v p htype r q hr
    rwa [returns_getSub_iff htype]
  · rw [Entry.eq_of_mem_optional he]
    apply Entry.readBy_string (by decide) hsame.comment (by omega) comment
      fun v w => { v with comment := w }
    intro v p htype r q hr
    rwa [returns_getSub_iff htype]

theorem returns_getSub_of_zero (hlim : tlvend < 2 ^ 32) (hwrap : 2 ^ 32 ≤ tlvend + 2)
    (hzero : ∀ a, tlvend ≤ a → data a = 0) (v : RsTlvFileSet) :
  Returns (RsTlvFileSet.getSub data fuel size tlvend v) tlvend (true, v) tlvend
  := by
  have htype : data.be16 tlvend = 0 := by
    simp [Memory.be16, hzero]
  rw [returns_getSub_iff htype]
  exact returns_skip_of_zero hlim hwrap hzero v

/-- What is filled in is the file set. -/
theorem updateAll_entries (self : RsTlvFileSet) :
  Entry.updateAll self.entries ⟨[], [], []⟩ = self
  := by
  obtain ⟨title, comment, items⟩ := self
  have htitle : ¬ 0 < title.length → title = [] := by simp
  have hcomment : ¬ 0 < comment.length → comment = [] := by simp
  have hitems : ∀ (items : List RsTlvFileItem) (v : RsTlvFileSet),
      Entry.updateAll (items.map RsTlvFileItem.entry) v =
        { v with items := v.items ++ items } := by
    intro items
    induction items with
    | nil =>
      intro v
      rw [List.append_nil]
      rfl
    | cons item items ih =>
      intro v
      rw [List.map_cons, Entry.updateAll, List.foldl_cons, ← Entry.updateAll, ih]
      simp [RsTlvFileItem.entry, Entry.tlv]
  rw [entries, Entry.updateAll_append, hitems]
  rw [Entry.updateAll_optional_append (w := ⟨title, [], items⟩) rfl]
  · apply Entry.updateAll_optional rfl
    intro hc
    rw [hcomment hc]
    rfl
  · intro hc
    rw [htitle hc]
    rfl

theorem returns_getTlv_iff (self : RsTlvFileSet) {q : Nat} (hbytes : HasBytes data p self.toBytes)
    (hroom : p + self.toBytes.length ≤ size) (hsize : size < 2 ^ 32) (old : RsTlvFileSet) :
  Returns (RsTlvFileSet.getTlv data fuel size old) p r q ↔
    q = p + self.toBytes.length ∧
      ∃ q', Returns (contentLoop .fileSet 2 (p + self.toBytes.length)
        (RsTlvFileSet.getSub data fuel size (p + self.toBytes.length)) fuel true ⟨[], [], []⟩)
        (p + tlvHeaderSize) r q'
  := by
  rw [getTlv, toBytes, returns_withTlv_iff (by decide) hbytes hroom hsize, returns_closeTlv_iff]

end Read

/-- Where the set ends in time, only the hashes of the items matter. -/
theorem fitFrom_entries_iff (self : RsTlvFileSet) (hlast : p + self.toBytes.length + 2 < 2 ^ 32) :
  Entry.FitFrom (p + tlvHeaderSize) self.entries ↔ ItemsFit (p + tlvHeaderSize) self.items
  := by
  have hitems : ∀ (items : List RsTlvFileItem) (q : Nat),
      q + (Entry.bytesOf (items.map RsTlvFileItem.entry)).length ≤ p + self.toBytes.length →
      (Entry.FitFrom q (items.map RsTlvFileItem.entry) ↔ ItemsFit q items) := by
    intro items
    induction items with
    | nil => exact fun _ _ => Iff.rfl
    | cons item items ih =>
      intro q hq
      rw [List.map_cons, Entry.bytesOf_cons, List.length_append] at hq
      have hend : q + item.entry.bytes.length + 2 < 2 ^ 32 := by omega
      rw [List.map_cons, Entry.FitFrom, ItemsFit, ih _ (by omega)]
      apply and_congr_left
      intro _
      exact and_iff_right hend
  rw [entries, Entry.fitFrom_append, hitems, and_iff_left]
  · simp [Entry.fitFrom_append, Entry.fitFrom_optional, Entry.tlv]
  · rw [toBytes, length_tlvBytes, bytesOf_entries, List.length_append]
    omega

theorem FitsAt.returns_getTlv (hfits : self.FitsAt p) (h : ∀ item ∈ self.items, item.Valid)
    (hsame : self.Unchanged) (hbytes : HasBytes data p self.toBytes)
    (hroom : p + self.toBytes.length ≤ size) (hsize : size < 2 ^ 32) (hfuel : size ≤ fuel)
    (old : RsTlvFileSet) :
  Returns (RsTlvFileSet.getTlv data fuel size old) p (true, self) (p + self.toBytes.length)
  := by
  have hcount := Entry.length_le self.entries
  have hlength : self.toBytes.length = tlvHeaderSize + (Entry.bytesOf self.entries).length := by
    rw [toBytes, length_tlvBytes]
  have hloop := @Entry.returns_contentLoop _ data _ _ .fileSet hfits.1 self.entries fuel
    (p + tlvHeaderSize) ⟨[], [], []⟩
    (fun e he => (readBy_entries h hsame hroom hsize hfuel e he).reads)
    (hasBytes_content hbytes) (by omega) ((fitFrom_entries_iff self hfits.1).mpr hfits.2) (by omega)
  rw [updateAll_entries] at hloop
  exact (returns_getTlv_iff self hbytes hroom hsize old).mpr ⟨rfl, _, hloop⟩

theorem fitsAt_of_returns_getTlv {w : RsTlvFileSet} {q : Nat} (h : ∀ item ∈ self.items, item.Valid)
    (hsame : self.Unchanged) (hbytes : HasBytes data p self.toBytes)
    (hroom : p + self.toBytes.length ≤ size) (hsize : size < 2 ^ 32) (hfuel : size ≤ fuel)
    (hzero : ∀ a, p + self.toBytes.length ≤ a → data a = 0) {old : RsTlvFileSet}
    (hr : Returns (RsTlvFileSet.getTlv data fuel size old) p (true, w) q) :
  self.FitsAt p
  := by
  have hlength : self.toBytes.length = tlvHeaderSize + (Entry.bytesOf self.entries).length := by
    rw [toBytes, length_tlvBytes]
  obtain ⟨-, q', hloop⟩ := (returns_getTlv_iff self hbytes hroom hsize old).mp hr
  obtain ⟨hlast, hfit⟩ := Entry.fits_of_returns_contentLoop (by omega) (fun _ => hzero)
    (fun hwrap v => returns_getSub_of_zero (by omega) hwrap hzero v) self.entries
    (readBy_entries h hsame hroom hsize hfuel) (hasBytes_content hbytes) (by omega) hloop
  exact ⟨hlast, (fitFrom_entries_iff self hlast).mp hfit⟩

/-! ### Round trip -/

/-- A set that is read back whatever follows is read back when zeros follow. -/
theorem RoundTrips.fitsAt (hround : self.RoundTrips size p) (h : ∀ item ∈ self.items, item.Valid)
    (hsame : self.Unchanged) (hroom : p + self.toBytes.length ≤ size) (hsize : size < 2 ^ 32) :
  self.FitsAt p
  := by
  obtain ⟨hlength, -, hread⟩ := hround
  rw [← hlength] at hread
  have hbytes := hasBytes_store (fun _ => 0) p self.toBytes
  obtain ⟨enough, hreturns⟩ := hread _ size ⟨[], [], []⟩ hbytes hroom hsize
  apply fitsAt_of_returns_getTlv h hsame hbytes hroom hsize (le_max_right enough size)
  · intro a ha
    rw [Memory.store, if_neg (by omega)]
  · exact hreturns _ (le_max_left enough size)

/-- A file set is written by `SetTlv` into every buffer that has room for it, and read back by
`GetTlv` whatever follows it, exactly when the guards of the loops do not wrap around. -/
theorem roundTrips_iff (self : RsTlvFileSet) (size p : Nat)
    (h : ∀ item ∈ self.items, item.Valid) (hsame : self.Unchanged)
    (hroom : p + self.toBytes.length ≤ size) (hsize : size < 2 ^ 32) :
  self.RoundTrips size p ↔ self.FitsAt p
  := by
  constructor
  · intro hround
    exact hround.fitsAt h hsame hroom hsize
  · intro hfits
    have hlength : self.tlvSize = self.toBytes.length := by
      rw [tlvSize_eq h, Nat.mod_eq_of_lt (by omega)]
    refine ⟨hlength.symm, writes_setTlv h hroom hsize, ?_⟩
    intro data n old hbytes hn hlim
    rw [hlength] at hn ⊢
    refine ⟨n, ?_⟩
    intro fuel hfuel
    exact hfits.returns_getTlv h hsame hbytes hn hlim hfuel old

/-- A file of seven bytes with a name and one hash. -/
def oneFile : RsTlvFileSet where
  title := ascii "t"
  comment := []
  items := [{ RsTlvFileItem.cleared with
    filesize := 7
    name := ascii "a"
    hashset := IdSet.add OrdMap.empty (List.replicate sha1Size 1) }]

theorem oneFile_valid :
  ∀ item ∈ oneFile.items, item.Valid
  := by
  intro item hitem
  obtain rfl := List.mem_singleton.mp hitem
  constructor
  case hashset =>
    intro id hid
    obtain rfl := List.mem_singleton.mp hid
    exact ⟨rfl, rfl⟩
  all_goals decide

theorem oneFile_unchanged :
  oneFile.Unchanged
  where
  title := by decide +kernel
  comment := by decide +kernel
  items item hitem := by
    obtain rfl := List.mem_singleton.mp hitem
    exact ⟨by decide +kernel, by decide +kernel⟩

/-- The set is written behind four bytes, and read back. -/
theorem roundTrips_oneFile :
  oneFile.RoundTrips 100 4
  := by
  apply (roundTrips_iff oneFile 100 4 oneFile_valid oneFile_unchanged (by decide +kernel)
    (by decide)).mpr
  exact ⟨by decide +kernel, by decide +kernel, trivial⟩

/-- The empty set, at the end of the offsets: with zeros behind it, the loop does not end. -/
theorem not_roundTrips_empty :
  ¬ (⟨[], [], []⟩ : RsTlvFileSet).RoundTrips (2 ^ 32 - 1) (2 ^ 32 - 8)
  := by
  intro hround
  have hfits := hround.fitsAt (by simp) ⟨by decide, by decide, by simp⟩ (by decide) (by decide)
  exact absurd hfits.1 (by decide)

end RsTlvFileSet

end Serialiser
