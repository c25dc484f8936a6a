import RetroShare.Gxs.MessageFiles

/-!
# Stored messages are read back

`Sound` is the invariant of the store of messages: the rows are those of the messages that are
stored and have not been removed, the data of each lie in the file of its group at the place that
its row says, and these places follow each other in the order of the rows.  `Sound.storeOne` and
`Sound.removeOne` say that it is kept; behind the second is `moved`, what a removal makes of the
rows.  `readsBack_of_along` is about all runs.
-/

namespace Gxs.Files

open GRouter Serialiser Decoder

/-! ### Segments -/

theorem length_segment_le (file : List UInt8) (offset len : Nat) :
  (segment file offset len).length ≤ len
  := by
  rw [segment, List.length_take]
  apply Nat.min_le_left

variable {file dataBuff : List UInt8} {offset len : Nat} (mServType : UInt16)
  {store : RsDataService} {l : Ledger} (b : TlvData) {msgIdV : List RsGxsMessageId}
  {ms rows : List MsgRow} {p : RsNxsMsg × RsGxsMsgMetaData}

theorem le_of_length_segment (hlen : 0 < len) (h : (segment file offset len).length = len) :
  offset + len ≤ file.length
  := by
  rw [segment, List.length_take, List.length_drop] at h
  omega

theorem segment_append (more : List UInt8) (h : offset + len ≤ file.length) :
  segment (file ++ more) offset len = segment file offset len
  := by
  rw [segment, List.drop_append_of_le_length (by omega), List.take_append_of_le_length, segment]
  rw [List.length_drop]
  omega

theorem segment_append_length (before bytes more : List UInt8) :
  segment (before ++ (bytes ++ more)) before.length bytes.length = bytes
  := by
  rw [segment, List.drop_left, List.take_left]

/-! ### TLVs -/

@[simp]
theorem TlvData.length_setTlv :
  (b.setTlv mServType).length = b.tlvSize
  := by
  simp only [setTlv, setTlvBase, List.length_append, length_setRaw, tlvSize, tlvHeaderSize]

theorem TlvData.getTlv_setTlv :
  getTlv mServType (b.setTlv mServType) b.tlvSize = some b
  := by
  have hsize := b.size_lt
  have hbytes := hasBytes_toMemory (b.setTlv mServType)
  rw [setTlv, setTlvBase, hasBytes_append, hasBytes_append] at hbytes
  obtain ⟨⟨htype, hlen⟩, hdata⟩ := hbytes
  rw [length_setRaw] at hlen
  simp only [List.length_append, length_setRaw, Nat.zero_add, Nat.reduceAdd] at hlen hdata
  have etype : Memory.be16 (Bytes.toMemory (b.setTlv mServType)) 0 = mServType.toNat :=
    be16_of_hasBytes htype mServType.toNat_lt
  have elen : Memory.be32 (Bytes.toMemory (b.setTlv mServType)) 2 = b.tlvSize :=
    be32_of_hasBytes hlen hsize
  have hread : Memory.read (Bytes.toMemory (b.setTlv mServType)) 6
      (b.tlvSize - tlvHeaderSize) = b.binData := by
    apply read_of_hasBytes hdata
    simp only [tlvSize, Nat.add_sub_cancel_left]
  have hheader : tlvHeaderSize ≤ b.tlvSize := Nat.le_add_right _ _
  have hdecoded :
      BinaryDecoded (Bytes.toMemory (b.setTlv mServType)) mServType.toNat b.tlvSize 0 := by
    refine ⟨hheader, ⟨?_, etype⟩, ?_⟩
    · change add32 0 (Memory.be32 _ 2) ≤ _
      rw [elen, add32, Nat.zero_add]
      exact Nat.mod_le _ _
    · change _ ≤ Memory.be32 _ 2
      rwa [elen]
  have hvalue := (returns_binaryData (Bytes.toMemory (b.setTlv mServType))
    ⟨mServType.toNat, []⟩ b.tlvSize 0).1
  rw [if_pos hdecoded] at hvalue
  change _ = some (true, RsTlvBinaryData.mk mServType.toNat
    (Memory.read _ 6 (Memory.be32 _ 2 - tlvHeaderSize))) at hvalue
  rw [elen, hread] at hvalue
  rw [getTlv, hvalue]
  exact dif_pos hsize

/-! ### The loop over the messages of a group -/

/-- What the messages of `ms` that are not in `msgIdV` are updated with, when their data are written
from `base` on. -/
def relocated (msgIdV : List RsGxsMessageId) : Nat → List MsgRow → List MsgUpdate
  | _, [] => []
  | base, m :: ms =>
      if m.msgId ∈ msgIdV then relocated msgIdV base ms
      else ⟨m.msgId, base, m.nxsFileLen⟩ :: relocated msgIdV (base + m.nxsFileLen) ms

/-- The data of the messages of `ms` that are not in `msgIdV`. -/
def remaining (dataBuff : List UInt8) (msgIdV : List RsGxsMessageId) : List MsgRow → List UInt8
  | [] => []
  | m :: ms =>
      if m.msgId ∈ msgIdV then remaining dataBuff msgIdV ms
      else segment dataBuff m.fileOffset m.nxsFileLen ++ remaining dataBuff msgIdV ms

/-- The places of the messages `ms` follow each other in a file of `n` bytes, from `base` on. -/
def InOrder (n : Nat) : Nat → List MsgRow → Prop
  | base, [] => base ≤ n
  | base, m :: ms => base ≤ m.fileOffset ∧ InOrder n (m.fileOffset + m.nxsFileLen) ms

theorem InOrder.length_remaining_le {n base : Nat} (h : InOrder n base ms) :
  base + (remaining dataBuff msgIdV ms).length ≤ n
  := by
  induction ms generalizing base with
  | nil => exact h
  | cons m ms ih =>
    obtain ⟨hbase, hms⟩ := h
    have hrest := ih hms
    rw [remaining]
    split
    · omega
    · have hsegment := length_segment_le dataBuff m.fileOffset m.nxsFileLen
      rw [List.length_append]
      omega

/-- What the loop does, when the data of all messages are in the file. -/
theorem foldl_keep {c : Compaction}
    (hsegment : ∀ m ∈ ms, (segment dataBuff m.fileOffset m.nxsFileLen).length = m.nxsFileLen)
    (hoffset : c.newOffset = c.newBuffer.length)
    (hsize : (c.newBuffer ++ remaining dataBuff msgIdV ms).length < 2 ^ 32) :
  let c' := ms.foldl (Compaction.keep dataBuff msgIdV) c
  c'.newBuffer = c.newBuffer ++ remaining dataBuff msgIdV ms ∧
    c'.updates = c.updates ++ relocated msgIdV c.newOffset ms
  := by
  induction ms generalizing c with
  | nil => simp [remaining, relocated]
  | cons m ms ih =>
    have hms := fun m' hm' => hsegment m' (List.mem_cons_of_mem _ hm')
    rw [List.foldl_cons, Compaction.keep]
    rw [remaining] at hsize ⊢
    rw [relocated]
    split_ifs at hsize ⊢ with hmem
    · exact ih hms hoffset hsize
    · have hlen := hsegment m List.mem_cons_self
      rw [← List.append_assoc] at hsize
      have hadd : add32 c.newOffset m.nxsFileLen = c.newOffset + m.nxsFileLen := by
        apply Nat.mod_eq_of_lt
        rw [List.length_append, List.length_append, hlen] at hsize
        omega
      obtain ⟨hbuffer, hupdates⟩ := @ih
        ⟨c.newBuffer ++ segment dataBuff m.fileOffset m.nxsFileLen,
        add32 c.newOffset m.nxsFileLen, c.updates ++ [⟨m.msgId, c.newOffset, m.nxsFileLen⟩]⟩
        hms (by rw [hadd, List.length_append, hlen, hoffset]) hsize
      constructor
      · rw [hbuffer, List.append_assoc]
      · rw [hupdates, hadd, List.append_assoc, List.singleton_append]

/-! ### The rows after a removal -/

/-- What a removal makes of the rows: the messages of the group that remain are moved together, from
`base` on. -/
def moved (grpId : RsGxsGroupId) (msgIdV : List RsGxsMessageId) :
    Nat → List MsgRow → List MsgRow
  | _, [] => []
  | base, row :: rows =>
      if row.grpId = grpId then
        if row.msgId ∈ msgIdV then moved grpId msgIdV base rows
        else { row with fileOffset := base } :: moved grpId msgIdV (base + row.nxsFileLen) rows
      else row :: moved grpId msgIdV base rows

section Table

variable {grpId : RsGxsGroupId} {msgIdV : List RsGxsMessageId}

theorem rows_foldl_sqlUpdate (ups : List MsgUpdate) (table : MsgTable) :
  (ups.foldl (fun table up => table.sqlUpdate grpId up) table).rows =
    table.rows.map fun row => ups.foldl (MsgTable.updateRow grpId) row
  := by
  induction ups generalizing table with
  | nil => simp
  | cons up ups ih =>
    rw [List.foldl_cons, ih, MsgTable.sqlUpdate, List.map_map]
    rfl

theorem rows_foldl_sqlDelete (msgIdV : List RsGxsMessageId) (table : MsgTable) :
  (msgIdV.foldl (fun table msgId => table.sqlDelete grpId msgId) table).rows =
    table.rows.filter fun row => ¬(row.grpId = grpId ∧ row.msgId ∈ msgIdV)
  := by
  induction msgIdV generalizing table with
  | nil => simp
  | cons msgId msgIdV ih =>
    rw [List.foldl_cons, ih, MsgTable.sqlDelete, List.filter_filter]
    apply List.filter_congr
    intro row _
    simp only [List.mem_cons, Bool.decide_and, decide_not]
    grind

theorem foldl_updateRow_of_ne {ups : List MsgUpdate} {row : MsgRow}
    (h : ∀ up ∈ ups, ¬(row.grpId = grpId ∧ row.msgId = up.msgId)) :
  ups.foldl (MsgTable.updateRow grpId) row = row
  := by
  induction ups with
  | nil => rfl
  | cons up ups ih =>
    rw [List.foldl_cons, MsgTable.updateRow, if_neg (h up List.mem_cons_self)]
    exact ih fun up' hup' => h up' (List.mem_cons_of_mem _ hup')

theorem exists_of_mem_relocated {up : MsgUpdate} {base : Nat} (h : up ∈ relocated msgIdV base ms) :
  ∃ m ∈ ms, m.msgId = up.msgId
  := by
  induction ms generalizing base with
  | nil => simp [relocated] at h
  | cons m ms ih =>
    rw [relocated] at h
    split at h
    · obtain ⟨m', hm', hid⟩ := ih h
      exact ⟨m', List.mem_cons_of_mem _ hm', hid⟩
    · rcases List.mem_cons.1 h with rfl | h
      · exact ⟨m, List.mem_cons_self, rfl⟩
      · obtain ⟨m', hm', hid⟩ := ih h
        exact ⟨m', List.mem_cons_of_mem _ hm', hid⟩

/-- The updates and the deletions of a removal make `moved` of the rows. -/
theorem filter_map_relocated (hnodup : (rows.map MsgRow.msgId).Nodup) (base : Nat) :
  (rows.map fun row => (relocated msgIdV base
      (rows.filter fun row => row.grpId = grpId)).foldl (MsgTable.updateRow grpId) row).filter
      (fun row => ¬(row.grpId = grpId ∧ row.msgId ∈ msgIdV)) =
    moved grpId msgIdV base rows
  := by
  induction rows generalizing base with
  | nil => rfl
  | cons row rows ih =>
    rw [List.map_cons, List.nodup_cons] at hnodup
    obtain ⟨hrow, hrows⟩ := hnodup
    -- the updates of the other rows leave the first one
    have hkeep (base : Nat) (row' : MsgRow) (hid : row'.msgId = row.msgId) :
        (relocated msgIdV base (rows.filter fun row => row.grpId = grpId)).foldl
          (MsgTable.updateRow grpId) row' = row' := by
      apply foldl_updateRow_of_ne
      rintro up hup ⟨-, hup'⟩
      obtain ⟨m, hm, hmid⟩ := exists_of_mem_relocated hup
      apply hrow
      rw [← hid, hup', ← hmid]
      exact List.mem_map_of_mem (List.mem_of_mem_filter hm)
    rw [moved, List.map_cons]
    by_cases hgrp : row.grpId = grpId
    · have hfilter : (row :: rows).filter (fun row => row.grpId = grpId) =
          row :: rows.filter fun row => row.grpId = grpId :=
        List.filter_cons_of_pos (by simpa using hgrp)
      rw [if_pos hgrp, hfilter, relocated]
      by_cases hmem : row.msgId ∈ msgIdV
      · rw [if_pos hmem, if_pos hmem, hkeep base row rfl,
          List.filter_cons_of_neg (by simp [hgrp, hmem]), ih hrows]
      · rw [if_neg hmem, if_neg hmem, List.foldl_cons, MsgTable.updateRow,
          if_pos ⟨hgrp, rfl⟩]
        have hpos : ¬(MsgRow.grpId { row with fileOffset := base } = grpId ∧
            MsgRow.msgId { row with fileOffset := base } ∈ msgIdV) :=
          not_and_of_not_right _ hmem
        rw [hkeep _ { row with fileOffset := base } rfl,
          List.filter_cons, if_pos (decide_eq_true hpos), ← ih hrows]
        congr 2
        apply List.map_congr_left
        intro row' hrow'
        have hne : row'.msgId ≠ row.msgId := by
          intro hid
          apply hrow
          rw [← hid]
          exact List.mem_map_of_mem hrow'
        rw [List.foldl_cons]
        congr 1
        rw [MsgTable.updateRow, if_neg]
        rintro ⟨-, hid⟩
        exact hne hid
    · have hfilter : (row :: rows).filter (fun row => row.grpId = grpId) =
          rows.filter fun row => row.grpId = grpId :=
        List.filter_cons_of_neg (by simpa using hgrp)
      rw [if_neg hgrp, hfilter, hkeep base row rfl,
        List.filter_cons_of_pos (by simp [hgrp]), ih hrows]

end Table

/-! ### The invariant -/

/-- The row is that of a stored message, whose data lie where it says. -/
structure Holds (store : RsDataService) (row : MsgRow) (p : RsNxsMsg × RsGxsMsgMetaData) :
    Prop where
  grpId : p.1.grpId = p.2.mGroupId
  grpId_ne : p.2.mGroupId ≠ 0
  msgId_ne : p.2.mMsgId ≠ 0
  row_eq : row = msgRow store.mServType p.1 p.2 row.fileOffset
  isSome : (store.files.get? row.grpId).isSome
  segment_eq : segment (store.file row.grpId) row.fileOffset p.1.msg.tlvSize =
    p.1.msg.setTlv store.mServType

namespace Holds

variable {store store' : RsDataService} {row : MsgRow} {p : RsNxsMsg × RsGxsMsgMetaData}

theorem msgId_eq (h : Holds store row p) :
  row.msgId = p.2.mMsgId
  := by
  rw [h.row_eq]
  rfl

theorem row_grpId (h : Holds store row p) :
  row.grpId = p.2.mGroupId
  := by
  rw [h.row_eq]
  rfl

theorem nxsFileLen_eq (h : Holds store row p) :
  row.nxsFileLen = p.1.msg.tlvSize
  := by
  rw [h.row_eq]
  rfl

theorem tlvSize_pos (b : TlvData) :
  0 < b.tlvSize
  := Nat.lt_of_lt_of_le (by decide : 0 < tlvHeaderSize) (Nat.le_add_right _ _)

/-- The data lie within the file. -/
theorem le_length (h : Holds store row p) :
  row.fileOffset + row.nxsFileLen ≤ (store.file row.grpId).length
  := by
  rw [h.nxsFileLen_eq]
  apply le_of_length_segment (tlvSize_pos _)
  rw [h.segment_eq, TlvData.length_setTlv]

theorem length_segment (h : Holds store row p) :
  (segment (store.file row.grpId) row.fileOffset row.nxsFileLen).length = row.nxsFileLen
  := by
  rw [h.nxsFileLen_eq, h.segment_eq, TlvData.length_setTlv]

theorem append (h : Holds store row p) (hservType : store'.mServType = store.mServType)
    (hsome : (store'.files.get? row.grpId).isSome) (more : List UInt8)
    (hfile : store'.file row.grpId = store.file row.grpId ++ more) :
  Holds store' row p
  := by
  have hle := h.le_length
  rw [h.nxsFileLen_eq] at hle
  constructor
  · exact h.grpId
  · exact h.grpId_ne
  · exact h.msgId_ne
  · rw [hservType]
    exact h.row_eq
  · exact hsome
  · rw [hservType, hfile, segment_append more hle]
    exact h.segment_eq

end Holds

/-- Messages of one group lie in the order of their rows. -/
def Before (row row' : MsgRow) : Prop :=
  row.grpId = row'.grpId → row.fileOffset + row.nxsFileLen ≤ row'.fileOffset

/-- The store holds the messages of `l`. -/
structure Sound (store : RsDataService) (l : Ledger) : Prop where
  held : List.Forall₂ (Holds store) store.msgs.rows l
  before : store.msgs.rows.Pairwise Before
  small : ∀ grpId, (store.file grpId).length < 2 ^ 31

theorem sound_new :
  Sound (.new mServType) []
  := by
  constructor
  · exact .nil
  · exact .nil
  · intro grpId
    exact Nat.two_pow_pos 31

/-- The rows have the identifiers of the messages. -/
theorem Sound.map_msgId (h : Sound store l) :
  store.msgs.rows.map MsgRow.msgId = l.map (·.2.mMsgId)
  := by
  obtain ⟨hheld, -, -⟩ := h
  generalize store.msgs.rows = rows at hheld
  induction hheld with
  | nil => rfl
  | cons hrow _ ih =>
    rw [List.map_cons, List.map_cons, hrow.msgId_eq]
    exact congrArg _ ih

theorem exists_of_mem_rows {row : MsgRow} (h : List.Forall₂ (Holds store) rows l)
    (hrow : row ∈ rows) :
  ∃ p, Holds store row p
  := by
  induction h with
  | nil => exact absurd hrow List.not_mem_nil
  | cons hhead _ ih =>
    rcases List.mem_cons.1 hrow with rfl | hrow
    · exact ⟨_, hhead⟩
    · exact ih hrow

theorem exists_of_mem_ledger (h : List.Forall₂ (Holds store) rows l) (hp : p ∈ l) :
  ∃ row ∈ rows, Holds store row p
  := by
  induction h with
  | nil => exact absurd hp List.not_mem_nil
  | cons hhead _ ih =>
    rcases List.mem_cons.1 hp with rfl | hp
    · exact ⟨_, List.mem_cons_self, hhead⟩
    · obtain ⟨row, hrow, hholds⟩ := ih hp
      exact ⟨row, List.mem_cons_of_mem _ hrow, hholds⟩

/-! ### Storing a message -/

section Store

variable {store : RsDataService} {l : Ledger} {p : RsNxsMsg × RsGxsMsgMetaData} {table : MsgTable}
  {row : MsgRow}

theorem file_insert (store : RsDataService) (msgs : MsgTable) (grpId grpId' : RsGxsGroupId)
    (bytes : List UInt8) :
  ({ store with files := store.files.insert grpId bytes, msgs } : RsDataService).file grpId' =
    if grpId' = grpId then bytes else store.file grpId'
  := by
  rw [RsDataService.file, OrdMap.get?_insert]
  split
  · rfl
  · rfl

theorem rows_sqlInsert_of_notMem (h : row.msgId ∉ table.rows.map MsgRow.msgId) :
  (table.sqlInsert row).rows = table.rows ++ [row]
  := by
  rw [MsgTable.sqlInsert, dif_neg h]

theorem sqlInsert_of_mem (h : row.msgId ∈ table.rows.map MsgRow.msgId) :
  table.sqlInsert row = table
  := by
  rw [MsgTable.sqlInsert, dif_pos h]

theorem exists_file_storeOne (store : RsDataService) (p : RsNxsMsg × RsGxsMsgMetaData)
    (grpId : RsGxsGroupId) :
  ∃ more, (store.storeOne p).file grpId = store.file grpId ++ more
  := by
  rw [RsDataService.storeOne]
  split
  · exact ⟨[], (List.append_nil _).symm⟩
  · rw [file_insert]
    split
    · rename_i h
      rw [h]
      exact ⟨_, rfl⟩
    · exact ⟨[], (List.append_nil _).symm⟩

theorem length_file_storeMessage_le (msg : List (RsNxsMsg × RsGxsMsgMetaData))
    (store : RsDataService) (grpId : RsGxsGroupId) :
  (store.file grpId).length ≤ ((store.storeMessage msg).file grpId).length
  := by
  induction msg generalizing store with
  | nil => exact le_rfl
  | cons p msg ih =>
    obtain ⟨more, hfile⟩ := exists_file_storeOne store p grpId
    apply le_trans _ (ih (store.storeOne p))
    rw [hfile, List.length_append]
    exact Nat.le_add_right _ _

theorem Sound.storeOne (h : Sound store l)
    (hnamed : p.1.grpId = p.2.mGroupId ∧ p.2.mGroupId ≠ 0 ∧ p.2.mMsgId ≠ 0)
    (hsmall : ∀ grpId, ((store.storeOne p).file grpId).length < 2 ^ 31) :
  Sound (store.storeOne p) (l.add p)
  := by
  obtain ⟨hgrp, hgrp0, hmsg0⟩ := hnamed
  by_cases hvalid : !validSize p.1
  · rw [RsDataService.storeOne, if_pos hvalid, Ledger.add, if_pos hvalid]
    exact h
  -- the messages that are stored already stay
  have hold : List.Forall₂ (Holds (store.storeOne p)) store.msgs.rows l := by
    apply h.held.imp
    intro row q hrow
    obtain ⟨more, hfile⟩ := exists_file_storeOne store p row.grpId
    apply hrow.append _ _ more hfile
    · rw [RsDataService.storeOne, if_neg hvalid]
    · rw [RsDataService.storeOne, if_neg hvalid, OrdMap.get?_insert]
      split
      · rfl
      · exact hrow.isSome
  have hlen : (store.file p.1.grpId).length % 2 ^ 32 = (store.file p.1.grpId).length :=
    Nat.mod_eq_of_lt (lt_trans (h.small _) (by decide))
  have hmsgs : (store.storeOne p).msgs = store.msgs.sqlInsert
      (msgRow store.mServType p.1 p.2 (store.file p.1.grpId).length) := by
    rw [RsDataService.storeOne, if_neg hvalid, hlen]
  rw [Ledger.add, if_neg hvalid]
  by_cases hmem : p.2.mMsgId ∈ l.map (·.2.mMsgId)
  · rw [if_pos hmem]
    rw [← h.map_msgId] at hmem
    rw [sqlInsert_of_mem hmem] at hmsgs
    constructor
    · rw [hmsgs]
      exact hold
    · rw [hmsgs]
      exact h.before
    · exact hsmall
  · rw [if_neg hmem]
    rw [← h.map_msgId] at hmem
    have hrows : (store.storeOne p).msgs.rows = store.msgs.rows ++
        [msgRow store.mServType p.1 p.2 (store.file p.1.grpId).length] := by
      rw [hmsgs]
      exact rows_sqlInsert_of_notMem hmem
    constructor
    · rw [hrows]
      apply List.rel_append hold
      apply List.Forall₂.cons _ .nil
      have hfile : (store.storeOne p).file p.1.grpId =
          store.file p.1.grpId ++ p.1.msg.setTlv store.mServType := by
        rw [RsDataService.storeOne, if_neg hvalid, file_insert, if_pos rfl]
      constructor
      · exact hgrp
      · exact hgrp0
      · exact hmsg0
      · rw [RsDataService.storeOne, if_neg hvalid]
        rfl
      · change ((store.storeOne p).files.get? p.2.mGroupId).isSome
        rw [RsDataService.storeOne, if_neg hvalid, ← hgrp, OrdMap.get?_insert_self]
        rfl
      · change segment ((store.storeOne p).file p.2.mGroupId) (store.file p.1.grpId).length _ = _
        have hsegment := segment_append_length (store.file p.1.grpId)
          (p.1.msg.setTlv store.mServType) []
        rw [List.append_nil, TlvData.length_setTlv] at hsegment
        rw [← hgrp, hfile, hsegment, RsDataService.storeOne, if_neg hvalid]
    · rw [hrows, List.pairwise_append]
      refine ⟨h.before, List.pairwise_singleton _ _, ?_⟩
      intro row hrow row' hrow' hsame
      obtain rfl := List.mem_singleton.1 hrow'
      obtain ⟨q, hq⟩ := exists_of_mem_rows h.held hrow
      have hle := hq.le_length
      rw [hsame] at hle
      change _ ≤ (store.file p.2.mGroupId).length at hle
      rwa [← hgrp] at hle
    · exact hsmall

theorem Sound.storeMessage {msg : List (RsNxsMsg × RsGxsMsgMetaData)} (h : Sound store l)
    (hnamed : (Op.store msg).Named)
    (hsmall : ∀ grpId, ((store.storeMessage msg).file grpId).length < 2 ^ 31) :
  Sound (store.storeMessage msg) (msg.foldl Ledger.add l)
  := by
  induction msg generalizing store l with
  | nil => exact h
  | cons p msg ih =>
    have hp := h.storeOne (hnamed p List.mem_cons_self) fun grpId =>
      lt_of_le_of_lt (length_file_storeMessage_le msg _ grpId) (hsmall grpId)
    exact ih hp (fun q hq => hnamed q (List.mem_cons_of_mem _ hq)) hsmall

end Store

/-! ### Removing the messages of a group -/

section Remove

variable {store store' : RsDataService} {l : Ledger} {grpId : RsGxsGroupId}
  {msgIdV : List RsGxsMessageId} {rows : List MsgRow} {base : Nat}

theorem inOrder_of_before {n : Nat} (hbefore : rows.Pairwise Before)
    (hlen : ∀ row ∈ rows, row.grpId = grpId → row.fileOffset + row.nxsFileLen ≤ n)
    (hle : ∀ row ∈ rows, row.grpId = grpId → base ≤ row.fileOffset) (hbase : base ≤ n) :
  InOrder n base (rows.filter fun row => row.grpId = grpId)
  := by
  induction rows generalizing base with
  | nil => exact hbase
  | cons row rows ih =>
    obtain ⟨hrow, hrows⟩ := List.pairwise_cons.1 hbefore
    have hlen' := fun row' hrow' => hlen row' (List.mem_cons_of_mem _ hrow')
    rw [List.filter_cons]
    split
    · rename_i hgrp
      have hgrp : row.grpId = grpId := by simpa using hgrp
      constructor
      · exact hle row List.mem_cons_self hgrp
      · apply ih hrows hlen' _ (hlen row List.mem_cons_self hgrp)
        intro row' hrow' hgrp'
        exact hrow row' hrow' (hgrp.trans hgrp'.symm)
    · exact ih hrows hlen' (fun row' hrow' => hle row' (List.mem_cons_of_mem _ hrow')) hbase

/-- A row after a removal is one of another group or lies behind `base`. -/
theorem le_of_mem_moved {row : MsgRow} (h : row ∈ moved grpId msgIdV base rows) :
  (row.grpId = grpId → base ≤ row.fileOffset) ∧ (row.grpId ≠ grpId → row ∈ rows)
  := by
  induction rows generalizing base with
  | nil => exact absurd h List.not_mem_nil
  | cons first rows ih =>
    rw [moved] at h
    split_ifs at h with hgrp hmem
    · obtain ⟨hle, hrow⟩ := ih h
      exact ⟨hle, fun hne => List.mem_cons_of_mem _ (hrow hne)⟩
    · rcases List.mem_cons.1 h with rfl | h
      · exact ⟨fun _ => le_rfl, fun hne => absurd hgrp hne⟩
      · obtain ⟨hle, hrow⟩ := ih h
        exact ⟨fun heq => le_trans (Nat.le_add_right _ _) (hle heq),
          fun hne => List.mem_cons_of_mem _ (hrow hne)⟩
    · rcases List.mem_cons.1 h with rfl | h
      · exact ⟨fun heq => absurd heq hgrp, fun _ => List.mem_cons_self⟩
      · obtain ⟨hle, hrow⟩ := ih h
        exact ⟨hle, fun hne => List.mem_cons_of_mem _ (hrow hne)⟩

/-- The messages that remain lie in the order of their rows again. -/
theorem before_moved (hbefore : rows.Pairwise Before) (base : Nat) :
  (moved grpId msgIdV base rows).Pairwise Before
  := by
  induction rows generalizing base with
  | nil => exact .nil
  | cons row rows ih =>
    obtain ⟨hrow, hrows⟩ := List.pairwise_cons.1 hbefore
    rw [moved]
    split_ifs with hgrp hmem
    · exact ih hrows base
    · apply List.Pairwise.cons _ (ih hrows _)
      intro row' hrow' hsame
      exact (le_of_mem_moved hrow').1 (hsame.symm.trans hgrp)
    · apply List.Pairwise.cons _ (ih hrows _)
      intro row' hrow' hsame
      exact hrow row' ((le_of_mem_moved hrow').2 fun h => hgrp (hsame.trans h)) hsame

/-- The rows after a removal hold the messages that remain, when the file of the group has their
data behind `done`, and the other files are as before. -/
theorem holds_moved (hheld : List.Forall₂ (Holds store) rows l)
    (hservType : store'.mServType = store.mServType)
    (hother : ∀ grpId' ≠ grpId, store'.files.get? grpId' = store.files.get? grpId')
    (hsome : (store'.files.get? grpId).isSome) (done : List UInt8)
    (hfile : store'.file grpId = done ++ remaining (store.file grpId) msgIdV (rows.filter fun row =>
      row.grpId = grpId)) :
  List.Forall₂ (Holds store') (moved grpId msgIdV done.length rows)
    (l.filter fun q => ¬(q.2.mGroupId = grpId ∧ q.2.mMsgId ∈ msgIdV))
  := by
  induction hheld generalizing done with
  | nil => exact .nil
  | @cons row p rows l hrow _ ih =>
    rw [moved, List.filter_cons]
    by_cases hgrp : row.grpId = grpId
    · have hfilter : (row :: rows).filter (fun row => row.grpId = grpId) =
          row :: rows.filter fun row => row.grpId = grpId :=
        List.filter_cons_of_pos (by simpa using hgrp)
      rw [hfilter, remaining] at hfile
      rw [if_pos hgrp]
      by_cases hmem : row.msgId ∈ msgIdV
      · have hout : ¬¬(p.2.mGroupId = grpId ∧ p.2.mMsgId ∈ msgIdV) := by
          rw [← hrow.row_grpId, ← hrow.msgId_eq]
          exact not_not_intro ⟨hgrp, hmem⟩
        rw [if_pos hmem] at hfile ⊢
        rw [if_neg (by simpa only [decide_eq_true_eq] using hout)]
        exact ih done hfile
      · have hin : ¬(p.2.mGroupId = grpId ∧ p.2.mMsgId ∈ msgIdV) := by
          rw [← hrow.msgId_eq]
          exact not_and_of_not_right _ hmem
        rw [if_neg hmem] at hfile ⊢
        rw [if_pos (decide_eq_true hin)]
        have hsegment : segment (store.file grpId) row.fileOffset row.nxsFileLen =
            p.1.msg.setTlv store.mServType := by
          rw [← hgrp, hrow.nxsFileLen_eq]
          exact hrow.segment_eq
        rw [hsegment] at hfile
        constructor
        · have hrow' : MsgRow.grpId { row with fileOffset := done.length } = grpId := hgrp
          constructor
          · exact hrow.grpId
          · exact hrow.grpId_ne
          · exact hrow.msgId_ne
          · rw [hservType]
            have hrow_eq := hrow.row_eq
            rw [hrow_eq]
            rfl
          · rwa [hrow']
          · rw [hrow', hservType, hfile]
            have hplace := segment_append_length done (p.1.msg.setTlv store.mServType)
              (remaining (store.file grpId) msgIdV (rows.filter fun row => row.grpId = grpId))
            rwa [TlvData.length_setTlv] at hplace
        · have hrest := ih (done ++ p.1.msg.setTlv store.mServType) (by
            rw [hfile, List.append_assoc])
          rwa [List.length_append, TlvData.length_setTlv, ← hrow.nxsFileLen_eq] at hrest
    · have hfilter : (row :: rows).filter (fun row => row.grpId = grpId) =
          rows.filter fun row => row.grpId = grpId :=
        List.filter_cons_of_neg (by simpa using hgrp)
      have hin : ¬(p.2.mGroupId = grpId ∧ p.2.mMsgId ∈ msgIdV) := by
        rw [← hrow.row_grpId]
        exact not_and_of_not_left _ hgrp
      rw [hfilter] at hfile
      rw [if_neg hgrp, if_pos (decide_eq_true hin)]
      apply List.Forall₂.cons _ (ih done hfile)
      have hget := hother _ hgrp
      apply hrow.append hservType _ []
      · rw [List.append_nil, RsDataService.file, hget]
        rfl
      · rw [hget]
        exact hrow.isSome

theorem Sound.removeOne (h : Sound store l) (e : RsGxsGroupId × List RsGxsMessageId) :
  Sound (store.removeOne e) (l.filter fun q => ¬(q.2.mGroupId = e.1 ∧ q.2.mMsgId ∈ e.2))
  := by
  have hquery : store.msgs.sqlQuery e.1 none =
      store.msgs.rows.filter fun row => row.grpId = e.1 := by
    apply List.filter_congr
    intro row _
    simp
  have horder : InOrder (store.file e.1).length 0
      (store.msgs.rows.filter fun row => row.grpId = e.1) := by
    apply inOrder_of_before h.before
    · intro row hrow hgrp
      obtain ⟨p, hp⟩ := exists_of_mem_rows h.held hrow
      rw [← hgrp]
      exact hp.le_length
    · intro row _ _
      exact Nat.zero_le _
    · exact Nat.zero_le _
  have hlength := @InOrder.length_remaining_le (store.file e.1) e.2 _ _ _ horder
  rw [Nat.zero_add] at hlength
  -- what the loop gives
  obtain ⟨hbuffer, hupdates⟩ := @foldl_keep (store.file e.1) e.2
    (store.msgs.rows.filter fun row => row.grpId = e.1) ⟨[], 0, []⟩
    (by
      intro m hm
      rw [List.mem_filter] at hm
      obtain ⟨hm, hgrp⟩ := hm
      obtain ⟨p, hp⟩ := exists_of_mem_rows h.held hm
      have hlen := hp.length_segment
      rwa [of_decide_eq_true hgrp] at hlen)
    rfl
    (by
      rw [List.nil_append]
      exact lt_of_le_of_lt hlength (lt_trans (h.small e.1) (by decide)))
  simp only [List.nil_append] at hbuffer hupdates
  rw [← hquery] at hbuffer hupdates
  have hfiles : (store.removeOne e).files = store.files.insert e.1
      (remaining (store.file e.1) e.2 (store.msgs.sqlQuery e.1 none)) := by
    rw [← hbuffer]
    rfl
  have hfile (grpId : RsGxsGroupId) : (store.removeOne e).file grpId =
      if grpId = e.1 then remaining (store.file e.1) e.2 (store.msgs.sqlQuery e.1 none)
      else store.file grpId := by
    rw [RsDataService.file, hfiles, OrdMap.get?_insert]
    split
    · rfl
    · rfl
  have hrows : (store.removeOne e).msgs.rows = moved e.1 e.2 0 store.msgs.rows := by
    rw [RsDataService.removeOne]
    simp only [rows_foldl_sqlDelete, rows_foldl_sqlUpdate, hupdates]
    rw [hquery]
    exact filter_map_relocated store.msgs.nodup 0
  constructor
  · rw [hrows]
    apply holds_moved h.held (show (store.removeOne e).mServType = store.mServType from rfl) _ _ []
    · rw [hfile, if_pos rfl, hquery]
      exact (List.nil_append _).symm
    · intro grpId' hne
      rw [hfiles, OrdMap.get?_insert, if_neg hne]
    · rw [hfiles, OrdMap.get?_insert_self]
      rfl
  · rw [hrows]
    exact before_moved h.before 0
  · intro grpId
    rw [hfile]
    split
    · rw [hquery]
      exact lt_of_le_of_lt hlength (h.small e.1)
    · exact h.small grpId

theorem Sound.foldl_removeOne (es : List (RsGxsGroupId × List RsGxsMessageId))
    (h : Sound store l) :
  Sound (es.foldl RsDataService.removeOne store)
    (l.filter fun q => ∀ e ∈ es, ¬(q.2.mGroupId = e.1 ∧ q.2.mMsgId ∈ e.2))
  := by
  induction es generalizing store l with
  | nil => simpa using h
  | cons e es ih =>
    have hrest := ih (h.removeOne e)
    rw [List.filter_filter] at hrest
    rw [List.foldl_cons]
    convert hrest using 2
    funext q
    simp only [List.forall_mem_cons, Bool.decide_and, Bool.and_comm]

theorem Sound.removeMsgs (h : Sound store l) (msgIds : GxsMsgReq) :
  Sound (store.removeMsgs msgIds) (l.remove msgIds)
  := by
  have hfold := h.foldl_removeOne msgIds.toList
  rw [RsDataService.removeMsgs, Ledger.remove]
  convert hfold using 2
  funext q
  rw [decide_eq_decide]
  constructor
  · rintro hq e he ⟨hgrp, hmem⟩
    apply hq
    rw [hgrp, OrdMap.mem_toList.1 he]
    exact hmem
  · intro hq hmem
    cases hget : msgIds.get? q.2.mGroupId with
    | none => simp [hget] at hmem
    | some msgIdV =>
      rw [hget] at hmem
      exact hq _ (OrdMap.mem_toList.2 hget) ⟨rfl, hmem⟩

end Remove

/-! ### Retrieving messages -/

section Retrieve

variable {store : RsDataService} {l : Ledger} {p : RsNxsMsg × RsGxsMsgMetaData} {row : MsgRow}
  {msgIdV : List RsGxsMessageId} {grpId : RsGxsGroupId} {x : RsNxsMsg}

theorem Holds.getMessage (h : Holds store row p) :
  store.getMessage row = some ⟨p.2.mGroupId, p.2.mMsgId, p.1.msg, p.1.metaBin⟩
  := by
  have hnull : ¬(row.grpId = 0 ∨ row.msgId = 0) := by
    rw [h.row_grpId, h.msgId_eq, not_or]
    exact ⟨h.grpId_ne, h.msgId_ne⟩
  obtain ⟨file, hfile⟩ := Option.isSome_iff_exists.1 h.isSome
  have hnxsFile : row.nxsFile = row.grpId := by
    rw [h.row_grpId, h.row_eq]
    exact h.grpId
  have hmeta : row.metaTlv = p.1.metaBin.setTlv store.mServType := by
    rw [h.row_eq]
    rfl
  have hsegment := h.segment_eq
  rw [RsDataService.file, hfile, Option.getD_some] at hsegment
  rw [RsDataService.getMessage, if_neg hnull, hnxsFile, hfile, hmeta, TlvData.length_setTlv,
    h.nxsFileLen_eq, h.row_grpId, h.msgId_eq]
  simp only [Option.bind_eq_bind, Option.bind_some, hsegment, TlvData.getTlv_setTlv,
    Option.getD_some]

theorem mem_query {table : MsgTable} :
  row ∈ table.query grpId msgIdV ↔
    row ∈ table.rows ∧ row.grpId = grpId ∧ (msgIdV = [] ∨ row.msgId ∈ msgIdV)
  := by
  rw [MsgTable.query]
  split
  · rename_i h
    simp [MsgTable.sqlQuery, h]
  · rename_i h
    simp only [List.mem_flatMap, MsgTable.sqlQuery, List.mem_filter, h, false_or, Option.all_some,
      Bool.and_eq_true, decide_eq_true_eq]
    constructor
    · rintro ⟨msgId, hmem, hrow, hgrp, rfl⟩
      exact ⟨hrow, hgrp, hmem⟩
    · rintro ⟨hrow, hgrp, hmem⟩
      exact ⟨_, hmem, hrow, hgrp, rfl⟩

theorem Holds.eq_of_mem_query (hholds : Holds store row p) (hrow : row ∈ store.msgs.rows)
    {row' : MsgRow} (hrow' : row' ∈ store.msgs.query grpId msgIdV) (hid : row'.msgId = p.2.mMsgId) :
  row' = row
  := by
  apply List.inj_on_of_nodup_map store.msgs.nodup (mem_query.1 hrow').1 hrow
  rw [hid, hholds.msgId_eq]

theorem msgId_of_getMessage (h : store.getMessage row = some x) :
  x.msgId = row.msgId
  := by
  rw [RsDataService.getMessage] at h
  split at h
  · cases h
  · simp only [Option.bind_eq_bind, Option.bind_eq_some_iff] at h
    obtain ⟨_, -, _, -, h⟩ := h
    obtain rfl := Option.some.inj h
    rfl

theorem Sound.returns (h : Sound store l) (hp : p ∈ l) :
  store.Returns p
  := by
  obtain ⟨row, hrow, hholds⟩ := exists_of_mem_ledger h.held hp
  intro req msgIdV hreq hasked
  have hquery : row ∈ store.msgs.query p.2.mGroupId msgIdV := by
    apply mem_query.2
    refine ⟨hrow, hholds.row_grpId, ?_⟩
    rwa [hholds.msgId_eq]
  refine ⟨_, (OrdMap.get?_map _ _).trans (congrArg _ hreq), ?_, ?_⟩
  · intro x hx hid
    obtain ⟨row', hrow', hget⟩ := List.mem_filterMap.1 hx
    obtain rfl := hholds.eq_of_mem_query hrow hrow' ((msgId_of_getMessage hget).symm.trans hid)
    rw [hholds.getMessage] at hget
    obtain rfl := Option.some.inj hget
    exact ⟨rfl, rfl, rfl⟩
  · exact ⟨_, List.mem_filterMap.2 ⟨row, hquery, hholds.getMessage⟩, rfl⟩

end Retrieve

/-! ### Runs -/

theorem length_file_lt_of_small {op : Op} (h : Small store op) (grpId : RsGxsGroupId) :
  ((machine.next store op).file grpId).length < 2 ^ 31
  := by
  rw [RsDataService.file]
  cases hget : (machine.next store op).files.get? grpId with
  | none => exact Nat.two_pow_pos 31
  | some bytes => exact h _ (OrdMap.mem_toList.2 hget)

/-- Every call keeps the invariant. -/
theorem Sound.next {op : Op} (h : Sound store l) (hsmall : Small store op) (hnamed : op.Named) :
  Sound (machine.next store op) (Ledger.run Ledger.add l [op])
  := by
  cases op with
  | store msg => exact h.storeMessage hnamed (length_file_lt_of_small hsmall)
  | remove msgIds => exact h.removeMsgs msgIds

theorem Sound.run {ops : List Op} (h : Sound store l)
    (hops : machine.Along (fun store op => Small store op ∧ op.Named) store ops) :
  Sound (machine.run store ops) (Ledger.run Ledger.add l ops)
  := by
  induction ops generalizing store l with
  | nil => exact h
  | cons op ops ih =>
    obtain ⟨⟨hsmall, hnamed⟩, hops⟩ := hops
    have hnext := ih (h.next hsmall hnamed) hops
    cases op with
    | store msg => exact hnext
    | remove msgIds => exact hnext

/-- Every message that has been stored, when no message of its identifier was stored, and not been
removed since is returned with its data and `meta`: after all calls that leave the files below 2 GB
and store messages under the identifiers in their metadata. -/
theorem readsBack_of_along {mServType : UInt16} {ops : List Op}
    (hops : machine.Along (fun store op => Small store op ∧ op.Named) (.new mServType) ops) :
  ReadsBack Ledger.add (.new mServType) ops
  := by
  intro p hp
  exact ((sound_new mServType).run hops).returns hp

/-- A message of one byte. -/
def byteMsg (grpId : RsGxsGroupId) (msgId : RsGxsMessageId) (byte : UInt8) : RsNxsMsg where
  grpId := grpId
  msgId := msgId
  msg := ⟨[byte], by simp [tlvHeaderSize]⟩
  metaBin := ⟨[byte, byte], by simp [tlvHeaderSize]⟩

/-- The metadata of a message without an author. -/
def plainMeta (grpId : RsGxsGroupId) (msgId : RsGxsMessageId) : RsGxsMsgMetaData where
  mGroupId := grpId
  mMsgId := msgId
  mParentId := 0
  mOrigMsgId := 0
  mAuthorId := 0
  mPublishTs := 0
  mMsgFlags := 0
  mMsgStatus := 0
  mThreadId := 0

/-- Two messages are stored, the first of them is removed, and another one is stored. -/
def storeAndRemove : List Op :=
  [.store [(byteMsg 2 5 1, plainMeta 2 5), (byteMsg 2 6 2, plainMeta 2 6)],
    .remove (OrdMap.empty.insert 2 [5]), .store [(byteMsg 2 7 3, plainMeta 2 7)]]

instance (op : Op) : Decidable op.Named :=
  match op with
  | .store msg => inferInstanceAs (Decidable (∀ p ∈ msg, _))
  | .remove _ => .isTrue trivial

instance (store : RsDataService) (op : Op) : Decidable (Small store op) :=
  inferInstanceAs (Decidable (∀ e ∈ _, _))

theorem readsBack_storeAndRemove :
  ReadsBack Ledger.add (.new 0x0215) storeAndRemove
  := readsBack_of_along (by decide +kernel)

/-- A message is stored again, with other data. -/
def storeTwice : List Op :=
  [.store [(byteMsg 1 7 1, plainMeta 1 7)], .store [(byteMsg 1 7 2, plainMeta 1 7)]]

/-- A message of the group `1` carries metadata of the group `2`, and messages of the group `2` are
removed. -/
def storeMisnamed : List Op :=
  [.store [(byteMsg 2 5 5, plainMeta 2 5)], .store [(byteMsg 1 7 1, plainMeta 2 7)],
    .store [(byteMsg 1 8 8, plainMeta 1 8)], .remove (OrdMap.empty.insert 2 [])]

/-- The data of the retrieved messages of a group. -/
def RsDataService.retrieved (store : RsDataService) (grpId : RsGxsGroupId) :
    List (RsGxsMessageId × List UInt8) :=
  ((store.retrieveNxsMsgs (OrdMap.empty.insert grpId [])).get? grpId).getD [] |>.map
    fun x => (x.msgId, x.msg.binData)

theorem mem_retrieved_of_returns (h : store.Returns p) :
  (p.2.mMsgId, p.1.msg.binData) ∈ store.retrieved p.2.mGroupId
  := by
  obtain ⟨msgV, hget, hdata, x, hx, hid⟩ :=
    h (OrdMap.empty.insert p.2.mGroupId []) [] (OrdMap.get?_insert_self _ _) (.inl rfl)
  rw [RsDataService.retrieved, hget, Option.getD_some]
  apply List.mem_map.2
  refine ⟨x, hx, ?_⟩
  rw [hid, (hdata x hx hid).2.1]

/-- A message that is stored again comes back with the data it was stored with first, and one whose
metadata name another group comes back with the data of another message. -/
theorem not_readsBack_put :
  (machine.Along Small (.new 0x0215) storeTwice ∧
      ¬ ReadsBack Ledger.put (.new 0x0215) storeTwice) ∧
    machine.Along Small (.new 0x0215) storeMisnamed ∧
      ¬ ReadsBack Ledger.put (.new 0x0215) storeMisnamed
  := by
  refine ⟨⟨by decide +kernel, ?_⟩, by decide +kernel, ?_⟩
  · intro h
    have hmem := mem_retrieved_of_returns (h (byteMsg 1 7 2, plainMeta 1 7) (by decide +kernel))
    revert hmem
    decide +kernel
  · intro h
    have hmem := mem_retrieved_of_returns (h (byteMsg 1 7 1, plainMeta 2 7) (by decide +kernel))
    revert hmem
    decide +kernel

end Gxs.Files
