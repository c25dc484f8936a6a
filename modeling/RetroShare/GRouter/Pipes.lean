import RetroShare.GRouter.Serialise

/-!
# Chunks

A message travels as chunks, which `sliceDataItem` makes and which a `GRouterDataInfo` puts
together in its `incoming_data_buffer`.  The pipe is a machine that reads chunks and emits
messages.

A chunk that does not continue the buffer deletes the buffer and leaves the pointer in place,
and a chunk that continues it can exceed the total size.  A chunk that does neither `Fits`.
-/

namespace GRouter

/-! ### The pipe -/

/-- `chunk_size`. -/
def RsGRouterTransactionChunkItem.chunkSize (chunk : RsGRouterTransactionChunkItem) : Nat :=
  chunk.chunkData.length

/-- What the pointer `incoming_data_buffer` points to. -/
inductive DataBuffer
  | null
  | live (buffer : RsGRouterTransactionChunkItem)
  | deleted
  deriving DecidableEq

/-- `GRouterDataInfo`. -/
structure GRouterDataInfo where
  incomingDataBuffer : DataBuffer
  lastActivityTS : Nat
  deriving DecidableEq

namespace GRouterDataInfo

/-- `GRouterDataInfo::clear`. -/
def clear (self : GRouterDataInfo) : GRouterDataInfo :=
  match self.incomingDataBuffer with
  | .deleted => self
  | _ => { self with incomingDataBuffer := .null }

/-- The end of `addDataChunk`: a buffer that is complete is deserialised. -/
def returnIfFinished (self : GRouterDataInfo) (buffer : RsGRouterTransactionChunkItem) :
    GRouterDataInfo × Option RsGRouterAbstractMsgItem :=
  if buffer.totalSize = buffer.chunkSize then
    ({ self with incomingDataBuffer := .null },
      RsGRouterSerialiser.deserialise buffer.chunkData)
  else
    ({ self with incomingDataBuffer := .live buffer }, none)

/-- The chunk is inconsistent or too large. -/
def Inconsistent (chunk : RsGRouterTransactionChunkItem) : Prop :=
  maxGRouterDataSize + 10000 < chunk.totalSize ∨ chunk.totalSize < chunk.chunkSize ∨
    chunk.totalSize ≤ chunk.chunkStart

instance : DecidablePred Inconsistent := fun _ => inferInstanceAs (Decidable (_ ∨ _))

/-- `GRouterDataInfo::addDataChunk`.  What the code does with a buffer that it has deleted is not
defined; here the buffer stays deleted. -/
def addDataChunk (self : GRouterDataInfo) (now : Nat) (chunk : RsGRouterTransactionChunkItem) :
    GRouterDataInfo × Option RsGRouterAbstractMsgItem :=
  let self := { self with lastActivityTS := now }
  if Inconsistent chunk then
    (self.clear, none)
  else
    match self.incomingDataBuffer with
    | .null =>
        if chunk.chunkStart ≠ 0 then (self, none) else self.returnIfFinished chunk
    | .live buffer =>
        if buffer.chunkSize ≠ chunk.chunkStart ∨ buffer.totalSize ≠ chunk.totalSize then
          ({ self with incomingDataBuffer := .deleted }, none)
        else
          self.returnIfFinished { buffer with chunkData := buffer.chunkData ++ chunk.chunkData }
    | .deleted => (self, none)

/-- A new `GRouterDataInfo`. -/
def init : GRouterDataInfo := ⟨.null, 0⟩

end GRouterDataInfo

/-- The pipe of a peer, with the chunks that come from it and their times. -/
def pipe : Machine GRouterDataInfo (Nat × RsGRouterTransactionChunkItem)
    RsGRouterAbstractMsgItem where
  step s input := ((s.addDataChunk input.1 input.2).1, (s.addDataChunk input.1 input.2).2.toList)

/-! ### Slices -/

/-- `CHUNK_SIZE` of `sliceDataItem`. -/
def sliceChunkSize : Nat := 15000

/-- The chunks of `data` from `offset` on. -/
def slices (routingId : GRouterMsgPropagationId) (data : List UInt8) (offset : Nat) :
    List RsGRouterTransactionChunkItem :=
  if offset < data.length then
    ⟨routingId, offset, data.length, (data.drop offset).take sliceChunkSize⟩ ::
      slices routingId data (offset + min (data.length - offset) sliceChunkSize)
  else
    []
termination_by data.length - offset
decreasing_by simp only [sliceChunkSize]; omega

/-- `p3GRouter::sliceDataItem`. -/
def sliceDataItem (item : RsGRouterAbstractMsgItem) : List RsGRouterTransactionChunkItem :=
  slices item.routingId item.serialise 0

/-! ### The condition -/

/-- A live buffer is not complete, and there is no deleted one. -/
def DataBuffer.Usable : DataBuffer → Prop
  | .null => True
  | .live buffer => buffer.chunkSize < buffer.totalSize
  | .deleted => False

/-- While there is a buffer, a chunk is inconsistent, which resets the pipe, or it continues the
buffer without exceeding its total size. -/
def Fits (s : GRouterDataInfo) (input : Nat × RsGRouterTransactionChunkItem) : Prop :=
  match s.incomingDataBuffer with
  | .null => True
  | .live buffer =>
      GRouterDataInfo.Inconsistent input.2 ∨
        input.2.chunkStart = buffer.chunkSize ∧ input.2.totalSize = buffer.totalSize ∧
          buffer.chunkSize + input.2.chunkSize ≤ buffer.totalSize
  | .deleted => False

/-- The chunk is rejected: it is inconsistent, or does not continue what there is. -/
def Rejected (s : GRouterDataInfo) (chunk : RsGRouterTransactionChunkItem) : Prop :=
  GRouterDataInfo.Inconsistent chunk ∨
    match s.incomingDataBuffer with
    | .null => chunk.chunkStart ≠ 0
    | .live buffer => buffer.chunkSize ≠ chunk.chunkStart ∨ buffer.totalSize ≠ chunk.totalSize
    | .deleted => False

/-- The chunk completes a message. -/
def Completes (s : GRouterDataInfo) (chunk : RsGRouterTransactionChunkItem) : Prop :=
  ¬ Rejected s chunk ∧
    match s.incomingDataBuffer with
    | .null => chunk.totalSize = chunk.chunkSize
    | .live buffer => buffer.totalSize = buffer.chunkSize + chunk.chunkSize
    | .deleted => False

/-- The history is not empty, and its last chunk was rejected or completed a message. -/
def EndsClosed (history : List (Nat × RsGRouterTransactionChunkItem)) : Prop :=
  ∃ before last, history = before ++ [last] ∧
    (Rejected (pipe.run .init before) last.2 ∨ Completes (pipe.run .init before) last.2)

/-- The chunks of `item`, at any times, are put together: the last call returns the item, and
no other call returns anything. -/
def Reassembles (s : GRouterDataInfo) (item : RsGRouterAbstractMsgItem) : Prop :=
  ∀ inputs : List (Nat × RsGRouterTransactionChunkItem),
    inputs.map Prod.snd = sliceDataItem item →
    ∃ before last, inputs = before ++ [last] ∧ pipe.trace s before = [] ∧
      pipe.emit (pipe.run s before) last = [item.withoutPeer]

/-! ### The buffer stays usable -/

theorem pipe_next (s : GRouterDataInfo) (input : Nat × RsGRouterTransactionChunkItem) :
  pipe.next s input = (s.addDataChunk input.1 input.2).1
  := by
  rw [Machine.next, pipe]

theorem pipe_emit (s : GRouterDataInfo) (input : Nat × RsGRouterTransactionChunkItem) :
  pipe.emit s input = (s.addDataChunk input.1 input.2).2.toList
  := by
  rw [Machine.emit, pipe]

/-- A buffer that is no larger than its total size is usable after the end of `addDataChunk`. -/
theorem usable_returnIfFinished (s : GRouterDataInfo) (buffer : RsGRouterTransactionChunkItem) :
  (s.returnIfFinished buffer).1.incomingDataBuffer.Usable ↔ buffer.chunkSize ≤ buffer.totalSize
  := by
  rw [GRouterDataInfo.returnIfFinished]
  by_cases hfull : buffer.totalSize = buffer.chunkSize
  · rw [if_pos hfull, hfull]
    simp only [DataBuffer.Usable, le_refl]
  · rw [if_neg hfull]
    simp only [DataBuffer.Usable]
    omega

variable {s : GRouterDataInfo} {routingId : GRouterMsgPropagationId} {data : List UInt8}
  {offset : Nat} (input : Nat × RsGRouterTransactionChunkItem) {item : RsGRouterAbstractMsgItem}

theorem usable_next_iff (hs : s.incomingDataBuffer.Usable) :
  (pipe.next s input).incomingDataBuffer.Usable ↔ Fits s input
  := by
  rw [pipe_next, GRouterDataInfo.addDataChunk, Fits]
  cases hbuffer : s.incomingDataBuffer with
  | null =>
    simp only [iff_true]
    by_cases hbad : GRouterDataInfo.Inconsistent input.2
    · simp only [if_pos hbad, GRouterDataInfo.clear, DataBuffer.Usable]
    rw [if_neg hbad]
    split
    · simp only [DataBuffer.Usable]
    · rw [usable_returnIfFinished]
      simp only [GRouterDataInfo.Inconsistent, not_or, not_lt] at hbad
      exact hbad.2.1
  | live buffer =>
    simp only
    by_cases hbad : GRouterDataInfo.Inconsistent input.2
    · rw [if_pos hbad, iff_true_right (Or.inl hbad)]
      trivial
    rw [if_neg hbad, or_iff_right hbad]
    by_cases hmismatch : buffer.chunkSize ≠ input.2.chunkStart ∨
        buffer.totalSize ≠ input.2.totalSize
    · simp only [if_pos hmismatch, DataBuffer.Usable, false_iff]
      omega
    · rw [if_neg hmismatch, usable_returnIfFinished]
      simp only [not_or, not_ne_iff] at hmismatch
      simp only [RsGRouterTransactionChunkItem.chunkSize, List.length_append]
      constructor
      · intro h
        exact ⟨hmismatch.1.symm, hmismatch.2.symm, h⟩
      · rintro ⟨-, -, h⟩
        exact h
  | deleted =>
    rw [hbuffer] at hs
    cases hs

theorem null_of_closed (hfits : Fits s input) (hclosed : Rejected s input.2 ∨ Completes s input.2) :
  (pipe.next s input).incomingDataBuffer = .null
  := by
  rw [pipe_next, GRouterDataInfo.addDataChunk]
  rw [Fits] at hfits
  rw [Completes, Rejected] at hclosed
  by_cases hbad : GRouterDataInfo.Inconsistent input.2
  case pos =>
    rw [if_pos hbad, GRouterDataInfo.clear]
    cases hbuffer : s.incomingDataBuffer with
    | null => rfl
    | live buffer => rfl
    | deleted =>
      rw [hbuffer] at hfits
      cases hfits
  case neg =>
    simp only [or_iff_right hbad, if_neg hbad] at hfits hclosed ⊢
    cases hbuffer : s.incomingDataBuffer with
    | null =>
      simp only [hbuffer] at hclosed ⊢
      by_cases hstart : input.2.chunkStart ≠ 0
      · rw [if_pos hstart]
      · rw [if_neg hstart, GRouterDataInfo.returnIfFinished]
        obtain hclosed | ⟨-, hfull⟩ := hclosed
        · exact absurd hclosed hstart
        · rw [if_pos hfull]
    | live buffer =>
      simp only [hbuffer] at hfits hclosed ⊢
      have hmatch : ¬ (buffer.chunkSize ≠ input.2.chunkStart ∨
          buffer.totalSize ≠ input.2.totalSize) := by omega
      obtain hclosed | ⟨-, hfull⟩ := hclosed
      · exact absurd hclosed hmatch
      · have hlength : buffer.totalSize =
            ({ buffer with chunkData := buffer.chunkData ++ input.2.chunkData } :
              RsGRouterTransactionChunkItem).chunkSize := by
          simpa only [RsGRouterTransactionChunkItem.chunkSize, List.length_append] using hfull
        rw [if_neg hmatch, GRouterDataInfo.returnIfFinished, if_pos hlength]
    | deleted =>
      rw [hbuffer] at hfits
      cases hfits

/-! ### Slices are put together -/

/-- The buffer after the first `offset` bytes of `data`. -/
def bufferAt (routingId : GRouterMsgPropagationId) (data : List UInt8) (offset : Nat) :
    DataBuffer :=
  if offset = 0 then .null else .live ⟨routingId, 0, data.length, data.take offset⟩

theorem addDataChunk_slice (now : Nat) (hsize : data.length ≤ maxGRouterDataSize + 10000)
    (hoffset : offset < data.length) (hs : s.incomingDataBuffer = bufferAt routingId data offset) :
  s.addDataChunk now ⟨routingId, offset, data.length, (data.drop offset).take sliceChunkSize⟩ =
    GRouterDataInfo.returnIfFinished { s with lastActivityTS := now }
      ⟨routingId, 0, data.length,
        data.take (offset + min (data.length - offset) sliceChunkSize)⟩
  := by
  have htake : data.take (offset + min (data.length - offset) sliceChunkSize) =
      data.take offset ++ (data.drop offset).take sliceChunkSize := by
    rw [List.take_add]
    congr 1
    rw [List.take_eq_take_iff, List.length_drop]
    omega
  have hgood : ¬ GRouterDataInfo.Inconsistent
      ⟨routingId, offset, data.length, (data.drop offset).take sliceChunkSize⟩ := by
    simp only [GRouterDataInfo.Inconsistent, RsGRouterTransactionChunkItem.chunkSize,
      List.length_take, List.length_drop]
    omega
  rw [GRouterDataInfo.addDataChunk, if_neg hgood]
  by_cases hzero : offset = 0
  · simp only [hs, bufferAt, if_pos hzero]
    rw [if_neg (not_ne_iff.2 hzero)]
    rw [htake, hzero, List.take_zero, List.nil_append]
  · simp only [hs, bufferAt, if_neg hzero]
    rw [if_neg]
    · rw [htake]
    · simp only [RsGRouterTransactionChunkItem.chunkSize, List.length_take]
      omega

/-- The slices from `offset` on complete the message. -/
theorem feed_slices (hsize : data.length ≤ maxGRouterDataSize + 10000)
    (hoffset : offset < data.length) (hs : s.incomingDataBuffer = bufferAt routingId data offset)
    {inputs : List (Nat × RsGRouterTransactionChunkItem)}
    (hinputs : inputs.map Prod.snd = slices routingId data offset) :
  ∃ before last, inputs = before ++ [last] ∧ pipe.trace s before = [] ∧
    pipe.emit (pipe.run s before) last = (RsGRouterSerialiser.deserialise data).toList
  := by
  induction offset using slices.induct data generalizing s inputs with
  | case2 offset hend => exact absurd hoffset hend
  | case1 offset hlt ih =>
    rw [slices, if_pos hlt] at hinputs
    obtain ⟨input, rest, rfl, hchunk, hrest⟩ := List.map_eq_cons_iff.1 hinputs
    have hadd := addDataChunk_slice input.1 hsize hoffset hs
    rw [← hchunk] at hadd
    by_cases hlast : offset + min (data.length - offset) sliceChunkSize < data.length
    case neg =>
      have htake : data.take (offset + min (data.length - offset) sliceChunkSize) = data :=
        List.take_of_length_le (not_lt.1 hlast)
      rw [slices, if_neg hlast, List.map_eq_nil_iff] at hrest
      refine ⟨[], input, by rw [hrest, List.nil_append], rfl, ?_⟩
      have hfull : data.length = (⟨routingId, 0, data.length, data⟩ :
          RsGRouterTransactionChunkItem).chunkSize := rfl
      rw [Machine.run_nil, pipe_emit, hadd, htake, GRouterDataInfo.returnIfFinished,
        if_pos hfull]
    case pos =>
      have hpartial : (s.addDataChunk input.1 input.2) =
          ({ s with
              lastActivityTS := input.1
              incomingDataBuffer := bufferAt routingId data
                (offset + min (data.length - offset) sliceChunkSize) }, none) := by
        rw [hadd, GRouterDataInfo.returnIfFinished, if_neg, bufferAt, if_neg]
        · simp only [sliceChunkSize]
          omega
        · simp only [RsGRouterTransactionChunkItem.chunkSize, List.length_take]
          omega
      have hnext : (pipe.next s input).incomingDataBuffer = bufferAt routingId data
          (offset + min (data.length - offset) sliceChunkSize) := by
        rw [pipe_next, hpartial]
      obtain ⟨before, last, rfl, htrace, hemit⟩ := ih hlast hnext hrest
      have hnothing : pipe.emit s input = [] := by
        rw [pipe_emit, hpartial, Option.toList_none]
      refine ⟨input :: before, last, rfl, ?_, ?_⟩
      · rw [Machine.trace_cons, hnothing, htrace, List.append_nil]
      · rw [Machine.run_cons, hemit]

/-! ### Interrupted transmissions -/

theorem serialSize_pos (item : RsGRouterAbstractMsgItem) :
  0 < item.serialSize
  := by
  cases item with
  | data item =>
    simp only [RsGRouterAbstractMsgItem.serialSize, RsGRouterGenericDataItem.serialSize]
    omega
  | receipt item =>
    simp only [RsGRouterAbstractMsgItem.serialSize, RsGRouterSignedReceiptItem.serialSize]
    omega

/-- An empty pipe puts a message together that is not too large. -/
theorem reassembles_of_null (hs : s.incomingDataBuffer = .null) (hwell : item.WellFormed)
    (hsize : item.serialSize ≤ maxGRouterDataSize + 10000) :
  Reassembles s item
  := by
  intro inputs hinputs
  rw [← item.length_serialise] at hsize
  have hpos : 0 < item.serialise.length := item.length_serialise.symm ▸ serialSize_pos item
  have hfeed := feed_slices hsize hpos (hs.trans (if_pos rfl).symm) hinputs
  rwa [deserialise_serialise hwell] at hfeed

theorem totalSize_of_mem_slices {chunk : RsGRouterTransactionChunkItem}
    (h : chunk ∈ slices routingId data offset) :
  chunk.totalSize = data.length
  := by
  induction offset using slices.induct data with
  | case1 offset hlt ih =>
    rw [slices, if_pos hlt, List.mem_cons] at h
    obtain rfl | h := h
    · rfl
    · exact ih h
  | case2 offset hend =>
    rw [slices, if_neg hend] at h
    cases h

/-- A message that is too large is not put together. -/
theorem le_of_reassembles (h : Reassembles s item) :
  item.serialSize ≤ maxGRouterDataSize + 10000
  := by
  by_contra hsize
  obtain ⟨before, last, hinputs, -, hemit⟩ := h ((sliceDataItem item).map fun chunk => (0, chunk))
    (by rw [List.map_map]; exact List.map_id _)
  have hmem : last ∈ (sliceDataItem item).map fun chunk => (0, chunk) := by
    rw [hinputs]
    exact List.mem_append_right _ List.mem_cons_self
  obtain ⟨chunk, hchunk, rfl⟩ := List.mem_map.1 hmem
  have htotal := totalSize_of_mem_slices hchunk
  rw [item.length_serialise] at htotal
  have hbad : GRouterDataInfo.Inconsistent chunk := by
    rw [GRouterDataInfo.Inconsistent, htotal]
    exact Or.inl (not_le.1 hsize)
  rw [pipe_emit, GRouterDataInfo.addDataChunk, if_pos hbad] at hemit
  cases hemit

/-- The buffer stays usable through a history of chunks, and a message whose chunks follow a closed
history is put together, if and only if every chunk of the history fits and the message is not too
large. -/
theorem pipe_recovers (history : List (Nat × RsGRouterTransactionChunkItem))
    (item : RsGRouterAbstractMsgItem) (hwell : item.WellFormed) :
  (pipe.Along (fun s input => (pipe.next s input).incomingDataBuffer.Usable) .init history ∧
    (EndsClosed history → Reassembles (pipe.run .init history) item)) ↔
  pipe.Along Fits .init history ∧
    (EndsClosed history → item.serialSize ≤ maxGRouterDataSize + 10000)
  := by
  have hinit : GRouterDataInfo.init.incomingDataBuffer.Usable := trivial
  constructor
  · rintro ⟨husable, hreassembles⟩
    constructor
    · apply Machine.along_of_step (P := fun s => s.incomingDataBuffer.Usable) _ hinit husable
      intro s input hs hnext
      exact ⟨(usable_next_iff input hs).1 hnext, hnext⟩
    · intro hclosed
      apply le_of_reassembles (hreassembles hclosed)
  · rintro ⟨hfits, hsize⟩
    constructor
    · apply Machine.along_of_step (P := fun s => s.incomingDataBuffer.Usable) _ hinit hfits
      intro s input hs hinput
      have hnext := (usable_next_iff input hs).2 hinput
      exact ⟨hnext, hnext⟩
    · intro hclosed
      obtain ⟨before, last, rfl, hlast⟩ := id hclosed
      rw [Machine.along_append] at hfits
      apply reassembles_of_null _ hwell (hsize hclosed)
      rw [Machine.run_append]
      apply null_of_closed last hfits.2.1 hlast

/-- A message of two slices. -/
def longMessage : RsGRouterAbstractMsgItem :=
  .data ⟨0, 1, 1, 0, ⟨0, []⟩, 0, List.replicate 20000 7, 0⟩

/-- The beginning of a message, and a chunk without a total size, which resets the pipe. -/
def resumed : List (Nat × RsGRouterTransactionChunkItem) :=
  [(0, ⟨1, 0, 10, [1, 2, 3]⟩), (1, ⟨1, 0, 0, []⟩)]

theorem pipe_recovers_resumed :
  sliceChunkSize < longMessage.serialSize ∧
    pipe.Along (fun s input => (pipe.next s input).incomingDataBuffer.Usable) .init resumed ∧
    Reassembles (pipe.run .init resumed) longMessage
  := by
  have hsize : longMessage.serialSize = 20098 := by
    obtain ⟨bytes, hbytes⟩ : ∃ bytes, List.replicate 20000 (7 : UInt8) = bytes := ⟨_, rfl⟩
    have hlength : bytes.length = 20000 := hbytes ▸ List.length_replicate
    rw [longMessage, hbytes, RsGRouterAbstractMsgItem.serialSize,
      RsGRouterGenericDataItem.serialSize, hlength]
    rfl
  have hwell : longMessage.WellFormed :=
    ⟨by decide, by decide, by decide, by decide, by decide, hsize.trans_lt (by decide)⟩
  have hclosed : EndsClosed resumed :=
    ⟨[(0, ⟨1, 0, 10, [1, 2, 3]⟩)], _, rfl, .inl (.inl (by decide))⟩
  obtain ⟨husable, hreassembles⟩ := (pipe_recovers resumed longMessage hwell).mpr
    ⟨⟨trivial, .inl (by decide), trivial⟩, fun _ => hsize.trans_le (by decide)⟩
  exact ⟨by rw [hsize]; decide, husable, hreassembles hclosed⟩

/-- The second chunk does not continue the first one. -/
def interrupted : List (Nat × RsGRouterTransactionChunkItem) :=
  [(0, ⟨1, 0, 10, [1, 2, 3, 4, 5]⟩), (0, ⟨1, 7, 10, [8, 9, 10]⟩)]

/-- After `interrupted`, the pointer points to a deleted buffer. -/
theorem not_usable_interrupted :
  ¬ pipe.Along (fun s input => (pipe.next s input).incomingDataBuffer.Usable) .init interrupted
  := by
  rintro ⟨-, hdeleted, -⟩
  exact hdeleted

end GRouter
