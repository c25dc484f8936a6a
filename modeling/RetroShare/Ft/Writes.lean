import RetroShare.Ft.Parts

/-!
# Where data is written

`addFileData` cuts data off at the end of the file.  For data that starts behind the end the
difference of the two wraps around, and what is written is neither in the file nor in the packet
(`writesInside_iff`).
-/

namespace Ft

namespace FileCreator

variable {PeerId : Type} [LinearOrder PeerId] (s : FileCreator PeerId) (now : Int)

/-- What is written for a packet of `chunkSize` bytes at `offset` is at most these bytes, and lies
within the file from `offset` on. -/
def WritesInside (offset : UInt64) (chunkSize : UInt32) (events : List (FileEvent PeerId)) : Prop :=
  ∀ p n, .chunk (.wrote p n) ∈ events →
    n ≤ chunkSize.toNat ∧ offset.toNat ≤ p ∧ p + n ≤ s.chunkMap.fileSize

/-- The file system lets data be written at `offset`, or a beginning of it. -/
def Writable (io : WriteOutcome) (offset : UInt64) : Prop :=
  io.checkForDiscSpace ∧ (s.fd ∨ io.opens) ∧ offset.toNat < 2 ^ 63 ∧ io.seeks ∧
    0 < io.writes

instance (io : WriteOutcome) (offset : UInt64) : Decidable (s.Writable io offset) :=
  inferInstanceAs (Decidable (_ ∧ _))

/-- What is to be written of a packet. -/
def writeSize (offset : UInt64) (chunkSize : UInt32) : Nat :=
  if s.chunkMap.fileSize < add64 offset.toNat chunkSize.toNat then
    sub64 s.chunkMap.fileSize offset.toNat % 2 ^ 32
  else
    chunkSize.toNat

/-- A slice that is complete, or a chunk, is no data that is written. -/
theorem not_wrote_receivePart (chunk : FtChunk PeerId) (size p n : Nat) :
  .chunk (.wrote p n) ∉ (s.receivePart now chunk size).2
  := by
  rw [receivePart]
  simp only []
  split
  case isTrue => exact List.not_mem_nil
  case isFalse =>
    split
    case isTrue =>
      have hreceived : .wrote p n ∉ (s.chunkMap.dataReceived now chunk.id).2 := by
        rw [ChunkMap.dataReceived]
        simp only []
        split
        case h_1 => exact List.not_mem_nil
        case h_2 =>
          split
          case h_1 => exact List.not_mem_nil
          case h_2 =>
            split
            · simp
            · exact List.not_mem_nil
      simpa using hreceived
    case isFalse => exact List.not_mem_nil

theorem not_wrote_notifyReceived (offset size p n : Nat) :
  .chunk (.wrote p n) ∉ (s.notifyReceived now offset size).2
  := by
  rw [notifyReceived]
  split
  case h_1 => apply not_wrote_receivePart
  case h_2 =>
    split
    case h_1 => exact List.not_mem_nil
    case h_2 => apply not_wrote_receivePart

/-- Data is written at its offset, when there is some, and as far as the file system lets it be. -/
theorem wrote_mem_addFileData_iff (io : WriteOutcome) (offset : UInt64) (chunkSize : UInt32)
    (p n : Nat) :
  .chunk (.wrote p n) ∈ (s.addFileData now io offset chunkSize).2 ↔
    s.Writable io offset ∧ s.writeSize offset chunkSize ≠ 0 ∧ p = offset.toNat ∧
      n = min io.writes (s.writeSize offset chunkSize)
  := by
  rw [Writable]
  rw [addFileData]
  split
  case isTrue h =>
    simp only [Bool.not_eq_true'] at h
    simp [h]
  case isFalse h =>
    simp only [Bool.not_eq_true', Bool.not_eq_false] at h
    split
    case isTrue hopen =>
      simp only [Bool.and_eq_true, Bool.not_eq_true'] at hopen
      simp [hopen]
    case isFalse hopen =>
      have hopen' : s.fd = true ∨ io.opens = true := by
        cases hfd : s.fd <;> cases ho : io.opens <;> simp [hfd, ho] at hopen ⊢
      simp only [h, hopen', true_and]
      split
      case isTrue hseek =>
        simp only [Bool.or_eq_true, decide_eq_true_eq, Bool.not_eq_true'] at hseek
        rcases hseek with hseek | hseek
        · have hfar : ¬ offset.toNat < 2 ^ 63 := Nat.not_lt.2 hseek
          simp only [hfar, false_and, List.not_mem_nil]
        · simp [hseek]
      case isFalse hseek =>
        simp only [Bool.or_eq_true, decide_eq_true_eq, Bool.not_eq_true', not_or, Nat.not_le,
          Bool.not_eq_false] at hseek
        simp only [hseek, true_and]
        change _ ∈ (ite (min io.writes (s.writeSize offset chunkSize) = 0) _ _ : _ × _).2 ↔ _
        split
        case isTrue hwrite =>
          refine iff_of_false List.not_mem_nil fun h => ?_
          omega
        case isFalse hwrite =>
          have hsome : 0 < io.writes ∧ s.writeSize offset chunkSize ≠ 0 := by omega
          simp only [hsome, ne_eq, not_false_eq_true, true_and]
          change _ ∈ (ite (min io.writes (s.writeSize offset chunkSize) <
            s.writeSize offset chunkSize) _ _ : _ × _).2 ↔ _
          split
          case isTrue => simp [writeSize]
          case isFalse hall =>
            have hnot := not_wrote_notifyReceived ({ s with fd := true } : FileCreator PeerId) now
              offset.toNat (s.writeSize offset chunkSize) p n
            change _ ∈ FileEvent.chunk (.wrote offset.toNat (s.writeSize offset chunkSize)) ::
              (({ s with fd := true } : FileCreator PeerId).notifyReceived now offset.toNat
                (s.writeSize offset chunkSize)).2 ↔ _
            rw [List.mem_cons, or_iff_left hnot, FileEvent.chunk.injEq, Event.wrote.injEq,
              min_eq_right (by omega : s.writeSize offset chunkSize ≤ io.writes)]

/-- What is written lies in the packet and in the file exactly when nothing is, or the offset lies
in the file, or behind its end by a multiple of `2 ^ 32`. -/
theorem writesInside_iff (hsize : s.chunkMap.fileSize < 2 ^ 64) (now : Int) (io : WriteOutcome)
    (offset : UInt64) (chunkSize : UInt32) :
  s.WritesInside offset chunkSize (s.addFileData now io offset chunkSize).2 ↔
    (s.Writable io offset → s.chunkMap.fileSize < offset.toNat →
      (offset.toNat - s.chunkMap.fileSize) % 2 ^ 32 = 0)
  := by
  have hchunk := chunkSize.toNat_lt
  have hwriteSize : offset.toNat < 2 ^ 63 → s.writeSize offset chunkSize =
      if s.chunkMap.fileSize < offset.toNat + chunkSize.toNat then
        (s.chunkMap.fileSize + 2 ^ 64 - offset.toNat) % 2 ^ 32
      else chunkSize.toNat := by
    intro hoffset
    rw [writeSize, add64, sub64, Nat.mod_eq_of_lt (by omega)]
    split <;> omega
  simp only [WritesInside, wrote_mem_addFileData_iff]
  constructor
  · intro hinside hwritable hbehind
    have hoffset := hwritable.2.2.1
    have hw := hwriteSize hoffset
    rw [if_pos (by omega)] at hw
    by_contra hne
    have h := hinside _ _ ⟨hwritable, by omega, rfl, rfl⟩
    omega
  · rintro h p n ⟨hwritable, hne, rfl, rfl⟩
    have hoffset := hwritable.2.2.1
    have hw := hwriteSize hoffset
    have hend := h hwritable
    split at hw <;> omega

theorem writesInside_three_four :
  (FileCreator.new 10 true 0 : FileCreator Nat).WritesInside 3 4
    ((FileCreator.new 10 true 0 : FileCreator Nat).addFileData 0 writeSucceeds 3 4).2
  := by
  have hsize : (FileCreator.new 10 true 0 : FileCreator Nat).chunkMap.fileSize < 2 ^ 64 := by
    decide
  rw [writesInside_iff _ hsize]
  intro _ hbehind
  exact absurd hbehind (by decide)

/-- A packet of one byte behind the end of a file of ten bytes has `2 ^ 32 - 1` bytes written. -/
theorem not_writesInside_eleven_one :
  ¬ (FileCreator.new 10 true 0 : FileCreator Nat).WritesInside 11 1
    ((FileCreator.new 10 true 0 : FileCreator Nat).addFileData 0 writeSucceeds 11 1).2
  := by
  intro h
  obtain ⟨hle, -⟩ := h 11 (2 ^ 32 - 1) ((wrote_mem_addFileData_iff ..).2 (by decide))
  revert hle
  decide

end FileCreator

end Ft
