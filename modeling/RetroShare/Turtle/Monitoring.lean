import RetroShare.Turtle.Steps

/-!
# Monitored hashes stay monitored

`stopMonitoringTunnels` marks a hash, and `autoWash` removes the hashes that are marked, unless
`monitorTunnels` has cancelled their marks.  The loop that cancels them fills the place of a mark
with the last one, which it does not look at: when this is the same hash, the mark stays, and the
hash is removed although it was asked for last.
-/

namespace Turtle

namespace p3turtle

variable {own : Own} {router router' router'' : p3turtle} {hash hash' : TurtleFileHash}
  {hashes : List TurtleFileHash} (service : RsTurtleClientService)

/-- The calls for a hash. -/
inductive Call
  | monitor
  | stop
  deriving DecidableEq

/-- The call for a hash that an input is. -/
def callOf (hash : TurtleFileHash) : Input own → Option Call
  | .monitorTunnels hash' _ _ => if hash' = hash then some .monitor else none
  | .stopMonitoringTunnels hash' => if hash' = hash then some .stop else none
  | _ => none

/-- The last call for a hash. -/
def lastCall (hash : TurtleFileHash) (inputs : List (Input own)) : Option Call :=
  (inputs.filterMap (callOf hash)).getLast?

/-- Every mark of a hash has at least as many marks behind it as there are of the hash before it. -/
def Cancellable (hash : TurtleFileHash) (hashes : List TurtleFileHash) : Prop :=
  ∀ k, hashes[k]? = some hash → (hashes.take k).count hash + k + 1 ≤ hashes.length

/-- A hash is monitored when all its marks can be cancelled. -/
def CancelsMarks (own : Own) (router : p3turtle) : Input own → Prop
  | .monitorTunnels hash _ _ => Cancellable hash router.hashesToRemove
  | _ => True

/-! ### Cancelling marks -/

theorem Cancellable.tail (h : Cancellable hash (hash' :: hashes)) (hne : hash' ≠ hash) :
  Cancellable hash hashes
  := by
  intro k hk
  have hcount := h (k + 1) (by simpa using hk)
  rw [List.take_succ_cons, List.count_cons_of_ne hne, List.length_cons] at hcount
  omega

theorem Cancellable.dropLast (h : Cancellable hash (hash :: (hashes ++ [hash']))) :
  hash' ≠ hash ∧ Cancellable hash hashes
  := by
  constructor
  · rintro rfl
    have hcount := h (hashes.length + 1) (by simp)
    simp at hcount
  · intro k hk
    obtain ⟨hlt, -⟩ := List.getElem?_eq_some_iff.mp hk
    have hcount := h (k + 1) (by
      rw [List.getElem?_cons_succ, List.getElem?_append_left hlt]
      exact hk)
    rw [List.take_succ_cons, List.count_cons_self, List.take_append_of_le_length hlt.le] at hcount
    simp only [List.length_cons, List.length_append, List.length_nil] at hcount
    omega

theorem mem_of_mem_cancelRemovalFrom {n i : Nat} (h : hash' ∈ cancelRemovalFrom hash n i hashes) :
  hash' ∈ hashes
  := by
  induction n generalizing i hashes with
  | zero => exact h
  | succ n ih =>
    rw [cancelRemovalFrom] at h
    split at h
    case isFalse => exact ih h
    case isTrue hmark =>
      have hne : hashes ≠ [] := by
        rintro rfl
        cases hmark
      obtain hmem | rfl := List.mem_or_eq_of_mem_set (List.mem_of_mem_dropLast (ih h))
      · exact hmem
      · rw [List.getLastD_eq_getLast?, List.getLast?_eq_some_getLast hne]
        apply List.getLast_mem

/-- The loop at a position, when the marks before it are not of the hash. -/
theorem not_mem_cancelRemovalFrom {n : Nat} {before : List TurtleFileHash}
    (hlength : hashes.length ≤ n) (hbefore : hash ∉ before) (h : Cancellable hash hashes) :
  hash ∉ cancelRemovalFrom hash n before.length (before ++ hashes)
  := by
  induction n generalizing before hashes with
  | zero =>
    rw [List.length_eq_zero_iff.mp (Nat.le_zero.mp hlength), List.append_nil]
    exact hbefore
  | succ n ih =>
    cases hashes with
    | nil =>
      intro hmem
      apply hbefore
      simpa using mem_of_mem_cancelRemovalFrom hmem
    | cons hash' hashes =>
      rw [cancelRemovalFrom]
      by_cases hhash : hash' = hash
      · subst hhash
        rw [if_pos (by simp)]
        -- the place of the mark is filled with the last one
        obtain rfl | ⟨rest, last, rfl⟩ := hashes.eq_nil_or_concat
        · intro hmem
          apply hbefore
          simpa using mem_of_mem_cancelRemovalFrom hmem
        · rw [List.concat_eq_append] at h hlength ⊢
          obtain ⟨hlast, hrest⟩ := h.dropLast
          have heq : (((before ++ hash' :: (rest ++ [last])).set before.length
              ((before ++ hash' :: (rest ++ [last])).getLastD hash')).dropLast) =
              (before ++ [last]) ++ rest := by
            have hgetLast : (before ++ hash' :: (rest ++ [last])).getLastD hash' = last := by
              rw [List.getLastD_eq_getLast?]
              simp [List.getLast?_append, List.getLast?_cons]
            rw [hgetLast, List.set_append_right _ _ le_rfl, Nat.sub_self, List.set_cons_zero,
              ← List.cons_append, ← List.append_assoc, List.dropLast_concat]
            simp
          rw [heq, show before.length + 1 = (before ++ [last]).length by simp]
          apply ih _ _ hrest
          · simp only [List.length_cons, List.length_append, List.length_nil] at hlength
            omega
          · rw [List.mem_append, List.mem_singleton]
            rintro (hmem | heq)
            · exact hbefore hmem
            · exact hlast heq.symm
      · rw [if_neg (by simpa using hhash), show before.length + 1 = (before ++ [hash']).length
          by simp, show before ++ hash' :: hashes = (before ++ [hash']) ++ hashes by simp]
        apply ih (Nat.le_of_succ_le_succ hlength) _ (h.tail hhash)
        rw [List.mem_append, List.mem_singleton]
        rintro (hmem | heq)
        · exact hbefore hmem
        · exact hhash heq.symm

/-! ### Steps that keep what is monitored -/

/-- The marks are the same, and no hash is removed. -/
structure Stays (router router' : p3turtle) : Prop where
  marks : router'.hashesToRemove = router.hashesToRemove
  incoming : ∀ hash, (router.incomingFileHashes.get? hash).isSome →
    (router'.incomingFileHashes.get? hash).isSome

theorem Stays.refl (router : p3turtle) :
  Stays router router
  := ⟨rfl, fun _ h => h⟩

theorem Stays.trans (h : Stays router router') (h' : Stays router' router'') :
  Stays router router''
  := ⟨h'.marks.trans h.marks, fun hash hs => h'.incoming hash (h.incoming hash hs)⟩

theorem isSome_insert {info : TurtleHashInfo} {incoming : OrdMap TurtleFileHash TurtleHashInfo}
    (h : (incoming.get? hash').isSome) :
  ((incoming.insert hash info).get? hash').isSome
  := by
  rw [OrdMap.get?_insert]
  split
  · rfl
  · exact h

theorem stays_handleTunnelRequest (own : Own) (item : RsTurtleOpenTunnelItem) (env : Surroundings) :
  Stays router (router.handleTunnelRequest own item env).1
  := by
  rw [handleTunnelRequest]
  cases router.tunnelRequestsOrigins.get? item.requestId with
  | some _ => exact Stays.refl router
  | none =>
    dsimp only
    split <;> exact ⟨rfl, fun _ h => h⟩

theorem stays_diggTunnel (own : Own) (hash : TurtleFileHash) (draw : TurtleTunnelRequestId)
    (env : Surroundings) :
  Stays router (router.diggTunnel own hash draw env).1
  := by
  have hdigg : Stays router (router.recordDigg hash draw env.now) :=
    ⟨rfl, fun _ h => isSome_insert h⟩
  apply hdigg.trans
  apply stays_handleTunnelRequest

theorem stays_manageTunnels (own : Own) (keepTime : TurtleFileHash → Nat)
    (draw : TurtleTunnelRequestId) (env : Surroundings) :
  Stays router (router.manageTunnels own keepTime draw env).1
  := by
  have htouch (tids : List TurtleTunnelId) : Stays router (router.touchTunnels tids) :=
    ⟨rfl, fun _ h => h⟩
  rw [manageTunnels]
  split
  · apply htouch
  · apply (htouch _).trans
    apply stays_diggTunnel

theorem stays_attachTunnels (tid : TurtleTunnelId) (hashes : List TurtleFileHash) :
  Stays router (hashes.foldl (fun router => router.attachTunnel tid) router)
  := by
  induction hashes generalizing router with
  | nil => exact Stays.refl router
  | cons hash hashes ih =>
    have hattach : Stays router (router.attachTunnel tid hash) := ⟨rfl, fun _ h => isSome_insert h⟩
    apply hattach.trans ih

theorem stays_handleTunnelResult (own : Own) (item : RsTurtleTunnelOkItem) (now : Nat) :
  Stays router (router.handleTunnelResult own item now).1
  := by
  rw [handleTunnelResult]
  cases router.tunnelRequestsOrigins.get? item.requestId with
  | none => exact Stays.refl router
  | some info =>
    have hrecord : Stays router (router.recordResult item now info) := ⟨rfl, fun _ h => h⟩
    dsimp only
    split_ifs
    · exact Stays.refl router
    · apply hrecord.trans
      apply stays_attachTunnels
    · exact hrecord

theorem stays_routeGenericTunnelItem (own : Own) (peerId : GRouter.RsPeerId) (tid : TurtleTunnelId)
    (stamps : Bool) (now : Nat) :
  Stays router (router.routeGenericTunnelItem own peerId tid stamps now).1
  := by
  rw [routeGenericTunnelItem]
  cases router.localTunnels.get? tid with
  | none => exact Stays.refl router
  | some tunnel =>
    dsimp only
    split_ifs <;> exact ⟨rfl, fun _ h => h⟩

theorem stays_sendTurtleData (own : Own) (vpid : TurtleVirtualPeerId) (stamps : Bool) (now : Nat) :
  Stays router (router.sendTurtleData own vpid stamps now).1
  := by
  rw [sendTurtleData]
  cases router.virtualPeers.get? vpid with
  | none => exact Stays.refl router
  | some tid =>
    dsimp only
    cases router.localTunnels.get? tid with
    | none => exact Stays.refl router
    | some tunnel =>
      dsimp only
      split_ifs <;> exact ⟨rfl, fun _ h => h⟩

/-! ### Washing -/

theorem stays_closeTunnel (own : Own) (tid : TurtleTunnelId) :
  Stays router (router.closeTunnel own tid).1
  := by
  cases htunnel : router.localTunnels.get? tid with
  | none =>
    rw [closeTunnel_of_none htunnel]
    exact Stays.refl router
  | some tunnel =>
    obtain ⟨-, hclose⟩ | ⟨-, hclose⟩ | ⟨-, -, hclose⟩ := closeTunnel_cases own htunnel
    · rw [hclose, closeStartingTunnel]
      cases router.incomingFileHashes.get? tunnel.hash with
      | none => exact ⟨rfl, fun _ h => h⟩
      | some info => exact ⟨rfl, fun _ h => isSome_insert h⟩
    · rw [hclose, closeEndingTunnel]
      cases router.outgoingFileHashes.get? tunnel.hash <;> exact ⟨rfl, fun _ h => h⟩
    · rw [hclose]
      exact ⟨rfl, fun _ h => h⟩

theorem stays_closeTunnels (own : Own) (tids : List TurtleTunnelId) :
  Stays router (router.closeTunnels own tids).1
  := by
  induction tids generalizing router with
  | nil => exact Stays.refl router
  | cons tid tids ih =>
    rw [closeTunnels_cons]
    apply (stays_closeTunnel own tid).trans ih

theorem isSome_removeHashes (hmark : hash ∉ hashes)
    (h : (router.incomingFileHashes.get? hash).isSome) :
  ((router.removeHashes own hashes).1.incomingFileHashes.get? hash).isSome
  := by
  induction hashes generalizing router with
  | nil => exact h
  | cons hash' hashes ih =>
    rw [List.mem_cons, not_or] at hmark
    rw [removeHashes_cons]
    apply ih hmark.2
    cases hinfo : router.incomingFileHashes.get? hash' with
    | none =>
      rw [removeHash_of_none hinfo]
      exact h
    | some info =>
      rw [removeHash_of_some hinfo]
      dsimp only
      rw [OrdMap.get?_erase, if_neg hmark.1]
      apply (stays_closeTunnels own info.tunnels).incoming hash h

theorem isSome_autoWash {now : Nat} (hmark : hash ∉ router.hashesToRemove)
    (h : (router.incomingFileHashes.get? hash).isSome) :
  ((router.autoWash own now).1.incomingFileHashes.get? hash).isSome ∧
    hash ∉ (router.autoWash own now).1.hashesToRemove
  := by
  have hmarked : ((router.marked own now).incomingFileHashes.get? hash).isSome :=
    isSome_removeHashes hmark h
  have hstays : Stays (router.marked own now) _ :=
    stays_closeTunnels own ((router.marked own now).idleTunnels now)
  rw [autoWash_eq]
  constructor
  · apply hstays.incoming hash hmarked
  · rw [hstays.marks]
    apply List.not_mem_nil

/-! ### Runs -/

/-- A hash is monitored, and it is not marked. -/
def Monitors (router : p3turtle) (hash : TurtleFileHash) : Prop :=
  (router.incomingFileHashes.get? hash).isSome ∧ hash ∉ router.hashesToRemove

theorem Monitors.stays (h : router.Monitors hash) (hstays : Stays router router') :
  router'.Monitors hash
  := by
  constructor
  · apply hstays.incoming hash h.1
  · rw [hstays.marks]
    exact h.2

theorem hashesToRemove_monitorTunnels (hash : TurtleFileHash) (service : RsTurtleClientService)
    (draw : Nat) :
  (router.monitorTunnels hash service draw).hashesToRemove =
    cancelRemovalFrom hash router.hashesToRemove.length 0 router.hashesToRemove
  := by
  rw [monitorTunnels]
  dsimp only
  split <;> rfl

theorem isSome_monitorTunnels (draw : Nat)
    (h : hash' = hash ∨ (router.incomingFileHashes.get? hash').isSome) :
  ((router.monitorTunnels hash service draw).incomingFileHashes.get? hash').isSome
  := by
  rw [monitorTunnels]
  dsimp only
  split
  case isTrue hthere =>
    obtain rfl | h := h
    · exact hthere
    · exact h
  case isFalse =>
    dsimp only
    rw [OrdMap.get?_insert]
    split
    case isTrue => rfl
    case isFalse hne => exact h.resolve_left hne

theorem monitors_monitorTunnels (draw : Nat) (h : Cancellable hash router.hashesToRemove) :
  (router.monitorTunnels hash service draw).Monitors hash
  := by
  constructor
  · apply isSome_monitorTunnels service draw (Or.inl rfl)
  · rw [hashesToRemove_monitorTunnels]
    have hbefore : hash ∉ ([] : List TurtleFileHash) := List.not_mem_nil
    exact not_mem_cancelRemovalFrom le_rfl hbefore h

/-- A step that is not a call for the hash. -/
theorem Monitors.next {input : Input own} (h : router.Monitors hash)
    (hcall : callOf hash input = none) :
  ((machine own).next router input).Monitors hash
  := by
  cases input with
  | registerTunnelService => exact h.stays ⟨rfl, fun _ h => h⟩
  | monitorTunnels hash' service draw =>
    constructor
    · apply isSome_monitorTunnels service draw (Or.inr h.1)
    · intro hmem
      apply h.2
      rw [show ((machine own).next router (.monitorTunnels hash' service draw)).hashesToRemove = _
        from hashesToRemove_monitorTunnels hash' service draw] at hmem
      apply mem_of_mem_cancelRemovalFrom hmem
  | stopMonitoringTunnels hash' =>
    rw [callOf, ite_eq_right_iff] at hcall
    use h.1
    intro hmem
    obtain hmem | hmem := List.mem_append.mp hmem
    · exact h.2 hmem
    · cases hcall (List.mem_singleton.mp hmem).symm
  | diggTunnel => exact h.stays (stays_diggTunnel _ _ _ _)
  | forceReDiggTunnels hash' draw env =>
    change (if (router.incomingFileHashes.get? hash').isNone then (router, [])
      else router.diggTunnel own hash' draw env).1.Monitors hash
    split
    · exact h
    · exact h.stays (stays_diggTunnel _ _ _ _)
  | manageTunnels => exact h.stays (stays_manageTunnels _ _ _ _)
  | handleTunnelRequest => exact h.stays (stays_handleTunnelRequest _ _ _)
  | handleTunnelResult => exact h.stays (stays_handleTunnelResult _ _ _)
  | routeGenericTunnelItem => exact h.stays (stays_routeGenericTunnelItem _ _ _ _ _)
  | sendTurtleData => exact h.stays (stays_sendTurtleData _ _ _ _)
  | autoWash now => exact isSome_autoWash h.2 h.1

/-- In a run that cancels marks completely, a hash that was last asked for is monitored. -/
theorem monitors_run {inputs : List (Input own)}
    (h : (machine own).Along (CancelsMarks own) init inputs) {hash : TurtleFileHash}
    (hlast : lastCall hash inputs = some .monitor) :
  (((machine own).run init inputs).incomingFileHashes.get? hash).isSome
  := by
  suffices hmonitors : ((machine own).run init inputs).Monitors hash from hmonitors.1
  induction inputs using List.reverseRecOn with
  | nil => cases hlast
  | append_singleton inputs input ih =>
    rw [Machine.along_append, Machine.along_cons] at h
    rw [Machine.run_append, Machine.run_cons, Machine.run_nil]
    rw [lastCall, List.filterMap_append, List.getLast?_append] at hlast
    cases hcall : callOf hash input with
    | none =>
      rw [List.filterMap_cons_none hcall] at hlast
      apply (ih h.1 hlast).next hcall
    | some call =>
      rw [List.filterMap_cons_some hcall] at hlast
      cases hlast
      cases input with
      | monitorTunnels hash' service draw =>
        rw [callOf, Option.ite_none_right_eq_some] at hcall
        obtain ⟨rfl, -⟩ := hcall
        apply monitors_monitorTunnels service draw h.2.1
      | stopMonitoringTunnels hash' =>
        rw [callOf, Option.ite_none_right_eq_some] at hcall
        cases hcall.2
      | _ => cases hcall

/-- A hash is stopped and asked for again. -/
def markedOnce : List (Input sampleOwn) :=
  [.monitorTunnels 5 7 0, .stopMonitoringTunnels 5, .monitorTunnels 5 7 0, .autoWash 10]

/-- The only mark is cancelled. -/
theorem monitors_run_markedOnce :
  (((machine sampleOwn).run init markedOnce).incomingFileHashes.get? 5).isSome
  := by
  apply monitors_run _ rfl
  refine ⟨?_, trivial, ?_, trivial, trivial⟩
  · intro k hk
    cases hk
  · intro k hk
    cases k with
    | zero => exact le_rfl
    | succ k => cases hk

/-- A hash is stopped twice and asked for again. -/
def markedTwice : List (Input sampleOwn) :=
  [.monitorTunnels 5 7 0, .stopMonitoringTunnels 5, .stopMonitoringTunnels 5,
    .monitorTunnels 5 7 0, .autoWash 10]

/-- One of the two marks is not cancelled, and the hash is removed. -/
theorem not_monitors_markedTwice :
  lastCall 5 markedTwice = some .monitor ∧
    (((machine sampleOwn).run init (markedTwice.take 4)).incomingFileHashes.get? 5).isSome ∧
    ((machine sampleOwn).run init markedTwice).incomingFileHashes.get? 5 = none
  := by
  decide

end p3turtle

end Turtle
