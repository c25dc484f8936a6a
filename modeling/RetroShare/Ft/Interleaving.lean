import RetroShare.Ft.Downloads
import RetroShare.Lib.Machine

/-!
# Calls about downloads at the same time

Several threads call an `ftController`.  What a call does while it holds `ctrlMutex` is one step,
and between the steps of a `FileRequest` other calls can come in: it looks whether the file is being
downloaded in another step than the one in which it puts the file into the queue.  When no file is
put there that is being downloaded meanwhile, the queue is the downloads in every state between the
steps (`isQueue_run`).
-/

namespace Ft

variable {Hash : Type} [LinearOrder Hash]

/-- What a call does next: `FileRequest` looks whether the controller is active, then whether the
file is being downloaded, and then puts it into the queue.  Within `handleAPendingRequest` the saved
state follows. -/
inductive Stage where
  | active
  | duplicate
  | insert
  | chunkMap
  deriving DecidableEq

/-- A call that is under way; `pending` says that it is `handleAPendingRequest`. -/
structure Request (Hash : Type) where
  req : FtPendingRequest Hash
  stage : Stage
  pending : Bool
  deriving DecidableEq

/-- A controller and the calls that are under way, while `ctrlMutex` is free. -/
structure World (Hash : Type) [LinearOrder Hash] where
  controller : FtController Hash
  requests : List (Request Hash)

/-- A step. -/
inductive Scope (Hash : Type) where
  | fileRequest (req : FtPendingRequest Hash) (alreadyHave : Bool)
  | handleAPendingRequest (alreadyHave : Bool)
  /-- A call that is under way goes on. -/
  | proceed (i : Nat)
  | fileCancel (hash : Hash) (finished : Bool)
  | completeFile (hash : Hash) (finished moved : Bool)
  | fileControl (hash : Hash) (flag : ControlFlag)
  | moveInQueue (hash : Hash) (move : QueueMove)
  | setQueueSize (s : Nat)
  | setMinPrioritizedTransfers (s : Nat)
  | checkDownloadQueue (inactive : Nat → Bool)
  | activate

namespace World

variable (w : World Hash)

/-- `FileRequest` begins. -/
def beginRequest (req : FtPendingRequest Hash) (alreadyHave pending : Bool) : World Hash :=
  if FtController.refuses req alreadyHave then
    if pending then { w with requests := w.requests ++ [⟨req, .chunkMap, true⟩] } else w
  else { w with requests := w.requests ++ [⟨req, .active, pending⟩] }

/-- `FileRequest` returns in the call number `i`. -/
def endRequest (i : Nat) (request : Request Hash) : World Hash :=
  if request.pending then
    { w with requests := w.requests.set i { request with stage := .chunkMap } }
  else { w with requests := w.requests.eraseIdx i }

/-- The call number `i` goes on. -/
def proceed (i : Nat) (request : Request Hash) : Except Fault (World Hash) :=
  match request.stage with
  | .active =>
      if ¬w.controller.mFtActive then
        .ok ({ w with controller := w.controller.storeRequest request.req }.endRequest i request)
      else .ok { w with requests := w.requests.set i { request with stage := .duplicate } }
  | .duplicate =>
      if w.controller.isDownloading request.req.mHash then .ok (w.endRequest i request)
      else .ok { w with requests := w.requests.set i { request with stage := .insert } }
  | .insert => do
      let c ← w.controller.addDownload request.req
      .ok ({ w with controller := c }.endRequest i request)
  | .chunkMap => do
      let c ← w.controller.restoreChunkMap request.req.mHash
      .ok { controller := c, requests := w.requests.eraseIdx i }

/-- The world after the controller did something. -/
def after (result : Except Fault (FtController Hash)) : Except Fault (World Hash) := do
  let c ← result
  .ok { w with controller := c }

/-- A step. -/
def step : Scope Hash → Except Fault (World Hash)
  | .fileRequest req alreadyHave => .ok (w.beginRequest req alreadyHave false)
  | .handleAPendingRequest alreadyHave =>
      match w.controller.mPendingRequests with
      | [] => .ok w
      | req :: reqs =>
          .ok ({ w with controller := { w.controller with mPendingRequests := reqs } }.beginRequest
            req alreadyHave true)
  | .proceed i =>
      match w.requests[i]? with
      | none => .ok w
      | some request => w.proceed i request
  | .fileCancel hash finished => w.after (w.controller.fileCancel hash finished)
  | .completeFile hash finished moved => w.after (w.controller.completeFile hash finished moved)
  | .fileControl hash flag => w.after (w.controller.fileControl hash flag)
  | .moveInQueue hash move => w.after (w.controller.moveInQueue hash move)
  | .setQueueSize s => w.after (w.controller.setQueueSize s)
  | .setMinPrioritizedTransfers s =>
      .ok { w with controller := w.controller.setMinPrioritizedTransfers s }
  | .checkDownloadQueue inactive => w.after (w.controller.checkDownloadQueue inactive)
  | .activate => .ok { w with controller := w.controller.activate }

/-- A new controller. -/
def new : World Hash := ⟨.new, []⟩

/-- The steps as a machine.  After a fault there are no more. -/
def machine : Machine (Except Fault (World Hash)) (Scope Hash) Unit where
  step
    | .ok w, scope => (w.step scope, [])
    | .error fault, _ => (.error fault, [])

/-- The file that the step puts into the queue, if any, is not being downloaded. -/
def InsertsNew : Except Fault (World Hash) → Scope Hash → Prop
  | .ok w, .proceed i =>
      ∀ request, w.requests[i]? = some request → request.stage = .insert →
        ¬w.controller.isDownloading request.req.mHash
  | _, _ => True

end World

namespace FtController

/-- The queue is the downloads, each of which knows its position. -/
structure IsQueue (c : FtController Hash) : Prop where
  perm : c.queue.Perm (c.mDownloads.toList.map Prod.snd)
  nodup : c.queue.Nodup
  position : ∀ pos fc, c.queue[pos]? = some fc →
    ∃ control, c.objects fc = some control ∧ control.mQueuePosition = pos

end FtController

namespace World

/-- The queue is the downloads, or a loop does not end, which keeps `ctrlMutex`. -/
def Sound : Except Fault (World Hash) → Prop
  | .ok w => w.controller.IsQueue
  | .error fault => fault = .endless

/-! ### The queue in every state -/

/-- An `ftFileControl` knows its position. -/
def KnowsPosition (pos : Nat) (control : FtFileControl Hash) : Prop := control.mQueuePosition = pos

omit [LinearOrder Hash] in
theorem settled_knowsPosition (maxActiveDownloads : Nat) :
  FtController.Settled (KnowsPosition : Nat → FtFileControl Hash → Prop) maxActiveDownloads
  := ⟨fun _ _ => rfl, fun _ _ h => h⟩

/-- The queue of the controller is kept. -/
abbrev Keeping (c : FtController Hash) : Prop := c.WellQueued KnowsPosition

theorem isQueue_of_keeping {c : FtController Hash} (h : Keeping c) :
  c.IsQueue
  := by
  have hvalues : (c.mDownloads.toList.map Prod.snd).Nodup := by
    apply List.Nodup.map_on _ c.mDownloads.nodup_toList
    rintro ⟨hash, fc⟩ hmem ⟨hash', fc'⟩ hmem' heq
    obtain rfl : fc = fc' := heq
    rw [h.injective hash hash' fc (OrdMap.mem_toList.1 hmem) (OrdMap.mem_toList.1 hmem')]
  refine ⟨?_, h.placed.nodup, h.placed.good⟩
  rw [List.perm_ext_iff_of_nodup h.placed.nodup hvalues]
  intro fc
  rw [h.mem_iff, List.mem_map]
  constructor
  · rintro ⟨hash, hget⟩
    exact ⟨(hash, fc), OrdMap.mem_toList.2 hget, rfl⟩
  · rintro ⟨⟨hash, fc'⟩, hmem, rfl⟩
    exact ⟨hash, OrdMap.mem_toList.1 hmem⟩

variable {c : FtController Hash} {w : World Hash}

theorem keeping_fileControl (h : Keeping c) (hash : Hash) (flag : ControlFlag) :
  c.Keeps KnowsPosition (c.fileControl hash flag)
  := by
  rw [FtController.fileControl]
  split
  case h_1 => exact h.keeps
  case h_2 fc hget =>
    obtain ⟨control, hobject, -⟩ := h.download (settled_knowsPosition _) hget
    have hset : ∀ state, Keeping (c.setObject fc { control with mState := state }) :=
      fun state => h.setState (settled_knowsPosition _) hget hobject rfl
    rw [FtController.object_eq hobject]
    cases flag with
    | pause => exact ⟨_, rfl, hset _, rfl⟩
    | start => exact ⟨_, rfl, hset _, rfl⟩
    | forceCheck => exact h.keeps
    | other => exact h.keeps

theorem keeping_restoreChunkMap (h : Keeping c) (hash : Hash) :
  c.Keeps KnowsPosition (c.restoreChunkMap hash)
  := by
  rw [FtController.restoreChunkMap]
  split
  case h_1 => exact h.keeps
  case h_2 rsft _ =>
    dsimp only
    split
    case h_1 => exact ⟨_, rfl, h.congr rfl rfl rfl rfl rfl, rfl⟩
    case h_2 fc hget =>
      obtain ⟨control, hobject, -⟩ := h.download (settled_knowsPosition _) hget
      have hset : Keeping (c.setObject fc { control with mState := rsft.state }) :=
        h.setState (settled_knowsPosition _) hget hobject rfl
      rw [FtController.object_eq hobject]
      exact ⟨_, rfl, hset.congr rfl rfl rfl rfl rfl, rfl⟩

theorem keeping_setQueueSize (h : Keeping c) (s : Nat) :
  c.setQueueSize s = .error .endless ∨ ∃ c', c.setQueueSize s = .ok c' ∧ Keeping c'
  := by
  by_cases hs : 0 < s
  · rcases h.setQueueSize (settled_knowsPosition s) hs (fun _ _ _ _ h => h) (fun _ _ _ _ h => h)
      with hendless | ⟨c', hrun, hkeep, -⟩
    · exact .inl hendless
    · exact .inr ⟨c', hrun, hkeep⟩
  · right
    exact ⟨c, by rw [FtController.setQueueSize, if_neg hs], h⟩

/-- What is kept in every state. -/
def Kept : Except Fault (World Hash) → Prop
  | .ok w => Keeping w.controller
  | .error fault => fault = .endless

theorem kept_after {result : Except Fault (FtController Hash)}
    (h : w.controller.Keeps KnowsPosition result) :
  Kept (w.after result)
  := by
  obtain ⟨c', rfl, hkeep, -⟩ := h
  exact hkeep

section

variable (h : Keeping w.controller)

include h

theorem kept_beginRequest (req : FtPendingRequest Hash) (alreadyHave pending : Bool) :
  Keeping (w.beginRequest req alreadyHave pending).controller
  := by
  rw [beginRequest]
  split
  · split
    · exact h
    · exact h
  · exact h

theorem kept_endRequest (i : Nat) (request : Request Hash) :
  Keeping (w.endRequest i request).controller
  := by
  rw [endRequest]
  split
  · exact h
  · exact h

theorem kept_proceed (i : Nat) (request : Request Hash)
    (hnew : request.stage = .insert → ¬w.controller.isDownloading request.req.mHash) :
  Kept (w.proceed i request)
  := by
  obtain ⟨req, stage, pending⟩ := request
  rw [proceed]
  cases stage with
  | active =>
    dsimp only
    split
    · apply kept_endRequest
      exact h.congr rfl rfl rfl rfl rfl
    · exact h
  | duplicate =>
    dsimp only
    split
    · exact kept_endRequest h i _
    · exact h
  | insert =>
    have hnone : w.controller.mDownloads.get? req.mHash = none := by
      have hnot := hnew rfl
      rwa [FtController.isDownloading, Bool.not_eq_true, Option.isSome_eq_false_iff,
        Option.isNone_iff_eq_none] at hnot
    obtain ⟨c', hrun, hkeep, -⟩ := h.addDownload (settled_knowsPosition _) hnone
    dsimp only
    rw [hrun]
    exact kept_endRequest (w := { w with controller := c' }) hkeep i _
  | chunkMap =>
    obtain ⟨c', hrun, hkeep, -⟩ := keeping_restoreChunkMap h req.mHash
    dsimp only
    rw [hrun]
    exact hkeep

theorem kept_step {scope : Scope Hash} (hnew : InsertsNew (.ok w) scope) :
  Kept (w.step scope)
  := by
  cases scope with
  | fileRequest req alreadyHave => exact kept_beginRequest h req alreadyHave false
  | handleAPendingRequest alreadyHave =>
    change Kept (match w.controller.mPendingRequests with | [] => _ | _ :: _ => _)
    split
    · exact h
    · apply kept_beginRequest
      exact h.congr rfl rfl rfl rfl rfl
  | proceed i =>
    change Kept (match w.requests[i]? with | none => _ | some request => _)
    split
    · exact h
    · rename_i request hget
      exact kept_proceed h i request (hnew request hget)
  | fileCancel hash finished =>
    exact kept_after (h.fileCancel (settled_knowsPosition _) hash finished)
  | completeFile hash finished moved =>
    exact kept_after (h.completeFile (settled_knowsPosition _) hash finished moved)
  | fileControl hash flag => exact kept_after (keeping_fileControl h hash flag)
  | moveInQueue hash move => exact kept_after (h.moveInQueue (settled_knowsPosition _) hash move)
  | setQueueSize s =>
    change Kept (w.after (w.controller.setQueueSize s))
    rcases keeping_setQueueSize h s with hendless | ⟨c', hrun, hkeep⟩
    · rw [hendless]
      rfl
    · rw [hrun]
      exact hkeep
  | setMinPrioritizedTransfers s => exact h.congr rfl rfl rfl rfl rfl
  | checkDownloadQueue inactive =>
    exact kept_after (h.checkDownloadQueue (settled_knowsPosition _) inactive)
  | activate => exact h.congr rfl rfl rfl rfl rfl

end

theorem kept_new :
  Kept (.ok (new : World Hash))
  := by
  exact FtController.wellQueued_new

/-- In a run in which no file is put into the queue that is being downloaded, the queue is the
downloads. -/
theorem isQueue_run (scopes : List (Scope Hash))
    (hnew : (machine).Along InsertsNew (.ok (new : World Hash)) scopes) :
  Sound ((machine).run (.ok (new : World Hash)) scopes)
  := by
  have hkept : Kept ((machine).run (.ok (new : World Hash)) scopes) := by
    apply Machine.run_of_step _ kept_new hnew
    intro result scope hkept hscope
    cases result with
    | error fault => exact hkept
    | ok w => exact kept_step hkept hscope
  revert hkept
  cases (machine).run (.ok (new : World Hash)) scopes with
  | error fault => exact id
  | ok w => exact isQueue_of_keeping

/-! ### Two requests for one file -/

/-- A file is requested twice at the same time, and both requests see that it is not being
downloaded before one of them puts it into the queue. -/
def twoRequests : List (Scope Nat) :=
  [.activate, .fileRequest ⟨7, 1, 0, .downloading⟩ false,
    .fileRequest ⟨7, 1, 0, .downloading⟩ false, .proceed 0, .proceed 1, .proceed 0, .proceed 1,
    .proceed 0, .proceed 0]

theorem not_isQueue_twoRequests :
  ¬Sound ((machine).run (.ok (new : World Nat)) twoRequests)
  := by
  intro h
  have hlength := h.perm.length_eq
  revert hlength
  decide

/-- One request, from the beginning to the end. -/
theorem isQueue_run_request :
  (machine).Along InsertsNew (.ok (new : World Nat))
      [.activate, .fileRequest ⟨7, 1, 0, .downloading⟩ false, .proceed 0, .proceed 0, .proceed 0] ∧
    Sound ((machine).run (.ok (new : World Nat))
      [.activate, .fileRequest ⟨7, 1, 0, .downloading⟩ false, .proceed 0, .proceed 0, .proceed 0])
  := by
  have hnew : (machine).Along InsertsNew (.ok (new : World Nat))
      [.activate, .fileRequest ⟨7, 1, 0, .downloading⟩ false, .proceed 0, .proceed 0,
        .proceed 0] := by
    refine ⟨trivial, trivial, ?_, ?_, ?_, trivial⟩
    · rintro request ⟨⟩ ⟨⟩
    · rintro request ⟨⟩ ⟨⟩
    · rintro request ⟨⟩ -
      decide
  exact ⟨hnew, isQueue_run _ hnew⟩

end World

end Ft
