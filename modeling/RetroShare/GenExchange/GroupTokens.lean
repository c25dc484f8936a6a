import RetroShare.GenExchange.GroupPublishing

/-!
# The tokens of groups

Every token that `publishGroup`, `updateGroup` or `deleteGroup` generates has one final status, or
its request is in one queue (`count_trace`).  It has its status when a tick begins later than
`PENDING_SIGN_TIMEOUT` after the first tick has ended (`ended_of_late`).

What a turn of `publishGrps` can do is said once, in `publishGrpsLoop_cases`.
-/

namespace GenExchange

variable {service : Service} {rsa : RsaKeys service.ssl} (obj : MetaObject)
  (events : List GroupEvent) (token : Token) {notes : List (Token × Bool)}

/-! ### A turn of `publishGrps` -/

section Turn

variable {answers : Token → TurnAnswers} {tick : Nat} (ggps : GxsGrpPendingSign)

variable (rsa answers) in
/-- The version that is published in a turn, if there is one. -/
def turnVersion (ps : PublishGrpsState) (ggps : GxsGrpPendingSign) : Option GrpVersion :=
  let turn := answers ggps.mToken
  if ggps.timedOut (turn.startsAt ps.now) then none
  else
    match (ggps.withKeys service rsa turn ps.now).attempt service turn ps.now with
    | .success version => some version
    | _ => none

/-- What a turn can do: the item ends without a version, or stays, or a version is published. -/
theorem publishGrpsLoop_cases (ps : PublishGrpsState) (ggps : GxsGrpPendingSign) :
  (∃ made, turnVersion rsa answers ps ggps = none ∧
      (publishGrpsLoop service rsa answers tick).step ps ggps =
        (ps.note (answers ggps.mToken) ggps.mToken false,
          discarded (.made tick ggps.mToken) made)) ∨
    (∃ grpItem made, ggps.timedOut ((answers ggps.mToken).startsAt ps.now) = false ∧
      turnVersion rsa answers ps ggps = none ∧
      (publishGrpsLoop service rsa answers tick).step ps ggps =
        (ps.keep (answers ggps.mToken)
          { ggps.withKeys service rsa (answers ggps.mToken) ps.now with mItem := grpItem },
          discarded (.made tick ggps.mToken) made)) ∨
    ∃ version, turnVersion rsa answers ps ggps = some version ∧
      (ggps.withKeys service rsa (answers ggps.mToken) ps.now).attempt service
        (answers ggps.mToken) ps.now = .success version ∧
      (publishGrpsLoop service rsa answers tick).step ps ggps =
        ((ps.publish (ggps.withKeys service rsa (answers ggps.mToken) ps.now) version).note
          (answers ggps.mToken) ggps.mToken true,
          [.use (.made tick ggps.mToken), .publish ggps.mToken version,
            .delete (.made tick ggps.mToken)])
  := by
  simp only [publishGrpsLoop, turnVersion]
  cases htimedOut : ggps.timedOut ((answers ggps.mToken).startsAt ps.now) with
  | true => exact .inl ⟨false, rfl, rfl⟩
  | false =>
    cases hattempt : (ggps.withKeys service rsa (answers ggps.mToken) ps.now).attempt service
        (answers ggps.mToken) ps.now with
    | fail made => exact .inl ⟨made, rfl, rfl⟩
    | failTryLater grpItem made => exact .inr (.inl ⟨grpItem, made, rfl, rfl, rfl⟩)
    | success version => exact .inr (.inr ⟨version, rfl, rfl, rfl⟩)

@[simp]
theorem withKeys_mToken (turn : TurnAnswers) (now : Nat) :
  (ggps.withKeys service rsa turn now).mToken = ggps.mToken
  := by
  unfold GxsGrpPendingSign.withKeys
  split <;> rfl

@[simp]
theorem withKeys_mStartTS (turn : TurnAnswers) (now : Nat) :
  (ggps.withKeys service rsa turn now).mStartTS = ggps.mStartTS
  := by
  unfold GxsGrpPendingSign.withKeys
  split <;> rfl

end Turn

/-! ### A turn of `processGroupUpdatePublish` -/

/-- What a turn can do: the group is not stored, or its item waits to be published, or not all of
its private keys are there. -/
theorem updatePublishLoop_cases (table : GrpTable) (untilStart : Token → Nat) (tick : Nat)
    (us : List GxsGrpPendingSign × Nat) (gup : GroupUpdatePublish) :
  (table.get? gup.grpItem.mGroupId = none ∧
      (updatePublishLoop service table untilStart tick).step us gup =
        (us, [.status gup.mToken false])) ∨
    (∃ row, table.get? gup.grpItem.mGroupId = some row ∧
      checkKeys row.metaData.keys = true ∧
      (updatePublishLoop service table untilStart tick).step us gup =
        ((us.1 ++ [gup.pendingSign service row.metaData.keys (us.2 + untilStart gup.mToken)],
            us.2 + untilStart gup.mToken),
          [.use (.retrieved tick gup.grpItem.mGroupId),
            .delete (.retrieved tick gup.grpItem.mGroupId)])) ∨
    ∃ row, table.get? gup.grpItem.mGroupId = some row ∧
      (updatePublishLoop service table untilStart tick).step us gup =
        ((us.1, us.2 + untilStart gup.mToken),
          [.use (.retrieved tick gup.grpItem.mGroupId), .status gup.mToken false,
            .delete (.retrieved tick gup.grpItem.mGroupId)])
  := by
  simp only [updatePublishLoop, retrieveGxsGrpMetaData]
  cases hrow : table.get? gup.grpItem.mGroupId with
  | none => exact .inl ⟨rfl, rfl⟩
  | some row =>
    cases hkeys : checkKeys row.metaData.keys with
    | true => exact .inr (.inl ⟨row, rfl, hkeys, by simp only [Option.map_some, hkeys]; rfl⟩)
    | false => exact .inr (.inr ⟨row, rfl, by simp only [Option.map_some, hkeys]; rfl⟩)

/-! ### Final statuses -/

/-- The tokens that have a final status, in the order of the statuses. -/
def statuses (events : List GroupEvent) : List Token := events.filterMap GroupEvent.ended

/-- The tokens of the requests that are in the queues. -/
def GroupPublisher.tokens (s : GroupPublisher) : List Token :=
  s.mGrpsToPublish.map (·.mToken) ++
    (s.mGroupUpdatePublish.map (·.mToken) ++ s.mGroupDeletePublish.map (·.mToken))

/-- The token that is generated for an input. -/
def GroupInput.tokens : GroupInput → List Token
  | .publishGroup token _ => [token]
  | .updateGroup token _ => [token]
  | .deleteGroup token _ => [token]
  | .tick _ => []

@[simp]
theorem statuses_append (events events' : List GroupEvent) :
  statuses (events ++ events') = statuses events ++ statuses events'
  := List.filterMap_append

@[simp]
theorem statuses_nil :
  statuses [] = []
  := rfl

@[simp]
theorem statuses_use :
  statuses (.use obj :: events) = statuses events
  := rfl

@[simp]
theorem statuses_delete :
  statuses (.delete obj :: events) = statuses events
  := rfl

@[simp]
theorem statuses_status (complete : Bool) (events : List GroupEvent) :
  statuses (.status token complete :: events) = token :: statuses events
  := rfl

@[simp]
theorem statuses_discarded (made : Bool) :
  statuses (discarded obj made) = []
  := by
  cases made <;> rfl

theorem statuses_notify (h : (notes.map Prod.fst).Nodup) :
  (statuses (notify notes)).Perm (notes.map Prod.fst)
  := by
  have hstatuses (l : List (Token × Bool)) :
      statuses (l.map fun e => .status e.1 e.2) = l.map Prod.fst := by
    induction l with
    | nil => rfl
    | cons e l ih => exact congrArg (e.1 :: ·) ih
  rw [notify, hstatuses]
  exact (OrdMap.toList_foldl_insertNew_perm h).map Prod.fst

section Count

variable {answers : Token → TurnAnswers} {tick : Nat} {s : GroupPublisher}

/-- No token has a status before the loop of `publishGrps` has ended; then every item is kept, or
noted. -/
theorem perm_publishGrpsLoop (ps : PublishGrpsState) (l : List GxsGrpPendingSign) :
  statuses ((publishGrpsLoop service rsa answers tick).trace ps l) = [] ∧
    (((publishGrpsLoop service rsa answers tick).run ps l).kept.map (·.mToken) ++
        ((publishGrpsLoop service rsa answers tick).run ps l).notes.map Prod.fst).Perm
      (ps.kept.map (·.mToken) ++ (ps.notes.map Prod.fst ++ l.map (·.mToken)))
  := by
  induction l generalizing ps with
  | nil => simp [statuses]
  | cons ggps l ih =>
    obtain ⟨hnil, hperm⟩ := ih ((publishGrpsLoop service rsa answers tick).next ps ggps)
    rw [Machine.trace_cons, Machine.run_cons, statuses_append, hnil]
    have hstep := @publishGrpsLoop_cases service rsa answers tick ps ggps
    simp only [Machine.next, Machine.emit] at hperm ⊢
    rcases hstep with ⟨made, -, heq⟩ | ⟨grpItem, made, -, -, heq⟩ | ⟨version, -, -, heq⟩
    · rw [heq] at hperm ⊢
      refine ⟨by simp, hperm.trans ?_⟩
      simp [PublishGrpsState.note]
    · rw [heq] at hperm ⊢
      refine ⟨by simp, hperm.trans ?_⟩
      simp only [PublishGrpsState.keep, List.map_append, List.map_cons, List.map_nil,
        withKeys_mToken, List.append_assoc, List.singleton_append]
      apply List.Perm.append_left
      exact List.perm_middle.symm
    · rw [heq] at hperm ⊢
      refine ⟨by simp [statuses, GroupEvent.ended], hperm.trans ?_⟩
      simp [PublishGrpsState.note, PublishGrpsState.publish]

/-- What becomes of the tokens in `publishGrps`. -/
theorem perm_publishGrps (h : (s.mGrpsToPublish.map (·.mToken)).Nodup) :
  (statuses (s.publishGrps service rsa answers).2 ++
      (s.publishGrps service rsa answers).1.mGrpsToPublish.map (·.mToken)).Perm
    (s.mGrpsToPublish.map (·.mToken))
  := by
  obtain ⟨hnil, hperm⟩ := @perm_publishGrpsLoop service rsa answers s.ticks s.publishGrpsState
    s.mGrpsToPublish
  have hnotes := (List.nodup_append'.1 (hperm.nodup_iff.2 h)).2.1
  rw [GroupPublisher.publishGrps]
  simp only [statuses_append, hnil, List.nil_append]
  apply ((statuses_notify hnotes).append_right _).trans
  exact List.perm_append_comm.trans hperm

/-- What becomes of the tokens in `processGroupUpdatePublish`. -/
theorem perm_updatePublishLoop (table : GrpTable) (untilStart : Token → Nat)
    (us : List GxsGrpPendingSign × Nat) (l : List GroupUpdatePublish) :
  (statuses ((updatePublishLoop service table untilStart tick).trace us l) ++
      ((updatePublishLoop service table untilStart tick).run us l).1.map (·.mToken)).Perm
    (us.1.map (·.mToken) ++ l.map (·.mToken))
  := by
  induction l generalizing us with
  | nil => simp [statuses]
  | cons gup l ih =>
    have hperm := ih ((updatePublishLoop service table untilStart tick).next us gup)
    rw [Machine.trace_cons, Machine.run_cons, statuses_append, List.append_assoc]
    apply (hperm.append_left _).trans
    simp only [Machine.next, Machine.emit]
    rcases @updatePublishLoop_cases service table untilStart tick us gup with
      ⟨-, heq⟩ | ⟨row, -, -, heq⟩ | ⟨row, -, heq⟩
    · simp only [heq, statuses_status, statuses_nil, List.map_cons, List.singleton_append]
      exact List.perm_middle.symm
    · simp [heq, GroupUpdatePublish.pendingSign]
    · simp only [heq, statuses_use, statuses_status, statuses_delete, statuses_nil,
        List.map_cons, List.singleton_append]
      exact List.perm_middle.symm

theorem count_tick (h : s.tokens.Nodup) (answers : TickAnswers) (token : Token) :
  (statuses (s.tick service rsa answers).2).count token +
    (s.tick service rsa answers).1.tokens.count token = s.tokens.count token
  := by
  rw [GroupPublisher.tokens, List.nodup_append', List.nodup_append'] at h
  obtain ⟨hpublish, ⟨-, hdelete, -⟩, -⟩ := h
  have hpublished := (@perm_publishGrps service rsa answers.turns s hpublish).count_eq token
  have hupdated := (@perm_updatePublishLoop service s.ticks
    (s.publishGrps service rsa answers.turns).1.table answers.untilStart
    ((s.publishGrps service rsa answers.turns).1.mGrpsToPublish,
      (s.publishGrps service rsa answers.turns).1.now) s.mGroupUpdatePublish).count_eq token
  have hdeleted : (statuses (notify
      (s.mGroupDeletePublish.map fun gdp => (gdp.mToken, true)))).count token =
      (s.mGroupDeletePublish.map (·.mToken)).count token := by
    have hfst : (s.mGroupDeletePublish.map fun gdp => (gdp.mToken, true)).map Prod.fst =
        s.mGroupDeletePublish.map (·.mToken) := by
      rw [List.map_map]
      rfl
    rw [← hfst] at hdelete ⊢
    exact (statuses_notify hdelete).count_eq token
  simp only [List.count_append] at hpublished hupdated
  simp only [GroupPublisher.tick, statuses_append, List.count_append, GroupPublisher.tokens,
    GroupPublisher.processGroupUpdatePublish, GroupPublisher.processGroupDelete, List.map_nil,
    List.count_nil]
  simp only [GroupPublisher.publishGrps] at *
  omega

end Count

/-- The tokens that are generated for the inputs. -/
def tokensOf (is : List (Nat × GroupInput)) : List Token := is.flatMap fun i => i.2.tokens

section Run

variable {s : GroupPublisher} {is : List (Nat × GroupInput)}

theorem count_next (h : s.tokens.Nodup) (i : Nat × GroupInput) (token : Token) :
  (statuses ((groupMachine service rsa).emit s i)).count token +
    ((groupMachine service rsa).next s i).tokens.count token =
      s.tokens.count token + i.2.tokens.count token
  := by
  obtain ⟨seconds, input⟩ := i
  cases input
  case tick answers => exact @count_tick service rsa (s.wait seconds) h answers token
  all_goals
    simp only [Machine.emit, Machine.next, groupMachine, GroupPublisher.tokens,
      GroupPublisher.wait, GroupPublisher.publishGroup, GroupPublisher.updateGroup,
      GroupPublisher.deleteGroup, GxsGrpPendingSign.new, GroupInput.tokens, statuses_nil,
      List.map_append, List.map_cons, List.map_nil, List.count_append, List.count_nil]
    omega

/-- No token is in two queues, or comes again. -/
theorem nodup_next {i : Nat × GroupInput} (h : (s.tokens ++ tokensOf (i :: is)).Nodup) :
  (((groupMachine service rsa).next s i).tokens ++ tokensOf is).Nodup
  := by
  have hnext := @count_next service rsa s (List.nodup_append'.1 h).1 i
  rw [List.nodup_iff_count_le_one] at h ⊢
  intro token
  have hcount := h token
  have hstep := hnext token
  simp only [tokensOf, List.flatMap_cons, List.count_append] at hcount ⊢
  omega

/-- Every token that has been in a queue, or has been generated, has a status or is in a queue. -/
theorem count_trace (h : (s.tokens ++ tokensOf is).Nodup) (token : Token) :
  (statuses ((groupMachine service rsa).trace s is)).count token +
    ((groupMachine service rsa).run s is).tokens.count token =
      s.tokens.count token + (tokensOf is).count token
  := by
  induction is generalizing s with
  | nil => simp [tokensOf]
  | cons i is ih =>
    have hstep := @count_next service rsa s (List.nodup_append'.1 h).1 i token
    have hrest := ih (@nodup_next service rsa s is i h)
    rw [Machine.trace_cons, Machine.run_cons, statuses_append, List.count_append]
    simp only [tokensOf, List.flatMap_cons, List.count_append] at hrest ⊢
    omega

end Run

/-! ### Tokens that are complete -/

/-- The token that is generated for a group that is to be deleted. -/
def GroupInput.deletes : GroupInput → List Token
  | .deleteGroup token _ => [token]
  | _ => []

theorem mem_of_mem_notify {token : Token} {complete : Bool}
    (h : .status token complete ∈ notify notes) :
  (token, complete) ∈ notes
  := by
  obtain ⟨note, hnote, heq⟩ := List.mem_map.1 h
  obtain ⟨rfl, rfl⟩ := GroupEvent.status.inj heq
  rcases OrdMap.mem_of_mem_foldl_insertNew hnote with hmem | hmem
  · cases hmem
  · exact hmem

section Complete

variable {answers : Token → TurnAnswers} {tick : Nat} {token : Token} {s : GroupPublisher}

theorem publish_of_note (ps : PublishGrpsState) (l : List GxsGrpPendingSign)
    (h : (token, true) ∈ ((publishGrpsLoop service rsa answers tick).run ps l).notes) :
  (token, true) ∈ ps.notes ∨
    ∃ version, .publish token version ∈ (publishGrpsLoop service rsa answers tick).trace ps l
  := by
  induction l generalizing ps with
  | nil => exact .inl h
  | cons ggps l ih =>
    rw [Machine.trace_cons]
    rcases ih _ h with hmem | ⟨version, hmem⟩
    · rw [Machine.next] at hmem
      rw [Machine.emit]
      rcases @publishGrpsLoop_cases service rsa answers tick ps ggps with
        ⟨made, -, heq⟩ | ⟨grpItem, made, -, -, heq⟩ | ⟨version, -, -, heq⟩
      · rw [heq] at hmem
        rcases List.mem_append.1 hmem with hmem | hmem
        · exact .inl hmem
        · cases List.mem_singleton.1 hmem
      · rw [heq] at hmem
        exact .inl hmem
      · rw [heq] at hmem ⊢
        rcases List.mem_append.1 hmem with hmem | hmem
        · exact .inl hmem
        · right
          obtain ⟨rfl, -⟩ := Prod.mk.inj (List.mem_singleton.1 hmem)
          exact ⟨version, by simp⟩
    · right
      exact ⟨version, List.mem_append_right _ hmem⟩

/-- A token that is complete after a tick has a version that is published, or is that of a group
that is deleted. -/
theorem complete_tick {answers : TickAnswers}
    (h : .status token true ∈ (s.tick service rsa answers).2) :
  (∃ version, .publish token version ∈ (s.tick service rsa answers).2) ∨
    token ∈ s.mGroupDeletePublish.map (·.mToken)
  := by
  rcases List.mem_append.1 h with h | h
  · left
    rcases List.mem_append.1 h with h | h
    · obtain ⟨ps, ggps, -, h⟩ := Machine.exists_of_mem_trace _ h
      exfalso
      have hnil := (@perm_publishGrpsLoop service rsa answers.turns s.ticks ps [ggps]).1
      rw [Machine.trace_cons, Machine.trace_nil, List.append_nil] at hnil
      have hmem : token ∈ statuses ((publishGrpsLoop service rsa answers.turns s.ticks).emit ps
          ggps) := List.mem_filterMap.2 ⟨_, h, rfl⟩
      rw [hnil] at hmem
      cases hmem
    · rcases publish_of_note _ _ (mem_of_mem_notify h) with hmem | ⟨version, hmem⟩
      · cases hmem
      · exact ⟨version, List.mem_append_left _ (List.mem_append_left _ hmem)⟩
  · rcases List.mem_append.1 h with h | h
    · obtain ⟨us, gup, -, h⟩ := Machine.exists_of_mem_trace _ h
      exfalso
      rw [Machine.emit] at h
      rcases updatePublishLoop_cases _ _ _ us gup with
        ⟨-, heq⟩ | ⟨row, -, -, heq⟩ | ⟨row, -, heq⟩ <;>
        · rw [heq] at h
          simp at h
    · right
      obtain ⟨gdp, hgdp, heq⟩ := List.mem_map.1 (mem_of_mem_notify h)
      obtain ⟨rfl, -⟩ := Prod.mk.inj heq
      exact List.mem_map_of_mem hgdp

/-- A token that is complete in a run has a version that is published, unless it is that of a group
that is deleted. -/
theorem complete_trace {is : List (Nat × GroupInput)}
    (h : .status token true ∈ (groupMachine service rsa).trace s is) :
  (∃ version, .publish token version ∈ (groupMachine service rsa).trace s is) ∨
    token ∈ s.mGroupDeletePublish.map (·.mToken) ++ is.flatMap fun i => i.2.deletes
  := by
  induction is generalizing s with
  | nil => cases h
  | cons i is ih =>
    obtain ⟨seconds, input⟩ := i
    rw [Machine.trace_cons] at h ⊢
    rcases List.mem_append.1 h with h | h
    · cases input with
      | publishGroup token' grpItem => cases h
      | updateGroup token' grpItem => cases h
      | deleteGroup token' grpId => cases h
      | tick answers =>
        rcases complete_tick h with ⟨version, hmem⟩ | hmem
        · exact .inl ⟨version, List.mem_append_left _ hmem⟩
        · exact .inr (List.mem_append_left _ hmem)
    · rcases ih h with ⟨version, hmem⟩ | hmem
      · exact .inl ⟨version, List.mem_append_right _ hmem⟩
      · right
        revert hmem
        cases input with
        | publishGroup token' grpItem => exact id
        | updateGroup token' grpItem => exact id
        | deleteGroup token' grpId =>
          intro hmem
          simpa [Machine.next, groupMachine, GroupPublisher.deleteGroup, GroupPublisher.wait,
            GroupInput.deletes] using hmem
        | tick answers => exact fun hmem => List.mem_append_right _ hmem

end Complete

/-! ### The clock -/

section Clock

variable {answers : Token → TurnAnswers} {tick time seconds : Nat} {s : GroupPublisher}
  {token : Token} (turn : TurnAnswers)

theorem TurnAnswers.le_startsAt (now : Nat) :
  now ≤ turn.startsAt now
  := Nat.le_add_right _ _

theorem TurnAnswers.le_publishesAt (now : Nat) :
  now ≤ turn.publishesAt now
  := by
  simp only [publishesAt, publishKeyAt, adminKeyAt, startsAt]
  omega

/-- The items that `publishGrps` keeps have not been waiting for too long. -/
theorem mem_kept (ps : PublishGrpsState) (l : List GxsGrpPendingSign) :
  ps.now ≤ ((publishGrpsLoop service rsa answers tick).run ps l).now ∧
    ∀ kept ∈ ((publishGrpsLoop service rsa answers tick).run ps l).kept, kept ∈ ps.kept ∨
      ∃ ggps ∈ l, kept.mToken = ggps.mToken ∧ kept.mStartTS = ggps.mStartTS ∧
        ps.now ≤ ggps.mStartTS + pendingSignTimeout
  := by
  induction l generalizing ps with
  | nil => exact ⟨Nat.le_refl _, fun kept hkept => .inl hkept⟩
  | cons ggps l ih =>
    have hlater := (answers ggps.mToken).le_publishesAt ps.now
    rw [Machine.run_cons]
    obtain ⟨hnow, hkept⟩ := ih ((publishGrpsLoop service rsa answers tick).next ps ggps)
    have hnext : ((publishGrpsLoop service rsa answers tick).next ps ggps).now =
        (answers ggps.mToken).publishesAt ps.now := by
      rw [Machine.next]
      rcases @publishGrpsLoop_cases service rsa answers tick ps ggps with
        ⟨made, -, heq⟩ | ⟨grpItem, made, -, -, heq⟩ | ⟨version, -, -, heq⟩ <;> rw [heq] <;> rfl
    rw [hnext] at hnow hkept
    refine ⟨hlater.trans hnow, ?_⟩
    intro kept hmem
    rcases hkept kept hmem with hmem | ⟨ggps', hmem, htoken, hstart, hle⟩
    · rw [Machine.next] at hmem
      rcases @publishGrpsLoop_cases service rsa answers tick ps ggps with
        ⟨made, -, heq⟩ | ⟨grpItem, made, htimedOut, -, heq⟩ | ⟨version, -, -, heq⟩
      · rw [heq] at hmem
        exact .inl hmem
      · rw [heq] at hmem
        rcases List.mem_append.1 hmem with hmem | hmem
        · exact .inl hmem
        · right
          obtain rfl := List.mem_singleton.1 hmem
          refine ⟨ggps, List.mem_cons_self, withKeys_mToken _ _ _, withKeys_mStartTS _ _ _, ?_⟩
          have hstart := (answers ggps.mToken).le_startsAt ps.now
          have hle := of_decide_eq_false htimedOut
          omega
      · rw [heq] at hmem
        exact .inl hmem
    · right
      exact ⟨ggps', List.mem_cons_of_mem ggps hmem, htoken, hstart, hlater.trans hle⟩

/-- The items that `processGroupUpdatePublish` appends start in time. -/
theorem mem_pending (table : GrpTable) (untilStart : Token → Nat)
    (us : List GxsGrpPendingSign × Nat) (l : List GroupUpdatePublish) :
  us.2 ≤ ((updatePublishLoop service table untilStart tick).run us l).2 ∧
    ∀ ggps ∈ ((updatePublishLoop service table untilStart tick).run us l).1, ggps ∈ us.1 ∨
      ggps.mStartTS ≤ ((updatePublishLoop service table untilStart tick).run us l).2 ∧
        ∃ gup ∈ l, gup.mToken = ggps.mToken
  := by
  induction l generalizing us with
  | nil => exact ⟨Nat.le_refl _, fun ggps hggps => .inl hggps⟩
  | cons gup l ih =>
    obtain ⟨hnow, hmem⟩ := ih ((updatePublishLoop service table untilStart tick).next us gup)
    rw [Machine.run_cons]
    generalize (updatePublishLoop service table untilStart tick).run
      ((updatePublishLoop service table untilStart tick).next us gup) l = us' at hnow hmem ⊢
    rw [Machine.next] at hnow hmem
    have hlater := Nat.le_add_right us.2 (untilStart gup.mToken)
    rcases @updatePublishLoop_cases service table untilStart tick us gup with
      ⟨-, heq⟩ | ⟨row, -, -, heq⟩ | ⟨row, -, heq⟩
    all_goals
      rw [heq] at hnow hmem
      refine ⟨by simp only at hnow; omega, ?_⟩
      intro ggps hggps
      rcases hmem ggps hggps with hold | ⟨hle, gup', hgup', htoken⟩
    case inl.inl => exact .inl hold
    case inr.inl.inl =>
      rcases List.mem_append.1 hold with hold | hold
      · exact .inl hold
      · obtain rfl := List.mem_singleton.1 hold
        exact .inr ⟨hnow, gup, List.mem_cons_self, rfl⟩
    case inr.inr.inl => exact .inl hold
    all_goals exact .inr ⟨hle, gup', List.mem_cons_of_mem gup hgup', htoken⟩

/-- The items that are left in `mGrpsToPublish` after a tick. -/
theorem mem_tick (s : GroupPublisher) (answers : TickAnswers) :
  s.now ≤ (s.tick service rsa answers).1.now ∧
    ∀ kept ∈ (s.tick service rsa answers).1.mGrpsToPublish,
      (∃ ggps ∈ s.mGrpsToPublish, kept.mToken = ggps.mToken ∧ kept.mStartTS = ggps.mStartTS ∧
        s.now ≤ ggps.mStartTS + pendingSignTimeout) ∨
      kept.mStartTS ≤ (s.tick service rsa answers).1.now ∧
        ∃ gup ∈ s.mGroupUpdatePublish, gup.mToken = kept.mToken
  := by
  obtain ⟨hnow, hkept⟩ := @mem_kept service rsa answers.turns s.ticks s.publishGrpsState
    s.mGrpsToPublish
  obtain ⟨hnow', hpending⟩ := @mem_pending service s.ticks
    (s.publishGrps service rsa answers.turns).1.table answers.untilStart
    ((s.publishGrps service rsa answers.turns).1.mGrpsToPublish,
      (s.publishGrps service rsa answers.turns).1.now) s.mGroupUpdatePublish
  constructor
  · exact hnow.trans hnow'
  · intro kept hmem
    rcases hpending kept hmem with hmem | hmem
    · rcases hkept kept hmem with hmem | hmem
      · cases hmem
      · exact .inl hmem
    · exact .inr hmem

/-- No item has started after now. -/
def Punctual (s : GroupPublisher) : Prop := ∀ ggps ∈ s.mGrpsToPublish, ggps.mStartTS ≤ s.now

theorem punctual_next (h : Punctual s) (i : Nat × GroupInput) :
  Punctual ((groupMachine service rsa).next s i)
  := by
  obtain ⟨seconds, input⟩ := i
  have hwait : Punctual (s.wait seconds) := by
    intro ggps hggps
    exact (h ggps hggps).trans (Nat.le_add_right _ _)
  cases input with
  | publishGroup token grpItem =>
    intro ggps hggps
    rcases List.mem_append.1 hggps with hggps | hggps
    · exact hwait ggps hggps
    · obtain rfl := List.mem_singleton.1 hggps
      exact Nat.le_refl _
  | updateGroup token grpItem => exact hwait
  | deleteGroup token grpId => exact hwait
  | tick answers =>
    obtain ⟨hnow, hmem⟩ := @mem_tick service rsa (s.wait seconds) answers
    intro ggps hggps
    rcases hmem ggps hggps with ⟨ggps', hggps', -, hstart, -⟩ | ⟨hle, -⟩
    · rw [hstart]
      exact (hwait ggps' hggps').trans hnow
    · exact hle

/-- The request of a token, if it is in a queue, is one to publish that has started by `time`. -/
structure StartedBy (token : Token) (time : Nat) (s : GroupPublisher) : Prop where
  update : ∀ gup ∈ s.mGroupUpdatePublish, gup.mToken ≠ token
  delete : ∀ gdp ∈ s.mGroupDeletePublish, gdp.mToken ≠ token
  publish : ∀ ggps ∈ s.mGrpsToPublish, ggps.mToken = token → ggps.mStartTS ≤ time

theorem startedBy_tick (h : Punctual s) (answers : TickAnswers) (token : Token) :
  StartedBy token (s.tick service rsa answers).1.now (s.tick service rsa answers).1
  := by
  constructor
  case update => rintro gup ⟨⟩
  case delete => rintro gdp ⟨⟩
  case publish =>
    intro ggps hggps _
    obtain ⟨hnow, hmem⟩ := @mem_tick service rsa s answers
    rcases hmem ggps hggps with ⟨ggps', hggps', -, hstart, -⟩ | ⟨hle, -⟩
    · rw [hstart]
      exact (h ggps' hggps').trans hnow
    · exact hle

theorem StartedBy.next (h : StartedBy token time s) {i : Nat × GroupInput}
    (htoken : token ∉ i.2.tokens) :
  StartedBy token time ((groupMachine service rsa).next s i)
  := by
  obtain ⟨seconds, input⟩ := i
  cases input with
  | publishGroup token' grpItem =>
    refine ⟨h.update, h.delete, ?_⟩
    intro ggps hggps heq
    rcases List.mem_append.1 hggps with hggps | hggps
    · exact h.publish ggps hggps heq
    · obtain rfl := List.mem_singleton.1 hggps
      exact absurd (List.mem_singleton.2 heq.symm) htoken
  | updateGroup token' grpItem =>
    refine ⟨?_, h.delete, h.publish⟩
    intro gup hgup heq
    rcases List.mem_append.1 hgup with hgup | hgup
    · exact h.update gup hgup heq
    · obtain rfl := List.mem_singleton.1 hgup
      exact htoken (List.mem_singleton.2 heq.symm)
  | deleteGroup token' grpId =>
    refine ⟨h.update, ?_, h.publish⟩
    intro gdp hgdp heq
    rcases List.mem_append.1 hgdp with hgdp | hgdp
    · exact h.delete gdp hgdp heq
    · obtain rfl := List.mem_singleton.1 hgdp
      exact htoken (List.mem_singleton.2 heq.symm)
  | tick answers =>
    refine ⟨by rintro gup ⟨⟩, by rintro gdp ⟨⟩, ?_⟩
    intro ggps hggps heq
    rcases (@mem_tick service rsa (s.wait seconds) answers).2 ggps hggps with
      ⟨ggps', hggps', htoken', hstart, -⟩ | ⟨-, gup, hgup, htoken'⟩
    · rw [hstart]
      exact h.publish ggps' hggps' (htoken'.symm.trans heq)
    · exact absurd (htoken'.trans heq) (h.update gup hgup)

theorem StartedBy.run (h : StartedBy token time s) {is : List (Nat × GroupInput)}
    (his : ∀ i ∈ is, token ∉ i.2.tokens) :
  StartedBy token time ((groupMachine service rsa).run s is)
  := by
  apply Machine.run_of_step (C := fun _ i => token ∉ i.2.tokens) _ h
  · exact Machine.along_of_forall_mem his s
  · intro s i h htoken
    exact h.next htoken

theorem startedBy_run_tick (h : Punctual s) (js : List (Nat × GroupInput)) (seconds : Nat)
    (a : TickAnswers) (token : Token) :
  StartedBy token ((groupMachine service rsa).run s (js ++ [(seconds, .tick a)])).now
    ((groupMachine service rsa).run s (js ++ [(seconds, .tick a)]))
  := by
  rw [Machine.run_append]
  have hrun : Punctual ((groupMachine service rsa).run s js) := by
    apply Machine.run_of_next _ h
    intro s i h
    exact punctual_next h i
  apply startedBy_tick
  intro ggps hggps
  exact (hrun ggps hggps).trans (Nat.le_add_right _ _)

theorem StartedBy.notMem_tick (h : StartedBy token time s)
    (hlate : time + pendingSignTimeout < s.now + seconds) (answers : TickAnswers) :
  token ∉ ((groupMachine service rsa).next s (seconds, .tick answers)).tokens
  := by
  intro hmem
  rcases List.mem_append.1 hmem with hmem | hmem
  · obtain ⟨kept, hkept, rfl⟩ := List.mem_map.1 hmem
    rcases (@mem_tick service rsa (s.wait seconds) answers).2 kept hkept with
      ⟨ggps, hggps, htoken, -, hle⟩ | ⟨-, gup, hgup, htoken⟩
    · have hstart := h.publish ggps hggps htoken.symm
      have hnow : s.now + seconds ≤ ggps.mStartTS + pendingSignTimeout := hle
      omega
    · exact h.update gup hgup htoken
  · rcases List.mem_append.1 hmem with hmem | hmem
    · cases hmem
    · cases hmem

/-- The tokens that have been generated before a tick have their statuses when another tick begins
later than `PENDING_SIGN_TIMEOUT` after the end of the first. -/
theorem ended_of_late (hpunctual : Punctual s) {js ks ls : List (Nat × GroupInput)} {seconds' : Nat}
    {a b : TickAnswers}
    (hnodup : (s.tokens ++ tokensOf (js ++ (seconds, .tick a) :: (ks ++ (seconds', .tick b) ::
      ls))).Nodup)
    (hlate : ((groupMachine service rsa).run s (js ++ [(seconds, .tick a)])).now +
      pendingSignTimeout < ((groupMachine service rsa).run s (js ++ (seconds, .tick a) :: ks)).now +
      seconds') (htoken : token ∈ tokensOf js) :
  token ∈ statuses ((groupMachine service rsa).trace s
    (js ++ (seconds, .tick a) :: (ks ++ (seconds', .tick b) :: ls)))
  := by
  have hsplit : js ++ (seconds, .tick a) :: (ks ++ (seconds', .tick b) :: ls) =
      js ++ [(seconds, .tick a)] ++ ks ++ [(seconds', .tick b)] ++ ls := by simp
  have hfirst : js ++ (seconds, .tick a) :: ks = js ++ [(seconds, .tick a)] ++ ks := by simp
  have htokens : tokensOf (js ++ [(seconds, .tick a)] ++ ks ++ [(seconds', .tick b)]) =
      tokensOf js ++ tokensOf ks := by
    simp [tokensOf, GroupInput.tokens]
  have hnodup' : (s.tokens ++ (tokensOf js ++ tokensOf ks)).Nodup := by
    rw [hsplit, tokensOf, List.flatMap_append, ← tokensOf, htokens, ← List.append_assoc] at hnodup
    exact (List.nodup_append'.1 hnodup).1
  have hks : ∀ i ∈ ks, token ∉ i.2.tokens := by
    intro i hi hmem
    have hdisjoint := (List.nodup_append'.1 (List.nodup_append'.1 hnodup').2.1).2.2
    exact hdisjoint htoken (List.mem_flatMap.2 ⟨i, hi, hmem⟩)
  -- the item has started when the first tick ends, and is gone when the second has ended
  have hgone : token ∉ ((groupMachine service rsa).run s
      (js ++ [(seconds, .tick a)] ++ ks ++ [(seconds', .tick b)])).tokens := by
    have hstarted := @StartedBy.run service rsa _ _ token
      (@startedBy_run_tick service rsa s hpunctual js seconds a token) ks hks
    rw [← Machine.run_append, ← hfirst] at hstarted
    rw [← hfirst, Machine.run_append]
    exact hstarted.notMem_tick hlate b
  have hcount := @count_trace service rsa s
    (js ++ [(seconds, .tick a)] ++ ks ++ [(seconds', .tick b)]) (by rw [htokens]; exact hnodup')
    token
  rw [List.count_eq_zero_of_not_mem hgone, htokens] at hcount
  have hpos := List.count_pos_iff.2 (List.mem_append_left (tokensOf ks) htoken)
  rw [hsplit, Machine.trace_append, statuses_append]
  apply List.mem_append_left
  rw [← List.count_pos_iff]
  omega

end Clock

end GenExchange
