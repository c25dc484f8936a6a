import RetroShare.GenExchange.GroupTokens

/-!
# Versions of groups

A version of a group is published with the keys that the group has had from the beginning: those of
its fingerprint.  So it is accepted by those who hold the version before when its time stamp is
later than that of this version, and in the period of its key, its strings are kept on the way, and
its signatures are (`accepted_publishGrpsLoop`): the variable in which their types are read has to
keep its value.  The metadata that are retrieved for a tick are used as they should be when no two
updates are of one stored group (`tidy_tick`).

`publishesGroups_of_meets`: in a run whose ticks are so, every token ends once and in time, no
metadata are touched after they have been deleted, and every version is accepted.
-/

namespace GenExchange

open Lifetimes

variable {service : Service} {rsa : RsaKeys service.ssl} {ggps : GxsGrpPendingSign}
  {table : GrpTable} {s : GroupPublisher} {e : GroupEvent} {is : List (Nat × GroupInput)}
  {version : GrpVersion}

/-! ### Versions that are given out -/

/-- The versions that have been given out last, as they follow from the events. -/
def versionMachine : Machine (OrdMap RsGxsGroupId RsGxsGrpMetaData) GroupEvent Empty where
  step versions e :=
    match e with
    | .publish _ version => (versions.insert version.grpId version.metaData, [])
    | _ => (versions, [])

/-- The stored metadata of those who hold a version of a group. -/
structure Holds (oldGrpMeta : RsGxsGrpMetaData) (grpId : RsGxsGroupId)
    (version : RsGxsGrpMetaData) : Prop where
  mGroupId : oldGrpMeta.mGroupId = grpId
  mPublishTs : oldGrpMeta.mPublishTs = version.mPublishTs
  adminKey : oldGrpMeta.keys.keys.get? grpId = version.keys.keys.get? grpId

theorem exists_holds (grpId : RsGxsGroupId) (version : RsGxsGrpMetaData) :
  ∃ oldGrpMeta, Holds oldGrpMeta grpId version
  := ⟨{ version with mGroupId := grpId }, rfl, rfl, rfl⟩

variable (service) in
/-- A version that is published is a valid update for those who hold the version before, and read it
with `currType` in the variable of the signatures. -/
def Accepted (currType : Memory → Nat → Nat) (versions : OrdMap RsGxsGroupId RsGxsGrpMetaData)
    (e : GroupEvent) : Prop :=
  match e with
  | .publish _ version =>
      ∀ previous, versions.get? version.grpId = some previous →
        ∀ oldGrpMeta, Holds oldGrpMeta version.grpId previous →
          Updates service currType oldGrpMeta version.grp version.metaData
  | _ => True

variable {currType : Memory → Nat → Nat}

/-- Whether a version is published. -/
def GroupEvent.isPublish : GroupEvent → Bool
  | .publish _ _ => true
  | _ => false

theorem versions_of_quiet {events : List GroupEvent} (h : ∀ e ∈ events, e.isPublish = false)
    (versions : OrdMap RsGxsGroupId RsGxsGrpMetaData) :
  versionMachine.run versions events = versions
  := by
  induction events with
  | nil => rfl
  | cons e events ih =>
    rw [List.forall_mem_cons] at h
    cases e with
    | publish token version => cases h.1
    | use obj => exact ih h.2
    | delete obj => exact ih h.2
    | status token complete => exact ih h.2

/-- A condition on the versions that are published holds where none is. -/
theorem along_of_quiet {A : OrdMap RsGxsGroupId RsGxsGrpMetaData → GroupEvent → Prop}
    (hquiet : ∀ versions e, e.isPublish = false → A versions e) {events : List GroupEvent}
    (h : ∀ e ∈ events, e.isPublish = false) (versions : OrdMap RsGxsGroupId RsGxsGrpMetaData) :
  versionMachine.Along A versions events
  := by
  induction events generalizing versions with
  | nil => trivial
  | cons e events ih =>
    rw [List.forall_mem_cons] at h
    exact ⟨hquiet versions e h.1, ih h.2 _⟩

theorem accepted_of_quiet (versions : OrdMap RsGxsGroupId RsGxsGrpMetaData) (e : GroupEvent)
    (h : e.isPublish = false) :
  Accepted service currType versions e
  := by
  cases e with
  | publish token version => cases h
  | use obj => trivial
  | delete obj => trivial
  | status token complete => trivial

theorem isPublish_discarded (obj : MetaObject) (made : Bool) :
  ∀ e ∈ discarded obj made, e.isPublish = false
  := by
  cases made <;> simp [discarded, GroupEvent.isPublish]

theorem isPublish_notify (notes : List (Token × Bool)) :
  ∀ e ∈ notify notes, e.isPublish = false
  := by
  intro e he
  obtain ⟨note, -, rfl⟩ := List.mem_map.1 he
  rfl

/-! ### Genuine keys -/

/-- The rows of groups of one's own have their keys. -/
def GenuineTable (rsa : RsaKeys service.ssl) (table : GrpTable) : Prop :=
  ∀ grpId row, table.get? grpId = some row → checkKeys row.metaData.keys = true →
    OwnKeys rsa row.metaData.keys

/-- The versions have the public keys of their groups. -/
def GenuineVersions (rsa : RsaKeys service.ssl)
    (versions : OrdMap RsGxsGroupId RsGxsGrpMetaData) : Prop :=
  ∀ grpId previous, versions.get? grpId = some previous →
    ∃ key, previous.keys.keys.get? grpId = some key ∧ IsPublicKey rsa grpId key

/-- The keys of an item are those of its group. -/
structure GenuineKeys (rsa : RsaKeys service.ssl) (ggps : GxsGrpPendingSign) : Prop where
  own : OwnKeys rsa ggps.mPrivateKeys
  admin : HasAdminKey rsa ggps.mPrivateKeys ggps.mPublicKeys
  groupId : ggps.mPublicKeys.groupId = []

/-- An item has the keys of its group, if it has keys. -/
def GenuineItem (rsa : RsaKeys service.ssl) (ggps : GxsGrpPendingSign) : Prop :=
  ggps.mHaveKeys = true → GenuineKeys rsa ggps

theorem GenuineItem.withKeys (h : GenuineItem rsa ggps) (turn : TurnAnswers) (now : Nat) :
  GenuineKeys rsa (ggps.withKeys service rsa turn now)
  := by
  unfold GxsGrpPendingSign.withKeys
  split
  case isTrue hkeys => exact h hkeys
  case isFalse =>
    exact ⟨ownKeys_generateGroupKeys _ _ _ _ _, hasAdminKey_generateGroupKeys _ _ _ _ _,
      groupId_generateGroupKeys _ _ _ _ _⟩

/-- The item that `service_CreateGroup` makes of an item of a group. -/
def TurnAnswers.createdItem (turn : TurnAnswers) (ggps : GxsGrpPendingSign) (grpId : RsGxsGroupId) :
    RsGroupMetaData :=
  (turn.serviceCreateGroup { ggps.mItem with mGroupId := grpId } ggps.mPrivateKeys).2

theorem attempt_eq_success {turn : TurnAnswers} {now : Nat}
    (h : ggps.attempt service turn now = .success version) :
  ∃ adminKey : RsTlvSecurityKey,
    namingAdminKey ggps.mPrivateKeys = some adminKey ∧ version.grpId = adminKey.keyId ∧
    createGroup service turn.mGixs version.grp { turn.createdItem ggps adminKey.keyId with
      mPublishTs := turn.publishesAt now }.toMetaData ggps.mPrivateKeys ggps.mPublicKeys =
        (.success, version.metaData)
  := by
  unfold GxsGrpPendingSign.attempt at h
  split at h
  case h_1 => cases h
  case h_2 adminKey hadmin =>
    simp only at h
    split at h
    case h_1 => cases h
    case h_2 => cases h
    case h_3 grpItem hservice =>
      split at h
      case h_1 => cases h
      case h_2 grp hserialise =>
        split at h
        case h_1 => cases h
        case h_2 => cases h
        case h_3 metaData hcreate =>
          split at h
          case isFalse => cases h
          case isTrue =>
            obtain rfl := Attempt.success.inj h
            have hitem : turn.createdItem ggps adminKey.keyId = grpItem :=
              congrArg Prod.snd hservice
            exact ⟨adminKey, hadmin, rfl, hitem ▸ hcreate⟩

theorem GenuineTable.insert (h : GenuineTable rsa table) {grpId : RsGxsGroupId} {row : GrpRow}
    (hown : OwnKeys rsa row.metaData.keys) :
  GenuineTable rsa (table.insert grpId row)
  := by
  intro grpId' row' hrow hkeys
  rcases OrdMap.get?_insert_iff.mp hrow with ⟨-, rfl⟩ | ⟨-, hrow⟩
  · exact hown
  · exact h grpId' row' hrow hkeys

/-- The variables of `publishGrps`: what is stored, given out or kept is genuine. -/
structure PublishGrpsState.Genuine (rsa : RsaKeys service.ssl) (ps : PublishGrpsState) : Prop where
  kept : ∀ ggps ∈ ps.kept, GenuineItem rsa ggps
  table : GenuineTable rsa ps.table
  versions : GenuineVersions rsa ps.versions

theorem PublishGrpsState.Genuine.publish {ps : PublishGrpsState} (h : ps.Genuine rsa)
    (hown : OwnKeys rsa ggps.mPrivateKeys)
    (hversion : ∃ key, version.metaData.keys.keys.get? version.grpId = some key ∧ IsPublicKey rsa
      version.grpId key) :
  (ps.publish ggps version).Genuine rsa
  := by
  constructor
  case kept => exact h.kept
  case table =>
    simp only [PublishGrpsState.publish, updateGroupData, addGroupData, OrdMap.insertNew]
    repeat' split
    case h_1 => exact h.table
    case h_2 => exact h.table.insert hown
    case isFalse.isTrue => exact h.table
    case isFalse.isFalse => exact h.table.insert hown
  case versions =>
    intro grpId previous hprevious
    simp only [PublishGrpsState.publish, OrdMap.get?_insert] at hprevious
    split at hprevious
    case isTrue hid =>
      obtain rfl := Option.some.inj hprevious
      rw [hid]
      exact hversion
    case isFalse => exact h.versions grpId previous hprevious

/-! ### What `publishGrps` publishes -/

section Publish

variable {answers : Token → TurnAnswers} {tick : Nat} {ps : PublishGrpsState}

variable (rsa answers) in
/-- A version that is published in a turn is the first one of its group. -/
def First (ps : PublishGrpsState) (ggps : GxsGrpPendingSign) : Prop :=
  (turnVersion rsa answers ps ggps).isSome → ∀ adminKey,
    namingAdminKey (ggps.withKeys service rsa (answers ggps.mToken) ps.now).mPrivateKeys =
        some adminKey →
      ps.versions.get? adminKey.keyId = none

variable (rsa answers) in
/-- When a version is published in a turn after another one of its group, its time stamp is later
than that of the version before, and in the period of the key that this was given out with, its
strings are clean, and its metadata are not too long. -/
def Spaced (ps : PublishGrpsState) (ggps : GxsGrpPendingSign) : Prop :=
  let turn := answers ggps.mToken
  let ggps' := ggps.withKeys service rsa turn ps.now
  let publishTs := UInt32.ofNat (turn.publishesAt ps.now)
  ∀ version, turnVersion rsa answers ps ggps = some version →
    ∀ adminKey previous key, namingAdminKey ggps'.mPrivateKeys = some adminKey →
      ps.versions.get? adminKey.keyId = some previous →
      previous.keys.keys.get? adminKey.keyId = some key →
        (previous.mPublishTs < publishTs ∧ key.inPeriod publishTs.toNat = true) ∧
        (turn.createdItem ggps' adminKey.keyId).Clean ∧
        version.metaData.serialise.length + 2 < 2 ^ 32

instance decidableSpaced (ps : PublishGrpsState) (ggps : GxsGrpPendingSign) :
    Decidable (Spaced rsa answers ps ggps) :=
  let turn := answers ggps.mToken
  let ggps' := ggps.withKeys service rsa turn ps.now
  let publishTs := UInt32.ofNat (turn.publishesAt ps.now)
  decidable_of_iff (∀ version ∈ turnVersion rsa answers ps ggps,
    ∀ adminKey ∈ namingAdminKey ggps'.mPrivateKeys,
      ∀ previous ∈ ps.versions.get? adminKey.keyId,
        ∀ key ∈ previous.keys.keys.get? adminKey.keyId,
          (previous.mPublishTs < publishTs ∧ key.inPeriod publishTs.toNat = true) ∧
          (turn.createdItem ggps' adminKey.keyId).Clean ∧
          version.metaData.serialise.length + 2 < 2 ^ 32) (by
    simp only [Spaced, Option.mem_def]
    constructor
    · intro h version hversion adminKey previous key hadmin hprevious hkey
      exact h version hversion adminKey hadmin previous hprevious key hkey
    · intro h version hversion adminKey hadmin previous hprevious key hkey
      exact h version hversion adminKey previous key hadmin hprevious hkey)

theorem versions_publishGrpsLoop (ps : PublishGrpsState) (ggps : GxsGrpPendingSign) :
  ((publishGrpsLoop service rsa answers tick).next ps ggps).versions =
    versionMachine.run ps.versions ((publishGrpsLoop service rsa answers tick).emit ps ggps)
  := by
  rw [Machine.next, Machine.emit]
  rcases @publishGrpsLoop_cases service rsa answers tick ps ggps with
    ⟨made, -, heq⟩ | ⟨grpItem, made, -, -, heq⟩ | ⟨version, -, -, heq⟩
  · rw [heq]
    exact (versions_of_quiet (isPublish_discarded _ made) _).symm
  · rw [heq]
    exact (versions_of_quiet (isPublish_discarded _ made) _).symm
  · rw [heq]
    rfl

theorem genuine_publishGrpsLoop (hps : ps.Genuine rsa) (hggps : GenuineItem rsa ggps) :
  ((publishGrpsLoop service rsa answers tick).next ps ggps).Genuine rsa
  := by
  have hkeys := hggps.withKeys (answers ggps.mToken) ps.now
  rw [Machine.next]
  rcases @publishGrpsLoop_cases service rsa answers tick ps ggps with
    ⟨made, -, heq⟩ | ⟨grpItem, made, -, -, heq⟩ | ⟨version, -, hattempt, heq⟩
  · rw [heq]
    exact ⟨hps.kept, hps.table, hps.versions⟩
  · rw [heq]
    refine ⟨?_, hps.table, hps.versions⟩
    intro kept hkept
    rcases List.mem_append.1 hkept with hkept | hkept
    · exact hps.kept kept hkept
    · obtain rfl := List.mem_singleton.1 hkept
      exact fun _ => ⟨hkeys.own, hkeys.admin, hkeys.groupId⟩
  · rw [heq]
    obtain ⟨adminKey, hnaming, hid, hcreate⟩ := attempt_eq_success hattempt
    obtain ⟨hget, hprivate⟩ := mem_of_namingAdminKey hnaming
    obtain ⟨-, -, signSet, -, -, -, hmetaData⟩ := createGroup_eq_success hcreate
    have hgenuine := @PublishGrpsState.Genuine.publish service rsa _ version ps hps hkeys.own (by
      rw [hmetaData, hid]
      exact hkeys.admin _ _ hget hprivate)
    exact ⟨hgenuine.kept, hgenuine.table, hgenuine.versions⟩

/-- A version that is published in a turn is accepted, with a variable that keeps its value, exactly
when it is spaced. -/
theorem accepted_publishGrpsLoop (hps : ps.Genuine rsa) (hggps : GenuineItem rsa ggps) :
  versionMachine.Along (Accepted service keptType) ps.versions
      ((publishGrpsLoop service rsa answers tick).emit ps ggps) ↔
    Spaced rsa answers ps ggps
  := by
  have hkeys := hggps.withKeys (answers ggps.mToken) ps.now
  rw [Machine.emit]
  rcases @publishGrpsLoop_cases service rsa answers tick ps ggps with
    ⟨made, hnone, heq⟩ | ⟨grpItem, made, -, hnone, heq⟩ | ⟨version, hversion, hattempt, heq⟩
  · rw [heq, Spaced, hnone]
    simp [along_of_quiet accepted_of_quiet (isPublish_discarded _ made) _]
  · rw [heq, Spaced, hnone]
    simp [along_of_quiet accepted_of_quiet (isPublish_discarded _ made) _]
  · rw [heq, Spaced, hversion]
    obtain ⟨adminKey, hnaming, hid, hcreate⟩ := attempt_eq_success hattempt
    have hvalid (oldGrpMeta : RsGxsGrpMetaData) {key : RsTlvSecurityKey}
        (hold : oldGrpMeta.mGroupId = adminKey.keyId)
        (hkey : oldGrpMeta.keys.keys.get? adminKey.keyId = some key)
        (hpublic : IsPublicKey rsa adminKey.keyId key) :=
      updates_keptType_iff rsa hkeys.own hnaming hkeys.groupId hcreate hold hkey hpublic
    simp only [Machine.along_cons, Machine.along_nil, Accepted, hid, true_and, and_true,
      Option.some.injEq, forall_eq']
    constructor
    · intro h adminKey' previous key hnaming' hprevious hkey
      obtain rfl := Option.some.inj (hnaming.symm.trans hnaming')
      obtain ⟨key', hkey', hpublic⟩ := hps.versions _ _ hprevious
      obtain rfl := Option.some.inj (hkey.symm.trans hkey')
      obtain ⟨oldGrpMeta, hold⟩ := exists_holds adminKey.keyId previous
      rw [← hold.mPublishTs]
      exact (hvalid _ hold.mGroupId (hold.adminKey.trans hkey) hpublic).1
        (h previous hprevious oldGrpMeta hold)
    · intro h previous hprevious oldGrpMeta hold
      obtain ⟨key, hkey, hpublic⟩ := hps.versions _ _ hprevious
      apply (hvalid _ hold.mGroupId (hold.adminKey.trans hkey) hpublic).2
      rw [hold.mPublishTs]
      exact h adminKey previous key hnaming hprevious hkey

/-- A version that is published in a turn is accepted, whatever the variable holds, exactly when it
is the first one of its group. -/
theorem accepted_all_publishGrpsLoop (hggps : GenuineItem rsa ggps) :
  versionMachine.Along (fun versions e => ∀ currType, Accepted service currType versions e)
      ps.versions ((publishGrpsLoop service rsa answers tick).emit ps ggps) ↔
    First rsa answers ps ggps
  := by
  have hquiet (made : Bool) := along_of_quiet
    (A := fun versions e => ∀ currType, Accepted service currType versions e)
    (fun versions e h _ => accepted_of_quiet versions e h)
    (isPublish_discarded (MetaObject.made tick ggps.mToken) made)
  rw [Machine.emit]
  rcases @publishGrpsLoop_cases service rsa answers tick ps ggps with
    ⟨made, hnone, heq⟩ | ⟨grpItem, made, -, hnone, heq⟩ | ⟨version, hversion, hattempt, heq⟩
  · rw [heq, First, hnone]
    simp [hquiet]
  · rw [heq, First, hnone]
    simp [hquiet]
  · rw [heq, First, hversion]
    obtain ⟨adminKey, hnaming, hid, hcreate⟩ := attempt_eq_success hattempt
    obtain ⟨-, -, signSet, -, -, -, hmetaData⟩ := createGroup_eq_success hcreate
    simp only [Machine.along_cons, Machine.along_nil, Accepted, hid, true_and, and_true,
      Option.isSome_some, forall_true_left, implies_true, hnaming, Option.some.injEq, forall_eq']
    constructor
    · intro h
      apply Option.eq_none_iff_forall_ne_some.2
      intro previous hprevious
      obtain ⟨oldGrpMeta, hold⟩ := exists_holds adminKey.keyId previous
      apply absurd (h (fun _ _ => 0) previous hprevious oldGrpMeta hold)
      apply not_updates_zero
      rw [hmetaData]
      exact (hggps.withKeys (answers ggps.mToken) ps.now).groupId
    · intro hnone currType previous hprevious
      exact absurd (hnone.symm.trans hprevious) (Option.some_ne_none previous).symm

end Publish

/-! ### What a tick publishes -/

/-- What is stored, given out or waits to be published is genuine. -/
structure GroupPublisher.Genuine (rsa : RsaKeys service.ssl) (s : GroupPublisher) : Prop where
  pending : ∀ ggps ∈ s.mGrpsToPublish, GenuineItem rsa ggps
  table : GenuineTable rsa s.table
  versions : GenuineVersions rsa s.versions

/-- No two updates that wait are of one stored group. -/
def Apart (s : GroupPublisher) : Prop :=
  ((s.mGroupUpdatePublish.filter fun gup => (s.table.get? gup.grpItem.mGroupId).isSome).map
    fun gup => gup.grpItem.mGroupId).Nodup

variable (rsa) in
/-- A tick all of whose turns satisfy a condition. -/
def TurnsMeet (C : (Token → TurnAnswers) → PublishGrpsState → GxsGrpPendingSign → Prop)
    (s : GroupPublisher) (i : Nat × GroupInput) : Prop :=
  match i.2 with
  | .tick answers =>
      (publishGrpsLoop service rsa answers.turns s.ticks).Along (C answers.turns)
        (s.wait i.1).publishGrpsState s.mGrpsToPublish
  | _ => True

variable (rsa) in
/-- A tick in which the updates that wait after `publishGrps` are of different stored groups. -/
def ApartTick (s : GroupPublisher) (i : Nat × GroupInput) : Prop :=
  match i.2 with
  | .tick answers => Apart ((s.wait i.1).publishGrps service rsa answers.turns).1
  | _ => True

instance (s : GroupPublisher) : Decidable (Apart s) := inferInstanceAs (Decidable (List.Nodup _))

instance (s : GroupPublisher) : ∀ i, Decidable (TurnsMeet rsa (Spaced rsa) s i)
  | (_, .publishGroup _ _) => .isTrue trivial
  | (_, .updateGroup _ _) => .isTrue trivial
  | (_, .deleteGroup _ _) => .isTrue trivial
  | (_, .tick _) => Machine.decidableAlong _ _ _ _

instance (s : GroupPublisher) : ∀ i, Decidable (ApartTick rsa s i)
  | (_, .publishGroup _ _) => .isTrue trivial
  | (_, .updateGroup _ _) => .isTrue trivial
  | (_, .deleteGroup _ _) => .isTrue trivial
  | (_, .tick _) => inferInstanceAs (Decidable (Apart _))

/-- The items that `processGroupUpdatePublish` appends are genuine. -/
theorem genuine_updatePublishLoop (htable : GenuineTable rsa table) (untilStart : Token → Nat)
    (tick : Nat) {us : List GxsGrpPendingSign × Nat} (hus : ∀ ggps ∈ us.1, GenuineItem rsa ggps)
    (l : List GroupUpdatePublish) :
  ∀ ggps ∈ ((updatePublishLoop service table untilStart tick).run us l).1, GenuineItem rsa ggps
  := by
  apply Machine.run_of_next
    (P := fun us : List GxsGrpPendingSign × Nat => ∀ ggps ∈ us.1, GenuineItem rsa ggps) _ hus
  intro us gup hus
  rw [Machine.next]
  rcases @updatePublishLoop_cases service table untilStart tick us gup with
    ⟨-, heq⟩ | ⟨row, hrow, hkeys, heq⟩ | ⟨row, -, heq⟩
  · rw [heq]
    exact hus
  · rw [heq]
    intro ggps hggps
    have hown := htable _ row hrow hkeys
    rcases List.mem_append.1 hggps with hggps | hggps
    · exact hus ggps hggps
    · obtain rfl := List.mem_singleton.1 hggps
      exact fun _ => ⟨hown, hasAdminKey_generatePublicFromPrivateKeys hown,
        groupId_generatePublicFromPrivateKeys _⟩
  · rw [heq]
    exact hus

theorem isPublish_updatePublishLoop (table : GrpTable) (untilStart : Token → Nat) (tick : Nat)
    (us : List GxsGrpPendingSign × Nat) (l : List GroupUpdatePublish) :
  ∀ e ∈ (updatePublishLoop service table untilStart tick).trace us l, e.isPublish = false
  := by
  intro e he
  obtain ⟨us', gup, -, he⟩ := Machine.exists_of_mem_trace _ he
  rw [Machine.emit] at he
  rcases @updatePublishLoop_cases service table untilStart tick us' gup with
    ⟨-, heq⟩ | ⟨row, -, -, heq⟩ | ⟨row, -, heq⟩ <;>
    · rw [heq] at he
      simp only [List.mem_cons, List.not_mem_nil, or_false] at he
      rcases he with rfl | rfl | rfl <;> rfl

theorem GenuineTable.foldl_erase (h : GenuineTable rsa table) (l : List GroupDeletePublish) :
  GenuineTable rsa (l.foldl (fun table gdp => table.erase gdp.mGroupId) table)
  := by
  induction l generalizing table with
  | nil => exact h
  | cons gdp l ih =>
    apply ih
    intro grpId row hrow
    exact h grpId row (OrdMap.get?_of_get?_erase hrow)

/-- The events of a tick: those of the loop of `publishGrps`, and those after it, which publish
nothing. -/
theorem tick_snd (s : GroupPublisher) (answers : TickAnswers) :
  ∃ events, (s.tick service rsa answers).2 =
      (publishGrpsLoop service rsa answers.turns s.ticks).trace s.publishGrpsState
        s.mGrpsToPublish ++ events ∧
    ∀ e ∈ events, e.isPublish = false
  := by
  refine ⟨_, List.append_assoc _ _ _, ?_⟩
  intro e he
  rcases List.mem_append.1 he with he | he
  · exact isPublish_notify _ e he
  · rcases List.mem_append.1 he with he | he
    · exact isPublish_updatePublishLoop _ _ _ _ _ e he
    · exact isPublish_notify _ e he

theorem versions_groupMachine (s : GroupPublisher) (i : Nat × GroupInput) :
  ((groupMachine service rsa).next s i).versions =
    versionMachine.run s.versions ((groupMachine service rsa).emit s i)
  := by
  obtain ⟨seconds, input⟩ := i
  cases input with
  | publishGroup token grpItem => rfl
  | updateGroup token grpItem => rfl
  | deleteGroup token grpId => rfl
  | tick answers =>
    obtain ⟨events, heq, hquiet⟩ := @tick_snd service rsa (s.wait seconds) answers
    rw [Machine.emit, groupMachine]
    simp only [heq]
    rw [Machine.run_append, versions_of_quiet hquiet]
    exact Machine.run_trace versions_publishGrpsLoop (s.wait seconds).publishGrpsState
      s.mGrpsToPublish

theorem genuine_tick (hs : s.Genuine rsa) (answers : TickAnswers) :
  (s.tick service rsa answers).1.Genuine rsa
  := by
  have hloop := Machine.run_of_step
    (fun ps ggps (hps : ps.Genuine rsa) (hggps : GenuineItem rsa ggps) =>
      @genuine_publishGrpsLoop service rsa ggps answers.turns s.ticks ps hps hggps)
    (⟨by rintro ggps ⟨⟩, hs.table, hs.versions⟩ : s.publishGrpsState.Genuine rsa)
    (Machine.along_of_forall_mem hs.pending _)
  constructor
  case pending => exact genuine_updatePublishLoop hloop.table _ _ hloop.kept _
  case table => exact hloop.table.foldl_erase _
  case versions => exact hloop.versions

theorem genuine_next (hs : s.Genuine rsa) (i : Nat × GroupInput) :
  ((groupMachine service rsa).next s i).Genuine rsa
  := by
  obtain ⟨seconds, input⟩ := i
  cases input with
  | publishGroup token grpItem =>
    refine ⟨?_, hs.table, hs.versions⟩
    intro ggps hggps
    rcases List.mem_append.1 hggps with hggps | hggps
    · exact hs.pending ggps hggps
    · obtain rfl := List.mem_singleton.1 hggps
      rintro ⟨⟩
  | updateGroup token grpItem => exact ⟨hs.pending, hs.table, hs.versions⟩
  | deleteGroup token grpId => exact ⟨hs.pending, hs.table, hs.versions⟩
  | tick answers =>
    apply genuine_tick
    exact ⟨hs.pending, hs.table, hs.versions⟩

section Accepted

variable {A : OrdMap RsGxsGroupId RsGxsGrpMetaData → GroupEvent → Prop}
  {C : (Token → TurnAnswers) → PublishGrpsState → GxsGrpPendingSign → Prop}
  (hquiet : ∀ versions e, e.isPublish = false → A versions e)
  (hturn : ∀ {answers tick ps ggps}, ps.Genuine rsa → GenuineItem rsa ggps →
    (versionMachine.Along A ps.versions ((publishGrpsLoop service rsa answers tick).emit ps ggps) ↔
      C answers ps ggps))

include hquiet hturn

/-- What holds of the versions that are published for an input is what holds of its turns. -/
theorem along_emit_iff (hs : s.Genuine rsa) (i : Nat × GroupInput) :
  versionMachine.Along A s.versions ((groupMachine service rsa).emit s i) ↔ TurnsMeet rsa C s i
  := by
  have hnone := along_of_quiet hquiet (List.forall_mem_nil _) s.versions
  obtain ⟨seconds, input⟩ := i
  cases input with
  | publishGroup token grpItem => exact iff_of_true hnone trivial
  | updateGroup token grpItem => exact iff_of_true hnone trivial
  | deleteGroup token grpId => exact iff_of_true hnone trivial
  | tick answers =>
    obtain ⟨events, heq, hevents⟩ := @tick_snd service rsa (s.wait seconds) answers
    rw [Machine.emit, groupMachine]
    simp only [heq]
    rw [Machine.along_append, and_iff_left (along_of_quiet hquiet hevents _)]
    apply (Machine.along_trace_iff versions_publishGrpsLoop
      (s.wait seconds).publishGrpsState s.mGrpsToPublish).trans
    apply Machine.along_congr (P := PublishGrpsState.Genuine rsa) (D := GenuineItem rsa)
    · intro ps ggps hps hggps
      exact genuine_publishGrpsLoop hps hggps
    · intro ps ggps hps hggps
      exact hturn hps hggps
    · exact ⟨by rintro ggps ⟨⟩, hs.table, hs.versions⟩
    · exact hs.pending

theorem along_versions_iff (hs : s.Genuine rsa) (is : List (Nat × GroupInput)) :
  versionMachine.Along A s.versions ((groupMachine service rsa).trace s is) ↔
    (groupMachine service rsa).Along (TurnsMeet rsa C) s is
  := by
  apply (Machine.along_trace_iff versions_groupMachine s is).trans
  apply Machine.along_congr (P := GroupPublisher.Genuine rsa) (D := fun _ => True)
  · intro s i hs _
    exact genuine_next hs i
  · intro s i hs _
    exact along_emit_iff hquiet hturn hs i
  · exact hs
  · exact fun _ _ => trivial

end Accepted

/-! ### Metadata in memory -/

/-- The tick in which metadata are made. -/
def MetaObject.tick : MetaObject → Nat
  | .retrieved tick _ => tick
  | .made tick _ => tick

theorem GroupEvent.isSome_object (h : e.isFinal = true) :
  ∃ obj, e.object = some obj
  := by
  cases e
  case delete obj => exact ⟨obj, rfl⟩
  all_goals cases h

theorem mem_notify {notes : List (Token × Bool)} (he : e ∈ notify notes) :
  e.object = none ∧ e.isFinal = false
  := by
  obtain ⟨note, -, rfl⟩ := List.mem_map.1 he
  exact ⟨rfl, rfl⟩

/-- The statuses that follow a log touch no metadata. -/
theorem tidy_append_notify {log : List GroupEvent}
    (h : Tidy GroupEvent.object GroupEvent.isFinal log) (notes : List (Token × Bool)) :
  Tidy GroupEvent.object GroupEvent.isFinal (log ++ notify notes)
  := by
  rw [tidy_append]
  refine ⟨h, tidy_of_forall fun e he => (mem_notify he).2, ?_⟩
  intro e he hended
  obtain ⟨e', -, hfinal, heq⟩ := mem_ended.1 hended
  obtain ⟨obj, hobj⟩ := GroupEvent.isSome_object hfinal
  rw [heq, (mem_notify he).1] at hobj
  cases hobj

section Memory

variable {answers : Token → TurnAnswers} (tick : Nat)

/-- A turn of `publishGrps` uses what it has made, and deletes it in the end. -/
theorem tidy_publishGrpsLoop_emit (ps : PublishGrpsState) (ggps : GxsGrpPendingSign) :
  Tidy GroupEvent.object GroupEvent.isFinal
      ((publishGrpsLoop service rsa answers tick).emit ps ggps) ∧
    ∀ e ∈ (publishGrpsLoop service rsa answers tick).emit ps ggps, ∀ obj, e.object = some obj →
      .made tick ggps.mToken = obj
  := by
  rw [Machine.emit]
  have hdiscarded (made : Bool) : Tidy GroupEvent.object GroupEvent.isFinal
        (discarded (.made tick ggps.mToken) made) ∧
      ∀ e ∈ discarded (.made tick ggps.mToken) made, ∀ obj, e.object = some obj →
        .made tick ggps.mToken = obj := by
    cases made <;> simp [discarded, Tidy, GroupEvent.isFinal, GroupEvent.object]
  rcases @publishGrpsLoop_cases service rsa answers tick ps ggps with
    ⟨made, -, heq⟩ | ⟨grpItem, made, -, -, heq⟩ | ⟨version, -, -, heq⟩
  · rw [heq]
    exact hdiscarded made
  · rw [heq]
    exact hdiscarded made
  · rw [heq]
    simp [Tidy, GroupEvent.isFinal, GroupEvent.object]

/-- A turn of `processGroupUpdatePublish` uses what is retrieved for a stored group, and deletes it
in the end. -/
theorem tidy_updatePublishLoop_emit (table : GrpTable) (untilStart : Token → Nat) (tick : Nat)
    (us : List GxsGrpPendingSign × Nat) (gup : GroupUpdatePublish) :
  Tidy GroupEvent.object GroupEvent.isFinal
      ((updatePublishLoop service table untilStart tick).emit us gup) ∧
    ∀ e ∈ (updatePublishLoop service table untilStart tick).emit us gup, ∀ obj,
      e.object = some obj → .retrieved tick gup.grpItem.mGroupId = obj ∧
        (table.get? gup.grpItem.mGroupId).isSome
  := by
  rw [Machine.emit]
  rcases @updatePublishLoop_cases service table untilStart tick us gup with
    ⟨-, heq⟩ | ⟨row, hrow, -, heq⟩ | ⟨row, hrow, heq⟩
  · rw [heq]
    simp [Tidy, GroupEvent.object]
  · rw [heq, hrow]
    simp [Tidy, GroupEvent.isFinal, GroupEvent.object]
  · rw [heq, hrow]
    simp [Tidy, GroupEvent.isFinal, GroupEvent.object]

theorem tidy_publishGrpsLoop (ps : PublishGrpsState) {l : List GxsGrpPendingSign}
    (hl : (l.map (·.mToken)).Nodup) :
  Tidy GroupEvent.object GroupEvent.isFinal
    ((publishGrpsLoop service rsa answers tick).trace ps l)
  := by
  apply tidy_trace
  · intro ps ggps
    exact (tidy_publishGrpsLoop_emit tick ps ggps).1
  · apply (List.pairwise_map.1 hl).imp
    intro ggps ggps' hne ps ps' e he hfinal e' he' heq
    obtain ⟨obj, hobj⟩ := GroupEvent.isSome_object hfinal
    have hmade := (tidy_publishGrpsLoop_emit tick ps ggps).2 e he obj hobj
    have hmade' := (tidy_publishGrpsLoop_emit tick ps' ggps').2 e' he' obj (heq ▸ hobj)
    rw [← hmade, MetaObject.made.injEq] at hmade'
    exact hne hmade'.2.symm

theorem ended_updatePublishLoop (table : GrpTable) (untilStart : Token → Nat) (tick : Nat)
    (us : List GxsGrpPendingSign × Nat) (l : List GroupUpdatePublish) :
  ended GroupEvent.object GroupEvent.isFinal
      ((updatePublishLoop service table untilStart tick).trace us l) =
    (l.filter fun gup => (table.get? gup.grpItem.mGroupId).isSome).map
      fun gup => some (.retrieved tick gup.grpItem.mGroupId)
  := by
  induction l generalizing us with
  | nil => rfl
  | cons gup l ih =>
    rw [Machine.trace_cons, ended_append, ih, Machine.emit, List.filter_cons]
    rcases @updatePublishLoop_cases service table untilStart tick us gup with
      ⟨hrow, heq⟩ | ⟨row, hrow, -, heq⟩ | ⟨row, hrow, heq⟩
    · rw [heq, hrow]
      rfl
    · rw [heq, hrow]
      rfl
    · rw [heq, hrow]
      rfl

/-- The updates of different groups have metadata of their own, and those of one group have not. -/
theorem tidy_updatePublishLoop (table : GrpTable) (untilStart : Token → Nat) (tick : Nat)
    (us : List GxsGrpPendingSign × Nat) (l : List GroupUpdatePublish) :
  Tidy GroupEvent.object GroupEvent.isFinal
      ((updatePublishLoop service table untilStart tick).trace us l) ↔
    ((l.filter fun gup => (table.get? gup.grpItem.mGroupId).isSome).map
      fun gup => gup.grpItem.mGroupId).Nodup
  := by
  constructor
  · intro h
    have hended := h.nodup_ended
    rw [ended_updatePublishLoop, List.Nodup, List.pairwise_map] at hended
    rw [List.Nodup, List.pairwise_map]
    apply hended.imp
    intro gup gup' hne heq
    rw [heq] at hne
    exact hne rfl
  · intro hl
    apply tidy_trace
    · intro us gup
      exact (tidy_updatePublishLoop_emit table untilStart tick us gup).1
    · rw [List.Nodup, List.pairwise_map, List.pairwise_filter] at hl
      apply hl.imp
      intro gup gup' hne us us' e he hfinal e' he' heq
      obtain ⟨obj, hobj⟩ := GroupEvent.isSome_object hfinal
      obtain ⟨hid, hstored⟩ :=
        (tidy_updatePublishLoop_emit table untilStart tick us gup).2 e he obj hobj
      obtain ⟨hid', hstored'⟩ :=
        (tidy_updatePublishLoop_emit table untilStart tick us' gup').2 e' he' obj (heq ▸ hobj)
      rw [← hid, MetaObject.retrieved.injEq] at hid'
      exact hne hstored hstored' hid'.2.symm

theorem object_of_mem_tick {answers : TickAnswers} (he : e ∈ (s.tick service rsa answers).2)
    {obj : MetaObject} (hobj : e.object = some obj) :
  obj.tick = s.ticks
  := by
  rcases List.mem_append.1 he with he | he
  · rcases List.mem_append.1 he with he | he
    · obtain ⟨ps, ggps, -, he⟩ := Machine.exists_of_mem_trace _ he
      rw [← (tidy_publishGrpsLoop_emit _ ps ggps).2 e he obj hobj]
      rfl
    · rw [(mem_notify he).1] at hobj
      cases hobj
  · rcases List.mem_append.1 he with he | he
    · obtain ⟨us, gup, -, he⟩ := Machine.exists_of_mem_trace _ he
      rw [← ((tidy_updatePublishLoop_emit _ _ _ us gup).2 e he obj hobj).1]
      rfl
    · rw [(mem_notify he).1] at hobj
      cases hobj

/-- The metadata of a tick are used as they should be exactly when no two updates that wait after
`publishGrps` are of one stored group. -/
theorem tidy_tick (hnodup : (s.mGrpsToPublish.map (·.mToken)).Nodup) (answers : TickAnswers) :
  Tidy GroupEvent.object GroupEvent.isFinal (s.tick service rsa answers).2 ↔
    Apart (s.publishGrps service rsa answers.turns).1
  := by
  rw [GroupPublisher.tick, tidy_append]
  constructor
  · rintro ⟨-, hupdate, -⟩
    exact (tidy_updatePublishLoop _ _ _ _ _).1 (tidy_append.1 hupdate).1
  · intro hapart
    refine ⟨?_, ?_, ?_⟩
    · exact tidy_append_notify (tidy_publishGrpsLoop _ _ hnodup) _
    · exact tidy_append_notify ((tidy_updatePublishLoop _ _ _ _ _).2 hapart) _
    · intro e he hended
      obtain ⟨e', he', hfinal, heq⟩ := mem_ended.1 hended
      obtain ⟨obj, hobj⟩ := GroupEvent.isSome_object hfinal
      rcases List.mem_append.1 he' with he' | he'
      · obtain ⟨ps, ggps, -, he'⟩ := Machine.exists_of_mem_trace _ he'
        obtain rfl := (tidy_publishGrpsLoop_emit _ ps ggps).2 e' he' obj hobj
        rcases List.mem_append.1 he with he | he
        · obtain ⟨us, gup, -, he⟩ := Machine.exists_of_mem_trace _ he
          have hretrieved := ((tidy_updatePublishLoop_emit _ _ _ us gup).2 e he _ (heq ▸ hobj)).1
          cases hretrieved
        · rw [heq, (mem_notify he).1] at hobj
          cases hobj
      · rw [(mem_notify he').2] at hfinal
        cases hfinal

end Memory

/-- The metadata that are touched in a run are made from then on. -/
theorem le_tick_of_mem_trace (he : e ∈ (groupMachine service rsa).trace s is) {obj : MetaObject}
    (hobj : e.object = some obj) :
  s.ticks ≤ obj.tick
  := by
  induction is generalizing s with
  | nil => cases he
  | cons i is ih =>
    obtain ⟨seconds, input⟩ := i
    rcases List.mem_append.1 he with he | he
    · cases input with
      | publishGroup token grpItem => cases he
      | updateGroup token grpItem => cases he
      | deleteGroup token grpId => cases he
      | tick answers => exact (object_of_mem_tick he hobj).ge
    · have hle := ih he
      cases input with
      | publishGroup token grpItem => exact hle
      | updateGroup token grpItem => exact hle
      | deleteGroup token grpId => exact hle
      | tick answers => exact (Nat.le_succ _).trans hle

/-- The metadata of a run are used as they should be exactly when those of its ticks are. -/
theorem tidy_groupMachine (hnodup : (s.tokens ++ tokensOf is).Nodup) :
  Tidy GroupEvent.object GroupEvent.isFinal ((groupMachine service rsa).trace s is) ↔
    (groupMachine service rsa).Along (ApartTick rsa) s is
  := by
  induction is generalizing s with
  | nil => exact ⟨fun _ => trivial, fun _ => tidy_nil⟩
  | cons i is ih =>
    have hrest := ih (@nodup_next service rsa s is i hnodup)
    have hpublish := (List.nodup_append'.1 (List.nodup_append'.1 hnodup).1).1
    rw [Machine.along_cons, ← hrest]
    obtain ⟨seconds, input⟩ := i
    cases input with
    | publishGroup token grpItem => exact (and_iff_right trivial).symm
    | updateGroup token grpItem => exact (and_iff_right trivial).symm
    | deleteGroup token grpId => exact (and_iff_right trivial).symm
    | tick answers =>
      have htick := @tidy_tick service rsa (s.wait seconds) hpublish answers
      rw [Machine.trace_cons, tidy_append]
      constructor
      · rintro ⟨hnow, hlater, -⟩
        exact ⟨htick.1 hnow, hlater⟩
      · rintro ⟨hapart, hlater⟩
        refine ⟨htick.2 hapart, hlater, ?_⟩
        intro e he hended
        obtain ⟨e', he', hfinal, heq⟩ := mem_ended.1 hended
        obtain ⟨obj, hobj⟩ := GroupEvent.isSome_object hfinal
        have hnow : obj.tick = s.ticks := object_of_mem_tick he' hobj
        have hle : s.ticks + 1 ≤ obj.tick := le_tick_of_mem_trace he (heq ▸ hobj)
        omega

/-! ### Runs -/

/-- An `RsGenExchange` in whose queues there is nothing. -/
structure GroupPublisher.Idle (s : GroupPublisher) : Prop where
  publish : s.mGrpsToPublish = []
  update : s.mGroupUpdatePublish = []
  delete : s.mGroupDeletePublish = []

variable (rsa currType) in
/-- What is promised of a run: every token that is generated has one final status, or its request is
in one queue; it has its status when a tick begins later than `PENDING_SIGN_TIMEOUT` after the end
of the first one; no metadata are touched after they have been deleted; and every token that is
complete, if it is not that of a group to be deleted, has a version that is a valid update for all
who hold the version before, and read it with `currType` in the variable of the signatures. -/
structure PublishesGroups (s : GroupPublisher) (is : List (Nat × GroupInput)) : Prop where
  once : ∀ token ∈ tokensOf is,
    (statuses ((groupMachine service rsa).trace s is)).count token +
      ((groupMachine service rsa).run s is).tokens.count token = 1
  inTime : ∀ js seconds a ks seconds' b ls,
    is = js ++ (seconds, .tick a) :: (ks ++ (seconds', .tick b) :: ls) →
    ((groupMachine service rsa).run s (js ++ [(seconds, .tick a)])).now + pendingSignTimeout <
      ((groupMachine service rsa).run s (js ++ (seconds, .tick a) :: ks)).now + seconds' →
    ∀ token ∈ tokensOf js, token ∈ statuses ((groupMachine service rsa).trace s is)
  tidy : Tidy GroupEvent.object GroupEvent.isFinal ((groupMachine service rsa).trace s is)
  published : ∀ token, .status token true ∈ (groupMachine service rsa).trace s is →
    token ∉ is.flatMap (fun i => i.2.deletes) →
      ∃ version, .publish token version ∈ (groupMachine service rsa).trace s is
  accepted : ∀ before token version after,
    (groupMachine service rsa).trace s is = before ++ .publish token version :: after →
    ∀ previous, (versionMachine.run s.versions before).get? version.grpId = some previous →
      ∀ oldGrpMeta, Holds oldGrpMeta version.grpId previous →
        Updates service currType oldGrpMeta version.grp version.metaData

theorem accepted_iff_along (versions : OrdMap RsGxsGroupId RsGxsGrpMetaData)
    (events : List GroupEvent) :
  versionMachine.Along (Accepted service currType) versions events ↔
    ∀ before token version after, events = before ++ .publish token version :: after →
      ∀ previous, (versionMachine.run versions before).get? version.grpId = some previous →
        ∀ oldGrpMeta, Holds oldGrpMeta version.grpId previous →
          Updates service currType oldGrpMeta version.grp version.metaData
  := by
  rw [Machine.along_iff]
  constructor
  · intro h before token version after heq
    exact h before (.publish token version) after heq
  · intro h before e after heq
    cases e with
    | publish token version => exact h before token version after heq
    | use obj => trivial
    | delete obj => trivial
    | status token complete => trivial

theorem PublishesGroups.spaced (hgenuine : s.Genuine rsa)
    (h : PublishesGroups rsa keptType s is) :
  (groupMachine service rsa).Along (TurnsMeet rsa (Spaced rsa)) s is
  := (along_versions_iff accepted_of_quiet accepted_publishGrpsLoop hgenuine is).1
      ((accepted_iff_along s.versions _).2 h.accepted)

theorem PublishesGroups.apart (hnodup : (s.tokens ++ tokensOf is).Nodup)
    (h : PublishesGroups rsa currType s is) :
  (groupMachine service rsa).Along (ApartTick rsa) s is
  := (tidy_groupMachine hnodup).1 h.tidy

theorem publishesGroups_of_accepted (hidle : s.Idle) (htokens : (tokensOf is).Nodup)
    (hapart : (groupMachine service rsa).Along (ApartTick rsa) s is)
    (haccepted : versionMachine.Along (Accepted service currType) s.versions
      ((groupMachine service rsa).trace s is)) :
  PublishesGroups rsa currType s is
  := by
  have hempty : s.tokens = [] := by
    rw [GroupPublisher.tokens, hidle.publish, hidle.update, hidle.delete]
    rfl
  have hnodup : (s.tokens ++ tokensOf is).Nodup := by rwa [hempty]
  constructor
  case once =>
    intro token htoken
    rw [count_trace hnodup, hempty, List.count_eq_one_of_mem htokens htoken]
    rfl
  case inTime =>
    rintro js seconds a ks seconds' b ls rfl hlate token htoken
    apply ended_of_late _ hnodup hlate htoken
    rw [Punctual, hidle.publish]
    rintro ggps ⟨⟩
  case tidy => exact (tidy_groupMachine hnodup).2 hapart
  case published =>
    intro token hstatus hdelete
    rcases complete_trace hstatus with hversion | hmem
    · exact hversion
    · rw [hidle.delete] at hmem
      exact absurd hmem hdelete
  case accepted => exact (accepted_iff_along _ _).1 haccepted

/-- A run publishes groups as it should, whatever the variable of the signatures holds, exactly when
in every tick no version is published after another one of its group, and the updates that wait
after `publishGrps` are of different stored groups.  Where the variable keeps its value, it does so
exactly when in every tick the versions that are published are spaced, and the updates are so. -/
theorem publishesGroups_iff {s : GroupPublisher} (hidle : s.Idle) (hgenuine : s.Genuine rsa)
    {is : List (Nat × GroupInput)} (htokens : (tokensOf is).Nodup) :
  ((∀ currType, PublishesGroups rsa currType s is) ↔
    (groupMachine service rsa).Along
      (fun s i => TurnsMeet rsa (First rsa) s i ∧ ApartTick rsa s i) s is) ∧
  (PublishesGroups rsa keptType s is ↔
    (groupMachine service rsa).Along
      (fun s i => TurnsMeet rsa (Spaced rsa) s i ∧ ApartTick rsa s i) s is)
  := by
  have hempty : s.tokens = [] := by
    rw [GroupPublisher.tokens, hidle.publish, hidle.update, hidle.delete]
    rfl
  have hnodup : (s.tokens ++ tokensOf is).Nodup := by rwa [hempty]
  have hfirst := along_versions_iff (C := First rsa)
    (fun versions e h _ => accepted_of_quiet versions e h)
    (fun _ hggps => accepted_all_publishGrpsLoop hggps) hgenuine is
  have hspaced := along_versions_iff (C := Spaced rsa) accepted_of_quiet
    accepted_publishGrpsLoop hgenuine is
  rw [Machine.along_and_iff, Machine.along_and_iff, ← hfirst, ← hspaced, Machine.along_forall_iff]
  constructor
  · constructor
    · intro h
      exact ⟨fun currType => (accepted_iff_along _ _).2 (h currType).accepted,
        (h keptType).apart hnodup⟩
    · rintro ⟨haccepted, hapart⟩ currType
      exact publishesGroups_of_accepted hidle htokens hapart (haccepted currType)
  · constructor
    · intro h
      exact ⟨(accepted_iff_along _ _).2 h.accepted, h.apart hnodup⟩
    · rintro ⟨haccepted, hapart⟩
      exact publishesGroups_of_accepted hidle htokens hapart haccepted

/-! ### Updates that come too soon, and too late -/

/-- A library whose signatures are the public part of the key, and the data. -/
def plainSSL : OpenSSL where
  rsaKey key :=
    if key.keyFlags &&& rstlvKeyTypeFull ≠ 0 then key.keyData.tail? else some key.keyData
  verify rsakey data signData := signData = rsakey ++ data
  sign key data :=
    if key.keyFlags &&& rstlvKeyTypeFull ≠ 0 then key.keyData.tail?.map (· ++ data) else none
  sha1 _ := 0

/-- A service without a policy. -/
def plainService : Service := ⟨0, 0, plainSSL⟩

/-- Keys that are written as their fingerprints, the private ones with a byte before. -/
def plainKeys : RsaKeys plainService.ssl where
  privateData keyId := 1 :: keyId.bytes
  publicData keyId := keyId.bytes
  rsaKey_private := by
    intro key hfull hdata
    simp [plainService, plainSSL, hfull, hdata]
  rsaKey_public := by
    intro key hpublic hdata
    simp [plainService, plainSSL, hpublic, hdata]
  verify_sign := by
    intro key data signData hfull hdata hsign data'
    simp only [plainService, plainSSL, hfull, hdata, ne_eq, not_false_eq_true, if_true,
      List.tail?_cons, Option.map_some, Option.some.injEq] at hsign
    simp [plainService, plainSSL, ← hsign, eq_comm]

/-- An `RsGenExchange` without groups, at the time `100`. -/
def newPublisher : GroupPublisher := ⟨[], [], [], OrdMap.empty, OrdMap.empty, 100, 0⟩

/-- An item of the group `1`. -/
def plainItem : RsGroupMetaData := ⟨1, [65, 66], 0x4, 0, 0, 0, 0, 0, 0, 0, [], 0⟩

/-- A tick in which every item is published. -/
def plainTick : GroupInput :=
  .tick {
    turns := fun _ =>
      { adminId := 1
        publishId := 2
        serviceCreateGroup := fun grpItem _ => (.success, grpItem)
        serialise := fun _ => some [7]
        mGixs := none
        untilStart := 0
        untilAdminKey := 0
        untilPublishKey := 0
        untilPublish := 0 }
    untilStart := fun _ => 0 }

/-- A group is published, and updated after a time. -/
def updateRun (seconds : Nat) : List (Nat × GroupInput) :=
  [(0, .publishGroup 0 plainItem), (0, plainTick), (0, .updateGroup 1 plainItem), (0, plainTick),
    (seconds, plainTick)]

theorem idle_newPublisher :
  newPublisher.Idle
  := ⟨rfl, rfl, rfl⟩

theorem genuine_newPublisher :
  newPublisher.Genuine plainKeys
  := by
  constructor
  case pending => rintro ggps ⟨⟩
  case table => rintro grpId row ⟨⟩
  case versions => rintro grpId previous ⟨⟩

theorem publishesGroups_iff_updateRun :
  PublishesGroups plainKeys keptType newPublisher (updateRun 1) ∧
    statuses ((groupMachine plainService plainKeys).trace newPublisher (updateRun 1)) = [0, 1]
  := by
  constructor
  · apply (publishesGroups_iff idle_newPublisher genuine_newPublisher (by decide)).2.2
    decide +kernel
  · decide +kernel

/-- Two updates of one group between two ticks: its metadata are deleted twice.  An update in the
second in which the group has been published, one after the period of its key, and one with a name
that `GetTlvString` changes: they are complete and not valid, even where the variable keeps its
value. -/
theorem not_publishesGroups :
  ¬ PublishesGroups plainKeys keptType newPublisher
      [(0, .publishGroup 0 plainItem), (0, plainTick), (0, .updateGroup 1 plainItem),
        (0, .updateGroup 2 plainItem), (0, plainTick)] ∧
    ¬ PublishesGroups plainKeys keptType newPublisher (updateRun 0) ∧
    ¬ PublishesGroups plainKeys keptType newPublisher
      [(0, .publishGroup 0 plainItem), (0, plainTick), (157680001, .updateGroup 1 plainItem),
        (0, plainTick), (0, plainTick)] ∧
    ¬ PublishesGroups plainKeys keptType newPublisher
      [(0, .publishGroup 0 plainItem), (0, plainTick),
        (0, .updateGroup 1 { plainItem with mGroupName := [65, 10] }), (0, plainTick),
        (1, plainTick)]
  := by
  refine ⟨?_, ?_, ?_, ?_⟩
  · intro h
    have hapart := h.apart (by decide)
    revert hapart
    decide +kernel
  all_goals
    intro h
    have hspaced := h.spaced genuine_newPublisher
    revert hspaced
    decide +kernel

end GenExchange
