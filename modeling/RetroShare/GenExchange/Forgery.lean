import RetroShare.GenExchange.Acceptance
import RetroShare.GenExchange.Reception

/-!
# What a relay can alter

The signatures of a message cover its data and its metadata with the ids cleared.  A relay that
cannot sign for others cannot alter anything of these: `signedContent_along`.  The ids themselves
are stored as they come, whatever they are.
-/

namespace GenExchange

variable (service : Service) (honest : List UInt8 → Prop)
  (published : List UInt8 → List UInt8 → RsGxsMsgMetaData → Prop)

/-- Nobody signs for an honest holder of a key, who signs what is `published` with it: data, and the
metadata that `createMessage` is given. -/
def Unforgeable (ssl : OpenSSL) : Prop :=
  ∀ rsakey data signData, honest rsakey → ssl.verify rsakey data signData = true →
    ∃ msg metaData, published rsakey msg metaData ∧ data = msg ++ metaData.serialise

/-- The data and the metadata of a message, with the ids and the signatures cleared, are what the
holder of the key has published, if he is honest. -/
def PublishedWith (key : RsTlvSecurityKey) (msg : List UInt8) (metaData : RsGxsMsgMetaData) :
    Prop :=
  ∃ rsakey, service.ssl.rsaKey key = some rsakey ∧ (honest rsakey →
    ∃ msg' metaData', published rsakey msg' metaData' ∧
      msg ++ (GxsSecurity.msgMetaCleared metaData).serialise = msg' ++ metaData'.serialise)

/-- What is known of a message that is stored: those whose signatures it needs have published it, up
to its ids, which are those that it has been received with, and which no check looks at. -/
structure SignedContent (answers : MsgAnswers) (msg : RsNxsMsg) (metaData : RsGxsMsgMetaData)
    (grpMeta : RsGxsGrpMetaData) : Prop where
  received : msg.metaData.map markReceived = some metaData
  isNew : metaData.mMsgId ∉ answers.retrieveMsgIds metaData.mGroupId
  publish : needPublishSign service metaData grpMeta.mGroupFlags = true →
    ∃ key, publishCheckingKey grpMeta.keys = some key ∧
      PublishedWith service honest published key msg.msg metaData
  identity : needIdentitySign service metaData grpMeta.mGroupFlags = true →
    ∃ gixs key, answers.mGixs msg = some gixs ∧ gixs.getKey metaData.mAuthorId = some key ∧
      PublishedWith service honest published key msg.msg metaData
  anyIds : ∀ msgId origMsgId, ValidatedBy service answers grpMeta msg
    { metaData with mMsgId := msgId, mOrigMsgId := origMsgId }

/-- Every message that a call of `processRecvdData` stores has been published up to its ids; the
group whose keys count is the one that the packet names. -/
def StoresSigned : Option MsgReception → Input → Prop
  | some s, .processRecvdData _ answers =>
      ∀ r, s.processRecvdMessages service answers = some r →
        ∀ msg metaData, .storeMessage msg metaData ∈ r.2 →
          ∃ grpMeta, answers.grpMeta? msg.grpId = some grpMeta ∧
            SignedContent service honest published answers msg metaData grpMeta
  | _, _ => True

variable {service honest published} {metaData : RsGxsMsgMetaData}

theorem publishedWith_of_validateNxsMsg (hunforgeable : Unforgeable honest published service.ssl)
    {key : RsTlvSecurityKey} {msg : List UInt8} {sign : RsTlvKeySignature}
    (h : GxsSecurity.validateNxsMsg service.ssl msg metaData sign key = true) :
  PublishedWith service honest published key msg metaData
  := by
  rw [GxsSecurity.validateNxsMsg, Bool.and_eq_true, GxsSecurity.verifies, Option.any_eq_true] at h
  obtain ⟨-, rsakey, hkey, hverify⟩ := h
  use rsakey, hkey
  intro hhonest
  apply hunforgeable rsakey _ _ hhonest hverify

theorem signedContent_of_validatedBy (hunforgeable : Unforgeable honest published service.ssl)
    {answers : MsgAnswers} {msg : RsNxsMsg} {grpMeta : RsGxsGrpMetaData}
    (hreceived : msg.metaData.map markReceived = some metaData)
    (hnew : isNew service answers metaData = true)
    (hvalid : ValidatedBy service answers grpMeta msg metaData) :
  SignedContent service honest published answers msg metaData grpMeta
  := by
  obtain ⟨hpublish, hidentity⟩ := (validateMsg_eq_success service _).1 hvalid
  rw [isNew, Bool.and_eq_true, decide_eq_true_eq] at hnew
  constructor
  case received => exact hreceived
  case isNew => exact hnew.1
  case publish =>
    intro hneeded
    obtain ⟨key, hkey, -, hsign⟩ := (validatePublish_iff service _ _ _).1 (hpublish hneeded)
    use key, hkey
    exact publishedWith_of_validateNxsMsg hunforgeable hsign
  case identity =>
    intro hneeded
    obtain ⟨gixs, key, hgixs, -, hkey, hsign⟩ := hidentity hneeded
    use gixs, key, hgixs, hkey
    exact publishedWith_of_validateNxsMsg hunforgeable hsign
  case anyIds =>
    intro msgId origMsgId
    exact hvalid

/-- Whatever is received, what is stored has been published up to its ids. -/
theorem signedContent_along (hunforgeable : Unforgeable honest published service.ssl)
    (s : Option MsgReception) (is : List Input) :
  (msgMachine service).Along (StoresSigned service honest published) s is
  := by
  apply Machine.along_of_forall
  rintro (_ | s) (_ | _ | ⟨grpAnswers, answers⟩)
  case some.processRecvdData =>
    intro r hr msg metaData hstored
    obtain ⟨⟨-, received, grpMeta, hmeta, hgrp, hvalid, heq⟩, hnew⟩ :=
      validatedEntry_of_stored hr hstored
    obtain rfl : metaData = markReceived received := heq
    use grpMeta, hgrp
    apply signedContent_of_validatedBy hunforgeable _ hnew
    · rwa [validatedBy_markReceived]
    · rw [hmeta, Option.map_some]
  all_goals trivial

/-! ### A message under other ids -/

/-- The ids of a message are those that have been published: the hash that `createMessage` makes,
and the original that `publishMsgs` sends. -/
def Genuine (ssl : OpenSSL) (published : List UInt8 → List UInt8 → RsGxsMsgMetaData → Prop)
    (metaData : RsGxsMsgMetaData) : Prop :=
  ∃ rsakey msg' metaData', published rsakey msg' metaData' ∧
    metaData.mMsgId = ssl.sha1 (msg' ++ metaData'.serialise) ∧
    metaData.mOrigMsgId = (markOriginal { metaData' with mMsgId := metaData.mMsgId }).mOrigMsgId

/-- The one message that is published, by the author `5`. -/
def PublishedOnce (rsakey msg : List UInt8) (metaData : RsGxsMsgMetaData) : Prop :=
  rsakey = [5] ∧ msg = [1] ∧ metaData = (rootMessage 0).toMetaData 100

/-- The signature of this message is the only one there is. -/
def onceSSL : OpenSSL where
  rsaKey key := some key.keyData
  verify rsakey data signData :=
    rsakey = [5] ∧ data = [1] ++ ((rootMessage 0).toMetaData 100).serialise ∧ signData = [42]
  sign key data :=
    if key = authorKey rstlvKeyTypeFull ∧
        data = [1] ++ ((rootMessage 0).toMetaData 100).serialise then some [42]
    else none
  sha1 data := Fin.ofNat _ data.sum.toNat

theorem unforgeable_onceSSL :
  Unforgeable (fun _ => True) PublishedOnce onceSSL
  := by
  intro rsakey data signData _ hverify
  obtain ⟨rfl, rfl, -⟩ := of_decide_eq_true hverify
  exact ⟨_, _, ⟨rfl, rfl, rfl⟩, rfl⟩

/-- A service that has no policy. -/
def onceService : Service := ⟨0, 60 * 60 * 24 * 31, onceSSL⟩

/-- The metadata of this message as a relay gives them, with ids of his own. -/
def relayedMeta (msgId origMsgId : RsGxsMessageId) : RsGxsMsgMetaData :=
  { (rootMessage 0).toMetaData 100 with
    mMsgId := msgId
    mOrigMsgId := origMsgId
    signSet := OrdMap.empty.insert flagAuthenIdentity ⟨5, [42]⟩ }

/-- This message as a relay gives it. -/
def relayed (obj : Nat) (msgId origMsgId : RsGxsMessageId) : RsNxsMsg :=
  ⟨obj, 1, msgId, [1], some (relayedMeta msgId origMsgId)⟩

/-- A public group without messages, and the author `5`. -/
def knownAuthor : MsgAnswers where
  grpMeta? grpId := if grpId = 1 then some (plainGrpMeta 1 0x4) else none
  retrieveMsgIds _ := []
  now := 100
  mGixs _ := some knowsAuthor

/-- Messages that arrive, and are worked on. -/
def relayedRun (messages : List RsNxsMsg) : List Input := [
  .notifyNewMessages messages,
  .processRecvdData ⟨[], fun _ => none⟩ knownAuthor]

theorem signedContent_along_relayed :
  (msgMachine onceService).Along (StoresSigned onceService (fun _ => True) PublishedOnce)
      (some .new) (relayedRun [relayed 0 11 9]) ∧
    (msgMachine onceService).trace (some .new) (relayedRun [relayed 0 11 9]) =
      [.use 0, .storeMessage (relayed 0 11 9) (markReceived (relayedMeta 11 9))]
  := ⟨signedContent_along unforgeable_onceSSL _ _, by decide +kernel⟩

/-- One message is stored under two ids, none of which is its own, as a version of another. -/
theorem not_genuine_relayed :
  Unforgeable (fun _ => True) PublishedOnce onceSSL ∧
    (msgMachine onceService).trace (some .new) (relayedRun [relayed 0 11 9, relayed 1 12 9]) =
      [.use 0, .use 1, .storeMessage (relayed 0 11 9) (markReceived (relayedMeta 11 9)),
        .storeMessage (relayed 1 12 9) (markReceived (relayedMeta 12 9))] ∧
    ∀ msgId ∈ [11, 12], ¬ Genuine onceSSL PublishedOnce (markReceived (relayedMeta msgId 9))
  := by
  refine ⟨unforgeable_onceSSL, by decide +kernel, ?_⟩
  rintro msgId hmem ⟨_, _, _, ⟨rfl, rfl, rfl⟩, hid, -⟩
  have hsha1 : onceSSL.sha1 ([1] ++ ((rootMessage 0).toMetaData 100).serialise) ∉
      ([11, 12] : List RsGxsMessageId) := by decide +kernel
  rw [← hid] at hsha1
  exact hsha1 hmem

end GenExchange
