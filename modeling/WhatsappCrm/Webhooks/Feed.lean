/-
Purpose: What the events of one contact come to: the part of the tables they write.
-/
import WhatsappCrm.Webhooks.Persistence
import Mathlib.Logic.Function.Basic

namespace WhatsappCrm.Webhooks

open Interleaving Table

/-- An event of the provider about a contact: a message with the profile name that came beside it, or a receipt. -/
inductive ProviderEvent where
  | message (message : WhatsAppInboundMessage) (displayName : Option String)
  | receipt (update : WhatsAppMessageStatusUpdate)

namespace ProviderEvent

def id : ProviderEvent → String
  | .message m _ => m.id
  | .receipt u => u.id

def timestamp : ProviderEvent → Millis
  | .message m _ => m.timestamp
  | .receipt u => u.timestamp

def phoneE164 : ProviderEvent → Option String
  | .message m _ => toPhoneE164 m.source
  | .receipt u => toPhoneE164 u.recipientId

def write (account : RoutedWhatsAppAccount) : ProviderEvent → WebhookProg (Except WebhookError Bool)
  | .message m displayName => applyInboundMessage account m displayName
  | .receipt u => applyStatusUpdate account u

def deliver (account : RoutedWhatsAppAccount) (e : ProviderEvent) (db : WebhookDb) : Option WebhookDb :=
  match (e.write account).alone db with
  | (.ok _, db') => some db'
  | (.error _, _) => none

end ProviderEvent

def deliverAll (account : RoutedWhatsAppAccount) (events : List ProviderEvent) (db : WebhookDb) : Option WebhookDb :=
  events.foldlM (fun db e => e.deliver account db) db

structure Profile where
  displayName : Option String := none
  lastSeenAt : Option Millis := none
deriving DecidableEq

structure Activity where
  lastMessageAt : Millis
  serviceWindowExpiresAt : Option Millis

structure Steps where
  status : StoredStatus
  sentAt : Millis
  deliveredAt : Option Millis := none
  readAt : Option Millis := none

def Profile.see (displayName : Option String) (seenAt : Millis) (p : Profile) : Profile where
  displayName := displayName.or p.displayName
  lastSeenAt := some (p.lastSeenAt.elim seenAt (max · seenAt))

def Activity.advance (sentAt : Millis) (a : Activity) : Activity :=
  if a.lastMessageAt < sentAt then
    { lastMessageAt := sentAt, serviceWindowExpiresAt := some (serviceWindowEnd sentAt) }
  else a

def Steps.stamp (status : MessageStatus) (at_ : Millis) (s : Steps) : Steps :=
  match status with
  | .delivered => { s with status := .ladder status, deliveredAt := some at_ }
  | .read => { s with status := .ladder status, readAt := some at_ }
  | .queued | .sent | .failed => { s with status := .ladder status }

/-- A receipt that creates its message. -/
def Steps.placeholder (status : MessageStatus) (at_ : Millis) : Steps :=
  Steps.stamp status at_ { status := .ladder status, sentAt := at_ }

def Steps.Advances (status : MessageStatus) (s : Steps) : Prop :=
  ∃ source ∈ advanceableFrom status, s.status = .ladder source

instance (status : MessageStatus) (s : Steps) : Decidable (s.Advances status) :=
  inferInstanceAs (Decidable (∃ source ∈ advanceableFrom status, s.status = .ladder source))

def Steps.advance (status : MessageStatus) (at_ : Millis) (s : Steps) : Steps :=
  if s.Advances status then s.stamp status at_ else s

/-- A contact of a tenant: its own columns, its thread on each number, and the tenant's messages by the provider's
    id. -/
@[ext] structure Feed where
  contact : Option Profile
  thread : Uuid → Option Activity
  message : String → Option Steps

namespace Feed

def see (displayName : Option String) (seenAt : Millis) (f : Feed) : Feed :=
  { f with contact := some ((f.contact.getD {}).see displayName seenAt) }

def openThread (whatsappAccountId : Uuid) (birth : Activity) (f : Feed) : Feed :=
  { f with thread := Function.update f.thread whatsappAccountId (some ((f.thread whatsappAccountId).getD birth)) }

def advance (whatsappAccountId : Uuid) (sentAt : Millis) (f : Feed) : Feed :=
  { f with
    thread := Function.update f.thread whatsappAccountId ((f.thread whatsappAccountId).map (·.advance sentAt)) }

def store (id : String) (steps : Steps) (f : Feed) : Feed :=
  { f with message := Function.update f.message id (some steps) }

def messageBirth (sentAt : Millis) : Activity := ⟨sentAt, some (serviceWindowEnd sentAt)⟩

def receiptBirth (at_ : Millis) : Activity := ⟨at_, none⟩

/-- An inbound message: one that is stored already only shows its sender. -/
def applyMessage (whatsappAccountId : Uuid) (message : WhatsAppInboundMessage) (displayName : Option String)
    (f : Feed) : Feed :=
  let shown := (f.see displayName message.timestamp).openThread whatsappAccountId (messageBirth message.timestamp)
  match f.message message.id with
  | some _ => shown
  | none =>
    (shown.store message.id { status := .received, sentAt := message.timestamp }).advance whatsappAccountId
      message.timestamp

def applyReceipt (whatsappAccountId : Uuid) (id : String) (status : MessageStatus) (at_ : Millis) (f : Feed) : Feed :=
  match f.message id with
  | some steps => f.store id (steps.advance status at_)
  | none =>
    ((f.see none at_).openThread whatsappAccountId (receiptBirth at_)).store id (Steps.placeholder status at_)

/-- One event of the contact on one of the tenant's numbers. -/
def applyEvent (whatsappAccountId : Uuid) (e : ProviderEvent) (f : Feed) : Feed :=
  match e with
  | .message message displayName => f.applyMessage whatsappAccountId message displayName
  | .receipt update =>
    match toMessageStatus update.status with
    | none => f
    | some status => f.applyReceipt whatsappAccountId update.id status update.timestamp

end Feed

variable {whatsappAccountId : Uuid} {displayName : Option String} {α : Type} {update : WhatsAppMessageStatusUpdate}
  {status : MessageStatus}

theorem Feed.openThread_of_some {f : Feed}
    (h : f.thread whatsappAccountId = some a) (birth : Activity) : f.openThread whatsappAccountId birth = f := by
  have hsame : some ((f.thread whatsappAccountId).getD birth) = f.thread whatsappAccountId := by
    rw [h]
    rfl
  rw [Feed.openThread, hsame, Function.update_eq_self]

def Contact.profile (c : Contact) : Profile := ⟨c.displayName, c.lastSeenAt⟩

def InboundConversation.activity (c : InboundConversation) : Activity := ⟨c.lastMessageAt, c.serviceWindowExpiresAt⟩

def InboundMessage.steps (m : InboundMessage) : Steps := ⟨m.status, m.sentAt, m.deliveredAt, m.readAt⟩

def WebhookDb.findThread (db : WebhookDb) (tenantId : Uuid) (phoneE164 : String) (whatsappAccountId : Uuid) :
    Option InboundConversation :=
  (db.findContact tenantId phoneE164).bind fun c => db.findConversation tenantId whatsappAccountId c.id

def WebhookDb.feed (db : WebhookDb) (tenantId : Uuid) (phoneE164 : String) : Feed where
  contact := (db.findContact tenantId phoneE164).map Contact.profile
  thread whatsappAccountId := (db.findThread tenantId phoneE164 whatsappAccountId).map InboundConversation.activity
  message id := (db.findMessage tenantId id).map InboundMessage.steps

/-- The foreign key of the threads. -/
def WebhookDb.Attached (db : WebhookDb) : Prop :=
  ∀ v ∈ db.conversations, ∃ c ∈ db.contacts, c.tenantId = v.tenantId ∧ c.id = v.contactId

instance (db : WebhookDb) : Decidable db.Attached := List.decidableBAll _ db.conversations

/-- What Postgres enforces. -/
structure Kept (db : WebhookDb) : Prop extends Consistent db where
  attached : db.Attached

section Writes

variable {db db' : WebhookDb} {tenantId : Uuid} {phoneE164 : String}

theorem Contact.seen_or_same (c : Contact) (t : Millis) :
    (if Contact.seenBefore c.tenantId c.id t c then c.see t else c).lastSeenAt =
      some (c.lastSeenAt.elim t (max · t)) := by
  cases hseen : c.lastSeenAt with
  | none => simp [Contact.seenBefore, hseen, Contact.see]
  | some last =>
    by_cases hlast : last < t
    · simp [Contact.seenBefore, hseen, hlast, Contact.see, max_eq_right (Int.le_of_lt hlast)]
    · simp [Contact.seenBefore, hseen, hlast, max_eq_left (Int.not_lt.mp hlast)]

variable {c : Contact} {t : Millis} {rows : List InboundRow} {v : InboundConversation}

theorem findContact_some (h : db.findContact tenantId phoneE164 = some c) :
    c ∈ db.contacts ∧ c.tenantId = tenantId ∧ c.phoneE164 = phoneE164 := by
  exact of_find? h

theorem findConversation_of_fresh (hdb : db.Attached) (hfresh : ∀ c ∈ db.contacts, c.id ≠ contactId)
    (whatsappAccountId : Uuid) : db.findConversation tenantId whatsappAccountId contactId = none := by
  apply List.find?_eq_none.mpr
  intro v hv hkey
  obtain ⟨c, hc, _, hid⟩ := hdb v hv
  simp only [decide_eq_true_eq] at hkey
  exact hfresh c hc (hid.trans hkey.2.2)

/-- The contact after the upsert: the columns it has, and that nothing else changed. -/
theorem upsertContact_cases (hdb : Kept db) {id : Uuid} (h : (InboundWrite.upsertContact id tenantId phoneE164 displayName t).apply db = .ok (rows, db')) :
    ∃ c, rows = [.contact c.id] ∧ db'.findContact tenantId phoneE164 = some c ∧
      c.displayName = displayName.or ((db.findContact tenantId phoneE164).bind (·.displayName)) ∧
      c.lastSeenAt = (db.findContact tenantId phoneE164).elim (some t) (·.lastSeenAt) ∧
      (∀ whatsappAccountId, db.findConversation tenantId whatsappAccountId c.id =
        db.findThread tenantId phoneE164 whatsappAccountId) ∧
      db' = { db with contacts := db'.contacts } ∧ db'.Attached := by
  simp only [InboundWrite.apply] at h
  split at h
  · rename_i c hc
    cases h
    have hnamed : Contact.named tenantId phoneE164 c = true := by
      simp [Contact.named, findContact_some hc]
    have hfind : (updateWhere (Contact.named tenantId phoneE164) (Contact.rename displayName) db.contacts).find?
        (fun c => c.tenantId = tenantId ∧ c.phoneE164 = phoneE164) = some (c.rename displayName) := by
      rw [find?_updateWhere (f := Contact.rename displayName) fun _ => rfl]
      exact (congrArg _ hc).trans (by simp [hnamed])
    refine ⟨c.rename displayName, rfl, hfind, ?_, ?_, ?_, rfl, ?_⟩
    · simp [hc, Contact.rename]
    · simp [hc, Contact.rename]
    · intro whatsappAccountId
      simp [WebhookDb.findThread, hc, Contact.rename]
    · intro v hv
      obtain ⟨c₀, hc₀, hkey⟩ := hdb.attached v hv
      refine ⟨_, mem_updateWhere_of_mem hc₀, ?_⟩
      split <;> exact hkey
  · rename_i hnone
    obtain ⟨hfresh, h⟩ := ok_of_ite h
    cases h
    simp only [Bool.not_eq_true, List.any_eq_false, decide_eq_true_eq] at hfresh
    refine ⟨{ id, tenantId, phoneE164, displayName, lastSeenAt := some t }, rfl, ?_, ?_, ?_, ?_, rfl, ?_⟩
    · simp only [WebhookDb.findContact] at hnone ⊢
      rw [List.find?_append, hnone]
      simp
    · simp [hnone]
    · simp [hnone]
    · intro whatsappAccountId
      rw [findConversation_of_fresh hdb.attached hfresh]
      simp [WebhookDb.findThread, hnone]
    · intro v hv
      obtain ⟨c₀, hc₀, hkey⟩ := hdb.attached v hv
      exact ⟨c₀, List.mem_append_left _ hc₀, hkey⟩

theorem exec_consistent {p : WriterTx α} (hdb : Consistent db)
    (h : p.exec inboundWrites db = .ok (a, db')) : Consistent db' :=
  Tx.exec_keeps (K := Consistent) (fun _ _ _ _ hs happly => apply_consistent hs happly) hdb h

theorem upsertContact_feed (hdb : Kept db) {id : Uuid}
    (h : (upsertContact id tenantId phoneE164 displayName t).exec inboundWrites db = .ok (contactId, db')) :
    Kept db' ∧ (∃ c, db'.findContact tenantId phoneE164 = some c ∧ c.id = contactId) ∧
      db'.feed tenantId phoneE164 = (db.feed tenantId phoneE164).see displayName t := by
  have hconsistent := exec_consistent hdb.toConsistent h
  simp only [upsertContact, Tx.bind_def, Tx.bind_execute, Tx.exec] at h
  split at h
  · rename_i rows db₁ hupsert
    obtain ⟨c, rfl, hfind, hname, hseen, hthread, hrest, hattached⟩ := upsertContact_cases hdb hupsert
    obtain ⟨_, htenant, _⟩ := findContact_some hfind
    simp only [List.findSome?, orThrow, Tx.pure_def, Tx.bind_pure_left, Tx.exec, inboundWrites, InboundWrite.apply,
      Except.ok.injEq, Prod.mk.injEq] at h
    obtain ⟨rfl, rfl⟩ := h
    have hlast := Contact.seen_or_same c t
    rw [htenant] at hlast
    generalize hc' : (if Contact.seenBefore tenantId c.id t c then c.see t else c) = c' at hlast
    have hid' : c'.id = c.id := by
      rw [← hc']
      split <;> rfl
    have hname' : c'.displayName = c.displayName := by
      rw [← hc']
      split <;> rfl
    have hfind' : (updateWhere (Contact.seenBefore tenantId c.id t) (Contact.see t) db₁.contacts).find?
        (fun c => c.tenantId = tenantId ∧ c.phoneE164 = phoneE164) = some c' := by
      rw [find?_updateWhere (f := Contact.see t) fun _ => rfl, ← hc']
      exact congrArg (Option.map _) hfind
    refine ⟨⟨hconsistent, ?_⟩, ⟨c', hfind', hid'⟩, ?_⟩
    · intro v hv
      obtain ⟨c₀, hc₀, hkey⟩ := hattached v hv
      refine ⟨_, mem_updateWhere_of_mem hc₀, ?_⟩
      split <;> exact hkey
    · have hprofile : c'.profile = (((db.findContact tenantId phoneE164).map Contact.profile).getD {}).see displayName t := by
        simp only [Contact.profile, Profile.see, hname', hname, hlast, hseen]
        cases db.findContact tenantId phoneE164 <;> simp [Contact.profile]
      rw [hrest]
      apply Feed.ext
      · exact (congrArg (Option.map Contact.profile) hfind').trans (congrArg some hprofile)
      · funext whatsappAccountId
        exact congrArg (Option.map InboundConversation.activity)
          ((congrArg (Option.bind · _) hfind').trans ((congrArg _ hid').trans (hthread whatsappAccountId)))
      · rfl
  · cases h

/-- A thread that is there stays as it is, and one that is not is born. -/
theorem openConversation_cases (h : (InboundWrite.openConversation v).apply db = .ok (rows, db')) :
    (rows = [] ∧ db' = db) ∨
      (rows = [.conversation v.id] ∧ db' = { db with conversations := db.conversations ++ [v] } ∧
        db.findConversation v.tenantId v.whatsappAccountId v.contactId = none) := by
  simp only [InboundWrite.apply] at h
  split at h
  · cases h
    exact .inl ⟨rfl, rfl⟩
  · rename_i hclash
    cases (ok_of_ite h).2
    refine .inr ⟨rfl, rfl, List.find?_eq_none.mpr fun v' hv' hkey => hclash ?_⟩
    simp only [decide_eq_true_eq] at hkey
    refine List.any_eq_true.mpr ⟨v', hv', decide_eq_true ⟨Option.some_ne_none _, ?_⟩⟩
    simp [InboundConversation.threadEntry, hkey]

theorem findThread_concat (hc : db.findContact tenantId phoneE164 = some c) (htenant : v.tenantId = tenantId) (hcontact : v.contactId = c.id)
    (hnone : db.findConversation tenantId v.whatsappAccountId c.id = none) :
    WebhookDb.findThread { db with conversations := db.conversations ++ [v] } tenantId phoneE164 =
      Function.update (db.findThread tenantId phoneE164) v.whatsappAccountId (some v) := by
  funext whatsappAccountId
  have hc' : WebhookDb.findContact { db with conversations := db.conversations ++ [v] } tenantId phoneE164 = some c := hc
  simp only [WebhookDb.findThread, hc', Option.bind_some, WebhookDb.findConversation, List.find?_append]
  by_cases haccount : whatsappAccountId = v.whatsappAccountId
  · subst haccount
    simp only [WebhookDb.findConversation] at hnone
    rw [hnone]
    simp [htenant, hcontact]
  · simp [Function.update_of_ne haccount, WebhookDb.findThread, hc, WebhookDb.findConversation, Ne.symm haccount]

theorem feed_eq_of_findThread {v : Option InboundConversation} (hthread : db'.findThread tenantId phoneE164 =
      Function.update (db.findThread tenantId phoneE164) whatsappAccountId v)
    (hcontact : db'.findContact tenantId phoneE164 = db.findContact tenantId phoneE164)
    (hmessages : db'.messages = db.messages) : db'.feed tenantId phoneE164 = { db.feed tenantId phoneE164 with
      thread := Function.update (db.feed tenantId phoneE164).thread whatsappAccountId
        (v.map InboundConversation.activity) } := by
  simp only [WebhookDb.feed, hcontact, hthread, WebhookDb.findMessage, hmessages, Feed.mk.injEq, true_and, and_true]
  exact Function.comp_update (Option.map InboundConversation.activity) _ _ _

theorem upsertConversation_feed (hdb : Kept db) {account : RoutedWhatsAppAccount}
    (hc : db.findContact account.tenantId phoneE164 = some c) {id : Uuid}
    (h : (upsertConversation id account c.id t window).exec inboundWrites db = .ok (conversationId, db')) :
    Kept db' ∧ (∃ v, db'.findThread account.tenantId phoneE164 account.whatsappAccountId = some v ∧
      v.id = conversationId) ∧ db'.feed account.tenantId phoneE164 =
        (db.feed account.tenantId phoneE164).openThread account.whatsappAccountId ⟨t, window⟩ := by
  have hconsistent := exec_consistent hdb.toConsistent h
  simp only [upsertConversation, Tx.bind_def, Tx.bind_execute, Tx.exec] at h
  split at h
  · rename_i rows db₁ hopen
    rcases openConversation_cases hopen with ⟨rfl, rfl⟩ | ⟨rfl, rfl, hnone⟩
    · simp only [ne_eq, not_true_eq_false, if_false, Tx.bind_query, Tx.exec] at h
      cases hfound : db₁.findConversation account.tenantId account.whatsappAccountId c.id with
      | none =>
        rw [hfound] at h
        cases h
      | some v =>
        rw [hfound] at h
        cases h
        have hthread : db'.findThread account.tenantId phoneE164 account.whatsappAccountId = some v := by
          simp [WebhookDb.findThread, hc, hfound]
        have hactivity : (db'.feed account.tenantId phoneE164).thread account.whatsappAccountId = some v.activity :=
          congrArg (Option.map InboundConversation.activity) hthread
        exact ⟨hdb, ⟨v, hthread, rfl⟩, (Feed.openThread_of_some hactivity _).symm⟩
    · cases h
      obtain ⟨hmem, htenant, _⟩ := findContact_some hc
      have hthread := findThread_concat hc rfl rfl hnone
      refine ⟨⟨hconsistent, ?_⟩, ⟨_, (congrFun hthread _).trans (Function.update_self _ _ _), rfl⟩, ?_⟩
      · intro v hv
        rcases mem_snoc.mp hv with hv | rfl
        · exact hdb.attached v hv
        · exact ⟨c, hmem, htenant, rfl⟩
      · have hborn : (db.feed account.tenantId phoneE164).thread account.whatsappAccountId = none := by
          simpa [WebhookDb.feed, WebhookDb.findThread, hc] using hnone
        rw [feed_eq_of_findThread hthread rfl rfl, Feed.openThread, hborn]
        rfl
  · cases h

theorem createMessage_feed (hdb : Kept db) {m : InboundMessage} {id : String} (hid : m.providerMessageId = some id)
    (h : (InboundWrite.createMessage m).apply db = .ok (rows, db')) :
    (rows = [] ∧ db' = db ∧ (∃ m', db.findMessage m.tenantId id = some m')) ∨
      (rows ≠ [] ∧ Kept db' ∧ db.findMessage m.tenantId id = none ∧
        db' = { db with messages := db'.messages } ∧ ∀ phoneE164,
          db'.feed m.tenantId phoneE164 = (db.feed m.tenantId phoneE164).store id m.steps) := by
  have hkept := apply_consistent hdb.toConsistent h
  simp only [InboundWrite.apply] at h
  split at h
  · rename_i hclash
    cases h
    obtain ⟨m', hm', hentry⟩ := List.any_eq_true.mp hclash
    obtain ⟨_, hentry⟩ := of_decide_eq_true hentry
    simp only [InboundMessage.providerEntry, hid, Option.map_some] at hentry
    obtain ⟨id', hid', hkey⟩ := Option.map_eq_some_iff.mp hentry.symm
    obtain ⟨htenant, rfl⟩ := Prod.mk.inj hkey
    refine .inl ⟨rfl, rfl, Option.isSome_iff_exists.mp (List.find?_isSome.mpr ⟨m', hm', ?_⟩)⟩
    simp [hid', htenant]
  · rename_i hclash
    split at h
    · cases h
      have hnone : db.findMessage m.tenantId id = none := by
        refine List.find?_eq_none.mpr fun m' hm' hkey => hclash ?_
        simp only [decide_eq_true_eq] at hkey
        refine List.any_eq_true.mpr ⟨m', hm', decide_eq_true ⟨?_, ?_⟩⟩ <;>
          simp [InboundMessage.providerEntry, hid, hkey]
      refine .inr ⟨List.cons_ne_nil _ _, ⟨hkept, hdb.attached⟩, hnone, rfl, fun phoneE164 => ?_⟩
      refine Feed.ext rfl rfl (funext fun id' => ?_)
      simp only [WebhookDb.findMessage] at hnone
      simp only [WebhookDb.feed, WebhookDb.findMessage, List.find?_append, Feed.store]
      by_cases hother : id' = id
      · subst hother
        rw [hnone]
        simp [hid]
      · simp [Function.update_of_ne hother, hid, Ne.symm hother]
    · cases h

theorem InboundConversation.activity_advanced (tenantId conversationId : Uuid) (sentAt : Millis)
    (v : InboundConversation) :
    (if v.activeBefore tenantId conversationId sentAt then v.advance sentAt else v).activity =
      if v.named tenantId conversationId then v.activity.advance sentAt else v.activity := by
  cases hnamed : v.named tenantId conversationId with
  | false => simp [InboundConversation.activeBefore, hnamed]
  | true =>
    by_cases hlast : v.lastMessageAt < sentAt <;>
      simp [InboundConversation.activeBefore, hnamed, hlast, InboundConversation.advance, Activity.advance,
        InboundConversation.activity]

theorem advanceConversation_feed (hdb : Kept db) (hv : db.findThread tenantId phoneE164 whatsappAccountId = some v)
    (h : (advanceConversation tenantId v.id sentAt).exec inboundWrites db = .ok (u, db')) :
    Kept db' ∧ db'.feed tenantId phoneE164 = (db.feed tenantId phoneE164).advance whatsappAccountId sentAt := by
  have hconsistent := exec_consistent hdb.toConsistent h
  cases h
  obtain ⟨c, hc, hfound⟩ := Option.bind_eq_some_iff.mp hv
  have hvmem := List.mem_of_find?_eq_some hfound
  have hvkey := (of_find? hfound).2
  refine ⟨⟨hconsistent, ?_⟩, Feed.ext rfl (funext fun a => ?_) rfl⟩
  · intro v' hv'
    obtain ⟨v₁, hv₁, hcase⟩ := mem_updateWhere hv'
    obtain ⟨v₀, hv₀, hcase'⟩ := mem_updateWhere hv₁
    have hkey : v'.tenantId = v₀.tenantId ∧ v'.contactId = v₀.contactId := by
      rcases hcase with ⟨_, rfl⟩ | ⟨_, rfl⟩ <;> rcases hcase' with ⟨_, rfl⟩ | ⟨_, rfl⟩ <;> exact ⟨rfl, rfl⟩
    rw [hkey.1, hkey.2]
    exact hdb.attached v₀ hv₀
  · simp only [WebhookDb.feed, WebhookDb.findThread, WebhookDb.findContact] at hc ⊢
    simp only [hc, Option.bind_some, WebhookDb.findConversation]
    rw [find?_updateWhere (f := InboundConversation.advance sentAt) fun _ => rfl,
      find?_updateWhere (f := InboundConversation.countUnread) fun _ => rfl]
    have hactivity : ∀ v' : InboundConversation,
        (let counted := if v'.named tenantId v.id then v'.countUnread else v'
         if counted.activeBefore tenantId v.id sentAt then counted.advance sentAt else counted).activity =
          if v'.named tenantId v.id then v'.activity.advance sentAt else v'.activity := by
      intro v'
      rw [InboundConversation.activity_advanced]
      cases hnamed : v'.named tenantId v.id with
      | false => simp [hnamed]
      | true =>
        have hcounted : v'.countUnread.named tenantId v.id = true := hnamed
        simp only [if_true, hcounted]
        rfl
    have hother : ∀ v', db.conversations.find? (fun v => v.tenantId = tenantId ∧ v.whatsappAccountId = a ∧
        v.contactId = c.id) = some v' → (v'.named tenantId v.id = true ↔ a = whatsappAccountId) := by
      intro v' hv'
      have hkey := (of_find? hv').2
      simp only [InboundConversation.named, decide_eq_true_eq]
      constructor
      · rintro ⟨_, hid⟩
        have heq := hdb.indexed.conversationId.eq_of_entry (List.mem_of_find?_eq_some hv') hvmem (congrArg some hid) rfl
        rw [← hkey.2.1, heq, hvkey.2.1]
      · rintro rfl
        rw [Option.some.inj (hv'.symm.trans hfound)]
        exact ⟨hvkey.1, rfl⟩
    by_cases ha : a = whatsappAccountId
    · subst ha
      have hself := (hother v hfound).mpr rfl
      simp only [WebhookDb.findConversation] at hfound
      simp only [hfound, Option.map_some, Feed.advance, Function.update_self]
      exact congrArg some ((hactivity v).trans (if_pos hself))
    · simp only [Feed.advance, Function.update_of_ne ha]
      cases hv' : db.conversations.find? fun v => v.tenantId = tenantId ∧ v.whatsappAccountId = a ∧
          v.contactId = c.id with
      | none => rfl
      | some v' => exact congrArg some ((hactivity v').trans (if_neg fun h => ha ((hother v' hv').mp h)))

theorem InboundMessage.steps_stamp (status : MessageStatus) (at_ : Millis) (m : InboundMessage) :
    (m.stamp status at_).steps = m.steps.stamp status at_ := by
  cases status <;> rfl

theorem advanceMessageStatus_feed (hdb : Kept db) (hm : db.findMessage tenantId update.id = some m)
    (h : (advanceMessageStatus tenantId update status).exec inboundWrites db = .ok (advanced, db')) :
    Kept db' ∧ db'.feed tenantId phoneE164 =
      (db.feed tenantId phoneE164).store update.id (m.steps.advance status update.timestamp) := by
  have hconsistent := exec_consistent hdb.toConsistent h
  obtain ⟨htenant, hid⟩ : m.tenantId = tenantId ∧ m.providerMessageId = some update.id := by
    simpa using List.find?_some hm
  have hguard : InboundMessage.advanceable tenantId update.id status m = true ↔ m.steps.Advances status := by
    simp [InboundMessage.advanceable, htenant, hid, Steps.Advances, InboundMessage.steps]
  simp only [advanceMessageStatus, Tx.bind_def, Tx.bind_execute] at h
  split at h
  · rename_i hnever
    cases h
    have hstays : m.steps.advance status update.timestamp = m.steps := by simp [Steps.advance, Steps.Advances, hnever]
    have hsame : (db.feed tenantId phoneE164).message update.id = some m.steps := by simp [WebhookDb.feed, hm]
    refine ⟨hdb, Feed.ext rfl rfl ?_⟩
    rw [hstays, Feed.store, ← hsame, Function.update_eq_self]
  · cases h
    refine ⟨⟨hconsistent, hdb.attached⟩, Feed.ext rfl rfl (funext fun id => ?_)⟩
    have hkey : ∀ m' : InboundMessage, (m'.stamp status update.timestamp).tenantId = m'.tenantId ∧
        (m'.stamp status update.timestamp).providerMessageId = m'.providerMessageId := by
      intro m'
      cases status <;> exact ⟨rfl, rfl⟩
    simp only [WebhookDb.feed, WebhookDb.findMessage] at hm ⊢
    rw [find?_updateWhere (f := InboundMessage.stamp status update.timestamp) fun m' => by simp only [hkey],
      Option.map_map]
    by_cases hother : id = update.id
    · subst hother
      simp only [hm, Option.map_some, Feed.store, Function.update_self, Function.comp_apply]
      by_cases hadvances : m.steps.Advances status
      · simp only [if_pos (hguard.mpr hadvances), InboundMessage.steps_stamp, Steps.advance, if_pos hadvances]
      · simp only [if_neg fun h => hadvances (hguard.mp h), Steps.advance, if_neg hadvances]
    · simp only [Feed.store, Function.update_of_ne hother]
      apply Option.map_congr
      intro m' hm'
      have hkey' := (of_find? hm').2
      have hnot : InboundMessage.advanceable tenantId update.id status m' = false := by
        simp [InboundMessage.advanceable, hkey', hother]
      simp [hnot]

end Writes

section Transactions

variable {db db' : WebhookDb} {phoneE164 : String}

theorem tenantTransaction_exec {tenantId : Uuid}
    (h : (tenantTransaction tenantId work).exec inboundWrites db = .ok r) : work.exec inboundWrites db = .ok r := by
  simp only [tenantTransaction, Tx.bind_def, Tx.bind_query, Tx.exec] at h
  split at h
  · exact h
  · cases h

theorem feed_message (db : WebhookDb) (tenantId : Uuid) (phoneE164 id : String) :
    (db.feed tenantId phoneE164).message id = (db.findMessage tenantId id).map InboundMessage.steps := rfl

theorem inboundTransaction_feed (hdb : Kept db) {message : WhatsAppInboundMessage}
    (h : (inboundTransaction ids account message phoneE164 displayName).exec inboundWrites db = .ok (applied, db')) :
    Kept db' ∧ db'.feed account.tenantId phoneE164 =
      (db.feed account.tenantId phoneE164).applyMessage account.whatsappAccountId message displayName := by
  replace h := tenantTransaction_exec h
  obtain ⟨contactId, db₁, hcontact, h₁⟩ := Tx.exec_bind.mp h
  obtain ⟨conversationId, db₂, hconversation, h₂⟩ := Tx.exec_bind.mp h₁
  obtain ⟨stored, db₃, hstore, h₃⟩ := Tx.exec_bind.mp h₂
  obtain ⟨hdb₁, ⟨c, hc, rfl⟩, hfeed₁⟩ := upsertContact_feed hdb hcontact
  obtain ⟨hdb₂, ⟨v, hv, rfl⟩, hfeed₂⟩ := upsertConversation_feed hdb₁ hc hconversation
  have hshown : db₂.feed account.tenantId phoneE164 = ((db.feed account.tenantId phoneE164).see displayName
      message.timestamp).openThread account.whatsappAccountId (Feed.messageBirth message.timestamp) := by
    rw [hfeed₂, hfeed₁]
    rfl
  have hmessage : (db.feed account.tenantId phoneE164).message = (db₂.feed account.tenantId phoneE164).message := by
    rw [hshown]
    rfl
  have hstore' : (InboundWrite.createMessage (message.row account.tenantId v.id)).apply db₂ = .ok (stored, db₃) :=
    Tx.exec_execute.mp hstore
  rw [Feed.applyMessage, hmessage, ← hshown]
  rcases createMessage_feed hdb₂ rfl hstore' with ⟨hrows, hsame, m, hm⟩ | ⟨hrows, hdb₃, hnone, hrest, hfeed₃⟩
  · have hstored : (db₂.feed account.tenantId phoneE164).message message.id = some m.steps :=
      congrArg (Option.map InboundMessage.steps) hm
    simp only [if_pos hrows, replayOf, Tx.bind_def, Tx.bind_query, Tx.exec, Tx.pure_def] at h₃
    cases h₃
    rw [hstored, hsame]
    exact ⟨hdb₂, rfl⟩
  · simp only [if_neg hrows] at h₃
    obtain ⟨u, db₄, hadvance, h₄⟩ := Tx.exec_bind.mp h₃
    cases h₄
    have hv₃ : db₃.findThread account.tenantId phoneE164 account.whatsappAccountId = some v := by
      rw [hrest]
      exact hv
    obtain ⟨hdb₄, hfeed₄⟩ := advanceConversation_feed hdb₃ hv₃ hadvance
    have habsent : (db₂.feed account.tenantId phoneE164).message message.id = none :=
      congrArg (Option.map InboundMessage.steps) hnone
    rw [habsent]
    refine ⟨hdb₄, hfeed₄.trans ?_⟩
    exact congrArg (Feed.advance account.whatsappAccountId message.timestamp) (hfeed₃ phoneE164)

theorem createStatusPlaceholder_feed (hdb : Kept db) (hnone : db.findMessage account.tenantId update.id = none)
    (h : (createStatusPlaceholder ids account update status phoneE164).exec inboundWrites db = .ok (created, db')) :
    created = true ∧ Kept db' ∧ db'.feed account.tenantId phoneE164 =
      (db.feed account.tenantId phoneE164).applyReceipt account.whatsappAccountId update.id status update.timestamp := by
  obtain ⟨contactId, db₁, hcontact, h₁⟩ := Tx.exec_bind.mp h
  obtain ⟨conversationId, db₂, hconversation, h₂⟩ := Tx.exec_bind.mp h₁
  obtain ⟨stored, db₃, hstore, h₃⟩ := Tx.exec_bind.mp h₂
  obtain ⟨hdb₁, ⟨c, hc, rfl⟩, hfeed₁⟩ := upsertContact_feed hdb hcontact
  obtain ⟨hdb₂, ⟨v, hv, rfl⟩, hfeed₂⟩ := upsertConversation_feed hdb₁ hc hconversation
  have hshown : db₂.feed account.tenantId phoneE164 = ((db.feed account.tenantId phoneE164).see none
      update.timestamp).openThread account.whatsappAccountId (Feed.receiptBirth update.timestamp) := by
    rw [hfeed₂, hfeed₁]
    rfl
  have hmessage : (db.feed account.tenantId phoneE164).message update.id = none := by
    rw [feed_message, hnone]
    rfl
  have hmessage₂ : (db₂.feed account.tenantId phoneE164).message update.id = none := by
    rw [hshown]
    exact hmessage
  have hstore' : (InboundWrite.createMessage (update.row account.tenantId v.id status)).apply db₂ = .ok (stored, db₃) :=
    Tx.exec_execute.mp hstore
  have hrow : (update.row account.tenantId v.id status).tenantId = account.tenantId ∧
      (update.row account.tenantId v.id status).providerMessageId = some update.id ∧
      (update.row account.tenantId v.id status).steps = Steps.placeholder status update.timestamp := by
    cases status <;> exact ⟨rfl, rfl, rfl⟩
  rcases createMessage_feed hdb₂ hrow.2.1 hstore' with ⟨rfl, rfl, m, hm⟩ | ⟨hrows, hdb₃, _, _, hfeed₃⟩
  · rw [hrow.1] at hm
    rw [feed_message, hm] at hmessage₂
    cases hmessage₂
  · cases h₃
    refine ⟨decide_eq_true hrows, hdb₃, ?_⟩
    have hfeed₃' := hfeed₃ phoneE164
    rw [hrow.1, hrow.2.2] at hfeed₃'
    rw [hfeed₃', hshown, Feed.applyReceipt, hmessage]

theorem statusTransaction_feed (hdb : Kept db)
    (h : (statusTransaction ids account update status phoneE164).exec inboundWrites db = .ok (u, db')) :
    Kept db' ∧ db'.feed account.tenantId phoneE164 =
      (db.feed account.tenantId phoneE164).applyReceipt account.whatsappAccountId update.id status update.timestamp := by
  replace h := tenantTransaction_exec h
  simp only [Tx.bind_def, Tx.bind_query, Tx.exec] at h
  obtain ⟨created, db₁, hcreate, h⟩ := Tx.exec_bind.mp h
  cases hfound : db.findMessage account.tenantId update.id with
  | none =>
    rw [hfound] at hcreate h
    obtain ⟨rfl, hdb₁, hfeed₁⟩ := createStatusPlaceholder_feed hdb hfound hcreate
    cases h
    exact ⟨hdb₁, hfeed₁⟩
  | some =>
    rw [hfound] at hcreate h
    cases hcreate
    simp only [Bool.false_eq_true, if_false, reduceCtorEq, and_false] at h
    obtain ⟨advanced, db₂, hadvance, h⟩ := Tx.exec_bind.mp h
    cases h
    obtain ⟨hdb₂, hfeed₂⟩ := advanceMessageStatus_feed hdb hfound hadvance
    refine ⟨hdb₂, hfeed₂.trans ?_⟩
    rw [Feed.applyReceipt, feed_message, hfound]
    rfl

/-- A transaction that was answered ran, on ids the call had drawn. -/
theorem generating_ok {work : GeneratedIds → WriterTx α} (h : (generating work).alone db = (.ok a, db')) :
    ∃ ids uuids deliveries, (work ids).exec inboundWrites { db with uuids, deliveries } = .ok (a, db') := by
  simp only [generating, drawUuid, attempt, drawDelivery, Prog.bind_def, Prog.bind_stmt, Prog.alone] at h
  split at h
  · rw [Tx.run_alone (fun w s s' => apply_nothing) rfl, Tx.exec_retag] at h
    split at h
    · rename_i hexec
      cases h
      exact ⟨_, _, _, hexec⟩
    · cases h
  · cases h
  · rw [Prog.alone_bind] at h
    cases h

theorem answered {p : WebhookProg (Except WebhookError α)} {routable : Bool}
    (h : (p.bind fun applied => pure (applied.map fun _ => true)).alone db = (.ok routable, db')) :
    ∃ a, p.alone db = (.ok a, db') := by
  rw [Prog.alone_bind] at h
  obtain ⟨hanswer, hdb'⟩ := Prod.mk.inj h
  cases ha : (p.alone db).1 with
  | error =>
    rw [ha] at hanswer
    cases hanswer
  | ok a => exact ⟨a, Prod.ext ha hdb'⟩

theorem Kept.drawn (hdb : Kept db) (uuids : List Uuid) (deliveries : List Delivery) :
    Kept { db with uuids, deliveries } where
  indexed := { hdb.indexed with }
  linked := hdb.linked
  attached := hdb.attached

theorem deliver_feed (hdb : Kept db) {e : ProviderEvent} (hphone : e.phoneE164 = some phoneE164)
    (h : e.deliver account db = some db') : Kept db' ∧ db'.feed account.tenantId phoneE164 =
      (db.feed account.tenantId phoneE164).applyEvent account.whatsappAccountId e := by
  obtain ⟨routable, h⟩ : ∃ routable, (e.write account).alone db = (.ok routable, db') := by
    simp only [ProviderEvent.deliver] at h
    split at h
    · rename_i routable db₁ halone
      cases h
      exact ⟨routable, halone⟩
    · cases h
  cases e with
  | message message =>
    have hsource : toPhoneE164 message.source = some phoneE164 := hphone
    simp only [ProviderEvent.write, applyInboundMessage, hsource, Prog.bind_def] at h
    obtain ⟨applied, happlied⟩ := answered h
    obtain ⟨ids, uuids, deliveries, hexec⟩ := generating_ok happlied
    exact inboundTransaction_feed (hdb.drawn uuids deliveries) hexec
  | receipt update =>
    have hrecipient : toPhoneE164 update.recipientId = some phoneE164 := hphone
    simp only [ProviderEvent.write, applyStatusUpdate, hrecipient] at h
    cases hstatus : toMessageStatus update.status with
    | none =>
      rw [hstatus] at h
      cases h
      refine ⟨hdb, ?_⟩
      simp only [Feed.applyEvent, hstatus]
    | some =>
      simp only [hstatus, Prog.bind_def] at h
      obtain ⟨applied, happlied⟩ := answered h
      obtain ⟨ids, uuids, deliveries, hexec⟩ := generating_ok happlied
      simp only [Feed.applyEvent, hstatus]
      have htold := statusTransaction_feed (hdb.drawn uuids deliveries) hexec
      exact htold

theorem deliverAll_feed (hdb : Kept db)
    (hphone : ∀ e ∈ events, e.phoneE164 = some phoneE164) (h : deliverAll account events db = some db') :
    Kept db' ∧ db'.feed account.tenantId phoneE164 =
      events.foldl (fun f e => f.applyEvent account.whatsappAccountId e) (db.feed account.tenantId phoneE164) := by
  induction events generalizing db with
  | nil =>
    cases h
    exact ⟨hdb, rfl⟩
  | cons e events ih =>
    obtain ⟨db₁, hfirst, hrest⟩ := Option.bind_eq_some_iff.mp h
    obtain ⟨hdb₁, hfeed₁⟩ := deliver_feed hdb (hphone e List.mem_cons_self) hfirst
    rw [List.foldl_cons, ← hfeed₁]
    exact ih hdb₁ (fun e' he' => hphone e' (List.mem_cons_of_mem _ he')) hrest

end Transactions

end WhatsappCrm.Webhooks
